import Ngfw.Lib.Netip
import Ngfw.Lib.Numeral

/-!
# Addresses and prefixes as text

Every address without a zone, and every prefix of one, is read back from the text it is shown as.
-/

namespace Ngfw.Lib.Netip
open Text
open Nat (toDigits)
open Addr (string4)

@[simp] theorem toList_decimal (n : Nat) : (decimal n).toList = toDigits 10 n := by
  simp [decimal]

variable {s : List Char} {addr : Addr} {c : Char} {gs : List Nat} {bits : BitVec 128} {state result : GroupState}
  {n g : Nat} {p cidr : Prefix}

theorem notMem_decimal (other : digit c = none) : c ∉ toDigits 10 n := by
  intro member
  have read := digit_of_mem_decimal member
  rw [other] at read
  cases read

theorem parseOctet_decimal (small : n ≤ 255) : parseOctet (toDigits 10 n) = some n := by
  rw [parseOctet, if_neg (no_leading_zero n), digits_toDigits]
  simp [small]

theorem toList_string4 (bits : BitVec 32) : (string4 bits).toList =
    toDigits 10 (bits.toNat / 16777216 % 256) ++ '.' :: (toDigits 10 (bits.toNat / 65536 % 256) ++
      '.' :: (toDigits 10 (bits.toNat / 256 % 256) ++ '.' :: toDigits 10 (bits.toNat % 256))) := by
  simp [string4, Addr.octet, BitVec.toNat_ushiftRight, Nat.shiftRight_eq_div_pow]

theorem parseIPv4_string4 (bits : BitVec 32) : parseIPv4 (string4 bits).toList = some bits := by
  have dot : digit '.' = none := by decide
  have octet : ∀ n, parseOctet (toDigits 10 (n % 256)) = some (n % 256) := fun n =>
    parseOctet_decimal (by omega)
  rw [parseIPv4, toList_string4, splitOn_append (notMem_decimal dot), splitOn_append (notMem_decimal dot),
    splitOn_append (notMem_decimal dot), splitOn_of_notMem (notMem_decimal dot)]
  simp only [List.mapM_cons, List.mapM_nil, octet, Option.bind_eq_bind, Option.bind_some, Option.pure_def,
    Option.some.injEq]
  apply BitVec.eq_of_toNat_eq
  have bound := bits.isLt
  rw [BitVec.toNat_ofNat]
  omega

/-! ## Groups -/

theorem hexDigit_digitChar : ∀ d < 16, hexDigit (Nat.digitChar d) = some d := by
  decide

def colonText : List Nat → List Char
  | [] => []
  | [g] => toDigits 16 g
  | g :: gs => toDigits 16 g ++ ':' :: colonText gs

theorem colonText_cons (more : gs ≠ []) : colonText (g :: gs) = toDigits 16 g ++ ':' :: colonText gs := by
  cases gs with
  | nil => exact absurd rfl more
  | cons => rfl

theorem toList_join_hex (gs : List Nat) : (join ":" (gs.map Addr.hex)).toList = colonText gs := by
  induction gs with
  | nil => rfl
  | cons g gs ih =>
    cases gs with
    | nil => simp [join, colonText, Addr.hex]
    | cons h gs =>
      rw [colonText_cons (by simp), ← ih]
      simp [join, Addr.hex]

theorem hex_of_mem (member : c ∈ toDigits 16 n) : (hexDigit c).isSome :=
  (read_toDigits (by decide) hexDigit_digitChar n).2 c member

theorem takeWhile_hex (n : Nat) {rest : List Char} (stops : ∀ c ∈ rest.head?, hexDigit c = none) :
    (toDigits 16 n ++ rest).takeWhile (fun c => (hexDigit c).isSome) = toDigits 16 n := by
  rw [List.takeWhile_append_of_pos fun c member => hex_of_mem member]
  cases rest with
  | nil => simp
  | cons c rest => simp [stops c (by simp)]

def afterGroup (room : Nat) (rest : List Char) (state : GroupState) : Option GroupState :=
  match rest with
  | [] => some state
  | ':' :: ':' :: [] => if state.ellipsis.isSome then none else
      some { state with ellipsis := some state.groups.length }
  | ':' :: ':' :: more => if state.ellipsis.isSome then none else
      parseGroups room more { state with ellipsis := some state.groups.length }
  | ':' :: c :: more => parseGroups room (c :: more) state
  | _ => none

theorem parseGroups_group (small : g < 65536) (room : Nat) {rest : List Char} (state : GroupState)
    (colon : ∀ c ∈ rest.head?, c = ':') :
    parseGroups (room + 1) (toDigits 16 g ++ rest) state =
      afterGroup room rest { state with groups := state.groups ++ [g] } := by
  have run : (toDigits 16 g ++ rest).takeWhile (fun c => (hexDigit c).isSome) = toDigits 16 g :=
    takeWhile_hex g fun c member => by rw [colon c member]; rfl
  have short : (toDigits 16 g).length ≤ 4 := (Nat.length_toDigits_le_iff (by decide) (by decide)).mpr small
  have value := (read_toDigits (by decide) hexDigit_digitChar g).1
  have noDot : rest.head? ≠ some '.' := fun dot => absurd (colon '.' dot) (by decide)
  unfold digitsValue at value
  rw [parseGroups]
  simp only [run, List.drop_left, List.isEmpty_iff, Nat.toDigits_ne_nil, false_or, Nat.not_lt.mpr short, if_false,
    noDot, value]
  rfl

theorem colonText_head (nonempty : gs ≠ []) : ∃ c rest, colonText gs = c :: rest ∧ (hexDigit c).isSome := by
  cases gs with
  | nil => exact absurd rfl nonempty
  | cons g gs =>
    obtain ⟨c, digits, written⟩ := List.exists_cons_of_ne_nil (Nat.toDigits_ne_nil (b := 16) (n := g))
    have readable : (hexDigit c).isSome := hex_of_mem (written ▸ List.mem_cons_self)
    cases gs with
    | nil => exact ⟨c, digits, written, readable⟩
    | cons h gs => exact ⟨c, _, by rw [colonText_cons (by simp), written]; rfl, readable⟩

theorem afterGroup_next (group : c ≠ ':') (room : Nat) (rest : List Char) (state : GroupState) :
    afterGroup room (':' :: c :: rest) state = parseGroups room (c :: rest) state := by
  unfold afterGroup
  split <;> simp_all

theorem hexDigit_ne_colon (readable : (hexDigit c).isSome) : c ≠ ':' := by
  rintro rfl
  cases readable

theorem afterGroup_ellipsis (more : gs ≠ []) (room : Nat)
    (first : state.ellipsis = none) : afterGroup room (':' :: ':' :: colonText gs) state =
      parseGroups room (colonText gs) { state with ellipsis := some state.groups.length } := by
  obtain ⟨c, rest, written, -⟩ := colonText_head more
  rw [written]
  simp [afterGroup, first]

theorem parseGroups_append (nonempty : gs ≠ []) (small : ∀ g ∈ gs, g < 65536) (room : Nat)
    (fits : gs.length ≤ room) (tail : List Char) (colon : ∀ c ∈ tail.head?, c = ':') (state : GroupState) :
    parseGroups room (colonText gs ++ tail) state =
      afterGroup (room - gs.length) tail { state with groups := state.groups ++ gs } := by
  induction gs generalizing room state with
  | nil => exact absurd rfl nonempty
  | cons g gs ih =>
    have first := small g List.mem_cons_self
    rw [List.length_cons] at fits ⊢
    obtain ⟨room, rfl⟩ : ∃ fewer, room = fewer + 1 := ⟨room - 1, by omega⟩
    by_cases last : gs = []
    · subst last
      rw [colonText, parseGroups_group first _ _ colon]
      rfl
    · obtain ⟨c, rest, written, readable⟩ := colonText_head last
      have later := ih last (fun h member => small h (List.mem_cons_of_mem _ member)) room (by omega)
      rw [colonText_cons last, List.append_assoc, List.cons_append, parseGroups_group first _ _ (by simp)]
      rw [written, List.cons_append] at later ⊢
      rw [afterGroup_next (hexDigit_ne_colon readable), later, Nat.add_sub_add_right]
      simp [List.append_assoc]

theorem parseGroups_colonText (nonempty : gs ≠ []) (small : ∀ g ∈ gs, g < 65536) (room : Nat)
    (fits : gs.length ≤ room) (state : GroupState) :
    parseGroups room (colonText gs) state = some { state with groups := state.groups ++ gs } := by
  rw [← List.append_nil (colonText gs), parseGroups_append nonempty small room fits [] (by simp)]
  rfl

/-! ## Runs of zero groups -/

section
variable (bits : BitVec 128)

def groupsBetween (first last : Nat) : List Nat :=
  (List.range' first (last - first)).map (Addr.group bits)

theorem group_lt (index : Nat) : Addr.group bits index < 65536 :=
  Nat.mod_lt _ (by decide)

theorem groupsBetween_lt {bits : BitVec 128} {first last g : Nat} (member : g ∈ groupsBetween bits first last) :
    g < 65536 := by
  obtain ⟨index, -, rfl⟩ := List.mem_map.mp member
  exact group_lt bits index

theorem groupsBetween_append {first middle last : Nat} (before : first ≤ middle) (behind : middle ≤ last) :
    groupsBetween bits first middle ++ groupsBetween bits middle last = groupsBetween bits first last := by
  have split := @List.range'_append_1 first (middle - first) (last - middle)
  have next : first + (middle - first) = middle := by omega
  have whole : middle - first + (last - middle) = last - first := by omega
  rw [next, whole] at split
  rw [groupsBetween, groupsBetween, groupsBetween, ← List.map_append, split]

theorem joinGroups_groups : joinGroups (groupsBetween bits 0 8) = bits := by
  apply BitVec.eq_of_toNat_eq
  have bound := bits.isLt
  simp only [joinGroups, groupsBetween, List.range', List.map_cons, List.map_nil, List.foldl_cons, List.foldl_nil,
    Addr.group, BitVec.toNat_ofNat, BitVec.toNat_ushiftRight, Nat.shiftRight_eq_div_pow]
  omega

theorem filter_range : ∀ first ≤ 8, ∀ last ≤ 8, (List.range 8).filter (fun i => first ≤ i ∧ i < last) =
    List.range' first (last - first) := by
  decide

theorem drop_range : ∀ index ≤ 8, (List.range 8).drop index = List.range' index (8 - index) := by
  decide

def ZeroGroups (run : Nat × Nat) : Prop :=
  run.1 < run.2 ∧ run.2 ≤ 8 ∧ groupsBetween bits run.1 run.2 = List.replicate (run.2 - run.1) 0

theorem zeroGroups_zeroRun {index : Nat} (inside : index < 8) (positive : 0 < Addr.zeroRun bits index) :
    ZeroGroups bits (index, index + Addr.zeroRun bits index) := by
  let zeros := (List.range' index (8 - index)).takeWhile fun i => Addr.group bits i == 0
  have started : zeros <+: List.range' index (8 - index) := List.takeWhile_prefix _
  have length : zeros.length = Addr.zeroRun bits index := by
    rw [Addr.zeroRun, drop_range index (by omega)]
  have short : Addr.zeroRun bits index ≤ 8 - index := by
    rw [← length]
    exact started.length_le.trans_eq (by simp)
  refine ⟨by dsimp only; omega, by dsimp only; omega, List.eq_replicate_iff.mpr ⟨by simp [groupsBetween], ?_⟩⟩
  intro g member
  obtain ⟨place, listed, rfl⟩ := List.mem_map.mp member
  obtain ⟨low, high⟩ := List.mem_range'_1.mp listed
  have counted : place - index < zeros.length := by omega
  have here : zeros[place - index] = place := by
    rw [started.getElem counted, List.getElem_range']
    omega
  have zero := List.mem_takeWhile_imp (List.getElem_mem counted)
  rw [here] at zero
  simpa using zero

theorem longestZeroRun_cases :
    Addr.longestZeroRun bits = (255, 255) ∨ ZeroGroups bits (Addr.longestZeroRun bits) := by
  unfold Addr.longestZeroRun
  refine List.foldlRecOn (motive := fun best => best = (255, 255) ∨ ZeroGroups bits best) _ _ (.inl rfl) ?_
  intro best held index listed
  dsimp only
  split_ifs with longer
  · exact .inr (zeroGroups_zeroRun bits (List.mem_range.mp listed) (by omega))
  · exact held

theorem groupsText {first last : Nat} (low : first ≤ 8) (high : last ≤ 8) :
    (join ":" (((List.range 8).filter fun i => first ≤ i ∧ i < last).map fun i =>
      Addr.hex (Addr.group bits i))).toList = colonText (groupsBetween bits first last) := by
  rw [filter_range first low last high, ← toList_join_hex, groupsBetween, List.map_map]
  rfl

theorem toList_string6 : (Addr.string6 bits).toList = colonText (groupsBetween bits 0 8) ∨
    ∃ run, ZeroGroups bits run ∧ (Addr.string6 bits).toList =
      colonText (groupsBetween bits 0 run.1) ++ ':' :: ':' :: colonText (groupsBetween bits run.2 8) := by
  unfold Addr.string6
  dsimp only
  rcases longestZeroRun_cases bits with none | zeros
  · rw [none]
    exact .inl (groupsText bits (by decide) (by decide))
  · have before := zeros.1
    have behind := zeros.2.1
    refine .inr ⟨_, zeros, ?_⟩
    rw [if_pos (by omega), String.toList_append, String.toList_append, groupsText bits (by decide) (by omega),
      groupsText bits (by omega) (by decide), List.append_assoc]
    rfl

/-! ## IPv6 addresses -/

theorem expandGroups_all : expandGroups ⟨groupsBetween bits 0 8, none⟩ = some bits := by
  have length : (groupsBetween bits 0 8).length = 8 := by simp [groupsBetween]
  simp only [expandGroups, length, if_true, joinGroups_groups]

variable {bits} in
theorem expandGroups_run {run : Nat × Nat} (zeros : ZeroGroups bits run) :
    expandGroups ⟨groupsBetween bits 0 run.1 ++ groupsBetween bits run.2 8,
      some (groupsBetween bits 0 run.1).length⟩ = some bits := by
  obtain ⟨before, behind, replaced⟩ := zeros
  have missing : 8 - (groupsBetween bits 0 run.1 ++ groupsBetween bits run.2 8).length = run.2 - run.1 := by
    simp [groupsBetween]
    omega
  have short : (groupsBetween bits 0 run.1 ++ groupsBetween bits run.2 8).length < 8 := by omega
  simp only [expandGroups, if_pos short, List.take_left, List.drop_left, missing, ← replaced]
  rw [groupsBetween_append bits (Nat.zero_le _) before.le, groupsBetween_append bits (Nat.zero_le _) behind,
    joinGroups_groups]

end

def parseBody : List Char → Option GroupState
  | [':', ':'] => some ⟨[], some 0⟩
  | ':' :: ':' :: rest => parseGroups 8 rest ⟨[], some 0⟩
  | rest => parseGroups 8 rest ⟨[], none⟩

theorem parseIPv6_eq (noZone : '%' ∉ s) : parseIPv6 s = ((parseBody s).bind expandGroups).map (.v6 · "") := by
  unfold parseIPv6
  dsimp only
  rw [takeWhile_ne_self noZone, if_neg (by simp), List.drop_length]
  rfl

theorem parseBody_group (readable : (hexDigit c).isSome) (rest : List Char) :
    parseBody (c :: rest) = parseGroups 8 (c :: rest) ⟨[], none⟩ := by
  have noColon := hexDigit_ne_colon readable
  unfold parseBody
  split <;> simp_all

section
variable {bits : BitVec 128}

theorem parseBody_all : parseBody (colonText (groupsBetween bits 0 8)) = some ⟨groupsBetween bits 0 8, none⟩ := by
  have length : (groupsBetween bits 0 8).length = 8 := by simp [groupsBetween]
  have nonempty : groupsBetween bits 0 8 ≠ [] := List.ne_nil_of_length_eq_add_one length
  obtain ⟨c, rest, written, readable⟩ := colonText_head nonempty
  have read := parseGroups_colonText nonempty (fun _ => groupsBetween_lt) 8 length.le ⟨[], none⟩
  rw [written] at read ⊢
  rw [parseBody_group readable, read]
  rfl

theorem parseBody_run {run : Nat × Nat} (zeros : ZeroGroups bits run) :
    parseBody (colonText (groupsBetween bits 0 run.1) ++ ':' :: ':' :: colonText (groupsBetween bits run.2 8)) =
      some ⟨groupsBetween bits 0 run.1 ++ groupsBetween bits run.2 8,
        some (groupsBetween bits 0 run.1).length⟩ := by
  obtain ⟨before, behind, -⟩ := zeros
  have firstLength : (groupsBetween bits 0 run.1).length = run.1 := by simp [groupsBetween]
  have lastLength : (groupsBetween bits run.2 8).length = 8 - run.2 := by simp [groupsBetween]
  by_cases first : groupsBetween bits 0 run.1 = []
  · rw [first]
    by_cases last : groupsBetween bits run.2 8 = []
    · rw [last]
      rfl
    · obtain ⟨c, rest, written, -⟩ := colonText_head last
      have read := parseGroups_colonText last (fun _ => groupsBetween_lt) 8 (by omega) ⟨[], some 0⟩
      rw [written] at read ⊢
      exact read
  · obtain ⟨c, rest, written, readable⟩ := colonText_head first
    have read := parseGroups_append first (fun _ => groupsBetween_lt) 8 (by omega)
      (':' :: ':' :: colonText (groupsBetween bits run.2 8)) (by simp) ⟨[], none⟩
    rw [written, List.cons_append] at read ⊢
    rw [parseBody_group readable, read]
    by_cases last : groupsBetween bits run.2 8 = []
    · rw [last, List.append_nil]
      rfl
    · rw [afterGroup_ellipsis last _ rfl, parseGroups_colonText last (fun _ => groupsBetween_lt) _ (by omega)]
      rfl

theorem colonText_chars {gs : List Nat} {c : Char} (member : c ∈ colonText gs) : (hexDigit c).isSome ∨ c = ':' := by
  induction gs with
  | nil => cases member
  | cons g gs ih =>
    by_cases last : gs = []
    · subst last
      exact .inl (hex_of_mem member)
    · rw [colonText_cons last, List.mem_append, List.mem_cons] at member
      rcases member with digit | rfl | later
      · exact .inl (hex_of_mem digit)
      · exact .inr rfl
      · exact ih later

def addressChar (c : Char) : Bool :=
  (hexDigit c).isSome || c == ':' || c == '.'

theorem string6_chars : ∀ c ∈ (Addr.string6 bits).toList, (hexDigit c).isSome ∨ c = ':' := by
  intro c member
  rcases toList_string6 bits with written | ⟨run, -, written⟩
  · exact colonText_chars (written ▸ member)
  · rw [written, List.mem_append, List.mem_cons, List.mem_cons] at member
    rcases member with inFirst | rfl | rfl | inLast
    · exact colonText_chars inFirst
    · exact .inr rfl
    · exact .inr rfl
    · exact colonText_chars inLast

theorem colon_mem_colonText {g : Nat} {gs : List Nat} (more : gs ≠ []) : ':' ∈ colonText (g :: gs) := by
  rw [colonText_cons more]
  simp

theorem colon_mem_string6 : ':' ∈ (Addr.string6 bits).toList := by
  rcases toList_string6 bits with written | ⟨run, -, written⟩
  · rw [written]
    exact colon_mem_colonText (by simp)
  · simp [written]

theorem parseAddr_of_colon {s : List Char} (plain : ∀ c ∈ s, (hexDigit c).isSome ∨ c = ':') (colon : ':' ∈ s) :
    parseAddr s = parseIPv6 s := by
  have found : (s.find? fun c => c = '.' ∨ c = ':' ∨ c = '%').isSome := by
    rw [List.find?_isSome]
    exact ⟨':', colon, by decide⟩
  obtain ⟨c, found⟩ := Option.isSome_iff_exists.mp found
  have separator := List.find?_some found
  rw [decide_eq_true_eq] at separator
  rcases plain c (List.mem_of_find?_eq_some found) with readable | rfl
  · rcases separator with rfl | rfl | rfl <;> cases readable
  · rw [parseAddr, found]
    rfl

theorem parseAddr_string6 : parseAddr (Addr.string6 bits).toList = some (.v6 bits "") := by
  have noZone : '%' ∉ (Addr.string6 bits).toList := by
    intro member
    rcases string6_chars _ member with readable | colon
    · cases readable
    · cases colon
  rw [parseAddr_of_colon string6_chars colon_mem_string6, parseIPv6_eq noZone]
  rcases toList_string6 bits with written | ⟨run, zeros, written⟩
  · rw [written, parseBody_all, Option.bind_some, expandGroups_all]
    rfl
  · rw [written, parseBody_run zeros, Option.bind_some, expandGroups_run zeros]
    rfl

end

/-! ## Mapped addresses -/

theorem string4_head (quad : BitVec 32) : ∃ c rest, (string4 quad).toList = c :: rest ∧ (digit c).isSome := by
  obtain ⟨c, rest, written⟩ := List.exists_cons_of_ne_nil
    (Nat.toDigits_ne_nil (b := 10) (n := quad.toNat / 16777216 % 256))
  have readable : (digit c).isSome := digit_of_mem_decimal (written ▸ List.mem_cons_self)
  exact ⟨c, _, by rw [toList_string4, written]; rfl, readable⟩

theorem hexDigit_of_digit (read : (digit c).isSome) : (hexDigit c).isSome := by
  unfold digit at read
  unfold hexDigit
  split_ifs at read with decimal
  · rw [if_pos decimal]
    rfl
  · cases read

theorem parseGroups_string4 (quad : BitVec 32) (room : Nat) (ellipsis : state.ellipsis.isSome)
    (few : state.groups.length ≤ 6) :
    parseGroups (room + 1) (string4 quad).toList state =
      some { state with groups := state.groups ++ [quad.toNat / 65536, quad.toNat % 65536] } := by
  have small : quad.toNat / 16777216 % 256 ≤ 255 := by omega
  have run : (string4 quad).toList.takeWhile (fun c => (hexDigit c).isSome) =
      toDigits 10 (quad.toNat / 16777216 % 256) := by
    rw [toList_string4, List.takeWhile_append_of_pos fun c member => hexDigit_of_digit (digit_of_mem_decimal member)]
    simp [hexDigit]
  have short : (toDigits 10 (quad.toNat / 16777216 % 256)).length ≤ 4 :=
    (Nat.length_toDigits_le_iff (by decide) (by decide)).mpr (by omega)
  have dot : ((string4 quad).toList.drop (toDigits 10 (quad.toNat / 16777216 % 256)).length).head? =
      some '.' := by
    rw [toList_string4, List.drop_left]
    rfl
  have room_left : ¬ (state.ellipsis.isNone ∧ state.groups.length ≠ 6 ∨ 6 < state.groups.length) := by
    simp [Option.isSome_iff_ne_none.mp ellipsis]
    omega
  rw [parseGroups]
  simp only [run, List.isEmpty_iff, Nat.toDigits_ne_nil, false_or, Nat.not_lt.mpr short, if_false, dot, if_true,
    room_left, parseIPv4_string4, Option.map_some]

theorem joinGroups_mapped (mapped : bits >>> 32 = 0xffff#128) :
    expandGroups ⟨[65535, (bits.setWidth 32).toNat / 65536, (bits.setWidth 32).toNat % 65536], some 0⟩ =
      some bits := by
  have high : bits.toNat / 4294967296 = 65535 := by
    have shifted := congrArg BitVec.toNat mapped
    rwa [BitVec.toNat_ushiftRight, Nat.shiftRight_eq_div_pow] at shifted
  have joined : joinGroups [0, 0, 0, 0, 0, 65535, (bits.setWidth 32).toNat / 65536,
      (bits.setWidth 32).toNat % 65536] = bits := by
    apply BitVec.eq_of_toNat_eq
    have bound := bits.isLt
    simp only [joinGroups, List.foldl_cons, List.foldl_nil, BitVec.toNat_ofNat, BitVec.toNat_setWidth]
    omega
  exact congrArg some joined

theorem parseBody_mapped (quad : BitVec 32) : parseBody ("::ffff:" ++ string4 quad).toList =
    some ⟨[65535, quad.toNat / 65536, quad.toNat % 65536], some 0⟩ := by
  have group : toDigits 16 65535 = ['f', 'f', 'f', 'f'] := by decide
  obtain ⟨c, rest, written, readable⟩ := string4_head quad
  have read : parseGroups 8 (toDigits 16 65535 ++ ':' :: (string4 quad).toList) ⟨[], some 0⟩ =
      afterGroup 7 (':' :: (string4 quad).toList) ⟨[65535], some 0⟩ :=
    parseGroups_group (by decide) 7 _ (by simp)
  rw [written, afterGroup_next (hexDigit_ne_colon (hexDigit_of_digit readable)), ← written,
    parseGroups_string4 quad 6 rfl (by simp), group] at read
  rw [String.toList_append]
  exact read

theorem parseAddr_mapped (mapped : bits >>> 32 = 0xffff#128) :
    parseAddr ("::ffff:" ++ string4 (bits.setWidth 32)).toList = some (.v6 bits "") := by
  have noZone : '%' ∉ ("::ffff:" ++ string4 (bits.setWidth 32)).toList := by
    rw [String.toList_append, List.mem_append, not_or]
    exact ⟨by decide, notMem_quad (parseIPv4_string4 _) (by decide) (by decide)⟩
  have ipv6 : parseAddr ("::ffff:" ++ string4 (bits.setWidth 32)).toList =
      parseIPv6 ("::ffff:" ++ string4 (bits.setWidth 32)).toList := by
    rw [parseAddr, String.toList_append]
    rfl
  rw [ipv6, parseIPv6_eq noZone, parseBody_mapped, Option.bind_some, joinGroups_mapped mapped]
  rfl

/-! ## Addresses and prefixes -/

def Addr.plain : Addr → Bool
  | .zero => false
  | .v4 _ => true
  | .v6 _ zone => zone == ""

theorem parseAddr_string (plain : addr.plain = true) : parseAddr addr.string.toList = some addr := by
  cases addr with
  | zero => cases plain
  | v4 bits => exact parseAddr_of_parseIPv4 (parseIPv4_string4 bits)
  | v6 bits zone =>
    obtain rfl : zone = "" := by simpa [Addr.plain] using plain
    by_cases mapped : bits >>> 32 = 0xffff#128
    · simpa [Addr.string, Addr.is4In6, mapped] using parseAddr_mapped mapped
    · simpa [Addr.string, Addr.is4In6, mapped] using parseAddr_string6

theorem quad_chars {bits : BitVec 32} (quad : parseIPv4 s = some bits) (member : c ∈ s) : addressChar c = true := by
  rcases (parseIPv4_chars quad).1 c member with digit | rfl
  · simp [addressChar, hexDigit_of_digit digit]
  · decide

theorem string_chars (plain : addr.plain = true) : ∀ c ∈ addr.string.toList, addressChar c = true := by
  intro c member
  cases addr with
  | zero => cases plain
  | v4 bits => exact quad_chars (parseIPv4_string4 bits) member
  | v6 bits zone =>
    obtain rfl : zone = "" := by simpa [Addr.plain] using plain
    by_cases mapped : bits >>> 32 = 0xffff#128
    · simp only [Addr.string, Addr.is4In6, mapped, beq_self_eq_true, if_true, String.toList_append,
        List.mem_append] at member
      rcases member with lead | inQuad
      · exact List.all_eq_true.mp (by decide : "::ffff:".toList.all addressChar = true) c lead
      · exact quad_chars (parseIPv4_string4 _) inQuad
    · simp only [Addr.string, Addr.is4In6, mapped, beq_iff_eq, if_false, if_true] at member
      rcases string6_chars c member with digit | rfl
      · simp [addressChar, digit]
      · decide

theorem withoutZone_of_plain (plain : addr.plain = true) : addr.withoutZone = addr := by
  cases addr with
  | zero => cases plain
  | v4 bits => rfl
  | v6 bits zone =>
    obtain rfl : zone = "" := by simpa [Addr.plain] using plain
    rfl

theorem parsePrefix_string (plain : p.addr.plain = true) : parsePrefix p.string.toList = some p := by
  have noSlash : '/' ∉ p.addr.string.toList := fun member => absurd (string_chars plain _ member) (by decide)
  have fields : splitOn '/' p.string.toList = [p.addr.string.toList, toDigits 10 p.bits] := by
    rw [Prefix.string, String.toList_append, String.toList_append, List.append_assoc, toList_decimal]
    rw [← splitOn_of_notMem (notMem_decimal (c := '/') (by decide))]
    exact splitOn_append noSlash _
  rw [parsePrefix, fields]
  simp only [parseAddr_string plain, digits_toDigits, dif_pos p.bits_le, withoutZone_of_plain plain, ne_eq,
    not_true_eq_false, false_or, if_neg (no_leading_zero p.bits)]

/-! ## What is read -/

theorem parseAddr_cases (read : parseAddr s = some addr) :
    (∃ bits, parseIPv4 s = some bits ∧ addr = .v4 bits) ∨
      parseIPv6 s = some addr ∧ ∃ bits zone, addr = .v6 bits zone := by
  unfold parseAddr at read
  split at read
  · obtain ⟨bits, quad, same⟩ := Option.map_eq_some_iff.mp read
    exact .inl ⟨bits, quad, same.symm⟩
  · refine .inr ⟨read, ?_⟩
    unfold parseIPv6 at read
    dsimp only at read
    split_ifs at read
    obtain ⟨bits, -, same⟩ := Option.map_eq_some_iff.mp read
    exact ⟨bits, _, same.symm⟩
  · cases read

theorem afterGroup_chars {room : Nat} {rest : List Char} (read : afterGroup room rest state = some result)
    (later : ∀ s state, parseGroups room s state = some result → ∀ c ∈ s, addressChar c = true) :
    ∀ c ∈ rest, addressChar c = true := by
  unfold afterGroup at read
  split at read
  · simp
  · exact List.all_eq_true.mp (by decide)
  · split_ifs at read
    simpa [addressChar] using later _ _ read
  · simpa [addressChar] using later _ _ read
  · cases read

theorem parseGroups_chars {room : Nat}
    (read : parseGroups room s state = some result) : ∀ c ∈ s, addressChar c = true := by
  induction room generalizing s state with
  | zero =>
    unfold parseGroups at read
    split_ifs at read with empty
    simp [List.isEmpty_iff.mp empty]
  | succ room ih =>
    let run := s.takeWhile fun c => (hexDigit c).isSome
    have parts : run ++ s.drop run.length = s := List.prefix_iff_eq_append.mp (List.takeWhile_prefix _)
    have digits : ∀ c ∈ run, addressChar c = true := by
      intro c member
      have readable := List.mem_takeWhile_imp member
      simp [addressChar, readable]
    have unfolded : parseGroups (room + 1) s state = if run.isEmpty ∨ 4 < run.length then none
        else if (s.drop run.length).head? = some '.' then
          if state.ellipsis.isNone ∧ state.groups.length ≠ 6 ∨ 6 < state.groups.length then none
          else (parseIPv4 s).map fun bits =>
            { state with groups := state.groups ++ [bits.toNat / 65536, bits.toNat % 65536] }
        else afterGroup room (s.drop run.length)
          { state with groups := state.groups ++ [digitsValue 16 hexDigit run] } := rfl
    rw [unfolded] at read
    split_ifs at read
    · obtain ⟨bits, quad, -⟩ := Option.map_eq_some_iff.mp read
      exact fun c => quad_chars quad
    · intro c member
      rw [← parts, List.mem_append] at member
      exact member.elim (digits c) (afterGroup_chars read (fun _ _ => ih) c)

theorem parseBody_chars (read : parseBody s = some result) : ∀ c ∈ s, addressChar c = true := by
  unfold parseBody at read
  split at read
  · exact List.all_eq_true.mp (by decide)
  · have rest := parseGroups_chars read
    simpa [addressChar] using rest
  · exact parseGroups_chars read

theorem parseAddr_chars (read : parseAddr s = some addr) (noZone : '%' ∉ s) :
    ∀ c ∈ s, addressChar c = true := by
  rcases parseAddr_cases read with ⟨bits, quad, -⟩ | ⟨read, -⟩
  · exact fun c => quad_chars quad
  · rw [parseIPv6_eq noZone] at read
    obtain ⟨bits, expanded, -⟩ := Option.map_eq_some_iff.mp read
    obtain ⟨state, parsed, -⟩ := Option.bind_eq_some_iff.mp expanded
    exact parseBody_chars parsed

theorem parseIPv6_zone (read : parseIPv6 s = some addr) (mark : '%' ∈ s) : addr.withoutZone ≠ addr := by
  have parts := takeWhile_split mark
  unfold parseIPv6 at read
  dsimp only at read
  split_ifs at read with noName
  obtain ⟨bits, -, rfl⟩ := Option.map_eq_some_iff.mp read
  have shorter : (s.takeWhile (· ≠ '%')).length < s.length := by
    conv_rhs => rw [parts]
    simp
  intro same
  simp only [Addr.withoutZone, Addr.v6.injEq, true_and] at same
  exact noName ⟨shorter, List.isEmpty_iff.mpr (String.ofList_eq_empty_iff.mp same.symm)⟩

theorem noZone_of_parseAddr (read : parseAddr s = some addr) (plain : addr.withoutZone = addr) : '%' ∉ s := by
  rcases parseAddr_cases read with ⟨bits, quad, -⟩ | ⟨read, -⟩
  · exact notMem_quad quad (by decide) (by decide)
  · exact fun mark => parseIPv6_zone read mark plain

theorem parseAddr_ne_zero : parseAddr s ≠ some .zero := by
  intro read
  rcases parseAddr_cases read with ⟨_, -, same⟩ | ⟨-, _, _, same⟩ <;> cases same

theorem plain_of_withoutZone (nonzero : addr ≠ .zero) (plain : addr.withoutZone = addr) : addr.plain = true := by
  cases addr with
  | zero => exact absurd rfl nonzero
  | v4 bits => rfl
  | v6 bits zone =>
    simp only [Addr.withoutZone, Addr.v6.injEq, true_and] at plain
    simp [Addr.plain, ← plain]

def plainLength (length : List Char) : Prop :=
  ¬ (1 < length.length ∧ length.head? = some '0')

instance (length : List Char) : Decidable (plainLength length) :=
  inferInstanceAs (Decidable (¬ _))

def lengthText (s : List Char) : List Char :=
  (s.drop (s.takeWhile (· ≠ '/')).length).drop 1

section
variable {s address length : List Char} {addr : Addr} {bits : Nat}

theorem notMem_of_digits {c : Char} (read : digits length = some bits) (other : digit c = none) : c ∉ length := by
  intro member
  have readable := digits_all read c member
  rw [other] at readable
  cases readable

theorem slash_notMem_address (read : parseAddr address = some addr) (plain : addr.withoutZone = addr) :
    '/' ∉ address := fun member =>
  absurd (parseAddr_chars read (noZone_of_parseAddr read plain) _ member) (by decide)

theorem withoutZone_iff_plain (read : parseAddr address = some addr) : addr.withoutZone = addr ↔ addr.plain = true :=
  ⟨plain_of_withoutZone fun zero => parseAddr_ne_zero (zero ▸ read), withoutZone_of_plain⟩

theorem parsePrefix_iff {p : Prefix} : parsePrefix s = some p ↔
    ∃ address length, s = address ++ '/' :: length ∧ parseAddr address = some p.addr ∧ p.addr.plain = true ∧
      digits length = some p.bits ∧ plainLength length := by
  constructor
  · intro read
    unfold parsePrefix at read
    split at read
    · rename_i address length fields
      have slash : '/' ∈ s := by
        by_contra absent
        rw [splitOn_of_notMem absent] at fields
        cases fields
      obtain ⟨addressIs, lengthIs⟩ := splitOn_pair fields
      have shape := takeWhile_split slash
      rw [← addressIs, ← lengthIs] at shape
      split at read
      · rename_i addr bits addrRead bitsRead
        split_ifs at read with fits refused
        cases read
        rw [not_or, not_not] at refused
        exact ⟨address, length, shape, addrRead, (withoutZone_iff_plain addrRead).mp refused.1, bitsRead,
          refused.2⟩
      · cases read
    · cases read
  · rintro ⟨address, length, rfl, addrRead, plain, bitsRead, lengthPlain⟩
    have noSlash := slash_notMem_address addrRead (withoutZone_of_plain plain)
    rw [parsePrefix, splitOn_append noSlash, splitOn_of_notMem (notMem_of_digits bitsRead (by decide))]
    simp only [addrRead, bitsRead, dif_pos p.bits_le, withoutZone_of_plain plain, ne_eq, not_true_eq_false, false_or,
      if_neg lengthPlain]

theorem parseCIDR_iff {p : Prefix} : parseCIDR s = some p ↔
    ∃ address length, s = address ++ '/' :: length ∧ parseAddr address = some p.addr ∧ p.addr.plain = true ∧
      digits length = some p.bits := by
  constructor
  · intro read
    unfold parseCIDR at read
    dsimp only at read
    split at read
    · rename_i addr bits addrRead bitsRead
      obtain ⟨addrRead, plain⟩ := Option.filter_eq_some_iff.mp addrRead
      rw [decide_eq_true_eq] at plain
      split_ifs at read with fits found
      cases read
      have slash : '/' ∈ s := by
        by_contra absent
        rw [takeWhile_ne_self absent] at found
        exact lt_irrefl _ found
      exact ⟨_, _, takeWhile_split slash, addrRead, (withoutZone_iff_plain addrRead).mp plain, bitsRead⟩
    · cases read
  · rintro ⟨address, length, rfl, addrRead, plain, bitsRead⟩
    have noZone := withoutZone_of_plain plain
    have dropped : ((address ++ '/' :: length).drop address.length).drop 1 = length := by simp
    have network : parseIP address = some p.addr := by
      rw [parseIP, addrRead]
      simp [noZone]
    unfold parseCIDR
    dsimp only
    rw [takeWhile_ne_append (slash_notMem_address addrRead noZone), dropped, network, bitsRead]
    simp [p.bits_le]

theorem parseCIDR_of_parsePrefix {p : Prefix} (read : parsePrefix s = some p) : parseCIDR s = some p := by
  obtain ⟨address, length, shape, addrRead, plain, bitsRead, -⟩ := parsePrefix_iff.mp read
  exact parseCIDR_iff.mpr ⟨address, length, shape, addrRead, plain, bitsRead⟩

theorem lengthText_eq (read : parseAddr address = some addr) (plain : addr.plain = true) :
    lengthText (address ++ '/' :: length) = length := by
  rw [lengthText, takeWhile_ne_append (slash_notMem_address read (withoutZone_of_plain plain))]
  simp

theorem parsePrefix_of_parseCIDR {p : Prefix} (read : parseCIDR s = some p) :
    parsePrefix s = some p ↔ plainLength (lengthText s) := by
  obtain ⟨address, length, rfl, addrRead, plain, bitsRead⟩ := parseCIDR_iff.mp read
  rw [lengthText_eq addrRead plain]
  constructor
  · intro readToo
    obtain ⟨address', length', shape, addrRead', plain', -, lengthPlain⟩ := parsePrefix_iff.mp readToo
    have same : lengthText (address' ++ '/' :: length') = length' := lengthText_eq addrRead' plain'
    rw [← shape, lengthText_eq addrRead plain] at same
    exact same ▸ lengthPlain
  · intro lengthPlain
    exact parsePrefix_iff.mpr ⟨address, length, rfl, addrRead, plain, bitsRead, lengthPlain⟩

theorem parseAddr_of_parseCIDR {p : Prefix} (read : parseCIDR s = some p) : parseAddr s = none := by
  obtain ⟨address, length, rfl, addrRead, plain, bitsRead⟩ := parseCIDR_iff.mp read
  have noMark : '%' ∉ address ++ '/' :: length := by
    rw [List.mem_append, List.mem_cons, not_or, not_or]
    exact ⟨noZone_of_parseAddr addrRead (withoutZone_of_plain plain), by decide,
      notMem_of_digits bitsRead (by decide)⟩
  by_contra some
  obtain ⟨addr, whole⟩ := Option.ne_none_iff_exists'.mp some
  exact absurd (parseAddr_chars whole noMark '/' (by simp)) (by decide)

end

theorem isSpace_of_addressChar (plain : addressChar c = true) : isSpace c = false := by
  unfold addressChar at plain
  rw [Bool.or_eq_true, Bool.or_eq_true, beq_iff_eq, beq_iff_eq] at plain
  rcases plain with (digit | rfl) | rfl
  · unfold hexDigit at digit
    have range : 48 ≤ c.toNat ∧ c.toNat ≤ 57 ∨ 97 ≤ c.toNat ∧ c.toNat ≤ 102 ∨ 65 ≤ c.toNat ∧
      c.toNat ≤ 70 := by
      split_ifs at digit with decimal lower upper
      · exact .inl decimal
      · exact .inr (.inl lower)
      · exact .inr (.inr upper)
      · cases digit
    simp only [isSpace]
    simp
    omega
  · decide
  · decide

theorem trimList_of_parseCIDR (read : parseCIDR s = some cidr) : trimList s = s := by
  obtain ⟨address, length, rfl, addrRead, plain, bitsRead⟩ := parseCIDR_iff.mp read
  have chars := parseAddr_chars addrRead (noZone_of_parseAddr addrRead (withoutZone_of_plain plain))
  refine trimList_of_all fun c member => ?_
  rw [List.mem_append, List.mem_cons] at member
  rcases member with inAddress | rfl | inLength
  · exact isSpace_of_addressChar (chars c inAddress)
  · rfl
  · exact isSpace_of_digit (digits_all bitsRead c inLength)

/-! ## Addresses that stand for IPv4 -/

theorem parseIPv4_of_parseAddr {bits : BitVec 32} (read : parseAddr s = some (.v4 bits)) :
    parseIPv4 s = some bits := by
  rcases parseAddr_cases read with ⟨quad, parsed, same⟩ | ⟨-, _, _, same⟩
  · cases same
    exact parsed
  · cases same

theorem to4_cases (plain : addr.plain = true) (ipv4 : (to4 addr).isSome) :
    (∃ bits, addr = .v4 bits) ∨ ∃ bits, addr = .v6 bits "" ∧ bits >>> 32 = 0xffff#128 := by
  cases addr with
  | zero => cases plain
  | v4 bits => exact .inl ⟨bits, rfl⟩
  | v6 bits zone =>
    obtain rfl : zone = "" := by simpa [Addr.plain] using plain
    refine .inr ⟨bits, rfl, ?_⟩
    by_contra other
    simp [to4, Addr.unmap, Addr.is4In6, other] at ipv4

theorem to4_mapped (mapped : bits >>> 32 = 0xffff#128) : to4 (.v6 bits "") = some (.v4 (bits.setWidth 32)) := by
  simp [to4, Addr.unmap, Addr.is4In6, mapped]

theorem to4_quad {four : Addr} (read : to4 addr = some four) : ∃ bits, four = .v4 bits := by
  unfold to4 at read
  split at read
  · exact ⟨_, (Option.some.inj read).symm⟩
  · cases read

theorem contains_quad {bits : BitVec 32} (inside : p.contains (.v4 bits) = true) : ∃ net, p.addr = .v4 net := by
  cases shape : p.addr with
  | zero | v6 => simp [Prefix.contains, shape] at inside
  | v4 net => exact ⟨net, rfl⟩

theorem contains_self {bits : BitVec 32} (quad : p.addr = .v4 bits) : p.contains (.v4 bits) = true := by
  simp [Prefix.contains, Prefix.sameBits, quad]

theorem mapped_keepBits (mapped : bits >>> 32 = 0xffff#128) (count : Nat) :
    Prefix.keepBits count bits >>> 32 = 0xffff#128 ↔ 96 ≤ count := by
  constructor
  · intro kept
    by_contra short
    have lowest := congrArg (·.getLsbD 0) kept
    simp [Prefix.keepBits, show 32 < 128 - count by omega] at lowest
  · intro long
    rw [← mapped]
    apply BitVec.eq_of_getLsbD_eq
    intro index inside
    simp only [Prefix.keepBits, BitVec.getLsbD_ushiftRight, BitVec.getLsbD_shiftLeft]
    by_cases within : 32 + index < 128
    · have place : 128 - count + (32 + index - (128 - count)) = 32 + index := by omega
      simp [within, place, show ¬ 32 + index < 128 - count by omega]
    · simp [within, BitVec.getLsbD_of_ge bits (32 + index) (by omega)]

theorem ipNet_quad {bits : BitVec 32} (quad : cidr.addr = .v4 bits) : ipNet cidr = cidr.masked := by
  obtain ⟨addr, count, fits⟩ := cidr
  cases quad
  rfl

theorem ipNet_mapped (notation6 : cidr.addr = .v6 bits "") (mapped : bits >>> 32 = 0xffff#128) :
    if cidr.bits < 96 then ipNet cidr = cidr.masked
    else ∃ net fits, ipNet cidr = ⟨.v4 net, cidr.bits - 96, fits⟩ := by
  obtain ⟨addr, count, fits⟩ := cidr
  cases notation6
  have mark := mapped_keepBits mapped count
  have bound : count ≤ 128 := fits
  dsimp only
  split_ifs with wide
  · have unmarked : ¬ Prefix.keepBits count bits >>> 32 = 0xffff#128 := by rw [mark]; omega
    simp [ipNet, Prefix.masked, Prefix.maskAddr, Addr.is4In6, unmarked]
  · have marked : Prefix.keepBits count bits >>> 32 = 0xffff#128 := by rw [mark]; omega
    have fits4 : count - 96 ≤ (Addr.v4 ((Prefix.keepBits count bits).setWidth 32)).bitLen := by
      simp only [Addr.bitLen]
      omega
    refine ⟨(Prefix.keepBits count bits).setWidth 32, fits4, ?_⟩
    simp [ipNet, Prefix.masked, Prefix.maskAddr, Addr.is4In6, Addr.unmap, marked, bound]

end Ngfw.Lib.Netip

import Mathlib.Algebra.Order.Ring.Int
import Mathlib.Data.List.Dedup
import Mathlib.Data.List.DropRight
import Mathlib.Data.List.Sort
import Mathlib.Data.List.TakeWhile
import Mathlib.Data.Char

namespace Ngfw.Lib

/-- The simple Unicode case mappings, one character at a time. `fold` picks one character of each class of
characters that compare equal ignoring case. Only ASCII is fixed here. -/
class CaseMap where
  lower : Char → Char
  upper : Char → Char
  fold : Char → Char
  lower_ascii : ∀ c, c.toNat < 128 → lower c = c.toLower
  upper_ascii : ∀ c, c.toNat < 128 → upper c = c.toUpper
  fold_ascii : ∀ c, c.toNat < 128 → fold c = c.toLower

namespace Text

@[reducible] def asciiCaseMap : CaseMap where
  lower := Char.toLower
  upper := Char.toUpper
  fold := Char.toLower
  lower_ascii := fun _ _ => rfl
  upper_ascii := fun _ _ => rfl
  fold_ascii := fun _ _ => rfl

def isSpace (c : Char) : Bool :=
  let n := c.toNat
  (9 ≤ n && n ≤ 13) || n == 32 || n == 0x85 || n == 0xA0 || n == 0x1680 || (0x2000 ≤ n && n ≤ 0x200a) ||
    n == 0x2028 || n == 0x2029 || n == 0x202f || n == 0x205f || n == 0x3000

def trimList (s : List Char) : List Char :=
  ((s.dropWhile isSpace).reverse.dropWhile isSpace).reverse

def trimSpace (s : String) : String :=
  String.ofList (trimList s.toList)

def toLower [CaseMap] (s : String) : String :=
  String.ofList (s.toList.map CaseMap.lower)

def toUpper [CaseMap] (s : String) : String :=
  String.ofList (s.toList.map CaseMap.upper)

def equalFold [CaseMap] (s t : String) : Bool :=
  s.toList.map CaseMap.fold == t.toList.map CaseMap.fold

def splitOn (separator : Char) : List Char → List (List Char)
  | [] => [[]]
  | c :: rest =>
    if c = separator then [] :: splitOn separator rest
    else match splitOn separator rest with
      | [] => [[c]]
      | field :: fields => (c :: field) :: fields

def digit (c : Char) : Option Nat :=
  if '0' ≤ c ∧ c ≤ '9' then some (c.toNat - '0'.toNat) else none

def digits : List Char → Option Nat
  | [] => none
  | s => s.foldlM (fun value c => (digit c).map (value * 10 + ·)) 0

/-- strconv.Atoi: an optional sign and decimal digits, within 64 bits. -/
def atoi (s : List Char) : Option Int :=
  let value : Option Int := match s with
    | '+' :: rest => (digits rest).map Int.ofNat
    | '-' :: rest => (digits rest).map fun n => -(n : Int)
    | rest => (digits rest).map Int.ofNat
  value.filter fun n => -(2 ^ 63 : Int) ≤ n ∧ n < 2 ^ 63

def byteLength (s : List Char) : Nat :=
  (s.map Char.utf8Size).sum

def contains (c : Char) (s : String) : Bool :=
  s.toList.contains c

def containsText (part s : String) : Bool :=
  s.toList.tails.any part.toList.isPrefixOf

def hasPrefix (start s : String) : Bool :=
  start.toList.isPrefixOf s.toList

def hasSuffix (ending s : String) : Bool :=
  ending.toList.isSuffixOf s.toList

/-- strings.TrimPrefix -/
def trimStart (start s : String) : String :=
  if hasPrefix start s then String.ofList (s.toList.drop start.toList.length) else s

/-- strings.TrimSuffix -/
def trimEnd (ending s : String) : String :=
  if hasSuffix ending s then String.ofList (s.toList.take (s.toList.length - ending.toList.length)) else s

def uniqueSorted (values : List String) : List String :=
  values.dedup.insertionSort fun a b => a ≤ b

theorem mem_uniqueSorted {value : String} {values : List String} :
    value ∈ uniqueSorted values ↔ value ∈ values := by
  rw [uniqueSorted, List.mem_insertionSort, List.mem_dedup]

def decimal (n : Nat) : String :=
  String.ofList (Nat.toDigits 10 n)

def join (separator : String) : List String → String
  | [] => ""
  | [s] => s
  | s :: rest => s ++ separator ++ join separator rest

def quote (s : String) : String :=
  "\"" ++ String.ofList (s.toList.flatMap fun c => if c = '"' ∨ c = '\\' then ['\\', c] else [c]) ++ "\""

theorem toLower_ascii [CaseMap] {s : String} (ascii : ∀ c ∈ s.toList, c.toNat < 128) :
    toLower s = String.ofList (s.toList.map Char.toLower) := by
  unfold toLower
  rw [List.map_congr_left fun c member => CaseMap.lower_ascii c (ascii c member)]

theorem toLower_eq_empty [CaseMap] {s : String} : toLower s = "" ↔ s = "" := by
  rw [toLower, String.ofList_eq_empty_iff, List.map_eq_nil_iff, String.toList_eq_nil_iff]

/-! ## Fields, digits and white space -/

theorem splitOn_cons (separator : Char) (s : List Char) :
    ∃ rest, splitOn separator s = s.takeWhile (· ≠ separator) :: rest ∧
      (rest = [] ∧ separator ∉ s ∨
        separator ∈ s ∧ rest = splitOn separator (s.drop ((s.takeWhile (· ≠ separator)).length + 1))) := by
  induction s with
  | nil => exact ⟨[], rfl, .inl ⟨rfl, List.not_mem_nil⟩⟩
  | cons c s ih =>
    obtain ⟨rest, split, shape⟩ := ih
    by_cases same : c = separator
    · exact ⟨splitOn separator s, by simp [splitOn, same], .inr ⟨by simp [same], by simp [same]⟩⟩
    · refine ⟨rest, by simp [splitOn, same, split], ?_⟩
      rcases shape with ⟨rfl, absent⟩ | ⟨present, split⟩
      · exact .inl ⟨rfl, by simp [absent, Ne.symm same]⟩
      · exact .inr ⟨List.mem_cons_of_mem _ present, by simpa [same] using split⟩

variable {s : List Char} {separator c : Char}

theorem takeWhile_ne_self (absent : separator ∉ s) : s.takeWhile (· ≠ separator) = s := by
  rw [List.takeWhile_eq_self_iff]
  intro c member
  rw [decide_eq_true_eq]
  rintro rfl
  exact absent member

theorem takeWhile_ne_append (absent : separator ∉ s) (rest : List Char) :
    (s ++ separator :: rest).takeWhile (· ≠ separator) = s := by
  rw [List.takeWhile_append_of_pos (List.takeWhile_eq_self_iff.mp (takeWhile_ne_self absent))]
  simp

theorem splitOn_single {field : List Char} (split : splitOn separator s = [field]) :
    separator ∉ s ∧ field = s := by
  obtain ⟨rest, first, shape⟩ := splitOn_cons separator s
  rw [split] at first
  injection first with head tail
  rcases shape with ⟨-, absent⟩ | ⟨-, more⟩
  · exact ⟨absent, head.trans (takeWhile_ne_self absent)⟩
  · obtain ⟨others, again, -⟩ := splitOn_cons separator (s.drop ((s.takeWhile (· ≠ separator)).length + 1))
    rw [again, ← tail] at more
    cases more

theorem splitOn_pair {first second : List Char} (split : splitOn separator s = [first, second]) :
    first = s.takeWhile (· ≠ separator) ∧ second = (s.drop first.length).drop 1 := by
  obtain ⟨rest, fields, shape⟩ := splitOn_cons separator s
  rw [split] at fields
  injection fields with head tail
  rcases shape with ⟨none, -⟩ | ⟨-, more⟩
  · rw [none] at tail
    cases tail
  · rw [← tail] at more
    refine ⟨head, ?_⟩
    rw [(splitOn_single more.symm).2, List.drop_drop, head]

theorem takeWhile_split (present : separator ∈ s) :
    s = s.takeWhile (· ≠ separator) ++ separator :: (s.drop (s.takeWhile (· ≠ separator)).length).drop 1 := by
  induction s with
  | nil => cases present
  | cons c s ih =>
    by_cases same : c = separator
    · simp [same]
    · have later : separator ∈ s := by
        rcases List.mem_cons.mp present with rfl | later
        · exact absurd rfl same
        · exact later
      simpa [same] using ih later

theorem mem_splitOn (member : c ∈ s) (differs : c ≠ separator) :
    ∃ field ∈ splitOn separator s, c ∈ field := by
  induction s with
  | nil => cases member
  | cons head s ih =>
    obtain ⟨rest, split, -⟩ := splitOn_cons separator s
    unfold splitOn
    split_ifs with same
    · rcases List.mem_cons.mp member with rfl | later
      · exact absurd same differs
      · obtain ⟨field, inside, holds⟩ := ih later
        exact ⟨field, List.mem_cons_of_mem _ inside, holds⟩
    · rw [split] at ih ⊢
      rcases List.mem_cons.mp member with rfl | later
      · exact ⟨_, List.mem_cons_self, List.mem_cons_self⟩
      · obtain ⟨field, inside, holds⟩ := ih later
        rcases List.mem_cons.mp inside with rfl | other
        · exact ⟨_, List.mem_cons_self, List.mem_cons_of_mem _ holds⟩
        · exact ⟨field, List.mem_cons_of_mem _ other, holds⟩

theorem digits_all {value : Nat} (read : digits s = some value) : ∀ c ∈ s, (digit c).isSome := by
  have general : ∀ (s : List Char) (start : Nat),
      (s.foldlM (fun value c => (digit c).map (value * 10 + ·)) start).isSome → ∀ c ∈ s, (digit c).isSome := by
    intro s
    induction s with
    | nil => simp
    | cons head s ih =>
      intro start folded
      rw [List.foldlM_cons] at folded
      cases first : digit head with
      | none => simp [first] at folded
      | some d =>
        simp only [first, Option.map_some, Option.bind_eq_bind, Option.bind_some] at folded
        intro c member
        rcases List.mem_cons.mp member with rfl | later
        · rw [first]
          rfl
        · exact ih _ folded c later
  cases s with
  | nil => cases read
  | cons head s =>
    have folded : (head :: s).foldlM (fun value c => (digit c).map (value * 10 + ·)) 0 = some value := read
    exact general (head :: s) 0 (by rw [folded]; rfl)

theorem trimList_of_all (plain : ∀ c ∈ s, isSpace c = false) : trimList s = s := by
  have kept : ∀ t : List Char, (∀ c ∈ t, isSpace c = false) → t.dropWhile isSpace = t := by
    intro t outside
    rw [List.dropWhile_eq_self_iff]
    intro nonempty
    simp [outside _ (List.getElem_mem nonempty)]
  have ending := kept s.reverse fun c member => plain c (List.mem_reverse.mp member)
  rw [trimList, kept s plain, ending, List.reverse_reverse]

theorem trimSpace_of_all {s : String} (plain : ∀ c ∈ s.toList, isSpace c = false) : trimSpace s = s := by
  rw [trimSpace, trimList_of_all plain, String.ofList_toList]

theorem trimList_trimList (s : List Char) : trimList (trimList s) = trimList s := by
  let start := s.dropWhile isSpace
  have begins : trimList s <+: start := by
    rw [← List.reverse_suffix]
    simpa [trimList] using List.dropWhile_suffix isSpace
  have noSpaceFirst : (trimList s).dropWhile isSpace = trimList s := by
    rw [List.dropWhile_eq_self_iff]
    intro nonempty
    rw [begins.getElem nonempty]
    exact List.dropWhile_get_zero_not isSpace s (nonempty.trans_le begins.length_le)
  have noSpaceLast : (trimList s).reverse.dropWhile isSpace = (trimList s).reverse := by
    rw [trimList, List.reverse_reverse]
    exact List.dropWhile_idempotent isSpace _
  conv_lhs => rw [trimList, noSpaceFirst, noSpaceLast, List.reverse_reverse]

theorem trimSpace_trimSpace (s : String) : trimSpace (trimSpace s) = trimSpace s := by
  rw [trimSpace, trimSpace, String.toList_ofList, trimList_trimList]

theorem isSpace_of_digit (read : (digit c).isSome) : isSpace c = false := by
  unfold digit at read
  split_ifs at read with range
  · have low : 48 ≤ c.toNat := range.1
    have high : c.toNat ≤ 57 := range.2
    simp only [isSpace]
    simp
    omega
  · cases read

end Text

end Ngfw.Lib

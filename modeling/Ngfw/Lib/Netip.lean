import Mathlib.Data.List.Basic
import Ngfw.Lib.Fallible
import Ngfw.Lib.Text

/-!
# IP addresses and prefixes

The values of Go's `net/netip`: an address is the zero value, an IPv4 address or an IPv6 address with a zone,
and a prefix is an address with a number of leading bits within its length.
-/

namespace Ngfw.Lib.Netip
open Text

inductive Addr
  | zero
  | v4 (bits : BitVec 32)
  | v6 (bits : BitVec 128) (zone : String)
  deriving DecidableEq

namespace Addr

instance : Inhabited Addr := ⟨zero⟩

def is4 : Addr → Bool
  | v4 _ => true
  | _ => false

def is6 : Addr → Bool
  | v6 _ _ => true
  | _ => false

def bitLen : Addr → Nat
  | zero => 0
  | v4 _ => 32
  | v6 _ _ => 128

def withoutZone : Addr → Addr
  | v6 bits _ => v6 bits ""
  | other => other

def octet (bits : BitVec 32) (index : Nat) : String :=
  decimal ((bits >>> (24 - 8 * index)).toNat % 256)

def string4 (bits : BitVec 32) : String :=
  octet bits 0 ++ "." ++ octet bits 1 ++ "." ++ octet bits 2 ++ "." ++ octet bits 3

def group (bits : BitVec 128) (index : Nat) : Nat :=
  (bits >>> (112 - 16 * index)).toNat % 65536

def zeroRun (bits : BitVec 128) (index : Nat) : Nat :=
  (((List.range 8).drop index).takeWhile fun i => group bits i == 0).length

def longestZeroRun (bits : BitVec 128) : Nat × Nat :=
  (List.range 8).foldl (fun best i =>
    let length := zeroRun bits i
    if 2 ≤ length ∧ best.2 - best.1 < length then (i, i + length) else best) (255, 255)

def hex (n : Nat) : String :=
  String.ofList (Nat.toDigits 16 n)

def string6 (bits : BitVec 128) : String :=
  let run := longestZeroRun bits
  let groups (first last : Nat) : String :=
    join ":" (((List.range 8).filter fun i => first ≤ i ∧ i < last).map fun i => hex (group bits i))
  if run.1 < 8 then groups 0 run.1 ++ "::" ++ groups run.2 8 else groups 0 8

def is4In6 : Addr → Bool
  | v6 bits _ => bits >>> 32 == 0xffff#128
  | _ => false

def unmap : Addr → Addr
  | v6 bits zone => if is4In6 (v6 bits zone) then v4 (bits.setWidth 32) else v6 bits zone
  | other => other

def isLoopback (addr : Addr) : Bool :=
  match addr.unmap with
  | zero => false
  | v4 bits => bits >>> 24 == 127#32
  | v6 bits _ => bits == 1#128

def isUnspecified (addr : Addr) : Bool :=
  addr == v4 0#32 || addr == v6 0#128 ""

def isMulticast (addr : Addr) : Bool :=
  match addr.unmap with
  | zero => false
  | v4 bits => bits >>> 28 == 0xe#32
  | v6 bits _ => bits >>> 120 == 0xff#128

def string : Addr → String
  | zero => "invalid IP"
  | v4 bits => string4 bits
  | v6 bits zone =>
    let text := if is4In6 (v6 bits zone) then "::ffff:" ++ string4 (bits.setWidth 32) else string6 bits
    if zone = "" then text else text ++ "%" ++ zone

end Addr

/-! ## Parsing -/

def parseOctet (s : List Char) : Option Nat :=
  if 1 < s.length ∧ s.head? = some '0' then none
  else (digits s).filter (· ≤ 255)

def parseIPv4 (s : List Char) : Option (BitVec 32) :=
  match (splitOn '.' s).mapM parseOctet with
  | some [a, b, c, d] => some (BitVec.ofNat 32 (((a * 256 + b) * 256 + c) * 256 + d))
  | _ => none

def hexDigit (c : Char) : Option Nat :=
  if '0' ≤ c ∧ c ≤ '9' then some (c.toNat - '0'.toNat)
  else if 'a' ≤ c ∧ c ≤ 'f' then some (c.toNat - 'a'.toNat + 10)
  else if 'A' ≤ c ∧ c ≤ 'F' then some (c.toNat - 'A'.toNat + 10)
  else none

structure GroupState where
  groups : List Nat
  ellipsis : Option Nat

def parseGroups : Nat → List Char → GroupState → Option GroupState
  | 0, s, state => if s.isEmpty then some state else none
  | room + 1, s, state =>
    let run := s.takeWhile fun c => (hexDigit c).isSome
    let rest := s.drop run.length
    if run.isEmpty ∨ 4 < run.length then none
    else if rest.head? = some '.' then
      if state.ellipsis.isNone ∧ state.groups.length ≠ 6 ∨ 6 < state.groups.length then none
      else (parseIPv4 s).map fun bits =>
        { state with groups := state.groups ++ [bits.toNat / 65536, bits.toNat % 65536] }
    else
      let value := (run.filterMap hexDigit).foldl (fun acc d => acc * 16 + d) 0
      let state := { state with groups := state.groups ++ [value] }
      match rest with
      | [] => some state
      | ':' :: ':' :: [] => if state.ellipsis.isSome then none else
          some { state with ellipsis := some state.groups.length }
      | ':' :: ':' :: more => if state.ellipsis.isSome then none else
          parseGroups room more { state with ellipsis := some state.groups.length }
      | ':' :: c :: more => parseGroups room (c :: more) state
      | _ => none

def joinGroups (groups : List Nat) : BitVec 128 :=
  BitVec.ofNat 128 (groups.foldl (fun acc g => acc * 65536 + g) 0)

def expandGroups (state : GroupState) : Option (BitVec 128) :=
  match state.ellipsis with
  | none => if state.groups.length = 8 then some (joinGroups state.groups) else none
  | some position =>
    if state.groups.length < 8 then
      some (joinGroups (state.groups.take position ++ List.replicate (8 - state.groups.length) 0 ++
        state.groups.drop position))
    else none

def parseIPv6 (s : List Char) : Option Addr :=
  let body := s.takeWhile (· ≠ '%')
  let zone := (s.drop body.length).drop 1
  if body.length < s.length ∧ zone.isEmpty then none
  else
    let parsed : Option GroupState := match body with
      | [':', ':'] => some ⟨[], some 0⟩
      | ':' :: ':' :: rest => parseGroups 8 rest ⟨[], some 0⟩
      | rest => parseGroups 8 rest ⟨[], none⟩
    (parsed.bind expandGroups).map fun bits => .v6 bits (String.ofList zone)

def parseAddr (s : List Char) : Option Addr :=
  match s.find? fun c => c = '.' ∨ c = ':' ∨ c = '%' with
  | some '.' => (parseIPv4 s).map .v4
  | some ':' => parseIPv6 s
  | _ => none

/-! ## Prefixes -/

structure Prefix where
  addr : Addr
  bits : Nat
  bits_le : bits ≤ addr.bitLen
  deriving DecidableEq

namespace Prefix

def single (addr : Addr) : Prefix := ⟨addr.withoutZone, addr.withoutZone.bitLen, le_rfl⟩

def keepBits {w : Nat} (bits : Nat) (value : BitVec w) : BitVec w :=
  (value >>> (w - bits)) <<< (w - bits)

def sameBits {w : Nat} (bits : Nat) (a b : BitVec w) : Bool :=
  a >>> (w - bits) == b >>> (w - bits)

def maskAddr (bits : Nat) : Addr → Addr
  | .zero => .zero
  | .v4 value => .v4 (keepBits bits value)
  | .v6 value zone => .v6 (keepBits bits value) zone

theorem bitLen_maskAddr (bits : Nat) (addr : Addr) : (maskAddr bits addr).bitLen = addr.bitLen := by
  cases addr <;> rfl

def masked (p : Prefix) : Prefix :=
  ⟨maskAddr p.bits p.addr, p.bits, by rw [bitLen_maskAddr]; exact p.bits_le⟩

/-- Prefix.Contains: an address with a zone lies in no prefix. -/
def contains (p : Prefix) (addr : Addr) : Bool :=
  match p.addr, addr with
  | .v4 net, .v4 value => sameBits p.bits net value
  | .v6 net _, .v6 value zone => zone == "" && sameBits p.bits net value
  | _, _ => false

theorem sameBits_keepBits {w : Nat} (bits : Nat) (net value : BitVec w) :
    sameBits bits (keepBits bits net) value = sameBits bits net value := by
  have shifted : keepBits bits net >>> (w - bits) = net >>> (w - bits) := by
    apply BitVec.eq_of_getLsbD_eq
    intro index inside
    simp only [keepBits, BitVec.getLsbD_ushiftRight, BitVec.getLsbD_shiftLeft]
    by_cases within : w - bits + index < w
    · simp [within]
    · have outside : net.getLsbD (w - bits + index) = false := BitVec.getLsbD_of_ge _ _ (by omega)
      simp [outside, within]
  rw [sameBits, shifted, sameBits]

theorem contains_masked (p : Prefix) (addr : Addr) : p.masked.contains addr = p.contains addr := by
  obtain ⟨net, bits, fits⟩ := p
  cases net <;> cases addr <;> simp [masked, maskAddr, contains, sameBits_keepBits]

def string (p : Prefix) : String :=
  p.addr.string ++ "/" ++ decimal p.bits

end Prefix

/-- netip.ParsePrefix: the length is a plain decimal numeral and the address has no zone. -/
def parsePrefix (s : List Char) : Option Prefix :=
  match splitOn '/' s with
  | [address, length] =>
    match parseAddr address, digits length with
    | some addr, some bits =>
      if fits : bits ≤ addr.bitLen then
        if addr.withoutZone ≠ addr ∨ 1 < length.length ∧ length.head? = some '0' then none
        else some ⟨addr, bits, fits⟩
      else none
    | _, _ => none
  | _ => none

/-- net.ParseIP: an address without a zone. -/
def parseIP (s : List Char) : Option Addr :=
  (parseAddr s).filter fun addr => addr.withoutZone = addr

def to4 (addr : Addr) : Option Addr :=
  match addr.unmap with
  | .v4 bits => some (.v4 bits)
  | _ => none

/-- net.ParseCIDR: unlike a netip prefix its length may have leading zeros, and must stay below 0xFFFFFF. -/
def parseCIDR (s : List Char) : Option Prefix :=
  let address := s.takeWhile (· ≠ '/')
  let length := (s.drop address.length).drop 1
  match parseIP address, digits length with
  | some addr, some bits =>
    if fits : bits ≤ addr.bitLen then if address.length < s.length then some ⟨addr, bits, fits⟩ else none
    else none
  | _, _ => none

/-- The network of a CIDR as IPNet.String shows it: an IPv4-mapped one is shown as IPv4. -/
def ipNet (cidr : Prefix) : Prefix :=
  let network := cidr.masked
  match network.addr.is4In6, network.addr.unmap with
  | true, .v4 bits => if fits : cidr.bits - 96 ≤ 32 then ⟨.v4 bits, cidr.bits - 96, fits⟩ else network
  | _, _ => network

/-! ## Dotted quads -/

variable {s : List Char} {bits : BitVec 32}

theorem parseOctet_digits {value : Nat} (read : parseOctet s = some value) : ∀ c ∈ s, (digit c).isSome := by
  unfold parseOctet at read
  split_ifs at read
  exact digits_all (Option.filter_eq_some_iff.mp read).1

section
variable (read : parseIPv4 s = some bits)
include read

theorem parseIPv4_chars : (∀ c ∈ s, (digit c).isSome ∨ c = '.') ∧ '.' ∈ s := by
  unfold parseIPv4 at read
  split at read
  · rename_i a b c d octets
    constructor
    · intro char member
      by_cases dot : char = '.'
      · exact .inr dot
      · obtain ⟨field, inside, holds⟩ := mem_splitOn member dot
        obtain ⟨octet, -, octetRead⟩ := forall₂_mem_left (mapM_some.mp octets) inside
        exact .inl (parseOctet_digits octetRead char holds)
    · by_contra absent
      obtain ⟨rest, split, shape⟩ := splitOn_cons '.' s
      rcases shape with ⟨rfl, -⟩ | ⟨present, -⟩
      · have lengths := (mapM_some.mp octets).length_eq
        simp [split] at lengths
      · exact absent present
  · cases read

theorem find_separator_quad : s.find? (fun c => c = '.' ∨ c = ':' ∨ c = '%') = some '.' := by
  obtain ⟨plain, dot⟩ := parseIPv4_chars read
  have found : (s.find? fun c => c = '.' ∨ c = ':' ∨ c = '%').isSome := by
    rw [List.find?_isSome]
    exact ⟨'.', dot, by decide⟩
  obtain ⟨c, found⟩ := Option.isSome_iff_exists.mp found
  rcases plain c (List.mem_of_find?_eq_some found) with digit | rfl
  · have separator := List.find?_some found
    rw [decide_eq_true_eq] at separator
    rcases separator with rfl | rfl | rfl <;> cases digit
  · exact found

theorem parseAddr_of_parseIPv4 : parseAddr s = some (.v4 bits) := by
  rw [parseAddr, find_separator_quad read, read]
  rfl

theorem parseIP_of_parseIPv4 : parseIP s = some (.v4 bits) := by
  simp [parseIP, parseAddr_of_parseIPv4 read, Addr.withoutZone]

theorem notMem_quad {c : Char} (other : digit c = none) (apart : c ≠ '.') : c ∉ s := by
  intro member
  rcases (parseIPv4_chars read).1 c member with readable | dot
  · rw [other] at readable
    cases readable
  · exact apart dot

end

section
variable {address length : List Char} {bits : BitVec 32} (quad : parseIPv4 address = some bits)
include quad

theorem takeWhile_quad : (address ++ '/' :: length).takeWhile (· ≠ '/') = address :=
  takeWhile_ne_append (notMem_quad quad (by decide) (by decide)) length

theorem parseAddr_quad_slash : parseAddr (address ++ '/' :: length) = none := by
  have long : parseIPv4 (address ++ '/' :: length) = none := by
    by_contra some
    obtain ⟨whole, read⟩ := Option.ne_none_iff_exists'.mp some
    exact notMem_quad read (c := '/') (by decide) (by decide) (by simp)
  rw [parseAddr, long, List.find?_append, find_separator_quad quad]
  rfl

theorem parsePrefix_quad {pfx : Prefix} (read : parsePrefix (address ++ '/' :: length) = some pfx) :
    pfx.addr = .v4 bits ∧ digits length = some pfx.bits := by
  unfold parsePrefix at read
  split at read
  · rename_i first second fields
    obtain ⟨firstIs, secondIs⟩ := splitOn_pair fields
    rw [takeWhile_quad quad] at firstIs
    subst firstIs
    have lengthIs : second = length := by simp [secondIs]
    rw [lengthIs, parseAddr_of_parseIPv4 quad] at read
    split at read
    · rename_i addr count same counted
      cases same
      split_ifs at read
      cases read
      exact ⟨rfl, counted⟩
    · cases read
  · cases read

theorem parseCIDR_quad {cidr : Prefix} (read : parseCIDR (address ++ '/' :: length) = some cidr) :
    cidr.addr = .v4 bits ∧ digits length = some cidr.bits := by
  have dropped : ((address ++ '/' :: length).drop address.length).drop 1 = length := by simp
  unfold parseCIDR at read
  dsimp only at read
  rw [takeWhile_quad quad, parseIP_of_parseIPv4 quad, dropped] at read
  split at read
  · rename_i addr count same counted
    cases same
    split_ifs at read
    cases read
    exact ⟨rfl, counted⟩
  · cases read

end

end Ngfw.Lib.Netip

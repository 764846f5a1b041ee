import Ngfw.Lib.GoMap
import Ngfw.Lib.Text

/-!
# HTTP fields

Header maps as Go's net/http keeps them: the field names in canonical case, each with its values in order.
-/

namespace Ngfw.Lib

namespace Http

def isTokenChar (c : Char) : Bool :=
  ('a' ≤ c && c ≤ 'z') || ('A' ≤ c && c ≤ 'Z') || ('0' ≤ c && c ≤ '9') ||
    "!#$%&'*+-.^_`|~".toList.contains c

def canonicalChars : Bool → List Char → List Char
  | _, [] => []
  | start, c :: rest => (if start then c.toUpper else c.toLower) :: canonicalChars (c == '-') rest

def canonicalHeaderKey (name : String) : String :=
  if name.toList.all isTokenChar then String.ofList (canonicalChars true name.toList) else name

end Http

open Http

structure Header where
  fields : GoMap String (List String)
  canonical : ∀ key ∈ fields.keys, canonicalHeaderKey key = key

namespace Header

def empty : Header :=
  ⟨∅, fun _ member => nomatch member⟩

def valuesOf (header : Header) (name : String) : List String :=
  (header.fields.lookup (canonicalHeaderKey name)).getD []

def get (header : Header) (name : String) : String :=
  (header.valuesOf name).headD ""

def has (header : Header) (name : String) : Bool :=
  (header.fields.lookup name).isSome

def del (header : Header) (name : String) : Header where
  fields := header.fields.erase (canonicalHeaderKey name)
  canonical := fun key member => header.canonical key (List.mem_of_mem_erase (by
    rwa [AList.keys_erase] at member))

def delAll (header : Header) (names : List String) : Header :=
  names.foldl del header

def lines (header : Header) : List (String × String) :=
  header.fields.entries.flatMap fun entry => entry.2.map fun value => (entry.1, value)

variable {header : Header}

theorem mem_lines {name value : String} :
    (name, value) ∈ header.lines ↔ ∃ values, header.fields.lookup name = some values ∧ value ∈ values := by
  simp only [lines, List.mem_flatMap, List.mem_map, Prod.mk.injEq, Sigma.exists]
  constructor
  · rintro ⟨key, values, entry, found, member, rfl, rfl⟩
    exact ⟨values, AList.mem_lookup_iff.mpr entry, member⟩
  · rintro ⟨values, found, member⟩
    exact ⟨name, values, AList.mem_lookup_iff.mp found, value, member, rfl, rfl⟩

theorem mem_lines_of_getD {name value : String} (listed : value ∈ (header.fields.lookup name).getD []) :
    (name, value) ∈ header.lines := by
  cases found : header.fields.lookup name with
  | none => simp [found] at listed
  | some values => exact mem_lines.mpr ⟨values, found, by simpa [found] using listed⟩

theorem get_mem_lines {name : String} (present : header.get name ≠ "") :
    (canonicalHeaderKey name, header.get name) ∈ header.lines := by
  unfold get valuesOf at present ⊢
  cases found : header.fields.lookup (canonicalHeaderKey name) with
  | none => simp [found] at present
  | some values =>
    rw [found] at present
    cases values with
    | nil => exact absurd rfl present
    | cons value values => exact mem_lines.mpr ⟨_, found, List.mem_cons_self⟩

theorem lookup_delAll (names : List String) (header : Header) (key : String) :
    (header.delAll names).fields.lookup key =
      if key ∈ names.map canonicalHeaderKey then none else header.fields.lookup key := by
  induction names generalizing header with
  | nil => rfl
  | cons name names ih =>
    rw [delAll, List.foldl_cons, ← delAll, ih, List.map_cons]
    by_cases same : key = canonicalHeaderKey name
    · subst same
      simp [del, AList.lookup_erase]
    · simp [del, AList.lookup_erase_ne same, same]

theorem mem_lines_delAll {names : List String} {name value : String} :
    (name, value) ∈ (header.delAll names).lines ↔
      (name, value) ∈ header.lines ∧ name ∉ names.map canonicalHeaderKey := by
  rw [mem_lines, mem_lines, lookup_delAll]
  split_ifs with deleted <;> simp [deleted]

theorem mem_keys_of_mem_lines {line : String × String} (member : line ∈ header.lines) :
    line.1 ∈ header.fields.keys := by
  obtain ⟨values, found, -⟩ := mem_lines.mp member
  exact AList.mem_keys.mp (AList.lookup_isSome.mp (by rw [found]; rfl))

theorem canonical_of_mem_lines {line : String × String} (member : line ∈ header.lines) :
    canonicalHeaderKey line.1 = line.1 :=
  header.canonical _ (mem_keys_of_mem_lines member)

theorem lines_filter_name (header : Header) (name : String) :
    (header.lines.filter fun line => line.1 = name).map Prod.snd = (header.fields.lookup name).getD [] := by
  obtain ⟨⟨entries, distinct⟩, canonical⟩ := header
  simp only [lines, AList.lookup]
  clear canonical
  induction entries with
  | nil => rfl
  | cons entry entries ih =>
    obtain ⟨key, values⟩ := entry
    have rest := ih (List.nodupKeys_cons.mp distinct).2
    rw [List.flatMap_cons, List.filter_append, List.map_append, rest]
    by_cases same : name = key
    · subst same
      have absent : entries.dlookup name = none := List.dlookup_eq_none.mpr (List.nodupKeys_cons.mp distinct).1
      simp [absent, List.filter_map, Function.comp_def]
    · rw [List.dlookup_cons_ne entries ⟨key, values⟩ same]
      simp [List.filter_map, Function.comp_def, Ne.symm same]

end Header

end Ngfw.Lib

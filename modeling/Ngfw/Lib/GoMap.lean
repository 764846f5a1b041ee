import Mathlib.Data.List.AList
import Mathlib.Data.List.Induction

namespace Ngfw.Lib

/-- A Go map: finitely many keys, at most one value for each. -/
abbrev GoMap (Key Value : Type) := AList (fun _ : Key => Value)

namespace GoMap
variable {Key Value : Type} [DecidableEq Key]

def values (map : GoMap Key Value) : List Value :=
  map.entries.map Sigma.snd

def All (predicate : Key → Value → Prop) (map : GoMap Key Value) : Prop :=
  ∀ key value, map.lookup key = some value → predicate key value

variable {predicate : Key → Value → Prop} {map : GoMap Key Value}

theorem all_empty : All predicate (∅ : GoMap Key Value) := by
  intro key value found
  simp at found

theorem lookup_of_lookup_erase {key removed : Key} {value : Value}
    (found : (AList.erase removed map).lookup key = some value) : map.lookup key = some value ∧ key ≠ removed := by
  by_cases same : key = removed
  · subst same
    rw [AList.lookup_erase] at found
    cases found
  · rw [AList.lookup_erase_ne same] at found
    exact ⟨found, same⟩

theorem lookup_of_lookup_insert {key other : Key} {value found : Value}
    (lookup : (AList.insert key value map).lookup other = some found) :
    other = key ∧ found = value ∨ other ≠ key ∧ map.lookup other = some found := by
  by_cases same : other = key
  · rw [same, AList.lookup_insert] at lookup
    exact .inl ⟨same, (Option.some.inj lookup).symm⟩
  · rw [AList.lookup_insert_ne same] at lookup
    exact .inr ⟨same, lookup⟩

theorem All.erase (all : All predicate map) (key : Key) : All predicate (AList.erase key map) :=
  fun other value found => all other value (lookup_of_lookup_erase found).1

theorem All.imp {weaker : Key → Value → Prop} (all : All predicate map)
    (implies : ∀ key value, predicate key value → weaker key value) : All weaker map :=
  fun key value found => implies key value (all key value found)

structure Puts (before after : GoMap Key Value) (key : Key) (value : Value) : Prop where
  here : after.lookup key = some value
  elsewhere : ∀ other, other ≠ key → after.lookup other = before.lookup other

theorem puts_insert (before : GoMap Key Value) (key : Key) (value : Value) :
    Puts before (AList.insert key value before) key value :=
  ⟨AList.lookup_insert _, fun _ different => AList.lookup_insert_ne different⟩

theorem puts_self {key : Key} {value : Value} (found : map.lookup key = some value) : Puts map map key value :=
  ⟨found, fun _ _ => rfl⟩

theorem Puts.trans {before middle after : GoMap Key Value} {key : Key} {old new : Value}
    (first : Puts before middle key old) (second : Puts middle after key new) : Puts before after key new :=
  ⟨second.here, fun other different =>
    (second.elsewhere other different).trans (first.elsewhere other different)⟩

theorem All.puts {after : GoMap Key Value} {key : Key} {value : Value} (all : All predicate map)
    (puts : Puts map after key value) (new : predicate key value) : All predicate after := by
  intro other found lookup
  by_cases same : other = key
  · subst same
    rw [puts.here] at lookup
    cases lookup
    exact new
  · rw [puts.elsewhere other same] at lookup
    exact all other found lookup

theorem All.insert {key : Key} {value : Value} (all : All predicate map) (new : predicate key value) :
    All predicate (AList.insert key value map) :=
  all.puts (puts_insert map key value) new

theorem mem_of_lookup {key : Key} {value : Value} (found : map.lookup key = some value) : key ∈ map :=
  AList.lookup_isSome.mp (by rw [found]; rfl)

theorem exists_lookup_of_mem {key : Key} (member : key ∈ map) : ∃ value, map.lookup key = some value :=
  Option.isSome_iff_exists.mp (AList.lookup_isSome.mpr member)

theorem mem_insert_of_mem {key : Key} {value : Value} (member : key ∈ map) (other : Key) :
    other ∈ AList.insert key value map ↔ other ∈ map := by
  rw [AList.mem_insert]
  exact ⟨fun either => either.elim (fun same => same ▸ member) id, .inr⟩

theorem length_keys_insert_of_mem {key : Key} {value : Value} (member : key ∈ map) :
    (AList.insert key value map).keys.length = map.keys.length := by
  have positive : 0 < map.keys.length := List.length_pos_of_mem member
  rw [AList.keys_insert, List.length_cons, List.length_erase_of_mem member]
  omega

theorem length_keys_insert_of_notMem {key : Key} {value : Value} (absent : key ∉ map) :
    (AList.insert key value map).keys.length = map.keys.length + 1 := by
  rw [AList.keys_insert, List.length_cons, List.erase_of_not_mem absent]

theorem length_keys_erase_of_mem {key : Key} (member : key ∈ map) :
    (AList.erase key map).keys.length + 1 = map.keys.length := by
  have positive : 0 < map.keys.length := List.length_pos_of_mem member
  rw [AList.keys_erase, List.length_erase_of_mem member]
  omega

theorem mem_values {value : Value} : value ∈ values map ↔ ∃ key, map.lookup key = some value := by
  simp only [values, List.mem_map, Sigma.exists, exists_eq_right]
  exact exists_congr fun key => (AList.mem_lookup_iff (s := map)).symm

def filter (keep : Key → Value → Bool) (map : GoMap Key Value) : GoMap Key Value :=
  ⟨map.entries.filter fun entry => keep entry.1 entry.2, map.nodupKeys.sublist List.filter_sublist⟩

theorem lookup_filter {keep : Key → Value → Bool} {key : Key} {value : Value} :
    (filter keep map).lookup key = some value ↔ map.lookup key = some value ∧ keep key value := by
  rw [← Option.mem_def, AList.mem_lookup_iff, ← Option.mem_def, AList.mem_lookup_iff]
  exact List.mem_filter

theorem exists_other_of_one_lt_countP {counts : Value → Bool} {key : Key} {value : Value}
    (found : map.lookup key = some value) (more : 1 < (values map).countP counts) :
    ∃ other twin, other ≠ key ∧ map.lookup other = some twin ∧ counts twin := by
  have entry : (⟨key, value⟩ : (_ : Key) × Value) ∈ map.entries := AList.mem_lookup_iff.mp found
  obtain ⟨front, back, split⟩ := List.append_of_mem entry
  have unique := map.nodupKeys
  rw [split] at unique
  -- all but one of the values that count belong to other entries
  have rest : 0 < ((front ++ back).map Sigma.snd).countP counts := by
    have total : (values map).countP counts ≤ ((front ++ back).map Sigma.snd).countP counts + 1 := by
      simp only [values, split, List.map_append, List.map_cons, List.countP_append, List.countP_cons]
      split_ifs <;> omega
    omega
  obtain ⟨twin, member, holds⟩ := List.countP_pos_iff.mp rest
  obtain ⟨⟨other, _⟩, among, rfl⟩ := List.mem_map.mp member
  refine ⟨other, _, ?_, ?_, holds⟩
  · rintro rfl
    have keys : (front.keys ++ other :: back.keys).Nodup := by simpa [List.NodupKeys, List.keys] using unique
    refine (List.nodup_cons.mp (List.nodup_middle.mp keys)).1 ?_
    have listed : other ∈ (front ++ back).keys := List.mem_keys_of_mem among
    simpa [List.keys] using listed
  · refine AList.mem_lookup_iff.mpr ?_
    rw [split]
    exact (List.perm_middle.mem_iff).mpr (List.mem_cons_of_mem _ among)

/-! ## Filling a map in a loop -/

variable {Item : Type}

/-- Sets the key of each item that has a value, in order: a later item overwrites an earlier one. -/
def collect (key : Item → Key) (value : Item → Option Value) (items : List Item) : GoMap Key Value :=
  items.foldl (fun map item => match value item with
    | some found => map.insert (key item) found
    | none => map) ∅

section
variable (key : Item → Key) (value : Item → Option Value) (items : List Item)

theorem collect_append_single (item : Item) :
    collect key value (items ++ [item]) = match value item with
      | some found => (collect key value items).insert (key item) found
      | none => collect key value items := by
  simp [collect, List.foldl_append]

theorem lookup_collect (wanted : Key) :
    (collect key value items).lookup wanted =
      items.reverse.findSome? fun item => if key item = wanted then value item else none := by
  induction items using List.reverseRecOn with
  | nil => simp [collect]
  | append_singleton items item ih =>
    rw [collect_append_single, List.reverse_append, List.reverse_singleton, List.singleton_append,
      List.findSome?_cons]
    by_cases same : key item = wanted
    · cases given : value item with
      | none => simpa [same] using ih
      | some found => simp [same]
    · cases given : value item with
      | none => simpa [same] using ih
      | some found =>
        dsimp only
        rw [AList.lookup_insert_ne (Ne.symm same)]
        simpa [same] using ih

theorem exists_of_lookup_collect {key : Item → Key} {value : Item → Option Value} {items : List Item} {wanted : Key}
    {found : Value} (held : (collect key value items).lookup wanted = some found) :
    ∃ item ∈ items, key item = wanted ∧ value item = some found := by
  rw [lookup_collect] at held
  obtain ⟨item, member, sets⟩ := List.exists_of_findSome?_eq_some held
  split_ifs at sets with same
  exact ⟨item, List.mem_reverse.mp member, same, sets⟩

theorem lookup_collect_isSome {items : List Item} {item : Item}
    (member : item ∈ items) (given : (value item).isSome) : ((collect key value items).lookup (key item)).isSome := by
  rw [lookup_collect]
  exact List.findSome?_isSome_iff.mpr ⟨item, List.mem_reverse.mpr member, by simpa using given⟩

end

theorem lookup_collect_of_unique {key : Item → Key} {value : Item → Option Value} {items : List Item}
    (unique : (items.map key).Nodup) {item : Item} (member : item ∈ items) :
    (collect key value items).lookup (key item) = value item := by
  rw [lookup_collect]
  have alone : ∀ other ∈ items.reverse, key other = key item → other = item := fun other inside same =>
    List.inj_on_of_nodup_map unique (List.mem_reverse.mp inside) member same
  cases given : value item with
  | none =>
    rw [List.findSome?_eq_none_iff]
    intro other inside
    split_ifs with same
    · rw [alone other inside same, given]
    · rfl
  | some found =>
    rw [← lookup_collect]
    have held := lookup_collect_isSome key value member (by rw [given]; rfl)
    obtain ⟨result, produced⟩ := Option.isSome_iff_exists.mp held
    obtain ⟨other, inside, same, sets⟩ := exists_of_lookup_collect produced
    rw [alone other (List.mem_reverse.mpr inside) same, given] at sets
    rw [produced, sets]

end GoMap

end Ngfw.Lib

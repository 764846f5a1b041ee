import Mathlib.Data.List.Basic
import Mathlib.Data.Nat.ModEq

/-!
# Ring buffers

A ring of slots holds a queue from its head on, round its end.
-/

namespace Ngfw.Lib.Ring
variable {Value : Type}

def slot (capacity head place : Nat) : Nat :=
  (head + place) % capacity

theorem slot_lt {capacity head : Nat} (inside : head < capacity) (place : Nat) :
    slot capacity head place < capacity :=
  Nat.mod_lt _ (Nat.zero_lt_of_lt inside)

theorem slot_zero {capacity head : Nat} (inside : head < capacity) : slot capacity head 0 = head := by
  rw [slot, Nat.add_zero, Nat.mod_eq_of_lt inside]

theorem slot_injective {capacity head first second : Nat} (one : first < capacity) (two : second < capacity)
    (same : slot capacity head first = slot capacity head second) : first = second := by
  have equal : head + first ≡ head + second [MOD capacity] := same
  exact (Nat.ModEq.add_left_cancel' head equal).eq_of_lt_of_lt one two

theorem slot_next (capacity head place : Nat) :
    slot capacity ((head + 1) % capacity) place = slot capacity head (place + 1) := by
  rw [slot, slot, Nat.mod_add_mod, Nat.add_assoc, Nat.add_comm 1 place]

structure Holds (slots : List (Option Value)) (head : Nat) (values : List Value) : Prop where
  inside : head < slots.length
  room : values.length ≤ slots.length
  held : ∀ place value, values[place]? = some value → slots[slot slots.length head place]? = some (some value)

variable {slots : List (Option Value)} {head : Nat} {values : List Value}

theorem Holds.empty (positive : 0 < slots.length) : Holds slots 0 ([] : List Value) :=
  ⟨positive, Nat.zero_le _, fun place value found => by simp at found⟩

theorem Holds.push (holds : Holds slots head values) (room : values.length < slots.length) (value : Value) :
    Holds (slots.set (slot slots.length head values.length) (some value)) head (values ++ [value]) := by
  have here : slot slots.length head values.length < slots.length := slot_lt holds.inside _
  refine ⟨by simpa using holds.inside, by simpa using Nat.succ_le_of_lt room, ?_⟩
  intro place found stands
  rw [List.length_set]
  by_cases last : place = values.length
  · subst last
    rw [List.getElem?_append_right (le_refl _)] at stands
    simp only [Nat.sub_self, List.getElem?_cons_zero, Option.some.injEq] at stands
    rw [List.getElem?_set_self here, stands]
  · have within : place < values.length := by
      have bound := (List.getElem?_eq_some_iff.mp stands).1
      rw [List.length_append, List.length_singleton] at bound
      omega
    rw [List.getElem?_append_left within] at stands
    have apart : slot slots.length head values.length ≠ slot slots.length head place :=
      fun same => last (slot_injective room (within.trans room) same).symm
    rw [List.getElem?_set_ne apart]
    exact holds.held place found stands

theorem Holds.pop {value : Value} (holds : Holds slots head (value :: values)) :
    Holds (slots.set head none) ((head + 1) % slots.length) values := by
  have room : values.length < slots.length := by
    have bound := holds.room
    rw [List.length_cons] at bound
    omega
  refine ⟨by simpa using Nat.mod_lt _ (Nat.zero_lt_of_lt holds.inside), by simpa using room.le, ?_⟩
  intro place found stands
  have within : place < values.length := (List.getElem?_eq_some_iff.mp stands).1
  have apart : head ≠ slot slots.length head (place + 1) := by
    intro same
    have zero : 0 = place + 1 :=
      slot_injective (Nat.zero_lt_of_lt holds.inside) (by omega) ((slot_zero holds.inside).trans same)
    omega
  rw [List.length_set, slot_next, List.getElem?_set_ne apart]
  exact holds.held (place + 1) found (by simpa using stands)

theorem Holds.replace (holds : Holds slots head values) {place : Nat} (within : place < values.length)
    (value : Value) :
    Holds (slots.set (slot slots.length head place) (some value)) head (values.set place value) := by
  refine ⟨by simpa using holds.inside, by simpa using holds.room, ?_⟩
  intro other found stands
  rw [List.length_set]
  have bound : other < values.length := by simpa using (List.getElem?_eq_some_iff.mp stands).1
  by_cases same : other = place
  · subst same
    rw [List.getElem?_set_self within] at stands
    rw [List.getElem?_set_self (slot_lt holds.inside _), Option.some.inj stands]
  · rw [List.getElem?_set_ne (Ne.symm same)] at stands
    have apart : slot slots.length head place ≠ slot slots.length head other := fun equal =>
      same (slot_injective (bound.trans_le holds.room) (within.trans_le holds.room) equal.symm)
    rw [List.getElem?_set_ne apart]
    exact holds.held other found stands

end Ngfw.Lib.Ring

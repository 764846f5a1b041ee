import Ngfw.Domain.Service
import Ngfw.Lib.Numeral

/-! # Service selectors as text -/

namespace Ngfw.Domain
open Lib Lib.Text

def ServiceSelector.WellFormed (selector : ServiceSelector) : Prop :=
  selector.ports.isSome = selector.protocol.hasPorts

section
theorem ofName_name (protocol : ServiceProtocol) : ServiceProtocol.ofName protocol.name = some protocol := by
  cases protocol <;> decide

variable [CaseMap]

theorem parseServiceSelector_wellFormed {raw : String} {selector : ServiceSelector}
    (read : parseServiceSelector raw = .ok selector) : selector.WellFormed := by
  unfold parseServiceSelector at read
  dsimp only at read
  split at read
  · split at read
    · split_ifs at read with ports
      cases read
      simpa [ServiceSelector.WellFormed] using ports
    · cases read
  · split at read
    · split_ifs at read with ports
      split at read
      · cases read
        simpa [ServiceSelector.WellFormed] using ports
      · cases read
    · cases read
  · cases read

theorem toLower_name (protocol : ServiceProtocol) : toLower protocol.name = protocol.name := by
  have ascii : ∀ c ∈ protocol.name.toList, c.toNat < 128 := by
    have all : protocol.name.toList.all (·.toNat < 128) = true := by cases protocol <;> decide
    simpa using all
  rw [toLower_ascii ascii]
  cases protocol <;> decide

end

theorem isSpace_of_toDigits {n : Nat} : ∀ c ∈ Nat.toDigits 10 n, isSpace c = false := fun _ member =>
  isSpace_of_digit (digit_of_mem_decimal member)

theorem atoi_toDigits {n : Nat} (small : n ≤ 65535) : atoi (Nat.toDigits 10 n) = some (n : Int) := by
  obtain ⟨c, rest, written⟩ := List.exists_cons_of_ne_nil (Nat.toDigits_ne_nil (b := 10) (n := n))
  have readable : (digit c).isSome := digit_of_mem_decimal (written ▸ List.mem_cons_self)
  have read := digits_toDigits n
  rw [written] at read ⊢
  unfold atoi
  split
  · rename_i signed
    cases signed
    cases readable
  · rename_i signed
    cases signed
    cases readable
  · rw [read]
    simp
    omega

theorem parsePort_toDigits {least : Int} {n : Nat} (large : least ≤ n) (small : n ≤ 65535) :
    parsePort least (Nat.toDigits 10 n) = some n := by
  rw [parsePort, trimList_of_all isSpace_of_toDigits, atoi_toDigits small]
  simp [large]
  omega

def PortRange.text (range : PortRange) : List Char :=
  if range.first = range.last then Nat.toDigits 10 range.first
  else Nat.toDigits 10 range.first ++ '-' :: Nat.toDigits 10 range.last

theorem PortRange.text_chars (range : PortRange) : ∀ c ∈ range.text, (digit c).isSome ∨ c = '-' := by
  intro c member
  unfold PortRange.text at member
  split_ifs at member
  · exact .inl (digit_of_mem_decimal member)
  · rcases List.mem_append.mp member with low | high
    · exact .inl (digit_of_mem_decimal low)
    · rcases List.mem_cons.mp high with dash | high
      · exact .inr dash
      · exact .inl (digit_of_mem_decimal high)

theorem parsePortRange_text (range : PortRange) : parsePortRange range.text = some range := by
  have noDash : ∀ n, '-' ∉ Nat.toDigits 10 n := fun n member => by cases digit_of_mem_decimal member
  have trimmed : trimList range.text = range.text := by
    refine trimList_of_all fun c member => ?_
    rcases range.text_chars c member with digit | rfl
    · exact isSpace_of_digit digit
    · decide
  obtain ⟨first, last, positive, ordered, bounded⟩ := range
  rw [parsePortRange, trimmed]
  unfold PortRange.text
  dsimp only
  split_ifs with single
  · subst single
    rw [splitOn_of_notMem (noDash first)]
    simp [parsePort_toDigits (by omega : (1 : Int) ≤ first) bounded, makePortRange, positive, bounded]
  · rw [splitOn_append (noDash first), splitOn_of_notMem (noDash last)]
    simp [parsePort_toDigits (by omega : (1 : Int) ≤ first) (ordered.trans bounded),
      parsePort_toDigits (by omega : (first : Int) ≤ last) bounded, makePortRange, positive, ordered, bounded]

theorem ServiceSelector.toList_canonical (selector : ServiceSelector) : selector.canonical.toList =
    match selector.ports with
    | none => selector.protocol.name.toList
    | some range => selector.protocol.name.toList ++ ':' :: range.text := by
  unfold ServiceSelector.canonical
  cases selector.ports with
  | none => rfl
  | some range =>
    dsimp only
    unfold PortRange.text
    split_ifs <;> simp [decimal]

theorem name_chars (protocol : ServiceProtocol) : ∀ c ∈ protocol.name.toList, c ≠ ':' ∧ isSpace c = false := by
  have all : protocol.name.toList.all (fun c => c ≠ ':' ∧ isSpace c = false) = true := by cases protocol <;> decide
  simpa using all

theorem ServiceSelector.canonical_chars (selector : ServiceSelector) :
    ∀ c ∈ selector.canonical.toList, isSpace c = false := by
  intro c member
  rw [selector.toList_canonical] at member
  cases ports : selector.ports with
  | none =>
    rw [ports] at member
    exact (name_chars selector.protocol c member).2
  | some range =>
    rw [ports] at member
    rcases List.mem_append.mp member with inName | behind
    · exact (name_chars selector.protocol c inName).2
    · rcases List.mem_cons.mp behind with rfl | inRange
      · decide
      · rcases range.text_chars c inRange with digit | rfl
        · exact isSpace_of_digit digit
        · decide

theorem parseServiceSelector_canonical [CaseMap] {selector : ServiceSelector} (formed : selector.WellFormed) :
    parseServiceSelector selector.canonical = .ok selector := by
  obtain ⟨protocol, ports⟩ := selector
  have trimmed := trimList_of_all (ServiceSelector.canonical_chars ⟨protocol, ports⟩)
  have noColon : ':' ∉ protocol.name.toList := fun member => (name_chars protocol _ member).1 rfl
  have nameTrimmed : trimList protocol.name.toList = protocol.name.toList :=
    trimList_of_all fun c member => (name_chars protocol c member).2
  unfold ServiceSelector.WellFormed at formed
  unfold parseServiceSelector
  dsimp only at formed ⊢
  rw [trimmed, ServiceSelector.toList_canonical]
  cases ports with
  | none =>
    rw [splitOn_of_notMem noColon]
    simp [nameTrimmed, toLower_name, ofName_name, ← formed]
  | some range =>
    have rangeColon : ':' ∉ range.text := by
      intro member
      rcases range.text_chars _ member with digit | dash
      · cases digit
      · cases dash
    rw [splitOn_append noColon, splitOn_of_notMem rangeColon]
    simp [nameTrimmed, toLower_name, ofName_name, ← formed, parsePortRange_text]

end Ngfw.Domain

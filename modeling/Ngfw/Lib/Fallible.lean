import Mathlib.Data.List.Forall2

/-!
# Computations that may fail
-/

namespace Ngfw.Lib
variable {Error Value Result : Type} {values : List Value}

variable {results : List Result} {related : Value → Result → Prop} {computation : Except Error Value}
  {result : Result} {f : Value → Except Error Result} {value : Value}

theorem map_ok {f : Value → Result} :
    computation.map f = .ok result ↔ ∃ value, computation = .ok value ∧ f value = result := by
  cases computation with
  | error failure => simp [Except.map]
  | ok value => simp [Except.map]

theorem bind_ok :
    (computation >>= f) = .ok result ↔ ∃ value, computation = .ok value ∧ f value = .ok result := by
  cases computation with
  | error | ok => simp [bind, Except.bind]

theorem toOption_some : computation.toOption = some value ↔ computation = .ok value := by
  cases computation with
  | error failure => simp [Except.toOption]
  | ok value => simp [Except.toOption]

instance decidableOk {computation : Except Error Value} {holds : Value → Prop} [DecidablePred holds] :
    Decidable (∃ value, computation = .ok value ∧ holds value) :=
  match computation with
  | .error _ => isFalse (by simp)
  | .ok value => decidable_of_iff (holds value) (by simp)

abbrev Yields (f : Value → Except Error Result) : List Value → List Result → Prop :=
  List.Forall₂ fun value result => f value = .ok result

theorem mapM_ok : values.mapM f = .ok results ↔ Yields f values results := by
  induction values generalizing results with
  | nil => simp [pure, Except.pure, eq_comm]
  | cons value values ih =>
    rw [List.mapM_cons, bind_ok]
    constructor
    · rintro ⟨first, mapped, rest⟩
      obtain ⟨others, mappedOthers, assembled⟩ := bind_ok.mp rest
      cases assembled
      exact .cons mapped (ih.mp mappedOthers)
    · rintro (_ | ⟨mapped, mappedOthers⟩)
      exact ⟨_, mapped, bind_ok.mpr ⟨_, ih.mpr mappedOthers, rfl⟩⟩

theorem mapM_some {f : Value → Option Result} :
    values.mapM f = some results ↔ List.Forall₂ (fun value result => f value = some result) values results := by
  induction values generalizing results with
  | nil => simp [eq_comm]
  | cons value values ih =>
    rw [List.mapM_cons]
    constructor
    · intro mapped
      obtain ⟨first, firstMapped, rest⟩ := Option.bind_eq_some_iff.mp mapped
      obtain ⟨others, othersMapped, assembled⟩ := Option.bind_eq_some_iff.mp rest
      cases assembled
      exact .cons firstMapped (ih.mp othersMapped)
    · rintro (_ | ⟨mapped, mappedOthers⟩)
      simp [mapped, ih.mpr mappedOthers]

theorem map_eq_of_forall₂ {Key : Type*} {left : Value → Key} {right : Result → Key}
    (related : List.Forall₂ (fun value result => left value = right result) values results) :
    values.map left = results.map right := by
  induction related with
  | nil => rfl
  | cons same _ ih => rw [List.map_cons, List.map_cons, same, ih]

theorem forall₂_mem_right (all : List.Forall₂ related values results) (member : result ∈ results) :
    ∃ value ∈ values, related value result := by
  induction all with
  | nil => cases member
  | cons head _ ih =>
    rcases List.mem_cons.mp member with rfl | member
    · exact ⟨_, List.mem_cons_self, head⟩
    · obtain ⟨value, inside, holds⟩ := ih member
      exact ⟨value, List.mem_cons_of_mem _ inside, holds⟩

theorem forall₂_mem_left (all : List.Forall₂ related values results) (member : value ∈ values) :
    ∃ result ∈ results, related value result := by
  induction all with
  | nil => cases member
  | cons head _ ih =>
    rcases List.mem_cons.mp member with rfl | member
    · exact ⟨_, List.mem_cons_self, head⟩
    · obtain ⟨result, inside, holds⟩ := ih member
      exact ⟨result, List.mem_cons_of_mem _ inside, holds⟩

theorem forall₂_of_exists
    (each : ∀ value ∈ values, ∃ result, related value result) :
    ∃ results, List.Forall₂ related values results := by
  induction values with
  | nil => exact ⟨[], .nil⟩
  | cons value values ih =>
    obtain ⟨result, own⟩ := each value List.mem_cons_self
    obtain ⟨results, others⟩ := ih fun other member => each other (List.mem_cons_of_mem _ member)
    exact ⟨result :: results, .cons own others⟩

theorem forall₂_step {Other : Type} {next : Value → Other → Prop}
    {linked : Result → Other → Prop}
    (step : ∀ value result, related value result → ∃ other, next value other ∧ linked result other)
    (all : List.Forall₂ related values results) :
    ∃ others, List.Forall₂ next values others ∧ List.Forall₂ linked results others := by
  induction all with
  | nil => exact ⟨[], .nil, .nil⟩
  | cons head _ ih =>
    obtain ⟨other, own, link⟩ := step _ _ head
    obtain ⟨others, rest, links⟩ := ih
    exact ⟨other :: others, .cons own rest, .cons link links⟩

section
variable {related : Value → Result → Prop} {values : List Value} {results : List Result} {p : Value → Bool}
  {q : Result → Bool} (all : List.Forall₂ related values results)
  (same : ∀ value result, related value result → p value = q result)
include all same

theorem any_forall₂ : values.any p = results.any q := by
  induction all with
  | nil => rfl
  | cons head _ ih => rw [List.any_cons, List.any_cons, same _ _ head, ih]

theorem find?_forall₂ : Option.Rel related (values.find? p) (results.find? q) := by
  induction all with
  | nil => exact .none
  | @cons value result _ _ head _ ih =>
    rw [List.find?_cons, List.find?_cons, same _ _ head]
    cases q result with
    | true => exact .some head
    | false => exact ih

end

end Ngfw.Lib

import Ngfw.Connectivity.Inspection

/-! # What compiles to a program -/

namespace Ngfw.Connectivity
open Lib Lib.Text Lib.Netip Domain
variable [CaseMap]

variable {policy : SecurityPolicy} {seen : List Int} {policies : List SecurityPolicy} {rules : List Rule} {c : Config}
  {services : List Service} {rule : Rule}

theorem compileRules_iff :
    compileRules seen policies = .ok rules ↔ (∀ policy ∈ policies, policy.priority ∉ seen) ∧
      (policies.map SecurityPolicy.priority).Nodup ∧
      Yields compileRule (policies.filter (·.enabled)) rules := by
  induction policies generalizing seen rules with
  | nil =>
    simp only [compileRules, List.filter_nil, List.forall₂_nil_left_iff, List.not_mem_nil, false_imp_iff,
      implies_true, List.map_nil, List.nodup_nil, true_and]
    exact ⟨fun same => (Except.ok.inj same).symm, fun empty => congrArg _ empty.symm⟩
  | cons policy policies ih =>
    -- What is left of the conditions once the first policy is taken off.
    have conditions : ((∀ other ∈ policies, other.priority ∉ policy.priority :: seen) ∧
          (policies.map SecurityPolicy.priority).Nodup) ∧ policy.priority ∉ seen ↔
        (∀ other ∈ policy :: policies, other.priority ∉ seen) ∧
          ((policy :: policies).map SecurityPolicy.priority).Nodup := by
      simp only [List.mem_cons, not_or, List.map_cons, List.nodup_cons, List.mem_map, forall_eq_or_imp]
      grind
    rw [← and_assoc, ← conditions]
    unfold compileRules
    split_ifs with repeated disabled
    · simp [repeated]
    · rw [List.filter_cons_of_neg (by simpa using disabled), ih, ← and_assoc]
      simp [repeated]
    · rw [List.filter_cons_of_pos (by simpa using disabled), Yields, List.forall₂_cons_left_iff]
      cases own : compileRule policy with
      | error failure => simp
      | ok rule =>
        simp only [map_ok, ih, ← and_assoc]
        grind

theorem compileRules_spec (compiled : compileRules seen policies = .ok rules) :
    Yields compileRule (policies.filter (·.enabled)) rules :=
  (compileRules_iff.mp compiled).2.2

theorem compile_spec {generation : UInt64} {program : Program} (compiled : compile c generation = .ok program) :
    Yields compileRule ((sortByPriority c.policies).filter (·.enabled)) program.rules ∧
      program.defaultDeny = c.defaultDeny ∧ program.generation = generation ∧
      program.managementZones = managementZonesOf c := by
  obtain ⟨rules, renders, rfl⟩ := map_ok.mp compiled
  exact ⟨compileRules_spec renders, rfl, rfl, rfl⟩

theorem compileServices_iff {policyID : String} {values : List String} :
    compileServices policyID values = .ok services ↔ Yields parseService values services := by
  induction values generalizing services with
  | nil =>
    rw [Yields, List.forall₂_nil_left_iff]
    exact ⟨fun same => (Except.ok.inj same).symm, fun empty => congrArg _ empty.symm⟩
  | cons value values ih =>
    rw [Yields, List.forall₂_cons_left_iff]
    unfold compileServices
    cases read : parseService value with
    | error failure => simp
    | ok service =>
      dsimp only
      rw [map_ok]
      constructor
      · rintro ⟨rest, others, rfl⟩
        exact ⟨service, rest, rfl, ih.mp others, rfl⟩
      · rintro ⟨_, rest, same, others, rfl⟩
        cases same
        exact ⟨rest, ih.mpr others, rfl⟩

theorem compileRule_spec (compiled : compileRule policy = .ok rule) :
    isL3Action policy.action = true ∧
      prefixes policy.sourceAddresses = some rule.sourceAddresses ∧
      prefixes policy.destinationAddresses = some rule.destinationAddresses ∧
      Yields parseService policy.services rule.services ∧
      rule.sourceZones = stringSet policy.sourceZones ∧ rule.destinationZones = stringSet policy.destinationZones ∧
      rule.id = policy.id ∧ rule.action = policy.action ∧ rule.enabled = true := by
  unfold compileRule at compiled
  split_ifs at compiled with unsupported
  split at compiled
  · cases compiled
  · rename_i sourcesRead
    split at compiled
    · cases compiled
    · rename_i destinationsRead
      obtain ⟨services, servicesRead, rfl⟩ := map_ok.mp compiled
      exact ⟨by simpa using unsupported, sourcesRead, destinationsRead, compileServices_iff.mp servicesRead,
        rfl, rfl, rfl, rfl, rfl⟩

theorem compileRule_ok {sources destinations : List Prefix}
    (supported : isL3Action policy.action) (sourcesRead : prefixes policy.sourceAddresses = some sources)
    (destinationsRead : prefixes policy.destinationAddresses = some destinations)
    (servicesRead : Yields parseService policy.services services) :
    ∃ rule, compileRule policy = .ok rule := by
  simp only [compileRule, supported, sourcesRead, destinationsRead, compileServices_iff.mpr servicesRead]
  exact ⟨_, rfl⟩

theorem parseService_blank {service : Service} : parseService "" ≠ .ok service := by
  intro read
  cases read

theorem compileRule_services_named (compiled : compileRule policy = .ok rule) : "" ∉ policy.services := by
  intro blank
  obtain ⟨_, _, _, services, _⟩ := compileRule_spec compiled
  obtain ⟨service, _, read⟩ := forall₂_mem_left services blank
  exact parseService_blank read

theorem compileM3_spec {generation : UInt64} {program : Program}
    (compiled : compileM3 c generation = .ok program) : ∃ base, compile c generation = .ok base ∧ program =
      { base with
        inspectionIncludeManagement := (effectiveInspectionConfig c).includeManagement
        selections := GoMap.collect Rule.id (fun rule => some (compileSelection c generation rule)) base.rules } := by
  unfold compileM3 at compiled
  split_ifs at compiled
  obtain ⟨base, compiledBase, rfl⟩ := map_ok.mp compiled
  exact ⟨base, compiledBase, rfl⟩

end Ngfw.Connectivity

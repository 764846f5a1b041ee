import Ngfw.Proof.Connectivity.Program

/-! # The gates of an M4 program -/

namespace Ngfw.Connectivity
open Lib Lib.Text Lib.Netip Domain Config

variable {c : Config} {value : UInt16} {profile : SecurityProfile} {policy : SecurityPolicy} {rule : Rule} {id : String}
  {exclusions : List TLSExclusionRule} {plan : RequestGatePlan} {gate : RequestGateProfile} {view : View}
  {program : Program} {generation : UInt64}

/-- Between two ranges there is a port of neither. -/
def Separated (ports : List PortRange) : Prop :=
  ports.Pairwise fun earlier later => earlier.last + 1 < later.first

def WithinPorts (ports : List PortRange) (value : UInt16) : Prop :=
  ∃ port ∈ ports, port.contains value

theorem mergePort_spec {merged : List PortRange} {port : PortRange} (separated : Separated merged.reverse)
    (ordered : ∀ last ∈ merged.head?, last.first ≤ port.first) :
    Separated (mergePort merged port).reverse ∧
      (∀ last ∈ (mergePort merged port).head?, last.first ≤ port.first) ∧
      ∀ value, WithinPorts (mergePort merged port) value ↔ WithinPorts merged value ∨ port.contains value := by
  cases merged with
  | nil => simp [mergePort, Separated, WithinPorts]
  | cons last rest =>
    have before : last.first ≤ port.first := ordered last rfl
    simp only [Separated, List.pairwise_reverse, List.pairwise_cons] at separated ⊢
    simp only [mergePort]
    split_ifs with apart longer
    · refine ⟨List.pairwise_cons.mpr ⟨?_, List.pairwise_cons.mpr separated⟩, by simp, fun value => ?_⟩
      · rintro other (_ | ⟨_, member⟩)
        · exact apart
        · have := separated.1 other member
          have := last.ordered
          omega
      · simp [WithinPorts, or_comm]
    · refine ⟨List.pairwise_cons.mpr separated, by simpa using before, fun value => ?_⟩
      -- the joined range has no port between the two
      have joined : last.first ≤ value.toNat ∧ value.toNat ≤ port.last ↔
          (last.first ≤ value.toNat ∧ value.toNat ≤ last.last) ∨ port.first ≤ value.toNat ∧
            value.toNat ≤ port.last := by
        omega
      simp [WithinPorts, PortRange.contains, joined, or_assoc, or_comm]
    · refine ⟨List.pairwise_cons.mpr separated, by simpa using before, fun value => ?_⟩
      have inside : port.contains value → last.contains value := by
        simp only [PortRange.contains, decide_eq_true_eq]
        omega
      simp only [WithinPorts, List.mem_cons, exists_eq_or_imp]
      exact (or_iff_left_of_imp fun contains => .inl (inside contains)).symm

theorem sorted_ports (ports : List PortRange) :
    (ports.insertionSort fun a b => a.first < b.first ∨ a.first = b.first ∧ a.last ≤ b.last).Pairwise
      (·.first ≤ ·.first) := by
  have total : Std.Total fun a b : PortRange => a.first < b.first ∨ a.first = b.first ∧ a.last ≤ b.last :=
    ⟨fun a b => by omega⟩
  have trans : IsTrans PortRange fun a b => a.first < b.first ∨ a.first = b.first ∧ a.last ≤ b.last :=
    ⟨fun a b c => by omega⟩
  exact (List.pairwise_insertionSort _ ports).imp fun before => by omega

theorem mergePorts_spec {ports : List PortRange} (ordered : ports.Pairwise (·.first ≤ ·.first)) :
    Separated (mergePorts ports) ∧ ∀ value, WithinPorts (mergePorts ports) value ↔ WithinPorts ports value := by
  have general : ∀ merged, Separated merged.reverse →
      (∀ last ∈ merged.head?, ∀ port ∈ ports, last.first ≤ port.first) →
      Separated (ports.foldl mergePort merged).reverse ∧ ∀ value,
        WithinPorts (ports.foldl mergePort merged) value ↔ WithinPorts merged value ∨ WithinPorts ports value := by
    induction ports with
    | nil => exact fun merged separated _ => ⟨separated, fun value => by simp [WithinPorts]⟩
    | cons port ports ih =>
      intro merged separated first
      obtain ⟨least, ordered⟩ := List.pairwise_cons.mp ordered
      obtain ⟨apart, head, within⟩ :=
        mergePort_spec separated fun last top => first last top port List.mem_cons_self
      obtain ⟨all, members⟩ := ih ordered _ apart fun last top other member =>
        (head last top).trans (least other member)
      refine ⟨all, fun value => (members value).trans ?_⟩
      rw [within]
      simp [WithinPorts, or_assoc]
  obtain ⟨separated, members⟩ := general [] (by simp [Separated]) (by simp)
  exact ⟨separated, fun value => by simpa [mergePorts, WithinPorts] using members value⟩

def GatedPort (rule : Rule) (value : UInt16) : Prop :=
  if rule.services = [] then value = 80 ∨ value = 443
  else ∃ service ∈ rule.services, service.protocol = 6 ∧ ∃ port, service.ports = some port ∧
    port.contains value

theorem requestGateTCPPorts_spec (rule : Rule) : Separated (requestGateTCPPorts rule) ∧
    ∀ value, WithinPorts (requestGateTCPPorts rule) value ↔ GatedPort rule value := by
  unfold requestGateTCPPorts GatedPort
  simp only [List.isEmpty_iff]
  split_ifs with empty
  · refine ⟨by simp [Separated, standardPorts, httpPort], fun value => ?_⟩
    simp [WithinPorts, standardPorts, httpPort, PortRange.contains, ← UInt16.toNat_inj]
    omega
  · obtain ⟨separated, members⟩ := mergePorts_spec
      (sorted_ports ((rule.services.filter (·.protocol == 6)).filterMap (·.ports)))
    refine ⟨separated, fun value => (members value).trans ?_⟩
    simp only [WithinPorts, List.mem_insertionSort, List.mem_filterMap, List.mem_filter, beq_iff_eq]
    constructor
    · rintro ⟨port, ⟨service, ⟨listed, tcp⟩, ports⟩, contains⟩
      exact ⟨service, listed, tcp, port, ports, contains⟩
    · rintro ⟨service, listed, tcp, port, ports, contains⟩
      exact ⟨port, ⟨service, ⟨listed, tcp⟩, ports⟩, contains⟩

theorem requestGateTCPPorts_matches (inside : (requestGateTCPPorts rule).any (·.contains value)) :
    (rule.services.isEmpty || rule.services.any (serviceMatch · 6 value)) = true := by
  have gated := ((requestGateTCPPorts_spec rule).2 value).mp (by simpa [WithinPorts] using inside)
  unfold GatedPort at gated
  split_ifs at gated with empty
  · simp [empty]
  · obtain ⟨service, listed, protocol, port, ports, contains⟩ := gated
    rw [Bool.or_eq_true, List.any_eq_true]
    exact .inr ⟨service, listed, by simp [serviceMatch, protocol, ports, contains]⟩

/-! ## Gate plans -/

theorem profileByID_spec (found : profileByID c id = some profile) : profile ∈ c.profiles ∧ profile.id = id :=
  ⟨by simpa using List.mem_of_find?_eq_some found, by simpa using List.find?_some found⟩

theorem compileGate_spec (compiled : compileGate c program exclusions policy = some plan) :
    policy.enabled = true ∧ policy.action = .allow ∧
      ∃ profile gate, profileByID c policy.securityProfileID = some profile ∧ profile.requestGate = some gate ∧
        gate.enabled = true ∧ plan.enabled = true ∧ plan.policyID = policy.id ∧ plan.profileID = profile.id ∧
        plan.blockQUIC = gate.blockQUIC := by
  unfold compileGate at compiled
  split_ifs at compiled with off
  split at compiled
  · cases compiled
  · rename_i profile found
    split at compiled
    · cases compiled
    · rename_i gate gated
      split_ifs at compiled with disabled
      cases compiled
      simp only [not_or, Bool.not_eq_true, Bool.not_eq_false', ne_eq, not_not] at off disabled
      exact ⟨by simpa using off.1, off.2, profile, gate, found, gated, by simpa using disabled, rfl, rfl, rfl, rfl⟩

theorem compileGate_isSome (enabled : policy.enabled) (allowed : policy.action = .allow)
    (found : profileByID c policy.securityProfileID = some profile) (gated : profile.requestGate = some gate)
    (on : gate.enabled) : (compileGate c program exclusions policy).isSome := by
  simp [compileGate, enabled, allowed, found, gated, on]

theorem compileM4_spec [CaseMap] (used : usesM4 c) (compiled : compileM4 c generation = .ok program) :
    validateRequestGate c = [] ∧ ∃ base exclusions, compileM3 c generation = .ok base ∧
      program = { base with requestGates := compileGates c base exclusions } := by
  have valid : validateRequestGate c = [] := by
    by_contra errors
    rw [compileM4, if_pos ⟨used, errors⟩] at compiled
    cases compiled
  refine ⟨valid, ?_⟩
  rw [compileM4, if_neg (by simp [valid])] at compiled
  split at compiled
  · cases compiled
  · split at compiled
    · cases compiled
    · rename_i base compiledBase
      rw [if_neg (by simp [used])] at compiled
      obtain ⟨exclusions, _, rfl⟩ := map_ok.mp compiled
      exact ⟨base, exclusions, compiledBase, rfl⟩

theorem selectRequestGate_of_none [CaseMap]
    (undecided : program.rules.find? (fun rule => rule.enabled && ruleMatches rule view) = none) :
    (selectRequestGate program view).enabled = false := by
  rw [selectRequestGate, Program.evaluate, undecided]
  dsimp only
  rw [if_pos (.inr (.inl (by split_ifs <;> rfl)))]

theorem selectRequestGate_of_rule [CaseMap]
    (decided : program.rules.find? (fun rule => rule.enabled && ruleMatches rule view) = some rule) :
    selectRequestGate program view =
      if rule.action ≠ .allow ∨ rule.id = "" ∨ view.protocol ≠ 6 then
        { policyID := rule.id, generation := program.generation }
      else match program.requestGates.lookup rule.id with
        | none => { policyID := rule.id, generation := program.generation }
        | some plan =>
          if plan.tcpPorts.any (·.contains view.destinationPort) then plan
          else { policyID := rule.id, generation := program.generation } := by
  have evaluated : program.evaluate view =
      { action := rule.action, policyID := rule.id, generation := program.generation
        reason := "policy " ++ rule.id ++ " matched" } := by
    simp only [Program.evaluate, decided]
  unfold selectRequestGate
  generalize program.evaluate view = decision at evaluated
  subst evaluated
  rfl

theorem compileM4_rules [CaseMap] (used : usesM4 c) (compiled : compileM4 c generation = .ok program) :
    Yields compileRule ((sortByPriority c.policies).filter (·.enabled)) program.rules := by
  obtain ⟨_, m3, _, compiledM3, rfl⟩ := compileM4_spec used compiled
  obtain ⟨base, compiledBase, rfl⟩ := compileM3_spec compiledM3
  exact (compile_spec compiledBase).1

theorem requestGates_spec [CaseMap] (used : usesM4 c) (compiled : compileM4 c generation = .ok program)
    (found : program.requestGates.lookup id = some plan) :
    plan.enabled = true ∧ plan.policyID = id ∧ ∃ policy ∈ c.policies, policy.id = id ∧
      policy.enabled = true ∧
      ∃ profile gate, profileByID c policy.securityProfileID = some profile ∧ profile.requestGate = some gate ∧
        gate.enabled = true ∧ plan.profileID = profile.id := by
  obtain ⟨_, base, exclusions, _, rfl⟩ := compileM4_spec used compiled
  obtain ⟨policy, listed, rfl, gated⟩ := GoMap.exists_of_lookup_collect found
  obtain ⟨enabled, _, profile, gate, profiled, gates, on, planOn, planID, planProfile, _⟩ := compileGate_spec gated
  exact ⟨planOn, planID, policy, listed, rfl, enabled, profile, gate, profiled, gates, on, planProfile⟩

theorem requestGates_isSome [CaseMap] (used : usesM4 c)
    (compiled : compileM4 c generation = .ok program) (listed : policy ∈ c.policies) (enabled : policy.enabled)
    (named : policy.securityProfileID ≠ "") (profiled : profileByID c policy.securityProfileID = some profile)
    (gates : profile.requestGate = some gate) (on : gate.enabled) :
    (program.requestGates.lookup policy.id).isSome := by
  obtain ⟨valid, base, exclusions, _, rfl⟩ := compileM4_spec used compiled
  have allowed : policy.action = .allow := by
    rw [validateRequestGate, if_neg (by simp [used])] at valid
    simp only [List.append_eq_nil_iff, List.flatMap_eq_nil_iff] at valid
    have own := valid.1.1.1.2 policy listed
    simp only [gatePolicyErrors, profiled, Option.bind_some, gates, Option.any_some, on, named, enabled, Bool.not_true,
      Bool.false_eq_true, or_self, if_false, List.append_eq_nil_iff, errorIf_eq_nil, not_or, not_not] at own
    exact own.1.1
  exact GoMap.lookup_collect_isSome _ _ listed (compileGate_isSome enabled allowed profiled gates on)

end Ngfw.Connectivity

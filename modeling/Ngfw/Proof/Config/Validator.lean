import Ngfw.Config.Validator

/-! # What the validator guarantees -/

namespace Ngfw.Config
open Lib Lib.Text Domain
open List (append_eq_nil_iff)

section
variable {Value Key : Type} {check : List Value → Value → List String} {key : Value → Key}

theorem accepted_of_withEarlier {before values : List Value} (accepted : withEarlier check before values = [])
    {value : Value} (listed : value ∈ values) : ∃ earlier, check earlier value = [] := by
  induction values generalizing before with
  | nil => cases listed
  | cons first values ih =>
    obtain ⟨own, rest⟩ := append_eq_nil_iff.mp accepted
    rcases List.mem_cons.mp listed with rfl | later
    · exact ⟨before, own⟩
    · exact ih rest later

theorem nodup_of_withEarlier
    (distinct : ∀ before value, check before value = [] → ∀ other ∈ before, key other ≠ key value)
    {values : List Value} (accepted : withEarlier check [] values = []) : (values.map key).Nodup := by
  have general : ∀ (values before : List Value), withEarlier check before values = [] →
      (values.map key).Nodup ∧ ∀ value ∈ values, ∀ other ∈ before, key other ≠ key value := by
    intro values
    induction values with
    | nil => simp
    | cons value values ih =>
      intro before accepted
      obtain ⟨own, rest⟩ := append_eq_nil_iff.mp accepted
      obtain ⟨unique, apart⟩ := ih (before ++ [value]) rest
      refine ⟨?_, ?_⟩
      · rw [List.map_cons, List.nodup_cons]
        refine ⟨fun repeated => ?_, unique⟩
        obtain ⟨other, inside, same⟩ := List.mem_map.mp repeated
        exact apart other inside value (by simp) same.symm
      · intro other inside earlier member
        rcases List.mem_cons.mp inside with rfl | inside
        · exact distinct before other own earlier member
        · exact apart other inside earlier (List.mem_append_left _ member)
  exact (general values [] accepted).1

theorem withEarlier_map {f : Value → Value} {holds : Value → Prop}
    (step : ∀ before value, check before value = [] → (check (before.map f) (f value) = [] ↔ holds value))
    {values : List Value} (accepted : withEarlier check [] values = []) :
    withEarlier check [] (values.map f) = [] ↔ ∀ value ∈ values, holds value := by
  have general : ∀ (values before : List Value), withEarlier check before values = [] →
      (withEarlier check (before.map f) (values.map f) = [] ↔ ∀ value ∈ values, holds value) := by
    intro values
    induction values with
    | nil => simp [withEarlier]
    | cons value values ih =>
      intro before accepted
      obtain ⟨own, rest⟩ := append_eq_nil_iff.mp accepted
      have later := ih (before ++ [value]) rest
      rw [List.map_append] at later
      rw [List.map_cons, withEarlier, append_eq_nil_iff, step before value own, List.forall_mem_cons]
      exact and_congr_right fun _ => later
  exact general values [] accepted

end

section
variable [CaseMap] {c : Config}

theorem validate_policies (valid : validate c = []) : withEarlier (policyErrors c) [] c.policies = [] := by
  simp only [validate, append_eq_nil_iff] at valid
  exact valid.1.1.1.1.1.2

end

/-! ## Identifiers -/

section
variable {text : String}

theorem isAlphanum_range {c : Char} (letter : c.isAlphanum) : 48 ≤ c.toNat ∧ c.toNat < 123 := by
  delta Char.isAlphanum Char.isAlpha Char.isUpper Char.isLower at letter
  simp only [Char.isDigit, Bool.or_eq_true,
    Bool.and_eq_true, decide_eq_true_eq, ge_iff_le, UInt32.le_iff_toNat_le] at letter
  simp at letter
  omega

section
variable (identifier : isIdentifier text)
include identifier

theorem identifier_chars : ∀ c ∈ text.toList, 45 ≤ c.toNat ∧ c.toNat < 123 := by
  unfold isIdentifier isName at identifier
  intro c member
  split at identifier
  · cases identifier
  · rename_i first rest written
    rw [Bool.and_eq_true, Bool.and_eq_true] at identifier
    rw [written] at member
    rcases List.mem_cons.mp member with rfl | later
    · have range := isAlphanum_range identifier.1.1
      omega
    · have tail := List.all_eq_true.mp identifier.2 c later
      simp only [identifierTail, Bool.or_eq_true, beq_iff_eq] at tail
      rcases tail with ((letter | rfl) | rfl) | rfl
      · have range := isAlphanum_range letter
        omega
      all_goals decide

theorem identifier_nonempty : text ≠ "" := by
  rintro rfl
  cases identifier

theorem identifier_trimmed : trimSpace text = text := by
  have plain : ∀ c ∈ text.toList, isSpace c = false := by
    intro c member
    have range := identifier_chars identifier c member
    simp only [isSpace]
    simp
    omega
  exact trimSpace_of_all plain

theorem identifier_ascii : ∀ c ∈ text.toList, c.toNat < 128 := by
  intro c member
  have range := identifier_chars identifier c member
  omega

end

end

/-! ## Zones, interfaces and address translation -/

theorem fieldError_eq_nil {field : String} {outcome : Option String} :
    fieldError field outcome = [] ↔ outcome = none := by
  cases outcome <;> simp [fieldError]

section
variable {c : Config}

theorem riskErrors_eq_nil {risk : Option Int} {name : String} :
    riskErrors policy risk name = [] ↔ ∀ value ∈ risk, 0 ≤ value ∧ value ≤ 100 := by
  cases risk <;> simp [riskErrors]

variable [CaseMap]

theorem zone_identifier (valid : validate c = []) {zone : String} (known : knownZone c zone) :
    isIdentifier zone = true := by
  simp only [validate, append_eq_nil_iff] at valid
  obtain ⟨entry, listed, same⟩ := List.any_eq_true.mp known
  obtain ⟨earlier, accepted⟩ := accepted_of_withEarlier valid.1.1.1.1.1.1.1.1.1.1.1 listed
  simp only [zoneErrors, identifierError, append_eq_nil_iff, errorIf_eq_nil] at accepted
  rw [beq_iff_eq] at same
  simpa [same] using accepted.1

variable {policy : SecurityPolicy} {iface : Interface}

theorem interface_accepted (valid : validate c = []) (listed : iface ∈ c.interfaces) :
    (iface.zoneID = "" ∨ knownZone c iface.zoneID = true) ∧
      (∀ address ∈ iface.ipv4Addresses, validateAddressFamily address false = none) ∧
      ∀ address ∈ iface.ipv6Addresses, validateAddressFamily address true = none := by
  simp only [validate, append_eq_nil_iff] at valid
  obtain ⟨earlier, accepted⟩ := accepted_of_withEarlier valid.1.1.1.1.1.1.1.1.1.1.2 listed
  simp only [interfaceErrors, append_eq_nil_iff, errorIf_eq_nil, List.flatMap_eq_nil_iff, fieldError_eq_nil]
    at accepted
  obtain ⟨⟨⟨⟨⟨-, zone⟩, -⟩, -⟩, four⟩, six⟩ := accepted
  refine ⟨?_, four, six⟩
  by_contra neither
  rw [not_or] at neither
  exact zone ⟨neither.1, by simpa using neither.2⟩

theorem zoneID_identifier (valid : validate c = []) (listed : iface ∈ c.interfaces)
    (zoned : iface.zoneID ≠ "") : isIdentifier iface.zoneID = true :=
  zone_identifier valid ((interface_accepted valid listed).1.resolve_left zoned)

theorem dnat_accepted (valid : validate c = []) {rule : NATRule} (listed : rule ∈ c.natRules)
    (enabled : rule.enabled) (dnat : toUpper rule.type = "DNAT") :
    rule.destinationZone ≠ "" ∧ ipv4BelongsToZone rule.translatedAddress rule.destinationZone c = true := by
  simp only [validate, append_eq_nil_iff] at valid
  obtain ⟨earlier, accepted⟩ := accepted_of_withEarlier valid.1.1.1.1.1.1.1.2 listed
  simp only [natErrors, enabled, if_true, append_eq_nil_iff] at accepted
  obtain ⟨⟨⟨⟨⟨-, own⟩, -⟩, -⟩, -⟩, target⟩ := accepted
  simp only [enabledNATErrors, append_eq_nil_iff, errorIf_eq_nil, not_or] at own
  obtain ⟨⟨⟨-, zones⟩, -⟩, -⟩ := own
  simp only [natTargetErrors, dnat, append_eq_nil_iff] at target
  obtain ⟨⟨⟨-, inZone⟩, -⟩, -⟩ := target
  refine ⟨zones.2, ?_⟩
  by_cases missing : rule.translatedAddress = ""
  · simp [missing] at inZone
  · simpa [missing, zones.2] using inZone

structure AcceptedPolicy (c : Config) (policy : SecurityPolicy) : Prop where
  identifier : isIdentifier policy.id = true
  zones : ∀ zone ∈ policy.sourceZones ++ policy.destinationZones, knownZone c zone = true ∧
    (policy.enabled = true → zoneHasInterface c zone = true)
  addresses : ∀ address ∈ policy.sourceAddresses ++ policy.destinationAddresses,
    validateIPv4AddressOrCIDR address = none
  services : ∀ service ∈ policy.services, ∃ selector, parseServiceSelector service = .ok selector

theorem serviceErrors_eq_nil {service field : String} : (match parseServiceSelector service with
    | .error invalid => [field ++ invalid]
    | .ok _ => []) = [] ↔ ∃ selector, parseServiceSelector service = .ok selector := by
  cases parseServiceSelector service <;> simp

structure AcceptedHeader (before : List SecurityPolicy) (policy : SecurityPolicy) : Prop where
  newID : ∀ other ∈ before, other.id ≠ policy.id
  newPriority : ∀ other ∈ before, other.priority ≠ policy.priority
  priority : 0 ≤ policy.priority
  action : policy.action.valid = true ∧
    (policy.enabled = true → policy.action = .allow ∨ policy.action = .drop ∨ policy.action = .reject)
  minimumRisk : ∀ risk ∈ policy.minimumRisk, 0 ≤ risk ∧ risk ≤ 100
  maximumRisk : ∀ risk ∈ policy.maximumRisk, 0 ≤ risk ∧ risk ≤ 100

omit [CaseMap] in
theorem priorityErrors_eq_nil {before : List SecurityPolicy} :
    (match before.reverse.find? (·.priority == policy.priority) with
      | some prior => ["duplicate policy priority " ++ toString policy.priority ++ " (" ++ prior.id ++ " and " ++
          policy.id ++ ")"]
      | none => []) = [] ↔ ∀ other ∈ before, other.priority ≠ policy.priority := by
  cases found : before.reverse.find? (·.priority == policy.priority) with
  | none => simpa using found
  | some prior =>
    refine iff_of_false (by simp) fun fresh => ?_
    exact fresh prior (List.mem_reverse.mp (List.mem_of_find?_eq_some found)) (by simpa using List.find?_some found)

theorem policyErrors_eq_nil {before : List SecurityPolicy} :
    policyErrors c before policy = [] ↔ AcceptedHeader before policy ∧ AcceptedPolicy c policy := by
  unfold policyErrors
  simp only [append_eq_nil_iff, List.flatMap_eq_nil_iff, errorElse_eq_nil, fieldError_eq_nil, identifierError,
    errorIf_eq_nil, riskErrors_eq_nil, Bool.not_eq_true', Bool.not_eq_false, not_and]
  constructor
  · rintro ⟨⟨⟨⟨⟨⟨⟨⟨⟨identifier, newID⟩, priorities⟩, nonnegative⟩, actions⟩, minimum⟩,
      maximum⟩, zones⟩, addresses⟩, services⟩
    exact ⟨⟨by simpa using newID, priorityErrors_eq_nil.mp priorities, not_lt.mp nonnegative, by grind,
      minimum, maximum⟩, ⟨by simpa using identifier, zones, addresses,
        fun service member => serviceErrors_eq_nil.mp (services service member)⟩⟩
  · rintro ⟨header, accepted⟩
    exact ⟨⟨⟨⟨⟨⟨⟨⟨⟨by simpa using accepted.identifier, by simpa using header.newID⟩,
      priorityErrors_eq_nil.mpr header.newPriority⟩,
      not_lt.mpr header.priority⟩, by grind [header.action]⟩, header.minimumRisk⟩, header.maximumRisk⟩,
        accepted.zones⟩,
      accepted.addresses⟩, fun service member => serviceErrors_eq_nil.mpr (accepted.services service member)⟩

theorem policy_accepted (valid : validate c = []) (listed : policy ∈ c.policies) : AcceptedPolicy c policy := by
  obtain ⟨earlier, accepted⟩ := accepted_of_withEarlier (validate_policies valid) listed
  exact (policyErrors_eq_nil.mp accepted).2

theorem policyIDs_nodup (valid : validate c = []) : (c.policies.map SecurityPolicy.id).Nodup :=
  nodup_of_withEarlier (fun _ _ accepted => (policyErrors_eq_nil.mp accepted).1.newID) (validate_policies valid)

theorem AcceptedPolicy.zone_identifiers (valid : validate c = []) (accepted : AcceptedPolicy c policy) :
    ∀ zone ∈ policy.sourceZones ++ policy.destinationZones, isIdentifier zone = true := fun zone member =>
  zone_identifier valid (accepted.zones zone member).1

/-! ## Inspection and the gate -/

def inspectsPolicy (c : Config) (policy : SecurityPolicy) : Prop :=
  policy.enabled = true ∧ (policy.applications = [] → policy.applicationMatchMode = "" →
    ((profileByID c policy.securityProfileID).bind (·.inspection)).any (·.mode ≠ .off) = true)

omit [CaseMap] in
theorem inspectsPolicy_iff : inspectsPolicy c policy ↔
    ¬ (!policy.enabled ∨ policy.applications.isEmpty ∧ policy.applicationMatchMode = "" ∧
      !((profileByID c policy.securityProfileID).bind (·.inspection)).any (·.mode ≠ .off)) := by
  unfold inspectsPolicy
  grind

theorem applicationErrors_eq_nil : applicationErrors policy = [] ↔
    (policy.applications ≠ [] → policy.action = .allow ∧
      (toUpper (trimSpace policy.scope) = "SESSION" ∨ trimSpace policy.scope = "") ∧
      toUpper (trimSpace policy.applicationMatchMode) = "RESTRICT_L3_ALLOW") ∧
    (policy.applicationMatchMode ≠ "" → toUpper (trimSpace policy.applicationMatchMode) = "RESTRICT_L3_ALLOW") ∧
    ∀ raw ∈ policy.applications, toUpper (trimSpace raw) ∈ supportedM3Applications := by
  unfold applicationErrors
  by_cases empty : policy.applications = []
  · simp [empty]
  · simp [empty, and_assoc, or_iff_not_imp_left]

theorem policyInspectionErrors_eq_nil : policyInspectionErrors c policy = [] ↔
    (inspectsPolicy c policy → usesM3 c = true ∧ applicationErrors policy = [] ∧ policy.minimumRisk = none ∧
      policy.maximumRisk = none ∧ policy.securityProfileID ≠ "" ∧
      ∃ inspection, (profileByID c policy.securityProfileID).bind (·.inspection) = some inspection ∧
        (policy.applications ≠ [] → inspection.mode = .ips)) := by
  unfold policyInspectionErrors
  dsimp only
  split_ifs with free outside unnamed
  · exact iff_of_true rfl fun inspected => absurd free (inspectsPolicy_iff.mp inspected)
  · have inspected := inspectsPolicy_iff.mpr free
    refine iff_of_false (by simp) fun required => ?_
    simp [(required inspected).1] at outside
  · have inspected := inspectsPolicy_iff.mpr free
    exact iff_of_false (by simp) fun required => (required inspected).2.2.2.2.1 unnamed
  · have inspected := inspectsPolicy_iff.mpr free
    have m3 : usesM3 c := by simpa using outside
    simp only [inspected, true_imp_iff, m3, append_eq_nil_iff, errorIf_eq_nil]
    cases (profileByID c policy.securityProfileID).bind (·.inspection) with
    | none => simp
    | some inspection => simp [unnamed, and_assoc]

theorem gatePolicyErrors_eq_nil : gatePolicyErrors c policy = [] ↔
    (policy.securityProfileID ≠ "" →
      ((profileByID c policy.securityProfileID).bind (·.requestGate)).any (·.enabled) = true →
      policy.enabled = true → policy.action = .allow ∧ canonicalScope policy.scope = "SESSION" ∧
        hasRequestGateTCPService policy.services = true) := by
  unfold gatePolicyErrors
  dsimp only
  split_ifs with free
  · refine iff_of_true rfl fun named gated enabled => ?_
    simp [named, gated, enabled] at free
  · simp only [not_or, Bool.not_eq_true', Bool.not_eq_false] at free
    simp [free, and_assoc]

end

section
variable [CaseMap] {c : Config} (policies : List SecurityPolicy)

theorem validateInspection_withPolicies (accepted : validateInspection c = []) :
    validateInspection { c with policies := policies } = [] ↔
      ∀ policy ∈ policies, policyInspectionErrors c policy = [] := by
  simp only [validateInspection, append_eq_nil_iff] at accepted ⊢
  rw [← List.flatMap_eq_nil_iff]
  exact and_iff_right accepted.1

theorem validateRequestGate_withPolicies (accepted : validateRequestGate c = []) :
    validateRequestGate { c with policies := policies } = [] ↔
      (usesM4 c = true → ∀ policy ∈ policies, gatePolicyErrors c policy = []) := by
  have split : ∀ policies, validateRequestGate { c with policies := policies } =
      if !usesM4 c then []
      else
        gateConfigErrors (effectiveRequestGateConfig c) ++ c.profiles.flatMap gateProfileErrors ++
        policies.flatMap (gatePolicyErrors c) ++
        errorIf (1024 < c.tlsExclusions.length) "tls_exclusions exceeds 1024 entries" ++
        c.tlsExclusions.flatMap exclusionErrors ++ tlsExclusionSemanticErrors c := fun _ => rfl
  have own : validateRequestGate { c with policies := c.policies } = [] := accepted
  rw [split] at own ⊢
  cases gate : usesM4 c with
  | false => simp
  | true =>
    rw [gate] at own
    simp only [Bool.not_true, Bool.false_eq_true, if_false, append_eq_nil_iff] at own ⊢
    obtain ⟨⟨⟨⟨⟨gates, profiles⟩, -⟩, count⟩, exclusions⟩, semantics⟩ := own
    simp only [gates, profiles, count, exclusions, semantics, true_and, and_true, List.flatMap_eq_nil_iff, true_imp_iff]

theorem validate_withPolicies_iff (valid : validate c = []) :
    validate { c with policies := policies } = [] ↔ withEarlier (policyErrors c) [] policies = [] ∧
      (∀ policy ∈ policies, profileReferenceErrors c policy = []) ∧
      (∀ policy ∈ policies, policyInspectionErrors c policy = []) ∧
      (usesM4 c = true → ∀ policy ∈ policies, gatePolicyErrors c policy = []) := by
  have split : ∀ policies, validate { c with policies := policies } =
      withEarlier zoneErrors [] c.zones ++ withEarlier (interfaceErrors c) [] c.interfaces ++
      withEarlier (vlanErrors c) [] c.interfaces ++ withEarlier (routeErrors c) [] c.routes ++
      withEarlier (natErrors c) [] c.natRules ++
      withEarlier natBindingErrors [] (c.natRules.filter fun rule => rule.enabled && equalFold rule.type "DNAT") ++
      withEarlier (policyErrors c) [] policies ++ withEarlier profileErrors [] c.profiles ++
      policies.flatMap (profileReferenceErrors c) ++ limitErrors c ++
      validateInspection { c with policies := policies } ++ validateRequestGate { c with policies := policies } :=
    fun _ => rfl
  have own : validate { c with policies := c.policies } = [] := valid
  rw [split] at own ⊢
  simp only [append_eq_nil_iff] at own ⊢
  obtain ⟨⟨⟨⟨⟨⟨⟨⟨⟨⟨⟨zones, interfaces⟩, vlans⟩, routes⟩, nats⟩, bindings⟩, -⟩,
    profiles⟩, -⟩, limits⟩, inspection⟩, gates⟩ := own
  rw [validateInspection_withPolicies policies inspection, validateRequestGate_withPolicies policies gates]
  simp only [zones, interfaces, vlans, routes, nats, bindings, profiles, limits, true_and, and_true, and_assoc,
    List.flatMap_eq_nil_iff]

end

end Ngfw.Config

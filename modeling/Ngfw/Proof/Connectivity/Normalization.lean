import Ngfw.Config.Manager
import Ngfw.Proof.Connectivity.Services
import Ngfw.Proof.Connectivity.Shadowed

/-! # The normal form of a candidate -/

namespace Ngfw.Connectivity
open Lib Lib.Text Lib.Netip Domain Config

theorem canonicalList_fixed {f : String → String} (fixed : ∀ value, f (f value) = f value) (values : List String) :
    uniqueSorted (((uniqueSorted ((values.map f).filter (· ≠ ""))).map f).filter (· ≠ "")) =
      uniqueSorted ((values.map f).filter (· ≠ "")) := by
  have final : ∀ text ∈ uniqueSorted ((values.map f).filter (· ≠ "")), f text = text ∧ text ≠ "" := by
    intro text member
    rw [mem_uniqueSorted, List.mem_filter, List.mem_map] at member
    obtain ⟨⟨raw, -, rfl⟩, nonempty⟩ := member
    exact ⟨fixed raw, by simpa using nonempty⟩
  rw [List.map_congr_left fun text member => (final text member).1, List.map_id',
    List.filter_eq_self.mpr fun text member => by simpa using (final text member).2]
  exact uniqueSorted_uniqueSorted _

theorem canonicalStrings_fixed [UnicodeCaseMap] (values : List String) :
    canonicalStrings (canonicalStrings values) = canonicalStrings values :=
  canonicalList_fixed (fun value => by rw [trimSpace_toLower (trimSpace_trimSpace value), toLower_toLower]) values

theorem canonicalAddress_fixed (raw : String) : canonicalAddress (canonicalAddress raw) = canonicalAddress raw := by
  rw [canonicalAddress_eq raw]
  cases read : parseAddressPrefix (trimSpace raw) with
  | none =>
    change canonicalAddress (trimSpace raw) = trimSpace raw
    rw [canonicalAddress_eq, trimSpace_trimSpace, read]
    rfl
  | some p =>
    obtain ⟨trimmed, own⟩ := (canonical_of_read read).read_string
    change canonicalAddress p.string = p.string
    rw [canonicalAddress_eq, trimmed, own]
    rfl

theorem canonicalAddresses_fixed (values : List String) :
    canonicalAddresses (canonicalAddresses values) = canonicalAddresses values :=
  canonicalList_fixed canonicalAddress_fixed values

/-! ## The policies of a candidate -/

section
variable [CaseMap]

def normalizedPolicy (policy : SecurityPolicy) : SecurityPolicy :=
  match canonicalServiceList policy.services with
  | .ok services => canonicalPolicy policy services
  | .error _ => policy

theorem normalizeCandidateServices_fst (c : Config) :
    (normalizeCandidateServices c).1 = { c with policies := c.policies.map normalizedPolicy } :=
  rfl

theorem normalizedPolicy_of_services {policy : SecurityPolicy} {texts : List String}
    (canonical : canonicalServiceList policy.services = .ok texts) :
    normalizedPolicy policy = canonicalPolicy policy texts := by
  rw [normalizedPolicy, canonical]

theorem normalizedPolicy_of_failure {policy : SecurityPolicy} {failure : String}
    (unreadable : canonicalServiceList policy.services = .error failure) : normalizedPolicy policy = policy := by
  rw [normalizedPolicy, unreadable]

@[simp] theorem normalizedPolicy_id (policy : SecurityPolicy) : (normalizedPolicy policy).id = policy.id := by
  unfold normalizedPolicy
  split <;> rfl

@[simp] theorem normalizedPolicy_priority (policy : SecurityPolicy) :
    (normalizedPolicy policy).priority = policy.priority := by
  unfold normalizedPolicy
  split <;> rfl

@[simp] theorem normalizedPolicy_enabled (policy : SecurityPolicy) :
    (normalizedPolicy policy).enabled = policy.enabled := by
  unfold normalizedPolicy
  split <;> rfl

end

section
variable [UnicodeCaseMap]

theorem canonicalPolicy_fixed (policy : SecurityPolicy) (texts : List String) :
    canonicalPolicy (canonicalPolicy policy texts) texts = canonicalPolicy policy texts := by
  simp only [canonicalPolicy, canonicalStrings_fixed, canonicalAddresses_fixed]

theorem normalizedPolicy_fixed (policy : SecurityPolicy) :
    normalizedPolicy (normalizedPolicy policy) = normalizedPolicy policy := by
  cases canonical : canonicalServiceList policy.services with
  | error failure => rw [normalizedPolicy_of_failure canonical, normalizedPolicy_of_failure canonical]
  | ok texts =>
    have final : canonicalServiceList (canonicalPolicy policy texts).services = .ok texts :=
      canonicalServiceList_fixed canonical
    rw [normalizedPolicy_of_services canonical, normalizedPolicy_of_services final, canonicalPolicy_fixed]

theorem normalizeCandidateServices_fixed (c : Config) :
    normalizeCandidateServices (normalizeCandidateServices c).1 = normalizeCandidateServices c := by
  refine Prod.ext ?_ ?_
  · rw [normalizeCandidateServices_fst, normalizeCandidateServices_fst]
    simp only [List.map_map, Config.mk.injEq, true_and, and_true]
    exact List.map_congr_left fun policy _ => normalizedPolicy_fixed policy
  · rw [normalizeCandidateServices_fst]
    unfold normalizeCandidateServices
    dsimp only
    rw [List.filterMap_map]
    refine List.filterMap_congr fun policy _ => ?_
    dsimp only [Function.comp_apply]
    cases canonical : canonicalServiceList policy.services with
    | error failure => rw [normalizedPolicy_of_failure canonical, canonical]
    | ok texts =>
      rw [normalizedPolicy_of_services canonical]
      change (match canonicalServiceList texts with | .ok _ => none | .error failure => _) = _
      rw [canonicalServiceList_fixed canonical]

/-! ## The program of a normal form -/

theorem sameSelectors_canonicalPolicy {policy : SecurityPolicy} {texts : List String}
    (canonical : canonicalServiceList policy.services = .ok texts) :
    SameSelectors policy (canonicalPolicy policy texts) where
  sourceZones := (canonicalStrings_fixed _).symm
  destinationZones := (canonicalStrings_fixed _).symm
  sourceAddresses := (canonicalAddresses_fixed _).symm
  destinationAddresses := (canonicalAddresses_fixed _).symm
  services := canonical.trans (canonicalServiceList_fixed canonical).symm

omit [UnicodeCaseMap] in
theorem prefixes_canonicalAddresses {values : List String} {pfxs : List Prefix} (read : prefixes values = some pfxs) :
    ∃ others, prefixes (canonicalAddresses values) = some others := by
  have readable : ∀ text ∈ ((canonicalAddresses values).map trimSpace).filter (· ≠ ""),
      ∃ p, parseAddressPrefix text = some p := by
    intro text member
    obtain ⟨trimmed, -⟩ := List.mem_filter.mp member
    obtain ⟨own, listed, rfl⟩ := List.mem_map.mp trimmed
    rw [canonicalAddresses, mem_uniqueSorted, List.mem_filter, List.mem_map] at listed
    obtain ⟨⟨raw, inside, rfl⟩, nonempty⟩ := listed
    have named : trimSpace raw ≠ "" := by
      intro blank
      rw [canonicalAddress_eq, blank] at nonempty
      exact absurd nonempty (by decide)
    obtain ⟨p, -, parsed⟩ := forall₂_mem_left (mapM_some.mp read)
      (List.mem_filter.mpr ⟨List.mem_map_of_mem inside, by simpa using named⟩)
    obtain ⟨shown, again⟩ := (canonical_of_read parsed).read_string
    refine ⟨p, ?_⟩
    rw [canonicalAddress_eq, parsed]
    change parseAddressPrefix (trimSpace p.string) = some p
    rw [shown, again]
  obtain ⟨others, parsed⟩ := forall₂_of_exists readable
  exact ⟨others, mapM_some.mpr parsed⟩

structure SameDecision (a b : Rule) : Prop where
  members : SameMembers a b
  id : a.id = b.id
  action : a.action = b.action
  enabled : a.enabled = b.enabled

theorem compileRule_normalizedPolicy {policy : SecurityPolicy} {rule : Rule}
    (compiled : compileRule policy = .ok rule) :
    ∃ other, compileRule (normalizedPolicy policy) = .ok other ∧ SameDecision rule other := by
  obtain ⟨supported, sources, destinations, services, _, _, id, action, enabled⟩ := compileRule_spec compiled
  obtain ⟨texts, canonical⟩ := canonicalServiceList_of_read services
  rw [normalizedPolicy_of_services canonical]
  obtain ⟨sources', sourcesRead⟩ := prefixes_canonicalAddresses sources
  obtain ⟨destinations', destinationsRead⟩ := prefixes_canonicalAddresses destinations
  obtain ⟨services', servicesRead⟩ : ∃ services, Yields parseService texts services := by
    obtain ⟨selectors, parsed, -⟩ := canonicalServiceList_iff.mp (canonicalServiceList_fixed canonical)
    refine ⟨selectors.map fun selector => ⟨selector.protocol.number, selector.ports⟩, ?_⟩
    rw [Yields, List.forall₂_map_right_iff]
    exact parsed.imp fun raw selector read => map_ok.mpr ⟨selector, read, rfl⟩
  obtain ⟨other, compiledToo⟩ : ∃ other, compileRule (canonicalPolicy policy texts) = .ok other :=
    compileRule_ok supported sourcesRead destinationsRead servicesRead
  obtain ⟨_, _, _, _, _, _, id', action', enabled'⟩ := compileRule_spec compiledToo
  exact ⟨other, compiledToo, (sameSelectors_canonicalPolicy canonical).sameMembers compiled compiledToo,
    id.trans id'.symm, action.trans action'.symm, enabled.trans enabled'.symm⟩

theorem evaluate_of_sameDecision {p q : Program} (rules : List.Forall₂ SameDecision p.rules q.rules)
    (default : p.defaultDeny = q.defaultDeny) (generation : p.generation = q.generation) (view : View) :
    p.evaluate view = q.evaluate view := by
  have found := find?_forall₂ (p := fun rule => rule.enabled && ruleMatches rule view)
    (q := fun rule => rule.enabled && ruleMatches rule view) rules fun rule other same => by
      rw [same.enabled, same.members.ruleMatches_eq view]
  unfold Program.evaluate
  rw [default, generation]
  generalize p.rules.find? _ = rule at found ⊢
  generalize q.rules.find? _ = other at found ⊢
  cases found with
  | none => rfl
  | some same => simp only [same.id, same.action]

omit [UnicodeCaseMap] in
theorem sortByPriority_map [CaseMap] (policies : List SecurityPolicy) :
    sortByPriority (policies.map normalizedPolicy) = (sortByPriority policies).map normalizedPolicy :=
  (List.map_insertionSort _ _ normalizedPolicy policies fun a _ b _ => by simp).symm

theorem compile_normalized {c : Config} {generation : UInt64} {program : Program}
    (compiled : compile c generation = .ok program) :
    ∃ normalized, compile (normalizeCandidateServices c).1 generation = .ok normalized ∧
      ∀ view, normalized.evaluate view = program.evaluate view := by
  obtain ⟨rules, compiledRules, rfl⟩ := map_ok.mp compiled
  obtain ⟨-, distinct, renders⟩ := compileRules_iff.mp compiledRules
  obtain ⟨others, rendersToo, related⟩ : ∃ others,
      Yields compileRule (((sortByPriority c.policies).filter (·.enabled)).map normalizedPolicy) others ∧
      List.Forall₂ SameDecision rules others := by
    simp only [List.forall₂_map_left_iff]
    exact forall₂_step (fun policy rule => compileRule_normalizedPolicy) renders
  have compiledToo : compileRules [] (sortByPriority (c.policies.map normalizedPolicy)) = .ok others := by
    rw [sortByPriority_map]
    refine compileRules_iff.mpr ⟨by simp, ?_, ?_⟩
    · rw [List.map_map]
      simpa [Function.comp_def] using distinct
    · rw [List.filter_map]
      simpa [Function.comp_def] using rendersToo
  refine ⟨_, map_ok.mpr ⟨others, compiledToo, rfl⟩, fun view => Eq.symm ?_⟩
  apply evaluate_of_sameDecision related <;> rfl

end

/-! ## Addresses in canonical form -/

def widePrefix (address : String) : Bool :=
  (parsePrefix address.toList).any fun p => p.addr.is6 && p.bits < 96

theorem accepted_string {p : Prefix} (plain : p.addr.plain) :
    validateIPv4AddressOrCIDR p.string = none ↔ (to4 p.addr).isSome := by
  have slash : contains '/' p.string := by simp [contains, Prefix.string]
  rw [validateIPv4AddressOrCIDR, if_pos slash, validateIPv4CIDR, parseCIDR_of_parsePrefix (parsePrefix_string plain)]
  cases target : to4 p.addr <;> simp [target]

theorem accepted_host {address : String} (slash : contains '/' address = false)
    (accepted : validateIPv4AddressOrCIDR address = none) :
    ∃ addr, parseAddr address.toList = some addr ∧ addr.plain = true ∧ (to4 addr).isSome := by
  rw [validateIPv4AddressOrCIDR, slash, if_neg (by simp), validateIPv4] at accepted
  cases target : (parseIP address.toList).bind to4 with
  | none => simp [target] at accepted
  | some four =>
    obtain ⟨addr, read, mapped⟩ := Option.bind_eq_some_iff.mp target
    obtain ⟨parsed, plain⟩ := Option.filter_eq_some_iff.mp read
    rw [decide_eq_true_eq] at plain
    exact ⟨addr, parsed, (withoutZone_iff_plain parsed).mp plain, by rw [mapped]; rfl⟩

theorem accepted_network {address : String} (slash : contains '/' address)
    (accepted : validateIPv4AddressOrCIDR address = none) :
    ∃ cidr, parseCIDR address.toList = some cidr ∧ (to4 cidr.addr).isSome := by
  rw [validateIPv4AddressOrCIDR, if_pos slash, validateIPv4CIDR] at accepted
  cases target : (parseCIDR address.toList).bind fun cidr => to4 cidr.addr with
  | none => simp [target] at accepted
  | some four =>
    obtain ⟨cidr, read, mapped⟩ := Option.bind_eq_some_iff.mp target
    exact ⟨cidr, read, by rw [mapped]; rfl⟩

theorem to4_masked {p : Prefix} (plain : p.addr.plain) (ipv4 : (to4 p.addr).isSome) :
    (to4 p.masked.addr).isSome ↔ ¬ (p.addr.is6 = true ∧ p.bits < 96) := by
  obtain ⟨addr, bits, fits⟩ := p
  rcases to4_cases plain ipv4 with ⟨value, rfl⟩ | ⟨value, rfl, mapped⟩
  · exact iff_of_true rfl (by simp [Addr.is6])
  · have mark := mapped_keepBits mapped bits
    rw [not_and, not_lt]
    constructor
    · intro still _
      rcases to4_cases (plain_maskAddr plain bits) still with ⟨_, shape⟩ | ⟨_, shape, markToo⟩
      · cases shape
      · cases shape
        exact mark.mp markToo
    · intro long
      have kept := to4_mapped (mark.mpr (long rfl))
      change (to4 (.v6 (Prefix.keepBits bits value) "")).isSome = true
      rw [kept]
      rfl

theorem accepted_canonicalAddress {address : String} (accepted : validateIPv4AddressOrCIDR address = none) :
    canonicalAddress address ≠ "" ∧
      (validateIPv4AddressOrCIDR (canonicalAddress address) = none ↔ widePrefix address = false) := by
  cases slash : contains '/' address with
  | false =>
    obtain ⟨addr, read, plain, ipv4⟩ := accepted_host slash accepted
    have chars := parseAddr_chars read (noZone_of_parseAddr read (withoutZone_of_plain plain))
    have trimmed := trimSpace_of_all fun c member => isSpace_of_addressChar (chars c member)
    have shown : canonicalAddress address = (Prefix.single addr).string := by
      rw [canonicalAddress_eq, trimmed, parseAddressPrefix, read]
      rfl
    have narrow : widePrefix address = false := by
      unfold widePrefix
      cases parsed : parsePrefix address.toList with
      | none => rfl
      | some p => simp [parseAddr_of_parseCIDR (parseCIDR_of_parsePrefix parsed)] at read
    have host : (Prefix.single addr).addr = addr := withoutZone_of_plain plain
    rw [shown, accepted_string (host.symm ▸ plain), host]
    exact ⟨string_nonempty, iff_of_true ipv4 narrow⟩
  | true =>
    obtain ⟨cidr, read, ipv4⟩ := accepted_network slash accepted
    have trimmed : trimSpace address = address := by
      rw [trimSpace, trimList_of_parseCIDR read, String.ofList_toList]
    rw [canonicalAddress_eq, trimmed, parseAddressPrefix, parseAddr_of_parseCIDR read]
    unfold widePrefix
    cases parsed : parsePrefix address.toList with
    | none =>
      refine ⟨?_, iff_of_true accepted rfl⟩
      rintro rfl
      exact absurd slash (by decide)
    | some p =>
      obtain rfl : p = cidr := Option.some.inj ((parseCIDR_of_parsePrefix parsed).symm.trans read)
      obtain ⟨_, _, _, _, plain, _⟩ := parsePrefix_iff.mp parsed
      refine ⟨string_nonempty, ?_⟩
      change validateIPv4AddressOrCIDR p.masked.string = none ↔ _
      rw [accepted_string (plain_maskAddr plain _), to4_masked plain ipv4]
      simp

/-! ## Policies in canonical form -/

theorem forall_canonicalList {f : String → String} {a b : List String} (named : ∀ value ∈ a ++ b, f value ≠ "")
    (holds : String → Prop) :
    (∀ text ∈ uniqueSorted ((a.map f).filter (· ≠ "")) ++ uniqueSorted ((b.map f).filter (· ≠ "")),
      holds text) ↔ ∀ value ∈ a ++ b, holds (f value) := by
  have members : ∀ values : List String, (∀ value ∈ values, f value ≠ "") → ∀ text,
      text ∈ uniqueSorted ((values.map f).filter (· ≠ "")) ↔ ∃ value ∈ values, f value = text := by
    intro values nonempty text
    rw [mem_uniqueSorted, List.mem_filter, List.mem_map, decide_eq_true_eq]
    refine and_iff_left_of_imp ?_
    rintro ⟨value, member, rfl⟩
    exact nonempty value member
  have left := members a fun value member => named value (List.mem_append_left _ member)
  have right := members b fun value member => named value (List.mem_append_right _ member)
  simp only [List.mem_append, left, right]
  constructor
  · rintro all value (member | member)
    · exact all _ (.inl ⟨value, member, rfl⟩)
    · exact all _ (.inr ⟨value, member, rfl⟩)
  · rintro all _ (⟨value, member, rfl⟩ | ⟨value, member, rfl⟩)
    · exact all value (.inl member)
    · exact all value (.inr member)

section
variable [CaseMap]

structure Normalizable (c : Config) (policy : SecurityPolicy) : Prop where
  zones : ∀ zone ∈ policy.sourceZones ++ policy.destinationZones, knownZone c (toLower zone) = true ∧
    (policy.enabled = true → zoneHasInterface c (toLower zone) = true)
  addresses : ∀ address ∈ policy.sourceAddresses ++ policy.destinationAddresses, widePrefix address = false

section
variable {c : Config} {policy : SecurityPolicy} {texts : List String} {before : List SecurityPolicy}

theorem canonicalServiceList_of_accepted (accepted : AcceptedPolicy c policy) :
    ∃ texts, canonicalServiceList policy.services = .ok texts := by
  obtain ⟨selectors, parsed⟩ := forall₂_of_exists accepted.services
  exact ⟨_, canonicalServiceList_iff.mpr ⟨selectors, parsed, rfl⟩⟩

theorem accepted_canonicalPolicy (accepted : AcceptedPolicy c policy)
    (identifiers : ∀ zone ∈ policy.sourceZones ++ policy.destinationZones, isIdentifier zone = true)
    (canonical : canonicalServiceList policy.services = .ok texts) :
    AcceptedPolicy c (canonicalPolicy policy texts) ↔ Normalizable c policy := by
  have zoneShown : ∀ zone ∈ policy.sourceZones ++ policy.destinationZones,
    toLower (trimSpace zone) = toLower zone :=
    fun zone member => by rw [identifier_trimmed (identifiers zone member)]
  have zones := forall_canonicalList (f := fun zone => toLower (trimSpace zone)) (a := policy.sourceZones)
    (b := policy.destinationZones) (fun zone member => by
      rw [zoneShown zone member, ne_eq, toLower_eq_empty]
      exact identifier_nonempty (identifiers zone member))
    fun zone => knownZone c zone = true ∧ (policy.enabled = true → zoneHasInterface c zone = true)
  have addresses := forall_canonicalList (f := canonicalAddress) (a := policy.sourceAddresses)
    (b := policy.destinationAddresses)
    (fun address member => (accepted_canonicalAddress (accepted.addresses address member)).1)
    fun address => validateIPv4AddressOrCIDR address = none
  constructor
  · intro normal
    refine ⟨fun zone member => ?_, fun address member => ?_⟩
    · have known := zones.mp normal.zones zone member
      rwa [zoneShown zone member] at known
    · exact (accepted_canonicalAddress (accepted.addresses address member)).2.mp
        (addresses.mp normal.addresses address member)
  · intro normal
    refine ⟨accepted.identifier, zones.mpr fun zone member => ?_, addresses.mpr fun address member => ?_, ?_⟩
    · rw [zoneShown zone member]
      exact normal.zones zone member
    · exact (accepted_canonicalAddress (accepted.addresses address member)).2.mpr (normal.addresses address member)
    · intro text member
      obtain ⟨selectors, parsed, -⟩ := canonicalServiceList_iff.mp (canonicalServiceList_fixed canonical)
      obtain ⟨selector, -, read⟩ := forall₂_mem_left parsed member
      exact ⟨selector, read⟩

theorem acceptedHeader_canonicalPolicy (accepted : AcceptedHeader before policy) :
    AcceptedHeader (before.map normalizedPolicy) (canonicalPolicy policy texts) where
  newID := by simpa [canonicalPolicy] using accepted.newID
  newPriority := by simpa [canonicalPolicy] using accepted.newPriority
  priority := accepted.priority
  action := accepted.action
  minimumRisk := accepted.minimumRisk
  maximumRisk := accepted.maximumRisk

theorem policyErrors_normalizedPolicy (valid : validate c = []) (accepted : policyErrors c before policy = []) :
    policyErrors c (before.map normalizedPolicy) (normalizedPolicy policy) = [] ↔ Normalizable c policy := by
  obtain ⟨header, lists⟩ := policyErrors_eq_nil.mp accepted
  obtain ⟨texts, canonical⟩ := canonicalServiceList_of_accepted lists
  rw [normalizedPolicy_of_services canonical, policyErrors_eq_nil,
    ← accepted_canonicalPolicy lists (lists.zone_identifiers valid) canonical]
  exact and_iff_right (acceptedHeader_canonicalPolicy header)

theorem hasRequestGateTCPService_canonical {values : List String}
    (canonical : canonicalServiceList values = .ok texts) (gated : hasRequestGateTCPService values) :
    hasRequestGateTCPService texts = true := by
  obtain ⟨selectors, parsed, rfl⟩ := canonicalServiceList_iff.mp canonical
  rw [hasRequestGateTCPService, Bool.or_eq_true, List.isEmpty_iff, List.any_eq_true] at gated ⊢
  rcases gated with rfl | ⟨raw, member, tcp⟩
  · cases parsed
    exact .inl rfl
  · obtain ⟨selector, listed, read⟩ := forall₂_mem_left parsed member
    refine .inr ⟨selector.canonical, List.mem_map_of_mem ?_, ?_⟩
    · rwa [List.mem_insertionSort, List.mem_dedup]
    · rwa [parseServiceSelector_canonical (parseServiceSelector_wellFormed read), ← read]

theorem gatePolicyErrors_normalizedPolicy (accepted : AcceptedPolicy c policy)
    (gated : gatePolicyErrors c policy = []) : gatePolicyErrors c (normalizedPolicy policy) = [] := by
  obtain ⟨texts, canonical⟩ := canonicalServiceList_of_accepted accepted
  rw [normalizedPolicy_of_services canonical]
  rw [gatePolicyErrors_eq_nil] at gated ⊢
  intro named gate enabled
  obtain ⟨action, scope, tcp⟩ := gated named gate enabled
  exact ⟨action, scope, hasRequestGateTCPService_canonical canonical tcp⟩

end

end

/-! ## Applications in canonical form -/

section
variable [UnicodeCaseMap] {c : Config} {policy : SecurityPolicy}

theorem toUpper_toLower_of_supported {application : String}
    (supported : toUpper application ∈ supportedM3Applications) :
    toUpper (toLower application) = toUpper application := by
  have ascii : ∀ word ∈ supportedM3Applications, ∀ c ∈ word.toList, c.toNat < 128 := by
    have all : supportedM3Applications.all (·.toList.all (·.toNat < 128)) = true := by decide
    simpa using all
  rw [toUpper, toLower, String.toList_ofList, List.map_map]
  refine congrArg String.ofList (List.map_congr_left fun c member => ?_)
  refine UnicodeCaseMap.upper_lower c (ascii _ supported _ ?_)
  rw [toUpper, String.toList_ofList]
  exact List.mem_map_of_mem member

section
variable {applications : List String}
  (supported : ∀ raw ∈ applications, toUpper (trimSpace raw) ∈ supportedM3Applications)
include supported

theorem supported_canonicalStrings :
    ∀ raw ∈ canonicalStrings applications, toUpper (trimSpace raw) ∈ supportedM3Applications := by
  intro text member
  rw [canonicalStrings, mem_uniqueSorted, List.mem_filter, List.mem_map] at member
  obtain ⟨⟨raw, listed, rfl⟩, -⟩ := member
  rw [trimSpace_toLower (trimSpace_trimSpace raw), toUpper_toLower_of_supported (supported raw listed)]
  exact supported raw listed

theorem isEmpty_canonicalStrings : (canonicalStrings applications).isEmpty = applications.isEmpty := by
  rw [Bool.eq_iff_iff, List.isEmpty_iff, List.isEmpty_iff]
  constructor
  · intro empty
    by_contra some
    obtain ⟨raw, listed⟩ := List.exists_mem_of_ne_nil _ some
    have named : toLower (trimSpace raw) ≠ "" := by
      rw [ne_eq, toLower_eq_empty]
      intro blank
      exact absurd (supported raw listed) (by rw [blank]; simp [toUpper, supportedM3Applications])
    have member : toLower (trimSpace raw) ∈ canonicalStrings applications := by
      rw [canonicalStrings, mem_uniqueSorted]
      exact List.mem_filter.mpr ⟨List.mem_map_of_mem listed, by simpa using named⟩
    rw [empty] at member
    cases member
  · rintro rfl
    rfl

end

theorem applicationErrors_canonicalPolicy (accepted : applicationErrors policy = []) (texts : List String) :
    applicationErrors (canonicalPolicy policy texts) = [] := by
  rw [applicationErrors_eq_nil] at accepted ⊢
  obtain ⟨restriction, mode, supported⟩ := accepted
  refine ⟨fun some => restriction fun empty => some ?_, mode, supported_canonicalStrings supported⟩
  rwa [← List.isEmpty_iff, ← isEmpty_canonicalStrings supported, List.isEmpty_iff] at empty

theorem policyInspectionErrors_normalizedPolicy (accepted : AcceptedPolicy c policy)
    (inspected : policyInspectionErrors c policy = []) : policyInspectionErrors c (normalizedPolicy policy) = [] := by
  obtain ⟨texts, canonical⟩ := canonicalServiceList_of_accepted accepted
  rw [normalizedPolicy_of_services canonical]
  rw [policyInspectionErrors_eq_nil] at inspected ⊢
  intro looked
  have before : inspectsPolicy c policy := by
    refine ⟨looked.1, fun empty mode => looked.2 ?_ mode⟩
    rw [canonicalPolicy, empty]
    rfl
  obtain ⟨m3, restricted, minimum, maximum, named, inspection, found, ips⟩ := inspected before
  have supported := (applicationErrors_eq_nil.mp restricted).2.2
  refine ⟨m3, applicationErrors_canonicalPolicy restricted texts, minimum, maximum, named, inspection, found, ?_⟩
  intro some
  refine ips fun empty => some ?_
  rwa [← List.isEmpty_iff, ← isEmpty_canonicalStrings supported, List.isEmpty_iff] at empty

theorem validate_normalized_iff (valid : validate c = []) :
    validate (normalizeCandidateServices c).1 = [] ↔ ∀ policy ∈ c.policies, Normalizable c policy := by
  have policies : withEarlier (policyErrors c) [] (c.policies.map normalizedPolicy) = [] ↔
      ∀ policy ∈ c.policies, Normalizable c policy :=
    withEarlier_map (fun _ _ accepted => policyErrors_normalizedPolicy valid accepted) (validate_policies valid)
  rw [← policies, normalizeCandidateServices_fst, validate_withPolicies_iff _ valid]
  refine and_iff_left ?_
  obtain ⟨-, references, inspections, gates⟩ := (validate_withPolicies_iff c.policies valid).mp valid
  simp only [List.forall_mem_map]
  refine ⟨fun policy listed => ?_, fun policy listed => ?_, fun gate policy listed => ?_⟩
  · obtain ⟨texts, canonical⟩ := canonicalServiceList_of_accepted (policy_accepted valid listed)
    rw [normalizedPolicy_of_services canonical]
    exact references policy listed
  · exact policyInspectionErrors_normalizedPolicy (policy_accepted valid listed) (inspections policy listed)
  · exact gatePolicyErrors_normalizedPolicy (policy_accepted valid listed) (gates gate policy listed)

theorem normalization_harmless_iff (c : Config) :
    normalizeCandidateServices (normalizeCandidateServices c).1 = normalizeCandidateServices c ∧
      ∀ generation program, validate c = [] → compile c generation = .ok program →
        ((validate (normalizeCandidateServices c).1 = [] ∧
          ∃ normalized, compile (normalizeCandidateServices c).1 generation = .ok normalized ∧
            ∀ view, normalized.evaluate view = program.evaluate view) ↔
          ∀ policy ∈ c.policies, Normalizable c policy) := by
  refine ⟨normalizeCandidateServices_fixed c, fun generation program valid compiled => ?_⟩
  rw [← validate_normalized_iff valid]
  exact and_iff_left (compile_normalized compiled)

end

section
attribute [local instance] Text.asciiUnicodeCaseMap

def zonedConfig (zone address : String) : Config :=
  { defaults with
    interfaces := [ethernet "eth0" zone "10.0.0.1/24"]
    zones := [{ id := zone }]
    policies :=
      [{ id := "allow-web", priority := 10, sourceZones := [zone], sourceAddresses := [address]
         services := ["TCP:443", "tcp:80"], action := .allow }] }

theorem normalization_harmless_lan : ∃ program normalized,
    validate (zonedConfig "lan" "10.0.0.7/24") = [] ∧ compile (zonedConfig "lan" "10.0.0.7/24") 1 = .ok program ∧
      validate (normalizeCandidateServices (zonedConfig "lan" "10.0.0.7/24")).1 = [] ∧
      compile (normalizeCandidateServices (zonedConfig "lan" "10.0.0.7/24")).1 1 = .ok normalized ∧
      ∀ view, normalized.evaluate view = program.evaluate view := by
  have valid : validate (zonedConfig "lan" "10.0.0.7/24") = [] := by decide +kernel
  have harmless := (normalization_harmless_iff (zonedConfig "lan" "10.0.0.7/24")).2 1 _ valid
    (rfl : compile (zonedConfig "lan" "10.0.0.7/24") 1 = .ok _)
  obtain ⟨accepted, normalized, compiled, same⟩ := harmless.mpr fun policy listed => by
    obtain rfl := List.mem_singleton.mp listed
    exact ⟨by decide +kernel, by decide +kernel⟩
  exact ⟨_, normalized, valid, rfl, accepted, compiled, same⟩

theorem normal_form_refused :
    validate (zonedConfig "LAN" "10.0.0.7/24") = [] ∧
      (compile (zonedConfig "LAN" "10.0.0.7/24") 1).toOption.isSome ∧
      validate (normalizeCandidateServices (zonedConfig "LAN" "10.0.0.7/24")).1 =
        ["policy allow-web references unknown zone lan"] ∧
      validate (zonedConfig "lan" "::ffff:10.0.0.7/16") = [] ∧
      (compile (zonedConfig "lan" "::ffff:10.0.0.7/16") 1).toOption.isSome ∧
      validate (normalizeCandidateServices (zonedConfig "lan" "::ffff:10.0.0.7/16")).1 =
        ["policy allow-web: invalid IPv4 CIDR " ++ quote "::/16"] := by
  decide +kernel

end

end Ngfw.Connectivity

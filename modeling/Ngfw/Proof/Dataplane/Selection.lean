import Ngfw.Dataplane.CompilerM2

/-! # The packets a policy selects -/

namespace Ngfw.Dataplane
open Lib Lib.Text Lib.Netip Lib.Nft Domain Config Connectivity

def zoneSelects (c : Config) (zones : List String) (name : String) : Bool :=
  zones.isEmpty || (zoneInterfaces c zones).contains name

def addressSelects (addresses : List String) (addr : Addr) : Bool :=
  addresses.isEmpty || addresses.any fun value => (canonicalIPv4 value).toOption.any (·.contains addr)

def serviceSelects [CaseMap] (services : List String) (protocol : UInt8) (port : UInt16) : Bool :=
  services.isEmpty || services.any fun value => (parseServiceSelector value).toOption.any fun selector =>
    selector.protocol.number == protocol && selector.ports.all (·.contains port)

def selects [CaseMap] (c : Config) (policy : SecurityPolicy) (p : Packet) : Bool :=
  zoneSelects c policy.sourceZones p.iifname && zoneSelects c policy.destinationZones p.oifname &&
    addressSelects policy.sourceAddresses p.saddr && addressSelects policy.destinationAddresses p.daddr &&
    serviceSelects policy.services p.l4proto p.dport

def OnZone (c : Config) (name zone : String) : Prop :=
  ∃ iface ∈ c.interfaces, iface.systemName = name ∧ iface.zoneID = zone

instance (c : Config) (name zone : String) : Decidable (OnZone c name zone) :=
  inferInstanceAs (Decidable (∃ iface ∈ c.interfaces, iface.systemName = name ∧ iface.zoneID = zone))

def packetView (p : Packet) (sourceZone destinationZone : String) : View :=
  { sourceIP := p.saddr, destinationIP := p.daddr, sourcePort := p.sport, destinationPort := p.dport
    protocol := p.l4proto, sourceZone, destinationZone }

section
variable {c : Config} {p : Packet}

theorem canonicalIPv4List_contains {values : List String} {selectors : List Selector}
    (canonical : canonicalIPv4List values = .ok selectors) (addr : Addr) :
    selectors.any (·.contains addr) = values.any fun value =>
      (canonicalIPv4 value).toOption.any (·.contains addr) := by
  obtain ⟨unsorted, mapped, rfl⟩ := map_ok.mp canonical
  have related := mapM_ok.mp mapped
  rw [Bool.eq_iff_iff, List.any_eq_true, List.any_eq_true]
  constructor
  · rintro ⟨selector, member, contains⟩
    rw [List.mem_insertionSort, List.mem_dedup] at member
    obtain ⟨value, inside, read⟩ := forall₂_mem_right related member
    exact ⟨value, inside, by simpa [read, Except.toOption] using contains⟩
  · rintro ⟨value, inside, contains⟩
    obtain ⟨selector, member, read⟩ := forall₂_mem_left related inside
    refine ⟨selector, ?_, by simpa [read, Except.toOption] using contains⟩
    rwa [List.mem_insertionSort, List.mem_dedup]

theorem labelled_ok {Value : Type} {label : String} {computation : Except String Value} {value : Value} :
    labelled label computation = .ok value ↔ computation = .ok value := by
  cases computation <;> simp [labelled]

theorem addressMatches_all {condition : List Selector → Match} {label : String} {addresses : List String}
    {conditions : List Match} (addr : Addr)
    (condition_holds : ∀ selectors, (condition selectors).holds p = selectors.any (·.contains addr))
    (rendered : addressMatches condition label addresses = .ok conditions) :
    conditions.all (·.holds p) = addressSelects addresses addr := by
  unfold addressMatches at rendered
  unfold addressSelects
  cases empty : addresses.isEmpty with
  | true =>
    rw [if_pos empty] at rendered
    cases rendered
    rfl
  | false =>
    rw [if_neg (by simp [empty])] at rendered
    obtain ⟨selectors, canonical, rfl⟩ := map_ok.mp rendered
    have contains := canonicalIPv4List_contains (labelled_ok.mp canonical) addr
    simp [condition_holds, contains]

theorem nameMatch_all {condition : List String → Match} (zones : List String) (name : String)
    (condition_holds : ∀ names, (condition names).holds p = names.contains name) :
    (nameMatch condition c zones).all (·.holds p) = zoneSelects c zones name := by
  unfold nameMatch zoneSelects
  cases zones.isEmpty with
  | true => rfl
  | false => simp [condition_holds]

theorem baseMatches_all {sourceZones destinationZones sourceAddresses destinationAddresses : List String}
    {sourceLabel destinationLabel : String} {conditions : List Match}
    (rendered : baseMatches c sourceZones destinationZones sourceAddresses destinationAddresses sourceLabel
      destinationLabel = .ok conditions) :
    conditions.all (·.holds p) =
      (zoneSelects c sourceZones p.iifname && zoneSelects c destinationZones p.oifname &&
        addressSelects sourceAddresses p.saddr && addressSelects destinationAddresses p.daddr) := by
  obtain ⟨source, renderedSource, rest⟩ := bind_ok.mp rendered
  obtain ⟨destination, renderedDestination, assembled⟩ := bind_ok.mp rest
  cases assembled
  have holdsSource := addressMatches_all (p := p) p.saddr (fun _ => rfl) renderedSource
  have holdsDestination := addressMatches_all (p := p) p.daddr (fun _ => rfl) renderedDestination
  have inNames (names : List String) : (Match.iifname false names).holds p = names.contains p.iifname := by
    simp [Match.holds, nameIn]
  have outNames (names : List String) : (Match.oifname false names).holds p = names.contains p.oifname := by
    simp [Match.holds, nameIn]
  have holdsIn := nameMatch_all (c := c) sourceZones p.iifname inNames
  have holdsOut := nameMatch_all (c := c) destinationZones p.oifname outNames
  rw [List.all_append, List.all_append, List.all_append, holdsIn, holdsOut, holdsSource, holdsDestination]

theorem selectorExpression_holds {port : UInt8 → Nat → Nat → Match} {value : UInt16}
    (port_holds : ∀ protocol first last,
      (port protocol first last).holds p = (p.l4proto == protocol && portIn first last value))
    (selector : ServiceSelector) :
    (selectorExpression port selector).holds p =
      (selector.protocol.number == p.l4proto && selector.ports.all (·.contains value)) := by
  unfold selectorExpression
  cases selector.ports with
  | none => simp [Match.holds, Bool.beq_comm]
  | some range => simp [port_holds, Bool.beq_comm, portIn, PortRange.contains]

end

section
variable [CaseMap] {c : Config} {p : Packet}

theorem serviceMatches_any {expression : String → Except String Match} {port : UInt8 → Nat → Nat → Match}
    {value : UInt16} {services : List String} {conditions : List (List Match)}
    (reads : ∀ text, expression text = (parseServiceSelector text).map (selectorExpression port))
    (port_holds : ∀ protocol first last,
      (port protocol first last).holds p = (p.l4proto == protocol && portIn first last value))
    (named : "" ∉ services) (rendered : serviceMatches expression services = .ok conditions) :
    conditions.any (·.all (·.holds p)) = serviceSelects services p.l4proto value := by
  have related := mapM_ok.mp rendered
  unfold serviceSelects
  cases empty : services.isEmpty with
  | true =>
    rw [if_pos empty] at related
    obtain - | ⟨first, rest⟩ := related
    cases rest
    cases first
    rfl
  | false =>
    rw [if_neg (by simp [empty])] at related
    rw [Bool.false_or, Bool.eq_iff_iff, List.any_eq_true, List.any_eq_true]
    -- each service has exactly one list of conditions, and none of them is the empty text
    have single : ∀ text ∈ services, ∀ condition,
        (if text = "" then Except.ok [] else (expression text).map ([·])) = .ok condition →
        ∃ selector, parseServiceSelector text = .ok selector ∧ condition = [selectorExpression port selector] := by
      intro text inside condition read
      have different : text ≠ "" := by
        rintro rfl
        exact named inside
      rw [if_neg different, reads] at read
      obtain ⟨expressed, expression_ok, singleton⟩ := map_ok.mp read
      obtain ⟨selector, parsed, rfl⟩ := map_ok.mp expression_ok
      exact ⟨selector, parsed, singleton.symm⟩
    constructor
    · rintro ⟨condition, member, holds⟩
      obtain ⟨text, inside, read⟩ := forall₂_mem_right related member
      obtain ⟨selector, parsed, rfl⟩ := single text inside condition read
      refine ⟨text, inside, ?_⟩
      simpa [parsed, Except.toOption, selectorExpression_holds port_holds] using holds
    · rintro ⟨text, inside, holds⟩
      obtain ⟨condition, member, read⟩ := forall₂_mem_left related inside
      obtain ⟨selector, parsed, rfl⟩ := single text inside condition read
      refine ⟨_, member, ?_⟩
      simpa [parsed, Except.toOption, selectorExpression_holds port_holds] using holds

structure PolicyLines (p : Packet) (guard : Bool) (verdict : Verdict) (comment : RuleComment)
    (lines : List RuleLine) : Prop where
  shape : ∀ line ∈ lines, ∃ conditions, line = policyLine conditions verdict comment
  applies : lines.any (·.applies p) = guard

omit [CaseMap] in
theorem policyLines_map {base : List Match} {services : List (List Match)} (p : Packet) (verdict : Verdict)
    (comment : RuleComment) :
    PolicyLines p (base.all (·.holds p) && services.any (·.all (·.holds p))) verdict comment
      (services.map fun service => policyLine (base ++ service) verdict comment) := by
  constructor
  · intro line member
    obtain ⟨service, _, rfl⟩ := List.mem_map.mp member
    exact ⟨_, rfl⟩
  · simp only [List.any_map, Function.comp_def, Line.applies, policyLine, List.all_append]
    rw [List.and_any_distrib_left]

theorem renderPolicyRules_spec {policy : SecurityPolicy} {lines : List RuleLine} (named : "" ∉ policy.services)
    (rendered : renderPolicyRules c policy = .ok lines) (p : Packet) :
    ∃ verdict, policyAction policy.action = .ok verdict ∧
      PolicyLines p (selects c policy p) verdict (.policy policy.id) lines := by
  obtain ⟨base, renderedBase, rest⟩ := bind_ok.mp rendered
  obtain ⟨verdict, acted, rest⟩ := bind_ok.mp rest
  obtain ⟨services, renderedServices, assembled⟩ := bind_ok.mp rest
  cases assembled
  refine ⟨verdict, labelled_ok.mp acted, ?_⟩
  rw [selects, ← baseMatches_all renderedBase,
    ← serviceMatches_any (fun _ => rfl) (fun _ _ _ => rfl) named (labelled_ok.mp renderedServices)]
  exact policyLines_map p verdict _

theorem renderReversePolicyRules_spec {policy : SecurityPolicy} {lines : List RuleLine}
    (named : "" ∉ policy.services) (rendered : renderReversePolicyRules c policy = .ok lines) (p : Packet) :
    ∃ verdict, policyAction policy.action = .ok verdict ∧
      PolicyLines p ([CtState.established, .related].contains p.ctState && selects c policy p.reverse) verdict
        (.policyReverse policy.id) lines := by
  obtain ⟨base, renderedBase, rest⟩ := bind_ok.mp rendered
  obtain ⟨verdict, acted, rest⟩ := bind_ok.mp rest
  obtain ⟨services, renderedServices, assembled⟩ := bind_ok.mp rest
  cases assembled
  refine ⟨verdict, labelled_ok.mp acted, ?_⟩
  convert policyLines_map p verdict _ using 1
  rw [List.all_append, baseMatches_all renderedBase,
    serviceMatches_any (fun _ => rfl) (fun _ _ _ => rfl) named (labelled_ok.mp renderedServices)]
  -- the reverse of the packet has its ends swapped, so the selectors stand in another order
  simp only [selects, Packet.reverse, List.all_cons, List.all_nil, Match.holds, Bool.and_true]
  ac_rfl

end

end Ngfw.Dataplane

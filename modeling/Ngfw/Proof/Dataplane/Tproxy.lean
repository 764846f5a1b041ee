import Ngfw.Dataplane.Tproxy
import Ngfw.Proof.Connectivity.RequestGate
import Ngfw.Proof.Dataplane.Selection

/-!
# The select chain and the gate of the engine

The lines of a rule apply exactly to the packets it matches, so the first rule that matches decides in the chain as
it does in the program. Its own lines then tell a gated TCP port, blocked QUIC and the rest apart.
-/

namespace Ngfw.Dataplane
open Lib Lib.Text Lib.Netip Lib.Nft Domain Config Connectivity
open ProxySelectionPlan (entryError entriesError)

/-! ## Conditions of a rule -/

section
variable {p : Packet}

theorem proxyAddressMatches_all {condition : List Selector → Match} {prefixes : List Prefix} {conditions : List Match}
    (addr : Addr) (condition_holds : ∀ selectors, (condition selectors).holds p = selectors.any (·.contains addr))
    (rendered : proxyAddressMatches condition prefixes = .ok conditions) :
    conditions.all (·.holds p) = addressMatch prefixes addr := by
  unfold proxyAddressMatches at rendered
  unfold addressMatch
  split_ifs at rendered with empty
  · cases rendered
    simp [empty]
  · cases rendered
    have sorted : ((prefixes.map fun pfx => Selector.network pfx.masked).dedup.insertionSort fun a b =>
        a.text ≤ b.text).any (·.contains addr) = prefixes.any (·.contains addr) := by
      rw [Bool.eq_iff_iff, List.any_eq_true, List.any_eq_true]
      constructor
      · rintro ⟨selector, member, contains⟩
        rw [List.mem_insertionSort, List.mem_dedup, List.mem_map] at member
        obtain ⟨pfx, inside, rfl⟩ := member
        exact ⟨pfx, inside, by rwa [Selector.contains, Prefix.contains_masked] at contains⟩
      · rintro ⟨pfx, inside, contains⟩
        refine ⟨.network pfx.masked, ?_, by rwa [Selector.contains, Prefix.contains_masked]⟩
        rw [List.mem_insertionSort, List.mem_dedup, List.mem_map]
        exact ⟨pfx, inside, rfl⟩
    simp [condition_holds, sorted, empty]

theorem m4TPROXYService_holds {service : Service} {text : String} {condition : Match}
    (rendered : m4TPROXYService service = .ok (text, condition)) :
    condition.holds p = serviceMatch service p.l4proto p.dport := by
  unfold m4TPROXYService at rendered
  dsimp only at rendered
  cases ports : service.ports with
  | none =>
    simp only [ports] at rendered
    have shape : condition = .l4proto service.protocol := by
      split_ifs at rendered <;> cases rendered <;> rfl
    rw [shape, serviceMatch, ports]
    simp [Match.holds, Bool.beq_comm]
  | some range =>
    simp only [ports] at rendered
    have shape : condition = .dport service.protocol range.first range.last := by
      split_ifs at rendered <;> cases rendered <;> rfl
    rw [shape, serviceMatch, ports]
    simp [Match.holds, Bool.beq_comm, portIn, PortRange.contains]

theorem m4TPROXYServices_any {services : List Service} {conditions : List (List Match)}
    (rendered : m4TPROXYServices services = .ok conditions) :
    conditions.any (·.all (·.holds p)) =
      (services.isEmpty || services.any (serviceMatch · p.l4proto p.dport)) := by
  unfold m4TPROXYServices at rendered
  split_ifs at rendered with empty
  · cases rendered
    simp [empty]
  · obtain ⟨pairs, mapped, rfl⟩ := map_ok.mp rendered
    have sorted : ((pairs.insertionSort fun a b => a.1 ≤ b.1).map fun service => [service.2]).any
        (·.all (·.holds p)) = pairs.any (·.2.holds p) := by
      rw [Bool.eq_iff_iff, List.any_map, List.any_eq_true, List.any_eq_true]
      simp [List.mem_insertionSort]
    have same := any_forall₂ (p := fun service => serviceMatch service p.l4proto p.dport)
      (q := fun pair => pair.2.holds p) (mapM_ok.mp mapped) (by
        rintro service ⟨text, condition⟩ renders
        exact (m4TPROXYService_holds renders).symm)
    rw [sorted, ← same]
    simp [empty]

end

section
variable [CaseMap] {c : Config} {p : Packet}

def OneZone (c : Config) : Prop :=
  ∀ a ∈ c.interfaces, ∀ b ∈ c.interfaces, a.systemName = b.systemName → zoneKey a.zoneID = zoneKey b.zoneID

theorem mem_proxyZone {name key : String} :
    name ∈ proxyZone c key ↔
      key ≠ "" ∧ ∃ iface ∈ c.interfaces, zoneKey iface.zoneID = key ∧ iface.systemName = name := by
  rw [proxyZone, mem_uniqueSorted, List.mem_map]
  constructor
  · rintro ⟨iface, inside, rfl⟩
    obtain ⟨listed, conditions⟩ := List.mem_filter.mp inside
    simp only [decide_eq_true_eq] at conditions
    obtain ⟨keyed, rfl⟩ := conditions
    exact ⟨keyed, iface, listed, rfl, rfl⟩
  · rintro ⟨keyed, iface, listed, rfl, rfl⟩
    exact ⟨iface, List.mem_filter.mpr ⟨listed, by simp [keyed]⟩, rfl⟩

theorem proxyZoneMatches_all {condition : List String → Match} {zones : List String} {conditions : List Match}
    {name zone : String} (oneZone : OneZone c) (onZone : OnZone c name zone)
    (condition_holds : ∀ names, (condition names).holds p = names.contains name)
    (rendered : proxyZoneMatches c condition zones = .ok conditions) :
    conditions.all (·.holds p) = zoneMatch zones zone := by
  unfold proxyZoneMatches at rendered
  unfold zoneMatch
  split_ifs at rendered with empty
  · cases rendered
    simp [empty]
  · split at rendered
    · cases rendered
    · rename_i carried
      cases rendered
      obtain ⟨carrier, listed, rfl, rfl⟩ := onZone
      have member : carrier.systemName ∈ zones.flatMap (proxyZone c) ↔ zoneKey carrier.zoneID ∈ zones := by
        rw [List.mem_flatMap]
        constructor
        · rintro ⟨key, inside, carries⟩
          obtain ⟨_, iface, ifaceListed, rfl, same⟩ := mem_proxyZone.mp carries
          have sameKey := oneZone iface ifaceListed carrier listed same
          exact sameKey ▸ inside
        · intro inside
          have nonempty : proxyZone c (zoneKey carrier.zoneID) ≠ [] := by
            simpa using List.find?_eq_none.mp carried (zoneKey carrier.zoneID) inside
          obtain ⟨other, carries⟩ := List.exists_mem_of_ne_nil _ nonempty
          exact ⟨_, inside, mem_proxyZone.mpr ⟨(mem_proxyZone.mp carries).1, carrier, listed, rfl, rfl⟩⟩
      simp [condition_holds, empty, mem_uniqueSorted, member]

def endsMatch (rule : Rule) (view : View) : Bool :=
  zoneMatch rule.sourceZones view.sourceZone && zoneMatch rule.destinationZones view.destinationZone &&
    addressMatch rule.sourceAddresses view.sourceIP && addressMatch rule.destinationAddresses view.destinationIP

structure Routed (c : Config) (sourceZone destinationZone : String) (p : Packet) : Prop where
  oneZone : OneZone c
  source : OnZone c p.iifname sourceZone
  destination : OnZone c p.fibOifname destinationZone

variable {sourceZone destinationZone : String}

theorem m4TPROXYBase_all {rule : Rule} {base : List Match} (routed : Routed c sourceZone destinationZone p)
    (rendered : m4TPROXYBase c rule = .ok base) :
    base.all (·.holds p) = endsMatch rule (packetView p sourceZone destinationZone) := by
  obtain ⟨sourceZones, renderedSourceZones, rest⟩ := bind_ok.mp rendered
  obtain ⟨destinationZones, renderedDestinationZones, rest⟩ := bind_ok.mp rest
  obtain ⟨sources, renderedSources, rest⟩ := bind_ok.mp rest
  obtain ⟨destinations, renderedDestinations, assembled⟩ := bind_ok.mp rest
  cases assembled
  have inNames (names : List String) : (Match.iifname false names).holds p = names.contains p.iifname := by
    simp [Match.holds, nameIn]
  have fibNames (names : List String) : (Match.fibOifname false names).holds p = names.contains p.fibOifname := by
    simp [Match.holds, nameIn]
  have fromZone := proxyZoneMatches_all routed.oneZone routed.source inNames renderedSourceZones
  have toZone := proxyZoneMatches_all routed.oneZone routed.destination fibNames renderedDestinationZones
  have fromAddress := proxyAddressMatches_all (p := p) p.saddr (fun _ => rfl) renderedSources
  have toAddress := proxyAddressMatches_all (p := p) p.daddr (fun _ => rfl) renderedDestinations
  rw [List.all_append, List.all_append, List.all_append, fromZone, toZone, fromAddress, toAddress]
  rfl

end

/-! ## Lines of an entry -/

theorem splitTransportPort_contains (port : PortRange) (value : UInt16) :
    (splitTransportPort port).any (·.contains value) = port.contains value := by
  unfold splitTransportPort httpPort
  split_ifs with straddles below above above
  all_goals
    rw [Bool.eq_iff_iff]
    simp [PortRange.contains]
    try omega

theorem splitTransportPort_cut {port piece : PortRange} {value : UInt16} (member : piece ∈ splitTransportPort port)
    (inside : piece.contains value) : piece.first = 80 ∧ piece.last = 80 ↔ value.toNat = 80 := by
  simp only [PortRange.contains, decide_eq_true_eq] at inside
  unfold splitTransportPort httpPort at member
  split_ifs at member with straddles below above above
  all_goals
    simp only [List.cons_append, List.nil_append, List.append_nil, List.mem_cons, List.not_mem_nil, or_false] at member
  · rcases member with rfl | rfl | rfl <;> simp at inside ⊢ <;> omega
  · rcases member with rfl | rfl <;> simp at inside ⊢ <;> omega
  · rcases member with rfl | rfl <;> simp at inside ⊢ <;> omega
  · rcases member with rfl
    simp at inside ⊢
    omega
  · rcases member with rfl
    omega

def gated (entry : ProxySelectionRule) (p : Packet) : Bool :=
  entry.gate && (p.l4proto == 6 && entry.gatePorts.any (·.contains p.dport))

def quicBlocked (c : Config) (entry : ProxySelectionRule) (p : Packet) : Bool :=
  entry.gate && (c.profiles.any (fun profile => profile.id = entry.profileID ∧
    profile.requestGate.any (·.blockQUIC) ∧ m4AllowsQUIC entry.rule.services) && (p.l4proto == 17 && p.dport == 443))

def listener (plan : ProxySelectionPlan) (p : Packet) : Int :=
  if p.dport.toNat = 80 then plan.listenHTTPPort else plan.listenHTTPSPort

def lineOutcome (p : Packet) (verdict : Verdict) (comment : RuleComment) : Outcome RuleComment :=
  { verdict, comment := some comment, logged := false, ctMark := p.ctMark }

section
variable {c : Config} {plan : ProxySelectionPlan} {entry : ProxySelectionRule} {base : List Match} {p : Packet}

theorem tproxyLines_settles {port : PortRange} (unicast : p.fibType = .unicast)
    (cut : port.contains p.dport = true → (port.first = 80 ∧ port.last = 80 ↔ p.dport.toNat = 80)) :
    Settles p (base.all (·.holds p) && (p.l4proto == 6 && port.contains p.dport)) (.m4 entry.rule.id)
      (lineOutcome p (.tproxy (listener plan p) m4TPROXYMark) (.m4 entry.rule.id))
        (tproxyLines plan entry base port) := by
  let target := if port.first = 80 ∧ port.last = 80 then plan.listenHTTPPort else plan.listenHTTPSPort
  let conditions := base ++ [.fibType .unicast, .dport 6 port.first port.last]
  let first : RuleLine :=
    { conditions, verdict := some (.tproxy target m4TPROXYMark), comment := some (.m4 entry.rule.id) }
  let second : RuleLine := { conditions, verdict := some .drop, comment := some (.m4NoListener entry.rule.id) }
  have guard : conditions.all (·.holds p) = (base.all (·.holds p) && (p.l4proto == 6 && port.contains p.dport)) := by
    simp [conditions, Match.holds, unicast, PortRange.contains, portIn]
  have leads := settles_line (p := p) first rfl rfl
  have drops := settles_line (p := p) second rfl rfl
  have both := leads.append drops
  rw [show first.applies p = _ from guard, show second.applies p = _ from guard] at both
  cases held : base.all (·.holds p) && (p.l4proto == 6 && port.contains p.dport) with
  | false =>
    rw [held] at both
    exact both
  | true =>
    rw [held] at both
    have contains : port.contains p.dport := by
      simp only [Bool.and_eq_true] at held
      exact held.2.2
    have sameTarget : target = listener plan p := if_congr (cut contains) rfl rfl
    rw [← sameTarget]
    exact both

theorem tproxyLines_gated (plan : ProxySelectionPlan) (base : List Match) (unicast : p.fibType = .unicast)
    (gate : entry.gate) : Settles p (base.all (·.holds p) && gated entry p) (.m4 entry.rule.id)
      (lineOutcome p (.tproxy (listener plan p) m4TPROXYMark) (.m4 entry.rule.id))
      ((m4TransportPorts entry.gatePorts).flatMap (tproxyLines plan entry base)) := by
  have pieces : ∀ port ∈ m4TransportPorts entry.gatePorts,
      Settles p (base.all (·.holds p) && (p.l4proto == 6 && port.contains p.dport)) (.m4 entry.rule.id)
        (lineOutcome p (.tproxy (listener plan p) m4TPROXYMark) (.m4 entry.rule.id))
        (tproxyLines plan entry base port) := by
    intro port member
    obtain ⟨whole, _, piece⟩ := List.mem_flatMap.mp member
    exact tproxyLines_settles unicast (splitTransportPort_cut piece)
  have contains : (m4TransportPorts entry.gatePorts).any (·.contains p.dport) =
      entry.gatePorts.any (·.contains p.dport) := by
    rw [m4TransportPorts, List.any_flatMap]
    exact congrArg _ (funext fun port => splitTransportPort_contains port p.dport)
  have settles := settles_flatMap pieces
  rw [← List.and_any_distrib_left, ← List.and_any_distrib_left, contains] at settles
  rw [gated, gate, Bool.true_and]
  exact settles

theorem quicLines_blocked (c : Config) (base : List Match) (p : Packet) (gate : entry.gate) :
    Settles p (base.all (·.holds p) && quicBlocked c entry p) (.m4Quic entry.rule.id)
      (lineOutcome p .drop (.m4Quic entry.rule.id))
      ((c.profiles.filter fun profile => profile.id = entry.profileID ∧ profile.requestGate.any (·.blockQUIC) ∧
        m4AllowsQUIC entry.rule.services).map fun _ => quicLine base entry.rule.id) := by
  have applies : (quicLine base entry.rule.id).applies p =
      (base.all (·.holds p) && (p.l4proto == 17 && p.dport == 443)) := by
    have port : portIn 443 443 p.dport = (p.dport == 443) := by
      rw [Bool.eq_iff_iff, portIn, decide_eq_true_eq, beq_iff_eq, ← UInt16.toNat_inj]
      exact ⟨fun inside => le_antisymm inside.2 inside.1, fun same => ⟨same.ge, same.le⟩⟩
    simp [quicLine, Line.applies, Match.holds, port]
  have settles := settles_map (p := p) (fun profile (_ : profile ∈ c.profiles.filter fun profile =>
    profile.id = entry.profileID ∧ profile.requestGate.any (·.blockQUIC) ∧ m4AllowsQUIC entry.rule.services) =>
      settles_line (quicLine base entry.rule.id) rfl rfl)
  rw [List.any_filter, ← List.and_any_distrib_right, applies] at settles
  rw [quicBlocked, gate, Bool.true_and, Bool.and_left_comm]
  exact settles

def served (entry : ProxySelectionRule) (p : Packet) : Bool :=
  entry.rule.services.isEmpty || entry.rule.services.any (serviceMatch · p.l4proto p.dport)

theorem returnLines_settle (base : List Match) (p : Packet) {services : List (List Match)}
    (rendered : m4TPROXYServices entry.rule.services = .ok services) :
    Settles p (base.all (·.holds p) && served entry p) (.m4FirstMatch entry.rule.id)
      (lineOutcome p .return (.m4FirstMatch entry.rule.id)) (services.map (returnLine base entry.rule.id)) := by
  have applies (service : List Match) : (returnLine base entry.rule.id service).applies p =
      (base.all (·.holds p) && service.all (·.holds p)) := List.all_append
  have lines : ∀ service ∈ services, Settles p (base.all (·.holds p) && service.all (·.holds p))
      (.m4FirstMatch entry.rule.id) (lineOutcome p .return (.m4FirstMatch entry.rule.id))
      [returnLine base entry.rule.id service] := by
    intro service _
    rw [← applies]
    exact settles_line (returnLine base entry.rule.id service) rfl rfl
  have settles := settles_map lines
  rw [← List.and_any_distrib_left, m4TPROXYServices_any rendered] at settles
  exact settles

theorem entryError_gate (valid : entryError entry = none) (gate : entry.gate) :
    entry.rule.action = .allow ∧ entry.profileID ≠ "" ∧ entry.gatePorts = requestGateTCPPorts entry.rule := by
  unfold entryError at valid
  dsimp only at valid
  split_ifs at valid with unsupported ungated ports
  · simp only [not_or, ne_eq, not_not] at ungated ports
    exact ⟨ungated.1, ungated.2, ports.2⟩

theorem gated_served (valid : entryError entry = none) (hit : gated entry p) : served entry p = true := by
  simp only [gated, Bool.and_eq_true, beq_iff_eq] at hit
  obtain ⟨gate, tcp, inside⟩ := hit
  rw [(entryError_gate valid gate).2.2] at inside
  rw [served, tcp]
  exact requestGateTCPPorts_matches inside

theorem quicBlocked_served (hit : quicBlocked c entry p) : served entry p = true := by
  simp only [quicBlocked, Bool.and_eq_true, List.any_eq_true, decide_eq_true_eq, beq_iff_eq] at hit
  obtain ⟨_, ⟨profile, _, _, _, allows⟩, udp, port⟩ := hit
  rw [served, udp, port]
  unfold m4AllowsQUIC at allows
  simpa [serviceMatch] using allows

end

theorem entriesError_spec {entries : List ProxySelectionRule} {seen : List String} {last : Int}
    (valid : entriesError seen last entries = none) :
    (∀ entry ∈ entries, entryError entry = none ∧ entry.rule.id ≠ "" ∧ entry.rule.enabled = true ∧
      entry.rule.id ∉ seen) ∧ (entries.map (·.rule.id)).Nodup := by
  induction entries generalizing seen last with
  | nil => simp
  | cons entry entries ih =>
    unfold entriesError at valid
    split_ifs at valid with refused
    split at valid
    · cases valid
    · rename_i own
      simp only [not_or, Bool.not_eq_true, Bool.not_eq_false'] at refused
      obtain ⟨others, unique⟩ := ih valid
      refine ⟨?_, ?_⟩
      · intro other member
        rcases List.mem_cons.mp member with rfl | later
        · exact ⟨own, refused.1, by simpa using refused.2.2.1, refused.2.1⟩
        · obtain ⟨fine, named, enabled, fresh⟩ := others other later
          exact ⟨fine, named, enabled, fun old => fresh (List.mem_cons_of_mem _ old)⟩
      · rw [List.map_cons, List.nodup_cons]
        refine ⟨fun repeated => ?_, unique⟩
        obtain ⟨other, later, same⟩ := List.mem_map.mp repeated
        exact (others other later).2.2.2 (by rw [same]; exact List.mem_cons_self)

theorem not_mem_proxyManagement {c : Config} {name : String}
    (apart : ∀ iface ∈ c.interfaces, iface.mode = .management → iface.systemName ≠ name) :
    name ∉ proxyManagement c := by
  rw [proxyManagement, mem_uniqueSorted, List.mem_map]
  rintro ⟨iface, inside, same⟩
  obtain ⟨listed, managed⟩ := List.mem_filter.mp inside
  exact apart iface listed (by simpa using managed) same

theorem proxyPreamble_skips {c : Config} {p : Packet} {guards : List RuleLine} (unicast : p.fibType = .unicast)
    (loopback : p.iifname ≠ "lo") (entering : p.iifname ∉ proxyManagement c)
    (leaving : p.fibOifname ∉ proxyManagement c) (unguarded : Skips p guards) :
    Skips p (proxyPreamble c guards) := by
  have loopbackLine : Skips p ([{ conditions := [.iifname false ["lo"]], verdict := some .return }] :
    List RuleLine) := by
    simp [Skips, Line.applies, Match.holds, nameIn, loopback]
  have localLine : Skips p ([{ conditions := [.fibType .local], verdict := some .return }] : List RuleLine) := by
    simp [Skips, Line.applies, Match.holds, unicast]
  refine ((loopbackLine.append unguarded).append localLine).append ?_
  split_ifs
  · exact fun line member => absurd member (by simp)
  · simp [Skips, Line.applies, Match.holds, nameIn, entering, leaving]

theorem validate_enabled {plan : ProxySelectionPlan} (valid : plan.validate = none) (enabled : plan.enabled) :
    entriesError [] (-1) plan.rules = none ∧ plan.listenHTTPPort ≠ plan.listenHTTPSPort := by
  unfold ProxySelectionPlan.validate at valid
  split at valid
  · cases valid
  rw [if_neg (by simp [enabled])] at valid
  split at valid
  · cases valid
  rename_i ports
  split at valid
  · cases valid
  rename_i entries
  simp only [not_or] at ports
  exact ⟨entries, ports.2.2.2.2⟩

theorem selectionEntry_spec {program : Program} {generation : UInt64} {rule : Rule} {entry : ProxySelectionRule}
    (made : selectionEntry program generation rule = .ok entry) :
    entry.rule = rule ∧
      match program.requestGates.lookup rule.id with
      | none => entry.gate = false
      | some gate => entry.gate = true ∧ rule.action = .allow ∧ entry.profileID = gate.profileID ∧
          entry.gatePorts = gate.tcpPorts := by
  unfold selectionEntry at made
  cases found : program.requestGates.lookup rule.id with
  | none =>
    rw [found] at made
    cases made
    exact ⟨rfl, rfl⟩
  | some gate =>
    rw [found] at made
    dsimp only at made
    split_ifs at made with inconsistent
    cases made
    simp only [not_or, ne_eq, not_not] at inconsistent
    exact ⟨rfl, rfl, inconsistent.1, rfl, rfl⟩

def entryVerdict (c : Config) (plan : ProxySelectionPlan) (entry : ProxySelectionRule) (p : Packet) : Verdict :=
  if gated entry p then .tproxy (listener plan p) m4TPROXYMark
  else if quicBlocked c entry p then .drop else .return

def entryComment (c : Config) (entry : ProxySelectionRule) (p : Packet) : RuleComment :=
  if gated entry p then .m4 entry.rule.id
  else if quicBlocked c entry p then .m4Quic entry.rule.id else .m4FirstMatch entry.rule.id

section
variable [CaseMap] {c : Config} {plan : ProxySelectionPlan} {entry : ProxySelectionRule} {p : Packet}
  {sourceZone destinationZone : String}

theorem renderProxyEntry_spec {lines : List RuleLine} (routed : Routed c sourceZone destinationZone p)
    (unicast : p.fibType = .unicast) (valid : entryError entry = none)
    (rendered : renderProxyEntry c plan entry = .ok lines) :
    Settles p (ruleMatches entry.rule (packetView p sourceZone destinationZone)) (entryComment c entry p)
      (lineOutcome p (entryVerdict c plan entry p) (entryComment c entry p)) lines := by
  unfold renderProxyEntry at rendered
  dsimp only at rendered
  split at rendered
  · cases rendered
  obtain ⟨base, renderedBase, rest⟩ := bind_ok.mp rendered
  split at rest
  · cases rest
  obtain ⟨services, renderedServices, assembled⟩ := bind_ok.mp rest
  cases assembled
  have ends := m4TPROXYBase_all routed (labelled_ok.mp renderedBase)
  have whole : ruleMatches entry.rule (packetView p sourceZone destinationZone) =
      (base.all (·.holds p) && served entry p) := by
    rw [ends]
    rfl
  have leaves := returnLines_settle base p (labelled_ok.mp renderedServices)
  rw [whole, entryComment, entryVerdict, gateLines]
  cases gate : entry.gate with
  | false =>
    have ungated : gated entry p = false := by simp [gated, gate]
    have unblocked : quicBlocked c entry p = false := by simp [quicBlocked, gate]
    simpa [ungated, unblocked] using leaves
  | true =>
    have leads := tproxyLines_gated plan base unicast gate
    have blocks := quicLines_blocked c base p gate
    have all := (leads.append blocks).append leaves
    have gatedServed := gated_served (p := p) valid
    have blockedServed : quicBlocked c entry p = true → served entry p = true := quicBlocked_served
    generalize base.all (·.holds p) = endsHold at all ⊢
    cases endsHold <;> cases hit : gated entry p <;> cases blocked : quicBlocked c entry p <;>
      cases serves : served entry p <;> simp_all [Settles]

theorem compileM4ProxySelection_spec {generation : UInt64} {program : Program} (used : usesM4 c)
    (compiled : compileM4 c generation = .ok program) (planned : compileM4ProxySelection c generation = .ok plan) :
    plan.generation = generation ∧ plan.validate = none ∧ ∃ entries,
      Yields (selectionEntry program generation) program.rules entries ∧
      (plan.enabled = true ∧ plan.rules = entries ∨ plan.enabled = false ∧
        ∀ entry ∈ entries, entry.gate = false) := by
  rw [compileM4ProxySelection, if_neg (by simp [used])] at planned
  obtain ⟨same, compiledAgain, rest⟩ := bind_ok.mp planned
  rw [compiled] at compiledAgain
  cases compiledAgain
  obtain ⟨entries, mapped, rest⟩ := bind_ok.mp rest
  have related := mapM_ok.mp mapped
  dsimp only at rest
  split at rest
  · cases rest
  · rename_i valid
    cases rest
    split_ifs at valid ⊢ with anyGate
    · exact ⟨rfl, valid, entries, related, .inl ⟨rfl, rfl⟩⟩
    · refine ⟨rfl, valid, entries, related, .inr ⟨rfl, ?_⟩⟩
      simpa using anyGate

theorem renderM4TPROXYSelection_spec {chain : Chain RuleComment}
    (rendered : renderM4TPROXYSelection c plan = .ok chain) :
    chain.policy = .accept ∧ (plan.enabled = false ∧ chain.lines = [] ∨
      plan.enabled = true ∧ ∃ guards groups, dnatGuards c = .ok guards ∧
        Yields (renderProxyEntry c plan) plan.rules groups ∧
        chain.lines = proxyPreamble c guards ++ groups.flatten) := by
  unfold renderM4TPROXYSelection at rendered
  split at rendered
  · cases rendered
  · obtain ⟨expected, _, rest⟩ := bind_ok.mp rendered
    split_ifs at rest with differs off
    · cases rest
      exact ⟨rfl, .inl ⟨by simpa using off, rfl⟩⟩
    · obtain ⟨guards, guarded, rest⟩ := bind_ok.mp rest
      obtain ⟨groups, mapped, assembled⟩ := bind_ok.mp rest
      cases assembled
      exact ⟨rfl, .inr ⟨by simpa using off, guards, groups, guarded, mapM_ok.mp mapped, rfl⟩⟩

end

end Ngfw.Dataplane

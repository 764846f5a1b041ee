import Ngfw.Proof.Dataplane.Tproxy

/-! # The gate that the chain and the engine select -/

namespace Ngfw.Dataplane
open Lib Lib.Text Lib.Netip Lib.Nft Domain Config Connectivity

section
variable [CaseMap] {c : Config} {plan : ProxySelectionPlan} {entry : ProxySelectionRule} {p : Packet}
  {sourceZone destinationZone : String} {generation : UInt64} {program : Program} {chain : Chain RuleComment}

/-- A routed packet outside management and loopback that no guard line of a translation drops, under a configuration
with the gate in use. -/
structure SelectedPacket (c : Config) (generation : UInt64) (program : Program) (plan : ProxySelectionPlan)
    (chain : Chain RuleComment) (sourceZone destinationZone : String) (p : Packet) : Prop where
  used : usesM4 c = true
  compiled : compileM4 c generation = .ok program
  planned : compileM4ProxySelection c generation = .ok plan
  rendered : renderM4TPROXYSelection c plan = .ok chain
  family : p.saddr.is4 = true ∧ p.daddr.is4 = true
  unicast : p.fibType = .unicast
  loopback : p.iifname ≠ "lo" ∧ p.fibOifname ≠ "lo"
  management : ∀ iface ∈ c.interfaces, iface.mode = .management →
    iface.systemName ≠ p.iifname ∧ iface.systemName ≠ p.fibOifname
  unguarded : ∀ guards, dnatGuards c = .ok guards → Skips p guards
  routed : Routed c sourceZone destinationZone p

def covering (entries : List ProxySelectionRule) (view : View) : Option ProxySelectionRule :=
  entries.find? fun entry => ruleMatches entry.rule view

theorem select_decides (packet : SelectedPacket c generation program plan chain sourceZone destinationZone p)
    (enabled : plan.enabled) :
    match covering plan.rules (packetView p sourceZone destinationZone) with
    | some entry => chain.run p = lineOutcome p (entryVerdict c plan entry p) (entryComment c entry p)
    | none => (chain.run p).comment = none ∧ (chain.run p).verdict = .accept := by
  obtain ⟨_, valid, _⟩ := compileM4ProxySelection_spec packet.used packet.compiled packet.planned
  obtain ⟨entries, _⟩ := validate_enabled valid enabled
  obtain ⟨policy, shape⟩ := renderM4TPROXYSelection_spec packet.rendered
  rcases shape with ⟨off, _⟩ | ⟨_, guards, groups, guarded, related, lines⟩
  · rw [enabled] at off
    cases off
  have entering := not_mem_proxyManagement fun iface listed managed => (packet.management iface listed managed).1
  have leaving := not_mem_proxyManagement fun iface listed managed => (packet.management iface listed managed).2
  have preamble := proxyPreamble_skips packet.unicast packet.loopback.1 entering leaving
    (packet.unguarded guards guarded)
  have settled : List.Forall₂ (fun entry lines =>
      Settles p (ruleMatches entry.rule (packetView p sourceZone destinationZone)) (entryComment c entry p)
        (lineOutcome p (entryVerdict c plan entry p) (entryComment c entry p)) lines) plan.rules groups := by
    refine List.Forall₂.imp ?_ ((List.forall₂_and_left _ _).mpr ⟨(entriesError_spec entries).1, related⟩)
    rintro entry own ⟨⟨fine, _⟩, renders⟩
    exact renderProxyEntry_spec packet.routed packet.unicast fine renders
  have decided := decides_first settled
  rw [← covering] at decided
  rw [Chain.run, lines]
  cases found : covering plan.rules (packetView p sourceZone destinationZone) with
  | some entry =>
    rw [found] at decided
    exact (preamble.append_decides decided).run
  | none =>
    rw [found] at decided
    rw [(preamble.append decided).run, policy]
    exact ⟨rfl, rfl⟩

variable {entries : List ProxySelectionRule} {id : String}

theorem find_entries (used : usesM4 c) (compiled : compileM4 c generation = .ok program)
    (related : Yields (selectionEntry program generation) program.rules entries) (view : View) :
    Option.Rel (fun rule entry => selectionEntry program generation rule = .ok entry)
      (program.rules.find? fun rule => rule.enabled && ruleMatches rule view)
      (covering entries view) := by
  rw [covering]
  have enabled : ∀ rule ∈ program.rules, rule.enabled = true := by
    intro rule listed
    obtain ⟨policy, _, compiledRule⟩ := forall₂_mem_right (compileM4_rules used compiled) listed
    obtain ⟨_, _, _, _, _, _, _, _, on⟩ := compileRule_spec compiledRule
    exact on
  have found := find?_forall₂ (p := fun rule => rule.enabled && ruleMatches rule view)
    (q := fun entry => ruleMatches entry.rule view) ((List.forall₂_and_left _ _).mpr ⟨enabled, related⟩) (by
      rintro rule entry ⟨on, made⟩
      rw [on, Bool.true_and, (selectionEntry_spec made).1])
  generalize program.rules.find? _ = rule at found ⊢
  generalize entries.find? _ = entry at found ⊢
  cases found with
  | none => exact .none
  | some both => exact .some both.2

theorem select_entries (packet : SelectedPacket c generation program plan chain sourceZone destinationZone p) :
    ∃ entries, Yields (selectionEntry program generation) program.rules entries ∧
      (∀ entry ∈ entries, entry.gate = true → ProxySelectionPlan.entriesError [] (-1) entries = none) ∧
      ((chain.run p).comment = none ∧ (chain.run p).verdict = .accept ∧
          (∀ entry, covering entries (packetView p sourceZone destinationZone) =
            some entry → entry.gate = false) ∨
        plan.enabled = true ∧ ∃ entry,
          covering entries (packetView p sourceZone destinationZone) = some entry ∧
          chain.run p = lineOutcome p (entryVerdict c plan entry p) (entryComment c entry p)) := by
  obtain ⟨_, valid, entries, related, shape⟩ :=
    compileM4ProxySelection_spec packet.used packet.compiled packet.planned
  refine ⟨entries, related, ?_⟩
  rcases shape with ⟨enabled, rfl⟩ | ⟨off, ungated⟩
  · refine ⟨fun _ _ _ => (validate_enabled valid enabled).1, ?_⟩
    have decided := select_decides packet enabled
    cases found : covering plan.rules (packetView p sourceZone destinationZone) with
    | none =>
      rw [found] at decided
      exact .inl ⟨decided.1, decided.2, fun entry impossible => by cases impossible⟩
    | some entry =>
      rw [found] at decided
      exact .inr ⟨enabled, entry, rfl, decided⟩
  · refine ⟨fun entry listed gate => absurd gate (by simp [ungated entry listed]), .inl ?_⟩
    obtain ⟨policy, ⟨_, empty⟩ | ⟨on, _⟩⟩ := renderM4TPROXYSelection_spec packet.rendered
    · rw [Chain.run, empty, policy]
      exact ⟨rfl, rfl, fun entry found => ungated entry (List.mem_of_find?_eq_some found)⟩
    · rw [off] at on
      cases on

def BlocksQUIC (c : Config) (id : String) : Prop :=
  ∃ policy ∈ c.policies, policy.enabled = true ∧ policy.id = id ∧ policy.securityProfileID ≠ "" ∧
    ∃ profile gate, profileByID c policy.securityProfileID = some profile ∧ profile.requestGate = some gate ∧
      gate.enabled = true ∧ gate.blockQUIC = true

theorem enabled_policy_unique {first second : SecurityPolicy}
    (used : usesM4 c) (compiled : compileM4 c generation = .ok program)
    (related : Yields (selectionEntry program generation) program.rules entries)
    (unique : (entries.map (·.rule.id)).Nodup) (firstListed : first ∈ c.policies) (firstEnabled : first.enabled)
    (secondListed : second ∈ c.policies) (secondEnabled : second.enabled) (same : first.id = second.id) :
    first = second := by
  have ruleIDs : ((sortByPriority c.policies).filter (·.enabled)).map SecurityPolicy.id =
      program.rules.map Rule.id := by
    refine map_eq_of_forall₂ ((compileM4_rules used compiled).imp fun policy rule compiledRule => ?_)
    obtain ⟨_, _, _, _, _, _, id, _⟩ := compileRule_spec compiledRule
    exact id.symm
  have entryIDs : program.rules.map Rule.id = entries.map (·.rule.id) :=
    map_eq_of_forall₂ (related.imp fun rule entry made => by rw [(selectionEntry_spec made).1])
  have member (policy : SecurityPolicy) (listed : policy ∈ c.policies) (enabled : policy.enabled) :
      policy ∈ (sortByPriority c.policies).filter (·.enabled) :=
    List.mem_filter.mpr ⟨by rwa [sortByPriority, List.mem_insertionSort], enabled⟩
  rw [← entryIDs, ← ruleIDs] at unique
  exact List.inj_on_of_nodup_map unique (member first firstListed firstEnabled)
    (member second secondListed secondEnabled) same

section
variable (packet : SelectedPacket c generation program plan chain sourceZone destinationZone p)
  (related : Yields (selectionEntry program generation) program.rules entries)
  (valid : ∀ entry ∈ entries, entry.gate = true → ProxySelectionPlan.entriesError [] (-1) entries = none)
include packet related valid

theorem selectRequestGate_entries (tcp : p.l4proto = 6) :
    ((selectRequestGate program (packetView p sourceZone destinationZone)).enabled = true ∧
        (selectRequestGate program (packetView p sourceZone destinationZone)).policyID = id) ↔
      ∃ entry, covering entries (packetView p sourceZone destinationZone) =
        some entry ∧ gated entry p = true ∧ entry.rule.id = id := by
  have both := find_entries packet.used packet.compiled related (packetView p sourceZone destinationZone)
  cases decided : program.rules.find? fun rule =>
      rule.enabled && ruleMatches rule (packetView p sourceZone destinationZone) with
  | none =>
    rw [decided] at both
    have off := selectRequestGate_of_none decided
    cases found : covering entries (packetView p sourceZone destinationZone) with
    | none => simp [off]
    | some entry =>
      rw [found] at both
      cases both
  | some rule =>
    rw [decided] at both
    cases found : covering entries (packetView p sourceZone destinationZone) with
    | none =>
      rw [found] at both
      cases both
    | some entry =>
      rw [found] at both
      cases both with
      | some made =>
      obtain ⟨rfl, gate⟩ := selectionEntry_spec made
      have listed := List.mem_of_find?_eq_some found
      rw [selectRequestGate_of_rule decided]
      cases held : program.requestGates.lookup entry.rule.id with
      | none =>
        rw [held] at gate
        have ungated : gated entry p = false := by simp [gated, gate]
        split_ifs <;> simp [ungated]
      | some plan =>
        rw [held] at gate
        obtain ⟨on, allowed, _, ports⟩ := gate
        obtain ⟨enabled, planID, _⟩ := requestGates_spec packet.used packet.compiled held
        have inside : gated entry p = plan.tcpPorts.any (·.contains p.dport) := by simp [gated, on, tcp, ports]
        have named := ((entriesError_spec (valid entry listed on)).1 entry listed).2.1
        rw [if_neg (by simp [allowed, named, packetView, tcp])]
        cases hit : plan.tcpPorts.any (·.contains p.dport) with
        | true => simp [packetView, hit, enabled, planID, inside]
        | false => simp [packetView, hit, inside]

theorem quicBlocked_iff (profiles : (c.profiles.map SecurityProfile.id).Nodup) (listed : entry ∈ entries)
    (serves : served entry p) (udp : p.l4proto = 17) (port : p.dport = 443) :
    quicBlocked c entry p = true ↔ BlocksQUIC c entry.rule.id := by
  obtain ⟨rule, _, made⟩ := forall₂_mem_right related listed
  obtain ⟨rfl, gate⟩ := selectionEntry_spec made
  constructor
  · intro blocked
    simp only [quicBlocked, Bool.and_eq_true, List.any_eq_true, decide_eq_true_eq] at blocked
    obtain ⟨on, ⟨other, otherListed, otherID, blocks, _⟩, _⟩ := blocked
    obtain ⟨fine, _⟩ := (entriesError_spec (valid entry listed on)).1 entry listed
    obtain ⟨_, named, _⟩ := entryError_gate fine on
    cases held : program.requestGates.lookup entry.rule.id with
    | none =>
      rw [held] at gate
      simp [on] at gate
    | some gatePlan =>
      rw [held] at gate
      obtain ⟨_, _, policy, policyListed, policyID, policyEnabled, profile, own, profiled, gates, enabled,
        profileID⟩ :=
        requestGates_spec packet.used packet.compiled held
      obtain ⟨profileListed, securityProfile⟩ := profileByID_spec profiled
      have planned : entry.profileID = profile.id := gate.2.2.1.trans profileID
      have same : other = profile :=
        List.inj_on_of_nodup_map profiles otherListed profileListed (otherID.trans planned)
      rw [same, gates] at blocks
      refine ⟨policy, policyListed, policyEnabled, policyID, ?_, profile, own, profiled, gates, enabled, blocks⟩
      rwa [← securityProfile, ← planned]
  · rintro ⟨policy, policyListed, policyEnabled, policyID, named, profile, own, profiled, gates, enabled, blocks⟩
    have planned := requestGates_isSome packet.used packet.compiled policyListed policyEnabled named
      profiled gates enabled
    rw [policyID] at planned
    obtain ⟨gatePlan, held⟩ := Option.isSome_iff_exists.mp planned
    rw [held] at gate
    obtain ⟨on, _, entryProfile, _⟩ := gate
    obtain ⟨_, _, second, secondListed, secondID, secondEnabled, found, _, foundBy, _, _, planProfile⟩ :=
      requestGates_spec packet.used packet.compiled held
    obtain ⟨_, unique⟩ := entriesError_spec (valid entry listed on)
    have samePolicy : second = policy := enabled_policy_unique packet.used packet.compiled related unique secondListed
      secondEnabled policyListed policyEnabled (secondID.trans policyID.symm)
    have sameProfile : found = profile := by
      rw [samePolicy, profiled] at foundBy
      exact (Option.some.inj foundBy).symm
    have allows : m4AllowsQUIC entry.rule.services := by
      rw [served, udp, port] at serves
      simpa [m4AllowsQUIC, serviceMatch] using serves
    simp only [quicBlocked, on, udp, port, beq_self_eq_true, Bool.and_true, Bool.true_and, List.any_eq_true,
      decide_eq_true_eq]
    exact ⟨profile, (profileByID_spec profiled).1, by rw [entryProfile, planProfile, sameProfile],
      by rw [gates]; exact blocks, allows⟩

theorem blocksQUIC_named (blocks : BlocksQUIC c id) : id ≠ "" := by
  obtain ⟨policy, listed, enabled, rfl, named, profile, own, profiled, gates, on, _⟩ := blocks
  have planned := requestGates_isSome packet.used packet.compiled listed enabled named profiled gates on
  obtain ⟨gatePlan, held⟩ := Option.isSome_iff_exists.mp planned
  have sorted : policy ∈ (sortByPriority c.policies).filter (·.enabled) :=
    List.mem_filter.mpr ⟨by rwa [sortByPriority, List.mem_insertionSort], enabled⟩
  obtain ⟨rule, ruleListed, compiledRule⟩ := forall₂_mem_left (compileM4_rules packet.used packet.compiled) sorted
  obtain ⟨_, _, _, _, _, _, ruleID, _⟩ := compileRule_spec compiledRule
  obtain ⟨entry, entryListed, made⟩ := forall₂_mem_left related ruleListed
  obtain ⟨rfl, gate⟩ := selectionEntry_spec made
  rw [ruleID, held] at gate
  rw [← ruleID]
  exact ((entriesError_spec (valid entry entryListed gate.1)).1 entry entryListed).2.1

theorem evaluate_blocks_iff (profiles : (c.profiles.map SecurityProfile.id).Nodup) (udp : p.l4proto = 17)
    (port : p.dport = 443) :
    ((program.evaluate (packetView p sourceZone destinationZone)).policyID = id ∧ BlocksQUIC c id) ↔
      ∃ entry, covering entries (packetView p sourceZone destinationZone) =
        some entry ∧ quicBlocked c entry p = true ∧ entry.rule.id = id := by
  have both := find_entries packet.used packet.compiled related (packetView p sourceZone destinationZone)
  unfold Program.evaluate
  generalize program.rules.find? _ = decided at both ⊢
  cases found : covering entries (packetView p sourceZone destinationZone) with
  | none =>
    rw [found] at both
    cases both
    constructor
    · rintro ⟨unnamed, blocks⟩
      refine absurd ?_ (blocksQUIC_named packet related valid blocks)
      rw [← unnamed]
      split_ifs <;> rfl
    · rintro ⟨entry, impossible, _⟩
      cases impossible
  | some entry =>
    rw [found] at both
    cases both with
    | some made =>
    obtain ⟨rfl, _⟩ := selectionEntry_spec made
    have matched := List.find?_some found
    have serves : served entry p := by
      simp only [ruleMatches, Bool.and_eq_true] at matched
      exact matched.2
    have blocked := quicBlocked_iff packet related valid profiles (List.mem_of_find?_eq_some found) serves udp port
    constructor
    · rintro ⟨rfl, blocks⟩
      exact ⟨entry, rfl, blocked.mpr blocks, rfl⟩
    · rintro ⟨_, ⟨⟩, blocks, rfl⟩
      exact ⟨rfl, blocked.mp blocks⟩

end

theorem tproxy_agrees (packet : SelectedPacket c generation program plan chain sourceZone destinationZone p)
    (profiles : (c.profiles.map SecurityProfile.id).Nodup) :
    (p.l4proto = 6 →
      (∀ id, ((∃ port mark, (chain.run p).verdict = .tproxy port mark) ∧
        (chain.run p).comment = some (.m4 id)) ↔
        ((selectRequestGate program (packetView p sourceZone destinationZone)).enabled = true ∧
          (selectRequestGate program (packetView p sourceZone destinationZone)).policyID = id)) ∧
      ∀ port mark, (chain.run p).verdict = .tproxy port mark → (port = plan.listenHTTPPort ↔ p.dport = 80)) ∧
    (p.l4proto = 17 → p.dport = 443 →
      ∀ id, ((chain.run p).verdict = .drop ∧ (chain.run p).comment = some (.m4Quic id)) ↔
        ((program.evaluate (packetView p sourceZone destinationZone)).policyID = id ∧ BlocksQUIC c id)) := by
  obtain ⟨entries, related, valid, outcome⟩ := select_entries packet
  refine ⟨fun tcp => ⟨fun id => ?_, fun port mark leads => ?_⟩, fun udp port id => ?_⟩
  · rw [selectRequestGate_entries packet related valid tcp]
    rcases outcome with ⟨uncommented, _, ungated⟩ | ⟨_, entry, found, run⟩
    · constructor
      · rintro ⟨_, commented⟩
        rw [uncommented] at commented
        cases commented
      · rintro ⟨entry, found, hit, _⟩
        simp [gated, ungated entry found] at hit
    · rw [run, found]
      cases hit : gated entry p <;> cases blocked : quicBlocked c entry p <;>
        simp [lineOutcome, entryVerdict, entryComment, hit, blocked]
  · rcases outcome with ⟨_, accepted, _⟩ | ⟨enabled, entry, found, run⟩
    · rw [accepted] at leads
      cases leads
    · obtain ⟨_, checked, _⟩ := compileM4ProxySelection_spec packet.used packet.compiled packet.planned
      have distinct := (validate_enabled checked enabled).2
      rw [run] at leads
      simp only [lineOutcome, entryVerdict] at leads
      split_ifs at leads
      obtain ⟨rfl, rfl⟩ := Verdict.tproxy.inj leads
      have http : p.dport = 80 ↔ p.dport.toNat = 80 := UInt16.toNat_inj.symm
      rw [listener, http]
      split_ifs with plain
      · simp [plain]
      · simp [plain, distinct.symm]
  · rw [evaluate_blocks_iff packet related valid profiles udp port]
    rcases outcome with ⟨uncommented, _, ungated⟩ | ⟨_, entry, found, run⟩
    · constructor
      · rintro ⟨_, commented⟩
        rw [uncommented] at commented
        cases commented
      · rintro ⟨entry, found, blocked, _⟩
        simp [quicBlocked, ungated entry found] at blocked
    · have notTCP : gated entry p = false := by simp [gated, udp]
      rw [run, found]
      cases blocked : quicBlocked c entry p <;> simp [lineOutcome, entryVerdict, entryComment, notTCP, blocked]

end

def gatedConfig (blockQUIC : List Bool) : Config :=
  { defaults with
    interfaces := [ethernet "eth0" "lan" "192.168.1.1/24", ethernet "eth1" "dmz" "10.0.1.1/24"]
    zones := [{ id := "lan" }, { id := "dmz" }]
    policies :=
      [{ id := "web", priority := 10, sourceZones := ["lan"], destinationZones := ["dmz"]
         services := ["tcp:80", "udp:443"], action := .allow, securityProfileID := "gate" }]
    profiles := blockQUIC.map fun block =>
      { id := "gate", tlsMode := .decrypt
        requestGate := some { enabled := true, failMode := .failClose, oversizeAction := "BLOCK"
                              unsupportedEncodingAction := "BLOCK", blockQUIC := block } }
    requestGate := some { enabled := true } }

def sharedGate : Config :=
  { gatedConfig [true] with
    interfaces := ethernet "eth0" "guest" "192.168.3.1/24" :: (gatedConfig [true]).interfaces }

def gatedPacket (l4proto : UInt8) (dport : UInt16) : Packet :=
  { iifname := "eth0", fibOifname := "eth1", saddr := .v4 0xC0A8010A#32, daddr := .v4 0x0A00010A#32, l4proto
    sport := 50000, dport }

section
attribute [local instance] asciiCaseMap

theorem gatedPacket_selected {blockQUIC : List Bool} {program : Program} {plan : ProxySelectionPlan}
    {chain : Chain RuleComment} (compiled : compileM4 (gatedConfig blockQUIC) 1 = .ok program)
    (planned : compileM4ProxySelection (gatedConfig blockQUIC) 1 = .ok plan)
    (rendered : renderM4TPROXYSelection (gatedConfig blockQUIC) plan = .ok chain) (l4proto : UInt8) (dport : UInt16) :
    SelectedPacket (gatedConfig blockQUIC) 1 program plan chain "lan" "dmz" (gatedPacket l4proto dport) where
  used := rfl
  compiled := compiled
  planned := planned
  rendered := rendered
  family := ⟨rfl, rfl⟩
  unicast := rfl
  loopback := ⟨by simp [gatedPacket], by simp [gatedPacket]⟩
  management := by simp [gatedConfig, ethernet]
  unguarded := by
    rintro guards ⟨⟩ line ⟨⟩
  routed :=
    { oneZone := by simp [OneZone, gatedConfig, ethernet]
      source := ⟨_, List.mem_cons_self, rfl, by decide⟩
      destination := ⟨_, List.mem_cons_of_mem _ List.mem_cons_self, rfl, by decide⟩ }

/-- The chain asks every profile of an ID and the engine the last; and for the chain a name that two zones list is in
both. -/
theorem repeated_profile_blocks_quic :
    (∃ program plan chain, SelectedPacket (gatedConfig [true, false]) 1 program plan chain "lan" "dmz"
        (gatedPacket 17 443) ∧
      (chain.run (gatedPacket 17 443)).verdict = .drop ∧
      (chain.run (gatedPacket 17 443)).comment = some (.m4Quic "web") ∧
      ¬ BlocksQUIC (gatedConfig [true, false]) "web") ∧
    OnZone sharedGate "eth0" "guest" ∧ OnZone sharedGate "eth1" "dmz" ∧
      ∃ program, compileM4 sharedGate 1 = .ok program ∧
        (selectRequestGate program (packetView (gatedPacket 6 80) "guest" "dmz")).enabled = false ∧
        ∃ plan, compileM4ProxySelection sharedGate 1 = .ok plan ∧
        ∃ chain, renderM4TPROXYSelection sharedGate plan = .ok chain ∧
          (chain.run (gatedPacket 6 80)).verdict = .tproxy 18080 m4TPROXYMark := by
  obtain ⟨program, compiled, plan, planned, chain, rendered, verdict, comment⟩ :
      ∃ program, compileM4 (gatedConfig [true, false]) 1 = .ok program ∧
        ∃ plan, compileM4ProxySelection (gatedConfig [true, false]) 1 = .ok plan ∧
        ∃ chain, renderM4TPROXYSelection (gatedConfig [true, false]) plan = .ok chain ∧
          (chain.run (gatedPacket 17 443)).verdict = .drop ∧
          (chain.run (gatedPacket 17 443)).comment = some (.m4Quic "web") := by decide +kernel
  have own : ∀ profile gate, profileByID (gatedConfig [true, false]) "gate" = some profile →
      profile.requestGate = some gate → gate.blockQUIC = false := by
    intro profile gate found gates
    cases found
    cases gates
    rfl
  refine ⟨⟨program, plan, chain, gatedPacket_selected compiled planned rendered 17 443, verdict, comment, ?_⟩,
    by decide, by decide, by decide +kernel⟩
  rintro ⟨policy, listed, _, _, _, profile, gate, found, gates, _, blocks⟩
  simp only [gatedConfig, List.mem_singleton] at listed
  subst listed
  rw [own profile gate found gates] at blocks
  cases blocks

theorem tproxy_agrees_web :
    ∃ program plan chain, SelectedPacket (gatedConfig [true]) 1 program plan chain "lan" "dmz" (gatedPacket 6 80) ∧
      ((selectRequestGate program (packetView (gatedPacket 6 80) "lan" "dmz")).enabled = true ∧
        (selectRequestGate program (packetView (gatedPacket 6 80) "lan" "dmz")).policyID = "web") := by
  obtain ⟨program, compiled, plan, planned, chain, rendered, verdict, comment⟩ :
      ∃ program, compileM4 (gatedConfig [true]) 1 = .ok program ∧
        ∃ plan, compileM4ProxySelection (gatedConfig [true]) 1 = .ok plan ∧
        ∃ chain, renderM4TPROXYSelection (gatedConfig [true]) plan = .ok chain ∧
          (chain.run (gatedPacket 6 80)).verdict = .tproxy 18080 m4TPROXYMark ∧
          (chain.run (gatedPacket 6 80)).comment = some (.m4 "web") := by decide +kernel
  have packet := gatedPacket_selected compiled planned rendered 6 80
  have agrees := tproxy_agrees packet (by decide)
  exact ⟨program, plan, chain, packet, ((agrees.1 rfl).1 "web").mp ⟨⟨_, _, verdict⟩, comment⟩⟩

end

end Ngfw.Dataplane

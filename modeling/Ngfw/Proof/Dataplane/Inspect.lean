import Ngfw.Dataplane.InspectionPlan
import Ngfw.Proof.Connectivity.Program
import Ngfw.Proof.Dataplane.Selection

/-!
# The inspect chain and the selection of the engine

Each policy has its lines for the two directions next to each other, and the reply lines ask for the state of the
connection only. So the chain treats a packet as the first policy says that selects the packet or, once the
connection is established, its reverse; the engine asks for the policy of the original direction.
-/

namespace Ngfw.Dataplane
open Lib Lib.Text Lib.Netip Lib.Nft Domain Config Connectivity

def engages [CaseMap] (c : Config) (policy : SecurityPolicy) (p : Packet) : Bool :=
  selects c policy p || ([CtState.established, .related].contains p.ctState && selects c policy p.reverse)

def inspectionOutcome (mode : InspectionMode) (p : Packet) (comment : RuleComment) : Outcome RuleComment :=
  { verdict := if mode = .ips ∧ p.sets.contains "ips_ready" then .queue 100 else .accept
    comment := some comment
    logged := decide (mode = .ids)
    ctMark := p.ctMark }

section
variable {p : Packet} {names : List String}

theorem policyLine_settles (conditions : List Match) (verdict : Verdict) (comment : RuleComment) (p : Packet) :
    Settles p (conditions.all (·.holds p)) comment
      { verdict, comment := some comment, logged := false, ctMark := p.ctMark }
      [policyLine conditions verdict comment] :=
  settles_line (policyLine conditions verdict comment) rfl rfl

theorem inspectionLines_settles (mode : InspectionMode) (conditions : List Match) (comment : RuleComment) (p : Packet) :
    Settles p (conditions.all (·.holds p)) comment (inspectionOutcome mode p comment)
      (inspectionLines mode conditions comment) := by
  have accepts := policyLine_settles conditions .accept comment p
  cases mode with
  | ids =>
    let logs : RuleLine :=
      { conditions, counter := true, logGroup := some 100, verdict := none, comment := some comment }
    exact settles_passed logs accepts rfl rfl rfl
  | ips =>
    have queues := policyLine_settles (conditions ++ [.inSet "meta nfproto . meta l4proto" "ips_ready"]) (.queue 100)
      comment p
    have both := queues.append accepts
    have leased (key name : String) : (Match.inSet key name).holds p = p.sets.contains name := rfl
    simp only [List.all_append, List.all_cons, List.all_nil, leased, Bool.and_true] at both
    unfold inspectionOutcome
    generalize conditions.all (·.holds p) = holds at both ⊢
    generalize p.sets.contains "ips_ready" = lease at both ⊢
    cases holds <;> cases lease <;> exact both
  | off => exact accepts
  | other text => exact accepts

theorem withoutManagement_all (incoming : p.iifname ∉ names) (outgoing : p.oifname ∉ names) :
    (withoutManagement names).all (·.holds p) = true := by
  unfold withoutManagement
  split_ifs
  · rfl
  · simp [Match.holds, nameIn, incoming, outgoing]

theorem addRules_spec {program : Program} {policies : List SecurityPolicy} {plan after : InspectionPlan}
    (added : policies.foldlM (InspectionPlan.add program) plan = .ok after) :
    after.rules = plan.rules ++ policies.map (fun policy => ⟨policy, selectionOf program policy⟩) ∧
      after.enabled = plan.enabled ∧ after.includeManagement = plan.includeManagement := by
  induction policies generalizing plan with
  | nil =>
    cases added
    simp
  | cons policy policies ih =>
    rw [List.foldlM_cons] at added
    obtain ⟨middle, addedOne, rest⟩ := bind_ok.mp added
    obtain ⟨rules, enabled, management⟩ := ih rest
    unfold InspectionPlan.add at addedOne
    dsimp only at addedOne
    split_ifs at addedOne
    cases addedOne
    exact ⟨by rw [rules]; simp, enabled, management⟩

end

section
variable [CaseMap] {c : Config} {p : Packet} {names : List String} {entry : InspectionRule} {lines : List RuleLine}

theorem renderInspectionDirection_forward (named : "" ∉ entry.policy.services) (incoming : p.iifname ∉ names)
    (outgoing : p.oifname ∉ names) (rendered : renderInspectionDirection c entry names false = .ok lines) :
    Settles p (selects c entry.policy p) (.m3 entry.policy.id false)
      (inspectionOutcome entry.selection.mode p (.m3 entry.policy.id false)) lines := by
  obtain ⟨base, renderedBase, rest⟩ := bind_ok.mp rendered
  obtain ⟨services, renderedServices, assembled⟩ := bind_ok.mp rest
  cases assembled
  have baseHolds := baseMatches_all (p := p) renderedBase
  have serviceHolds := serviceMatches_any (p := p) (fun _ => rfl) (fun _ _ _ => rfl) named renderedServices
  have settles := settles_flatMap (p := p) (fun service (_ : service ∈ services) =>
    inspectionLines_settles entry.selection.mode (withoutManagement names ++ base ++ service)
      (.m3 entry.policy.id false) p)
  simp only [List.all_append, withoutManagement_all incoming outgoing, Bool.true_and, baseHolds] at settles
  rw [← List.and_any_distrib_left, serviceHolds] at settles
  exact settles

theorem renderInspectionDirection_reverse (named : "" ∉ entry.policy.services) (incoming : p.iifname ∉ names)
    (outgoing : p.oifname ∉ names) (rendered : renderInspectionDirection c entry names true = .ok lines) :
    Settles p ([CtState.established, .related].contains p.ctState && selects c entry.policy p.reverse)
      (.m3 entry.policy.id true) (inspectionOutcome entry.selection.mode p (.m3 entry.policy.id true)) lines := by
  obtain ⟨base, renderedBase, rest⟩ := bind_ok.mp rendered
  obtain ⟨services, renderedServices, assembled⟩ := bind_ok.mp rest
  obtain ⟨stateless, renderedStateless, rfl⟩ := map_ok.mp renderedBase
  cases assembled
  have baseHolds := baseMatches_all (p := p) renderedStateless
  have serviceHolds := serviceMatches_any (p := p) (fun _ => rfl) (fun _ _ _ => rfl) named renderedServices
  have settles := settles_flatMap (p := p) (fun service (_ : service ∈ services) =>
    inspectionLines_settles entry.selection.mode
      (withoutManagement names ++ ([.ctState [.established, .related]] ++ stateless) ++ service)
      (.m3 entry.policy.id true) p)
  simp only [List.all_append, withoutManagement_all incoming outgoing, Bool.true_and, baseHolds] at settles
  rw [← List.and_any_distrib_left, serviceHolds] at settles
  convert settles using 1
  simp only [selects, Packet.reverse, List.all_cons, List.all_nil, Match.holds, Bool.and_true]
  ac_rfl

def engagedComment (c : Config) (policy : SecurityPolicy) (p : Packet) : RuleComment :=
  .m3 policy.id (!selects c policy p)

theorem renderInspectionEntry_spec (named : "" ∉ entry.policy.services) (incoming : p.iifname ∉ names)
    (outgoing : p.oifname ∉ names) (rendered : renderInspectionEntry c names entry = .ok lines) :
    Settles p (engages c entry.policy p) (engagedComment c entry.policy p)
      (inspectionOutcome entry.selection.mode p (engagedComment c entry.policy p)) lines := by
  obtain ⟨forward, renderedForward, rest⟩ := bind_ok.mp rendered
  obtain ⟨reverse, renderedReverse, assembled⟩ := bind_ok.mp rest
  cases assembled
  have own := renderInspectionDirection_forward named incoming outgoing renderedForward
  have reply := renderInspectionDirection_reverse named incoming outgoing renderedReverse
  have both := own.append reply
  unfold engages engagedComment
  cases holds : selects c entry.policy p <;> simpa [holds] using both

theorem inspect_decides {program : Program} {plan : InspectionPlan} {chain : Chain RuleComment}
    (enabled : usesM3 c) (named : ∀ policy ∈ enabledPolicies c, "" ∉ policy.services)
    (planned : compileInspectionPlan c program = .ok plan) (rendered : renderInspectionRules plan c = .ok chain)
    (incoming : p.iifname ∉ managementInterfaces c) (outgoing : p.oifname ∉ managementInterfaces c) :
    match (enabledPolicies c).find? (engages c · p) with
    | some policy => Decides p (engagedComment c policy p)
        (inspectionOutcome (selectionOf program policy).mode p (engagedComment c policy p)) chain.lines
    | none => Skips p chain.lines := by
  have effective : (effectiveInspectionConfig c).enabled := by
    unfold usesM3 at enabled
    unfold effectiveInspectionConfig
    split <;> simp_all
  rw [compileInspectionPlan, if_neg (by simp [effective])] at planned
  obtain ⟨rules, planEnabled, _⟩ := addRules_spec planned
  rw [renderInspectionRules, if_neg (by simp [planEnabled, effective])] at rendered
  obtain ⟨groups, mapped, rfl⟩ := map_ok.mp rendered
  have related := mapM_ok.mp mapped
  rw [rules, List.nil_append, Yields, List.forall₂_map_left_iff] at related
  have settled : List.Forall₂ (fun policy lines => Settles p (engages c policy p) (engagedComment c policy p)
      (inspectionOutcome (selectionOf program policy).mode p (engagedComment c policy p)) lines)
      (enabledPolicies c) groups := by
    refine List.Forall₂.imp ?_ ((List.forall₂_and_left _ _).mpr ⟨named, related⟩)
    rintro policy lines ⟨services, renders⟩
    have management : ∀ name, name ∉ managementInterfaces c →
        name ∉ if plan.includeManagement = true then [] else managementInterfaces c := by
      intro name outside
      split_ifs
      · exact List.not_mem_nil
      · exact outside
    exact renderInspectionEntry_spec services (management _ incoming) (management _ outgoing) renders
  have decided := decides_first settled
  cases found : (enabledPolicies c).find? (engages c · p) with
  | some | none =>
    rw [found] at decided
    exact decided

theorem compileM3_services_named {generation : UInt64} {program : Program}
    (compiled : compileM3 c generation = .ok program) : ∀ policy ∈ enabledPolicies c, "" ∉ policy.services := by
  obtain ⟨base, compiledBase, _⟩ := compileM3_spec compiled
  obtain ⟨rules, _⟩ := compile_spec compiledBase
  intro policy enabled
  obtain ⟨rule, _, compiledRule⟩ := forall₂_mem_left rules enabled
  exact compileRule_services_named compiledRule

/-! ## Agreement with the engine -/

def NonManagement (c : Config) (name zone : String) : Prop :=
  ∀ iface ∈ c.interfaces, iface.mode = .management → iface.systemName ≠ name ∧
    zoneKey iface.zoneID ≠ zoneKey zone

theorem NonManagement.name {name zone : String} (forwarded : NonManagement c name zone) :
    name ∉ managementInterfaces c := by
  intro member
  rw [managementInterfaces, List.mem_insertionSort, List.mem_map] at member
  obtain ⟨iface, inside, same⟩ := member
  obtain ⟨listed, management⟩ := List.mem_filter.mp inside
  simp only [decide_eq_true_eq] at management
  exact (forwarded iface listed management.1).1 same

theorem NonManagement.zone {name zone : String} (forwarded : NonManagement c name zone) :
    (managementZonesOf c).contains (zoneKey zone) = false := by
  rw [List.contains_eq_mem, decide_eq_false_iff_not]
  intro member
  obtain ⟨iface, inside, same⟩ := List.mem_map.mp member
  obtain ⟨listed, management⟩ := List.mem_filter.mp inside
  simp only [decide_eq_true_eq] at management
  exact (forwarded iface listed management.1).2 same

structure InspectedPacket (c : Config) (generation : UInt64) (program : Program) (chain : Chain RuleComment)
    (sourceZone destinationZone policyID : String) (original p : Packet) : Prop where
  compiled : compileM3 c generation = .ok program
  enabled : usesM3 c = true
  rendered : ∃ plan, compileInspectionPlan c program = .ok plan ∧ renderInspectionRules plan c = .ok chain
  state : p.ctState = .new ∨ p.ctState = .established
  direction : p = original ∨ p = original.reverse
  source : OnZone c original.iifname sourceZone ∧ NonManagement c original.iifname sourceZone
  destination : OnZone c original.oifname destinationZone ∧ NonManagement c original.oifname destinationZone
  allowed : (program.evaluate (packetView original sourceZone destinationZone)).action = .allow
  policy : (program.evaluate (packetView original sourceZone destinationZone)).policyID = policyID
  named : policyID ≠ ""

def InspectedAs (program : Program) (chain : Chain RuleComment) (view : View) (policyID : String) (p : Packet) : Prop :=
  (∃ line reply, firstMatch chain.lines p = some line ∧ line.comment = some (.m3 policyID reply)) ∧
    ∃ comment, chain.run p = inspectionOutcome (selectInspection program view).mode p comment

variable {generation : UInt64} {program : Program} {chain : Chain RuleComment}
  {sourceZone destinationZone policyID : String} {original : Packet}

section
variable (packet : InspectedPacket c generation program chain sourceZone destinationZone policyID original p)
include packet

theorem InspectedPacket.outside :
    p.iifname ∉ managementInterfaces c ∧ p.oifname ∉ managementInterfaces c := by
  have source := packet.source.2.name
  have destination := packet.destination.2.name
  rcases packet.direction with rfl | rfl
  · exact ⟨source, destination⟩
  · exact ⟨destination, source⟩

theorem InspectedPacket.mode {policy : SecurityPolicy} (same : policy.id = policyID) :
    (selectInspection program (packetView original sourceZone destinationZone)).mode =
      (selectionOf program policy).mode := by
  obtain ⟨base, compiledBase, shape⟩ := compileM3_spec packet.compiled
  obtain ⟨_, _, _, zones⟩ := compile_spec compiledBase
  have management : program.managementZones = managementZonesOf c := by rw [shape, ← zones]
  have outside : ¬ (program.managementZones.contains (zoneKey sourceZone) = true ∨
      program.managementZones.contains (zoneKey destinationZone) = true) := by
    rw [management, packet.source.2.zone, packet.destination.2.zone]
    simp
  unfold selectInspection
  dsimp only
  rw [packet.policy, packet.allowed, if_neg (by simp [packet.named]), if_neg (fun held => outside held.2), selectionOf,
    same]

end

theorem inspectedAs_iff
    (packet : InspectedPacket c generation program chain sourceZone destinationZone policyID original p) :
    InspectedAs program chain (packetView original sourceZone destinationZone) policyID p ↔
      ∃ policy, (enabledPolicies c).find? (engages c · p) = some policy ∧ policy.id = policyID := by
  obtain ⟨plan, planned, rendered⟩ := packet.rendered
  have decided := inspect_decides packet.enabled (compileM3_services_named packet.compiled) planned rendered
    packet.outside.1 packet.outside.2
  constructor
  · rintro ⟨⟨line, reply, first, comment⟩, _⟩
    cases found : (enabledPolicies c).find? (engages c · p) with
    | none =>
      rw [found] at decided
      rw [decided.firstMatch] at first
      cases first
    | some policy =>
      rw [found] at decided
      obtain ⟨decider, firstDecider, commentDecider⟩ := decided.first
      rw [firstDecider] at first
      cases first
      rw [commentDecider] at comment
      have same := Option.some.inj comment
      rw [engagedComment] at same
      injection same with sameID _
      exact ⟨policy, rfl, sameID⟩
  · rintro ⟨policy, found, same⟩
    rw [found] at decided
    obtain ⟨decider, first, comment⟩ := decided.first
    refine ⟨⟨decider, !selects c policy p, first, ?_⟩, engagedComment c policy p, ?_⟩
    · rw [comment, engagedComment, same]
    · rw [packet.mode same]
      exact decided.run

end

def inspectedConfig : Config :=
  { defaults with
    interfaces := [ethernet "eth0" "lan" "192.168.1.1/24", ethernet "eth1" "dmz" "10.0.1.1/24"]
    zones := [{ id := "lan" }, { id := "dmz" }]
    policies :=
      [{ id := "backup", priority := 10, sourceZones := ["dmz"], destinationZones := ["lan"], action := .allow },
       { id := "web", priority := 20, sourceZones := ["lan"], destinationZones := ["dmz"], services := ["tcp:80"]
         action := .allow, securityProfileID := "inspect" }]
    profiles :=
      [{ id := "inspect", idsIPSEnabled := true
         inspection := some { mode := .ips, rulesetID := "m3-builtin-v1", failMode := "OPEN" } }]
    inspection := some { enabled := true } }

def webPacket (ctState : CtState) : Packet :=
  { iifname := "eth0", oifname := "eth1", saddr := .v4 0xC0A8010A#32, daddr := .v4 0x0A00010A#32, l4proto := 6
    sport := 50000, dport := 80, ctState, sets := ["ips_ready"] }

section
attribute [local instance] asciiCaseMap

theorem inspected_bypass :
    ∃ program chain, InspectedPacket inspectedConfig 1 program chain "lan" "dmz" "web" (webPacket .established)
        (webPacket .established) ∧
      (selectInspection program (packetView (webPacket .established) "lan" "dmz")).mode = .ips ∧
      (chain.run (webPacket .established)).verdict = .accept ∧
      (chain.run (webPacket .established)).comment = some (.m3 "backup" true) := by
  obtain ⟨program, compiled, plan, planned, chain, rendered, allowed, policy, mode, verdict, comment⟩ :
      ∃ program, compileM3 inspectedConfig 1 = .ok program ∧
        ∃ plan, compileInspectionPlan inspectedConfig program = .ok plan ∧
        ∃ chain, renderInspectionRules plan inspectedConfig = .ok chain ∧
          (program.evaluate (packetView (webPacket .established) "lan" "dmz")).action = .allow ∧
          (program.evaluate (packetView (webPacket .established) "lan" "dmz")).policyID = "web" ∧
          (selectInspection program (packetView (webPacket .established) "lan" "dmz")).mode = .ips ∧
          (chain.run (webPacket .established)).verdict = .accept ∧
          (chain.run (webPacket .established)).comment = some (.m3 "backup" true) := by decide +kernel
  refine ⟨program, chain, ?_, mode, verdict, comment⟩
  exact
    { compiled, enabled := rfl, rendered := ⟨plan, planned, rendered⟩, state := .inr rfl, direction := .inl rfl
      source := ⟨by decide, by unfold NonManagement; decide⟩
      destination := ⟨by decide, by unfold NonManagement; decide⟩
      allowed, policy, named := by decide }

theorem inspectedAs_new_packet :
    ∃ program chain, InspectedPacket inspectedConfig 1 program chain "lan" "dmz" "web" (webPacket .new)
        (webPacket .new) ∧
      InspectedAs program chain (packetView (webPacket .new) "lan" "dmz") "web" (webPacket .new) := by
  obtain ⟨program, compiled, plan, planned, chain, rendered, allowed, policy⟩ :
      ∃ program, compileM3 inspectedConfig 1 = .ok program ∧
        ∃ plan, compileInspectionPlan inspectedConfig program = .ok plan ∧
        ∃ chain, renderInspectionRules plan inspectedConfig = .ok chain ∧
          (program.evaluate (packetView (webPacket .new) "lan" "dmz")).action = .allow ∧
          (program.evaluate (packetView (webPacket .new) "lan" "dmz")).policyID = "web" := by decide +kernel
  have packet : InspectedPacket inspectedConfig 1 program chain "lan" "dmz" "web" (webPacket .new) (webPacket .new) :=
    { compiled, enabled := rfl, rendered := ⟨plan, planned, rendered⟩, state := .inl rfl, direction := .inl rfl
      source := ⟨by decide, by unfold NonManagement; decide⟩
      destination := ⟨by decide, by unfold NonManagement; decide⟩
      allowed, policy, named := by decide }
  have first : ∃ policy, (enabledPolicies inspectedConfig).find? (engages inspectedConfig · (webPacket .new)) =
      some policy ∧ policy.id = "web" :=
    ⟨inspectedConfig.policies.getLast (by decide), by decide +kernel, rfl⟩
  exact ⟨program, chain, packet, (inspectedAs_iff packet).mpr first⟩

end

end Ngfw.Dataplane

import Ngfw.Proof.Connectivity.Program
import Ngfw.Proof.Dataplane.Forward

/-!
# The forward chain and the program of the engine

Both compilers read the same policies. Where addresses are written as IPv4 and zone IDs are plain, a policy selects
a packet in the kernel exactly when its rule matches the view of the engine, so the first of them is the same.
-/

namespace Ngfw.Dataplane
open Lib Lib.Text Lib.Netip Lib.Nft Domain Config Connectivity

/-! ## Addresses -/

def ipv4Written (value : String) : Bool :=
  (parseIPv4 (value.toList.takeWhile (· ≠ '/'))).isSome

section
variable {value : String} {bits : BitVec 32}

theorem isSpace_of_quad {c : Char} (quad : (digit c).isSome ∨ c = '.') : isSpace c = false := by
  rcases quad with read | rfl
  · exact isSpace_of_digit read
  · rfl

structure SameSelector (value : String) (selector : Selector) : Prop where
  trimmed : trimSpace value = value
  nonempty : value ≠ ""
  contains : ∀ pfx, parseAddressPrefix value = some pfx → ∀ addr, selector.contains addr = pfx.contains addr

theorem sameSelector_host (read : parseIPv4 value.toList = some bits) : SameSelector value (.host (.v4 bits)) where
  trimmed := trimSpace_of_all fun c member => isSpace_of_quad ((parseIPv4_chars read).1 c member)
  nonempty := by
    rintro rfl
    cases read
  contains := by
    intro pfx parsed addr
    rw [parseAddressPrefix, parseAddr_of_parseIPv4 read] at parsed
    cases parsed
    cases addr <;>
      simp [Selector.contains, Prefix.contains, Prefix.single, Addr.withoutZone, Addr.bitLen, Prefix.sameBits]

theorem sameSelector_network {address length : List Char} {cidr : Prefix}
    (shape : value.toList = address ++ '/' :: length) (quad : parseIPv4 address = some bits)
    (read : parseCIDR value.toList = some cidr) : SameSelector value (.network (ipNet cidr)) := by
  rw [shape] at read
  obtain ⟨network, counted⟩ := parseCIDR_quad quad read
  constructor
  · refine trimSpace_of_all fun c member => ?_
    rw [shape, List.mem_append, List.mem_cons] at member
    rcases member with inAddress | rfl | inLength
    · exact isSpace_of_quad ((parseIPv4_chars quad).1 c inAddress)
    · rfl
    · exact isSpace_of_digit (digits_all counted c inLength)
  · rintro rfl
    simp at shape
  · intro pfx parsed addr
    rw [parseAddressPrefix, shape, parseAddr_quad_slash quad] at parsed
    obtain ⟨unmasked, readPrefix, rfl⟩ := Option.map_eq_some_iff.mp parsed
    obtain ⟨sameNetwork, sameCount⟩ := parsePrefix_quad quad readPrefix
    have same : unmasked = cidr := by
      rw [counted] at sameCount
      cases unmasked
      cases cidr
      simp_all
    subst same
    obtain ⟨addrOf, bitsOf, fits⟩ := unmasked
    cases network
    rfl

theorem canonicalIPv4_same {selector : Selector} (written : ipv4Written value)
    (canonical : canonicalIPv4 value = .ok selector) : SameSelector value selector := by
  obtain ⟨bits, quad⟩ := Option.isSome_iff_exists.mp written
  unfold canonicalIPv4 at canonical
  split_ifs at canonical with slash
  · have shape := takeWhile_split (List.contains_iff_mem.mp slash)
    split at canonical
    · rename_i cidr read
      split_ifs at canonical
      cases canonical
      exact sameSelector_network shape quad read
    · cases canonical
  · rw [takeWhile_ne_self fun member => slash (List.contains_iff_mem.mpr member)] at quad
    rw [parseIP_of_parseIPv4 quad] at canonical
    cases canonical
    exact sameSelector_host quad

end

theorem addressSelects_eq {values : List String} {pfxs : List Prefix} (addr : Addr)
    (written : ∀ value ∈ values, ipv4Written value = true)
    (canonical : ∀ value ∈ values, ∃ selector, canonicalIPv4 value = .ok selector)
    (parsed : prefixes values = some pfxs) : addressSelects values addr = addressMatch pfxs addr := by
  have same : ∀ value ∈ values, ∃ selector, canonicalIPv4 value = .ok selector ∧
    SameSelector value selector := by
    intro value inside
    obtain ⟨selector, read⟩ := canonical value inside
    exact ⟨selector, read, canonicalIPv4_same (written value inside) read⟩
  have kept : (values.map trimSpace).filter (· ≠ "") = values := by
    have trimmed : values.map trimSpace = values := by
      conv_rhs => rw [← List.map_id values]
      refine List.map_congr_left fun value inside => ?_
      obtain ⟨_, _, agrees⟩ := same value inside
      exact agrees.trimmed
    rw [trimmed, List.filter_eq_self]
    intro value inside
    obtain ⟨_, _, agrees⟩ := same value inside
    simpa using agrees.nonempty
  rw [prefixes, kept] at parsed
  have engine := mapM_some.mp parsed
  have anySame := any_forall₂ (p := fun value => (canonicalIPv4 value).toOption.any (·.contains addr))
    (q := fun pfx => pfx.contains addr) ((List.forall₂_and_left _ _).mpr ⟨same, engine⟩) (by
      rintro value pfx ⟨⟨selector, read, agrees⟩, parsedOne⟩
      simp [read, Except.toOption, agrees.contains pfx parsedOne])
  rw [addressSelects, addressMatch, anySame]
  have empty : values.isEmpty = pfxs.isEmpty := by
    rw [Bool.eq_iff_iff, List.isEmpty_iff_length_eq_zero, List.isEmpty_iff_length_eq_zero, engine.length_eq]
  rw [empty]

theorem mem_zoneInterfaceNames {c : Config} {name zone : String} :
    name ∈ zoneInterfaceNames c zone ↔
      zone ≠ "" ∧ name ≠ "" ∧ OnZone c name zone := by
  rw [zoneInterfaceNames, mem_uniqueSorted, List.mem_map]
  constructor
  · rintro ⟨iface, inside, rfl⟩
    obtain ⟨listed, conditions⟩ := List.mem_filter.mp inside
    simp only [decide_eq_true_eq] at conditions
    obtain ⟨zoned, named, rfl⟩ := conditions
    exact ⟨zoned, named, iface, listed, rfl, rfl⟩
  · rintro ⟨zoned, named, iface, listed, rfl, rfl⟩
    exact ⟨iface, List.mem_filter.mpr ⟨listed, by simp [zoned, named]⟩, rfl⟩

section
variable [CaseMap] {c : Config} {name zone : String} {zones : List String}

/-- The zone IDs of the interfaces have no surrounding white space and differ by more than case, and interfaces of
one name are in one zone. -/
structure PlainZones (c : Config) : Prop where
  trimmed : ∀ iface ∈ c.interfaces, trimSpace iface.zoneID = iface.zoneID
  distinct : ∀ a ∈ c.interfaces, ∀ b ∈ c.interfaces, toLower a.zoneID = toLower b.zoneID → a.zoneID = b.zoneID
  single : ∀ a ∈ c.interfaces, ∀ b ∈ c.interfaces, a.systemName = b.systemName → a.zoneID = b.zoneID

theorem PlainZones.zoneKey (plain : PlainZones c) (onZone : OnZone c name zone) : zoneKey zone = toLower zone := by
  obtain ⟨iface, listed, -, rfl⟩ := onZone
  rw [Connectivity.zoneKey, plain.trimmed iface listed]

theorem zoneSelects_eq (plain : PlainZones c) (carried : ∀ zone ∈ zones, zoneInterfaceNames c zone ≠ [])
    (onZone : OnZone c name zone) (named : name ≠ "") :
    zoneSelects c zones name = zoneMatch (stringSet zones) zone := by
  have keys : ∀ other ∈ zones, other ≠ "" ∧ ∃ carrier, OnZone c carrier other := by
    intro other inside
    obtain ⟨carrier, member⟩ := List.exists_mem_of_ne_nil _ (carried other inside)
    obtain ⟨zoned, -, carries⟩ := mem_zoneInterfaceNames.mp member
    exact ⟨zoned, carrier, carries⟩
  have keyed : stringSet zones = zones.map toLower := by
    have mapped : zones.map Connectivity.zoneKey = zones.map toLower :=
      List.map_congr_left fun other inside => (keys other inside).2.elim fun _ carries => plain.zoneKey carries
    rw [stringSet, mapped, List.filter_eq_self]
    intro key member
    obtain ⟨other, inside, rfl⟩ := List.mem_map.mp member
    simpa [toLower_eq_empty] using (keys other inside).1
  have member : name ∈ zoneInterfaces c zones ↔ toLower zone ∈ zones.map toLower := by
    rw [zoneInterfaces, mem_uniqueSorted, List.mem_flatMap, List.mem_map]
    constructor
    · rintro ⟨other, inside, carries⟩
      obtain ⟨-, -, first, firstListed, firstName, rfl⟩ := mem_zoneInterfaceNames.mp carries
      obtain ⟨second, secondListed, secondName, rfl⟩ := onZone
      exact ⟨_, inside, by rw [plain.single first firstListed second secondListed
        (firstName.trans secondName.symm)]⟩
    · rintro ⟨other, inside, same⟩
      obtain ⟨zoned, carrier, first, firstListed, -, rfl⟩ := keys other inside
      obtain ⟨second, secondListed, secondName, rfl⟩ := onZone
      refine ⟨_, inside, mem_zoneInterfaceNames.mpr ⟨zoned, named, second, secondListed, secondName, ?_⟩⟩
      exact (plain.distinct first firstListed second secondListed same).symm
  rw [zoneSelects, zoneMatch, keyed, plain.zoneKey onZone, List.isEmpty_map, List.contains_eq_mem, List.contains_eq_mem]
  simp only [member]

end

/-! ## Policies and rules -/

section
variable [CaseMap] {c : Config} {policy : SecurityPolicy} {rule : Rule} {p : Packet}
  {sourceZone destinationZone : String}

theorem serviceSelects_eq {values : List String} {services : List Service}
    (parsed : Yields parseService values services)
    (protocol : UInt8) (port : UInt16) :
    serviceSelects values protocol port = (services.isEmpty || services.any (serviceMatch · protocol port)) := by
  have empty : values.isEmpty = services.isEmpty := by
    rw [Bool.eq_iff_iff, List.isEmpty_iff_length_eq_zero, List.isEmpty_iff_length_eq_zero, parsed.length_eq]
  have anySame := any_forall₂ (p := fun value => (parseServiceSelector value).toOption.any fun selector =>
      selector.protocol.number == protocol && selector.ports.all (·.contains port))
    (q := fun service => serviceMatch service protocol port) parsed (by
      intro value service read
      obtain ⟨selector, selected, rfl⟩ := map_ok.mp read
      simp [selected, Except.toOption, serviceMatch])
  rw [serviceSelects, empty, anySame]

theorem renderPolicyErrors_spec (accepted : validateForRender c = []) (enabled : policy ∈ enabledPolicies c) :
    (∀ zone ∈ policy.sourceZones ++ policy.destinationZones, zoneInterfaceNames c zone ≠ []) ∧
      ∀ value ∈ policy.sourceAddresses ++ policy.destinationAddresses, ∃ selector,
        canonicalIPv4 value = .ok selector := by
  have errors := renderPolicyErrors_nil accepted enabled
  simp only [renderPolicyErrors, (mem_enabledPolicies.mp enabled).2, Bool.not_true, Bool.false_eq_true, if_false,
    List.append_eq_nil_iff, List.flatMap_eq_nil_iff, errorIf_eq_nil] at errors
  obtain ⟨⟨⟨_, zones⟩, addresses⟩, _⟩ := errors
  refine ⟨fun zone inside => by simpa using zones zone inside, fun value inside => ?_⟩
  split at addresses
  · cases addresses
  · rename_i canonical
    obtain ⟨unsorted, mapped, -⟩ := map_ok.mp canonical
    obtain ⟨selector, -, read⟩ := forall₂_mem_left (mapM_ok.mp mapped) inside
    exact ⟨selector, read⟩

structure Crosses (c : Config) (sourceZone destinationZone : String) (p : Packet) : Prop where
  source : OnZone c p.iifname sourceZone ∧ p.iifname ≠ ""
  destination : OnZone c p.oifname destinationZone ∧ p.oifname ≠ ""

def addressesWritten (policy : SecurityPolicy) : Prop :=
  ∀ value ∈ policy.sourceAddresses ++ policy.destinationAddresses, ipv4Written value = true

theorem selects_eq (plain : PlainZones c) (accepted : validateForRender c = []) (enabled : policy ∈ enabledPolicies c)
    (written : addressesWritten policy) (compiled : compileRule policy = .ok rule)
    (crosses : Crosses c sourceZone destinationZone p) :
    selects c policy p = ruleMatches rule (packetView p sourceZone destinationZone) := by
  obtain ⟨carried, canonical⟩ := renderPolicyErrors_spec accepted enabled
  obtain ⟨_, sources, destinations, services, sourceZones, destinationZones, _⟩ := compileRule_spec compiled
  have sourceCarried := fun zone inside => carried zone (List.mem_append_left _ inside)
  have destinationCarried := fun zone inside => carried zone (List.mem_append_right _ inside)
  have source := zoneSelects_eq plain sourceCarried crosses.source.1 crosses.source.2
  have destination := zoneSelects_eq plain destinationCarried crosses.destination.1 crosses.destination.2
  have sourceAddress := addressSelects_eq p.saddr (fun value inside => written value (List.mem_append_left _ inside))
    (fun value inside => canonical value (List.mem_append_left _ inside)) sources
  have destinationAddress := addressSelects_eq p.daddr
    (fun value inside => written value (List.mem_append_right _ inside))
    (fun value inside => canonical value (List.mem_append_right _ inside)) destinations
  have service := serviceSelects_eq services p.l4proto p.dport
  simp only [selects, ruleMatches, packetView, source, destination, sourceAddress, destinationAddress, service,
    sourceZones, destinationZones]

/-! ## Decisions -/

structure NewFlow (c : Config) (generation : UInt64) (program : Program) (sourceZone destinationZone : String)
    (p : Packet) : Prop where
  compiled : compile c generation = .ok program
  zones : PlainZones c
  written : ∀ policy ∈ enabledPolicies c, addressesWritten policy
  new : p.ctState = .new
  family : p.saddr.is4 = true ∧ p.daddr.is4 = true
  protocol : p.l4proto = 6 ∨ p.l4proto = 17 ∨ p.l4proto = 1
  crosses : Crosses c sourceZone destinationZone p

def commentPolicy : Option RuleComment → String
  | some (.policy id) => id
  | some (.policyReverse id) => id
  | _ => ""

def Agrees (outcome : Outcome RuleComment) (decision : Connectivity.Decision) : Prop :=
  outcome.verdict = actionVerdict decision.action ∧ commentPolicy outcome.comment = decision.policyID

variable {generation : UInt64} {program : Program}

theorem evaluate_selects (flow : NewFlow c generation program sourceZone destinationZone p)
    (accepted : validateForRender c = []) :
    match (enabledPolicies c).find? (selects c · p) with
    | some policy =>
      (program.evaluate (packetView p sourceZone destinationZone)).action = policy.action ∧
        (program.evaluate (packetView p sourceZone destinationZone)).policyID = policy.id
    | none =>
      (program.evaluate (packetView p sourceZone destinationZone)).action =
          (if c.defaultDeny then .drop else .allow) ∧
        (program.evaluate (packetView p sourceZone destinationZone)).policyID = "" := by
  obtain ⟨rules, defaultDeny, _⟩ := compile_spec flow.compiled
  have members : ∀ policy ∈ enabledPolicies c, policy ∈ enabledPolicies c := fun _ inside => inside
  have found := find?_forall₂ (p := fun policy => selects c policy p)
    (q := fun rule => rule.enabled && ruleMatches rule (packetView p sourceZone destinationZone))
    ((List.forall₂_and_left _ _).mpr ⟨members, rules⟩) (by
      rintro policy rule ⟨enabled, compiled⟩
      obtain ⟨_, _, _, _, _, _, _, _, ruleEnabled⟩ := compileRule_spec compiled
      rw [ruleEnabled, Bool.true_and]
      exact selects_eq flow.zones accepted enabled (flow.written policy enabled) compiled flow.crosses)
  rw [Program.evaluate]
  generalize (enabledPolicies c).find? (selects c · p) = policy at found
  generalize program.rules.find? _ = rule at found
  cases found with
  | none =>
    simp only [defaultDeny]
    split_ifs
    · exact ⟨rfl, rfl⟩
    · exact ⟨rfl, rfl⟩
  | some related =>
    obtain ⟨_, _, _, _, _, _, id, action, _⟩ := compileRule_spec related.2
    exact ⟨action, id⟩

theorem agrees_of_run {outcome : Outcome RuleComment} (flow : NewFlow c generation program sourceZone destinationZone p)
    (accepted : validateForRender c = [])
    (run : match (enabledPolicies c).find? (selects c · p) with
      | some policy => outcome.verdict = actionVerdict policy.action ∧ outcome.comment = some (.policy policy.id)
      | none => outcome.verdict = (if c.defaultDeny then .drop else .accept) ∧ commentPolicy outcome.comment = "") :
    Agrees outcome (program.evaluate (packetView p sourceZone destinationZone)) := by
  have decided := evaluate_selects flow accepted
  cases found : (enabledPolicies c).find? (selects c · p) with
  | some policy =>
    rw [found] at run decided
    rw [Agrees, run.1, run.2, decided.1, decided.2]
    exact ⟨rfl, rfl⟩
  | none =>
    rw [found] at run decided
    rw [Agrees, run.1, run.2, decided.1, decided.2]
    refine ⟨?_, rfl⟩
    split_ifs
    · rfl
    · rfl

theorem forward_agrees (flow : NewFlow c generation program sourceZone destinationZone p) :
    (∀ ruleset, compileRuleset c = .ok ruleset →
      Agrees (ruleset.forward.run p) (program.evaluate (packetView p sourceZone destinationZone))) ∧
    ∀ options ruleset, compileM2Ruleset c options = .ok ruleset →
      Agrees (ruleset.policy.forward.run p) (program.evaluate (packetView p sourceZone destinationZone)) := by
  constructor
  · intro ruleset compiled
    refine agrees_of_run flow (compileRuleset_spec compiled).1 ?_
    rw [m1_run_new compiled flow.new]
    cases (enabledPolicies c).find? (selects c · p) with
    | some policy => exact ⟨rfl, rfl⟩
    | none =>
      simp only [defaultOutcome]
      split_ifs
      · exact ⟨rfl, rfl⟩
      · exact ⟨rfl, rfl⟩
  · intro options ruleset compiled
    refine agrees_of_run flow (compileM2Ruleset_spec compiled).1 ?_
    rw [m2_run_new compiled flow.new]
    cases (enabledPolicies c).find? (selects c · p) with
    | some policy => exact ⟨rfl, rfl⟩
    | none =>
      simp only [defaultOutcome]
      split_ifs
      · exact ⟨rfl, rfl⟩
      · exact ⟨rfl, rfl⟩

end

def officeConfig (guestZone : String) : Config :=
  { defaults with
    interfaces :=
      [ethernet "eth0" "lan" "192.168.1.1/24",
       ethernet "eth1" guestZone "192.168.2.1/24",
       ethernet "eth2" "wan" "203.0.113.1/24"]
    zones := [{ id := "lan" }, { id := guestZone }, { id := "wan" }]
    policies :=
      [{ id := "browse", priority := 10, sourceZones := ["lan"], destinationZones := ["wan"]
         destinationAddresses := ["198.51.100.0/24"], services := ["tcp:443"], action := .allow }] }

def sharedConfig : Config :=
  { officeConfig "guest" with
    interfaces := ethernet "eth0" "guest" "192.168.3.1/24" :: (officeConfig "guest").interfaces }

def outgoingPacket (iifname : String) : Packet :=
  { iifname, oifname := "eth2", saddr := .v4 0xC0A8020A#32, daddr := .v4 0xC6336407#32, l4proto := 6
    sport := 50000, dport := 443, ctState := .new }

section
attribute [local instance] asciiCaseMap

def Contradicts (c : Config) (zone : String) (p : Packet) (engine : Domain.Decision) (kernel : Verdict) : Prop :=
  (∀ policy ∈ enabledPolicies c, addressesWritten policy) ∧ Crosses c zone "wan" p ∧
    ∃ program, compile c 1 = .ok program ∧ (program.evaluate (packetView p zone "wan")).action = engine ∧
      (∃ ruleset, compileRuleset c = .ok ruleset ∧ (ruleset.forward.run p).verdict = kernel) ∧
      ∃ ruleset, compileM2Ruleset c {} = .ok ruleset ∧ (ruleset.policy.forward.run p).verdict = kernel

/-- The engine drops the white space around a zone ID, the kernel tables do not; and for these a name that two zones
list is in both. -/
theorem spaced_zone_disagrees :
    ((∀ a ∈ (officeConfig "lan ").interfaces, ∀ b ∈ (officeConfig "lan ").interfaces,
        toLower a.zoneID = toLower b.zoneID → a.zoneID = b.zoneID) ∧
      Contradicts (officeConfig "lan ") "lan " (outgoingPacket "eth1") .allow .drop) ∧
    (∀ iface ∈ sharedConfig.interfaces, trimSpace iface.zoneID = iface.zoneID) ∧
      (∀ a ∈ sharedConfig.interfaces, ∀ b ∈ sharedConfig.interfaces,
        toLower a.zoneID = toLower b.zoneID → a.zoneID = b.zoneID) ∧
      Contradicts sharedConfig "guest" (outgoingPacket "eth0") .drop .accept :=
  ⟨⟨by decide +kernel, by unfold addressesWritten; decide +kernel,
      ⟨⟨by decide, by decide⟩, ⟨by decide, by decide⟩⟩, by decide +kernel⟩,
    by decide +kernel, by decide +kernel, by unfold addressesWritten; decide +kernel,
    ⟨⟨by decide, by decide⟩, ⟨by decide, by decide⟩⟩, by decide +kernel⟩

theorem forward_agrees_office :
    ∃ program ruleset, NewFlow (officeConfig "guest") 1 program "lan" "wan" (outgoingPacket "eth0") ∧
      compileRuleset (officeConfig "guest") = .ok ruleset ∧
      Agrees (ruleset.forward.run (outgoingPacket "eth0"))
        (program.evaluate (packetView (outgoingPacket "eth0") "lan" "wan")) := by
  obtain ⟨program, compiled, ruleset, rendered, _⟩ :
      ∃ program, compile (officeConfig "guest") 1 = .ok program ∧
        ∃ ruleset, compileRuleset (officeConfig "guest") = .ok ruleset ∧ True := by decide +kernel
  have flow : NewFlow (officeConfig "guest") 1 program "lan" "wan" (outgoingPacket "eth0") :=
    { compiled
      zones := ⟨by decide +kernel, by decide +kernel, by decide +kernel⟩
      written := by unfold addressesWritten; decide +kernel
      new := rfl
      family := ⟨rfl, rfl⟩
      protocol := .inl rfl
      crosses := ⟨⟨by decide, by decide⟩, ⟨by decide, by decide⟩⟩ }
  exact ⟨program, ruleset, flow, rendered, (forward_agrees flow).1 ruleset rendered⟩

end

end Ngfw.Dataplane

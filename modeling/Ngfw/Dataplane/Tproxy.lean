import Ngfw.Connectivity.Inspection
import Ngfw.Dataplane.Compiler

/-!
# The proxy selection

The first-match rules of an M4 program with their gates, and the prerouting chain that leads gated connections to
the listeners of the proxy. Zones compare here as they do in the program.
-/

namespace Ngfw.Dataplane
open Lib Lib.Text Lib.Netip Lib.Nft Domain Config Connectivity

def proxySelectionSchema : Int := 1

structure ProxySelectionRule where
  rule : Rule
  gate : Bool := false
  profileID : String := ""
  gatePorts : List PortRange := []
  deriving DecidableEq

structure ProxySelectionPlan where
  schemaVersion : Int
  generation : UInt64
  enabled : Bool := false
  listenHTTPPort : Int := 0
  listenHTTPSPort : Int := 0
  rules : List ProxySelectionRule := []
  deriving DecidableEq

namespace ProxySelectionPlan

def entryError (entry : ProxySelectionRule) : Option String :=
  let field := "proxy selector policy " ++ entry.rule.id
  if !isL3Action entry.rule.action then some (field ++ " has unsupported action")
  else if entry.gate then
    if entry.rule.action ≠ .allow ∨ entry.profileID = "" then
      some (field ++ " gates a non-ALLOW or lacks a profile")
    else if entry.gatePorts.isEmpty ∨ entry.gatePorts ≠ requestGateTCPPorts entry.rule then
      some (field ++ " has invalid gate ports")
    else none
  else if entry.profileID ≠ "" ∨ !entry.gatePorts.isEmpty then
    some (field ++ " has a profile or ports without a gate")
  else none

def entriesError (seen : List String) (last : Int) : List ProxySelectionRule → Option String
  | [] => none
  | entry :: rest =>
    if entry.rule.id = "" ∨ entry.rule.id ∈ seen ∨ !entry.rule.enabled ∨ entry.rule.priority ≤ last then
      some ("proxy selector has duplicate, disabled or unordered policy " ++ quote entry.rule.id)
    else match entryError entry with
      | some failure => some failure
      | none => entriesError (entry.rule.id :: seen) entry.rule.priority rest

def validate (plan : ProxySelectionPlan) : Option String :=
  if plan.schemaVersion ≠ proxySelectionSchema then
    some ("unsupported proxy selection schema " ++ toString plan.schemaVersion)
  else if !plan.enabled then
    if !plan.rules.isEmpty ∨ plan.listenHTTPPort ≠ 0 ∨ plan.listenHTTPSPort ≠ 0 then
      some "disabled proxy selector contains active rules or listeners"
    else none
  else if plan.listenHTTPPort < 1 ∨ 65535 < plan.listenHTTPPort ∨ plan.listenHTTPSPort < 1 ∨
      65535 < plan.listenHTTPSPort ∨ plan.listenHTTPPort = plan.listenHTTPSPort then
    some "invalid proxy listener ports"
  else match entriesError [] (-1) plan.rules with
    | some failure => some failure
    | none => if plan.rules.any (·.gate) then none else some "enabled proxy selector has no gated policy"

end ProxySelectionPlan

def selectionEntry (program : Program) (generation : UInt64) (rule : Rule) : Except String ProxySelectionRule :=
  match program.requestGates.lookup rule.id with
  | none => .ok { rule }
  | some gate =>
    if rule.action ≠ .allow ∨ !gate.enabled ∨ gate.generation ≠ generation then
      .error ("policy " ++ rule.id ++ " has inconsistent compiled M4 gate")
    else .ok { rule, gate := true, profileID := gate.profileID, gatePorts := gate.tcpPorts }

variable [CaseMap]

def compileM4ProxySelection (c : Config) (generation : UInt64) : Except String ProxySelectionPlan :=
  let off : ProxySelectionPlan := { schemaVersion := proxySelectionSchema, generation }
  if !usesM4 c then .ok off
  else do
    let program ← compileM4 c generation
    let entries ← program.rules.mapM (selectionEntry program generation)
    let limits := effectiveRequestGateConfig c
    let plan : ProxySelectionPlan :=
      if entries.any (·.gate) then
        { off with
          enabled := true
          listenHTTPPort := limits.listenHTTPPort
          listenHTTPSPort := limits.listenHTTPSPort
          rules := entries }
      else off
    match plan.validate with
    | some failure => .error failure
    | none => .ok plan

/-! ## The select chain -/

def m4TPROXYMark : BitVec 32 := 0x40000000#32

def proxyZone (c : Config) (key : String) : List String :=
  uniqueSorted ((c.interfaces.filter fun iface => zoneKey iface.zoneID ≠ "" ∧ zoneKey iface.zoneID = key).map
    (·.systemName))

def proxyManagement (c : Config) : List String :=
  uniqueSorted ((c.interfaces.filter fun iface => iface.mode = .management).map (·.systemName))

def m4TPROXYDNATZoneGuard (c : Config) (rule : NATRule) : Except String RuleLine := do
  let interfaces := proxyZone c (zoneKey rule.destinationZone)
  if interfaces.isEmpty then .error ("DNAT " ++ rule.id ++ " destination zone has no interface")
  else match (parseIP rule.translatedAddress.toList).bind to4 with
    | none => .error ("DNAT " ++ rule.id ++ " has invalid translated address")
    | some target =>
      let sources := proxyZone c (zoneKey rule.sourceZone)
      if rule.sourceZone ≠ "" ∧ sources.isEmpty then .error ("DNAT " ++ rule.id ++ " source zone has no interface")
      else
        let source ← networkMatch .saddr "" rule.sourceNetwork
        .ok
          { conditions := [.ctStatusDnat] ++ (if rule.sourceZone = "" then [] else [.iifname false sources]) ++
              source ++ [.daddr [.host target]] ++ portMatches rule.protocol (guardPort rule) ++
              [.fibOifname true interfaces]
            verdict := some .drop
            comment := some (.m4DnatZone rule.id) }

def dnatGuards (c : Config) : Except String (List RuleLine) :=
  (c.natRules.filter fun rule => rule.enabled ∧ equalFold rule.type "DNAT").mapM (m4TPROXYDNATZoneGuard c)

def proxyZoneMatches (c : Config) (condition : List String → Match) (zones : List String) :
    Except String (List Match) :=
  if zones.isEmpty then .ok []
  else match zones.find? fun zone => (proxyZone c zone).isEmpty with
    | some zone => .error ("zone " ++ zone ++ " has no physical interface")
    | none => .ok [condition (uniqueSorted (zones.flatMap (proxyZone c)))]

def proxyAddressMatches (condition : List Selector → Match) (prefixes : List Prefix) : Except String (List Match) :=
  if prefixes.isEmpty then .ok []
  else if prefixes.any fun pfx => !pfx.addr.is4 then .error "M4 TPROXY supports IPv4 policy addresses only"
  else .ok [condition ((prefixes.map fun pfx => Selector.network pfx.masked).dedup.insertionSort fun a b =>
    a.text ≤ b.text)]

def m4TPROXYBase (c : Config) (rule : Rule) : Except String (List Match) := do
  let sourceZones ← proxyZoneMatches c (.iifname false) rule.sourceZones
  let destinationZones ← proxyZoneMatches c (.fibOifname false) rule.destinationZones
  let sources ← proxyAddressMatches .saddr rule.sourceAddresses
  let destinations ← proxyAddressMatches .daddr rule.destinationAddresses
  return sourceZones ++ destinationZones ++ sources ++ destinations

def splitTransportPort (port : PortRange) : List PortRange :=
  if straddles : port.first ≤ 80 ∧ 80 ≤ port.last then
    (if below : port.first < 80 then [⟨port.first, 79, port.positive, by omega, by decide⟩] else []) ++
    [httpPort] ++
    if above : 80 < port.last then [⟨81, port.last, by decide, by omega, port.bounded⟩] else []
  else [port]

def m4TransportPorts (ports : List PortRange) : List PortRange :=
  ports.flatMap splitTransportPort

def m4AllowsQUIC (services : List Service) : Bool :=
  services.isEmpty || services.any fun service => service.protocol == 17 && service.ports.all (·.contains 443)

def m4TPROXYService (service : Service) : Except String (String × Match) :=
  let named (protocol : String) : Except String (String × Match) :=
    match service.ports with
    | none => .ok ("meta l4proto " ++ protocol, .l4proto service.protocol)
    | some range =>
      if protocol = "icmp" then .error ("invalid " ++ protocol ++ " port range")
      else
        let value := decimal range.first ++ if range.first = range.last then "" else "-" ++ decimal range.last
        .ok (protocol ++ " dport " ++ value, .dport service.protocol range.first range.last)
  if service.protocol = 1 then named "icmp"
  else if service.protocol = 6 then named "tcp"
  else if service.protocol = 17 then named "udp"
  else .error ("unsupported protocol " ++ toString service.protocol.toNat)

def m4TPROXYServices (services : List Service) : Except String (List (List Match)) :=
  if services.isEmpty then .ok [[]]
  else (services.mapM m4TPROXYService).map fun rendered =>
    (rendered.insertionSort fun a b => a.1 ≤ b.1).map fun service => [service.2]

def tproxyLines (plan : ProxySelectionPlan) (entry : ProxySelectionRule) (base : List Match) (port : PortRange) :
    List RuleLine :=
  let listener := if port.first = 80 ∧ port.last = 80 then plan.listenHTTPPort else plan.listenHTTPSPort
  let conditions := base ++ [.fibType .unicast, .dport 6 port.first port.last]
  [{ conditions, verdict := some (.tproxy listener m4TPROXYMark), comment := some (.m4 entry.rule.id) },
   -- without its listener the packet must not be forwarded past the gate
   { conditions, verdict := some .drop, comment := some (.m4NoListener entry.rule.id) }]

def quicLine (base : List Match) (id : String) : RuleLine :=
  { conditions := base ++ [.dport 17 443 443], verdict := some .drop, comment := some (.m4Quic id) }

def returnLine (base : List Match) (id : String) (service : List Match) : RuleLine :=
  { conditions := base ++ service, verdict := some .return, comment := some (.m4FirstMatch id) }

def gateLines (c : Config) (plan : ProxySelectionPlan) (entry : ProxySelectionRule) (base : List Match) :
    List RuleLine :=
  if !entry.gate then []
  else
    (m4TransportPorts entry.gatePorts).flatMap (tproxyLines plan entry base) ++
    (c.profiles.filter fun profile => profile.id = entry.profileID ∧ profile.requestGate.any (·.blockQUIC) ∧
        m4AllowsQUIC entry.rule.services).map fun _ => quicLine base entry.rule.id

def listenerOverlap (plan : ProxySelectionPlan) (entry : ProxySelectionRule) : Bool :=
  entry.gate && entry.gatePorts.any fun ports =>
    ports.contains (UInt16.ofNat plan.listenHTTPPort.toNat) || ports.contains (UInt16.ofNat plan.listenHTTPSPort.toNat)

def renderProxyEntry (c : Config) (plan : ProxySelectionPlan) (entry : ProxySelectionRule) :
    Except String (List RuleLine) := do
  let id := entry.rule.id
  if !isIdentifier id then .error ("unsafe M4 policy ID: " ++ invalidIdentifier id)
  else
    let base ← labelled ("policy " ++ id ++ ": ") (m4TPROXYBase c entry.rule)
    if listenerOverlap plan entry then
      .error ("policy " ++ id ++ " gate ports overlap a proxy listener; choose distinct listener ports")
    else
      let services ← labelled ("policy " ++ id ++ ": ") (m4TPROXYServices entry.rule.services)
      return gateLines c plan entry base ++ services.map (returnLine base id)

def proxyPreamble (c : Config) (guards : List RuleLine) : List RuleLine :=
  let management := proxyManagement c
  [{ conditions := [.iifname false ["lo"]], verdict := some .return }] ++ guards ++
  [{ conditions := [.fibType .local], verdict := some .return }] ++
  if management.isEmpty then []
  else [{ conditions := [.iifname false management], verdict := some .return },
        { conditions := [.fibOifname false management], verdict := some .return }]

def renderM4TPROXYSelection (c : Config) (plan : ProxySelectionPlan) :
    Except String (Chain RuleComment) := do
  match plan.validate with
  | some failure => .error failure
  | none =>
    let expected ← compileM4ProxySelection c plan.generation
    if plan ≠ expected then .error "proxy selection plan differs from authoritative configuration"
    else if !plan.enabled then return { policy := .accept, lines := [] }
    else
      let guards ← dnatGuards c
      let groups ← plan.rules.mapM (renderProxyEntry c plan)
      return { policy := .accept, lines := proxyPreamble c guards ++ groups.flatten }

end Ngfw.Dataplane

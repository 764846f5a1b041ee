import Ngfw.Lib.GoMap
import Ngfw.Domain.Config
import Ngfw.Domain.Service

/-!
# The connectivity program

The policies of a configuration, compiled to a list of rules of which the first that matches a view decides.
-/

namespace Ngfw.Connectivity
open Lib Lib.Text Lib.Netip Domain

structure Service where
  protocol : UInt8
  ports : Option PortRange
  deriving DecidableEq

structure Rule where
  id : String
  name : String
  priority : Int
  sourceZones : List String
  destinationZones : List String
  sourceAddresses : List Prefix
  destinationAddresses : List Prefix
  services : List Service
  action : Domain.Decision
  enabled : Bool
  deriving DecidableEq

structure InspectionSelection where
  policyID : String
  profileID : String := ""
  mode : InspectionMode
  rulesetID : String := ""
  allowedApps : List String := []
  appDetectionTimeoutMillis : Int := 0
  generation : UInt64
  deriving DecidableEq

structure TLSExclusionRule where
  id : String
  reason : String
  domains : List String
  cidrs : List Prefix
  ports : List UInt16
  deriving DecidableEq

structure RequestGatePlan where
  enabled : Bool := false
  policyID : String
  profileID : String := ""
  generation : UInt64
  tlsMode : TLSMode := .other ""
  failMode : GateFailMode := .other ""
  oversizeAction : String := ""
  encodingAction : String := ""
  blockQUIC : Bool := false
  rulesetID : String := ""
  exclusions : List TLSExclusionRule := []
  tcpPorts : List PortRange := []
  deriving DecidableEq

structure Program where
  rules : List Rule := []
  defaultDeny : Bool
  generation : UInt64
  selections : GoMap String InspectionSelection := ∅
  requestGates : GoMap String RequestGatePlan := ∅
  inspectionIncludeManagement : Bool := false
  managementZones : List String := []
  zonePrefixes : List (String × Prefix) := []
  localAddresses : List Addr := []

def zoneLocal : String := "local"

def zoneUnknown : String := "unknown"

structure View where
  sourceIP : Addr
  destinationIP : Addr
  sourcePort : UInt16
  destinationPort : UInt16
  protocol : UInt8
  sourceZone : String
  destinationZone : String
  deriving DecidableEq

structure Decision where
  action : Domain.Decision
  policyID : String := ""
  generation : UInt64
  reason : String
  deriving DecidableEq

def viewFromTuple (t : Tuple) (sourceZone destinationZone : String) : View :=
  { sourceIP := t.srcIP, destinationIP := t.dstIP, sourcePort := t.srcPort, destinationPort := t.dstPort
    protocol := t.protocol, sourceZone, destinationZone }

/-! ## Evaluation -/

variable [CaseMap]

def zoneKey (zone : String) : String :=
  toLower (trimSpace zone)

def stringSet (values : List String) : List String :=
  (values.map zoneKey).filter (· ≠ "")

def zoneMatch (zones : List String) (zone : String) : Bool :=
  zones.isEmpty || zones.contains (zoneKey zone)

def addressMatch (prefixes : List Prefix) (addr : Addr) : Bool :=
  prefixes.isEmpty || prefixes.any (·.contains addr)

def serviceMatch (service : Service) (protocol : UInt8) (port : UInt16) : Bool :=
  service.protocol == protocol && service.ports.all (·.contains port)

def ruleMatches (rule : Rule) (view : View) : Bool :=
  zoneMatch rule.sourceZones view.sourceZone && zoneMatch rule.destinationZones view.destinationZone &&
    addressMatch rule.sourceAddresses view.sourceIP &&
    addressMatch rule.destinationAddresses view.destinationIP &&
    (rule.services.isEmpty || rule.services.any (serviceMatch · view.protocol view.destinationPort))

namespace Program

def evaluate (p : Program) (view : View) : Decision :=
  match p.rules.find? fun rule => rule.enabled && ruleMatches rule view with
  | some rule =>
    { action := rule.action, policyID := rule.id, generation := p.generation
      reason := "policy " ++ rule.id ++ " matched" }
  | none =>
    if p.defaultDeny then { action := .drop, generation := p.generation, reason := "default deny" }
    else { action := .allow, generation := p.generation, reason := "default allow" }

structure BestZone where
  bits : Int := -1
  zone : String := ""
  ambiguous : Bool := false
  deriving DecidableEq

def BestZone.add (best : BestZone) (zone : String) (bits : Nat) : BestZone :=
  if best.bits < bits then ⟨bits, zone, false⟩
  else if (bits : Int) = best.bits ∧ zone ≠ best.zone then { best with ambiguous := true }
  else best

def inferAddressZone (p : Program) (addr : Addr) : String :=
  if addr = .zero then ""
  else if addr.isLoopback then zoneLocal
  else if p.localAddresses.contains addr then zoneLocal
  else
    let best := (p.zonePrefixes.filter fun entry => entry.2.contains addr).foldl
      (fun best entry => best.add entry.1 entry.2.bits) ({} : BestZone)
    if best.ambiguous ∨ best.bits < 0 then "" else best.zone

def inferZones (p : Program) (tuple : Tuple) : String × String :=
  (p.inferAddressZone tuple.srcIP, p.inferAddressZone tuple.dstIP)

end Program

/-! ## Compilation -/

def parseInterfacePrefix (value : String) : Option Prefix :=
  let text := trimList value.toList
  match parsePrefix text with
  | some pfx => some pfx.masked
  | none => (parseAddr text).map Prefix.single

def parseInterfaceAddress (value : String) : Option Addr :=
  let text := trimList value.toList
  match parsePrefix text with
  | some pfx => some pfx.addr
  | none => parseAddr text

def parseAddressPrefix (value : String) : Option Prefix :=
  match parseAddr value.toList with
  | some addr => some (.single addr)
  | none => (parsePrefix value.toList).map Prefix.masked

def prefixes (values : List String) : Option (List Prefix) :=
  ((values.map trimSpace).filter (· ≠ "")).mapM parseAddressPrefix

def parseService (value : String) : Except String Service :=
  (parseServiceSelector value).map fun selector => ⟨selector.protocol.number, selector.ports⟩

def interfaceAddresses (iface : Interface) : List String :=
  (iface.ipv4Addresses ++ iface.ipv6Addresses).filter fun raw => (parseInterfacePrefix raw).isSome

def interfaceByID (c : Config) (id : String) : Option Interface :=
  c.interfaces.reverse.find? (·.id == id)

def managementZonesOf (c : Config) : List String :=
  (c.interfaces.filter fun iface => iface.mode = .management ∧ trimSpace iface.zoneID ≠ "").map
    (zoneKey ·.zoneID)

def zonePrefixesOf (c : Config) : List (String × Prefix) :=
  let ofInterface (iface : Interface) : List (String × Prefix) :=
    if trimSpace iface.zoneID = "" then []
    else (interfaceAddresses iface).filterMap fun raw => (parseInterfacePrefix raw).map (iface.zoneID, ·)
  let ofRoute (route : Route) : List (String × Prefix) :=
    match interfaceByID c route.interfaceID with
    | none => []
    | some iface =>
      if !route.enabled ∨ trimSpace iface.zoneID = "" then []
      else match parsePrefix (trimList route.destinationCIDR.toList) with
        | none => []
        | some pfx => [(iface.zoneID, pfx.masked)]
  c.interfaces.flatMap ofInterface ++ c.routes.flatMap ofRoute

def localAddressesOf (c : Config) : List Addr :=
  c.interfaces.flatMap fun iface => (interfaceAddresses iface).filterMap parseInterfaceAddress

def sortByPriority (policies : List SecurityPolicy) : List SecurityPolicy :=
  policies.insertionSort fun a b => a.priority ≤ b.priority

def isL3Action : Domain.Decision → Bool
  | .allow => true
  | .drop => true
  | .reject => true
  | _ => false

def compileServices (policyID : String) : List String → Except String (List Service)
  | [] => .ok []
  | raw :: rest => match parseService raw with
    | .error failure => .error ("policy " ++ policyID ++ " service " ++ quote raw ++ ": " ++ failure)
    | .ok service => (compileServices policyID rest).map (service :: ·)

def compileRule (policy : SecurityPolicy) : Except String Rule :=
  if !isL3Action policy.action then
    .error ("policy " ++ policy.id ++ " action " ++ quote policy.action.text ++ " is not L3/L4")
  else match prefixes policy.sourceAddresses with
    | none => .error ("policy " ++ policy.id ++ " source addresses")
    | some sources => match prefixes policy.destinationAddresses with
      | none => .error ("policy " ++ policy.id ++ " destination addresses")
      | some destinations => (compileServices policy.id policy.services).map fun services =>
        { id := policy.id
          name := policy.name
          priority := policy.priority
          sourceZones := stringSet policy.sourceZones
          destinationZones := stringSet policy.destinationZones
          sourceAddresses := sources
          destinationAddresses := destinations
          services := services
          action := policy.action
          enabled := true }

def compileRules : List Int → List SecurityPolicy → Except String (List Rule)
  | _, [] => .ok []
  | seen, policy :: rest =>
    if policy.priority ∈ seen then .error ("duplicate policy priority " ++ toString policy.priority)
    else if !policy.enabled then compileRules (policy.priority :: seen) rest
    else match compileRule policy with
      | .error failure => .error failure
      | .ok rule => (compileRules (policy.priority :: seen) rest).map (rule :: ·)

def compile (c : Config) (generation : UInt64) : Except String Program :=
  (compileRules [] (sortByPriority c.policies)).map fun rules =>
    { rules := rules
      defaultDeny := c.defaultDeny
      generation := generation
      managementZones := managementZonesOf c
      zonePrefixes := zonePrefixesOf c
      localAddresses := localAddressesOf c }

end Ngfw.Connectivity

import Ngfw.Config.Validator
import Ngfw.Connectivity.Program
import Ngfw.Lib.Nft

/-!
# The M1 ruleset

The nftables table of a configuration, as chains of lines instead of their text.
-/

namespace Ngfw.Dataplane
open Lib Lib.Text Lib.Netip Lib.Nft Domain Config Connectivity

inductive RuleComment
  | policy (id : String)
  | policyReverse (id : String)
  | defaultAllow
  | nat (id : String) (priority : Int)
  | dnatZone (id : String)
  | m3 (id : String) (reply : Bool)
  | m4 (id : String)
  | m4NoListener (id : String)
  | m4Quic (id : String)
  | m4FirstMatch (id : String)
  | m4DnatZone (id : String)
  deriving DecidableEq

def RuleComment.text : RuleComment → String
  | policy id => "policy:" ++ id
  | policyReverse id => "policy:" ++ id ++ ":reverse"
  | defaultAllow => "default:allow"
  | nat id priority => "nat:" ++ id ++ ":priority=" ++ toString priority
  | dnatZone id => "dnat-zone:" ++ id
  | m3 id reply => "m3:" ++ id ++ ":" ++ (if reply then "reply" else "original")
  | m4 id => "m4:" ++ id
  | m4NoListener id => "m4-no-listener:" ++ id
  | m4Quic id => "m4-quic:" ++ id
  | m4FirstMatch id => "m4-first-match:" ++ id
  | m4DnatZone id => "m4-dnat-zone:" ++ id

abbrev RuleLine := Line RuleComment

/-! ## Selectors -/

/-- buildZoneInterfaces, at one zone. -/
def zoneInterfaceNames (c : Config) (zone : String) : List String :=
  uniqueSorted ((c.interfaces.filter fun iface =>
    iface.zoneID ≠ "" ∧ iface.systemName ≠ "" ∧ iface.zoneID = zone).map (·.systemName))

def zoneInterfaces (c : Config) (zones : List String) : List String :=
  uniqueSorted (zones.flatMap (zoneInterfaceNames c))

def canonicalIPv4 (value : String) : Except String Selector :=
  if contains '/' value then match parseCIDR value.toList with
    | some cidr =>
      if (to4 cidr.addr).isSome then .ok (.network (ipNet cidr))
      else .error (quote value ++ " is not an IPv4 CIDR")
    | none => .error (quote value ++ " is not an IPv4 CIDR")
  else match (parseIP value.toList).bind to4 with
    | some addr => .ok (.host addr)
    | none => .error (quote value ++ " is not an IPv4 address")

def canonicalIPv4List (values : List String) : Except String (List Selector) :=
  (values.mapM canonicalIPv4).map fun selectors =>
    selectors.dedup.insertionSort fun a b => a.text ≤ b.text

def labelled {Value : Type} (label : String) : Except String Value → Except String Value
  | .error failure => .error (label ++ failure)
  | .ok value => .ok value

def nameMatch (condition : List String → Match) (c : Config) (zones : List String) : List Match :=
  if zones.isEmpty then [] else [condition (zoneInterfaces c zones)]

def addressMatches (condition : List Selector → Match) (label : String) (addresses : List String) :
    Except String (List Match) :=
  if addresses.isEmpty then .ok []
  else (labelled label (canonicalIPv4List addresses)).map fun selectors => [condition selectors]

def baseMatches (c : Config) (sourceZones destinationZones sourceAddresses destinationAddresses : List String)
    (sourceLabel destinationLabel : String) : Except String (List Match) := do
  let source ← addressMatches .saddr sourceLabel sourceAddresses
  let destination ← addressMatches .daddr destinationLabel destinationAddresses
  return nameMatch (.iifname false) c sourceZones ++ nameMatch (.oifname false) c destinationZones ++
    source ++ destination

def policyAction : Domain.Decision → Except String Verdict
  | .allow => .ok .accept
  | .drop => .ok .drop
  | .reject => .ok .reject
  | other => .error ("action " ++ quote other.text ++ " is not an M1 firewall action")

def selectorExpression (port : UInt8 → Nat → Nat → Match) (selector : ServiceSelector) : Match :=
  match selector.ports with
  | none => .l4proto selector.protocol.number
  | some range => port selector.protocol.number range.first range.last

variable [CaseMap]

def serviceExpression (value : String) : Except String Match :=
  (parseServiceSelector value).map (selectorExpression .dport)

def reverseServiceExpression (value : String) : Except String Match :=
  (parseServiceSelector value).map (selectorExpression .sport)

def serviceMatches (expression : String → Except String Match) (services : List String) :
    Except String (List (List Match)) :=
  (if services.isEmpty then [""] else services).mapM fun service =>
    if service = "" then .ok [] else (expression service).map ([·])

def policyLine (conditions : List Match) (action : Verdict) (comment : RuleComment) : RuleLine :=
  { conditions, counter := true, verdict := some action, comment := some comment }

def renderPolicyRules (c : Config) (policy : SecurityPolicy) : Except String (List RuleLine) := do
  let base ← baseMatches c policy.sourceZones policy.destinationZones policy.sourceAddresses
    policy.destinationAddresses ("policy " ++ policy.id ++ " source addresses: ")
    ("policy " ++ policy.id ++ " destination addresses: ")
  let action ← labelled ("policy " ++ policy.id ++ ": ") (policyAction policy.action)
  let services ← labelled ("policy " ++ policy.id ++ ": ") (serviceMatches serviceExpression policy.services)
  return services.map fun service => policyLine (base ++ service) action (.policy policy.id)

def enabledPolicies (c : Config) : List SecurityPolicy :=
  (sortByPriority c.policies).filter (·.enabled)

def policyLines (render : SecurityPolicy → Except String (List RuleLine)) (policies : List SecurityPolicy) :
    Except String (List RuleLine) :=
  (policies.mapM render).map List.flatten

/-! ## Address translation -/

def protocolNumber (text : String) : UInt8 :=
  ((ServiceProtocol.ofName (toLower text)).map ServiceProtocol.number).getD 0

def networkMatch (condition : List Selector → Match) (label network : String) : Except String (List Match) :=
  if network = "" then .ok []
  else (labelled label (canonicalIPv4 network)).map fun selector => [condition [selector]]

def portMatches (protocol : String) (port : Int) : List Match :=
  if 0 < port then [.dport (protocolNumber protocol) port.toNat port.toNat]
  else if protocol = "" then [] else [.l4proto (protocolNumber protocol)]

def translationTarget (rule : NATRule) : Target :=
  { addr := ((parseIP rule.translatedAddress.toList).bind to4).getD .zero
    port := if 0 < rule.translatedPort then some rule.translatedPort.toNat else none }

def renderNATRule (c : Config) (rule : NATRule) (prerouting : Bool) : Except String RuleLine := do
  let source ← networkMatch .saddr ("NAT " ++ rule.id ++ " source network: ") rule.sourceNetwork
  let destination ← networkMatch .daddr ("NAT " ++ rule.id ++ " destination network: ") rule.destinationNetwork
  let verdict : Verdict ←
    if toUpper rule.type = "MASQUERADE" then .ok .masquerade
    else if toUpper rule.type = "SNAT" then .ok (.snat (translationTarget rule))
    else if toUpper rule.type = "DNAT" then .ok (.dnat (translationTarget rule))
    else .error ("NAT " ++ rule.id ++ " has unsupported type " ++ quote rule.type)
  let zones :=
    (if rule.sourceZone = "" then [] else nameMatch (.iifname false) c [rule.sourceZone]) ++
    if prerouting ∨ rule.destinationZone = "" then [] else nameMatch (.oifname false) c [rule.destinationZone]
  return { conditions := zones ++ source ++ destination ++ portMatches rule.protocol rule.originalPort
           verdict := some verdict
           comment := some (.nat rule.id rule.priority) }

def guardPort (rule : NATRule) : Int :=
  if rule.translatedPort = 0 then rule.originalPort else rule.translatedPort

def renderDNATZoneGuard (c : Config) (rule : NATRule) : Except String RuleLine :=
  match (parseIP rule.translatedAddress.toList).bind to4 with
  | none => .error ("DNAT " ++ rule.id ++ " has invalid IPv4 target")
  | some target =>
    let source := match canonicalIPv4 rule.sourceNetwork with
      | .ok selector => [Match.saddr [selector]]
      | .error _ => []
    .ok
      { conditions := [.ctStatusDnat] ++
          (if rule.sourceZone = "" then [] else nameMatch (.iifname false) c [rule.sourceZone]) ++ source ++
          [.daddr [.host target]] ++ portMatches rule.protocol (guardPort rule) ++
          [.oifname true (zoneInterfaces c [rule.destinationZone])]
        verdict := some .drop
        comment := some (.dnatZone rule.id) }

/-! ## The table -/

def renderPolicyErrors (c : Config) (policy : SecurityPolicy) : List String :=
  let field := "policy " ++ policy.id ++ ": "
  if !policy.enabled then []
  else
    (match policyAction policy.action with
      | .error failure => [field ++ failure]
      | .ok _ => []) ++
    errorIf (!isIdentifier policy.id) ("policy " ++ invalidIdentifier policy.id) ++
    ((policy.sourceZones ++ policy.destinationZones).flatMap fun zone =>
      errorIf ((zoneInterfaceNames c zone).isEmpty)
        ("policy " ++ policy.id ++ " zone " ++ zone ++ " has no interface")) ++
    (match canonicalIPv4List (policy.sourceAddresses ++ policy.destinationAddresses) with
      | .error failure => [field ++ failure]
      | .ok _ => []) ++
    policy.services.flatMap fun service => match serviceExpression service with
      | .error failure => [field ++ failure]
      | .ok _ => []

def renderNATErrors (c : Config) (rule : NATRule) : List String :=
  let type := toUpper rule.type
  let protocol := toLower rule.protocol
  let networkError (label network : String) : List String :=
    errorIf (network ≠ "" ∧ ((canonicalIPv4 network).toOption.isNone ∨ !contains '/' network))
      ("NAT " ++ rule.id ++ " " ++ label ++ " network is not an IPv4 CIDR")
  if !rule.enabled then []
  else
    errorIf (!isIdentifier rule.id) ("NAT " ++ invalidIdentifier rule.id) ++
    errorIf (type ≠ "SNAT" ∧ type ≠ "MASQUERADE" ∧ type ≠ "DNAT")
      ("NAT " ++ rule.id ++ " has unsupported type " ++ quote rule.type) ++
    errorIf ((zoneInterfaceNames c rule.sourceZone).isEmpty)
      ("NAT " ++ rule.id ++ " source zone " ++ rule.sourceZone ++ " has no interface") ++
    errorIf ((zoneInterfaceNames c rule.destinationZone).isEmpty)
      ("NAT " ++ rule.id ++ " destination zone " ++ rule.destinationZone ++ " has no interface") ++
    errorIf (protocol ≠ "" ∧ protocol ≠ "tcp" ∧ protocol ≠ "udp" ∧ protocol ≠ "icmp")
      ("NAT " ++ rule.id ++ " has invalid protocol " ++ quote rule.protocol) ++
    errorIf ((0 < rule.originalPort ∨ 0 < rule.translatedPort) ∧ protocol ≠ "tcp" ∧ protocol ≠ "udp")
      ("NAT " ++ rule.id ++ " ports require tcp or udp") ++
    networkError "source" rule.sourceNetwork ++ networkError "destination" rule.destinationNetwork ++
    errorIf ((type = "SNAT" ∨ type = "DNAT") ∧ ((parseIP rule.translatedAddress.toList).bind to4).isNone)
      ("NAT " ++ rule.id ++ " requires an IPv4 translated address") ++
    errorIf (type = "DNAT" ∧ !ipv4BelongsToZone rule.translatedAddress rule.destinationZone c)
      ("DNAT " ++ rule.id ++ " target " ++ rule.translatedAddress ++
        " is not in an IPv4 subnet attached to destination zone " ++ rule.destinationZone)

def validateForRender (c : Config) : List String :=
  (c.interfaces.flatMap fun iface => errorIf (!isInterfaceName iface.systemName)
    ("interface " ++ iface.id ++ " has unsafe system name " ++ quote iface.systemName)) ++
  c.policies.flatMap (renderPolicyErrors c) ++ c.natRules.flatMap (renderNATErrors c)

structure Ruleset where
  natPrerouting : List RuleLine
  dnatZoneGuard : List RuleLine
  forward : Chain RuleComment
  natPostrouting : List RuleLine
  deriving DecidableEq

def invalidDrop : RuleLine := { conditions := [.ctState [.invalid]], verdict := some .drop }

def establishedAccept : RuleLine := { conditions := [.ctState [.established, .related]], verdict := some .accept }

def compileRuleset (c : Config) : Except String Ruleset := do
  if validateForRender c ≠ [] then
    .error ("cannot compile dataplane: " ++ join "; " (validateForRender c))
  else
    let rules := (c.natRules.insertionSort fun a b => a.priority ≤ b.priority).filter (·.enabled)
    let dnatRules := rules.filter fun rule => equalFold rule.type "DNAT"
    let natPrerouting ← dnatRules.mapM fun rule => renderNATRule c rule true
    let dnatZoneGuard ← dnatRules.mapM (renderDNATZoneGuard c)
    let policies ← policyLines (renderPolicyRules c) (enabledPolicies c)
    let natPostrouting ← (rules.filter fun rule => !equalFold rule.type "DNAT").mapM fun rule =>
      renderNATRule c rule false
    return { natPrerouting, dnatZoneGuard, natPostrouting
             forward :=
              { policy := if c.defaultDeny then .drop else .accept
                lines := invalidDrop :: establishedAccept :: policies } }

end Ngfw.Dataplane

import Ngfw.Config.Validator
import Ngfw.Connectivity.Program

/-!
# Inspection and request-gate selection

The M3 and M4 programs: the connectivity program with the inspection mode and the gate plan of each policy.
-/

namespace Ngfw.Connectivity
open Lib Lib.Text Lib.Netip Domain Config

def policyByID (c : Config) (id : String) : Option SecurityPolicy :=
  c.policies.reverse.find? (·.id == id)

variable [CaseMap]

def allowedApps (policy : SecurityPolicy) : List String :=
  uniqueSorted ((policy.applications.map fun raw => toUpper (trimSpace raw)).filter (· ≠ ""))

def compileSelection (c : Config) (generation : UInt64) (rule : Rule) : InspectionSelection :=
  let policy := policyByID c rule.id
  let selection : InspectionSelection :=
    { policyID := rule.id
      mode := .off
      allowedApps := (policy.map allowedApps).getD []
      appDetectionTimeoutMillis := (effectiveInspectionConfig c).limits.appDetectionTimeoutMillis
      generation := generation }
  match profileByID c ((policy.map (·.securityProfileID)).getD "") with
  | none => selection
  | some profile => match profile.inspection with
    | none => selection
    | some inspection =>
      { selection with
        profileID := profile.id
        mode := inspection.mode
        rulesetID := inspection.rulesetID }

def compileM3 (c : Config) (generation : UInt64) : Except String Program :=
  if validateInspection c ≠ [] then
    .error ("invalid M3 inspection configuration: " ++ join "; " (validateInspection c))
  else if exactDuplicatePolicyErrorsForConfig c ≠ [] then
    .error ("invalid M3 policy: " ++ join "; " (exactDuplicatePolicyErrorsForConfig c))
  else if m3UnreachablePolicyErrors c ≠ [] then
    .error ("invalid M3 policy: " ++ join "; " (m3UnreachablePolicyErrors c))
  else (compile c generation).map fun program =>
    { program with
      inspectionIncludeManagement := (effectiveInspectionConfig c).includeManagement
      selections := GoMap.collect Rule.id (fun rule => some (compileSelection c generation rule)) program.rules }

def selectInspection (program : Program) (view : View) : InspectionSelection :=
  let decision := program.evaluate view
  let off : InspectionSelection :=
    { policyID := decision.policyID, mode := .off, generation := program.generation }
  if decision.policyID = "" ∨ decision.action ≠ .allow then off
  else if !program.inspectionIncludeManagement ∧ (program.managementZones.contains (zoneKey view.sourceZone) ∨
      program.managementZones.contains (zoneKey view.destinationZone)) then off
  else (program.selections.lookup decision.policyID).getD off

/-! ## The request gate -/

def httpPort : PortRange :=
  ⟨80, 80, by decide, by decide, by decide⟩

def standardPorts : List PortRange :=
  [httpPort, ⟨443, 443, by decide, by decide, by decide⟩]

def mergePort (merged : List PortRange) (port : PortRange) : List PortRange :=
  match merged with
  | [] => [port]
  | last :: rest =>
    if last.last + 1 < port.first then port :: last :: rest
    else if longer : last.last < port.last then
      { last with
        last := port.last
        ordered := le_trans last.ordered longer.le
        bounded := port.bounded } :: rest
    else last :: rest

def mergePorts (ports : List PortRange) : List PortRange :=
  (ports.foldl mergePort []).reverse

def requestGateTCPPorts (rule : Rule) : List PortRange :=
  if rule.services.isEmpty then standardPorts
  else
    let ports := (rule.services.filter (·.protocol == 6)).filterMap (·.ports)
    mergePorts (ports.insertionSort fun a b => a.first < b.first ∨ a.first = b.first ∧ a.last ≤ b.last)

def compileExclusion (item : TLSExclusion) : Except String TLSExclusionRule := do
  let domains ← item.domains.mapM fun raw => match canonicalTLSDomain raw with
    | .ok value => .ok value
    | .error failure => .error ("tls_exclusion " ++ item.id ++ " domain: " ++ failure)
  match item.destinationCIDRs.mapM fun raw => parsePrefix raw.toList with
  | none => .error ("tls_exclusion " ++ item.id ++ " CIDR")
  | some cidrs =>
    .ok { id := item.id, reason := item.reason, domains := domains, cidrs := cidrs.map Prefix.masked
          ports := item.ports.map fun port => UInt16.ofInt port }

def compileTLSExclusions (exclusions : List TLSExclusion) : Except String (List TLSExclusionRule) :=
  (exclusions.filter (·.enabled)).mapM compileExclusion

def TLSExclusionRule.matches (rule : TLSExclusionRule) (host : String) (addr : Addr) (port : UInt16) : Bool :=
  (rule.domains.isEmpty || rule.domains.any fun pattern => tlsDomainMatchesCanonical pattern host) &&
    (rule.cidrs.isEmpty || rule.cidrs.any (·.contains addr)) &&
    (rule.ports.isEmpty || rule.ports.contains port)

def RequestGatePlan.matchTLSExclusion (plan : RequestGatePlan) (host : String) (addr : Addr)
    (port : UInt16) : Option TLSExclusionRule :=
  if !plan.enabled ∨ addr = .zero then none
  else plan.exclusions.find? fun rule => TLSExclusionRule.matches rule host addr port

def m4PolicyError (policy : SecurityPolicy) : Option String :=
  if !policy.enabled then none
  else if policy.minimumRisk.isSome ∨ policy.maximumRisk.isSome then
    some ("policy " ++ policy.id ++ " risk matching is outside M4 connectivity scope")
  else if policy.scope ≠ "" ∧ !equalFold (trimSpace policy.scope) "SESSION" then
    some ("policy " ++ policy.id ++ " scope " ++ quote policy.scope ++ " is outside M4 session scope")
  else none

def compileGate (c : Config) (program : Program) (exclusions : List TLSExclusionRule) (policy : SecurityPolicy) :
    Option RequestGatePlan :=
  if !policy.enabled ∨ policy.action ≠ .allow then none
  else match profileByID c policy.securityProfileID with
    | none => none
    | some profile => match profile.requestGate with
      | none => none
      | some gate =>
        if !gate.enabled then none
        else some
          { enabled := true
            policyID := policy.id
            profileID := profile.id
            generation := program.generation
            tlsMode := profile.tlsMode
            failMode := gate.failMode
            oversizeAction := gate.oversizeAction
            encodingAction := gate.unsupportedEncodingAction
            blockQUIC := gate.blockQUIC
            rulesetID := (effectiveRequestGateConfig c).rulesetID
            exclusions := exclusions
            tcpPorts := match program.rules.reverse.find? (·.id == policy.id) with
              | some rule => requestGateTCPPorts rule
              | none => standardPorts }

def compileGates (c : Config) (program : Program) (exclusions : List TLSExclusionRule) :
    GoMap String RequestGatePlan :=
  GoMap.collect SecurityPolicy.id (compileGate c program exclusions) c.policies

def compileM4 (c : Config) (generation : UInt64) : Except String Program :=
  if usesM4 c ∧ validateRequestGate c ≠ [] then
    .error ("invalid M4 request gate: " ++ join "; " (validateRequestGate c))
  else match c.policies.findSome? m4PolicyError with
    | some failure => .error failure
    | none => match compileM3 c generation with
      | .error failure => .error failure
      | .ok program =>
        if !usesM4 c then .ok program
        else (compileTLSExclusions c.tlsExclusions).map fun exclusions =>
          { program with requestGates := compileGates c program exclusions }

def selectRequestGate (program : Program) (view : View) : RequestGatePlan :=
  let decision := program.evaluate view
  let off : RequestGatePlan := { policyID := decision.policyID, generation := program.generation }
  if decision.action ≠ .allow ∨ decision.policyID = "" ∨ view.protocol ≠ 6 then off
  else match program.requestGates.lookup decision.policyID with
    | none => off
    | some plan => if plan.tcpPorts.any (·.contains view.destinationPort) then plan else off

/-! ## The program of a configuration -/

def m2PolicyError (policy : SecurityPolicy) : Option String :=
  if !policy.enabled then none
  else if !policy.applications.isEmpty then
    some ("policy " ++ policy.id ++ " uses application matching outside M2 L3/L4 scope")
  else if policy.securityProfileID ≠ "" then
    some ("policy " ++ policy.id ++ " references security profile outside M2 L3/L4 scope")
  else if policy.minimumRisk.isSome ∨ policy.maximumRisk.isSome then
    some ("policy " ++ policy.id ++ " uses risk matching outside M2 L3/L4 scope")
  else
    let scope := toUpper (trimSpace policy.scope)
    if scope = "" ∨ scope = "SESSION" then none
    else some ("policy " ++ policy.id ++ " scope " ++ quote policy.scope ++ " is outside M2 session scope")

def compileM2 (c : Config) (generation : UInt64) : Except String Program :=
  match c.policies.findSome? m2PolicyError with
  | some failure => .error failure
  | none => compile c generation

def hasReferencedGateProfile (c : Config) : Bool :=
  c.policies.any fun policy => policy.enabled && c.profiles.any fun profile =>
    profile.requestGate.isSome && profile.id == policy.securityProfileID

structure Capabilities where
  inspection : Bool
  requestGate : Bool

def compileForCapabilities (c : Config) (generation : UInt64) (caps : Capabilities) : Except String Program :=
  if usesM4 c then
    if !caps.requestGate then .error "configuration requires M4 request-gate capability"
    else if usesM3 c ∧ !caps.inspection then .error "configuration requires M3 inspection capability"
    else compileM4 c generation
  else if hasReferencedGateProfile c then
    if usesM3 c ∧ !caps.inspection then .error "configuration requires M3 inspection capability"
    -- the gate is off: the policies stay, without a gate
    else compileM4 c generation
  else if !usesM3 c then compileM2 c generation
  else if !caps.inspection then .error "configuration requires M3 inspection capability"
  else compileM3 c generation

end Ngfw.Connectivity

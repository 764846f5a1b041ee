import Ngfw.Connectivity.Inspection
import Ngfw.Dataplane.CompilerM2

/-!
# The inspect chain

The enabled policies with their inspection modes, and the lines that log, queue or accept their packets in the two
directions.
-/

namespace Ngfw.Dataplane
open Lib Lib.Text Lib.Netip Lib.Nft Domain Config Connectivity

structure InspectionRule where
  policy : SecurityPolicy
  selection : InspectionSelection
  deriving DecidableEq

structure InspectionPlan where
  generation : UInt64
  enabled : Bool
  includeManagement : Bool
  rules : List InspectionRule := []
  renderedRules : Nat := 0
  deriving DecidableEq

def selectionOf (program : Program) (policy : SecurityPolicy) : InspectionSelection :=
  (program.selections.lookup policy.id).getD
    { policyID := policy.id, mode := .off, generation := program.generation }

def linesPerDirection : InspectionMode → Nat
  | .ids => 2
  | .ips => 2
  | _ => 1

def serviceCount (policy : SecurityPolicy) : Nat :=
  if policy.services.isEmpty then 1 else policy.services.length

def InspectionPlan.add (program : Program) (plan : InspectionPlan) (policy : SecurityPolicy) :
    Except String InspectionPlan :=
  let selection := selectionOf program policy
  let renderedRules := plan.renderedRules + serviceCount policy * 2 * linesPerDirection selection.mode
  if 10000 < renderedRules then .error "inspection rule count exceeds 10000"
  else .ok { plan with rules := plan.rules ++ [⟨policy, selection⟩], renderedRules }

def compileInspectionPlan (c : Config) (program : Program) : Except String InspectionPlan :=
  let effective := effectiveInspectionConfig c
  let plan : InspectionPlan :=
    { generation := program.generation, enabled := effective.enabled
      includeManagement := effective.includeManagement }
  if !effective.enabled then .ok plan else (enabledPolicies c).foldlM (InspectionPlan.add program) plan

def managementInterfaces (c : Config) : List String :=
  ((c.interfaces.filter fun iface => iface.mode = .management ∧ iface.adminState).map (·.systemName)).insertionSort
    (· ≤ ·)

def withoutManagement (names : List String) : List Match :=
  if names.isEmpty then [] else [.iifname true names, .oifname true names]

def inspectionLines (mode : InspectionMode) (conditions : List Match) (comment : RuleComment) : List RuleLine :=
  match mode with
  | .ids =>
    [{ conditions, counter := true, logGroup := some 100, verdict := none, comment := some comment },
     policyLine conditions .accept comment]
  | .ips =>
    [policyLine (conditions ++ [.inSet "meta nfproto . meta l4proto" "ips_ready"]) (.queue 100) comment,
     policyLine conditions .accept comment]
  | _ => [policyLine conditions .accept comment]

def inspectionBase (c : Config) (policy : SecurityPolicy) : Bool → Except String (List Match)
  | false => baseMatches c policy.sourceZones policy.destinationZones policy.sourceAddresses
      policy.destinationAddresses "" ""
  | true => (baseMatches c policy.destinationZones policy.sourceZones policy.destinationAddresses
      policy.sourceAddresses "" "").map ([.ctState [.established, .related]] ++ ·)

def renderInspectionDirection [CaseMap] (c : Config) (entry : InspectionRule) (management : List String)
    (reverse : Bool) : Except String (List RuleLine) := do
  let base ← inspectionBase c entry.policy reverse
  let expression := if reverse then reverseServiceExpression else serviceExpression
  let services ← serviceMatches expression entry.policy.services
  return services.flatMap fun service =>
    inspectionLines entry.selection.mode (withoutManagement management ++ base ++ service)
      (.m3 entry.policy.id reverse)

def renderInspectionEntry [CaseMap] (c : Config) (management : List String) (entry : InspectionRule) :
    Except String (List RuleLine) := do
  let forward ← renderInspectionDirection c entry management false
  let reverse ← renderInspectionDirection c entry management true
  return forward ++ reverse

def renderInspectionRules [CaseMap] (plan : InspectionPlan) (c : Config) : Except String (Chain RuleComment) :=
  if !plan.enabled then .ok { policy := .accept, lines := [] }
  else
    let management := if plan.includeManagement then [] else managementInterfaces c
    (plan.rules.mapM (renderInspectionEntry c management)).map fun groups =>
      { policy := .accept, lines := groups.flatten }

end Ngfw.Dataplane

import Ngfw.Connectivity.Inspection
import Ngfw.Engine.InspectionReducer
import Ngfw.Engine.Runtime

/-!
# Changes of sessions under inspection

The inspection runtime hears of every session that changes. It rebuilds the inspection of the session for the
current program and queues the kernel work on the guard of the session.
-/

namespace Ngfw.Engine
open Lib Lib.Text Domain Session Connectivity

structure SessionChange where
  sessionID : String
  identity : ConntrackIdentity

structure InspectionRuntime where
  runtime : Runtime
  intentQueue : List InspectionIntent := []
  intentItems : Nat
  appTimeout : Duration

namespace InspectionRuntime

def enqueueIntent (r : InspectionRuntime) (intent : InspectionIntent) : InspectionRuntime :=
  if r.intentQueue.length < r.intentItems then { r with intentQueue := r.intentQueue ++ [intent] } else r

variable [CaseMap]

def selection (r : InspectionRuntime) (value : RuntimeSession) : InspectionSelection :=
  selectInspection r.runtime.program (sessionView value)

/-- The clock is read for the deadline and again for the evaluation. -/
def rebuilt (r : InspectionRuntime) (current : RuntimeSession) (selection : InspectionSelection)
    (clock later : Time) : SessionInspection :=
  let next := { defaultSessionInspection with
    application := (current.inspection.getD defaultSessionInspection).application
    generation := selection.generation, profileID := selection.profileID, mode := selection.mode }
  if selection.mode = .off then
    { next with
      state := .notRequested, coverage := .none, appPolicyState := .notApplicable
      reason := "policy does not select inspection" }
  else if selection.allowedApps = [] then
    { next with
      state := .queued, coverage := .none, appPolicyState := .notApplicable
      reason := "policy has no application restriction" }
  else
    let deadline := clock + r.appTimeout
    let evaluated := evaluateAppRestriction selection next.application (some deadline) later
    { next with
      state := .queued, coverage := .none, appDeadline := some deadline
      appPolicyState := evaluated.1, reason := evaluated.2 }

def changeIntent (current : RuntimeSession) (generation revision : UInt64) (kind : InspectionIntentKind)
    (operationID : String) (action : Domain.Decision) (reason : String) : InspectionIntent :=
  { kind, operationID, sessionID := current.sessionID, identity := current.identity, generation
    expectedInspectionRevision := revision, requestedAction := action, owner := "APP_POLICY", reason }

def handleSessionChanged (r : InspectionRuntime) (change : SessionChange) (clock later : Time) :
    InspectionRuntime :=
  match r.runtime.store.byID.lookup change.sessionID with
  | none => r
  | some current =>
    let selection := r.selection current
    if change.sessionID = "" ∨ current.identity ≠ change.identity ∨
        selection.generation ≠ r.runtime.generation ∨
        (current.inspection.any fun inspection => inspection.generation = selection.generation ∧
          inspection.mode = selection.mode ∧ inspection.profileID = selection.profileID) then r
    else
      let expected := (current.inspection.map (·.revision)).getD 0
      let next := r.rebuilt current selection clock later
      let mismatch := next.appPolicyState = .mismatch ∧ selection.mode = .ips ∧ strongApplication next.application
      let removeGuard := current.inspection.any SessionInspection.guardApplied ∧ ¬ mismatch
      let installGuard := mismatch ∧ !(current.inspection.any fun inspection =>
        inspection.enforcement.mechanism = .nftSessionGuard ∧ inspection.enforcement.status = .applied)
      let installID := "app-guard-install-" ++ current.sessionID ++ "-" ++ decimal (expected + 1).toNat
      let outside := "known application is outside policy allowlist"
      let next := if installGuard then
          { next with enforcement :=
              { mechanism := .nftSessionGuard, scope := .session, requestedAction := .drop, status := .pending
                operationID := installID, reason := outside } }
        else next
      let updated := r.runtime.store.updateInspection current.sessionID current.identity selection.generation
        expected next
      match updated.2 with
      | .error _ => r
      | .ok value =>
        let revision := (value.inspection.map (·.revision)).getD 0
        let intent := changeIntent current selection.generation revision
        let r := { r with runtime := r.runtime.setStore updated.1 }
        let r := if removeGuard then
            r.enqueueIntent (intent .removeAppGuard
              ("app-guard-remove-" ++ current.sessionID ++ "-" ++ decimal revision.toNat) .allow
              "application restriction no longer applies")
          else r
        if installGuard then r.enqueueIntent (intent .installAppGuard installID .drop outside) else r

end InspectionRuntime

end Ngfw.Engine

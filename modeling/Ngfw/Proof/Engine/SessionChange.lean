import Ngfw.Engine.SessionChange
import Ngfw.Proof.Engine.Reducer
import Ngfw.Proof.Session.Store

/-! # The guard of a session across generations -/

namespace Ngfw.Engine
open Lib Domain Session RuntimeStore Connectivity

namespace InspectionRuntime

/-- The session is dropped, and its guard is recorded as applied or its installation for the current generation as
pending, with the intent in the queue. -/
def GuardSurvives (r : InspectionRuntime) (id : String) : Prop :=
  ∃ v inspection, r.runtime.store.byID.lookup id = some v ∧ v.effectiveDecision = .drop ∧
    v.inspection = some inspection ∧
    (inspection.guardApplied ∨
      inspection.generation = r.runtime.generation ∧ inspection.enforcement.status = .pending ∧
        ∃ intent ∈ r.intentQueue, intent.kind = .installAppGuard ∧ intent.sessionID = id ∧
          intent.generation = r.runtime.generation)

variable [CaseMap]

structure GuardedAgain (r : InspectionRuntime) (v : RuntimeSession) (inspection : SessionInspection)
    (clock later : Time) : Prop where
  live : r.runtime.store.byID.lookup v.sessionID = some v
  named : v.sessionID ≠ ""
  inspected : v.inspection = some inspection
  guarded : inspection.guardApplied
  dropped : v.effectiveDecision = .drop
  strong : strongApplication inspection.application
  newer : inspection.generation ≠ r.runtime.generation
  current : (r.selection v).generation = r.runtime.generation
  ips : (r.selection v).mode = .ips
  mismatch : (evaluateAppRestriction (r.selection v) inspection.application (some (clock + r.appTimeout)) later).1 =
    .mismatch

def RefusesInspection (r : InspectionRuntime) (v : RuntimeSession) (inspection : SessionInspection) : Prop :=
  r.runtime.generation < v.policyGeneration ∨ r.runtime.generation < inspection.generation ∨
    inspection.revision.toNat = 2 ^ 64 - 1

variable {r : InspectionRuntime} {v : RuntimeSession} {inspection : SessionInspection} {clock later : Time}

section
variable (again : r.GuardedAgain v inspection clock later)
include again

theorem GuardedAgain.rebuilt :
    let next := r.rebuilt v (r.selection v) clock later
    next.appPolicyState = .mismatch ∧ next.application = inspection.application ∧ next.enforcement = {} ∧
      next.generation = (r.selection v).generation := by
  have restricted : (r.selection v).allowedApps ≠ [] := by
    intro none
    simpa [evaluateAppRestriction, none] using again.mismatch
  simp [InspectionRuntime.rebuilt, again.ips, restricted, again.inspected, again.mismatch, defaultSessionInspection]

theorem GuardedAgain.updated :
    let next := r.rebuilt v (r.selection v) clock later
    let updated := r.runtime.store.updateInspection v.sessionID v.identity r.runtime.generation inspection.revision next
    r.RefusesInspection v inspection ∧ (∃ error, updated = (r.runtime.store, .error error)) ∨
      ¬ r.RefusesInspection v inspection ∧
        let v' := inspectedSession v next (inspection.revision + 1)
        updated = (r.runtime.store.putSession v.sessionID v', .ok v') := by
  obtain ⟨-, -, -, generation⟩ := again.rebuilt
  have same : tombstoneIdentityMatches v.identity v.identity := by simp [tombstoneIdentityMatches]
  unfold RefusesInspection updateInspection
  generalize 2 ^ 64 - 1 = largest
  simp only [again.live, again.inspected, same, generation, again.current]
  by_cases stale : r.runtime.generation < v.policyGeneration ∨ r.runtime.generation < inspection.generation
  · simp [stale, ← or_assoc]
  · by_cases last : inspection.revision.toNat = largest <;> simp [stale, last]

theorem GuardedAgain.handled :
    let handled := r.handleSessionChanged ⟨v.sessionID, v.identity⟩ clock later
    r.RefusesInspection v inspection ∧ handled = r ∨
      ¬ r.RefusesInspection v inspection ∧ ∃ next : SessionInspection, next.enforcement = {} ∧
        handled.runtime.store.byID.lookup v.sessionID =
          some (inspectedSession v next (inspection.revision + 1)) := by
  obtain ⟨mismatch, application, enforcement, -⟩ := again.rebuilt
  have guarded := again.guarded
  simp only [SessionInspection.guardApplied, decide_eq_true_eq] at guarded
  rcases again.updated with ⟨refused, error, updated⟩ | ⟨taken, updated⟩
  · refine .inl ⟨refused, ?_⟩
    simp [handleSessionChanged, again.live, again.named, again.inspected, again.current, again.newer, mismatch,
      application, again.ips, again.strong, guarded, updated]
  · refine .inr ⟨taken, _, enforcement, ?_⟩
    simp [handleSessionChanged, again.live, again.named, again.inspected, again.current, again.newer, mismatch,
      application, again.ips, again.strong, guarded, updated, Runtime.setStore]

theorem GuardedAgain.lost (taken : ¬ r.RefusesInspection v inspection) :
    ¬ (r.handleSessionChanged ⟨v.sessionID, v.identity⟩ clock later).GuardSurvives v.sessionID := by
  obtain ⟨next, unguarded, stored⟩ := (again.handled.resolve_left fun kept => taken kept.1).2
  rintro ⟨v', inspection', found, -, inspected, recorded⟩
  rw [stored] at found
  cases found
  cases inspected
  simp [SessionInspection.guardApplied, unguarded] at recorded

end

theorem guard_survives_generation_iff (again : r.GuardedAgain v inspection clock later) :
    (r.handleSessionChanged ⟨v.sessionID, v.identity⟩ clock later).GuardSurvives v.sessionID ↔
      r.RefusesInspection v inspection := by
  refine ⟨fun survives => by_contra fun taken => again.lost taken survives, fun refused => ?_⟩
  rw [(again.handled.resolve_right fun stored => stored.1 refused).2]
  exact ⟨v, inspection, again.live, again.dropped, again.inspected, .inl again.guarded⟩

end InspectionRuntime

section

attribute [local instance] Text.asciiCaseMap

def guardedInspection : SessionInspection where
  generation := 1
  mode := .ips
  application := { name := "TLS", source := .suricataAppProto, confidence := .high }
  enforcement := { mechanism := .nftSessionGuard, scope := .session, requestedAction := .drop, status := .applied }

def guardedSession : RuntimeSession :=
  { browsingSession (some guardedInspection) with decision := .allow, effectiveDecision := .drop }

def guardedRuntime : InspectionRuntime where
  runtime :=
    { store := (newRuntimeStore defaultRuntimeLimits).putSession "s" guardedSession
      program :=
        { rules := [{ id := "web", name := "", priority := 10, sourceZones := [], destinationZones := []
                      sourceAddresses := [], destinationAddresses := [], services := [], action := .allow
                      enabled := true }]
          defaultDeny := true, generation := 2
          selections := GoMap.collect id (fun _ => some { browsingSelection with generation := 2 }) ["web"] }
      generation := 2 }
  intentItems := 64
  appTimeout := 5 * second

theorem guardedRuntime_guardedAgain : guardedRuntime.GuardedAgain guardedSession guardedInspection 0 0 := by
  constructor <;> decide +kernel

theorem guard_lost_in_new_generation : guardedRuntime.GuardedAgain guardedSession guardedInspection 0 0 ∧
    ¬ (guardedRuntime.handleSessionChanged ⟨"s", {}⟩ 0 0).GuardSurvives "s" := by
  refine ⟨guardedRuntime_guardedAgain, guardedRuntime_guardedAgain.lost ?_⟩
  unfold InspectionRuntime.RefusesInspection
  decide +kernel

theorem guard_survives_generation_guardedRuntime :
    guardedRuntime.GuardedAgain guardedSession guardedInspection 0 0 ∧
      ((guardedRuntime.handleSessionChanged ⟨"s", {}⟩ 0 0).GuardSurvives "s" ↔
        guardedRuntime.RefusesInspection guardedSession guardedInspection) :=
  ⟨guardedRuntime_guardedAgain, InspectionRuntime.guard_survives_generation_iff guardedRuntime_guardedAgain⟩

end

end Ngfw.Engine

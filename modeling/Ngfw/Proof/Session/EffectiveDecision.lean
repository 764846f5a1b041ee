import Ngfw.Lib.Run
import Ngfw.Engine.InspectionReducer
import Ngfw.Proof.Session.Change

/-! # The effective decision of a live session -/

namespace Ngfw.Session
open Lib Domain Engine

def EffectiveDecisionAgrees (v : RuntimeSession) : Prop :=
  v.effectiveDecision = computeEffectiveDecision v.decision v.inspection v.revoked

def EffectiveDecisionsAgree (s : RuntimeStore) : Prop :=
  s.byID.All fun _ v => EffectiveDecisionAgrees v

def Fenced (v : RuntimeSession) : Prop :=
  v.revoked = true ∨ v.guardApplied = true

def NewStore (s : RuntimeStore) : Prop :=
  ∃ limits, s = newRuntimeStore limits

def SparesFenced (s : RuntimeStore) : StoreOp → Prop
  | .markEvaluationUnavailable id _ _ => ∀ v, s.byID.lookup id = some v → ¬ Fenced v
  | _ => True

/-! ## The sessions the operations write -/

variable {v : RuntimeSession} {id : String}

theorem EffectiveDecisionAgrees.of_core {w : RuntimeSession} (same : core v = core w)
    (agrees : EffectiveDecisionAgrees w) : EffectiveDecisionAgrees v := by
  simp only [core, Core.mk.injEq] at same
  obtain ⟨_, _, _, _, _, _, _, _, _, decision, _, effective, revoked, inspection⟩ := same
  unfold EffectiveDecisionAgrees
  rw [decision, effective, revoked, inspection]
  exact agrees

theorem agrees_newSession [CaseMap] (id : String) (record : Record) (now : Time) :
    EffectiveDecisionAgrees (RuntimeStore.newSession id record now) := rfl

theorem EffectiveDecisionAgrees.withReply (agrees : EffectiveDecisionAgrees v)
    (r : Record) : EffectiveDecisionAgrees (withReply r v) := by
  unfold Session.withReply
  split
  · split_ifs <;> exact agrees
  · exact agrees

section
variable (v : RuntimeSession) (generation : UInt64)

theorem agrees_invalidateSession (reason : String) (now : Time) :
    EffectiveDecisionAgrees (RuntimeStore.invalidateSession v generation reason now) := by
  simp only [EffectiveDecisionAgrees, RuntimeStore.invalidateSession, computeEffectiveDecision,
    RuntimeSession.guardApplied, Bool.or_eq_true]
  split_ifs <;> simp_all

theorem agrees_decidedSession (action : Decision) (policyID reason : String) :
    EffectiveDecisionAgrees (RuntimeStore.decidedSession v generation action policyID reason) := by
  simp only [EffectiveDecisionAgrees, RuntimeStore.decidedSession, computeEffectiveDecision,
    RuntimeSession.guardApplied, Bool.or_eq_true]
  split_ifs <;> simp_all

theorem agrees_revokedSession (reason : String) (clock : Time) :
    EffectiveDecisionAgrees (RuntimeStore.revokedSession v generation reason clock) := rfl

theorem agrees_inspectedSession (next : SessionInspection) (revision : UInt64) :
    EffectiveDecisionAgrees (RuntimeStore.inspectedSession v next revision) := rfl

end

theorem agrees_unavailableSession (unfenced : ¬ Fenced v) (generation : UInt64)
    (reason : String) : EffectiveDecisionAgrees (RuntimeStore.unavailableSession v generation reason) := by
  simp only [Fenced, not_or, Bool.not_eq_true, RuntimeSession.guardApplied] at unfenced
  simp [EffectiveDecisionAgrees, RuntimeStore.unavailableSession, computeEffectiveDecision, unfenced]

/-! ## Preservation -/

variable {s : RuntimeStore}

theorem EffectiveDecisionsAgree.put (agree : EffectiveDecisionsAgree s) {after : RuntimeStore}
    (put : after.byID = s.byID.insert id v) (agrees : EffectiveDecisionAgrees v) : EffectiveDecisionsAgree after := by
  unfold EffectiveDecisionsAgree
  rw [put]
  exact agree.insert agrees

theorem EffectiveDecisionsAgree.bury (agree : EffectiveDecisionsAgree s) (id : String)
    (closed : RuntimeSession) (now : Time) : EffectiveDecisionsAgree (s.buryLocked id closed now) := by
  unfold EffectiveDecisionsAgree
  rw [RuntimeStore.byID_buryLocked]
  exact agree.erase id

theorem EffectiveDecisionsAgree.applied [CaseMap] (agree : EffectiveDecisionsAgree s)
    {record : Record} {result : RuntimeStore × Except StoreError (RuntimeSession × Bool × Bool)}
    (applied : s.Applied record result) : EffectiveDecisionsAgree result.1 := by
  cases applied with
  | refused same =>
    unfold EffectiveDecisionsAgree
    rw [same]
    exact agree
  | merged target found put same unchanged =>
    exact agree.put put (.of_core same (EffectiveDecisionAgrees.withReply (agree _ _ found) _))
  | created put fresh => exact agree.put put (.of_core fresh (agrees_newSession _ _ _))

theorem EffectiveDecisionsAgree.reconcileOne {state : RuntimeStore × List RuntimeSession}
    (agree : EffectiveDecisionsAgree state.1) (seen : List String) (before now : Time) (reason id : String) :
    EffectiveDecisionsAgree (RuntimeStore.reconcileOne seen before now reason state id).1 := by
  unfold RuntimeStore.reconcileOne
  split
  · exact agree
  · split
    · exact agree
    · exact agree.bury _ _ _

theorem EffectiveDecisionsAgree.reconcile (agree : EffectiveDecisionsAgree s) (seen : List String)
    (before now : Time) (reason : String) (order : List String) (removed : List RuntimeSession) :
    EffectiveDecisionsAgree
      (order.foldl (RuntimeStore.reconcileOne seen before now reason) (s, removed)).1 := by
  refine List.foldlRecOn order _
    (motive := fun state : RuntimeStore × List RuntimeSession => EffectiveDecisionsAgree state.1) agree ?_
  intro state agreeing id _
  exact agreeing.reconcileOne seen before now reason id

theorem EffectiveDecisionsAgree.exec [CaseMap] [Stdlib] (agree : EffectiveDecisionsAgree s) (op : StoreOp)
    (spares : SparesFenced s op) : EffectiveDecisionsAgree (s.exec op) := by
  rcases op.observed_or with ⟨record, now, clock, rfl⟩ | applies
  · exact agree.applied (s.applied_applyObserved record now clock)
  have operates := s.operates_exec op applies
  generalize s.exec op = after at operates ⊢
  cases operates with
  | @put counted id old new count found rewrites =>
    have same : counted.byID = s.byID := by
      rcases count with rfl | rfl <;> rfl
    refine agree.put (congrArg (·.insert id new) same) ?_
    have agrees := agree _ _ found
    cases rewrites with
    | decided => exact agrees_decidedSession _ _ _ _ _
    | invalidated => exact agrees_invalidateSession _ _ _ _
    | revoked => exact agrees_revokedSession _ _ _ _
    | unavailable => exact agrees_unavailableSession (spares _ found) _ _
    | inspected next revision => exact agrees_inspectedSession _ next revision
    | zoned => exact agrees
  | close => exact agree.bury _ _ _
  | sweep seen before now reason clock order =>
    simp only [RuntimeStore.reconcileMissing]
    split_ifs <;> exact agree.reconcile _ _ _ _ _ _
  | stale _ found =>
    have agrees := agree _ _ found
    exact agree.put rfl agrees
  | idle | forget | trim | defer => exact agree

theorem Fenced.effectiveDecision (fenced : Fenced v) (agrees : EffectiveDecisionAgrees v) :
    v.effectiveDecision = .drop := by
  rw [agrees]
  unfold computeEffectiveDecision
  rcases fenced with revoked | guarded
  · simp [revoked]
  · simp only [RuntimeSession.guardApplied] at guarded
    simp [guarded]

theorem effectiveDecision_agrees_of_spared [CaseMap] [Stdlib]
    (reached : Reachable NewStore SparesFenced RuntimeStore.exec s) :
    EffectiveDecisionsAgree s ∧
      ∀ id v, s.byID.lookup id = some v → Fenced v → v.effectiveDecision = .drop := by
  have agree : EffectiveDecisionsAgree s := by
    refine reached.invariant ?_ fun state op agree spares => agree.exec op spares
    rintro _ ⟨limits, rfl⟩
    exact GoMap.all_empty
  exact ⟨agree, fun id v found fenced => fenced.effectiveDecision (agree id v found)⟩

/-! ## A revoked session of the firewall itself -/

def localRecord : Record where
  identity := { networkNS := "default", family := .ipv4, id := 7 }
  originalTuple :=
    { family := .ipv4, srcIP := .v4 0xC000020A#32, srcPort := 40000, dstIP := .v4 0xC0000201#32, dstPort := 22
      protocol := 6 }
  presence := { originalTuple := true, id := true }

def localSessionID [Stdlib] : String :=
  sessionID { networkNS := "default", family := .ipv4, id := 7, original := localRecord.originalTuple }

def revokedLocalStore [CaseMap] [Stdlib] : RuntimeStore :=
  ((newRuntimeStore defaultRuntimeLimits).exec (.applyObserved localRecord 1 1)).exec
    (.markRevoked localSessionID 1 "revoked by the operator" 2)

theorem revokedLocalStore_reached [CaseMap] [Stdlib] (admits : RuntimeStore → StoreOp → Prop)
    (applies : ∀ s, admits s (.applyObserved localRecord 1 1))
    (revokes : ∀ s, admits s (.markRevoked localSessionID 1 "revoked by the operator" 2)) :
    Reachable NewStore admits RuntimeStore.exec revokedLocalStore :=
  .next _ (.next _ (.start ⟨defaultRuntimeLimits, rfl⟩) (applies _)) (revokes _)

theorem lookup_revokedLocalStore [CaseMap] [Stdlib] :
    ∃ v, revokedLocalStore.byID.lookup localSessionID = some v ∧ v.revoked = true ∧ v.decision = .drop := by
  have live : ((newRuntimeStore defaultRuntimeLimits).exec (.applyObserved localRecord 1 1)).byID.lookup
      localSessionID = some _ := AList.lookup_insert _
  simp only [revokedLocalStore, RuntimeStore.exec, RuntimeStore.markRevoked] at live ⊢
  rw [live]
  exact ⟨_, AList.lookup_insert _, rfl, rfl⟩

@[reducible] def localStdlib : Stdlib :=
  sumTable (fun _ => false) 0 0x90d7d103e7499c74155453aa776be9fe438ac2328ce86966ecdd5689b649c9a7
    "1970-01-01T00:00:00Z"

theorem effectiveDecision_agrees_of_spared_local :
    EffectiveDecisionsAgree (@revokedLocalStore Text.asciiCaseMap localStdlib) ∧
      ∃ v, (@revokedLocalStore Text.asciiCaseMap localStdlib).byID.lookup (@localSessionID localStdlib) = some v ∧
        v.revoked = true ∧ v.effectiveDecision = .drop := by
  let _ := Text.asciiCaseMap
  let _ := localStdlib
  have spared := effectiveDecision_agrees_of_spared
    (revokedLocalStore_reached SparesFenced (fun _ => trivial) (fun _ => trivial))
  obtain ⟨v, found, revoked, _⟩ := lookup_revokedLocalStore
  exact ⟨spared.1, v, found, revoked, spared.2 _ v found (.inl revoked)⟩

theorem lookup_markEvaluationUnavailable
    (found : s.byID.lookup id = some v) (decided : v.decision ≠ .unset) (generation : UInt64)
    (reason : String) :
    (s.markEvaluationUnavailable id generation reason).1.byID.lookup id =
      some (RuntimeStore.unavailableSession v generation reason) := by
  simp [RuntimeStore.markEvaluationUnavailable, found, decided]

theorem revoked_effectiveDecision_cleared :
    ¬ ∃ (_ : CaseMap) (_ : Stdlib), ∀ s : RuntimeStore,
      Reachable NewStore (fun _ _ => True) RuntimeStore.exec s → EffectiveDecisionsAgree s := by
  rintro ⟨_, _, agreeAlways⟩
  obtain ⟨v, found, revoked, dropped⟩ := lookup_revokedLocalStore
  have cleared := lookup_markEvaluationUnavailable found (by simp [dropped, Decision.unset]) 1
    "local traffic is outside the M2 forward-policy path"
  have agrees := agreeAlways _ (.next (.markEvaluationUnavailable localSessionID 1 _)
    (revokedLocalStore_reached _ (fun _ => trivial) (fun _ => trivial)) trivial) _ _ cleared
  simp [EffectiveDecisionAgrees, RuntimeStore.unavailableSession, computeEffectiveDecision, revoked,
    Decision.unset] at agrees

end Ngfw.Session

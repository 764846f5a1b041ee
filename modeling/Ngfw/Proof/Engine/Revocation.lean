import Ngfw.Engine.Revocation
import Ngfw.Proof.Engine.Sections

/-!
# Revoked sessions stay fenced

An element of revoked_ctids is owned by every live revoked session with its conntrack ID. The release after a close
looks for such a session first; the release of an evicted entry and the one after a failed mark do not.
-/

namespace Ngfw.Engine
open Lib Domain Session Connectivity
open RuntimeStore hiding exec
open FenceSection (exec)

abbrev FenceState.live (s : FenceState) : GoMap String RuntimeSession :=
  s.runtime.store.byID

def RevokedFenced (s : FenceState) : Prop :=
  ∀ id v, s.live.lookup id = some v → v.revoked = true → v.identity.id ∈ s.revokedCTIDs

def FenceSection.inside : FenceSection → Bool
  | .checkClosed _ | .releaseClosed _ | .guardRevoke _ _ _ | .track _ _ _ | .releaseEvicted _ _ _ _
  | .readGeneration _ _ _ | .mark _ _ _ _ | .untrack _ _ | .releaseFailed _ => true
  | _ => false

def Unowned (s : FenceState) (ctid : UInt32) : Prop :=
  ∀ id v, s.live.lookup id = some v → v.revoked = true → v.identity.id ≠ ctid

def FenceSection.Promised (s : FenceState) : FenceSection → Prop
  | .track _ v _ | .readGeneration _ v _ | .mark _ v _ _ => v.identity.id ≠ 0 ∧ v.identity.id ∈ s.revokedCTIDs
  | .releaseClosed value | .untrack _ value | .releaseFailed value => Unowned s value.identity.id
  | .releaseEvicted _ _ _ _ => False
  | _ => True

def Owned (s : FenceState) : Prop :=
  ∀ id v, s.live.lookup id = some v → v.revoked = true → v.identity.id ≠ 0 ∧ v.identity.id ∈ s.revokedCTIDs

structure Guarded (t : FenceThreads) : Prop where
  exclusive : t.pending.countP FenceSection.inside = t.state.guardBusy.toNat
  owned : Owned t.state
  promised : ∀ step ∈ t.pending, step.Promised t.state

/-- The table of revoked sessions has room, and the session to be marked is the one that was read or, where it is gone,
no live revoked session has its conntrack ID. -/
def FenceSection.tidy (s : FenceState) : FenceSection → Bool
  | .track _ _ _ => s.runtime.revoked.keys.length < if s.runtime.maxRevoked ≤ 0 then 10000 else s.runtime.maxRevoked
  | .mark id v _ _ => match s.live.lookup id with
    | some current => current.identity.id = v.identity.id
    | none => !hasActiveRevokedConntrackID s.runtime.store v.identity.id
  | _ => true

def RunsTidy (t : FenceThreads) : FenceMove → Prop
  | .start _ => True
  | .run index _ => (t.next index).all (·.tidy t.state) = true

instance (t : FenceThreads) : ∀ move, Decidable (RunsTidy t move)
  | .start _ => .isTrue trivial
  | .run _ _ => inferInstanceAs (Decidable (_ = true))

def NewFence (t : FenceThreads) : Prop :=
  ∃ program generation limits capacity,
    t = { state := { runtime := { newRuntime program generation limits with maxRevoked := capacity } } }

/-! ## What happens to the flags -/

def KeepsFlags (before after : GoMap String RuntimeSession) : Prop :=
  ∀ id w, after.lookup id = some w → w.revoked = true →
    ∃ v, before.lookup id = some v ∧ v.revoked = true ∧ (v.identity.id ≠ 0 → w.identity.id = v.identity.id)

section
variable {before middle after : GoMap String RuntimeSession}

variable (s : RuntimeStore) (map : GoMap String RuntimeSession)

theorem KeepsFlags.refl : KeepsFlags map map :=
  fun _ w held revoked => ⟨w, held, revoked, fun _ => rfl⟩

theorem KeepsFlags.erase (key : String) : KeepsFlags map (map.erase key) := by
  intro id w held revoked
  by_cases here : id = key
  · subst here
    cases (AList.lookup_erase id map).symm.trans held
  · rw [AList.lookup_erase_ne here] at held
    exact ⟨w, held, revoked, fun _ => rfl⟩

theorem KeepsFlags.started {w : RuntimeSession} (unrevoked : w.revoked = false) (map : GoMap String RuntimeSession)
    (key : String) : KeepsFlags map (map.insert key w) := by
  intro id u held revoked
  by_cases here : id = key
  · subst here
    rw [AList.lookup_insert] at held
    cases held
    rw [unrevoked] at revoked
    cases revoked
  · rw [AList.lookup_insert_ne here] at held
    exact ⟨u, held, revoked, fun _ => rfl⟩

theorem KeepsFlags.put {map : GoMap String RuntimeSession} {key : String} {v w : RuntimeSession}
    (found : map.lookup key = some v) (flag : w.revoked = v.revoked)
    (same : v.identity.id ≠ 0 → w.identity.id = v.identity.id) : KeepsFlags map (map.insert key w) := by
  intro id u held revoked
  by_cases here : id = key
  · subst here
    rw [AList.lookup_insert] at held
    cases held
    exact ⟨v, found, flag ▸ revoked, same⟩
  · rw [AList.lookup_insert_ne here] at held
    exact ⟨u, held, revoked, fun _ => rfl⟩

theorem KeepsFlags.trans (first : KeepsFlags before middle) (second : KeepsFlags middle after) :
    KeepsFlags before after := by
  intro id w held revoked
  obtain ⟨v, there, flagged, same⟩ := second id w held revoked
  obtain ⟨u, found, marked, kept⟩ := first id v there flagged
  exact ⟨u, found, marked, fun known => (same (by rwa [kept known])).trans (kept known)⟩

theorem keepsFlags_applyObserved [CaseMap] [Stdlib] (record : Record) (now clock : Time) :
    KeepsFlags s.byID (s.applyObserved record now clock).1.byID := by
  rcases s.applyObserved_cases record now clock with
    ⟨failure, refused⟩ | ⟨_, ⟨id, existing, target, merges⟩ | ⟨_, creates⟩⟩
  · rw [refused]
    exact .refl _
  · rw [merges, byID_mergeInto]
    refine .put (mergeTarget_live target) (kept_mergeLocked _ _ _ _ _).revoked fun known => ?_
    simp [identity_mergeLocked, learnIdentity, known]
  · rw [creates]
    unfold createLocked
    split_ifs
    · exact .refl _
    · dsimp only
      rw [byID_indexLocked, byID_rememberIdentityLocked]
      exact .started (unjudged_newSession _ _ _ _).unrevoked _ _

theorem keepsFlags_close (identity : ConntrackIdentity) (reason : String) (now clock : Time) :
    KeepsFlags s.byID (s.close identity reason now clock).1.byID := by
  unfold close
  split
  · exact .refl _
  split
  · exact .refl _
  split
  · exact .erase _ _
  · exact .refl _

theorem keepsFlags_closeVerifiedExpired (candidate : RuntimeSession) (now : Time) :
    KeepsFlags s.byID (s.closeVerifiedExpired candidate now).1.byID := by
  unfold closeVerifiedExpired
  split
  · exact .refl _
  · exact .erase _ _

theorem keepsFlags_reconcileMissing (seen : List ConntrackIdentity) (begun now : Time)
    (reason : String) (clock : Time) (order : List String) :
    KeepsFlags s.byID (s.reconcileMissing seen begun now reason clock order).1.byID := by
  have swept : ∀ (ids : List String) (time stamp : Time) (state : RuntimeStore × List RuntimeSession),
      KeepsFlags state.1.byID (order.foldl (reconcileOne ids time stamp reason) state).1.byID := by
    intro ids time stamp
    induction order with
    | nil => exact fun state => .refl _
    | cons id rest ih =>
      intro state
      refine KeepsFlags.trans ?_ (ih _)
      unfold reconcileOne
      split
      · exact .refl _
      split
      · exact .refl _
      · exact .erase _ _
  unfold reconcileMissing
  dsimp only
  generalize (if begun = 0 then clock else begun) = time
  generalize (if now = 0 then clock else now) = stamp
  split_ifs
  · exact swept _ _ _ (s, [])
  · exact swept _ _ _ (s, [])

end

/-! ## The sections -/

section
variable {t after : FenceThreads} {first : FenceSection} {input : FenceInput}

theorem countP_untrackClosed (values : List RuntimeSession) :
    (values.map FenceSection.untrackClosed).countP FenceSection.inside = 0 := by
  rw [List.countP_map, List.countP_eq_zero]
  exact fun _ _ => Bool.false_ne_true

theorem guardBusy_releaseSession (s : FenceState) (value : RuntimeSession) (guardFailure : Option String) :
    (s.releaseSession value guardFailure).guardBusy = s.guardBusy := by
  unfold FenceState.releaseSession
  split_ifs <;> rfl

theorem Owned.releaseSession {s : FenceState} (owned : Owned s) {value : RuntimeSession}
    (unowned : Unowned s value.identity.id) (guardFailure : Option String) :
    Owned (s.releaseSession value guardFailure) := by
  unfold FenceState.releaseSession
  split_ifs
  · exact owned
  · intro id v found revoked
    have held := owned id v found revoked
    exact ⟨held.1, Finset.mem_erase.mpr ⟨unowned id v found revoked, held.2⟩⟩

theorem unowned_of_inactive {s : FenceState} {ctid : UInt32} (known : ctid ≠ 0)
    (inactive : hasActiveRevokedConntrackID s.runtime.store ctid = false) : Unowned s ctid := by
  intro id v found revoked same
  have active : hasActiveRevokedConntrackID s.runtime.store ctid :=
    decide_eq_true ⟨known, v, GoMap.mem_values.mpr ⟨id, found⟩, same, revoked⟩
  rw [inactive] at active
  cases active

theorem Guarded.new (new : NewFence t) : Guarded t := by
  obtain ⟨program, generation, limits, capacity, rfl⟩ := new
  refine ⟨rfl, fun id v found => ?_, fun _ waiting => absurd waiting List.not_mem_nil⟩
  cases (AList.lookup_empty id).symm.trans found

variable [CaseMap] [Stdlib]

theorem exec_count (step : FenceSection) (input : FenceInput) (s : FenceState)
    (held : step.inside = true → s.guardBusy = true) :
    (step.exec input s).2.countP FenceSection.inside + s.guardBusy.toNat =
      step.inside.toNat + (step.exec input s).1.guardBusy.toNat := by
  cases step with
  | close | closeExpired | reconcile =>
    simp only [exec, countP_untrackClosed]
    rfl
  | untrackClosed value =>
    simp only [exec]
    split <;> simp [FenceSection.inside, FenceState.setRevoked]
  | lockClosed | lockRevoke =>
    simp only [exec]
    split <;> simp_all [FenceSection.inside]
  | find id reason =>
    simp only [exec]
    split <;> simp [FenceSection.inside]
  | checkClosed | guardRevoke | mark =>
    have busy := held rfl
    simp only [exec]
    split <;> simp [FenceSection.inside, FenceState.unlock, busy]
  | track id v reason =>
    have busy := held rfl
    simp only [exec]
    split <;> simp [FenceSection.inside, busy]
  | releaseEvicted evicted id v reason =>
    simp [exec, FenceSection.inside, guardBusy_releaseSession]
  | applyObserved record now => rfl
  | releaseClosed | releaseFailed => simp [exec, FenceSection.inside, FenceState.unlock, held rfl]
  | readGeneration id v reason => rfl
  | untrack id v => rfl

theorem exec_outside {step : FenceSection} (input : FenceInput) (s : FenceState) (outside : step.inside = false) :
    (step.exec input s).1.revokedCTIDs = s.revokedCTIDs ∧ KeepsFlags s.live (step.exec input s).1.live ∧
      ∀ later ∈ (step.exec input s).2, ∀ state, later.Promised state := by
  have closes : ∀ values : List RuntimeSession, ∀ later ∈ values.map FenceSection.untrackClosed, ∀ state,
      later.Promised state := by
    intro values later produced state
    obtain ⟨value, -, rfl⟩ := List.mem_map.mp produced
    trivial
  cases step with
  | applyObserved record now =>
    exact ⟨rfl, keepsFlags_applyObserved _ _ _ _, fun _ none => absurd none List.not_mem_nil⟩
  | close identity reason now => exact ⟨rfl, keepsFlags_close _ _ _ _ _, closes _⟩
  | closeExpired candidate now => exact ⟨rfl, keepsFlags_closeVerifiedExpired _ _ _, closes _⟩
  | reconcile seen begun now reason => exact ⟨rfl, keepsFlags_reconcileMissing _ _ _ _ _ _ _, closes _⟩
  | untrackClosed value =>
    refine ⟨rfl, .refl _, fun later produced state => ?_⟩
    rw [List.mem_singleton.mp (List.mem_ite_nil_right.mp produced).2]
    trivial
  | lockClosed | lockRevoke =>
    simp only [exec]
    split
    all_goals
      refine ⟨rfl, .refl _, fun later produced state => ?_⟩
      rw [List.mem_singleton.mp produced]
      trivial
  | find id reason =>
    simp only [exec]
    split
    · exact ⟨rfl, .refl _, fun _ none => absurd none List.not_mem_nil⟩
    · refine ⟨rfl, .refl _, fun later produced state => ?_⟩
      rw [List.mem_singleton.mp produced]
      trivial
  | _ => cases outside

theorem exec_inside {step : FenceSection} {s : FenceState} (input : FenceInput) (owned : Owned s)
    (promised : step.Promised s) (tidy : step.tidy s) (inside : step.inside) :
    Owned (step.exec input s).1 ∧ ∀ later ∈ (step.exec input s).2, later.Promised (step.exec input s).1 := by
  have ends : ∀ state : FenceState, ∀ later ∈ ([] : List FenceSection), later.Promised state := fun _ _ none =>
    absurd none List.not_mem_nil
  cases step with
  | checkClosed value =>
    simp only [exec]
    split
    · exact ⟨owned, ends _⟩
    · rename_i inactive
      refine ⟨owned, fun later produced => ?_⟩
      rw [List.mem_singleton.mp produced]
      by_cases known : value.identity.id = 0
      · intro id v found revoked same
        exact (owned id v found revoked).1 (same.trans known)
      · exact unowned_of_inactive known (Bool.eq_false_of_not_eq_true inactive)
  | releaseClosed | releaseFailed => exact ⟨owned.releaseSession promised input.guardFailure, ends _⟩
  | guardRevoke id v reason =>
    simp only [exec]
    split
    · exact ⟨owned, ends _⟩
    · rename_i runs
      push Not at runs
      refine ⟨fun id v found revoked => ?_, fun later produced => ?_⟩
      · have held := owned id v found revoked
        exact ⟨held.1, Finset.mem_insert_of_mem held.2⟩
      · rw [List.mem_singleton.mp produced]
        exact ⟨runs.1, Finset.mem_insert_self _ _⟩
  | track id v reason =>
    have room := of_decide_eq_true tidy
    simp only [exec, if_neg (Int.not_le.mpr room), Option.bind_none, Option.elim_none]
    refine ⟨owned, fun later produced => ?_⟩
    rw [List.mem_singleton.mp produced]
    exact promised
  | releaseEvicted evicted id v reason => cases promised
  | readGeneration | untrack =>
    refine ⟨owned, fun later produced => ?_⟩
    rw [List.mem_singleton.mp produced]
    exact promised
  | mark id v generation reason =>
    cases found : s.live.lookup id with
    | none =>
      have inactive : (!hasActiveRevokedConntrackID s.runtime.store v.identity.id) = true := by
        simpa only [FenceSection.tidy, found] using tidy
      simp only [exec, markRevoked, found]
      refine ⟨owned, fun later produced => ?_⟩
      rw [List.mem_singleton.mp produced]
      exact unowned_of_inactive promised.1 (by simpa using inactive)
    | some current =>
      have same : current.identity.id = v.identity.id := by
        simpa only [FenceSection.tidy, found, decide_eq_true_eq] using tidy
      simp only [exec, markRevoked, found]
      refine ⟨fun other w held revoked => ?_, ends _⟩
      have put := GoMap.puts_insert s.live id (revokedSession current generation reason input.clock)
      by_cases here : other = id
      · subst here
        cases put.here.symm.trans held
        exact same ▸ promised
      · exact owned other w ((put.elsewhere other here).symm.trans held) revoked
  | _ => cases inside

theorem Guarded.ran (guarded : Guarded t) (ran : Threads.Ran exec t after first input)
    (tidy : first.tidy t.state) : Guarded after := by
  obtain ⟨others, before, now⟩ := ran.split
  have total : t.state.guardBusy.toNat = first.inside.toNat + others.countP FenceSection.inside := by
    rw [← guarded.exclusive, before.countP_eq, List.countP_cons, Nat.add_comm]
    cases first.inside <;> rfl
  have busy : first.inside = true → t.state.guardBusy = true := by
    intro inside
    rw [inside] at total
    cases held : t.state.guardBusy with
    | true => rfl
    | false =>
      rw [held] at total
      simp only [Bool.toNat_true, Bool.toNat_false] at total
      omega
  have counted := exec_count first input t.state busy
  have exclusive : after.pending.countP FenceSection.inside = after.state.guardBusy.toNat := by
    rw [now.countP_eq, List.countP_append, ran.state]
    omega
  have waited : ∀ later ∈ others, later.Promised t.state := fun later other =>
    guarded.promised later (before.mem_iff.mpr (List.mem_cons_of_mem _ other))
  cases inside : first.inside with
  | true =>
    obtain ⟨owned, produced⟩ := exec_inside input guarded.owned (guarded.promised first ran.was) tidy inside
    rw [← ran.state] at owned produced
    refine ⟨exclusive, owned, fun later waiting => ?_⟩
    rcases List.mem_append.mp (now.mem_iff.mp waiting) with new | other
    · exact produced later new
    · -- no other call is under the lock
      have alone : others.countP FenceSection.inside = 0 := by
        rw [inside, busy inside] at total
        simp only [Bool.toNat_true] at total
        omega
      have outside := List.countP_eq_zero.mp alone later other
      cases later <;> trivial
  | false =>
    obtain ⟨set, flags, free⟩ := exec_outside input t.state inside
    rw [← ran.state] at set flags
    have owned : Owned after.state := by
      intro id w held revoked
      obtain ⟨v, found, flagged, same⟩ := flags id w held revoked
      have known := guarded.owned id v found flagged
      rw [same known.1, set]
      exact known
    have unowned : ∀ ctid, Unowned t.state ctid → Unowned after.state ctid := by
      intro ctid none id w held revoked
      obtain ⟨v, found, flagged, same⟩ := flags id w held revoked
      rw [same (guarded.owned id v found flagged).1]
      exact none id v found flagged
    refine ⟨exclusive, owned, fun later waiting => ?_⟩
    rcases List.mem_append.mp (now.mem_iff.mp waiting) with new | other
    · exact free later new _
    · have kept := waited later other
      cases later with
      | track | readGeneration | mark => exact ⟨kept.1, set ▸ kept.2⟩
      | releaseClosed | untrack | releaseFailed => exact unowned _ kept
      | releaseEvicted => exact kept
      | _ => trivial

theorem Guarded.start (guarded : Guarded t) (call : FenceCall) : Guarded (t.step (.start call)) := by
  have enters : ∀ step ∈ call.sections, step.inside = false := by
    intro step entered
    cases call <;> rw [List.mem_singleton.mp entered] <;> rfl
  refine ⟨?_, guarded.owned, fun step waiting => ?_⟩
  · have pending : (t.step (.start call)).pending = t.pending ++ call.sections := by
      simp [FenceThreads.step, Threads.step, Threads.pending]
    have none : call.sections.countP FenceSection.inside = 0 := by
      refine List.countP_eq_zero.mpr fun step entered => ?_
      rw [enters step entered]
      exact Bool.false_ne_true
    rw [pending, List.countP_append, none]
    exact guarded.exclusive
  · rcases Threads.mem_pending_start.mp waiting with waited | entered
    · exact guarded.promised step waited
    · have outside := enters step entered
      cases step <;> trivial

theorem revoked_sessions_fenced (reached : Reachable NewFence RunsTidy FenceThreads.step t) :
    RevokedFenced t.state := by
  have guarded : Guarded t := reached.invariant (fun _ => Guarded.new) (by
    intro t move guarded admitted
    refine Threads.invariant_step guarded (fun call _ => guarded.start call) ?_
    rintro index input first after rfl runs ran
    have tidy : (t.next index).all (·.tidy t.state) = true := admitted
    rw [runs] at tidy
    exact guarded.ran ran tidy)
  exact fun id v found revoked => (guarded.owned id v found revoked).2

end

/-! ## A table that is full -/

def secondVisit : Record :=
  { visitRecord with
    identity := { visitRecord.identity with id := 8 }
    originalTuple := { visitRecord.originalTuple with srcPort := 40001 } }

section
attribute [local instance] Lib.Text.asciiCaseMap visitStdlib

def fenceRuns (index count : Nat) : List FenceMove :=
  List.replicate count (.run index { clock := second })

def smallFence : FenceThreads :=
  { state := { runtime := { newRuntime publishedProgram 1 defaultRuntimeLimits with maxRevoked := 1 } } }

def oneRevoked : List FenceMove :=
  .start (.observe visitRecord second) :: fenceRuns 0 1 ++ .start (.observe secondVisit second) :: fenceRuns 1 1 ++
    .start (.revoke "sess-ce9fa99ca6632c178ae50e73cf17951d" "operator") :: fenceRuns 2 6

theorem revoked_sessions_fenced_one :
    RevokedFenced (oneRevoked.foldl FenceThreads.step smallFence).state ∧
      (oneRevoked.foldl FenceThreads.step smallFence).state.revokedCTIDs = {7} :=
  ⟨revoked_sessions_fenced ((Reachable.start ⟨publishedProgram, 1, defaultRuntimeLimits, 1, rfl⟩).run
    (by decide +kernel)), by decide +kernel⟩

def bothRevoked : List FenceMove :=
  oneRevoked ++ .start (.revoke "sess-2ce0afc82f8af772a383af9e9c6f8678" "operator") :: fenceRuns 3 7

theorem eviction_unfences :
    (bothRevoked.foldl FenceThreads.step smallFence).quiet ∧
      ¬RevokedFenced (bothRevoked.foldl FenceThreads.step smallFence).state := by
  refine ⟨List.isEmpty_iff.mp (by decide +kernel), fun fenced => ?_⟩
  have unfenced : ∃ v ∈ (bothRevoked.foldl FenceThreads.step smallFence).state.live.values, v.revoked = true ∧
      v.identity.id ∉ (bothRevoked.foldl FenceThreads.step smallFence).state.revokedCTIDs := by
    decide +kernel
  obtain ⟨v, live, revoked, missing⟩ := unfenced
  obtain ⟨id, found⟩ := GoMap.mem_values.mp live
  exact missing (fenced id v found revoked)

end

end Ngfw.Engine

import Ngfw.Proof.Session.Destroyed
import Ngfw.Proof.Session.Quality

/-! # Expiry closes only sessions nothing has touched -/

namespace Ngfw.Session
open Lib Domain RuntimeStore

def observes [CaseMap] [Stdlib] (id : String) (s : RuntimeStore) : StoreOp → Option Time
  | .applyObserved record now clock =>
    if (s.applyObserved record now clock).2.toOption.any fun result => decide (result.1.sessionID = id) then
      some (observedAt now clock)
    else none
  | _ => none

def sightings [CaseMap] [Stdlib] (id : String) : RuntimeStore → List StoreOp → List Time
  | _, [] => []
  | s, op :: rest => (observes id s op).toList ++ sightings id (s.exec op) rest

def Redefers (v : RuntimeSession) : StoreOp → Prop
  | .deferExpired _ _ reason => v.quality.trackingStatus = .stale ∧ v.quality.reason = reason
  | _ => False

inductive Touches [CaseMap] [Stdlib] (id : String) (s : RuntimeStore) (op : StoreOp) (v : RuntimeSession)
    (after : RuntimeStore) : Prop
  | kept (unobserved : observes id s op = none) (same : after.byID.lookup id = some v)
      (timer : after.expiryRetryAfter.lookup id = s.expiryRetryAfter.lookup id ∨ Redefers v op)
  | rewritten {w : RuntimeSession} (unobserved : observes id s op = none) (put : after.byID.lookup id = some w)
      (seen : w.lastObservedAt = v.lastObservedAt) (counted : w.revision = v.revision + 1)
  | observed {w : RuntimeSession} (put : after.byID.lookup id = some w)
      (applied : observes id s op = some w.lastObservedAt)
  | gone (unobserved : observes id s op = none) (closed : after.byID.lookup id = none)

section
variable {s : RuntimeStore} {id : String} {v w : RuntimeSession} {now clock : Time}

theorem expiryRetryAfter_buryLocked (s : RuntimeStore) (id : String) (closed : RuntimeSession) (now : Time) :
    (s.buryLocked id closed now).expiryRetryAfter = s.expiryRetryAfter.erase id := rfl

theorem reconcile_touches (live : s.byID.lookup id = some v) (seen : List String) (before now : Time) (reason : String)
    (order : List String) :
    let swept := (order.foldl (reconcileOne seen before now reason) (s, [])).1
    swept.byID.lookup id = some v ∧ swept.expiryRetryAfter.lookup id = s.expiryRetryAfter.lookup id ∨
      swept.byID.lookup id = none := by
  refine List.foldlRecOn order _
    (motive := fun state : RuntimeStore × List RuntimeSession => state.1.byID.lookup id = some v ∧
      state.1.expiryRetryAfter.lookup id = s.expiryRetryAfter.lookup id ∨ state.1.byID.lookup id = none)
    (.inl ⟨live, rfl⟩) ?_
  intro state touched other _
  unfold reconcileOne
  split
  · exact touched
  · split
    · exact touched
    · dsimp only
      rw [byID_buryLocked, expiryRetryAfter_buryLocked]
      by_cases here : id = other
      · subst here
        exact .inr (AList.lookup_erase _ _)
      · rw [AList.lookup_erase_ne here, AList.lookup_erase_ne here]
        exact touched

variable [CaseMap] [Stdlib]

variable {steps : Nat} {reason other : String} {ops : List StoreOp} {after : RuntimeStore} {time : Time}
  {record : Record}

theorem touches_put {u : RuntimeSession}
    (unobserved : observes id s op = none) (live : s.byID.lookup id = some v) (found : s.byID.lookup other = some u)
    (put : after.byID = s.byID.insert other w) (timer : after.expiryRetryAfter = s.expiryRetryAfter)
    (seen : w.lastObservedAt = u.lastObservedAt) (counted : w.revision = u.revision + 1) :
    Touches id s op v after := by
  by_cases here : id = other
  · subst here
    obtain rfl : v = u := Option.some.inj (live.symm.trans found)
    exact .rewritten unobserved (by rw [put, AList.lookup_insert]) seen counted
  · exact .kept unobserved (by rw [put, AList.lookup_insert_ne here, live]) (.inl (by rw [timer]))

theorem touches_bury {closed : RuntimeSession}
    (unobserved : observes id s op = none) (live : s.byID.lookup id = some v)
    (byID : after.byID = (s.buryLocked other closed time).byID)
    (timer : after.expiryRetryAfter = (s.buryLocked other closed time).expiryRetryAfter) :
    Touches id s op v after := by
  rw [byID_buryLocked] at byID
  rw [expiryRetryAfter_buryLocked] at timer
  by_cases here : id = other
  · subst here
    exact .gone unobserved (by rw [byID, AList.lookup_erase])
  · exact .kept unobserved (by rw [byID, AList.lookup_erase_ne here, live])
      (.inl (by rw [timer, AList.lookup_erase_ne here]))

theorem touches_exec_other (indexed : Indexed s) (live : s.byID.lookup id = some v)
    (other : ∀ record now clock, op ≠ .applyObserved record now clock) : Touches id s op v (s.exec op) := by
  have unobserved : observes id s op = none := by
    cases op with
    | applyObserved record now clock => exact absurd rfl (other record now clock)
    | _ => rfl
  -- Deferring a session re-arms the expiry of that session alone.
  have elsewhere {candidate current : RuntimeSession} {time : Time}
      (found : s.byID.lookup candidate.sessionID = some current) (away : id ≠ candidate.sessionID) :
      (s.expiryRetryAfter.insert current.sessionID time).lookup id = s.expiryRetryAfter.lookup id :=
    AList.lookup_insert_ne ((indexed.filed _ _ found).named ▸ away)
  have operates := s.operates_exec op other
  generalize s.exec op = after at operates ⊢
  cases operates with
  | @put counted other old new count found rewrites =>
    have kept : new.lastObservedAt = old.lastObservedAt ∧ new.revision = old.revision + 1 := by
      cases rewrites <;> exact ⟨rfl, rfl⟩
    rcases count with rfl | rfl <;> exact touches_put unobserved live found rfl rfl kept.1 kept.2
  | close found closed now => exact touches_bury unobserved live rfl rfl
  | sweep seen before now reason clock order =>
    have swept := reconcile_touches live ((seen.map s.resolveIdentityLocked).filter (· ≠ ""))
      (if before = 0 then clock else before) (if now = 0 then clock else now) reason order
    simp only [reconcileMissing]
    generalize List.foldl _ _ order = state at swept ⊢
    split_ifs
    · rcases swept with ⟨same, timer⟩ | closed
      · exact .kept unobserved same (.inl timer)
      · exact .gone unobserved closed
    · rcases swept with ⟨same, timer⟩ | closed
      · exact .kept unobserved same (.inl timer)
      · exact .gone unobserved closed
  | @defer candidate current now reason same found again =>
    subst same
    by_cases here : id = candidate.sessionID
    · subst here
      obtain rfl : v = current := Option.some.inj (live.symm.trans found)
      exact .kept unobserved live (.inr again)
    · exact .kept unobserved live (.inl (elsewhere found here))
  | @stale candidate current now reason same found =>
    by_cases here : id = candidate.sessionID
    · subst here
      obtain rfl : v = current := Option.some.inj (live.symm.trans found)
      exact .rewritten unobserved (AList.lookup_insert _) rfl rfl
    · exact .kept unobserved ((AList.lookup_insert_ne here).trans live) (.inl (elsewhere found here))
  | idle | forget | trim => exact .kept unobserved live (.inl rfl)

omit [Stdlib] in
theorem expiryRetryAfter_mergeInto (s : RuntimeStore) (id : String) (v : RuntimeSession) (r : Record) (now : Time) :
    (s.mergeInto id v r now).1.expiryRetryAfter = s.expiryRetryAfter.erase v.sessionID := by
  unfold mergeInto mergeLocked
  dsimp only
  rw [rememberIdentityLocked_rest]
  dsimp only
  rw [mergeReply_rest]
  dsimp only
  rw [rememberIdentityLocked_rest]

theorem expiryRetryAfter_createLocked (s : RuntimeStore) (record : Record) (now clock : Time) :
    (s.createLocked record now clock).1.expiryRetryAfter = s.expiryRetryAfter := by
  unfold createLocked
  split_ifs
  · rfl
  · dsimp only [indexLocked, removeTupleIndexesLocked]
    rw [rememberIdentityLocked_rest]

theorem observes_applyObserved {result : RuntimeSession × Bool × Bool}
    (reported : (s.applyObserved record now clock).2 = .ok result) (id : String) :
    observes id s (.applyObserved record now clock) =
      if result.1.sessionID = id then some (observedAt now clock) else none := by
  simp [observes, reported, Except.toOption]

theorem observes_of_error {failure : StoreError}
    (refused : (s.applyObserved record now clock).2 = .error failure) (id : String) :
    observes id s (.applyObserved record now clock) = none := by
  simp [observes, refused, Except.toOption]

theorem applyObserved_put (indexed : Indexed s) (record : Record) (now clock : Time) :
    (∃ failure, (s.applyObserved record now clock).2 = .error failure ∧
      (s.applyObserved record now clock).1.byID = s.byID ∧
      (s.applyObserved record now clock).1.expiryRetryAfter = s.expiryRetryAfter) ∨
    ∃ other w created changed, (s.applyObserved record now clock).2 = .ok (w, created, changed) ∧
      w.sessionID = other ∧ w.lastObservedAt = observedAt now clock ∧
      (s.applyObserved record now clock).1.byID = s.byID.insert other w ∧
      ∀ id ≠ other, (s.applyObserved record now clock).1.expiryRetryAfter.lookup id =
        s.expiryRetryAfter.lookup id := by
  rcases s.applyObserved_cases record now clock with
    ⟨failure, refused⟩ | ⟨valid, ⟨other, u, target, merges⟩ | ⟨starts, creates⟩⟩
  · rw [refused]
    exact .inl ⟨failure, rfl, rfl, rfl⟩
  · have named := (indexed.filed other u (mergeTarget_live target)).named
    have timer := expiryRetryAfter_mergeInto s other u (completeRecord record)
      (observedAt now clock)
    rw [merges]
    refine .inr ⟨other, _, false, _, rfl, ?_, ?_, ?_, ?_⟩
    · have same := core_mergeLocked
        (s.rememberIdentityLocked other (completeRecord record).identity) other u
        (completeRecord record) (observedAt now clock)
      exact (congrArg Core.sessionID same).trans ((withReply_keeps _ u).1.trans named)
    · exact (keepsKnowledge_mergeLocked _ _ _ _ _).lastObservedAt
    · exact byID_mergeInto _ _ _ _ _
    · intro id differs
      rw [timer, named, AList.lookup_erase_ne differs]
  · have timer := expiryRetryAfter_createLocked s (completeRecord record)
      (observedAt now clock) clock
    rw [creates]
    by_cases full : s.limits.maxSessions ≤ s.byID.keys.length
    · unfold createLocked
      rw [if_pos full]
      exact .inl ⟨_, rfl, rfl, rfl⟩
    · obtain ⟨w, reported, started⟩ := started_createLocked s record (observedAt now clock) clock full
      refine .inr ⟨_, w, true, true, reported, congrArg Core.sessionID started.fresh, ?_, started.byID, ?_⟩
      · rw [started.session]
        exact congrArg Sighting.lastObservedAt (sighting_indexLocked _ _)
      · intro id _
        rw [timer]

theorem touches_exec (indexed : Indexed s) (live : s.byID.lookup id = some v) (op : StoreOp) :
    Touches id s op v (s.exec op) := by
  rcases op.observed_or with ⟨record, now, clock, rfl⟩ | applies
  · rw [exec]
    rcases applyObserved_put indexed record now clock with
      ⟨failure, refused, byID, timer⟩ | ⟨other, w, created, changed, reported, named, seen, put, timer⟩
    · exact .kept (observes_of_error refused id) (by rw [byID, live]) (.inl (by rw [timer]))
    · have observed := observes_applyObserved reported id
      by_cases here : id = other
      · subst here
        rw [if_pos named] at observed
        exact .observed (by rw [put, AList.lookup_insert]) (by rw [observed, seen])
      · rw [if_neg (fun same => here (same.symm.trans named))] at observed
        exact .kept observed (by rw [put, AList.lookup_insert_ne here, live]) (.inl (timer id here))
  · exact touches_exec_other indexed live applies

theorem observes_of_absent (indexed : Indexed s) (absent : s.byID.lookup id = none) (op : StoreOp)
    (live : (s.exec op).byID.lookup id = some w) : observes id s op = some w.lastObservedAt := by
  rcases op.observed_or with ⟨record, now, clock, rfl⟩ | applies
  · rw [exec] at live
    rcases applyObserved_put indexed record now clock with
      ⟨failure, refused, byID, timer⟩ | ⟨other, u, created, changed, reported, named, seen, put, timer⟩
    · rw [byID, absent] at live
      cases live
    · rw [put] at live
      rcases GoMap.lookup_of_lookup_insert live with ⟨rfl, rfl⟩ | ⟨_, before⟩
      · rw [observes_applyObserved reported, if_pos named, seen]
      · rw [absent] at before
        cases before
  · obtain ⟨u, before, _⟩ := (Changes.shrinks (Changes.exec s op applies)).sessions id w live
    rw [absent] at before
    cases before

/-! ## Runs -/

def Unmoved (candidate : RuntimeSession) (s : RuntimeStore) : Prop :=
  s.byID.lookup candidate.sessionID = some candidate

def Moved (candidate : RuntimeSession) (steps : Nat) (s : RuntimeStore) : Prop :=
  ∀ v, s.byID.lookup candidate.sessionID = some v → candidate.lastObservedAt < v.lastObservedAt ∨
    v.lastObservedAt = candidate.lastObservedAt ∧
      ∃ count, 0 < count ∧ count ≤ steps ∧ v.revision = candidate.revision + UInt64.ofNat count

variable {candidate : RuntimeSession} {op : StoreOp}

theorem Moved.exec (moved : Moved candidate steps s) (indexed : Indexed s) (op : StoreOp)
    (later : ∀ time, observes candidate.sessionID s op = some time → candidate.lastObservedAt < time) :
    Moved candidate (steps + 1) (s.exec op) := by
  intro w live
  cases before : s.byID.lookup candidate.sessionID with
  | none => exact .inl (later _ (observes_of_absent indexed before op live))
  | some v =>
    cases touches_exec indexed before op with
    | kept _ same _ =>
      obtain rfl : v = w := Option.some.inj (same.symm.trans live)
      rcases moved v before with seen | ⟨same, count, positive, bound, revision⟩
      · exact .inl seen
      · exact .inr ⟨same, count, positive, by omega, revision⟩
    | @rewritten u _ put seen counted =>
      obtain rfl : u = w := Option.some.inj (put.symm.trans live)
      rw [seen, counted]
      rcases moved v before with later | ⟨same, count, positive, bound, revision⟩
      · exact .inl later
      · refine .inr ⟨same, count + 1, by omega, by omega, ?_⟩
        rw [revision, UInt64.ofNat_add, UInt64.add_assoc]
        rfl
    | @observed u put applied =>
      obtain rfl : u = w := Option.some.inj (put.symm.trans live)
      exact .inl (later _ applied)
    | gone _ closed =>
      rw [closed] at live
      cases live

theorem Unmoved.exec (unmoved : Unmoved candidate s) (indexed : Indexed s) (op : StoreOp)
    (later : ∀ time, observes candidate.sessionID s op = some time → candidate.lastObservedAt < time) :
    Unmoved candidate (s.exec op) ∧ observes candidate.sessionID s op = none ∧
      ((s.exec op).expiryRetryAfter.lookup candidate.sessionID =
        s.expiryRetryAfter.lookup candidate.sessionID ∨ Redefers candidate op) ∨
    Moved candidate 1 (s.exec op) := by
  cases touches_exec indexed unmoved op with
  | kept unobserved same timer => exact .inl ⟨same, unobserved, timer⟩
  | @rewritten u _ put seen counted =>
    refine .inr fun w live => .inr ?_
    obtain rfl : u = w := Option.some.inj (put.symm.trans live)
    exact ⟨seen, 1, by omega, by omega, counted⟩
  | @observed u put applied =>
    refine .inr fun w live => .inl ?_
    obtain rfl : u = w := Option.some.inj (put.symm.trans live)
    exact later _ applied
  | gone _ closed =>
    refine .inr fun w live => ?_
    rw [closed] at live
    cases live

omit [CaseMap] [Stdlib] in
theorem Moved.mono {more : Nat} (moved : Moved candidate steps s) (bound : steps ≤ more) :
    Moved candidate more s := by
  intro v live
  rcases moved v live with seen | ⟨same, count, positive, few, revision⟩
  · exact .inl seen
  · exact .inr ⟨same, count, positive, by omega, revision⟩

theorem Moved.run (moved : Moved candidate steps s) (indexed : Indexed s) (ops : List StoreOp)
    (later : ∀ time ∈ sightings candidate.sessionID s ops, candidate.lastObservedAt < time) :
    Moved candidate (steps + ops.length) (ops.foldl RuntimeStore.exec s) := by
  induction ops generalizing s steps with
  | nil => exact moved
  | cons op rest ih =>
    simp only [sightings, List.mem_append, Option.mem_toList] at later
    have next := moved.exec indexed op fun time seen => later time (.inl seen)
    have last := ih next (indexed.exec op) fun time seen => later time (.inr seen)
    rw [List.length_cons, Nat.add_comm rest.length, ← Nat.add_assoc]
    exact last

theorem Unmoved.run (unmoved : Unmoved candidate s) (indexed : Indexed s) (ops : List StoreOp)
    (later : ∀ time ∈ sightings candidate.sessionID s ops, candidate.lastObservedAt < time) :
    Unmoved candidate (ops.foldl RuntimeStore.exec s) ∨
      Moved candidate ops.length (ops.foldl RuntimeStore.exec s) := by
  induction ops generalizing s with
  | nil => exact .inl unmoved
  | cons op rest ih =>
    simp only [sightings, List.mem_append, Option.mem_toList] at later
    rcases unmoved.exec indexed op fun time seen => later time (.inl seen) with ⟨same, _⟩ | moved
    · rcases ih same (indexed.exec op) fun time seen => later time (.inr seen) with last | moved
      · exact .inl last
      · exact .inr (moved.mono (by rw [List.length_cons]; omega))
    · refine .inr ?_
      rw [List.length_cons, Nat.add_comm]
      exact moved.run (indexed.exec op) rest fun time seen => later time (.inr seen)

theorem sightings_append (id : String) (s : RuntimeStore) (first second : List StoreOp) :
    sightings id s (first ++ second) = sightings id s first ++ sightings id (first.foldl exec s) second := by
  induction first generalizing s with
  | nil => rfl
  | cons op rest ih => rw [List.cons_append, sightings, sightings, ih, List.append_assoc, List.foldl_cons]

omit [CaseMap] [Stdlib] in
theorem not_moved (moved : Moved candidate steps s) (few : steps < 2 ^ 64)
    (live : s.byID.lookup candidate.sessionID = some v) (revision : v.revision = candidate.revision)
    (seen : v.lastObservedAt = candidate.lastObservedAt) : False := by
  rcases moved v live with later | ⟨_, count, positive, bound, counted⟩
  · rw [seen] at later
    exact lt_irrefl _ later
  · rw [revision] at counted
    have zero : UInt64.ofNat count = 0 := by
      have same := congrArg (· - candidate.revision) counted
      simpa [UInt64.add_comm candidate.revision] using same.symm
    have remainder : count % 2 ^ 64 = 0 := by
      simpa using congrArg UInt64.toNat zero
    omega

omit [CaseMap] [Stdlib] in
theorem current_of_success (succeeds : (s.closeVerifiedExpired candidate now).2.isSome ∨
      (s.deferExpired candidate now reason).2 = true) :
    ∃ v, s.byID.lookup candidate.sessionID = some v ∧ v.revision = candidate.revision ∧
      v.lastObservedAt = candidate.lastObservedAt := by
  have found : ∃ v, s.expiryCandidateLocked candidate now = some v := by
    unfold closeVerifiedExpired deferExpired at succeeds
    cases current : s.expiryCandidateLocked candidate now with
    | none => simp [current] at succeeds
    | some v => exact ⟨v, rfl⟩
  obtain ⟨v, current⟩ := found
  obtain ⟨live, same⟩ := Option.filter_eq_some_iff.mp current
  have same := of_decide_eq_true same
  exact ⟨v, live, same.2.1, same.2.2.1⟩

omit [CaseMap] [Stdlib] in
theorem unmoved_of_candidate (indexed : Indexed s) {first : RuntimeStore} {budget : Int}
    (snapshot : candidate ∈ (expiredCandidates first s now budget).1) : Unmoved candidate s := by
  have listed := List.mem_of_mem_take snapshot
  obtain ⟨entry, _, found⟩ := List.mem_filterMap.mp listed
  have live := (Option.filter_eq_some_iff.mp found).1
  rw [Unmoved, (indexed.filed _ _ live).named, live]

/-- An operation leaves the session of a snapshot exactly as it is: it merges no record into it, rewrites nothing of it,
and re-arms its expiry only by deferring it once more for the same reason. -/
structure Untouched (candidate : RuntimeSession) (s : RuntimeStore) (op : StoreOp) : Prop where
  before : s.byID.lookup candidate.sessionID = some candidate
  after : (s.exec op).byID.lookup candidate.sessionID = some candidate
  unobserved : observes candidate.sessionID s op = none
  timer : (s.exec op).expiryRetryAfter.lookup candidate.sessionID = s.expiryRetryAfter.lookup candidate.sessionID ∨
    Redefers candidate op

theorem untouched_of_success (indexed : Indexed s) (unmoved : Unmoved candidate s) {before after : List StoreOp}
    (later : ∀ time ∈ sightings candidate.sessionID s (before ++ op :: after), candidate.lastObservedAt < time)
    (few : (before ++ op :: after).length < 2 ^ 64)
    (succeeds : (((before ++ op :: after).foldl RuntimeStore.exec s).closeVerifiedExpired candidate now).2.isSome ∨
      (((before ++ op :: after).foldl RuntimeStore.exec s).deferExpired candidate now reason).2 = true) :
    Untouched candidate (before.foldl RuntimeStore.exec s) op := by
  obtain ⟨v, live, revision, seen⟩ := current_of_success succeeds
  have stays {steps : Nat} (moved : Moved candidate steps ((before ++ op :: after).foldl RuntimeStore.exec s))
      (bound : steps ≤ (before ++ op :: after).length) : False :=
    not_moved (moved.mono bound) few live revision seen
  rw [List.foldl_append, List.foldl_cons] at stays
  rw [List.length_append, List.length_cons] at stays
  simp only [sightings_append, sightings, List.mem_append, Option.mem_toList] at later
  have indexedThere : Indexed (before.foldl RuntimeStore.exec s) := indexed.run before
  rcases unmoved.run indexed before fun time member => later time (.inl member) with there | moved
  · rcases there.exec indexedThere op fun time member => later time (.inr (.inl member)) with
      ⟨same, unobserved, timer⟩ | moved
    · exact ⟨there, same, unobserved, timer⟩
    · have last := moved.run (indexedThere.exec op) after fun time member => later time (.inr (.inr member))
      exact (stays last (by omega)).elim
  · have last := moved.run indexedThere (op :: after) fun time member => later time (.inr (by
      simpa [sightings] using member))
    rw [List.foldl_cons, List.length_cons] at last
    exact (stays last (by omega)).elim

theorem invalidated_run (live : s.byID.lookup id = some v) (count : Nat) :
    sightings id s (.replicate count (.invalidate id 0 "" 0)) = [] ∧
      ∃ w, ((List.replicate count (.invalidate id 0 "" 0)).foldl exec s).byID.lookup id = some w ∧
        w.revision = v.revision + .ofNat count ∧ w.identity = v.identity ∧ w.lastObservedAt = v.lastObservedAt ∧
        w.expiresAt = v.expiresAt := by
  induction count generalizing s v with
  | zero => exact ⟨rfl, v, live, (UInt64.add_zero _).symm, rfl, rfl, rfl⟩
  | succ count ih =>
    have next : (s.exec (.invalidate id 0 "" 0)).byID.lookup id = some (invalidateSession v 0 "" 0) := by
      simp only [exec, invalidate, live]
      exact AList.lookup_insert _
    obtain ⟨unseen, w, held, revision, same⟩ := ih next
    refine ⟨unseen, w, held, ?_, same⟩
    rw [revision, invalidateSession, UInt64.add_assoc, Nat.add_comm, UInt64.ofNat_add]
    rfl

/-! ## Complete dumps -/

theorem unseen_run (indexed : Indexed s) (unseen : sightings id s ops = [])
    (live : (ops.foldl exec s).byID.lookup id = some w) :
    ∃ v, s.byID.lookup id = some v ∧ w.lastObservedAt = v.lastObservedAt := by
  induction ops generalizing s with
  | nil => exact ⟨w, live, rfl⟩
  | cons op rest ih =>
    obtain ⟨first, others⟩ := List.append_eq_nil_iff.mp unseen
    have unobserved : observes id s op = none := by simpa using first
    obtain ⟨u, next, same⟩ := ih (indexed.exec op) others live
    cases before : s.byID.lookup id with
    | none =>
      rw [observes_of_absent indexed before op next] at unobserved
      cases unobserved
    | some v =>
      refine ⟨v, rfl, ?_⟩
      cases touches_exec indexed before op with
      | kept _ kept _ =>
        obtain rfl : v = u := Option.some.inj (kept.symm.trans next)
        exact same
      | @rewritten x _ put seen _ =>
        obtain rfl : x = u := Option.some.inj (put.symm.trans next)
        exact same.trans seen
      | observed put applied =>
        rw [applied] at unobserved
        cases unobserved
      | gone _ closed =>
        rw [closed] at next
        cases next

theorem lastObservedAt_of_observes (indexed : Indexed s) (applied : observes id s op = some time)
    (live : (s.exec op).byID.lookup id = some w) : w.lastObservedAt = time := by
  cases before : s.byID.lookup id with
  | none => exact Option.some.inj ((observes_of_absent indexed before op live).symm.trans applied)
  | some v =>
    cases touches_exec indexed before op with
    | kept unobserved => cases unobserved.symm.trans applied
    | rewritten unobserved => cases unobserved.symm.trans applied
    | gone unobserved => cases unobserved.symm.trans applied
    | @observed u put seen =>
      obtain rfl : u = w := Option.some.inj (put.symm.trans live)
      exact Option.some.inj (seen.symm.trans applied)

theorem seen_run (indexed : Indexed s) (ordered : (sightings id s ops).Pairwise (· < ·))
    (live : (ops.foldl exec s).byID.lookup id = some w) :
    ∀ time ∈ sightings id s ops, time ≤ w.lastObservedAt := by
  induction ops generalizing s with
  | nil => simp [sightings]
  | cons op rest ih =>
    intro time seen
    rw [sightings] at ordered seen
    obtain ⟨_, restOrdered, first⟩ := List.pairwise_append.mp ordered
    have further := ih (indexed.exec op) restOrdered live
    rcases List.mem_append.mp seen with here | later
    · cases others : sightings id (s.exec op) rest with
      | nil =>
        obtain ⟨u, next, same⟩ := unseen_run (indexed.exec op) others live
        rw [same, lastObservedAt_of_observes indexed (Option.mem_toList.mp here) next]
      | cons next more =>
        rw [others] at first further
        exact le_trans (first time here next List.mem_cons_self).le (further next List.mem_cons_self)
    · exact further time later

omit [CaseMap] [Stdlib] in
theorem reconcile_closes (named : s.byID.All fun id v => v.sessionID = id) (seen : List String) (before now : Time)
    (reason : String) (order : List String) :
    ∀ v ∈ (order.foldl (reconcileOne seen before now reason) (s, [])).2,
      ∃ u, s.byID.lookup v.sessionID = some u ∧ v.sessionID ∉ seen ∧ v.lastObservedAt = u.lastObservedAt ∧
        u.lastObservedAt ≤ before := by
  refine (List.foldlRecOn order _ (b := (s, []))
    (motive := fun state : RuntimeStore × List RuntimeSession =>
      (∀ id u, state.1.byID.lookup id = some u → s.byID.lookup id = some u) ∧
      ∀ v ∈ state.2, ∃ u, s.byID.lookup v.sessionID = some u ∧ v.sessionID ∉ seen ∧
        v.lastObservedAt = u.lastObservedAt ∧ u.lastObservedAt ≤ before) ⟨fun _ _ found => found, by simp⟩ ?_).2
  intro state holds id _
  obtain ⟨inside, closed⟩ := holds
  unfold reconcileOne
  split
  · exact ⟨inside, closed⟩
  · rename_i u found
    split
    · exact ⟨inside, closed⟩
    · rename_i spared
      rw [not_or, not_lt] at spared
      have live := inside id u found
      refine ⟨fun other w left => inside other w (GoMap.lookup_of_lookup_erase left).1, fun v member => ?_⟩
      rcases List.mem_append.mp member with earlier | last
      · exact closed v earlier
      · rw [List.mem_singleton.mp last]
        dsimp only
        rw [named id u live]
        exact ⟨u, live, spared.1, rfl, spared.2⟩

omit [CaseMap] [Stdlib] in
theorem reconcileMissing_removed (s : RuntimeStore) (seen : List ConntrackIdentity) (before now : Time)
    (reason : String) (clock : Time) (order : List String) :
    (s.reconcileMissing seen before now reason clock order).2 =
      (order.foldl (reconcileOne ((seen.map s.resolveIdentityLocked).filter (· ≠ ""))
        (observedAt before clock) (observedAt now clock) reason) (s, [])).2 := by
  unfold reconcileMissing observedAt
  dsimp only
  generalize List.foldl _ _ order = swept
  split
  · rfl
  · rfl

structure Unreported (dump : List Record) (begun : Time) (s : RuntimeStore) (ops : List StoreOp)
    (v : RuntimeSession) : Prop where
  unapplied : ∀ before record now clock after, ops = before ++ .applyObserved record now clock :: after →
    record ∈ dump → observes v.sessionID (before.foldl exec s) (.applyObserved record now clock) = none
  unresolved : ∀ record ∈ dump,
    (ops.foldl exec s).resolveIdentityLocked record.identity ≠ v.sessionID
  unseen : ∀ time ∈ sightings v.sessionID s ops, time ≤ begun
  last : v.lastObservedAt ≤ begun

theorem unreported_of_reconciled (addressed : Addressed s) {dump : List Record} {started : Time} {order : List String}
    (ordered : (sightings v.sessionID s ops).Pairwise (· < ·))
    (applied : ∀ before record now wall after, ops = before ++ .applyObserved record now wall :: after →
      record ∈ dump → observedAt started clock < observedAt now wall)
    (closed : v ∈ ((ops.foldl exec s).reconcileMissing (dump.map (·.identity)) started now reason clock
      order).2) : Unreported dump (observedAt started clock) s ops v := by
  have indexed := addressed.indexed.run ops
  have named : (ops.foldl exec s).byID.All fun id v => v.sessionID = id :=
    indexed.filed.imp fun _ _ filed => filed.named
  rw [reconcileMissing_removed] at closed
  obtain ⟨u, live, notSeen, same, early⟩ := reconcile_closes named _ _ _ _ _ v closed
  have unseen : ∀ time ∈ sightings v.sessionID s ops, time ≤ observedAt started clock :=
    fun time member => le_trans (seen_run addressed.indexed ordered live time member) early
  refine ⟨?_, ?_, unseen, same ▸ early⟩
  · intro before record moment wall after split member
    have late := applied before record moment wall after split member
    cases observed : observes v.sessionID (before.foldl exec s) (.applyObserved record moment wall) with
    | none => rfl
    | some time =>
      have listed : time ∈ sightings v.sessionID s ops := by
        rw [split, sightings_append, sightings, observed]
        simp
      have there : time = observedAt moment wall := by
        simp only [observes] at observed
        split_ifs at observed
        exact (Option.some.inj observed).symm
      exact absurd (unseen time listed) (by rw [there]; exact not_le.mpr late)
  · intro record member resolved
    apply notSeen
    rw [List.mem_filter]
    refine ⟨List.mem_map.mpr ⟨record.identity, List.mem_map.mpr ⟨record, member, rfl⟩, resolved⟩, ?_⟩
    have named : v.sessionID ≠ "" := fun empty =>
      (addressed.run ops).named (empty ▸ GoMap.mem_of_lookup live)
    simpa using named

end

theorem expiry_closes_untouched [CaseMap] [Stdlib] (s : RuntimeStore)
    (reached : Reachable NewStore (fun _ _ => True) exec s) (ops : List StoreOp) :
    (∀ first checked budget candidate now reason,
      candidate ∈ (expiredCandidates first s checked budget).1 →
      (candidate.lastObservedAt :: sightings candidate.sessionID s ops).Pairwise (· < ·) → ops.length < 2 ^ 64 →
      (((ops.foldl exec s).closeVerifiedExpired candidate now).2.isSome ∨
        ((ops.foldl exec s).deferExpired candidate now reason).2 = true) →
      ∀ before op after, ops = before ++ op :: after →
        Untouched candidate (before.foldl exec s) op) ∧
    ∀ dump started now reason clock order v,
      v ∈ ((ops.foldl exec s).reconcileMissing (dump.map Record.identity) started now reason clock order).2 →
      (sightings v.sessionID s ops).Pairwise (· < ·) →
      (∀ before record moment wall after, ops = before ++ .applyObserved record moment wall :: after →
        record ∈ dump → observedAt started clock < observedAt moment wall) →
      Unreported dump (observedAt started clock) s ops v := by
  have addressed := addressed_of_reachable reached
  constructor
  · intro first checked budget candidate now reason snapshot ordered few succeeds before op after split
    subst split
    exact untouched_of_success addressed.indexed (unmoved_of_candidate addressed.indexed snapshot)
      (List.pairwise_cons.mp ordered).1 few succeeds
  · intro dump started now reason clock order v closed ordered applied
    exact unreported_of_reconciled addressed ordered applied closed

section
attribute [local instance] Text.asciiCaseMap natStdlib

def timedRecord : Record :=
  { partialRecord natTuple 7 90 none with
    timeout := 10 * second, presence := { originalTuple := true, id := true, timestamp := true, timeout := true } }

def timedStore : RuntimeStore :=
  natStore.exec (.applyObserved timedRecord second second)

def timedCandidates : List RuntimeSession :=
  (timedStore.expiredCandidates timedStore (20 * second) 32).1

theorem timedStore_reached : Reachable NewStore (fun _ _ => True) exec timedStore :=
  .next _ (.start ⟨_, rfl⟩) trivial

def otherRecord : Record :=
  partialRecord natReply 8 0 none

theorem expiry_closes_untouched_nat :
    (∃ candidate ∈ timedCandidates,
      ((timedStore.exec (.pruneClosed 0)).closeVerifiedExpired candidate (21 * second)).2.isSome ∧
        Untouched candidate timedStore (.pruneClosed 0)) ∧
    ∃ v ∈ ((timedStore.exec (.applyObserved otherRecord (6 * second) second)).reconcileMissing
        [otherRecord.identity] (5 * second) (7 * second) "" second timedStore.byID.keys).2,
      Unreported [otherRecord] (observedAt (5 * second) second) timedStore
        [.applyObserved otherRecord (6 * second) second] v := by
  obtain ⟨v, closed, alone⟩ :
      ∃ v ∈ ((timedStore.exec (.applyObserved otherRecord (6 * second) second)).reconcileMissing
          [otherRecord.identity] (5 * second) (7 * second) "" second timedStore.byID.keys).2,
        (sightings v.sessionID timedStore [.applyObserved otherRecord (6 * second) second]).Pairwise (· < ·) := by
    decide +kernel
  have reconciled := (expiry_closes_untouched timedStore timedStore_reached
    [.applyObserved otherRecord (6 * second) second]).2 [otherRecord] (5 * second) (7 * second) "" second
    timedStore.byID.keys v closed alone fun before record moment wall after split _ => by
      have member : StoreOp.applyObserved record moment wall ∈
          [.applyObserved otherRecord (6 * second) second] := by simp [split]
      cases List.mem_singleton.mp member
      decide
  refine ⟨?_, v, closed, reconciled⟩
  obtain ⟨candidate, snapshot, ordered, closes⟩ :
      ∃ candidate ∈ timedCandidates,
        (candidate.lastObservedAt :: sightings candidate.sessionID timedStore [.pruneClosed 0]).Pairwise (· < ·) ∧
        ((timedStore.exec (.pruneClosed 0)).closeVerifiedExpired candidate (21 * second)).2.isSome := by
    decide +kernel
  exact ⟨candidate, snapshot, closes, (expiry_closes_untouched timedStore timedStore_reached [.pruneClosed 0]).1
    timedStore (20 * second) 32 candidate (21 * second) "" snapshot ordered (by decide) (.inl closes) [] _ [] rfl⟩

def unverified : String :=
  "conntrack expiry verification unavailable"

def deferredStore : RuntimeStore :=
  (timedCandidates.map fun candidate => StoreOp.deferExpired candidate (20 * second) unverified).foldl exec timedStore

def restarted : List StoreOp :=
  [.close timedRecord.identity "" (2 * second) second, .pruneClosed (1000 * second),
    .applyObserved timedRecord second second]

/-- An older snapshot still closes a session that was deferred again for the same reason, started again at the time it
was last seen at, or changed so often that its revision is the old one. -/
theorem redeferred_session_closed : Reachable NewStore (fun _ _ => True) exec deferredStore ∧
    (∃ candidate ∈ (deferredStore.expiredCandidates deferredStore (60 * second) 32).1,
      ((deferredStore.exec (.deferExpired candidate (60 * second) unverified)).expiryRetryAfter.lookup
          candidate.sessionID ≠ deferredStore.expiryRetryAfter.lookup candidate.sessionID) ∧
      ((deferredStore.exec (.deferExpired candidate (60 * second) unverified)).closeVerifiedExpired candidate
        (61 * second)).2.isSome) ∧
    Reachable NewStore (fun _ _ => True) exec timedStore ∧
    ∃ candidate ∈ timedCandidates,
      (candidate.lastObservedAt = second ∧ sightings candidate.sessionID timedStore restarted = [second] ∧
        ((restarted.foldl exec timedStore).closeVerifiedExpired candidate (21 * second)).2.isSome) ∧
      ∃ ops, ops.length = 2 ^ 64 ∧ sightings candidate.sessionID timedStore ops = [] ∧
        .invalidate candidate.sessionID 0 "" 0 ∈ ops ∧
        ((ops.foldl exec timedStore).closeVerifiedExpired candidate (21 * second)).2.isSome := by
  refine ⟨timedStore_reached.run (allowed_of_forall (fun _ _ => trivial) _ _), by decide +kernel,
    timedStore_reached, ?_⟩
  obtain ⟨candidate, snapshot, again, live, deadline⟩ :
      ∃ candidate ∈ timedCandidates,
        (candidate.lastObservedAt = second ∧ sightings candidate.sessionID timedStore restarted = [second] ∧
          ((restarted.foldl exec timedStore).closeVerifiedExpired candidate (21 * second)).2.isSome) ∧
        timedStore.byID.lookup candidate.sessionID = some candidate ∧
          candidate.expiresAt.any (fun deadline => decide (deadline ≤ 21 * second)) = true := by decide +kernel
  obtain ⟨count, size, zero⟩ : ∃ count, count = 2 ^ 64 ∧ UInt64.ofNat count = 0 := ⟨_, rfl, by decide⟩
  obtain ⟨unseen, w, held, revision, identity, seen, expires⟩ := invalidated_run live count
  refine ⟨candidate, snapshot, again, _, List.length_replicate.trans size, unseen, ?_, ?_⟩
  · exact List.mem_replicate.mpr ⟨fun none => by simp [size] at none, rfl⟩
  · have same : w.revision = candidate.revision := by
      rw [revision, zero, UInt64.add_zero]
    simp [closeVerifiedExpired, expiryCandidateLocked, Option.filter_some, held, same, identity, seen, expires,
      deadline]

end

end Ngfw.Session

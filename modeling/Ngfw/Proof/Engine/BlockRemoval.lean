import Ngfw.Proof.Engine.GenerationFence

/-!
# Sessions of a source that is no longer blocked

When the entry of a source goes, the call that took it decides the sessions of the source anew. A session that still
shows the block verdict is one that such a call has yet to reach, unless an evaluation that saw the entry publishes
after it has gone, or the entry is one whose guard failed.
-/

namespace Ngfw.Engine
open Lib Lib.Text Lib.Netip Domain Session Connectivity
open Section (exec)

def BlockVerdict (v : RuntimeSession) : Prop :=
  v.cacheState = .cached ∧ v.decision = .drop ∧ v.matchedPolicyID = "" ∧ v.decisionReason = blockReason

instance (v : RuntimeSession) : Decidable (BlockVerdict v) :=
  inferInstanceAs (Decidable (_ ∧ _ ∧ _ ∧ _))

/-- No session of the forward path shows a block verdict whose source has no entry in the block table. -/
def BlocksExplained (s : Shared) : Prop :=
  ∀ id v, s.live.lookup id = some v → v.revoked = false → isLocal v = false → s.runtime.isBlocked v = false →
    ¬BlockVerdict v

def Section.Releases (v : RuntimeSession) : Section → Prop
  | .listSource indicator _ _ => indicator = v.originalTuple.srcIP.string
  | .invalidateGeneration current _ => current.sessionID = v.sessionID
  | .invalidate current _ _ => current.sessionID = v.sessionID
  | _ => False

structure Releasing (t : RuntimeThreads) : Prop where
  keyed : ∀ id v, t.state.live.lookup id = some v → v.sessionID = id
  reaches : ∀ id v, t.state.live.lookup id = some v → v.revoked = false → t.state.runtime.isBlocked v = false →
    BlockVerdict v → ∃ step ∈ t.pending, step.Releases v

/-- A block verdict is published while the source has an entry, an entry whose guard failed is taken back before a
session shows its verdict, and a record starts no session under the ID of a live one. -/
def Section.settled [Stdlib] (s : Shared) (input : SectionInput) : Section → Bool
  | .publishBlock id _ => (s.live.lookup id).all s.runtime.isBlocked
  | .undoBlock block => ∀ v ∈ s.live.values, v.originalTuple.srcIP.string = block.indicator → ¬BlockVerdict v
  | .applyObserved record _ _ => s.runtime.store.startedID record input.clock ∉ s.live
  | _ => true

def RunsSettled [Stdlib] (t : RuntimeThreads) : RuntimeMove → Prop
  | .start _ => True
  | .run index input => (t.next index).all (·.settled t.state input) = true

instance [Stdlib] (t : RuntimeThreads) : ∀ move, Decidable (RunsSettled t move)
  | .start _ => .isTrue trivial
  | .run _ _ => inferInstanceAs (Decidable (_ = true))

section
variable {v w : RuntimeSession}

theorem lookup_eraseAll {Value : Type} (keys : List String) (map : GoMap String Value) (key : String) :
    (keys.foldl (fun map key => map.erase key) map).lookup key = if key ∈ keys then none else map.lookup key := by
  induction keys generalizing map with
  | nil => rfl
  | cons head rest ih =>
    rw [List.foldl_cons, ih]
    by_cases here : key = head
    · subst here
      simp
    · simp [here]

theorem blocks_publish (s : Shared) (id : String) (set : RuntimeStore × Except StoreError RuntimeSession)
    (basis : Basis) : (s.publish id set basis).runtime.blocks = s.runtime.blocks := by
  unfold Shared.publish
  split <;> rfl

theorem Section.Releases.congr {step : Section} (sessionID : w.sessionID = v.sessionID)
    (tuple : w.originalTuple = v.originalTuple) (releases : step.Releases v) : step.Releases w := by
  cases step with
  | listSource indicator reason skipRevoked =>
    have named : indicator = v.originalTuple.srcIP.string := releases
    exact named.trans (by rw [tuple])
  | invalidateGeneration | invalidate => exact releases.trans sessionID.symm
  | _ => cases releases

theorem Releasing.new (new : NewThreads t) : Releasing t :=
  ⟨fun id v found => absurd found (new.absent id v), fun id v found => absurd found (new.absent id v)⟩

variable [CaseMap]

theorem evaluate_reason (program : Program) (view : View) : (program.evaluate view).reason ≠ blockReason := by
  unfold Program.evaluate
  split
  · rename_i rule _
    intro same
    have heads := congrArg (fun text => text.toList.head?) same
    simp [blockReason] at heads
  · split_ifs <;> simp [blockReason]

variable [Stdlib] {t after : RuntimeThreads} {first : Section} {input : SectionInput} {id : String}

theorem exec_blocks {s : Shared} {step : Section} {key : String} (present : (s.runtime.blocks.lookup key).isSome)
    (gone : (step.exec input s).1.runtime.blocks.lookup key = none) :
    (∃ reason, .listSource key reason true ∈ (step.exec input s).2) ∨
      ∃ block, step = .undoBlock block ∧ block.indicator = key := by
  have kept : (step.exec input s).1.runtime.blocks.lookup key ≠ s.runtime.blocks.lookup key := by
    intro same
    rw [← same, gone] at present
    cases present
  have idle : (step.exec input s).1.runtime.blocks ≠ s.runtime.blocks := fun same => kept (by rw [same])
  cases step with
  | addBlock block =>
    rcases exec_addBlock block input s with refused | ⟨entry, -, written⟩
    · rw [refused] at idle
      exact absurd rfl idle
    · rw [written] at gone kept
      by_cases here : key = entry.indicator
      · subst here
        simp only [Shared.setBlocks, Shared.setRuntime, AList.lookup_insert] at gone
        cases gone
      · exact absurd (AList.lookup_insert_ne here) kept
  | undoBlock block =>
    right
    refine ⟨block, rfl, ?_⟩
    by_contra elsewhere
    simp only [exec] at kept
    split at kept
    · exact kept (AList.lookup_erase_ne (Ne.symm elsewhere))
    · exact kept rfl
  | deleteBlock removed =>
    left
    by_cases here : key = removed
    · subst here
      exact ⟨_, List.mem_singleton.mpr rfl⟩
    · exact absurd (AList.lookup_erase_ne here) kept
  | sweep now =>
    left
    refine ⟨"temporary block expired", ?_⟩
    simp only [exec, Shared.setBlocks, Shared.setRuntime, lookup_eraseAll] at kept ⊢
    split_ifs at kept with expired
    · exact List.mem_append_right _ (List.mem_map_of_mem expired)
    · exact absurd rfl kept
  | publishBlock | publish => exact absurd (blocks_publish _ _ _ _) idle
  | get | activate | guardBlock | guardUnblock | guardExpired =>
    simp only [exec] at idle
    split at idle <;> exact absurd rfl idle
  | _ => exact absurd rfl idle

theorem releases_ran (ran : Threads.Ran exec t after first input)
    (found : t.state.live.lookup id = some v) (keyed : v.sessionID = id) (unrevoked : v.revoked = false)
    (reached : ∃ step ∈ t.pending, step.Releases v) :
    (∃ step ∈ after.pending, step.Releases v) ∨
      ∃ w, after.state.live.lookup id = some w ∧ w.cacheState ≠ .cached := by
  obtain ⟨step, waiting, releases⟩ := reached
  rcases ran.stays step waiting with rfl | stays
  swap
  · exact .inl ⟨step, stays, releases⟩
  cases step with
  | listSource indicator reason skipRevoked =>
    left
    refine ⟨.invalidateGeneration v reason, ran.fresh _ ?_, rfl⟩
    refine List.mem_map_of_mem (List.mem_filter.mpr ⟨mem_listSessions.mpr ⟨id, found⟩, ?_⟩)
    have named : indicator = v.originalTuple.srcIP.string := releases
    simp [unrevoked, named, equalFold]
  | invalidateGeneration current reason =>
    exact .inl ⟨_, ran.fresh _ (List.mem_singleton.mpr rfl), releases⟩
  | invalidate current generation reason =>
    right
    refine ⟨RuntimeStore.invalidateSession v generation reason input.clock, ?_,
      invalidateSession_uncached v generation reason input.clock⟩
    have named : current.sessionID = id := releases.trans keyed
    subst named
    rw [ran.state]
    simp only [exec, Shared.live, Shared.setStore, Shared.setRuntime, setStore_store, invalidate_spec found]
    exact AList.lookup_insert _
  | _ => cases releases

section
variable (releasing : Releasing t) (ran : Threads.Ran exec t after first input)
  (settled : first.settled t.state input)
include releasing ran settled

theorem Releasing.follows (found : t.state.live.lookup id = some v)
    (held : after.state.live.lookup id = some w) (sessionID : w.sessionID = v.sessionID)
    (tuple : w.originalTuple = v.originalTuple) (unrevoked : v.revoked = false) (cached : w.cacheState = .cached)
    (unblocked : after.state.runtime.isBlocked w = false) (shows : BlockVerdict v) :
    ∃ step ∈ after.pending, step.Releases w := by
  have keyed := releasing.keyed id v found
  rw [Runtime.isBlocked, tuple, Option.isSome_eq_false_iff, Option.isNone_iff_eq_none, ran.state] at unblocked
  cases blocked : t.state.runtime.isBlocked v with
  | true =>
    -- the entry of the source went just now
    rcases exec_blocks blocked unblocked with ⟨reason, listing⟩ | ⟨block, rfl, named⟩
    · exact ⟨_, ran.fresh _ listing, by rw [← tuple]; rfl⟩
    · exact absurd shows (of_decide_eq_true settled v (GoMap.mem_values.mpr ⟨id, found⟩) named.symm)
  | false =>
    rcases releases_ran ran found keyed unrevoked (releasing.reaches id v found unrevoked blocked shows) with
      ⟨step, waiting, releases⟩ | ⟨w', held', uncached⟩
    · exact ⟨step, waiting, releases.congr sessionID tuple⟩
    · rw [held] at held'
      cases held'
      exact absurd cached uncached

theorem Releasing.decides {generation : UInt64}
    {action : Domain.Decision} {policyID reason : String} (found : t.state.live.lookup id = some v)
    (puts : GoMap.Puts t.state.live after.state.live id
      (RuntimeStore.decidedSession v generation action policyID reason))
    (explained : reason ≠ blockReason ∨ after.state.runtime.isBlocked v = true) : Releasing after := by
  constructor
  · exact GoMap.All.puts releasing.keyed puts (releasing.keyed id v found)
  · intro other w held unrevoked unblocked shows
    by_cases here : other = id
    · subst here
      rw [puts.here] at held
      cases held
      rcases explained with byProgram | byEntry
      · exact absurd shows.2.2.2 byProgram
      · exact absurd (byEntry.symm.trans unblocked) (by decide)
    · rw [puts.elsewhere other here] at held
      exact releasing.follows ran settled held ((puts.elsewhere other here).trans held) rfl rfl unrevoked shows.1
        unblocked shows

theorem Releasing.steps : Releasing after := by
  have effect := exec_effect first input t.state (by
    rintro record now publishUpdate rfl
    exact of_decide_eq_true settled)
  rw [← ran.state] at effect
  cases effect with
  | keeps sessions same basis =>
    constructor
    · intro id w held
      rcases sessions.origin id w held with ⟨v, found, kept⟩ | ⟨-, unjudged⟩
      · exact kept.sessionID.trans (releasing.keyed id v found)
      · exact unjudged.keyed
    · intro id w held unrevoked unblocked shows
      rcases sessions.origin id w held with ⟨v, found, kept⟩ | ⟨-, unjudged⟩
      · have verdicts := kept.verdict shows.1
        simp only [verdict, Prod.mk.injEq] at verdicts
        obtain ⟨cache, -, decision, policy, reason⟩ := verdicts
        have showed : BlockVerdict v := by
          rw [BlockVerdict, ← cache, ← decision, ← policy, ← reason]
          exact shows
        exact releasing.follows ran settled found held kept.sessionID kept.originalTuple (kept.revoked ▸ unrevoked)
          shows.1 unblocked showed
      · exact absurd shows.1 unjudged.uncached
  | @blocks id generation v found unrevoked puts same basis =>
    refine releasing.decides ran settled found puts (.inr ?_)
    have blocked : t.state.runtime.isBlocked v := by
      have entry : (t.state.live.lookup id).all t.state.runtime.isBlocked := settled
      rwa [found] at entry
    have table : after.state.runtime.blocks = t.state.runtime.blocks := by
      rw [ran.state]
      exact blocks_publish _ _ _ _
    rwa [Runtime.isBlocked, table]
  | decides found current unrevoked puts same basis =>
    exact releasing.decides ran settled found puts (.inl (evaluate_reason _ _))
  | switches later sessions current basis =>
    constructor
    · rw [sessions]
      exact releasing.keyed
    · intro id w held unrevoked unblocked shows
      rw [sessions] at held
      exact releasing.follows ran settled held (by rw [sessions]; exact held) rfl rfl unrevoked shows.1 unblocked shows

end

theorem Releasing.start (releasing : Releasing t) (call : RuntimeCall) : Releasing (t.step (.start call)) := by
  refine ⟨releasing.keyed, ?_⟩
  intro id v found unrevoked unblocked shows
  obtain ⟨step, waiting, releases⟩ := releasing.reaches id v found unrevoked unblocked shows
  exact ⟨step, Threads.mem_pending_start.mpr (.inl waiting), releases⟩

theorem blocks_explained_at_rest (reached : Reachable NewThreads RunsSettled RuntimeThreads.step t)
    (quiet : t.quiet) : BlocksExplained t.state := by
  have releasing : Releasing t := reached.invariant (fun _ => Releasing.new) (by
    intro t move releasing admitted
    refine Threads.invariant_step releasing (fun call _ => releasing.start call) ?_
    rintro index input first after rfl runs ran
    have settled : (t.next index).all (·.settled t.state input) = true := admitted
    rw [runs] at settled
    exact releasing.steps ran settled)
  intro id v found unrevoked _ unblocked shows
  obtain ⟨step, waiting, -⟩ := releasing.reaches id v found unrevoked unblocked shows
  exact absurd waiting (quiet.notMem step)

end

section
attribute [local instance] asciiCaseMap visitStdlib

def releasedVisit : List RuntimeMove :=
  blockedVisit ++ .start (.removeTemporaryBlock "198.51.100.7") :: runs 2 9

theorem blocks_explained_at_rest_visit :
    BlocksExplained (releasedVisit.foldl RuntimeThreads.step visitThreads).state ∧
      ∃ v ∈ (releasedVisit.foldl RuntimeThreads.step visitThreads).state.live.values,
        v.cacheState = .cached ∧ v.decisionReason = "default deny" :=
  ⟨blocks_explained_at_rest ((Reachable.start ⟨publishedProgram, 1, defaultRuntimeLimits, rfl⟩).run
    (by decide +kernel))
    (List.isEmpty_iff.mp (by decide +kernel)), by decide +kernel⟩

/-- An evaluation reads the block; the block is removed and the session decided by the program; then the evaluation
publishes what it read. -/
def lateEvaluation : List RuntimeMove :=
  blockedVisit ++
    .start (.evaluate "sess-ce9fa99ca6632c178ae50e73cf17951d") :: runs 2 2 ++
    .start (.removeTemporaryBlock "198.51.100.7") :: runs 3 9 ++ runs 2 1

theorem late_evaluation_undoes_removal :
    (lateEvaluation.foldl RuntimeThreads.step visitThreads).quiet ∧
      ¬BlocksExplained (lateEvaluation.foldl RuntimeThreads.step visitThreads).state := by
  refine ⟨List.isEmpty_iff.mp (by decide +kernel), fun explained => ?_⟩
  have shown : ∃ v ∈ (lateEvaluation.foldl RuntimeThreads.step visitThreads).state.live.values,
      v.revoked = false ∧ isLocal v = false ∧
        (lateEvaluation.foldl RuntimeThreads.step visitThreads).state.runtime.isBlocked v = false ∧
          BlockVerdict v := by
    decide +kernel
  obtain ⟨v, live, unrevoked, forwarded, unblocked, shows⟩ := shown
  obtain ⟨id, found⟩ := GoMap.mem_values.mp live
  exact explained id v found unrevoked forwarded unblocked shows

end

end Ngfw.Engine

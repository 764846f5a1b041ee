import Ngfw.Proof.Engine.Sections

/-!
# Verdicts and generations

Activate switches the program first and takes the verdicts of the live sessions away afterwards, one by one. Until it
has done so, older verdicts stand and evaluations begun earlier may still publish theirs; each of them belongs to a
session that the activation has yet to reach. A block verdict is published without a look at the revision of the
session, so it needs the generation it was read under to be in force still.
-/

namespace Ngfw.Engine
open Lib Lib.Text Domain Session Connectivity
open Section (exec)

def Judged (s : Shared) (id : String) : Prop :=
  s.basis.lookup id = some .block ∨ ∃ view, s.basis.lookup id = some (.program s.runtime.program view)

def VerdictsCurrent (s : Shared) : Prop :=
  ∀ id v, s.live.lookup id = some v → v.cacheState = .cached →
    v.policyGeneration = s.runtime.generation ∧ Judged s id

def Section.Fences (id : String) : Section → Prop
  | .activateList _ _ _ => True
  | .activateZones _ _ _ current => current.sessionID = id
  | .activateInvalidate _ _ current => current.sessionID = id
  | _ => False

def Covered (t : RuntimeThreads) (id : String) : Prop :=
  ∃ step ∈ t.pending, step.Fences id

def Late (t : RuntimeThreads) (id : String) : Prop :=
  ∃ v program generation retry w, .publish id v program generation retry ∈ t.pending ∧
    generation ≠ t.state.runtime.generation ∧ t.state.live.lookup id = some w ∧ w.revision = v.revision ∧
    w.revoked = false

def Seen (s : Shared) (id : String) (v : RuntimeSession) : Prop :=
  0 < v.revision.toNat ∧ ∃ w, s.live.lookup id = some w ∧ v.revision.toNat ≤ w.revision.toNat

structure Fenced (t : RuntimeThreads) : Prop where
  keyed : ∀ id v, t.state.live.lookup id = some v → v.sessionID = id ∧ 0 < v.revision.toNat
  judged : ∀ id v, t.state.live.lookup id = some v → v.cacheState = .cached →
    v.revoked = false ∧ v.policyGeneration ≤ t.state.runtime.generation ∧
      (v.policyGeneration = t.state.runtime.generation → Judged t.state id)
  consulting : ∀ id v retry, .consult id v retry ∈ t.pending → Seen t.state id v
  publishing : ∀ id v program generation retry, .publish id v program generation retry ∈ t.pending →
    Seen t.state id v ∧ generation ≤ t.state.runtime.generation ∧
      (generation = t.state.runtime.generation → program = t.state.runtime.program)
  older : ∀ id v, t.state.live.lookup id = some v → v.cacheState = .cached →
    v.policyGeneration ≠ t.state.runtime.generation → Covered t id
  late : ∀ id, Late t id → Covered t id

def Section.orderly [Stdlib] (s : Shared) (input : SectionInput) : Section → Bool
  | .publishBlock _ generation => generation = s.runtime.generation
  | .applyObserved record _ _ => s.runtime.store.startedID record input.clock ∉ s.live
  | _ => true

def RunsOrderly [Stdlib] (t : RuntimeThreads) : RuntimeMove → Prop
  | .start _ => True
  | .run index input => (t.next index).all (·.orderly t.state input) = true ∧
      ∀ v ∈ t.state.live.values, v.revision.toNat + 1 < 2 ^ 64

instance [Stdlib] (t : RuntimeThreads) : ∀ move, Decidable (RunsOrderly t move)
  | .start _ => .isTrue trivial
  | .run _ _ => inferInstanceAs (Decidable (_ ∧ _))

structure Orderly [Stdlib] (s : Shared) (step : Section) (input : SectionInput) : Prop where
  timely : ∀ id generation, step = .publishBlock id generation → generation = s.runtime.generation
  fresh : ∀ record now publishUpdate, step = .applyObserved record now publishUpdate →
    s.runtime.store.startedID record input.clock ∉ s.live
  room : ∀ id v, s.live.lookup id = some v → v.revision.toNat + 1 < 2 ^ 64

theorem RunsOrderly.orderly [Stdlib] {t : RuntimeThreads} {index : Nat} {input : SectionInput} {step : Section}
    (runs : RunsOrderly t (.run index input)) (next : t.next index = some step) : Orderly t.state step input := by
  obtain ⟨orderly, room⟩ := runs
  rw [next] at orderly
  refine ⟨?_, ?_, fun id v found => room v (GoMap.mem_values.mpr ⟨id, found⟩)⟩
  · rintro id generation rfl
    exact of_decide_eq_true orderly
  · rintro record now publishUpdate rfl
    exact of_decide_eq_true orderly

def Section.snapshot : Section → Option RuntimeSession
  | .consult _ v _ => some v
  | .publish _ v _ _ _ => some v
  | _ => none

def NewThreads (t : RuntimeThreads) : Prop :=
  ∃ program generation limits, t = { state := { runtime := newRuntime program generation limits } }

theorem NewThreads.absent {t : RuntimeThreads} (new : NewThreads t) (id : String) (v : RuntimeSession) :
    t.state.runtime.store.byID.lookup id ≠ some v := by
  obtain ⟨program, generation, limits, rfl⟩ := new
  intro found
  cases (AList.lookup_empty id).symm.trans found

theorem toNat_succ {revision : UInt64} (room : revision.toNat + 1 < 2 ^ 64) :
    (revision + 1).toNat = revision.toNat + 1 := by
  rw [UInt64.toNat_add]
  exact Nat.mod_eq_of_lt room

theorem Kept.revision_le {v w : RuntimeSession} (kept : Kept v w) (room : v.revision.toNat + 1 < 2 ^ 64) :
    v.revision.toNat ≤ w.revision.toNat := by
  rcases kept.revision with same | next
  · rw [same]
  · rw [next, toNat_succ room]
    omega

section
variable {t after : RuntimeThreads} {first : Section} {input : SectionInput} {id : String} {generation : UInt64}

theorem Seen.kept {s after : Shared} (seen : Seen s id v)
    (room : ∀ id v, s.live.lookup id = some v → v.revision.toNat + 1 < 2 ^ 64)
    (sessions : KeepsSessions s.live after.live) : Seen after id v := by
  obtain ⟨positive, w, found, older⟩ := seen
  obtain ⟨next, kept, same⟩ := sessions.stays id w found
  exact ⟨positive, next, kept, older.trans (same.revision_le (room id w found))⟩

theorem Fenced.new (new : NewThreads t) : Fenced t := by
  have absent := new.absent
  obtain ⟨program, generation, limits, rfl⟩ := new
  refine ⟨fun id v found => absurd found (absent id v), fun id v found => absurd found (absent id v), ?_, ?_,
    fun id v found => absurd found (absent id v), ?_⟩
  · exact fun _ _ _ waiting => absurd waiting List.not_mem_nil
  · exact fun _ _ _ _ _ waiting => absurd waiting List.not_mem_nil
  · rintro _ ⟨_, _, _, _, _, waiting, _⟩
    exact absurd waiting List.not_mem_nil

variable [CaseMap] [Stdlib]

variable {v : RuntimeSession} {reason : String}

theorem covered_ran (ran : Threads.Ran exec t after first input) (fenced : Fenced t)
    (found : t.state.live.lookup id = some v) (unrevoked : v.revoked = false) (covered : Covered t id) :
    Covered after id ∨ ∃ generation reason current,
      first = .activateInvalidate generation reason current ∧ current.sessionID = id := by
  obtain ⟨step, waiting, fences⟩ := covered
  rcases ran.stays step waiting with rfl | stays
  swap
  · exact .inl ⟨step, stays, fences⟩
  have keyed := (fenced.keyed id v found).1
  cases step with
  | activateList program generation reason =>
    left
    refine ⟨.activateZones program generation reason v, ran.fresh _ ?_, keyed⟩
    refine List.mem_map_of_mem (List.mem_filter.mpr ⟨mem_listSessions.mpr ⟨id, found⟩, ?_⟩)
    simp [unrevoked]
  | activateZones program generation reason current =>
    left
    refine ⟨_, ran.fresh _ (List.mem_singleton.mpr rfl), ?_⟩
    subst fences
    obtain ⟨w, set, -, zoned, -⟩ := setZones_spec found (inferSessionZones program current).1
      (inferSessionZones program current).2
    simp only [Section.Fences, set]
    exact (congrArg Core.sessionID zoned).trans keyed
  | activateInvalidate generation reason current => exact .inr ⟨generation, reason, current, rfl, fences⟩
  | _ => cases fences

theorem invalidated_ran (ran : Threads.Ran exec t after first input)
    (found : t.state.live.lookup id = some v) {current : RuntimeSession}
    (runs : first = .activateInvalidate generation reason current) (same : current.sessionID = id) :
    ∃ w, after.state.live.lookup id = some w ∧ w.cacheState ≠ .cached ∧ w.revision = v.revision + 1 := by
  subst runs same
  refine ⟨RuntimeStore.invalidateSession v generation reason input.clock,
    ?_, by simp [RuntimeStore.invalidateSession], rfl⟩
  rw [ran.state]
  simp only [exec, Shared.live, Shared.setStore, Shared.setRuntime, setStore_store, invalidate_spec found]
  exact AList.lookup_insert _

theorem Fenced.keeps (fenced : Fenced t) (ran : Threads.Ran exec t after first input)
    (orderly : Orderly t.state first input) (sessions : KeepsSessions t.state.live after.state.live)
    (same : SameProgram t.state after.state) (basis : after.state.basis = t.state.basis) : Fenced after := by
  have judgedSame : ∀ id, Judged t.state id → Judged after.state id := by
    intro id judged
    simpa only [Judged, basis, same.program] using judged
  have reaches : ∀ id v w, t.state.live.lookup id = some v → v.revoked = false →
      after.state.live.lookup id = some w → (w.cacheState = .cached ∨ w.revision = v.revision) → Covered t id →
      Covered after id := by
    intro id v w found unrevoked held stands covered
    rcases covered_ran ran fenced found unrevoked covered with kept | ⟨generation, reason, current, runs, named⟩
    · exact kept
    · obtain ⟨w', held', uncached, revision⟩ := invalidated_ran ran found runs named
      rw [held] at held'
      cases held'
      rcases stands with cached | unmoved
      · exact absurd cached uncached
      · have moved := toNat_succ (orderly.room id v found)
        rw [← revision, unmoved] at moved
        omega
  refine ⟨?_, ?_, ?_, ?_, ?_, ?_⟩
  · intro id w held
    rcases sessions.origin id w held with ⟨v, found, kept⟩ | ⟨-, unjudged⟩
    · have known := fenced.keyed id v found
      exact ⟨kept.sessionID.trans known.1, known.2.trans_le (kept.revision_le (orderly.room id v found))⟩
    · exact ⟨unjudged.keyed, by rw [unjudged.first]; decide⟩
  · intro id w held cached
    rcases sessions.origin id w held with ⟨v, found, kept⟩ | ⟨-, unjudged⟩
    · have verdicts := kept.verdict cached
      simp only [verdict, Prod.mk.injEq] at verdicts
      obtain ⟨cache, generation, -⟩ := verdicts
      obtain ⟨unrevoked, bounded, judged⟩ := fenced.judged id v found (cache ▸ cached)
      rw [kept.revoked, generation, same.generation]
      exact ⟨unrevoked, bounded, fun current => judgedSame id (judged current)⟩
    · exact absurd cached unjudged.uncached
  · intro id v retry waiting
    rcases ran.origin _ waiting with produced | waited
    · obtain ⟨-, found⟩ := exec_origin produced
      exact Seen.kept ⟨(fenced.keyed id v found).2, v, found, le_rfl⟩ orderly.room sessions
    · exact (fenced.consulting id v retry waited).kept orderly.room sessions
  · intro id v program generation retry waiting
    rw [same.generation, same.program]
    rcases ran.origin _ waiting with produced | waited
    · obtain ⟨rfl, rfl, rfl⟩ := exec_origin produced
      exact ⟨(fenced.consulting id v retry ran.was).kept orderly.room sessions, UInt64.le_refl _, fun _ => rfl⟩
    · obtain ⟨seen, rest⟩ := fenced.publishing id v program generation retry waited
      exact ⟨seen.kept orderly.room sessions, rest⟩
  · intro id w held cached older
    rcases sessions.origin id w held with ⟨v, found, kept⟩ | ⟨-, unjudged⟩
    · have verdicts := kept.verdict cached
      simp only [verdict, Prod.mk.injEq] at verdicts
      obtain ⟨cache, generation, -⟩ := verdicts
      rw [generation, same.generation] at older
      have before := cache ▸ cached
      exact reaches id v w found (fenced.judged id v found before).1 held (.inl cached)
        (fenced.older id v found before older)
    · exact absurd cached unjudged.uncached
  · rintro id ⟨v, program, generation, retry, w, waiting, older, held, revision, unrevoked⟩
    rw [same.generation] at older
    rcases ran.origin _ waiting with produced | waited
    · exact absurd (exec_origin produced).2.2 older
    · obtain ⟨⟨-, u, found, bound⟩, -⟩ := fenced.publishing id v program generation retry waited
      rcases sessions.origin id w held with ⟨u', found', kept⟩ | ⟨absent, -⟩
      · rw [found] at found'
        cases found'
        -- the revision of the session has not moved since the snapshot
        have unmoved : w.revision = u.revision := by
          rcases kept.revision with same | moved
          · exact same
          · have next := toNat_succ (orderly.room id u found)
            rw [← moved, revision] at next
            omega
        refine reaches id u w found (kept.revoked ▸ unrevoked) held (.inr unmoved)
          (fenced.late id ⟨v, program, generation, retry, u, waited, older, found, ?_, kept.revoked ▸ unrevoked⟩)
        rw [← unmoved, revision]
      · rw [absent] at found
        cases found

theorem Fenced.decides (fenced : Fenced t) (ran : Threads.Ran exec t after first input)
    (orderly : Orderly t.state first input) {action : Domain.Decision}
    {policyID : String} {basis : Basis} (found : t.state.live.lookup id = some v) (unrevoked : v.revoked = false)
    (puts : GoMap.Puts t.state.live after.state.live id
      (RuntimeStore.decidedSession v generation action policyID reason))
    (same : SameProgram t.state after.state) (remembered : after.state.basis = t.state.basis.insert id basis)
    (ends : ∀ later ∈ (first.exec input t.state).2, ∃ retry, later = .get id retry)
    (publishes : ∀ generation reason current, first ≠ .activateInvalidate generation reason current)
    (bounded : generation ≤ t.state.runtime.generation)
    (judged : generation = t.state.runtime.generation →
      basis = .block ∨ ∃ view, basis = .program t.state.runtime.program view)
    (older : generation ≠ t.state.runtime.generation → Covered t id) : Fenced after := by
  have revision := toNat_succ (orderly.room id v found)
  have reaches : ∀ other u, t.state.live.lookup other = some u → u.revoked = false → Covered t other →
      Covered after other := by
    intro other u live standing covered
    rcases covered_ran ran fenced live standing covered with kept | ⟨_, _, _, runs, -⟩
    · exact kept
    · exact absurd runs (publishes _ _ _)
  have seenStays : ∀ other u, Seen t.state other u → Seen after.state other u := by
    rintro other u ⟨positive, w, live, bound⟩
    by_cases here : other = id
    · subst here
      rw [found] at live
      cases live
      exact ⟨positive, _, puts.here, bound.trans (by rw [RuntimeStore.decidedSession, revision]; omega)⟩
    · exact ⟨positive, w, (puts.elsewhere other here).trans live, bound⟩
  have waited : ∀ later ∈ after.pending, (∀ retry, later ≠ .get id retry) → later ∈ t.pending := by
    intro later waiting other
    rcases ran.origin later waiting with produced | waited
    · obtain ⟨retry, rfl⟩ := ends later produced
      exact absurd rfl (other retry)
    · exact waited
  refine ⟨?_, ?_, ?_, ?_, ?_, ?_⟩
  · exact GoMap.All.puts fenced.keyed puts
      ⟨(fenced.keyed id v found).1, by rw [RuntimeStore.decidedSession, revision]; omega⟩
  · intro other w held cached
    rw [same.generation]
    by_cases here : other = id
    · subst here
      rw [puts.here] at held
      cases held
      refine ⟨unrevoked, bounded, fun current => ?_⟩
      rcases judged current with rfl | ⟨view, rfl⟩
      · exact .inl (by rw [remembered, AList.lookup_insert])
      · exact .inr ⟨view, by rw [remembered, AList.lookup_insert, same.program]⟩
    · rw [puts.elsewhere other here] at held
      obtain ⟨standing, bound, current⟩ := fenced.judged other w held cached
      refine ⟨standing, bound, fun now => ?_⟩
      simpa only [Judged, remembered, AList.lookup_insert_ne here, same.program] using current now
  · intro other u retry waiting
    exact seenStays other u (fenced.consulting other u retry (waited _ waiting (by simp)))
  · intro other u program began retry waiting
    obtain ⟨seen, rest⟩ := fenced.publishing other u program began retry (waited _ waiting (by simp))
    rw [same.generation, same.program]
    exact ⟨seenStays other u seen, rest⟩
  · intro other w held cached outdated
    rw [same.generation] at outdated
    by_cases here : other = id
    · subst here
      rw [puts.here] at held
      cases held
      exact reaches other v found unrevoked (older outdated)
    · rw [puts.elsewhere other here] at held
      exact reaches other w held (fenced.judged other w held cached).1 (fenced.older other w held cached outdated)
  · rintro other ⟨u, program, began, retry, w, waiting, outdated, held, unmoved, standing⟩
    rw [same.generation] at outdated
    have before := waited _ waiting (by simp)
    by_cases here : other = id
    · subst here
      -- the publication moved the revision past every snapshot
      obtain ⟨⟨-, live, there, bound⟩, -⟩ := fenced.publishing other u program began retry before
      rw [found] at there
      cases there
      rw [puts.here] at held
      cases held
      have moved : u.revision = v.revision + 1 := unmoved.symm
      rw [moved, revision] at bound
      omega
    · rw [puts.elsewhere other here] at held
      exact reaches other w held standing
        (fenced.late other ⟨u, program, began, retry, w, before, outdated, held, unmoved, standing⟩)

theorem Fenced.switches (fenced : Fenced t) {program : Program}
    (ran : Threads.Ran exec t after (.activate program generation reason) input)
    (later : t.state.runtime.generation < generation) (sessions : after.state.live = t.state.live)
    (current : after.state.runtime.generation = generation) : Fenced after := by
  have listing : .activateList program generation reason ∈ after.pending := by
    refine ran.fresh _ ?_
    simp only [exec]
    rw [if_neg (UInt64.not_le.mpr later)]
    exact List.mem_singleton.mpr rfl
  have covered : ∀ id, Covered after id := fun id => ⟨_, listing, trivial⟩
  have waited : ∀ step ∈ after.pending, step = .activateList program generation reason ∨ step ∈ t.pending := by
    intro step waiting
    rcases ran.origin step waiting with produced | waited
    · simp only [exec] at produced
      rw [if_neg (UInt64.not_le.mpr later)] at produced
      exact .inl (List.mem_singleton.mp produced)
    · exact .inr waited
  refine ⟨?_, ?_, ?_, ?_, fun id _ _ _ _ => covered id, fun id _ => covered id⟩
  · rw [sessions]
    exact fenced.keyed
  · rw [sessions, current]
    intro id v found cached
    obtain ⟨unrevoked, bounded, -⟩ := fenced.judged id v found cached
    have before := UInt64.lt_of_le_of_lt bounded later
    exact ⟨unrevoked, UInt64.le_of_lt before, fun same => absurd same (UInt64.ne_of_lt before)⟩
  · intro id v retry waiting
    obtain ⟨positive, w, found, bound⟩ := fenced.consulting id v retry ((waited _ waiting).resolve_left (by simp))
    exact ⟨positive, w, by rw [sessions]; exact found, bound⟩
  · intro id v published began retry waiting
    obtain ⟨⟨positive, w, found, bound⟩, bounded, -⟩ :=
      fenced.publishing id v published began retry ((waited _ waiting).resolve_left (by simp))
    have before := UInt64.lt_of_le_of_lt bounded later
    rw [current]
    exact ⟨⟨positive, w, by rw [sessions]; exact found, bound⟩, UInt64.le_of_lt before,
      fun same => absurd same (UInt64.ne_of_lt before)⟩

theorem Fenced.ran (fenced : Fenced t) (ran : Threads.Ran exec t after first input)
    (orderly : Orderly t.state first input) : Fenced after := by
  have effect := exec_effect first input t.state orderly.fresh
  rw [← ran.state] at effect
  cases effect with
  | keeps sessions same basis => exact fenced.keeps ran orderly sessions same basis
  | @blocks id generation v found unrevoked puts same basis =>
    have timely := orderly.timely id generation rfl
    have last : ((Section.publishBlock id generation).exec input t.state).2 = [] := rfl
    refine fenced.decides ran orderly found unrevoked puts same basis ?_ ?_ (timely ▸ UInt64.le_refl _)
      (fun _ => .inl rfl) (fun outdated => absurd timely outdated)
    · intro later produced
      rw [last] at produced
      exact absurd produced List.not_mem_nil
    · intro _ _ _ impossible
      cases impossible
  | @decides id v w program generation retry found current unrevoked puts same basis =>
    obtain ⟨⟨positive, -⟩, bounded, latest⟩ := fenced.publishing id v program generation retry ran.was
    have unmoved : w.revision = v.revision := current (by
      intro zero
      rw [zero] at positive
      exact absurd positive (by decide))
    refine fenced.decides ran orderly found unrevoked puts same basis ?_ ?_ bounded ?_ ?_
    · intro later produced
      exact ⟨_, List.mem_singleton.mp (List.mem_ite_nil_right.mp produced).2⟩
    · intro _ _ _ impossible
      cases impossible
    · intro now
      exact .inr ⟨sessionView v, by rw [latest now]⟩
    · intro outdated
      exact fenced.late id ⟨v, program, generation, retry, w, ran.was, outdated, found, unmoved, unrevoked⟩
  | switches later sessions current basis => exact fenced.switches ran later sessions current

theorem Fenced.start (fenced : Fenced t) (call : RuntimeCall) : Fenced (t.step (.start call)) := by
  have enters : ∀ step ∈ call.sections, step.snapshot = none := by
    intro step entered
    cases call with
    | activate program generation reason =>
      simp only [RuntimeCall.sections] at entered
      split_ifs at entered
      · exact absurd entered List.not_mem_nil
      · rw [List.mem_singleton.mp entered]
        rfl
    | _ =>
      rw [List.mem_singleton.mp entered]
      rfl
  have grows : ∀ id, Covered t id → Covered (t.step (.start call)) id := by
    rintro id ⟨step, waiting, fences⟩
    exact ⟨step, Threads.mem_pending_start.mpr (.inl waiting), fences⟩
  refine ⟨fenced.keyed, fenced.judged, ?_, ?_, ?_, ?_⟩
  · intro id v retry waiting
    rcases Threads.mem_pending_start.mp waiting with waited | entered
    · exact fenced.consulting id v retry waited
    · cases enters _ entered
  · intro id v program generation retry waiting
    rcases Threads.mem_pending_start.mp waiting with waited | entered
    · exact fenced.publishing id v program generation retry waited
    · cases enters _ entered
  · intro id v found cached outdated
    exact grows id (fenced.older id v found cached outdated)
  · rintro id ⟨v, program, generation, retry, w, waiting, rest⟩
    rcases Threads.mem_pending_start.mp waiting with waited | entered
    · exact grows id (fenced.late id ⟨v, program, generation, retry, w, waited, rest⟩)
    · cases enters _ entered

theorem verdicts_current_at_rest (reached : Reachable NewThreads RunsOrderly RuntimeThreads.step t)
    (quiet : t.quiet) : VerdictsCurrent t.state := by
  have fenced : Fenced t := reached.invariant (fun _ => Fenced.new) (by
    intro t move fenced admitted
    refine Threads.invariant_step fenced (fun call _ => fenced.start call) ?_
    rintro index input first after rfl runs ran
    exact fenced.ran ran (RunsOrderly.orderly admitted runs))
  intro id v found cached
  obtain ⟨-, -, judged⟩ := fenced.judged id v found cached
  have current : v.policyGeneration = t.state.runtime.generation := by
    by_contra outdated
    obtain ⟨step, waiting, -⟩ := fenced.older id v found cached outdated
    exact absurd waiting (quiet.notMem step)
  exact ⟨current, judged current⟩

end

/-! ## A block verdict that comes too late -/

section
attribute [local instance] asciiCaseMap visitStdlib

def runs (index count : Nat) : List RuntimeMove :=
  List.replicate count (.run index { clock := second })

def visitorBlock : TemporaryBlock :=
  { id := "visitor", indicator := "198.51.100.7", expiresAt := 600 * second }

def visitThreads : RuntimeThreads :=
  { state := { runtime := publishedRuntime } }

def blockedVisit : List RuntimeMove :=
  .start (.applyRecord visitRecord second true) :: runs 0 6 ++ .start (.addTemporaryBlock visitorBlock) :: runs 1 8

def activatedVisit : List RuntimeMove :=
  blockedVisit ++ .start (.activate publishedProgram 2 "commit") :: runs 2 4 ++
    .start (.evaluate "sess-ce9fa99ca6632c178ae50e73cf17951d") :: runs 3 3

theorem verdicts_current_at_rest_visit :
    VerdictsCurrent (activatedVisit.foldl RuntimeThreads.step visitThreads).state ∧
      ∃ v ∈ (activatedVisit.foldl RuntimeThreads.step visitThreads).state.live.values,
        v.cacheState = .cached ∧ v.policyGeneration = 2 ∧ v.decisionReason = blockReason :=
  ⟨verdicts_current_at_rest ((Reachable.start ⟨publishedProgram, 1, defaultRuntimeLimits, rfl⟩).run
    (by decide +kernel))
    (List.isEmpty_iff.mp (by decide +kernel)), by decide +kernel⟩

def localVisit : Record :=
  { visitRecord with originalTuple := { visitRecord.originalTuple with dstIP := .v4 0xCB007101#32 } }

/-- A session with the firewall itself. Its record is about to be marked as outside the policy, and an evaluation has
read the block, both under generation 1, when the program of generation 2 is activated. -/
def lateBlock : List RuntimeMove :=
  .start (.applyRecord localVisit second true) :: runs 0 4 ++ .start (.addTemporaryBlock visitorBlock) :: runs 1 7 ++
    .start (.evaluate "sess-ce9fa99ca6632c178ae50e73cf17951d") :: runs 2 2 ++
    .start (.activate publishedProgram 2 "commit") :: runs 3 6 ++ runs 0 1 ++ runs 2 1

theorem late_block_outdates_verdict :
    (lateBlock.foldl RuntimeThreads.step visitThreads).quiet ∧
      ¬VerdictsCurrent (lateBlock.foldl RuntimeThreads.step visitThreads).state := by
  refine ⟨List.isEmpty_iff.mp (by decide +kernel), fun current => ?_⟩
  have outdated : ∃ v ∈ (lateBlock.foldl RuntimeThreads.step visitThreads).state.live.values,
      v.cacheState = .cached ∧
        v.policyGeneration ≠ (lateBlock.foldl RuntimeThreads.step visitThreads).state.runtime.generation := by
    decide +kernel
  obtain ⟨v, live, cached, differs⟩ := outdated
  obtain ⟨id, found⟩ := GoMap.mem_values.mp live
  exact differs (current id v found cached).1

end

end Ngfw.Engine

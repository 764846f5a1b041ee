import Ngfw.Engine.Sections
import Ngfw.Proof.Engine.CacheCoherence

/-! # What one section can do -/

namespace Ngfw.Engine
open Lib Lib.Text Domain Session Connectivity
open RuntimeStore hiding exec
open Section (exec)

abbrev Shared.live (s : Shared) : GoMap String RuntimeSession :=
  s.runtime.store.byID

def verdict (v : RuntimeSession) : CacheState × UInt64 × Domain.Decision × String × String :=
  (v.cacheState, v.policyGeneration, v.decision, v.matchedPolicyID, v.decisionReason)

structure Kept (v w : RuntimeSession) : Prop where
  sessionID : w.sessionID = v.sessionID
  originalTuple : w.originalTuple = v.originalTuple
  revoked : w.revoked = v.revoked
  revision : w.revision = v.revision ∨ w.revision = v.revision + 1
  verdict : w.cacheState = .cached → verdict w = verdict v

structure Unjudged (id : String) (w : RuntimeSession) : Prop where
  keyed : w.sessionID = id
  uncached : w.cacheState ≠ .cached
  first : w.revision = 1
  unrevoked : w.revoked = false

structure KeepsSessions (before after : GoMap String RuntimeSession) : Prop where
  stays : ∀ id v, before.lookup id = some v → ∃ w, after.lookup id = some w ∧ Kept v w
  origin : ∀ id w, after.lookup id = some w →
    (∃ v, before.lookup id = some v ∧ Kept v w) ∨ before.lookup id = none ∧ Unjudged id w

section
variable {before after : GoMap String RuntimeSession} {id : String} {v w : RuntimeSession}

theorem Kept.refl (v : RuntimeSession) : Kept v v := ⟨rfl, rfl, rfl, .inl rfl, fun _ => rfl⟩

theorem KeepsSessions.of_eq (same : after = before) : KeepsSessions before after := by
  subst same
  exact ⟨fun _ v found => ⟨v, found, .refl v⟩, fun _ w found => .inl ⟨w, found, .refl w⟩⟩

theorem KeepsSessions.put (puts : GoMap.Puts before after id w) (found : before.lookup id = some v) (kept : Kept v w) :
    KeepsSessions before after := by
  constructor
  · intro other u held
    by_cases same : other = id
    · subst same
      rw [found] at held
      cases held
      exact ⟨w, puts.here, kept⟩
    · exact ⟨u, (puts.elsewhere other same).trans held, .refl u⟩
  · intro other u held
    by_cases same : other = id
    · subst same
      rw [puts.here] at held
      cases held
      exact .inl ⟨v, found, kept⟩
    · rw [puts.elsewhere other same] at held
      exact .inl ⟨u, held, .refl u⟩

theorem KeepsSessions.created (puts : GoMap.Puts before after id w) (absent : before.lookup id = none)
    (unjudged : Unjudged id w) : KeepsSessions before after := by
  constructor
  · intro other u held
    have different : other ≠ id := by
      rintro rfl
      rw [absent] at held
      cases held
    exact ⟨u, (puts.elsewhere other different).trans held, .refl u⟩
  · intro other u held
    by_cases same : other = id
    · subst same
      rw [puts.here] at held
      cases held
      exact .inr ⟨absent, unjudged⟩
    · rw [puts.elsewhere other same] at held
      exact .inl ⟨u, held, .refl u⟩

end

/-! ## The store operations -/

section
variable {s : RuntimeStore}

section
variable (s : RuntimeStore) (id : String) (generation : UInt64) (reason : String)

theorem keepsSessions_invalidate
    (now : Time) : KeepsSessions s.byID (s.invalidate id generation reason now).1.byID := by
  cases found : s.byID.lookup id with
  | none => exact .of_eq (by simp [invalidate, found])
  | some v =>
    rw [invalidate_spec found]
    refine .put (GoMap.puts_insert _ _ _) found ⟨rfl, rfl, rfl, .inr rfl, ?_⟩
    intro cached
    exact absurd cached (invalidateSession_uncached v generation reason now)

theorem keepsSessions_markUnavailable :
    KeepsSessions s.byID (s.markEvaluationUnavailable id generation reason).1.byID := by
  unfold markEvaluationUnavailable
  split
  · exact .of_eq rfl
  · rename_i v found
    split_ifs
    · exact .of_eq rfl
    · refine .put (GoMap.puts_insert _ _ _) found ⟨rfl, rfl, rfl, .inr rfl, ?_⟩
      intro cached
      cases cached

theorem keepsSessions_setZones (source destination : String) :
    KeepsSessions s.byID (s.setZones id source destination).1.byID := by
  unfold setZones
  split
  · exact .of_eq rfl
  · rename_i v found
    split_ifs
    · exact .of_eq rfl
    · exact .put (GoMap.puts_insert _ _ _) found ⟨rfl, rfl, rfl, .inr rfl, fun _ => rfl⟩

theorem core_withReply_judged (r : Record) (v : RuntimeSession) :
    (withReply r v).sessionID = v.sessionID ∧ (withReply r v).originalTuple = v.originalTuple ∧
      (withReply r v).revoked = v.revoked ∧ (withReply r v).cacheState = v.cacheState ∧
      (withReply r v).policyGeneration = v.policyGeneration ∧ (withReply r v).decision = v.decision ∧
      (withReply r v).matchedPolicyID = v.matchedPolicyID := by
  unfold withReply
  split
  · split_ifs <;> exact ⟨rfl, rfl, rfl, rfl, rfl, rfl, rfl⟩
  · exact ⟨rfl, rfl, rfl, rfl, rfl, rfl, rfl⟩

theorem kept_mergeLocked [CaseMap] (existing : RuntimeSession) (r : Record)
    (now : Time) : Kept existing (s.mergeLocked id existing r now).2.1 := by
  obtain ⟨sessionID, original, revoked, cache, generation, decision, policy⟩ := core_withReply_judged r existing
  have same := s.core_mergeLocked id existing r now
  simp only [core, Core.mk.injEq] at same
  obtain ⟨id', original', -, -, -, -, -, policy', generation', decision', cache', -, revoked', -⟩ := same
  have reason : (s.mergeLocked id existing r now).2.1.decisionReason = existing.decisionReason := by
    rw [session_mergeLocked]
    exact congrArg (·.2.2.1) (lasting_mergedSession s r now existing)
  refine ⟨id'.trans sessionID, original'.trans original, revoked'.trans revoked, ?_, fun _ => ?_⟩
  · rw [session_mergeLocked]
    dsimp only
    split_ifs
    · exact .inr rfl
    · exact .inl rfl
  · simp only [verdict, cache'.trans cache, generation'.trans generation, decision'.trans decision,
      policy'.trans policy, reason]

theorem unjudged_newSession [CaseMap] (record : Record) (now : Time) :
    Unjudged id (s.indexLocked (newSession id record now)).2 := by
  unfold indexLocked
  dsimp only
  split_ifs <;> exact ⟨rfl, nofun, rfl, rfl⟩

end

theorem keepsSessions_applyObserved [CaseMap] [Stdlib] {record : Record} {clock : Time}
    (fresh : s.startedID record clock ∉ s.byID) (now : Time) :
    KeepsSessions s.byID (s.applyObserved record now clock).1.byID := by
  rcases s.applyObserved_cases record now clock with
    ⟨failure, refused⟩ | ⟨_, ⟨id, existing, target, merges⟩ | ⟨_, creates⟩⟩
  · rw [refused]
    exact .of_eq rfl
  · rw [merges, byID_mergeInto]
    exact .put (GoMap.puts_insert _ _ _) (mergeTarget_live target) (kept_mergeLocked _ _ _ _ _)
  · rw [creates]
    unfold createLocked
    split_ifs with full
    · exact .of_eq rfl
    · dsimp only
      rw [byID_indexLocked, byID_rememberIdentityLocked]
      refine .created (GoMap.puts_insert _ _ _) ?_ (unjudged_newSession _ _ _ _)
      exact AList.lookup_eq_none.mpr fresh

end

/-! ## The sections -/

section
theorem publish_cases (s : Shared) (id : String) (expected generation : UInt64) (action : Domain.Decision)
    (policyID reason : String) (basis : Basis) :
    s.publish id (s.runtime.store.setDecision id expected generation action policyID reason) basis = s ∨
    ∃ v, s.live.lookup id = some v ∧ (expected ≠ 0 → v.revision = expected) ∧ v.revoked = false ∧
      (s.publish id (s.runtime.store.setDecision id expected generation action policyID reason) basis).live =
        s.live.insert id (decidedSession v generation action policyID reason) ∧
      (s.publish id (s.runtime.store.setDecision id expected generation action policyID reason) basis).basis =
        s.basis.insert id basis := by
  cases found : s.live.lookup id with
  | none =>
    left
    simp only [Shared.publish, setDecision, found]
    rfl
  | some v =>
    simp only [Shared.publish, setDecision, found]
    split_ifs with stale
    · exact .inl rfl
    · push Not at stale
      exact .inr ⟨v, rfl, stale.1, by simpa using stale.2.1, rfl, rfl⟩

variable [CaseMap]

structure SameProgram (s after : Shared) : Prop where
  program : after.runtime.program = s.runtime.program
  generation : after.runtime.generation = s.runtime.generation

inductive Effect (s after : Shared) : Section → Prop
  | keeps {step : Section} (sessions : KeepsSessions s.live after.live) (same : SameProgram s after)
      (basis : after.basis = s.basis) : Effect s after step
  | blocks {id : String} {generation : UInt64} {v : RuntimeSession} (found : s.live.lookup id = some v)
      (unrevoked : v.revoked = false)
      (puts : GoMap.Puts s.live after.live id (decidedSession v generation .drop "" blockReason))
      (same : SameProgram s after) (basis : after.basis = s.basis.insert id .block) :
      Effect s after (.publishBlock id generation)
  | decides {id : String} {v w : RuntimeSession} {program : Program} {generation : UInt64} {retry : Nat}
      (found : s.live.lookup id = some w) (current : v.revision ≠ 0 → w.revision = v.revision)
      (unrevoked : w.revoked = false)
      (puts : GoMap.Puts s.live after.live id (decidedSession w generation
        (program.evaluate (sessionView v)).action (program.evaluate (sessionView v)).policyID
        (program.evaluate (sessionView v)).reason))
      (same : SameProgram s after) (basis : after.basis = s.basis.insert id (.program program (sessionView v))) :
      Effect s after (.publish id v program generation retry)
  | switches {program : Program} {generation : UInt64} {reason : String} (later : s.runtime.generation < generation)
      (sessions : after.live = s.live) (current : after.runtime.generation = generation)
      (basis : after.basis = s.basis) : Effect s after (.activate program generation reason)

omit [CaseMap] in
theorem sameProgram_publish (s : Shared) (clock : Time) (id : String)
    (set : RuntimeStore × Except StoreError RuntimeSession) (basis : Basis) :
    SameProgram s (Shared.publish { s with clock := clock } id set basis) := by
  unfold Shared.publish
  split <;> exact ⟨rfl, rfl⟩

theorem exec_addBlock [Stdlib] (block : TemporaryBlock) (input : SectionInput) (s : Shared) :
    (Section.addBlock block).exec input s = ({ s with clock := input.clock }, []) ∨
    ∃ entry : TemporaryBlock, input.clock < entry.expiresAt ∧
      (Section.addBlock block).exec input s =
        (Shared.setBlocks { s with clock := input.clock } (s.runtime.blocks.insert entry.indicator entry),
          [.guardBlock entry]) := by
  simp only [exec]
  split
  · exact .inl rfl
  split
  · exact .inl rfl
  rename_i indicator _
  generalize (if block.expiresAt = 0 then input.clock + 300 * second else block.expiresAt) = expires
  split
  · exact .inl rfl
  rename_i unexpired
  split
  · exact .inl rfl
  · exact .inr ⟨⟨block.id, indicator, expires⟩, by simpa using unexpired, rfl⟩

theorem exec_effect [Stdlib] (step : Section) (input : SectionInput) (s : Shared)
    (fresh : ∀ record now publishUpdate, step = .applyObserved record now publishUpdate →
      s.runtime.store.startedID record input.clock ∉ s.live) :
    Effect s (step.exec input s).1 step := by
  have idle : ∀ after : Shared, after.live = s.live → after.runtime.program = s.runtime.program →
      after.runtime.generation = s.runtime.generation → after.basis = s.basis → Effect s after step :=
    fun after live program generation basis => .keeps (.of_eq live) ⟨program, generation⟩ basis
  cases step with
  | get | guardBlock | undoBlock | guardUnblock | guardExpired =>
    simp only [exec]
    split <;> exact idle _ rfl rfl rfl rfl
  | publishBlock id generation =>
    simp only [exec]
    rcases publish_cases { s with clock := input.clock } id 0 generation .drop "" blockReason .block with
      same | ⟨v, found, -, unrevoked, live, basis⟩
    · rw [same]
      exact idle _ rfl rfl rfl rfl
    · refine .blocks found unrevoked ?_ ?_ basis
      · rw [live]
        exact GoMap.puts_insert _ _ _
      · exact sameProgram_publish _ _ _ _ _
  | publish id v program generation retry =>
    simp only [exec]
    rcases publish_cases { s with clock := input.clock } id v.revision generation
        (program.evaluate (sessionView v)).action (program.evaluate (sessionView v)).policyID
        (program.evaluate (sessionView v)).reason (.program program (sessionView v)) with
      same | ⟨w, found, current, unrevoked, live, basis⟩
    · rw [same]
      exact idle _ rfl rfl rfl rfl
    · refine .decides found current unrevoked ?_ ?_ basis
      · rw [live]
        exact GoMap.puts_insert _ _ _
      · exact sameProgram_publish _ _ _ _ _
  | markUnavailable id generation =>
    exact .keeps (keepsSessions_markUnavailable _ _ _ _) ⟨rfl, rfl⟩ rfl
  | applyObserved record now publishUpdate =>
    exact .keeps (keepsSessions_applyObserved (fresh _ _ _ rfl) now) ⟨rfl, rfl⟩ rfl
  | setZones | activateZones =>
    exact .keeps (keepsSessions_setZones _ _ _ _) ⟨rfl, rfl⟩ rfl
  | activate program generation reason =>
    simp only [exec]
    split_ifs with earlier
    · exact idle _ rfl rfl rfl rfl
    · exact .switches (UInt64.not_le.mp earlier) rfl rfl rfl
  | activateInvalidate | invalidate =>
    exact .keeps (keepsSessions_invalidate _ _ _ _ _) ⟨rfl, rfl⟩ rfl
  | addBlock block =>
    rcases exec_addBlock block input s with refused | ⟨entry, -, written⟩
    · rw [refused]
      exact idle _ rfl rfl rfl rfl
    · rw [written]
      exact idle _ rfl rfl rfl rfl
  | _ => exact idle _ rfl rfl rfl rfl

def Section.Origin (s : Shared) (step : Section) (input : SectionInput) : Section → Prop
  | .consult id v retry => step = .get id retry ∧ s.live.lookup id = some v
  | .publish id v program generation retry =>
    step = .consult id v retry ∧ program = s.runtime.program ∧ generation = s.runtime.generation
  | .undoBlock block => step = .guardBlock block ∧ (input.guardFailure.isSome ∨ block.expiresAt ≤ input.clock)
  | _ => True

variable [Stdlib] {s : Shared} {step later : Section} {input : SectionInput}

omit [CaseMap] [Stdlib] in
theorem origin_observe {value : RuntimeSession} (member : later ∈ observeSections value) :
    Section.Origin s step input later := by
  unfold observeSections at member
  split_ifs at member
  all_goals
    cases List.mem_singleton.mp member
    trivial

omit [CaseMap] [Stdlib] in
theorem origin_zoned {v enriched : RuntimeSession} {created changed publishUpdate : Bool}
    (member : later ∈ Section.zoned v enriched created changed publishUpdate) :
    Section.Origin s step input later := by
  unfold Section.zoned at member
  split_ifs at member
  · exact origin_observe member
  · cases List.mem_singleton.mp member
    trivial

theorem exec_origin (produced : later ∈ (step.exec input s).2) : Section.Origin s step input later := by
  cases step with
  | get id retry =>
    simp only [exec] at produced
    split at produced
    · cases produced
    · rename_i v found
      cases List.mem_singleton.mp produced
      exact ⟨rfl, found⟩
  | consult id v retry =>
    simp only [exec, Section.consulted] at produced
    split_ifs at produced
    all_goals first
      | cases List.mem_singleton.mp produced
      | exact absurd produced List.not_mem_nil
    · trivial
    · trivial
    · exact ⟨rfl, rfl, rfl⟩
  | publish id v program generation retry =>
    obtain ⟨-, member⟩ := List.mem_ite_nil_right.mp produced
    cases List.mem_singleton.mp member
    trivial
  | applyObserved record now publishUpdate =>
    simp only [exec] at produced
    split at produced
    all_goals first
      | cases List.mem_singleton.mp produced
      | exact absurd produced List.not_mem_nil
    all_goals trivial
  | setZones v zones created changed publishUpdate =>
    exact origin_zoned produced
  | compareGeneration v publishUpdate =>
    simp only [exec] at produced
    split at produced
    · exact origin_observe produced
    · cases produced
  | activateInvalidate generation reason current =>
    simp only [exec] at produced
    split at produced
    · cases produced
    split at produced
    · exact origin_observe produced
    · cases produced
  | invalidate current generation reason =>
    simp only [exec] at produced
    split at produced
    · cases produced
    · exact origin_observe produced
  | addBlock block =>
    rcases exec_addBlock block input s with refused | ⟨entry, -, written⟩
    · rw [refused] at produced
      cases produced
    · rw [written] at produced
      cases List.mem_singleton.mp produced
      trivial
  | guardBlock block =>
    simp only [exec] at produced
    split at produced
    all_goals cases List.mem_singleton.mp produced
    · rename_i failed
      exact ⟨rfl, failed⟩
    · trivial
  | activateList | listSource =>
    obtain ⟨current, -, rfl⟩ := List.mem_map.mp produced
    trivial
  | sweep now =>
    rcases List.mem_append.mp produced with guards | lists
    · obtain ⟨key, -, rfl⟩ := List.mem_map.mp guards
      trivial
    · obtain ⟨key, -, rfl⟩ := List.mem_map.mp lists
      trivial
  | _ =>
    simp only [exec] at produced
    try split at produced
    all_goals first
      | cases List.mem_singleton.mp produced
      | exact absurd produced List.not_mem_nil
    all_goals trivial

end

end Ngfw.Engine

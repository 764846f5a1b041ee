import Ngfw.Session.Lifecycle

/-! # What the store operations leave alone -/

namespace Ngfw.Session
open Lib Domain

structure Core where
  sessionID : String
  originalTuple : Tuple
  replyTuple : Option Tuple
  translatedTuple : Option Tuple
  nat : NATInfo
  sourceZone : String
  destinationZone : String
  matchedPolicyID : String
  policyGeneration : UInt64
  decision : Decision
  cacheState : CacheState
  effectiveDecision : Decision
  revoked : Bool
  inspection : Option SessionInspection

def core (v : RuntimeSession) : Core :=
  ⟨v.sessionID, v.originalTuple, v.replyTuple, v.translatedTuple, v.nat, v.sourceZone, v.destinationZone,
    v.matchedPolicyID, v.policyGeneration, v.decision, v.cacheState, v.effectiveDecision, v.revoked, v.inspection⟩

def withReply (r : Record) (v : RuntimeSession) : RuntimeSession :=
  match r.presence.replyTuple, r.replyTuple with
  | true, some reply =>
    if v.replyTuple = some reply then v
    else
      let nat := makeNAT v.originalTuple (some reply)
      { v with replyTuple := some reply, nat := nat, translatedTuple := nat.translatedTuple }
  | _, _ => v

variable (s : RuntimeStore) (r : Record) (now : Time) (v : RuntimeSession)

theorem core_withReply_congr {v w : RuntimeSession} (same : core v = core w) :
    core (withReply r v) = core (withReply r w) := by
  simp only [core, Core.mk.injEq] at same
  obtain ⟨id, original, reply, translated, nat, source, destination, policy, generation, decision, cache,
    effective, revoked, inspection⟩ := same
  unfold withReply
  split
  · rw [reply, original]
    split_ifs <;> simp [core, *]
  · simp [core, *]

/-! ## Merging a record -/

def lasting (v : RuntimeSession) : Core × ConntrackIdentity × String × UInt64 :=
  (core v, v.identity, v.decisionReason, v.revision)

def learnIdentity (r : Record) (identity : ConntrackIdentity) : ConntrackIdentity :=
  { identity with
    kernelStart :=
      if identity.kernelStart = 0 ∧ r.identity.kernelStart ≠ 0 ∧ r.presence.timestamp then r.identity.kernelStart
      else identity.kernelStart
    id := if identity.id = 0 ∧ r.identity.id ≠ 0 ∧ r.presence.id then r.identity.id else identity.id }

theorem lasting_mergeIdentity :
    lasting (mergeIdentity r v).1 = (core v, learnIdentity r v.identity, v.decisionReason, v.revision) := by
  unfold mergeIdentity learnIdentity removeMissing
  simp only [decide_eq_true_eq]
  split_ifs <;> simp_all [lasting, core]

theorem core_mergeIdentity : core (mergeIdentity r v).1 = core v :=
  congrArg Prod.fst (lasting_mergeIdentity r v)

theorem lasting_indexLocked : lasting (s.indexLocked v).2 = lasting v := by
  unfold RuntimeStore.indexLocked
  dsimp only
  split_ifs <;> rfl

theorem lasting_mergeReply :
    lasting (mergeReply s r v).2.1 = (core (withReply r v), v.identity, v.decisionReason, v.revision) := by
  unfold mergeReply withReply
  cases r.presence.replyTuple <;> cases r.replyTuple <;> try rfl
  -- a reply tuple is present: it is known already, or it is indexed
  dsimp only
  split_ifs
  · rfl
  · exact lasting_indexLocked _ _

theorem mergeReply_unchanged {s : RuntimeStore} {r : Record} {v : RuntimeSession}
    (unchanged : (mergeReply s r v).2.2 = false) : core (withReply r v) = core v := by
  unfold mergeReply at unchanged
  unfold withReply
  cases present : r.presence.replyTuple <;> cases carried : r.replyTuple <;> try rfl
  simp only [present, carried] at unchanged ⊢
  split_ifs at unchanged ⊢
  rfl

theorem lasting_mergeCounters : lasting (mergeCounters r now v).1 = lasting v := by
  unfold mergeCounters
  dsimp only
  split_ifs <;> rfl

theorem lasting_mergeTimeout : lasting (mergeTimeout r now v) = lasting v := by
  unfold mergeTimeout
  split_ifs <;> rfl

theorem lasting_mergeState [CaseMap] : lasting (mergeState r now v).1 = lasting v := by
  unfold mergeState
  dsimp only
  split_ifs <;> rfl

theorem lasting_mergeMark : lasting (mergeMark r v).1 = lasting v := by
  unfold mergeMark
  dsimp only
  split_ifs <;> rfl

theorem lasting_mergeTracking : lasting (mergeTracking v) = lasting v := by
  unfold mergeTracking
  split_ifs <;> rfl

def mergedSession [CaseMap] (s : RuntimeStore) (r : Record) (now : Time) (v : RuntimeSession) : RuntimeSession :=
  mergeTracking (mergeMark r (mergeState r now (mergeTimeout r now
    (mergeCounters r now (mergeReply s r (mergeIdentity r v).1).2.1).1)).1).1

theorem lasting_mergedSession [CaseMap] :
    lasting (mergedSession s r now v) =
      (core (withReply r v), learnIdentity r v.identity, v.decisionReason, v.revision) := by
  have learned := lasting_mergeIdentity r v
  simp only [lasting, Prod.mk.injEq] at learned
  obtain ⟨same, identity, reason, revision⟩ := learned
  rw [mergedSession, lasting_mergeTracking, lasting_mergeMark, lasting_mergeState, lasting_mergeTimeout,
    lasting_mergeCounters, lasting_mergeReply, core_withReply_congr r same, identity, reason, revision]

/-! ## The live map -/

namespace RuntimeStore

section
variable (s : RuntimeStore) (id : String) (existing : RuntimeSession) (r : Record) (v : RuntimeSession) (now : Time)

@[simp] theorem byID_rememberIdentityLocked (identity : ConntrackIdentity) :
    (s.rememberIdentityLocked id identity).byID = s.byID := by
  unfold rememberIdentityLocked
  dsimp only
  split_ifs
  · rfl
  all_goals
    split
    · rfl
    · split_ifs <;> rfl

@[simp] theorem byID_indexLocked : (s.indexLocked v).1.byID = s.byID := rfl

@[simp] theorem byID_mergeReply : (mergeReply s r v).1.byID = s.byID := by
  unfold mergeReply
  split
  · split_ifs <;> rfl
  · rfl

theorem byID_mergeLocked [CaseMap] :
    (s.mergeLocked id existing r now).1.byID = s.byID.insert id (s.mergeLocked id existing r now).2.1 := by
  unfold mergeLocked
  simp

theorem byID_mergeInto [CaseMap] : (s.mergeInto id existing r now).1.byID =
    s.byID.insert id ((s.rememberIdentityLocked id r.identity).mergeLocked id existing r now).2.1 := by
  rw [mergeInto, byID_mergeLocked, byID_rememberIdentityLocked]

theorem session_mergeLocked [CaseMap] :
    (s.mergeLocked id existing r now).2.1 =
      { mergedSession s r now existing with
        revision := if (s.mergeLocked id existing r now).2.2 then existing.revision + 1 else existing.revision } := by
  have revision : (mergedSession s r now existing).revision = existing.revision :=
    congrArg (·.2.2.2) (lasting_mergedSession s r now existing)
  simp only [mergeLocked]
  split_ifs <;> rw [← revision] <;> rfl

theorem core_mergeLocked [CaseMap] : core (s.mergeLocked id existing r now).2.1 = core (withReply r existing) := by
  rw [session_mergeLocked]
  exact congrArg Prod.fst (lasting_mergedSession s r now existing)

theorem identity_mergeLocked [CaseMap] :
    (s.mergeLocked id existing r now).2.1.identity = learnIdentity r existing.identity := by
  rw [session_mergeLocked]
  exact congrArg (·.2.1) (lasting_mergedSession s r now existing)

end

variable {s : RuntimeStore} {id : String} {existing : RuntimeSession} {record : Record}

theorem core_mergeLocked_unchanged [CaseMap]
    {r : Record} {now : Time} (unchanged : (s.mergeLocked id existing r now).2.2 = false) :
    core (withReply r existing) = core existing := by
  have reply : (mergeReply s r (mergeIdentity r existing).1).2.2 = false := by
    simp only [mergeLocked, Bool.or_eq_false_iff] at unchanged
    exact unchanged.1.1.1.1.1.1.2
  rw [← core_withReply_congr r (core_mergeIdentity r existing), mergeReply_unchanged reply, core_mergeIdentity]

def mergeTarget (s : RuntimeStore) (record : Record) : Option (String × RuntimeSession) :=
  let record := completeRecord record
  (s.identifiedSession record.identity).or (s.sameTupleSession record)

inductive Applied [CaseMap] (s : RuntimeStore) (record : Record) :
    RuntimeStore × Except StoreError (RuntimeSession × Bool × Bool) → Prop
  | refused {after : RuntimeStore} {failure : StoreError} (same : after.byID = s.byID) :
      Applied s record (after, .error failure)
  | merged {after : RuntimeStore} {id : String} {existing v : RuntimeSession} {changed : Bool}
      (target : s.mergeTarget record = some (id, existing)) (found : s.byID.lookup id = some existing)
      (put : after.byID = s.byID.insert id v) (same : core v = core (withReply (completeRecord record) existing))
      (unchanged : changed = false → core v = core existing) : Applied s record (after, .ok (v, false, changed))
  | created {after : RuntimeStore} {id : String} {v : RuntimeSession} {now : Time}
      (put : after.byID = s.byID.insert id v)
      (fresh : core v = core (newSession id (completeRecord record) now)) :
      Applied s record (after, .ok (v, true, true))

theorem identifiedSession_live {identity : ConntrackIdentity}
    (found : s.identifiedSession identity = some (id, existing)) : s.byID.lookup id = some existing := by
  unfold identifiedSession at found
  dsimp only at found
  split_ifs at found
  obtain ⟨v, live, pair⟩ := Option.map_eq_some_iff.mp found
  cases pair
  exact live

theorem sameTupleSession_live
    (found : s.sameTupleSession record = some (id, existing)) : s.byID.lookup id = some existing := by
  unfold sameTupleSession at found
  split at found
  · obtain ⟨v, live, pair⟩ := Option.map_eq_some_iff.mp found
    cases pair
    exact (Option.filter_eq_some_iff.mp live).1
  · cases found

theorem mergeTarget_live
    (target : s.mergeTarget record = some (id, existing)) : s.byID.lookup id = some existing := by
  rcases Option.or_eq_some_iff.mp target with identified | ⟨_, sameTuple⟩
  · exact identifiedSession_live identified
  · exact sameTupleSession_live sameTuple

theorem applied_mergeInto [CaseMap] (s : RuntimeStore) (target : s.mergeTarget record = some (id, existing))
    (now : Time) : Applied s record (s.mergeInto id existing (completeRecord record) now) := by
  refine .merged target (mergeTarget_live target) (byID_mergeInto _ _ _ _ _) (core_mergeLocked _ _ _ _ _) ?_
  intro unchanged
  rw [core_mergeLocked, core_mergeLocked_unchanged unchanged]

section
variable (s : RuntimeStore) (record : Record) (now clock : Time)

theorem applied_createLocked [CaseMap] [Stdlib] :
    Applied s record (s.createLocked (completeRecord record) now clock) := by
  unfold createLocked
  split_ifs
  · exact .refused rfl
  · refine .created ?_ (congrArg Prod.fst (lasting_indexLocked _ _))
    simp

structure Starts (s : RuntimeStore) (record : Record) : Prop where
  untaken : s.mergeTarget record = none
  unburied : ∀ tombstone ∈ s.tombstones,
    tombstoneIdentityMatches tombstone.identity (completeRecord record).identity = false

def observedAt (now clock : Time) : Time :=
  if now = 0 then clock else now

theorem applyObserved_cases [CaseMap] [Stdlib] :
    (∃ failure, s.applyObserved record now clock = (s, .error failure)) ∨
    (completeRecord record).originalTuple.valid = true ∧
      ((∃ id existing, s.mergeTarget record = some (id, existing) ∧
        s.applyObserved record now clock =
          s.mergeInto id existing (completeRecord record) (observedAt now clock)) ∨
      s.Starts record ∧
        s.applyObserved record now clock = s.createLocked (completeRecord record) (observedAt now clock) clock) := by
  unfold applyObserved observedAt
  dsimp only
  split
  · exact .inl ⟨_, rfl⟩
  · rename_i valid
    rw [Bool.not_eq_true, Bool.not_eq_false'] at valid
    split
    · rename_i identified
      exact .inr ⟨valid, .inl ⟨_, _, by rw [mergeTarget, identified]; rfl, rfl⟩⟩
    · rename_i unidentified
      split
      · exact .inl ⟨_, rfl⟩
      · rename_i unburied
        split
        · rename_i sameTuple
          exact .inr ⟨valid, .inl ⟨_, _, by rw [mergeTarget, unidentified]; exact sameTuple, rfl⟩⟩
        · rename_i free
          refine .inr ⟨valid, .inr ⟨⟨?_, ?_⟩, rfl⟩⟩
          · rw [mergeTarget, unidentified]
            exact free
          · simpa using unburied

end

theorem applyObserved_starts [CaseMap] [Stdlib]
    (valid : (completeRecord record).originalTuple.valid) (starts : s.Starts record) (now clock : Time) :
    s.applyObserved record now clock =
      s.createLocked (completeRecord record) (if now = 0 then clock else now) clock := by
  obtain ⟨unidentified, free⟩ := Option.or_eq_none_iff.mp starts.untaken
  have unburied : (s.tombstones.any fun tombstone =>
      tombstoneIdentityMatches tombstone.identity (completeRecord record).identity) = false := by
    simpa using starts.unburied
  unfold applyObserved
  simp only [valid, Bool.not_true, Bool.false_eq_true, if_false, unidentified, unburied, free]

section
variable (s : RuntimeStore) (record : Record) (id : String)

theorem applied_applyObserved [CaseMap] [Stdlib] (now clock : Time) :
    Applied s record (s.applyObserved record now clock) := by
  rcases applyObserved_cases s record now clock with
    ⟨failure, refused⟩ | ⟨_, ⟨id, existing, target, merges⟩ | ⟨_, creates⟩⟩
  · rw [refused]
    exact .refused rfl
  · rw [merges]
    exact applied_mergeInto s target _
  · rw [creates]
    exact applied_createLocked s record _ _

def startedID [Stdlib] (s : RuntimeStore) (record : Record) (clock : Time) : String :=
  let id := sessionID (completeRecord record).identity
  if id ∈ s.byID then id ++ "-" ++ hexEncode (Stdlib.formatTime clock).toUTF8.toList else id

@[simp] theorem byID_putSession (v : RuntimeSession) : (s.putSession id v).byID = s.byID.insert id v := rfl

@[simp] theorem byID_countInvalidated : s.countInvalidated.byID = s.byID := rfl

theorem byID_buryLocked (closed : RuntimeSession) (now : Time) :
    (s.buryLocked id closed now).byID = s.byID.erase id := rfl

theorem completeRecord_keeps :
    (completeRecord record).identity.id = record.identity.id ∧
      (completeRecord record).identity.kernelStart = record.identity.kernelStart ∧
      (completeRecord record).identity.bootID = record.identity.bootID ∧
      (completeRecord record).presence = record.presence := by
  unfold completeRecord
  dsimp only
  split_ifs <;> exact ⟨rfl, rfl, rfl, rfl⟩

end

end RuntimeStore

/-- A standard library for runs on fixed records: the SHA-256 sum of a text that is marked and of the other one. -/
@[reducible] def sumTable (marked : List UInt8 → Bool) (sum other : Nat) (time : String) : Stdlib where
  sum256 bytes := bigEndian 32 (if marked bytes then sum else other)
  formatTime _ := time

end Ngfw.Session

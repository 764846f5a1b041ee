import Ngfw.Proof.Session.IndexConsistency

/-! # Merging a record keeps what is known -/

namespace Ngfw.Session
open Lib Domain RuntimeStore

structure Sighting where
  packetsOriginal : UInt64
  bytesOriginal : UInt64
  packetsReply : UInt64
  bytesReply : UInt64
  state : SessionState
  lastSeen : Time
  lastObservedAt : Time
  expiresAt : Option Time
  kernelMark : UInt32
  kernelEpoch : UInt16

def sighting (v : RuntimeSession) : Sighting :=
  ⟨v.packetsOriginal, v.bytesOriginal, v.packetsReply, v.bytesReply, v.state, v.lastSeen, v.lastObservedAt,
    v.expiresAt, v.kernelMark, v.kernelEpoch⟩

def Grows (r : Record) (o : Sighting) : Prop :=
  (counterPresence r.presence).1 = true ∧
      (o.packetsOriginal < r.packetsOriginal ∨ o.bytesOriginal < r.bytesOriginal) ∨
    (counterPresence r.presence).2 = true ∧ (o.packetsReply < r.packetsReply ∨ o.bytesReply < r.bytesReply)

instance (r : Record) (o : Sighting) : Decidable (Grows r o) :=
  inferInstanceAs (Decidable (_ ∨ _))

def nextState [CaseMap] (r : Record) (state : SessionState) : SessionState :=
  let state := if r.tcpState ≠ "" then stateFor r else state
  if r.seenReply ∧ state = .new then .established else state

def Sighting.count (r : Record) (now : Time) (o : Sighting) : Sighting :=
  { o with
    packetsOriginal :=
      if (counterPresence r.presence).1 then max o.packetsOriginal r.packetsOriginal else o.packetsOriginal
    bytesOriginal := if (counterPresence r.presence).1 then max o.bytesOriginal r.bytesOriginal else o.bytesOriginal
    packetsReply := if (counterPresence r.presence).2 then max o.packetsReply r.packetsReply else o.packetsReply
    bytesReply := if (counterPresence r.presence).2 then max o.bytesReply r.bytesReply else o.bytesReply
    lastSeen := if Grows r o then now else o.lastSeen }

def Sighting.observe [CaseMap] (r : Record) (now : Time) (o : Sighting) : Sighting :=
  { o.count r now with
    state := nextState r o.state
    lastSeen := if nextState r o.state ≠ o.state then now else (o.count r now).lastSeen
    lastObservedAt := now
    expiresAt := if r.presence.timeout then some (now + r.timeout) else o.expiresAt
    kernelMark := if r.presence.mark then r.mark else o.kernelMark
    kernelEpoch :=
      if r.presence.mark ∧ o.kernelMark ≠ r.mark then (r.mark >>> 20).toUInt16 else o.kernelEpoch }

/-! ## What each part of a merge writes -/

section
variable (s : RuntimeStore) (r : Record) (now : Time) (v : RuntimeSession)

theorem sighting_mergeIdentity : sighting (mergeIdentity r v).1 = sighting v := by
  unfold mergeIdentity
  dsimp only
  split_ifs <;> rfl

theorem sighting_indexLocked : sighting (s.indexLocked v).2 = sighting v := by
  unfold indexLocked
  dsimp only
  split_ifs <;> rfl

theorem sighting_mergeReply : sighting (mergeReply s r v).2.1 = sighting v := by
  unfold mergeReply
  split
  · split_ifs
    · rfl
    · exact sighting_indexLocked _ _
  · rfl

theorem sighting_mergeCounters : sighting (mergeCounters r now v).1 = (sighting v).count r now := by
  unfold mergeCounters Sighting.count Grows sighting
  by_cases original : (counterPresence r.presence).1 = true <;>
    by_cases reply : (counterPresence r.presence).2 = true <;>
    simp only [original, reply, Bool.false_eq_true, if_false, if_true, false_and, or_false, true_and, false_or,
      decide_false, decide_eq_true_eq, removeMissing]
  all_goals split_ifs <;> first | rfl | grind

theorem sighting_mergeTimeout :
    sighting (mergeTimeout r now v) =
      { sighting v with
        expiresAt := if r.presence.timeout then some (now + r.timeout) else (sighting v).expiresAt } := by
  unfold mergeTimeout
  split_ifs <;> rfl

theorem sighting_mergeState [CaseMap] :
    sighting (mergeState r now v).1 =
      { sighting v with
        state := nextState r (sighting v).state
        lastSeen := if nextState r (sighting v).state ≠ (sighting v).state then now else (sighting v).lastSeen
        lastObservedAt := now } := by
  unfold mergeState nextState stateFor sighting
  by_cases named : r.tcpState = "" <;> by_cases answered : r.seenReply = true <;>
    simp only [named, answered] <;> split_ifs <;> simp_all

theorem sighting_mergeMark :
    sighting (mergeMark r v).1 =
      { sighting v with
        kernelMark := if r.presence.mark then r.mark else (sighting v).kernelMark
        kernelEpoch :=
          if r.presence.mark ∧ (sighting v).kernelMark ≠ r.mark then (r.mark >>> 20).toUInt16
          else (sighting v).kernelEpoch } := by
  unfold mergeMark sighting
  by_cases marked : r.presence.mark = true <;> by_cases same : v.kernelMark = r.mark <;>
    simp [marked, same, removeMissing]

theorem sighting_mergeTracking : sighting (mergeTracking v) = sighting v := by
  unfold mergeTracking
  split_ifs <;> rfl

theorem sighting_mergedSession [CaseMap] : sighting (mergedSession s r now v) = (sighting v).observe r now := by
  rw [mergedSession, sighting_mergeTracking, sighting_mergeMark, sighting_mergeState, sighting_mergeTimeout,
    sighting_mergeCounters, sighting_mergeReply, sighting_mergeIdentity]
  rfl

end

/-! ## What a merge keeps -/

structure KeepsKnowledge (presence : Presence) (now : Time) (v w : RuntimeSession) (changed : Bool) : Prop where
  packetsOriginal : v.packetsOriginal ≤ w.packetsOriginal
  bytesOriginal : v.bytesOriginal ≤ w.bytesOriginal
  packetsReply : v.packetsReply ≤ w.packetsReply
  bytesReply : v.bytesReply ≤ w.bytesReply
  countersOriginal : (counterPresence presence).1 = false →
    w.packetsOriginal = v.packetsOriginal ∧ w.bytesOriginal = v.bytesOriginal
  countersReply : (counterPresence presence).2 = false →
    w.packetsReply = v.packetsReply ∧ w.bytesReply = v.bytesReply
  replyTuple : presence.replyTuple = false →
    w.replyTuple = v.replyTuple ∧ w.translatedTuple = v.translatedTuple ∧ w.nat = v.nat
  mark : presence.mark = false → w.kernelMark = v.kernelMark ∧ w.kernelEpoch = v.kernelEpoch
  timeout : presence.timeout = false → w.expiresAt = v.expiresAt
  lastSeen : w.lastSeen ≠ v.lastSeen →
    v.packetsOriginal < w.packetsOriginal ∨ v.bytesOriginal < w.bytesOriginal ∨ v.packetsReply < w.packetsReply ∨
      v.bytesReply < w.bytesReply ∨ w.state ≠ v.state
  lastObservedAt : w.lastObservedAt = now
  revision : w.revision = if changed then v.revision + 1 else v.revision

theorem max_uint64 (a b : UInt64) : max a b = if a ≤ b then b else a := rfl

theorem le_grown (carried : Bool) (a b : UInt64) : a ≤ if carried then max a b else a := by
  rw [max_uint64]
  grind

theorem lt_grown {carried : Bool} {a b : UInt64} (present : carried) (less : a < b) :
    a < if carried then max a b else a := by
  rw [max_uint64]
  grind

theorem keepsKnowledge_mergeLocked [CaseMap] (s : RuntimeStore) (id : String) (v : RuntimeSession) (r : Record)
    (now : Time) :
    KeepsKnowledge r.presence now v (s.mergeLocked id v r now).2.1 (s.mergeLocked id v r now).2.2 := by
  have same := sighting_mergedSession s r now v
  have kept := core_mergeLocked s id v r now
  rw [session_mergeLocked s id v r now] at kept ⊢
  generalize mergedSession s r now v = w at same kept ⊢
  have packetsOriginal : w.packetsOriginal = _ := congrArg Sighting.packetsOriginal same
  have bytesOriginal : w.bytesOriginal = _ := congrArg Sighting.bytesOriginal same
  have packetsReply : w.packetsReply = _ := congrArg Sighting.packetsReply same
  have bytesReply : w.bytesReply = _ := congrArg Sighting.bytesReply same
  have state : w.state = nextState r v.state := congrArg Sighting.state same
  have lastSeen : w.lastSeen = if nextState r v.state ≠ v.state then now
      else if Grows r (sighting v) then now else v.lastSeen := congrArg Sighting.lastSeen same
  have lastObservedAt : w.lastObservedAt = now := congrArg Sighting.lastObservedAt same
  have expiresAt : w.expiresAt = if r.presence.timeout then some (now + r.timeout) else v.expiresAt :=
    congrArg Sighting.expiresAt same
  have kernelMark : w.kernelMark = if r.presence.mark then r.mark else v.kernelMark :=
    congrArg Sighting.kernelMark same
  have kernelEpoch : w.kernelEpoch = if r.presence.mark ∧ v.kernelMark ≠ r.mark then (r.mark >>> 20).toUInt16
      else v.kernelEpoch := congrArg Sighting.kernelEpoch same
  simp only [Sighting.observe, Sighting.count] at packetsOriginal bytesOriginal packetsReply bytesReply
  refine
    { packetsOriginal := packetsOriginal ▸ le_grown _ _ _
      bytesOriginal := bytesOriginal ▸ le_grown _ _ _
      packetsReply := packetsReply ▸ le_grown _ _ _
      bytesReply := bytesReply ▸ le_grown _ _ _
      countersOriginal := fun absent => ⟨?_, ?_⟩
      countersReply := fun absent => ⟨?_, ?_⟩
      replyTuple := fun absent => ?_
      mark := fun absent => ⟨?_, ?_⟩
      timeout := fun absent => ?_
      lastSeen := fun moved => ?_
      lastObservedAt := lastObservedAt
      revision := rfl }
  · rw [packetsOriginal, absent]
    rfl
  · rw [bytesOriginal, absent]
    rfl
  · rw [packetsReply, absent]
    rfl
  · rw [bytesReply, absent]
    rfl
  · have untouched : withReply r v = v := by
      unfold withReply
      rw [absent]
    rw [untouched] at kept
    exact ⟨congrArg Core.replyTuple kept, congrArg Core.translatedTuple kept, congrArg Core.nat kept⟩
  · rw [kernelMark, absent]
    rfl
  · rw [kernelEpoch, absent]
    simp
  · rw [expiresAt, absent]
    rfl
  · by_cases moves : nextState r v.state = v.state
    · by_cases grows : Grows r (sighting v)
      · rw [packetsOriginal, bytesOriginal, packetsReply, bytesReply]
        rcases grows with ⟨present, packets | bytes⟩ | ⟨present, packets | bytes⟩
        · exact .inl (lt_grown present packets)
        · exact .inr (.inl (lt_grown present bytes))
        · exact .inr (.inr (.inl (lt_grown present packets)))
        · exact .inr (.inr (.inr (.inl (lt_grown present bytes))))
      · rw [if_neg (not_not_intro moves), if_neg grows] at lastSeen
        exact absurd lastSeen moved
    · exact .inr (.inr (.inr (.inr (state ▸ moves))))

/-! ## Sequences of merges -/

def MergesInto [CaseMap] [Stdlib] (id : String) (s : RuntimeStore) : StoreOp → Prop
  | .applyObserved record now clock => ((s.applyObserved record now clock).2.toOption.any fun result =>
    decide (result.2.1 = false ∧ result.1.sessionID = id)) = true
  | _ => False

theorem applyObserved_merges [CaseMap] [Stdlib] {s : RuntimeStore} (indexed : Indexed s) {id : String}
    {record : Record} {now clock : Time} (merges : MergesInto id s (.applyObserved record now clock)) :
    ∃ v w changed, s.byID.lookup id = some v ∧ (s.applyObserved record now clock).2 = .ok (w, false, changed) ∧
      (s.applyObserved record now clock).1.byID.lookup id = some w ∧
      KeepsKnowledge record.presence (observedAt now clock) v w changed := by
  obtain ⟨w, changed, reported, named⟩ : ∃ w changed,
      (s.applyObserved record now clock).2 = .ok (w, false, changed) ∧ w.sessionID = id := by
    simp only [MergesInto] at merges
    cases result : (s.applyObserved record now clock).2 with
    | error failure => simp [result, Except.toOption] at merges
    | ok value =>
      obtain ⟨w, created, changed⟩ := value
      obtain ⟨rfl, named⟩ : created = false ∧ w.sessionID = id := by simpa [result, Except.toOption] using merges
      exact ⟨w, changed, rfl, named⟩
  rcases s.applyObserved_cases record now clock with
    ⟨failure, refused⟩ | ⟨_, ⟨other, v, target, result⟩ | ⟨_, creates⟩⟩
  · rw [refused] at reported
    cases reported
  · rw [result] at reported ⊢
    have found := mergeTarget_live target
    simp only [mergeInto] at reported ⊢
    generalize remembers : s.rememberIdentityLocked other (completeRecord record).identity = known
      at reported ⊢
    have knowledge := keepsKnowledge_mergeLocked known other v (completeRecord record)
      (observedAt now clock)
    have put := known.byID_mergeLocked other v (completeRecord record)
      (observedAt now clock)
    have same := known.core_mergeLocked other v (completeRecord record)
      (observedAt now clock)
    rw [(completeRecord_keeps record).2.2.2] at knowledge
    generalize known.mergeLocked other v (completeRecord record) (observedAt now clock) =
      merged at reported knowledge put same ⊢
    cases reported
    obtain rfl : other = id := by
      have kept : merged.2.1.sessionID = _ := congrArg Core.sessionID same
      rw [← named, kept]
      exact ((withReply_keeps _ v).1.trans (indexed.filed other v found).named).symm
    exact ⟨v, _, _, found, rfl, by rw [put, AList.lookup_insert], knowledge⟩
  · rw [creates] at reported
    unfold createLocked at reported
    split_ifs at reported
    cases reported

structure CountsUp (v w : RuntimeSession) : Prop where
  packetsOriginal : v.packetsOriginal ≤ w.packetsOriginal
  bytesOriginal : v.bytesOriginal ≤ w.bytesOriginal
  packetsReply : v.packetsReply ≤ w.packetsReply
  bytesReply : v.bytesReply ≤ w.bytesReply

theorem CountsUp.trans {u v w : RuntimeSession} (first : CountsUp u v) (second : CountsUp v w) : CountsUp u w :=
  ⟨UInt64.le_trans first.1 second.1, UInt64.le_trans first.2 second.2, UInt64.le_trans first.3 second.3,
    UInt64.le_trans first.4 second.4⟩

theorem countsUp_run [CaseMap] [Stdlib] {s : RuntimeStore} (indexed : Indexed s) {id : String} {v : RuntimeSession}
    (live : s.byID.lookup id = some v) {ops : List StoreOp} (merges : Allowed (MergesInto id) exec s ops) :
    ∃ w, (ops.foldl exec s).byID.lookup id = some w ∧ CountsUp v w := by
  induction ops generalizing s v with
  | nil => exact ⟨v, live, ⟨UInt64.le_refl _, UInt64.le_refl _, UInt64.le_refl _, UInt64.le_refl _⟩⟩
  | cons op rest ih =>
    obtain ⟨first, others⟩ := merges
    cases op with
    | applyObserved record now clock =>
      obtain ⟨old, new, changed, found, _, after, kept⟩ := applyObserved_merges indexed first
      obtain rfl : old = v := Option.some.inj (found.symm.trans live)
      obtain ⟨w, last, further⟩ := ih (indexed.exec (.applyObserved record now clock)) after others
      exact ⟨w, last, .trans ⟨kept.1, kept.2, kept.3, kept.4⟩ further⟩
    | _ => exact first.elim

theorem merging_never_loses_knowledge [CaseMap] [Stdlib] (s : RuntimeStore)
    (reached : Reachable NewStore (fun _ _ => True) exec s) (id : String) (v : RuntimeSession)
    (live : s.byID.lookup id = some v) (before : List StoreOp) (record : Record) (now clock : Time)
    (merges : Allowed (MergesInto id) exec s (before ++ [.applyObserved record now clock])) :
    ∃ old new changed, (before.foldl exec s).byID.lookup id = some old ∧
      ((before.foldl exec s).applyObserved record now clock).2 = .ok (new, false, changed) ∧
      ((before ++ [StoreOp.applyObserved record now clock]).foldl exec s).byID.lookup id = some new ∧
      KeepsKnowledge record.presence (observedAt now clock) old new changed ∧
      CountsUp v old ∧ CountsUp v new := by
  obtain ⟨earlier, last, -⟩ := allowed_append.mp merges
  have indexed := indexed_of_reachable (reached.run (allowed_of_forall (fun _ _ => trivial) s before))
  obtain ⟨old, new, changed, found, reported, after, kept⟩ := applyObserved_merges indexed last
  obtain ⟨same, there, counts⟩ := countsUp_run (indexed_of_reachable reached) live earlier
  obtain rfl : same = old := Option.some.inj (there.symm.trans found)
  refine ⟨same, new, changed, found, reported, ?_, kept, counts, counts.trans ⟨kept.1, kept.2, kept.3, kept.4⟩⟩
  rw [List.foldl_append]
  exact after

section
attribute [local instance] Text.asciiCaseMap natStdlib

def countingRecord : Record :=
  { partialRecord natTuple 7 0 none with
    packetsOriginal := 3
    presence := { originalTuple := true, id := true, countersOriginal := true } }

theorem merging_never_loses_knowledge_nat :
    ∃ old new changed, natSessionStore.byID.lookup "sess-56831265c1f4ac0be5536cdfd69c6b2e" = some old ∧
      (natSessionStore.applyObserved countingRecord 2 2).2 = .ok (new, false, changed) ∧
      KeepsKnowledge countingRecord.presence 2 old new changed := by
  obtain ⟨v, live⟩ := GoMap.exists_lookup_of_mem
    (show "sess-56831265c1f4ac0be5536cdfd69c6b2e" ∈ natSessionStore.byID by decide +kernel)
  obtain ⟨old, new, changed, found, reported, -, kept, -⟩ := merging_never_loses_knowledge natSessionStore
    (.next _ (.start ⟨_, rfl⟩) trivial) _ v live [] countingRecord 2 2
    ⟨by rw [MergesInto]; decide +kernel, trivial⟩
  exact ⟨old, new, changed, found, reported, kept⟩

end

end Ngfw.Session

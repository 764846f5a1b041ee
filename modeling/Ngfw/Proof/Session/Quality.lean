import Ngfw.Proof.Session.Merge

/-! # What a session says about its own identity -/

namespace Ngfw.Session
open Lib Domain RuntimeStore

structure IdentityTruthful (v : RuntimeSession) : Prop where
  complete : v.quality.identityConfidence = .complete ↔
    .kernelStart ∉ v.quality.missingFields ∧ .conntrackID ∉ v.quality.missingFields
  kernelStart : .kernelStart ∈ v.quality.missingFields ↔ v.identity.kernelStart = 0
  conntrackID : .conntrackID ∈ v.quality.missingFields ↔ v.identity.id = 0

def CountersTruthful (v : RuntimeSession) : Prop :=
  .counters ∈ v.quality.missingFields ↔
    .countersOriginal ∈ v.quality.missingFields ∨ .countersReply ∈ v.quality.missingFields

structure FlagsMatch (record : Record) : Prop where
  timestamp : record.presence.timestamp = true ↔ record.kernelStart ≠ 0
  kernelStart : record.presence.timestamp = true ↔ record.identity.kernelStart ≠ 0
  id : record.presence.id = true ↔ record.identity.id ≠ 0

/-- The record tells the conntrack ID of a session that lacks other fields besides, or the start but not the ID of one
that lacks both. -/
def Misjudges (r : Record) (v : RuntimeSession) : Prop :=
  v.identity.kernelStart ≠ 0 ∧ v.identity.id = 0 ∧ r.identity.id ≠ 0 ∧
      (∃ field ∈ v.quality.missingFields, field ≠ .conntrackID) ∨
    v.identity.kernelStart = 0 ∧ v.identity.id = 0 ∧ r.identity.kernelStart ≠ 0 ∧ r.identity.id = 0

section
variable {s : RuntimeStore} {r : Record} {now : Time} {v w : RuntimeSession} {field target : MissingField}

theorem mem_removeMissing :
    field ∈ (removeMissing target v).quality.missingFields ↔ field ∈ v.quality.missingFields ∧
      field ≠ target := by
  simp [removeMissing]

/-! ## Learning the identity -/

def learnStart (r : Record) (v : RuntimeSession) : RuntimeSession :=
  removeMissing .kernelStart
    { v with
      identity := { v.identity with kernelStart := r.identity.kernelStart }
      quality := { v.quality with identityConfidence := .complete } }

def learnID (r : Record) (v : RuntimeSession) : RuntimeSession :=
  let v := removeMissing .conntrackID { v with identity := { v.identity with id := r.identity.id } }
  if v.quality.identityConfidence = .partially ∧ v.quality.missingFields = [] then
    { v with quality := { v.quality with identityConfidence := .complete } }
  else v

theorem mergeIdentity_eq (flags : FlagsMatch r) (v : RuntimeSession) :
    (mergeIdentity r v).1 =
      let v := if v.identity.kernelStart = 0 ∧ r.identity.kernelStart ≠ 0 then learnStart r v else v
      if v.identity.id = 0 ∧ r.identity.id ≠ 0 then learnID r v else v := by
  have starts (w : RuntimeSession) : (w.identity.kernelStart = 0 ∧ r.identity.kernelStart ≠ 0 ∧
      r.presence.timestamp = true) = (w.identity.kernelStart = 0 ∧ r.identity.kernelStart ≠ 0) := by
    rw [flags.kernelStart, and_self]
  have identifies (w : RuntimeSession) : (w.identity.id = 0 ∧ r.identity.id ≠ 0 ∧ r.presence.id = true) =
      (w.identity.id = 0 ∧ r.identity.id ≠ 0) := by
    rw [flags.id, and_self]
  have unfolded : (mergeIdentity r v).1 =
      let v := if decide (v.identity.kernelStart = 0 ∧ r.identity.kernelStart ≠ 0 ∧
          r.presence.timestamp = true) then learnStart r v else v
      if decide (v.identity.id = 0 ∧ r.identity.id ≠ 0 ∧ r.presence.id = true) then learnID r v else v := rfl
  simp only [unfolded, starts, identifies, decide_eq_true_eq]

theorem mem_learnStart :
    field ∈ (learnStart r v).quality.missingFields ↔ field ∈ v.quality.missingFields ∧
      field ≠ .kernelStart := by
  rw [learnStart, mem_removeMissing]

theorem mem_learnID :
    field ∈ (learnID r v).quality.missingFields ↔ field ∈ v.quality.missingFields ∧ field ≠ .conntrackID := by
  unfold learnID
  dsimp only
  split_ifs <;> exact mem_removeMissing

theorem identity_learnID : (learnID r v).identity = { v.identity with id := r.identity.id } := by
  unfold learnID
  dsimp only
  split_ifs <;> rfl

theorem complete_learnID (definite : v.quality.identityConfidence ≠ .ambiguous) :
    (learnID r v).quality.identityConfidence = .complete ↔
      v.quality.identityConfidence = .complete ∨ ∀ field ∈ v.quality.missingFields, field = .conntrackID := by
  have empty : (removeMissing .conntrackID
      { v with identity := { v.identity with id := r.identity.id } }).quality.missingFields = [] ↔
        ∀ field ∈ v.quality.missingFields, field = .conntrackID := by
    simp [removeMissing]
  unfold learnID
  dsimp only
  split_ifs with finishes
  · exact iff_of_true rfl (.inr (empty.mp finishes.2))
  · constructor
    · exact .inl
    · rintro (complete | only)
      · exact complete
      · cases confidence : v.quality.identityConfidence with
        | complete => exact confidence
        | partially => exact absurd ⟨confidence, empty.mpr only⟩ finishes
        | ambiguous => exact absurd confidence definite

theorem identityTruthful_learnStart (truthful : IdentityTruthful v) (tells : r.identity.kernelStart ≠ 0) :
    IdentityTruthful (learnStart r v) ↔ v.identity.id ≠ 0 := by
  have missing : .conntrackID ∈ (learnStart r v).quality.missingFields ↔ v.identity.id = 0 := by
    simp [mem_learnStart, truthful.conntrackID]
  have start : .kernelStart ∉ (learnStart r v).quality.missingFields := by
    simp [mem_learnStart]
  constructor
  · intro learned
    exact fun zero => (learned.complete.mp rfl).2 (missing.mpr zero)
  · intro known
    exact ⟨iff_of_true rfl ⟨start, fun lacking => known (missing.mp lacking)⟩,
      iff_of_false start tells, missing⟩

theorem identityTruthful_learnID (truthful : IdentityTruthful v)
    (definite : v.quality.identityConfidence ≠ .ambiguous) (lacks : v.identity.id = 0) (tells : r.identity.id ≠ 0) :
    IdentityTruthful (learnID r v) ↔
      (v.identity.kernelStart ≠ 0 → ∀ field ∈ v.quality.missingFields, field = .conntrackID) := by
  have unsure : v.quality.identityConfidence ≠ .complete := fun complete =>
    (truthful.complete.mp complete).2 (truthful.conntrackID.mpr lacks)
  have start : .kernelStart ∈ (learnID r v).quality.missingFields ↔ v.identity.kernelStart = 0 := by
    simp [mem_learnID, truthful.kernelStart]
  have id : .conntrackID ∉ (learnID r v).quality.missingFields := by
    simp [mem_learnID]
  have complete := complete_learnID (r := r) definite
  simp only [unsure, false_or] at complete
  constructor
  · intro learned known
    exact complete.mp (learned.complete.mpr ⟨fun lacking => known (start.mp lacking), id⟩)
  · intro alone
    refine ⟨?_, by rw [start, identity_learnID], iff_of_false id (by rw [identity_learnID]; exact tells)⟩
    rw [complete, start]
    constructor
    · intro only
      refine ⟨fun zero => ?_, id⟩
      exact absurd (only _ (truthful.kernelStart.mpr zero)) (by decide)
    · intro both
      exact alone both.1

theorem identityTruthful_learn (start : r.identity.kernelStart ≠ 0) (id : r.identity.id ≠ 0) :
    IdentityTruthful (learnID r (learnStart r v)) := by
  have complete : (learnID r (learnStart r v)).quality.identityConfidence = .complete :=
    (complete_learnID (by simp [learnStart, removeMissing])).mpr (.inl rfl)
  have noStart : .kernelStart ∉ (learnID r (learnStart r v)).quality.missingFields := by
    simp [mem_learnID, mem_learnStart]
  have noID : .conntrackID ∉ (learnID r (learnStart r v)).quality.missingFields := by
    simp [mem_learnID]
  refine ⟨iff_of_true complete ⟨noStart, noID⟩, iff_of_false noStart ?_, iff_of_false noID ?_⟩
  · rw [identity_learnID]
    exact start
  · rw [identity_learnID]
    exact id

theorem identityTruthful_mergeIdentity_iff (truthful : IdentityTruthful v)
    (definite : v.quality.identityConfidence ≠ .ambiguous) (flags : FlagsMatch r) :
    IdentityTruthful (mergeIdentity r v).1 ↔ ¬Misjudges r v := by
  rw [mergeIdentity_eq flags]
  by_cases learnsStart : v.identity.kernelStart = 0 ∧ r.identity.kernelStart ≠ 0
  · simp only [learnsStart, ne_eq, not_false_eq_true, and_self, if_true]
    by_cases learnsID : v.identity.id = 0 ∧ r.identity.id ≠ 0
    · rw [if_pos (show (learnStart r v).identity.id = 0 ∧ _ from learnsID)]
      refine iff_of_true (identityTruthful_learn learnsStart.2 learnsID.2) ?_
      rintro (⟨known, _⟩ | ⟨_, _, _, silent⟩)
      · exact known learnsStart.1
      · exact learnsID.2 silent
    · rw [if_neg (show ¬((learnStart r v).identity.id = 0 ∧ _) from learnsID),
        identityTruthful_learnStart truthful learnsStart.2]
      unfold Misjudges
      tauto
  · simp only [learnsStart, if_false]
    by_cases learnsID : v.identity.id = 0 ∧ r.identity.id ≠ 0
    · rw [if_pos learnsID, identityTruthful_learnID truthful definite learnsID.1 learnsID.2]
      simp [Misjudges, learnsID]
    · rw [if_neg learnsID]
      refine iff_of_true truthful ?_
      unfold Misjudges
      tauto

/-! ## The rest of a merge -/

structure Sheds (fields : List MissingField) (v w : RuntimeSession) : Prop where
  identity : w.identity = v.identity
  confidence : w.quality.identityConfidence = v.quality.identityConfidence
  listed : ∀ field ∉ fields, (field ∈ w.quality.missingFields ↔ field ∈ v.quality.missingFields)

theorem Sheds.refl (fields : List MissingField) (v : RuntimeSession) : Sheds fields v v :=
  ⟨rfl, rfl, fun _ _ => Iff.rfl⟩

theorem Sheds.trans {u : RuntimeSession} {first second : List MissingField} (before : Sheds first u v)
    (after : Sheds second v w) : Sheds (first ++ second) u w := by
  refine ⟨after.identity.trans before.identity, after.confidence.trans before.confidence, fun field other => ?_⟩
  rw [List.mem_append, not_or] at other
  rw [after.listed field other.2, before.listed field other.1]

theorem sheds_removeMissing (same : w.identity = v.identity)
    (gap : gaps w = gaps v) : Sheds [target] v (removeMissing target w) := by
  refine ⟨same, congrArg Prod.snd gap, fun field other => ?_⟩
  have listed : w.quality.missingFields = v.quality.missingFields := congrArg Prod.fst gap
  rw [mem_removeMissing, listed]
  exact and_iff_left (by simpa using other)

section
variable (s r now v)

theorem gaps_indexLocked : gaps (s.indexLocked v).2 = gaps v := by
  unfold indexLocked
  dsimp only
  split_ifs <;> rfl

theorem sheds_mergeReply : Sheds [.replyTuple] v (mergeReply s r v).2.1 := by
  unfold mergeReply
  split
  · split_ifs
    · exact sheds_removeMissing rfl rfl
    · exact sheds_removeMissing (congrArg (·.2.1) (lasting_indexLocked _ _)) (gaps_indexLocked _ _)
  · exact .refl _ v

theorem sheds_mergeCounters : Sheds [.countersOriginal, .countersReply, .counters] v (mergeCounters r now v).1 := by
  have listed (field : MissingField)
      (other : field ∉ [MissingField.countersOriginal, .countersReply, .counters]) :
      field ≠ .countersOriginal ∧ field ≠ .countersReply ∧ field ≠ .counters := by simpa using other
  unfold mergeCounters
  dsimp only
  split_ifs <;> refine ⟨rfl, rfl, fun field other => ?_⟩ <;> simp [removeMissing, listed field other]

theorem sheds_mergeTimeout : Sheds [.timeout] v (mergeTimeout r now v) := by
  unfold mergeTimeout
  split_ifs
  · exact sheds_removeMissing rfl rfl
  · exact .refl _ v

theorem sheds_mergeState [CaseMap] : Sheds [] v (mergeState r now v).1 := by
  unfold mergeState
  dsimp only
  split_ifs <;> exact ⟨rfl, rfl, fun _ _ => Iff.rfl⟩

theorem sheds_mergeMark : Sheds [.mark] v (mergeMark r v).1 := by
  unfold mergeMark
  dsimp only
  split_ifs
  · exact sheds_removeMissing rfl rfl
  · exact sheds_removeMissing rfl rfl
  · exact .refl _ v

theorem sheds_mergeTracking : Sheds [] v (mergeTracking v) := by
  unfold mergeTracking
  split_ifs <;> exact ⟨rfl, rfl, fun _ _ => Iff.rfl⟩

end

theorem Sheds.identityTruthful_iff {fields : List MissingField} (sheds : Sheds fields v w)
    (start : .kernelStart ∉ fields) (id : .conntrackID ∉ fields) : IdentityTruthful w ↔ IdentityTruthful v := by
  have starts := sheds.listed _ start
  have ids := sheds.listed _ id
  constructor
  · rintro ⟨complete, kernelStart, conntrackID⟩
    rw [sheds.confidence, starts, ids] at complete
    rw [starts, sheds.identity] at kernelStart
    rw [ids, sheds.identity] at conntrackID
    exact ⟨complete, kernelStart, conntrackID⟩
  · rintro ⟨complete, kernelStart, conntrackID⟩
    rw [← sheds.confidence, ← starts, ← ids] at complete
    rw [← starts, ← sheds.identity] at kernelStart
    rw [← ids, ← sheds.identity] at conntrackID
    exact ⟨complete, kernelStart, conntrackID⟩

theorem Sheds.countersTruthful {fields : List MissingField} (sheds : Sheds fields v w) (truthful : CountersTruthful v)
    (counters : .counters ∉ fields) (original : .countersOriginal ∉ fields) (reply : .countersReply ∉ fields) :
    CountersTruthful w := by
  unfold CountersTruthful at truthful ⊢
  rw [sheds.listed _ counters, sheds.listed _ original, sheds.listed _ reply]
  exact truthful

theorem countersTruthful_mergeCounters (truthful : CountersTruthful v) (r : Record) (now : Time) :
    CountersTruthful (mergeCounters r now v).1 := by
  unfold CountersTruthful at truthful ⊢
  unfold mergeCounters
  dsimp only
  split_ifs <;> simp_all [removeMissing]

theorem countersTruthful_mergeIdentity (truthful : CountersTruthful v) (r : Record) :
    CountersTruthful (mergeIdentity r v).1 := by
  unfold CountersTruthful at truthful ⊢
  unfold mergeIdentity
  dsimp only
  split_ifs <;> simp_all [removeMissing]

structure Truthful (v : RuntimeSession) : Prop where
  identity : IdentityTruthful v
  counters : CountersTruthful v

theorem sheds_mergedSession [CaseMap] (s : RuntimeStore) (r : Record) (now : Time) (v : RuntimeSession) :
    Sheds [.replyTuple, .countersOriginal, .countersReply, .counters, .timeout, .mark] (mergeIdentity r v).1
      (mergedSession s r now v) :=
  (((((sheds_mergeReply s r _).trans (sheds_mergeCounters r now _)).trans (sheds_mergeTimeout r now _)).trans
    (sheds_mergeState r now _)).trans (sheds_mergeMark r _)).trans (sheds_mergeTracking _)

theorem countersTruthful_mergedSession [CaseMap] (truthful : CountersTruthful v) (s : RuntimeStore) (r : Record)
    (now : Time) : CountersTruthful (mergedSession s r now v) := by
  have replied := (sheds_mergeReply s r _).countersTruthful (countersTruthful_mergeIdentity truthful r)
    (by decide) (by decide) (by decide)
  have counted := countersTruthful_mergeCounters replied r now
  have rest := (((sheds_mergeTimeout r now (mergeCounters r now (mergeReply s r (mergeIdentity r v).1).2.1).1).trans
    (sheds_mergeState r now _)).trans (sheds_mergeMark r _)).trans (sheds_mergeTracking _)
  exact rest.countersTruthful counted (by decide) (by decide) (by decide)

theorem truthful_mergedSession_iff [CaseMap] (s : RuntimeStore) (now : Time) (truthful : Truthful v)
    (definite : v.quality.identityConfidence ≠ .ambiguous) (flags : FlagsMatch r) :
    Truthful (mergedSession s r now v) ↔ ¬Misjudges r v := by
  have judged := (sheds_mergedSession s r now v).identityTruthful_iff (by decide) (by decide)
  rw [← identityTruthful_mergeIdentity_iff truthful.identity definite flags, ← judged]
  exact ⟨fun both => both.identity,
    fun identity => ⟨identity, countersTruthful_mergedSession truthful.counters s r now⟩⟩

theorem definite_mergedSession [CaseMap] (definite : v.quality.identityConfidence ≠ .ambiguous) (s : RuntimeStore)
    (r : Record) (now : Time) : (mergedSession s r now v).quality.identityConfidence ≠ .ambiguous := by
  rw [(sheds_mergedSession s r now v).confidence]
  unfold mergeIdentity
  dsimp only
  split_ifs <;> simp_all [removeMissing]

theorem mem_newSession [CaseMap] {id : String} :
    field ∈ (newSession id r now).quality.missingFields ↔
      match field with
      | .kernelStart => r.presence.timestamp = false ∨ r.kernelStart = 0
      | .conntrackID => r.presence.id = false ∨ r.identity.id = 0
      | .replyTuple => r.presence.replyTuple = false
      | .counters => (counterPresence r.presence).1 = false ∨ (counterPresence r.presence).2 = false
      | .countersOriginal => (counterPresence r.presence).1 = false
      | .countersReply => (counterPresence r.presence).2 = false
      | .timeout => r.presence.timeout = false
      | .mark => r.presence.mark = false := by
  cases field <;> simp [newSession]

theorem truthful_newSession [CaseMap] (flags : FlagsMatch r) (id : String) (now : Time) :
    Truthful (newSession id r now) := by
  have start : r.presence.timestamp = false ∨ r.kernelStart = 0 ↔ r.identity.kernelStart = 0 := by
    have timestamp := flags.timestamp
    have kernelStart := flags.kernelStart
    cases told : r.presence.timestamp <;> simp_all
  have identified : r.presence.id = false ∨ r.identity.id = 0 ↔ r.identity.id = 0 := by
    have told := flags.id
    cases flag : r.presence.id <;> simp_all
  refine ⟨⟨?_, ?_, ?_⟩, ?_⟩
  · rw [mem_newSession, mem_newSession]
    simp [newSession]
  · rw [mem_newSession]
    exact start
  · rw [mem_newSession]
    exact identified
  · rw [CountersTruthful, mem_newSession, mem_newSession, mem_newSession]

/-! ## Whole runs -/

def RuntimeStore.taker (s : RuntimeStore) (record : Record) : Option (String × RuntimeSession) :=
  let record := completeRecord record
  if !record.originalTuple.valid then none
  else (s.identifiedSession record.identity).or
    (if s.tombstones.any fun tombstone => tombstoneIdentityMatches tombstone.identity record.identity then none
      else s.sameTupleSession record)

theorem applyObserved_taker [CaseMap] [Stdlib] (s : RuntimeStore) (record : Record) (now clock : Time) :
    (∃ id v, s.taker record = some (id, v) ∧ s.byID.lookup id = some v ∧
      s.applyObserved record now clock =
        s.mergeInto id v (completeRecord record) (observedAt now clock)) ∨
    s.taker record = none ∧ ((∃ failure, s.applyObserved record now clock = (s, .error failure)) ∨
      s.applyObserved record now clock =
        s.createLocked (completeRecord record) (observedAt now clock) clock) := by
  unfold applyObserved taker observedAt
  dsimp only
  generalize (if now = 0 then clock else now) = time
  split
  · exact .inr ⟨rfl, .inl ⟨_, rfl⟩⟩
  cases identified : s.identifiedSession (completeRecord record).identity with
  | some found => exact .inl ⟨_, _, rfl, identifiedSession_live identified, rfl⟩
  | none =>
    rw [Option.none_or]
    split
    · exact .inr ⟨rfl, .inl ⟨_, rfl⟩⟩
    cases sameTuple : s.sameTupleSession (completeRecord record) with
    | some found => exact .inl ⟨_, _, rfl, sameTupleSession_live sameTuple, rfl⟩
    | none => exact .inr ⟨rfl, .inr rfl⟩

def JudgesTaker (s : RuntimeStore) : StoreOp → Prop
  | .applyObserved record _ _ => ∀ id v, s.taker record = some (id, v) → ¬Misjudges record v
  | _ => True

def OpFlagsMatch : StoreOp → Prop
  | .applyObserved record _ _ => FlagsMatch record
  | _ => True

def StoreTruthful (s : RuntimeStore) : Prop :=
  s.byID.All fun _ v => Truthful v

def StoreDefinite (s : RuntimeStore) : Prop :=
  s.byID.All fun _ v => v.quality.identityConfidence ≠ .ambiguous

theorem misjudges_completeRecord (record : Record) (v : RuntimeSession) :
    Misjudges (completeRecord record) v ↔ Misjudges record v := by
  unfold completeRecord
  dsimp only
  split_ifs <;> exact Iff.rfl

theorem FlagsMatch.completeRecord {record : Record} (flags : FlagsMatch record) :
    FlagsMatch (completeRecord record) := by
  unfold RuntimeStore.completeRecord
  dsimp only
  split_ifs <;> exact ⟨flags.1, flags.2, flags.3⟩

theorem Truthful.of_gaps (truthful : Truthful v) (identity : w.identity = v.identity) (gap : gaps w = gaps v) :
    Truthful w := by
  have sheds : Sheds [] v w := by
    refine ⟨identity, congrArg Prod.snd gap, fun field _ => ?_⟩
    rw [show w.quality.missingFields = v.quality.missingFields from congrArg Prod.fst gap]
  exact ⟨(sheds.identityTruthful_iff (by decide) (by decide)).mpr truthful.identity,
    sheds.countersTruthful truthful.counters (by decide) (by decide) (by decide)⟩

theorem all_changes {holds : RuntimeSession → Prop}
    (stable : ∀ v w : RuntimeSession, holds v → w.identity = v.identity → gaps w = gaps v → holds w)
    {p q : RuntimeStore × Nat} (all : p.1.byID.All fun _ v => holds v) (changes : Changes p q) :
    q.1.byID.All fun _ v => holds v := by
  induction changes with
  | refl => exact all
  | tail _ change ih =>
    cases change with
    | rewrite found same gap =>
      exact GoMap.All.insert ih (stable _ _ (ih _ _ found) (congrArg Anchor.identity same) gap)
    | bury => exact GoMap.All.erase ih _
    | count => exact ih
    | forget => exact ih
    | note => exact ih

theorem mergeInto_put [CaseMap] (s : RuntimeStore) (id : String) (v : RuntimeSession) (r : Record) (now : Time) :
    ∃ known w, (s.mergeInto id v r now).1.byID = s.byID.insert id w ∧
      w.identity = (mergedSession known r now v).identity ∧ gaps w = gaps (mergedSession known r now v) := by
  refine ⟨s.rememberIdentityLocked id r.identity, _, byID_mergeInto _ _ _ _ _, ?_⟩
  rw [session_mergeLocked]
  exact ⟨rfl, rfl⟩

theorem createLocked_put [CaseMap] [Stdlib] (s : RuntimeStore) (record : Record) (now clock : Time) :
    (s.createLocked (completeRecord record) now clock).1.byID = s.byID ∨
      ∃ id w, (s.createLocked (completeRecord record) now clock).1.byID = s.byID.insert id w ∧
        w.identity = (newSession id (completeRecord record) now).identity ∧
        gaps w = gaps (newSession id (completeRecord record) now) := by
  by_cases full : s.limits.maxSessions ≤ s.byID.keys.length
  · unfold createLocked
    rw [if_pos full]
    exact .inl rfl
  · obtain ⟨w, _, started⟩ := started_createLocked s record now clock full
    refine .inr ⟨_, w, started.byID, started.identity, ?_⟩
    rw [started.session, gaps_indexLocked]

theorem definite_of_gaps (v w : RuntimeSession) (definite : v.quality.identityConfidence ≠ .ambiguous)
    (gap : gaps w = gaps v) : w.quality.identityConfidence ≠ .ambiguous := by
  rw [show w.quality.identityConfidence = v.quality.identityConfidence from congrArg Prod.snd gap]
  exact definite

theorem StoreDefinite.exec [CaseMap] [Stdlib] (definite : StoreDefinite s) (op : StoreOp) :
    StoreDefinite (s.exec op) := by
  rcases op.observed_or with ⟨record, now, clock, rfl⟩ | applies
  · rw [RuntimeStore.exec]
    rcases applyObserved_taker s record now clock with
      ⟨id, v, _, found, merges⟩ | ⟨_, ⟨failure, refused⟩ | creates⟩
    · rw [merges]
      obtain ⟨known, w, put, _, gap⟩ := mergeInto_put s id v (completeRecord record)
        (observedAt now clock)
      rw [StoreDefinite, put]
      exact GoMap.All.insert definite (definite_of_gaps _ _ (definite_mergedSession (definite id v found) _ _ _) gap)
    · rw [refused]
      exact definite
    · rw [creates]
      rcases createLocked_put s record (observedAt now clock) clock with
        same | ⟨id, w, put, _, gap⟩
      · rw [StoreDefinite, same]
        exact definite
      · rw [StoreDefinite, put]
        refine GoMap.All.insert definite (definite_of_gaps _ _ ?_ gap)
        simp only [newSession]
        split_ifs <;> decide
  · exact all_changes (p := (s, 0)) (q := (_, 0)) (fun v w kept _ gap => definite_of_gaps v w kept gap) definite
      (Changes.exec s op applies)

theorem storeTruthful_exec_iff [CaseMap] [Stdlib] {op : StoreOp} (flags : OpFlagsMatch op)
    (definite : StoreDefinite s) (truthful : StoreTruthful s) : StoreTruthful (s.exec op) ↔ JudgesTaker s op := by
  rcases op.observed_or with ⟨record, now, clock, rfl⟩ | applies
  · have matched : FlagsMatch (completeRecord record) := FlagsMatch.completeRecord flags
    rw [exec, JudgesTaker]
    rcases applyObserved_taker s record now clock with
      ⟨id, v, taken, found, merges⟩ | ⟨untaken, ⟨failure, refused⟩ | creates⟩
    · rw [merges]
      obtain ⟨known, w, put, identity, gap⟩ := mergeInto_put s id v (completeRecord record)
        (observedAt now clock)
      have exact := truthful_mergedSession_iff known (observedAt now clock)
        (truthful id v found) (definite id v found) matched
      rw [misjudges_completeRecord] at exact
      rw [StoreTruthful, put]
      constructor
      · intro after other u taker
        obtain ⟨rfl, rfl⟩ : id = other ∧ v = u := by simpa [taken] using taker
        exact exact.mp ((after id w (AList.lookup_insert _)).of_gaps identity.symm gap.symm)
      · intro judges
        exact GoMap.All.insert truthful ((exact.mpr (judges id v taken)).of_gaps identity gap)
    · rw [refused]
      exact iff_of_true truthful (fun id v taken => by simp [untaken] at taken)
    · rw [creates]
      refine iff_of_true ?_ (fun id v taken => by simp [untaken] at taken)
      rcases createLocked_put s record (observedAt now clock) clock with
        same | ⟨id, w, put, identity, gap⟩
      · rw [StoreTruthful, same]
        exact truthful
      · rw [StoreTruthful, put]
        exact GoMap.All.insert truthful ((truthful_newSession matched id _).of_gaps identity gap)
  · refine iff_of_true ?_ ?_
    · exact all_changes (p := (s, 0)) (q := (_, 0)) (fun v w kept identity gap => kept.of_gaps identity gap) truthful
        (Changes.exec s op applies)
    · cases op with
      | applyObserved record now clock => exact absurd rfl (applies record now clock)
      | _ => trivial

theorem identity_quality_truthful_iff [CaseMap] [Stdlib] (limits : RuntimeLimits) (ops : List StoreOp)
    (flags : ∀ op ∈ ops, OpFlagsMatch op) :
    Along StoreTruthful exec (newRuntimeStore limits) ops ↔
      Allowed JudgesTaker exec (newRuntimeStore limits) ops := by
  refine along_iff_allowed_of_legal (fun s op definite => definite.exec op)
    (fun s op legal definite truthful => storeTruthful_exec_iff legal definite truthful) ?_ ?_ flags
  · exact GoMap.all_empty
  · exact GoMap.all_empty

end

section
attribute [local instance] Text.asciiCaseMap natStdlib

def matchedRecord (id : UInt32) (kernelStart : UInt64) : Record :=
  { partialRecord natTuple id kernelStart none with kernelStart := kernelStart.toNat }

theorem flagsMatch_matchedRecord (id : UInt32) (kernelStart : UInt64) : FlagsMatch (matchedRecord id kernelStart) := by
  have start : (kernelStart.toNat : Int) ≠ 0 ↔ kernelStart ≠ 0 := by
    rw [Ne, Int.natCast_eq_zero, Ne, ← UInt64.toNat_inj, UInt64.toNat_zero]
  constructor
  · simp only [matchedRecord, partialRecord, decide_eq_true_eq]
    exact start.symm
  · simp [matchedRecord, partialRecord]
  · simp [matchedRecord, partialRecord]

def lateStartRun (id : UInt32) : List StoreOp :=
  [.applyObserved (matchedRecord id 0) 1 1, .applyObserved (matchedRecord id 90) 2 2]

theorem lateStartRun_flags (id : UInt32) : ∀ op ∈ lateStartRun id, OpFlagsMatch op := by
  intro op member
  rcases List.mem_cons.mp member with rfl | member
  · exact flagsMatch_matchedRecord id 0
  · rw [List.mem_singleton.mp member]
    exact flagsMatch_matchedRecord id 90

theorem identity_quality_truthful_iff_nat :
    Along StoreTruthful exec (newRuntimeStore defaultRuntimeLimits) (lateStartRun 7) ∧
      ((lateStartRun 7).foldl exec (newRuntimeStore defaultRuntimeLimits)).byID.values.map
        (·.quality.identityConfidence) = [.complete] := by
  refine ⟨(identity_quality_truthful_iff defaultRuntimeLimits _ (lateStartRun_flags 7)).mpr
    ⟨fun id v taken => ?_, fun id v taken => ?_, trivial⟩, by decide +kernel⟩
  · have untaken : (newRuntimeStore defaultRuntimeLimits).taker (matchedRecord 7 0) = none := by decide +kernel
    simp [untaken] at taken
  · have judges : ∀ found ∈ ((newRuntimeStore defaultRuntimeLimits).exec
      (.applyObserved (matchedRecord 7 0) 1 1)).taker
        (matchedRecord 7 90), ¬Misjudges (matchedRecord 7 90) found.2 := by
      unfold Misjudges
      decide +kernel
    exact judges (id, v) taken

theorem late_start_overrated : (∀ op ∈ lateStartRun 0, OpFlagsMatch op) ∧
    ¬Along StoreTruthful exec (newRuntimeStore defaultRuntimeLimits) (lateStartRun 0) := by
  refine ⟨lateStartRun_flags 0, fun along => ?_⟩
  have truthful : StoreTruthful ((lateStartRun 0).foldl exec (newRuntimeStore defaultRuntimeLimits)) := along.2.2
  have overrated : ∃ v ∈ ((lateStartRun 0).foldl exec (newRuntimeStore defaultRuntimeLimits)).byID.values,
      v.quality.identityConfidence = .complete ∧ .conntrackID ∈ v.quality.missingFields := by decide +kernel
  obtain ⟨v, live, complete, missing⟩ := overrated
  obtain ⟨id, found⟩ := GoMap.mem_values.mp live
  exact ((truthful id v found).identity.complete.mp complete).2 missing

end

end Ngfw.Session

import Ngfw.Proof.Session.Incarnation

/-! # Records of one flow -/

namespace Ngfw.Session
open Lib Domain RuntimeStore

def FitsFlow (identity session : ConntrackIdentity) (tuple : Tuple) : Prop :=
  tuple = identity.original ∧ Compatible "" identity.bootID session.bootID

def KeyFitsFlow (key : ConntrackKey) (session : ConntrackIdentity) (_ : Tuple) : Prop :=
  Compatible "" key.bootID session.bootID

def CarriesOwnTuple (record : Record) : Prop :=
  record.identity.original = {} ∨ record.identity.original = record.originalTuple

/-- A session that the tuple of the record leads to, and that neither a known conntrack ID nor a known start tells
apart from it, is of the same flow and of a boot that does not contradict it. -/
def LeadsToOwnFlow (s : RuntimeStore) (record : Record) : Prop :=
  let r := completeRecord record
  ∀ id v, s.resolveTupleLocked (scopedKey r.identity r.originalTuple) = .ok id → s.byID.lookup id = some v →
    Compatible 0 r.identity.id v.identity.id → Compatible 0 r.identity.kernelStart v.identity.kernelStart →
    r.originalTuple = v.originalTuple ∧ Compatible "" r.identity.bootID v.identity.bootID

def AppliesOwnFlow (s : RuntimeStore) : StoreOp → Prop
  | .applyObserved record _ _ => CarriesOwnTuple record ∧ LeadsToOwnFlow s record
  | _ => True

theorem completeRecord_original {record : Record} (own : CarriesOwnTuple record) :
    (completeRecord record).identity.original = (completeRecord record).originalTuple := by
  have zero : ({} : Tuple).valid = false := by decide
  unfold completeRecord
  dsimp only
  rcases own with none | same
  · simp [none, zero]
  · by_cases empty : record.originalTuple = {}
    · simp [same, empty, zero]
    · simp [same, empty]

section
variable {s : RuntimeStore}

theorem sameFlow_of_mergeTarget (tied : Tied FitsFlow KeyFitsFlow s) {record : Record} (own : CarriesOwnTuple record)
    (leads : LeadsToOwnFlow s record) (valid : (completeRecord record).originalTuple.valid)
    {id : String} {v : RuntimeSession} (target : s.mergeTarget record = some (id, v)) :
    (completeRecord record).originalTuple = v.originalTuple ∧
      Compatible "" (completeRecord record).identity.bootID v.identity.bootID := by
  have original := completeRecord_original own
  rcases mergeTarget_cases target with exact | ⟨key, found⟩ | found | found
  · obtain ⟨tuple, boots⟩ := tied.identities _ id v exact (mergeTarget_live target)
    exact ⟨(tuple.trans original).symm, boots⟩
  · have boots := tied.conntracks key id v found.resolved found.live
    rw [KeyFitsFlow, makeConntrackKey_bootID found.made] at boots
    refine ⟨?_, boots⟩
    rw [found.original (original ▸ valid), original]
  · refine leads id v ?_ found.live found.conntrackID found.kernelStart
    rw [← original]
    exact found.resolved
  · exact leads id v found.resolved found.live found.conntrackID found.kernelStart

theorem tied_flow_exec [CaseMap] [Stdlib] (tied : Tied FitsFlow KeyFitsFlow s) (indexed : Indexed s) {op : StoreOp}
    (applies : AppliesOwnFlow s op) (apart : StartsApart s op) : Tied FitsFlow KeyFitsFlow (s.exec op) := by
  refine tied.exec indexed apart ?_ ?_
  · rintro record now clock id v rfl valid target
    obtain ⟨tuple, boots⟩ := sameFlow_of_mergeTarget tied applies.1 applies.2 valid target
    refine ⟨fun identity fits => fits, fun key fits => fits, ⟨?_, boots⟩, fun key made => ?_⟩
    · rw [completeRecord_original applies.1, tuple]
    · rw [KeyFitsFlow, makeConntrackKey_bootID made]
      exact boots
  · rintro record now clock rfl
    refine ⟨⟨(completeRecord_original applies.1).symm, .inr (.inr rfl)⟩, fun key made => ?_⟩
    rw [KeyFitsFlow, makeConntrackKey_bootID made]
    exact .inr (.inr rfl)

def OtherFlow (s : RuntimeStore) (record : Record) : Prop :=
  ∀ id v, s.byID.lookup id = some v → (completeRecord record).originalTuple = v.originalTuple →
    ¬ Compatible "" record.identity.bootID v.identity.bootID

def MergedSameFlow [CaseMap] [Stdlib] (s : RuntimeStore) (record : Record) : Prop :=
  ∀ now clock w changed, (s.applyObserved record now clock).2 = .ok (w, false, changed) →
    ∃ v, s.byID.lookup w.sessionID = some v ∧ (completeRecord record).originalTuple = v.originalTuple ∧
      Compatible "" record.identity.bootID v.identity.bootID

def StartsOwnSession [CaseMap] [Stdlib] (s : RuntimeStore) (record : Record) : Prop :=
  OtherFlow s record → (completeRecord record).originalTuple.valid = true →
    (∀ tombstone ∈ s.tombstones,
      tombstoneIdentityMatches tombstone.identity (completeRecord record).identity = false) →
    s.byID.keys.length < s.limits.maxSessions →
    ∀ now clock, s.startedID record clock ∉ s.byID → ∃ w,
      (s.applyObserved record now clock).2 = .ok (w, true, true) ∧ w.sessionID ∉ s.byID ∧
      (s.applyObserved record now clock).1.byID = s.byID.insert w.sessionID w ∧
      w.originalTuple = (completeRecord record).originalTuple

theorem startsOwnSession [CaseMap] [Stdlib] {record : Record}
    (same : (completeRecord record).originalTuple.valid = true → ∀ id v,
      s.mergeTarget record = some (id, v) → (completeRecord record).originalTuple = v.originalTuple ∧
        Compatible "" (completeRecord record).identity.bootID v.identity.bootID) :
    StartsOwnSession s record := by
  intro other valid unburied room now clock apart
  have untaken : s.mergeTarget record = none := by
    cases target : s.mergeTarget record with
    | none => rfl
    | some taken =>
      obtain ⟨id, v⟩ := taken
      obtain ⟨tuple, boots⟩ := same valid id v target
      rw [(completeRecord_keeps record).2.2.1] at boots
      exact absurd boots (other id v (mergeTarget_live target) tuple)
  rw [applyObserved_starts valid ⟨untaken, unburied⟩]
  obtain ⟨w, result, started⟩ := started_createLocked s record (if now = 0 then clock else now) clock (by omega)
  have named : w.sessionID = s.startedID record clock := congrArg Core.sessionID started.fresh
  refine ⟨w, result, named ▸ apart, ?_, congrArg Core.originalTuple started.fresh⟩
  rw [named]
  exact started.byID

theorem records_stay_with_their_flow [CaseMap] [Stdlib]
    (reached : Reachable NewStore (fun s op => AppliesOwnFlow s op ∧ StartsApart s op) exec s)
    (record : Record) (own : CarriesOwnTuple record) (leads : LeadsToOwnFlow s record) :
    MergedSameFlow s record ∧ StartsOwnSession s record := by
  have both : IndexedTied FitsFlow KeyFitsFlow s := by
    refine reached.invariant ?_ ?_
    · rintro _ ⟨limits, rfl⟩
      exact indexedTied_newRuntimeStore limits
    · rintro state op ⟨indexed, tied⟩ ⟨applies, apart⟩
      exact ⟨indexed.exec op, tied_flow_exec tied indexed applies apart⟩
  obtain ⟨indexed, tied⟩ := both
  refine ⟨fun now clock w changed merged => ?_, startsOwnSession fun valid id v target =>
    sameFlow_of_mergeTarget tied own leads valid target⟩
  obtain ⟨valid, v, target⟩ := merged_target indexed merged
  have same := sameFlow_of_mergeTarget tied own leads valid target
  rw [(completeRecord_keeps record).2.2.1] at same
  exact ⟨v, mergeTarget_live target, same⟩

end

/-! ## Records of another flow and of another boot -/

section
attribute [local instance] Text.asciiCaseMap natStdlib

def natSessionID : String :=
  "sess-56831265c1f4ac0be5536cdfd69c6b2e"

variable {s : RuntimeStore} {record : Record}

theorem leadsToOwnFlow_of_resolved (id : String) (tuple : Tuple) (bootID : String)
    (resolved : s.resolveTupleLocked (scopedKey (completeRecord record).identity
      (completeRecord record).originalTuple) = .ok id)
    (live : (s.byID.lookup id).map (fun v => (v.originalTuple, v.identity.bootID)) = some (tuple, bootID))
    (same : (completeRecord record).originalTuple = tuple)
    (boots : Compatible "" (completeRecord record).identity.bootID bootID) :
    LeadsToOwnFlow s record := by
  intro other v found lookup _ _
  obtain rfl := RuntimeStore.TupleStatus.ok.inj (resolved.symm.trans found)
  rw [lookup] at live
  obtain ⟨rfl, rfl⟩ := Prod.ext_iff.mp (Option.some.inj live)
  exact ⟨same, boots⟩

theorem leadsToOwnFlow_of_missing
    (missing : s.resolveTupleLocked (scopedKey (completeRecord record).identity
      (completeRecord record).originalTuple) = .missing) : LeadsToOwnFlow s record := by
  intro id v found
  rw [missing] at found
  cases found

theorem otherFlow_natSessionStore : OtherFlow natSessionStore (partialRecord natReply 8 0 none) := by
  have only : natSessionStore.byID.keys = [natSessionID] := by decide +kernel
  have live : (natSessionStore.byID.lookup natSessionID).map (·.originalTuple) = some natTuple := by decide +kernel
  intro id v found tuple
  have here : id = natSessionID := by
    have member : id ∈ natSessionStore.byID.keys := GoMap.mem_of_lookup found
    rw [only] at member
    exact List.mem_singleton.mp member
  rw [here] at found
  rw [found] at live
  have different : (completeRecord (partialRecord natReply 8 0 none)).originalTuple ≠ natTuple := by
    decide +kernel
  exact absurd (tuple.trans (Option.some.inj live)) different

theorem records_stay_with_their_flow_nat :
    MergedSameFlow natSessionStore (partialRecord natTuple 7 0 none) ∧
      ∃ w, (natSessionStore.applyObserved (partialRecord natReply 8 0 none) 2 2).2 = .ok (w, true, true) ∧
        w.sessionID ∉ natSessionStore.byID := by
  have reached : Reachable NewStore (fun s op => AppliesOwnFlow s op ∧ StartsApart s op) exec
      natSessionStore :=
    .next _ (.start ⟨_, rfl⟩) ⟨⟨.inr rfl, leadsToOwnFlow_of_missing (by decide +kernel)⟩,
      fun _ member => absurd member (AList.notMem_empty _)⟩
  have merged := records_stay_with_their_flow reached (partialRecord natTuple 7 0 none) (.inr rfl)
    (leadsToOwnFlow_of_resolved natSessionID natTuple "" (by decide +kernel) (by decide +kernel) (by decide +kernel)
      (.inl rfl))
  have started := records_stay_with_their_flow reached (partialRecord natReply 8 0 none) (.inr rfl)
    (leadsToOwnFlow_of_missing (by decide +kernel))
  obtain ⟨w, result, fresh, _⟩ := started.2 otherFlow_natSessionStore (by decide +kernel) (by decide +kernel)
    (by decide +kernel) 2 2
    (by decide +kernel)
  exact ⟨merged.1, w, result, fresh⟩

def withBootID (bootID : String) (record : Record) : Record :=
  { record with identity := { record.identity with bootID := bootID } }

def natBootStore : RuntimeStore :=
  natStore.exec (.applyObserved (withBootID "boot-1" (partialRecord natTuple 0 0 (some natReply))) 1 1)

def otherBootRecord : Record :=
  withBootID "boot-2" (partialRecord natTuple 0 0 none)

theorem not_mergedSameFlow (id : String) (tuple : Tuple) (bootID : String)
    (merged : ((s.applyObserved record 2 2).2.toOption.map fun result => (result.1.sessionID, result.2.1)) =
      some (id, false))
    (live : (s.byID.lookup id).map (fun v => (v.originalTuple, v.identity.bootID)) = some (tuple, bootID))
    (apart : (completeRecord record).originalTuple ≠ tuple ∨
      ¬ Compatible "" record.identity.bootID bootID) : ¬ MergedSameFlow s record := by
  intro same
  obtain ⟨⟨w, created, changed⟩, result, pair⟩ := Option.map_eq_some_iff.mp merged
  simp only [Prod.mk.injEq] at pair
  obtain ⟨rfl, rfl⟩ := pair
  have applied : (s.applyObserved record 2 2).2 = .ok (w, false, changed) := by
    cases outcome : (s.applyObserved record 2 2).2 with
    | error failure =>
      rw [outcome] at result
      cases result
    | ok value =>
      rw [outcome] at result
      exact congrArg Except.ok (Option.some.inj result)
  obtain ⟨v, found, tuples, boots⟩ := same 2 2 w changed applied
  rw [found] at live
  obtain ⟨rfl, rfl⟩ := Prod.ext_iff.mp (Option.some.inj live)
  exact apart.elim (fun differs => differs tuples) fun conflicts => conflicts boots

theorem records_merged_into_another_flow :
    Reachable NewStore (fun _ _ => True) exec natBootStore ∧
      ¬ MergedSameFlow natBootStore (partialRecord natReply 0 0 none) ∧
        ¬ MergedSameFlow natBootStore otherBootRecord := by
  have begun : NewStore natStore := ⟨_, rfl⟩
  refine ⟨.next _ (.start begun) trivial, ?_, ?_⟩
  · exact not_mergedSameFlow natSessionID natTuple "boot-1" (by decide +kernel) (by decide +kernel)
      (.inl (by decide +kernel))
  · exact not_mergedSameFlow natSessionID natTuple "boot-1" (by decide +kernel) (by decide +kernel)
      (.inr (by unfold Compatible; decide +kernel))

end

end Ngfw.Session

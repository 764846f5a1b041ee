import Ngfw.Proof.Session.SameFlow

/-! # DESTROY and what comes after it -/

namespace Ngfw.Session
open Lib Domain RuntimeStore

section
variable {s : RuntimeStore}

def Creates [CaseMap] [Stdlib] (s : RuntimeStore) (record : Record) (now clock : Time) : Prop :=
  ∃ w, (s.applyObserved record now clock).2 = .ok (w, true, true)

theorem creates_iff [CaseMap] [Stdlib] (s : RuntimeStore) (record : Record) (now clock : Time) :
    Creates s record now clock ↔
      (completeRecord record).originalTuple.valid = true ∧ s.Starts record ∧
        s.byID.keys.length < s.limits.maxSessions := by
  constructor
  · rintro ⟨w, created⟩
    rcases s.applyObserved_cases record now clock with
      ⟨failure, refused⟩ | ⟨valid, ⟨id, v, _, merges⟩ | ⟨starts, creates⟩⟩
    · rw [refused] at created
      cases created
    · rw [merges] at created
      cases created
    · refine ⟨valid, starts, ?_⟩
      rw [creates] at created
      unfold createLocked at created
      split_ifs at created with full
      omega
  · rintro ⟨valid, starts, room⟩
    rw [Creates, applyObserved_starts valid starts]
    obtain ⟨w, result, _⟩ := started_createLocked s record (if now = 0 then clock else now) clock (by omega)
    exact ⟨w, result⟩

structure SameIncarnation (tombstone : Tombstone) (record : Record) : Prop where
  networkNS : (completeRecord record).identity.networkNS = tombstone.identity.networkNS
  zone : (completeRecord record).identity.zone = tombstone.identity.zone
  family : (completeRecord record).identity.family = tombstone.identity.family
  original : (completeRecord record).identity.original = tombstone.identity.original
  kernelStart : (completeRecord record).identity.kernelStart = tombstone.identity.kernelStart

variable {tombstone : Tombstone} {id : String} {key : ConntrackKey} {now : Time} {v closed : RuntimeSession}
  {identity : ConntrackIdentity} {record : Record}

theorem tombstoneIdentityMatches_iff (same : SameIncarnation tombstone record) :
    tombstoneIdentityMatches tombstone.identity (completeRecord record).identity = true ↔
      record.identity.id = tombstone.identity.id ∧
        Compatible "" record.identity.bootID tombstone.identity.bootID := by
  obtain ⟨sameID, _, sameBoot, _⟩ := completeRecord_keeps record
  unfold tombstoneIdentityMatches Compatible
  rw [same.networkNS, same.zone, same.family, same.original, same.kernelStart, sameID, sameBoot]
  split_ifs <;> simp_all <;> tauto

/-! ## Tombstones -/

def closesSessions : StoreOp → Bool
  | .close .. | .delete .. | .reconcileMissing .. | .closeVerifiedExpired .. => true
  | _ => false

def TombstoneOf (s : RuntimeStore) (tombstone : Tombstone) : Prop :=
  ∃ v, s.byID.lookup tombstone.id = some v ∧ tombstone.identity = v.identity

theorem mem_tombstones_buryLocked (member : tombstone ∈ (s.buryLocked id closed now).tombstones) :
    tombstone ∈ s.tombstones ∨ tombstone = ⟨id, closed.identity, now⟩ := by
  have kept : tombstone ∈ s.tombstones ++ [⟨id, closed.identity, now⟩] := List.mem_of_mem_drop member
  simpa using kept

theorem tombstoneOf_bury
    (found : s.byID.lookup id = some v) (member : tombstone ∈ (s.buryLocked id closed now).tombstones)
    (same : closed.identity = v.identity) : tombstone ∈ s.tombstones ∨ TombstoneOf s tombstone := by
  rcases mem_tombstones_buryLocked member with before | rfl
  · exact .inl before
  · exact .inr ⟨v, found, same⟩

theorem tombstoneOf_closeLocked {reason : String} (found : s.byID.lookup id = some v)
    (member : tombstone ∈ (s.closeLocked id v reason now).1.tombstones) :
    tombstone ∈ s.tombstones ∨ TombstoneOf s tombstone :=
  tombstoneOf_bury found member rfl

theorem tombstoneOf_reconcile (seen : List String) (before now : Time) (reason : String) (order : List String) :
    ∀ tombstone ∈ (order.foldl (reconcileOne seen before now reason) (s, [])).1.tombstones,
      tombstone ∈ s.tombstones ∨ TombstoneOf s tombstone := by
  refine (List.foldlRecOn (b := (s, [])) order (reconcileOne seen before now reason)
    (motive := fun state => (∀ id v, state.1.byID.lookup id = some v → s.byID.lookup id = some v) ∧
      ∀ tombstone ∈ state.1.tombstones, tombstone ∈ s.tombstones ∨ TombstoneOf s tombstone)
    ⟨fun _ _ found => found, fun _ member => .inl member⟩ ?_).2
  rintro state ⟨live, buried⟩ id _
  unfold reconcileOne
  split
  · exact ⟨live, buried⟩
  · rename_i v found
    split
    · exact ⟨live, buried⟩
    · refine ⟨fun other u lookup => live other u (GoMap.lookup_of_lookup_erase lookup).1,
        fun tombstone member => ?_⟩
      rcases mem_tombstones_buryLocked member with earlier | rfl
      · exact buried tombstone earlier
      · exact .inr ⟨v, live id v found, rfl⟩

theorem tombstoneOf_exec [CaseMap] [Stdlib] {op : StoreOp} (closes : closesSessions op)
    (member : tombstone ∈ (s.exec op).tombstones) : tombstone ∈ s.tombstones ∨ TombstoneOf s tombstone := by
  cases op with
  | close identity reason now clock =>
    simp only [exec, close] at member
    split at member
    · exact .inl member
    · split at member
      · exact .inl member
      · rename_i found
        split at member
        · exact tombstoneOf_closeLocked found member
        · exact .inl member
  | delete id reason now clock =>
    simp only [exec, delete] at member
    split at member
    · exact .inl member
    · rename_i found
      exact tombstoneOf_bury found member rfl
  | reconcileMissing seen before now reason clock order =>
    simp only [exec, reconcileMissing] at member
    have swept := tombstoneOf_reconcile (s := s) ((seen.map s.resolveIdentityLocked).filter (· ≠ ""))
      (if before = 0 then clock else before) (if now = 0 then clock else now) reason order tombstone
    generalize List.foldl _ _ order = result at member swept
    split_ifs at member <;> exact swept member
  | closeVerifiedExpired candidate now =>
    simp only [exec, closeVerifiedExpired] at member
    split at member
    · exact .inl member
    · rename_i found
      exact tombstoneOf_closeLocked (Option.filter_eq_some_iff.mp found).1 member
  | _ => simp [closesSessions] at closes

theorem resurrection_held_back_iff [CaseMap] [Stdlib] (s : RuntimeStore) :
    (∀ op, closesSessions op = true → ∀ tombstone ∈ (s.exec op).tombstones,
      tombstone ∈ s.tombstones ∨ TombstoneOf s tombstone) ∧
    ∀ tombstone ∈ s.tombstones, ∀ record, SameIncarnation tombstone record → ∀ now clock,
      (¬ Creates s record now clock ↔
        record.identity.id = tombstone.identity.id ∧
            Compatible "" record.identity.bootID tombstone.identity.bootID ∨
          (∃ other ∈ s.tombstones,
            tombstoneIdentityMatches other.identity (completeRecord record).identity = true) ∨
          (s.mergeTarget record).isSome = true ∨
          (completeRecord record).originalTuple.valid = false ∨
          s.limits.maxSessions ≤ s.byID.keys.length) := by
  refine ⟨fun op closes tombstone member => tombstoneOf_exec closes member,
    fun tombstone buried record same now clock => ?_⟩
  rw [creates_iff]
  constructor
  · intro held
    by_contra free
    simp only [not_or, not_exists, not_and, Bool.not_eq_true, Option.isSome_eq_false_iff, Option.isNone_iff_eq_none,
      Bool.not_eq_false, not_le] at free
    obtain ⟨_, unburied, untaken, valid, room⟩ := free
    exact held ⟨valid, ⟨untaken, unburied⟩, room⟩
  · rintro (carried | ⟨other, kept, agrees⟩ | taken | invalid | full) ⟨valid, starts, room⟩
    · have agrees := (tombstoneIdentityMatches_iff same).mpr carried
      rw [starts.unburied tombstone buried] at agrees
      cases agrees
    · rw [starts.unburied other kept] at agrees
      cases agrees
    · rw [starts.untaken] at taken
      cases taken
    · rw [valid] at invalid
      cases invalid
    · omega

/-! ## A DESTROY with nothing but a scoped conntrack ID -/

def keyIdentity (key : ConntrackKey) : ConntrackIdentity :=
  { bootID := key.bootID, networkNS := key.networkNS, zone := key.zone, family := key.family, id := key.id }

structure Addressed (s : RuntimeStore) : Prop where
  indexed : Indexed s
  original : ∀ identity id, s.byIdentity.lookup identity = some id → identity.original ≠ {}
  named : "" ∉ s.byID

theorem completeRecord_original_ne (valid : (completeRecord record).originalTuple.valid) :
    (completeRecord record).identity.original ≠ {} := by
  have zero : ({} : Tuple).valid = false := by decide
  intro none
  have same : (completeRecord record).originalTuple =
      (completeRecord record).identity.original := by
    unfold completeRecord at none ⊢
    dsimp only at none ⊢
    split_ifs at none ⊢ <;> simp_all
  rw [same, none, zero] at valid
  cases valid

theorem startedID_ne [Stdlib] (s : RuntimeStore) (record : Record) (clock : Time) :
    s.startedID record clock ≠ "" := by
  unfold startedID sessionID
  dsimp only
  split_ifs <;> simp [String.append_eq_empty_iff]

theorem Addressed.exec [CaseMap] [Stdlib] (addressed : Addressed s) (op : StoreOp) : Addressed (s.exec op) := by
  refine ⟨addressed.indexed.exec op, fun identity id held => ?_, fun member => ?_⟩
  · rcases exec_cases s op with
      changes | ⟨record, now, clock, rfl, valid, ⟨other, v, target, result⟩ | ⟨v, _, _, started⟩⟩
    · exact addressed.original identity id (changes.shrinks.identities _ _ held)
    · rw [result] at held
      have live := mergeTarget_live target
      rcases lookup_byIdentity_mergeInto (addressed.indexed.filed other v live).named held with ⟨rfl, _⟩ | before
      · exact completeRecord_original_ne valid
      · exact addressed.original identity id before
    · rw [started.byIdentity] at held
      rcases lookup_byIdentity_rememberIdentityLocked held with ⟨rfl, _⟩ | before
      · exact completeRecord_original_ne valid
      · exact addressed.original identity id before
  · rcases exec_cases s op with
      changes | ⟨record, now, clock, rfl, _, ⟨other, v, target, result⟩ | ⟨v, _, _, started⟩⟩
    · obtain ⟨w, found⟩ := GoMap.exists_lookup_of_mem member
      obtain ⟨v, before, _⟩ := changes.shrinks.sessions "" w found
      exact addressed.named (GoMap.mem_of_lookup before)
    · obtain ⟨w, byID, _⟩ := learned_mergeInto s other v (completeRecord record) (observedAt now clock)
      have live := GoMap.mem_of_lookup (mergeTarget_live target)
      rw [result, byID, GoMap.mem_insert_of_mem live] at member
      exact addressed.named member
    · rw [started.byID, AList.mem_insert] at member
      exact member.elim (fun same => startedID_ne s record clock same.symm) addressed.named

theorem Addressed.run [CaseMap] [Stdlib] (addressed : Addressed s) (ops : List StoreOp) :
    Addressed (ops.foldl RuntimeStore.exec s) := by
  induction ops generalizing s with
  | nil => exact addressed
  | cons op rest ih => exact ih (addressed.exec op)

theorem addressed_of_reachable [CaseMap] [Stdlib]
    (reached : Reachable NewStore (fun _ _ => True) exec s) : Addressed s := by
  refine reached.invariant ?_ fun state op addressed _ => addressed.exec op
  rintro _ ⟨limits, rfl⟩
  refine ⟨indexed_newRuntimeStore limits, fun identity id held => ?_, AList.notMem_empty _⟩
  simp [newRuntimeStore] at held

theorem makeConntrackKey_keyIdentity
    (made : makeConntrackKey identity = some key) : makeConntrackKey (keyIdentity key) = some key := by
  have known := makeConntrackKey_id made
  unfold makeConntrackKey
  rw [if_neg (by simpa [keyIdentity, known.1] using known.2)]
  rfl

theorem resolveIdentityLocked_keyIdentity (addressed : Addressed s)
    (made : makeConntrackKey identity = some key) (live : id ∈ s.byID) :
    s.resolveIdentityLocked (keyIdentity key) = id ↔ s.byConntrack.lookup key = some id := by
  have made := makeConntrackKey_keyIdentity made
  have zero : ({} : Tuple).valid = false := by decide
  have named : id ≠ "" := fun empty => addressed.named (empty ▸ live)
  constructor
  · intro resolved
    rcases resolveIdentityLocked_cases resolved named with exact | ⟨other, v, found⟩ | ⟨v, found⟩
    · exact absurd rfl (addressed.original _ id exact)
    · have same := found.made
      rw [made] at same
      rw [Option.some.inj same]
      exact found.resolved
    · have valid : ({} : Tuple).valid := found.valid
      rw [zero] at valid
      cases valid
  · intro held
    obtain ⟨v, found⟩ := GoMap.exists_lookup_of_mem live
    have unknown : s.byIdentity.lookup (keyIdentity key) = none := by
      cases known : s.byIdentity.lookup (keyIdentity key) with
      | none => rfl
      | some other => exact absurd rfl (addressed.original _ other known)
    have value : (s.byConntrack.lookup key).getD "" = id := by
      rw [held]
      rfl
    unfold resolveIdentityLocked
    dsimp only
    rw [unknown, made, if_neg (by simp)]
    dsimp only
    rw [value, if_neg named, found]
    simp [zero, keyIdentity]

theorem closeTarget_keyIdentity (addressed : Addressed s)
    (made : makeConntrackKey identity = some key) (live : id ∈ s.byID) :
    s.closeTarget (keyIdentity key) = some id ↔ s.byConntrack.lookup key = some id := by
  have known := makeConntrackKey_id made
  have carried : (keyIdentity key).id ≠ 0 := by
    rw [keyIdentity, known.1]
    exact known.2
  rw [← resolveIdentityLocked_keyIdentity addressed made live]
  unfold closeTarget
  dsimp only
  split_ifs with empty
  · exact ⟨Option.some.inj, congrArg some⟩
  · simp only [false_iff]
    rintro rfl
    exact addressed.named (not_not.mp empty ▸ live)

theorem closeMatches_keyIdentity (carries : makeConntrackKey v.identity = some key) :
    closeMatches (keyIdentity key) v = true := by
  unfold makeConntrackKey at carries
  split_ifs at carries
  obtain rfl := Option.some.inj carries
  have zero : ({} : Tuple).valid = false := by decide
  simp [closeMatches, keyIdentity, zero]

def Destroys (s : RuntimeStore) (key : ConntrackKey) (id : String) (reason : String) (now clock : Time) : Prop :=
  (∃ closed, (s.close (keyIdentity key) reason now clock).2 = some closed ∧ closed.sessionID = id) ∧
    id ∉ (s.close (keyIdentity key) reason now clock).1.byID

theorem destroy_by_scoped_id_iff [CaseMap] [Stdlib]
    (reached : Reachable NewStore (fun _ _ => True) exec s) {id : String} {v : RuntimeSession}
    {key : ConntrackKey} (live : s.byID.lookup id = some v) (carries : makeConntrackKey v.identity = some key)
    (reason : String) (now clock : Time) :
    Destroys s key id reason now clock ↔ s.byConntrack.lookup key = some id := by
  have addressed := addressed_of_reachable reached
  have target := closeTarget_keyIdentity addressed carries (GoMap.mem_of_lookup live)
  constructor
  · rintro ⟨⟨closed, closes, rfl⟩, _⟩
    obtain ⟨other, u, _, named, found, _, _, same⟩ := close_closes closes
    have here : closed.sessionID = other := same.trans (addressed.indexed.filed other u found).named
    exact target.mp (here ▸ named)
  · intro held
    have named := (addressed.indexed.filed id v live).named
    unfold Destroys close
    rw [target.mpr held]
    simp only [live, closeMatches_keyIdentity carries, if_true, Option.some.injEq, exists_eq_left']
    exact ⟨named, notMem_byID_bury _ _ _ _⟩

/-! ## When the conntrack ID of a session leads to it -/

def KeyRoom (s : RuntimeStore) (id : String) : Prop :=
  (listedKeys s.conntracksBySession id).length < s.identityLimit

variable {other : String} {live : String → Prop}

theorem lookup_rememberIdentityLocked (remembered : Remembered live s) (named : id ≠ "")
    (held : s.byConntrack.lookup key = some other ∨
      s.byConntrack.lookup key = none ∧ makeConntrackKey identity = some key ∧ other = id)
    (kept : other ≠ id ∨ KeyRoom s id ∨ ∀ new, makeConntrackKey identity = some new →
      s.byConntrack.lookup new ≠ none) :
    (s.rememberIdentityLocked id identity).byConntrack.lookup key = some other := by
  cases made : makeConntrackKey identity with
  | none =>
    simp only [rememberIdentityLocked, if_neg named, made]
    split_ifs <;> grind
  | some new =>
    have after : (s.rememberIdentityLocked id identity).byConntrack =
        if s.byConntrack.lookup new = none ∨ s.byConntrack.lookup new = some id then
          (rememberKey s.identityLimit id new s.byConntrack s.conntracksBySession).1
        else s.byConntrack := by
      simp only [rememberIdentityLocked, if_neg named, made]
      split_ifs <;> rfl
    have listed := remembered.conntracks.listed new id
    rw [after]
    split_ifs
    · exact lookup_rememberKey (by grind [AList.lookup_insert, AList.lookup_insert_ne]) (by grind [KeyRoom])
    · grind

theorem lookup_mergeInto [CaseMap] (remembered : Remembered live s) (alive : live id) (same : v.sessionID = id)
    (named : id ≠ "") (held : s.byConntrack.lookup key = some other)
    (kept : other ≠ id ∨ KeyRoom s id) (r : Record)
    (now : Time) : (s.mergeInto id v r now).1.byConntrack.lookup key = some other := by
  have known := remembered.rememberIdentityLocked alive r.identity
  subst same
  unfold mergeInto mergeLocked
  dsimp only
  rw [mergeReply_rest]
  refine lookup_rememberIdentityLocked (show Remembered live _ from ⟨known.1, known.2⟩) named
    (.inl (lookup_rememberIdentityLocked remembered named (.inl held) (kept.imp_right .inl)))
    (kept.imp_right fun room => .inr fun new made => ?_)
  cases before : s.byConntrack.lookup new with
  | none => simp [lookup_rememberIdentityLocked remembered named (.inr ⟨before, made, rfl⟩) (.inr (.inl room))]
  | some => simp [lookup_rememberIdentityLocked remembered named (.inl before) (.inr (.inl room))]

theorem Changes.lookup {p q : RuntimeStore × Nat} (changes : Changes p q)
    (held : p.1.byConntrack.lookup key = some id) (alive : id ∈ q.1.byID) : q.1.byConntrack.lookup key = some id := by
  induction changes with
  | refl => exact held
  | tail _ change ih =>
    obtain ⟨w, found⟩ := GoMap.exists_lookup_of_mem alive
    obtain ⟨v, before, _⟩ := change.shrinks.sessions id w found
    have held := ih (GoMap.mem_of_lookup before)
    cases change with
    | @bury s _ buried _ _ closed now =>
      have different : id ≠ buried := by
        rintro rfl
        exact notMem_byID_bury _ _ _ _ alive
      exact List.foldlRecOn (motive := fun index : GoMap ConntrackKey String => index.lookup key = some id) _ _ held
        fun _ held _ _ => lookup_disown held different
    | rewrite | count | forget | note => exact held

section
variable [CaseMap] [Stdlib]

def KeepsEntry (id : String) (s : RuntimeStore) (op : StoreOp) : Prop :=
  id ∈ (s.exec op).byID ∧ KeyRoom s id

theorem entry_run (addressed : Addressed s) {ops : List StoreOp} (held : s.byConntrack.lookup key = some id)
    (kept : Allowed (KeepsEntry id) exec s ops) : (ops.foldl exec s).byConntrack.lookup key = some id := by
  induction ops generalizing s with
  | nil => exact held
  | cons op rest ih =>
    obtain ⟨⟨alive, room⟩, later⟩ := kept
    refine ih (addressed.exec op) ?_ later
    have either (other : String) : id ≠ other ∨ KeyRoom s other := by
      by_cases same : id = other
      · exact .inr (same ▸ room)
      · exact .inl same
    obtain ⟨indexed, _, unnamed⟩ := addressed
    rcases exec_cases s op with
      changes | ⟨record, now, clock, rfl, _, ⟨other, v, target, result⟩ | ⟨v, _, _, started⟩⟩
    · exact changes.lookup held alive
    · have found := mergeTarget_live target
      have live := GoMap.mem_of_lookup found
      rw [result]
      exact lookup_mergeInto indexed.remembered live (indexed.filed other v found).named
        (fun empty => unnamed (empty ▸ live)) held (either other) _ _
    · rw [started.byConntrack]
      exact lookup_rememberIdentityLocked indexed.remembered (startedID_ne s record clock) (.inl held)
        ((either _).imp_right .inl)

/-- A session is found by the conntrack ID of the record that started it, if no other live session had that ID then, and
as long as it lives and has room for another conntrack ID. -/
theorem entry_since_start (addressed : Addressed s) {clock : Time} (starts : Creates s record now clock)
    (made : makeConntrackKey (completeRecord record).identity = some key)
    (unshared : ∀ other ∈ s.byID, key ∉ listedKeys s.conntracksBySession other) {ops : List StoreOp}
    (kept : Allowed (KeepsEntry (s.startedID record clock)) exec s (.applyObserved record now clock :: ops)) :
    (ops.foldl exec (s.exec (.applyObserved record now clock))).byConntrack.lookup key =
      some (s.startedID record clock) := by
  obtain ⟨valid, fresh, room⟩ := (creates_iff s record now clock).mp starts
  obtain ⟨v, _, started⟩ := started_createLocked s record (observedAt now clock) clock (by omega)
  have remembered := addressed.indexed.remembered
  have free : s.byConntrack.lookup key = none := by
    cases owner : s.byConntrack.lookup key with
    | none => rfl
    | some other =>
      exact absurd (remembered.conntracks.listed key other owner)
        (unshared other (remembered.conntracks.live_of_lookup owner))
  refine entry_run (addressed.exec _) ?_ kept.2
  rw [exec, applyObserved_starts valid fresh, ← observedAt, started.byConntrack]
  exact lookup_rememberIdentityLocked remembered (startedID_ne s record clock) (.inr ⟨free, made, rfl⟩)
    (.inr (.inl kept.1.2))

end

end

section
attribute [local instance] Text.asciiCaseMap natStdlib

def closedNatStore : RuntimeStore :=
  (natStore.exec (.applyObserved (partialRecord natTuple 7 90 none) 1 1)).exec (.delete natSessionID "" 2 2)

def natTombstone : Tombstone :=
  ⟨natSessionID, (partialRecord natTuple 7 90 none).identity, 2⟩

theorem resurrection_held_back_nat :
    natTombstone ∈ closedNatStore.tombstones ∧
      ¬ Creates closedNatStore (partialRecord natTuple 7 90 none) 3 3 := by
  have buried : natTombstone ∈ closedNatStore.tombstones := by decide +kernel
  exact ⟨buried, ((resurrection_held_back_iff closedNatStore).2 natTombstone buried _
    ⟨rfl, rfl, rfl, rfl, rfl⟩ 3 3).mpr (.inl ⟨rfl, .inl rfl⟩)⟩

theorem late_record_resurrects :
    ¬ ∀ s, Reachable NewStore (fun _ _ => True) exec s → ∀ tombstone ∈ s.tombstones,
      tombstone.identity.kernelStart ≠ 0 → ∀ record, SameIncarnation tombstone record → ∀ now clock,
        ¬ Creates s record now clock := by
  intro never
  have begun : NewStore natStore := ⟨_, rfl⟩
  have reached : Reachable NewStore (fun _ _ => True) exec closedNatStore :=
    .next _ (.next _ (.start begun) trivial) trivial
  refine never closedNatStore reached natTombstone (by decide +kernel) (by decide)
    (partialRecord natTuple 0 90 none) ⟨rfl, rfl, rfl, rfl, rfl⟩ 3 3 ((creates_iff _ _ _ _).mpr ?_)
  exact ⟨by decide +kernel, ⟨by decide +kernel, by decide +kernel⟩, by decide +kernel⟩

end

/-! ## A scoped conntrack ID that two sessions carried -/

@[reducible] def twoFlowStdlib : Stdlib :=
  sumTable (fun bytes => (bytes.drop 16).head? = some 0x38)
    0xf9e8132e77723027e1aaaac193a7a7a74d4e4209997943ba933ebbe9b89b1fb4
    0xbc8dde4137e7d777cefe1a4f651197fe8a3a215e738698e2aee422b7ad907ab1 "0001-01-01T00:00:00.000000005Z"

section
attribute [local instance] Text.asciiCaseMap twoFlowStdlib

def twoFlowStore : RuntimeStore :=
  (natStore.exec (.applyObserved (partialRecord natTuple 7 0 none) 1 1)).exec
    (.applyObserved (partialRecord natReply 7 0 none) 2 2)

def secondFlowStore : RuntimeStore :=
  twoFlowStore.exec (.delete "sess-bc8dde4137e7d777cefe1a4f651197fe" "" 3 3)

def sharedKey : ConntrackKey :=
  { bootID := "", networkNS := "default", zone := 0, family := .ipv4, id := 7 }

theorem twoFlowStore_reached : Reachable NewStore (fun _ _ => True) exec twoFlowStore :=
  have begun : NewStore natStore := ⟨_, rfl⟩
  .next _ (.next _ (.start begun) trivial) trivial

theorem destroy_by_scoped_id_first :
    Destroys twoFlowStore sharedKey "sess-bc8dde4137e7d777cefe1a4f651197fe" "destroy" 4 4 := by
  have carried : (twoFlowStore.byID.lookup "sess-bc8dde4137e7d777cefe1a4f651197fe").bind
      (fun v => makeConntrackKey v.identity) = some sharedKey := by decide +kernel
  obtain ⟨v, live, carries⟩ := Option.bind_eq_some_iff.mp carried
  exact (destroy_by_scoped_id_iff twoFlowStore_reached live carries "destroy" 4 4).mpr (by decide +kernel)

theorem destroy_misses_only_carrier :
    ¬ ∀ s, Reachable NewStore (fun _ _ => True) exec s → ∀ key id v, s.byID.lookup id = some v →
      makeConntrackKey v.identity = some key →
      (∀ other w, s.byID.lookup other = some w → makeConntrackKey w.identity = some key → other = id) →
      ∀ reason now clock, Destroys s key id reason now clock := by
  intro finds
  have carried : (secondFlowStore.byID.lookup "sess-f9e8132e77723027e1aaaac193a7a7a7").bind
      (fun v => makeConntrackKey v.identity) = some sharedKey := by decide +kernel
  have only : secondFlowStore.byID.keys = ["sess-f9e8132e77723027e1aaaac193a7a7a7"] := by decide +kernel
  have missed : (secondFlowStore.close (keyIdentity sharedKey) "destroy" 4 4).2 = none := by decide +kernel
  obtain ⟨v, live, carries⟩ := Option.bind_eq_some_iff.mp carried
  obtain ⟨⟨closed, closes, _⟩, _⟩ :=
    finds secondFlowStore (.next _ twoFlowStore_reached trivial) sharedKey _ v live
    carries (fun other w found _ => by
      have member : other ∈ secondFlowStore.byID.keys := GoMap.mem_of_lookup found
      rw [only] at member
      exact List.mem_singleton.mp member) "destroy" 4 4
  rw [missed] at closes
  cases closes

end

end Ngfw.Session

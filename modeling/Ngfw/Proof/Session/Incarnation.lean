import Ngfw.Proof.Session.IndexConsistency

/-!
# A session stays with one incarnation of its flow

A record reaches a session through an identity that was remembered, through a scoped conntrack ID, or through a tuple.
What was remembered fits the session as it is now, because a session only ever learns what it did not know.
-/

namespace Ngfw.Session
open Lib Domain RuntimeStore

def Compatible {Value : Type} (unknown a b : Value) : Prop :=
  a = unknown ∨ b = unknown ∨ a = b

/-! ## What the operations leave of the remembered keys -/

structure Shrinks (s after : RuntimeStore) : Prop where
  identities : ∀ identity id, after.byIdentity.lookup identity = some id → s.byIdentity.lookup identity = some id
  conntracks : ∀ key id, after.byConntrack.lookup key = some id → s.byConntrack.lookup key = some id
  sessions : ∀ id w, after.byID.lookup id = some w → ∃ v, s.byID.lookup id = some v ∧ anchor w = anchor v

theorem Shrinks.refl (s : RuntimeStore) : Shrinks s s :=
  ⟨fun _ _ held => held, fun _ _ held => held, fun _ w found => ⟨w, found, rfl⟩⟩

theorem Shrinks.trans {s middle after : RuntimeStore} (first : Shrinks s middle) (second : Shrinks middle after) :
    Shrinks s after := by
  refine ⟨fun identity id held => first.identities _ _ (second.identities _ _ held),
    fun key id held => first.conntracks _ _ (second.conntracks _ _ held), fun id w found => ?_⟩
  obtain ⟨u, between, later⟩ := second.sessions id w found
  obtain ⟨v, before, earlier⟩ := first.sessions id u between
  exact ⟨v, before, later.trans earlier⟩

theorem Change.shrinks {p q : RuntimeStore × Nat} (change : Change p q) : Shrinks p.1 q.1 := by
  cases change with
  | @rewrite s uncounted rewritten old new found same =>
    refine ⟨fun _ _ held => held, fun _ _ held => held, fun id w lookup => ?_⟩
    rcases GoMap.lookup_of_lookup_insert lookup with ⟨rfl, rfl⟩ | ⟨_, before⟩
    · exact ⟨old, found, same⟩
    · exact ⟨w, before, rfl⟩
  | bury found closed now =>
    exact ⟨fun _ _ held => (lookup_of_lookup_forgetKeys held).1, fun _ _ held => (lookup_of_lookup_forgetKeys held).1,
      fun _ w lookup => ⟨w, (GoMap.lookup_of_lookup_erase lookup).1, rfl⟩⟩
  | count | note => exact ⟨fun _ _ held => held, fun _ _ held => held, fun _ w found => ⟨w, found, rfl⟩⟩
  | forget identity =>
    exact ⟨fun _ _ held => (GoMap.lookup_of_lookup_erase held).1, fun _ _ held => held,
      fun _ w found => ⟨w, found, rfl⟩⟩

theorem Changes.shrinks {p q : RuntimeStore × Nat} (changes : Changes p q) : Shrinks p.1 q.1 := by
  induction changes with
  | refl => exact .refl _
  | tail _ change ih => exact ih.trans change.shrinks

section
variable {s : RuntimeStore}

theorem lookup_byIdentity_mergeInto [CaseMap] {id other : String} {v : RuntimeSession} (named : v.sessionID = id)
    {r : Record} {now : Time} {found : ConntrackIdentity}
    (held : (s.mergeInto id v r now).1.byIdentity.lookup found = some other) :
    found = r.identity ∧ other = id ∨ s.byIdentity.lookup found = some other := by
  unfold mergeInto mergeLocked at held
  dsimp only at held
  rcases lookup_byIdentity_rememberIdentityLocked held with ⟨here, owner⟩ | before
  · exact .inl ⟨here, owner.trans named⟩
  · rw [mergeReply_rest] at before
    exact lookup_byIdentity_rememberIdentityLocked before

theorem lookup_byConntrack_mergeInto [CaseMap] {id other : String} {v : RuntimeSession} (named : v.sessionID = id)
    {r : Record} {now : Time} {found : ConntrackKey}
    (held : (s.mergeInto id v r now).1.byConntrack.lookup found = some other) :
    makeConntrackKey r.identity = some found ∧ other = id ∨ s.byConntrack.lookup found = some other := by
  unfold mergeInto mergeLocked at held
  dsimp only at held
  rcases lookup_byConntrack_rememberIdentityLocked held with ⟨here, owner⟩ | before
  · exact .inl ⟨here, owner.trans named⟩
  · rw [mergeReply_rest] at before
    exact lookup_byConntrack_rememberIdentityLocked before

end

/-! ## Keys that fit the session they point to -/

section
variable (fits : ConntrackIdentity → ConntrackIdentity → Tuple → Prop)
  (fitsKey : ConntrackKey → ConntrackIdentity → Tuple → Prop)

structure Tied (s : RuntimeStore) : Prop where
  identities : ∀ identity id v, s.byIdentity.lookup identity = some id → s.byID.lookup id = some v →
    fits identity v.identity v.originalTuple
  conntracks : ∀ key id v, s.byConntrack.lookup key = some id → s.byID.lookup id = some v →
    fitsKey key v.identity v.originalTuple

structure Merges (r : Record) (before : ConntrackIdentity) (tuple : Tuple) : Prop where
  kept : ∀ identity, fits identity before tuple → fits identity (learnIdentity r before) tuple
  keptKey : ∀ key, fitsKey key before tuple → fitsKey key (learnIdentity r before) tuple
  own : fits r.identity (learnIdentity r before) tuple
  ownKey : ∀ key, makeConntrackKey r.identity = some key → fitsKey key (learnIdentity r before) tuple

variable {fits fitsKey} {s : RuntimeStore}

structure IndexedTied (fits : ConntrackIdentity → ConntrackIdentity → Tuple → Prop)
    (fitsKey : ConntrackKey → ConntrackIdentity → Tuple → Prop) (s : RuntimeStore) : Prop where
  indexed : Indexed s
  tied : Tied fits fitsKey s

theorem indexedTied_newRuntimeStore (limits : RuntimeLimits) :
    IndexedTied fits fitsKey (newRuntimeStore limits) := by
  refine ⟨indexed_newRuntimeStore limits, fun _ _ _ held => ?_, fun _ _ _ held => ?_⟩
  · simp [newRuntimeStore] at held
  · simp [newRuntimeStore] at held

theorem Tied.shrinks (tied : Tied fits fitsKey s) {after : RuntimeStore} (shrinks : Shrinks s after) :
    Tied fits fitsKey after := by
  constructor
  · intro identity id w held found
    obtain ⟨v, before, same⟩ := shrinks.sessions id w found
    simp only [anchor, Anchor.mk.injEq] at same
    rw [same.2.1, same.2.2.1]
    exact tied.identities identity id v (shrinks.identities _ _ held) before
  · intro key id w held found
    obtain ⟨v, before, same⟩ := shrinks.sessions id w found
    simp only [anchor, Anchor.mk.injEq] at same
    rw [same.2.1, same.2.2.1]
    exact tied.conntracks key id v (shrinks.conntracks _ _ held) before

theorem Tied.mergeInto [CaseMap] (tied : Tied fits fitsKey s) {id : String} {v : RuntimeSession}
    (found : s.byID.lookup id = some v) (named : v.sessionID = id) {r : Record} (now : Time)
    (merges : Merges fits fitsKey r v.identity v.originalTuple) :
    Tied fits fitsKey (s.mergeInto id v r now).1 := by
  obtain ⟨w, byID, same, identity⟩ := learned_mergeInto s id v r now
  have original : w.originalTuple = v.originalTuple :=
    (congrArg Core.originalTuple same).trans (withReply_keeps r v).2.1
  have live (other : String) (u : RuntimeSession) (lookup : (s.mergeInto id v r now).1.byID.lookup other = some u) :
      other = id ∧ u = w ∨ other ≠ id ∧ s.byID.lookup other = some u := by
    rw [byID] at lookup
    exact GoMap.lookup_of_lookup_insert lookup
  constructor
  · intro key other u held lookup
    rcases live other u lookup with ⟨rfl, rfl⟩ | ⟨elsewhere, before⟩
    · rw [identity, original]
      rcases lookup_byIdentity_mergeInto named held with ⟨rfl, _⟩ | known
      · exact merges.own
      · exact merges.kept key (tied.identities key _ v known found)
    · rcases lookup_byIdentity_mergeInto named held with ⟨_, here⟩ | known
      · exact absurd here elsewhere
      · exact tied.identities key other u known before
  · intro key other u held lookup
    rcases live other u lookup with ⟨rfl, rfl⟩ | ⟨elsewhere, before⟩
    · rw [identity, original]
      rcases lookup_byConntrack_mergeInto named held with ⟨made, _⟩ | known
      · exact merges.ownKey key made
      · exact merges.keptKey key (tied.conntracks key _ v known found)
    · rcases lookup_byConntrack_mergeInto named held with ⟨_, here⟩ | known
      · exact absurd here elsewhere
      · exact tied.conntracks key other u known before

theorem Tied.started [CaseMap] (tied : Tied fits fitsKey s) (indexed : Indexed s) {id : String} {record : Record}
    {now : Time} {after : RuntimeStore} {v : RuntimeSession} (started : Started s id record now after v)
    (apart : id ∉ s.byID) (own : fits record.identity record.identity record.originalTuple)
    (ownKey : ∀ key, makeConntrackKey record.identity = some key →
      fitsKey key record.identity record.originalTuple) : Tied fits fitsKey after := by
  have original : v.originalTuple = record.originalTuple := congrArg Core.originalTuple started.fresh
  have live (other : String) (u : RuntimeSession) (lookup : after.byID.lookup other = some u) :
      other = id ∧ u = v ∨ other ≠ id ∧ s.byID.lookup other = some u := by
    rw [started.byID] at lookup
    exact GoMap.lookup_of_lookup_insert lookup
  constructor
  · intro key other u held lookup
    rw [started.byIdentity] at held
    rcases live other u lookup with ⟨rfl, rfl⟩ | ⟨elsewhere, before⟩
    · rw [started.identity, original]
      rcases lookup_byIdentity_rememberIdentityLocked held with ⟨rfl, _⟩ | known
      · exact own
      · exact absurd (indexed.remembered.identities.live_of_lookup known) apart
    · rcases lookup_byIdentity_rememberIdentityLocked held with ⟨_, here⟩ | known
      · exact absurd here elsewhere
      · exact tied.identities key other u known before
  · intro key other u held lookup
    rw [started.byConntrack] at held
    rcases live other u lookup with ⟨rfl, rfl⟩ | ⟨elsewhere, before⟩
    · rw [started.identity, original]
      rcases lookup_byConntrack_rememberIdentityLocked held with ⟨made, _⟩ | known
      · exact ownKey key made
      · exact absurd (indexed.remembered.conntracks.live_of_lookup known) apart
    · rcases lookup_byConntrack_rememberIdentityLocked held with ⟨_, here⟩ | known
      · exact absurd here elsewhere
      · exact tied.conntracks key other u known before

theorem Tied.exec [CaseMap] [Stdlib] (tied : Tied fits fitsKey s) (indexed : Indexed s) {op : StoreOp}
    (apart : StartsApart s op)
    (merges : ∀ record now clock id v, op = .applyObserved record now clock →
      (completeRecord record).originalTuple.valid = true → s.mergeTarget record = some (id, v) →
      Merges fits fitsKey (completeRecord record) v.identity v.originalTuple)
    (own : ∀ record now clock, op = .applyObserved record now clock →
      let r := completeRecord record
      fits r.identity r.identity r.originalTuple ∧
        ∀ key, makeConntrackKey r.identity = some key → fitsKey key r.identity r.originalTuple) :
    Tied fits fitsKey (s.exec op) := by
  rcases exec_cases s op with
    changes | ⟨record, now, clock, rfl, valid, ⟨id, v, target, result⟩ | ⟨v, starts, _, started⟩⟩
  · exact tied.shrinks changes.shrinks
  · have found := mergeTarget_live target
    rw [result]
    exact tied.mergeInto found (indexed.filed id v found).named (observedAt now clock)
      (merges record now clock id v rfl valid target)
  · have fitting := own record now clock rfl
    exact tied.started indexed started (apart starts) fitting.1 fitting.2

end

/-! ## How a record finds its session -/

section
variable {s : RuntimeStore}

theorem compatible_of_not {Value : Type} {unknown a b : Value}
    (apart : ¬ (a ≠ unknown ∧ b ≠ unknown ∧ a ≠ b)) : Compatible unknown a b := by
  unfold Compatible
  tauto

structure FoundByTuple (s : RuntimeStore) (identity : ConntrackIdentity) (id : String) (v : RuntimeSession) : Prop where
  valid : identity.original.valid = true
  resolved : s.resolveTupleLocked (scopedKey identity identity.original) = .ok id
  live : s.byID.lookup id = some v
  bootID : Compatible "" identity.bootID v.identity.bootID
  conntrackID : Compatible 0 identity.id v.identity.id
  kernelStart : Compatible 0 identity.kernelStart v.identity.kernelStart

variable {id : String} {identity : ConntrackIdentity} {v : RuntimeSession} {record r : Record} {key : ConntrackKey}
  {op : StoreOp}

theorem resolveByTuple_found (found : s.resolveByTuple identity = id)
    (named : id ≠ "") : ∃ v, FoundByTuple s identity id v := by
  unfold resolveByTuple at found
  split at found
  · exact absurd found.symm named
  · rename_i valid
    split at found
    · rename_i resolved
      split at found
      · exact absurd found.symm named
      · rename_i v live
        split_ifs at found with boot networkNS conntrackID kernelStart
        · exact absurd found.symm named
        · exact absurd found.symm named
        · exact absurd found.symm named
        · exact absurd found.symm named
        · subst found
          exact ⟨v, by simpa using valid, resolved, live, compatible_of_not boot, compatible_of_not conntrackID,
            compatible_of_not kernelStart⟩
    · exact absurd found.symm named

structure FoundByKey (s : RuntimeStore) (identity : ConntrackIdentity) (key : ConntrackKey) (id : String)
    (v : RuntimeSession) : Prop where
  made : makeConntrackKey identity = some key
  resolved : s.byConntrack.lookup key = some id
  live : s.byID.lookup id = some v
  original : identity.original.valid = true → v.originalTuple = identity.original
  kernelStart : Compatible 0 identity.kernelStart v.identity.kernelStart

theorem lookup_of_getD_eq {Key : Type} [DecidableEq Key] {index : GoMap Key String} {key : Key}
    (value : (index.lookup key).getD "" = id) (named : id ≠ "") : index.lookup key = some id := by
  cases held : index.lookup key with
  | none =>
    rw [held] at value
    exact absurd value.symm named
  | some found =>
    rw [held] at value
    exact congrArg some value

theorem resolveIdentityLocked_cases (resolved : s.resolveIdentityLocked identity = id) (named : id ≠ "") :
    s.byIdentity.lookup identity = some id ∨ (∃ key v, FoundByKey s identity key id v) ∨
      ∃ v, FoundByTuple s identity id v := by
  unfold resolveIdentityLocked at resolved
  dsimp only at resolved
  split at resolved
  · exact .inl (lookup_of_getD_eq resolved named)
  · split at resolved
    · exact .inr (.inr (resolveByTuple_found resolved named))
    · rename_i key made
      split at resolved
      · exact .inr (.inr (resolveByTuple_found resolved named))
      · split at resolved
        · exact .inr (.inr (resolveByTuple_found resolved named))
        · rename_i v live
          split_ifs at resolved with original kernelStart
          · exact absurd resolved.symm named
          · exact absurd resolved.symm named
          · rw [resolved] at live
            refine .inr (.inl ⟨key, v, made, lookup_of_getD_eq resolved named, live, fun valid => ?_,
              compatible_of_not kernelStart⟩)
            by_contra differs
            exact original ⟨valid, differs⟩

structure FoundBySameTuple (s : RuntimeStore) (r : Record) (id : String) (v : RuntimeSession) : Prop where
  resolved : s.resolveTupleLocked (scopedKey r.identity r.originalTuple) = .ok id
  live : s.byID.lookup id = some v
  conntrackID : Compatible 0 r.identity.id v.identity.id
  kernelStart : Compatible 0 r.identity.kernelStart v.identity.kernelStart

theorem sameTupleSession_found (found : s.sameTupleSession r = some (id, v)) : FoundBySameTuple s r id v := by
  unfold sameTupleSession at found
  split at found
  · rename_i resolved
    obtain ⟨current, held, pair⟩ := Option.map_eq_some_iff.mp found
    cases pair
    obtain ⟨live, agrees⟩ := Option.filter_eq_some_iff.mp held
    obtain ⟨conntrackID, kernelStart⟩ := of_decide_eq_true agrees
    exact ⟨resolved, live, conntrackID, kernelStart⟩
  · cases found

theorem mergeTarget_cases (target : s.mergeTarget record = some (id, v)) :
    let r := completeRecord record
    s.byIdentity.lookup r.identity = some id ∨ (∃ key, FoundByKey s r.identity key id v) ∨
      FoundByTuple s r.identity id v ∨ FoundBySameTuple s r id v := by
  have live := mergeTarget_live target
  have only {w : RuntimeSession} (found : s.byID.lookup id = some w) : w = v :=
    Option.some.inj (found.symm.trans live)
  rcases Option.or_eq_some_iff.mp target with identified | ⟨_, sameTuple⟩
  · unfold identifiedSession at identified
    dsimp only at identified
    split_ifs at identified with named
    obtain ⟨_, _, pair⟩ := Option.map_eq_some_iff.mp identified
    obtain rfl : s.resolveIdentityLocked (completeRecord record).identity = id := congrArg Prod.fst pair
    rcases resolveIdentityLocked_cases rfl named with exact | ⟨key, w, found⟩ | ⟨w, found⟩
    · exact .inl exact
    · obtain rfl := only found.live
      exact .inr (.inl ⟨key, found⟩)
    · obtain rfl := only found.live
      exact .inr (.inr (.inl found))
  · exact .inr (.inr (.inr (sameTupleSession_found sameTuple)))

/-! ## One incarnation -/

def FitsIncarnation (identity session : ConntrackIdentity) (_ : Tuple) : Prop :=
  (identity.id = 0 ∨ identity.id = session.id) ∧
    (identity.kernelStart = 0 ∨ identity.kernelStart = session.kernelStart)

def KeyFitsIncarnation (key : ConntrackKey) (session : ConntrackIdentity) (_ : Tuple) : Prop :=
  key.id ≠ 0 ∧ key.id = session.id

def presenceTold : StoreOp → Bool
  | .applyObserved record _ _ =>
    (record.presence.id == decide (record.identity.id ≠ 0)) &&
      record.presence.timestamp == decide (record.identity.kernelStart ≠ 0)
  | _ => true

theorem makeConntrackKey_id
    (made : makeConntrackKey identity = some key) : key.id = identity.id ∧ identity.id ≠ 0 := by
  unfold makeConntrackKey at made
  split_ifs at made with unknown
  obtain rfl := Option.some.inj made
  exact ⟨rfl, unknown⟩

theorem makeConntrackKey_bootID (made : makeConntrackKey identity = some key) : key.bootID = identity.bootID := by
  unfold makeConntrackKey at made
  split_ifs at made
  rw [← Option.some.inj made]

theorem compatible_of_mergeTarget (tied : Tied FitsIncarnation KeyFitsIncarnation s)
    (target : s.mergeTarget record = some (id, v)) : Compatible 0 record.identity.id v.identity.id ∧
      Compatible 0 record.identity.kernelStart v.identity.kernelStart := by
  obtain ⟨sameID, sameStart, _⟩ := completeRecord_keeps record
  rw [← sameID, ← sameStart]
  rcases mergeTarget_cases target with exact | ⟨key, found⟩ | found | found
  · obtain ⟨conntrackID, kernelStart⟩ := tied.identities _ id v exact (mergeTarget_live target)
    exact ⟨conntrackID.imp_right .inr, kernelStart.imp_right .inr⟩
  · have fits := tied.conntracks key id v found.resolved found.live
    exact ⟨.inr (.inr ((makeConntrackKey_id found.made).1.symm.trans fits.2)), found.kernelStart⟩
  · exact ⟨found.conntrackID, found.kernelStart⟩
  · exact ⟨found.conntrackID, found.kernelStart⟩

theorem merges_incarnation {before : ConntrackIdentity} (tuple : Tuple)
    (conntrackID : Compatible 0 r.identity.id before.id)
    (kernelStart : Compatible 0 r.identity.kernelStart before.kernelStart)
    (tellsID : r.presence.id = decide (r.identity.id ≠ 0))
    (tellsStart : r.presence.timestamp = decide (r.identity.kernelStart ≠ 0)) :
    Merges FitsIncarnation KeyFitsIncarnation r before tuple := by
  have learnsID : r.identity.id = 0 ∨ r.identity.id = (learnIdentity r before).id := by
    simp only [learnIdentity, tellsID, decide_eq_true_eq]
    unfold Compatible at conntrackID
    split_ifs <;> tauto
  have learnsStart : r.identity.kernelStart = 0 ∨ r.identity.kernelStart = (learnIdentity r before).kernelStart := by
    simp only [learnIdentity, tellsStart, decide_eq_true_eq]
    unfold Compatible at kernelStart
    split_ifs <;> tauto
  have keepsID : before.id ≠ 0 → (learnIdentity r before).id = before.id := fun known => by
    simp [learnIdentity, known]
  have keepsStart : before.kernelStart ≠ 0 → (learnIdentity r before).kernelStart = before.kernelStart :=
    fun known => by
    simp [learnIdentity, known]
  refine ⟨fun identity fits => ⟨?_, ?_⟩, fun key fits => ⟨fits.1, ?_⟩, ⟨learnsID, learnsStart⟩,
    fun key made => ?_⟩
  · by_cases unknown : identity.id = 0
    · exact .inl unknown
    · have same := fits.1.resolve_left unknown
      exact .inr (by rw [keepsID (same ▸ unknown), same])
  · by_cases unknown : identity.kernelStart = 0
    · exact .inl unknown
    · have same := fits.2.resolve_left unknown
      exact .inr (by rw [keepsStart (same ▸ unknown), same])
  · rw [keepsID (fits.2 ▸ fits.1), fits.2]
  · obtain ⟨same, known⟩ := makeConntrackKey_id made
    exact ⟨same ▸ known, same.trans (learnsID.resolve_left known)⟩

theorem tied_incarnation_exec [CaseMap] [Stdlib] (tied : Tied FitsIncarnation KeyFitsIncarnation s)
    (indexed : Indexed s) (told : presenceTold op) (apart : StartsApart s op) :
    Tied FitsIncarnation KeyFitsIncarnation (s.exec op) := by
  refine tied.exec indexed apart ?_ ?_
  · rintro record now clock id v rfl _ target
    obtain ⟨conntrackID, kernelStart⟩ := compatible_of_mergeTarget tied target
    obtain ⟨sameID, sameStart, _, presence⟩ := completeRecord_keeps record
    simp only [presenceTold, Bool.and_eq_true, beq_iff_eq] at told
    refine merges_incarnation _ ?_ ?_ ?_ ?_
    · rwa [sameID]
    · rwa [sameStart]
    · rw [presence, sameID, told.1]
    · rw [presence, sameStart, told.2]
  · intro record now clock _ r
    refine ⟨⟨.inr rfl, .inr rfl⟩, fun key made => ?_⟩
    obtain ⟨same, known⟩ := makeConntrackKey_id made
    exact ⟨same ▸ known, same⟩

def KeepsIncarnations (s after : RuntimeStore) : Prop :=
  ∀ id v w, s.byID.lookup id = some v → after.byID.lookup id = some w →
    (v.identity.id ≠ 0 → w.identity.id = v.identity.id) ∧
    (v.identity.kernelStart ≠ 0 → w.identity.kernelStart = v.identity.kernelStart) ∧
    w.originalTuple = v.originalTuple

theorem keepsIncarnations_exec [CaseMap] [Stdlib] (apart : StartsApart s op) : KeepsIncarnations s (s.exec op) := by
  intro id v w before after
  have unchanged {u : RuntimeSession} (found : s.byID.lookup id = some u) : u = v :=
    Option.some.inj (found.symm.trans before)
  rcases exec_cases s op with
    changes | ⟨record, now, clock, rfl, _, ⟨other, u, target, result⟩ | ⟨u, starts, _, started⟩⟩
  · obtain ⟨u, found, same⟩ := changes.shrinks.sessions id w after
    obtain rfl := unchanged found
    simp only [anchor, Anchor.mk.injEq] at same
    rw [same.2.1, same.2.2.1]
    exact ⟨fun _ => rfl, fun _ => rfl, rfl⟩
  · obtain ⟨x, byID, same, identity⟩ := learned_mergeInto s other u (completeRecord record) (observedAt now clock)
    rw [result, byID] at after
    rcases GoMap.lookup_of_lookup_insert after with ⟨rfl, rfl⟩ | ⟨_, found⟩
    · obtain rfl := unchanged (mergeTarget_live target)
      rw [identity]
      refine ⟨fun known => by simp [learnIdentity, known], fun known => by simp [learnIdentity, known], ?_⟩
      exact (congrArg Core.originalTuple same).trans (withReply_keeps _ _).2.1
    · rw [unchanged found]
      exact ⟨fun _ => rfl, fun _ => rfl, rfl⟩
  · rw [started.byID] at after
    rcases GoMap.lookup_of_lookup_insert after with ⟨rfl, _⟩ | ⟨_, found⟩
    · exact absurd (GoMap.mem_of_lookup before) (apart starts)
    · rw [unchanged found]
      exact ⟨fun _ => rfl, fun _ => rfl, rfl⟩

def MergesCompatible [CaseMap] [Stdlib] (s : RuntimeStore) : Prop :=
  ∀ record now clock w changed, (s.applyObserved record now clock).2 = .ok (w, false, changed) →
    ∃ v, s.byID.lookup w.sessionID = some v ∧ Compatible 0 record.identity.id v.identity.id ∧
      Compatible 0 record.identity.kernelStart v.identity.kernelStart

def ClosesCompatible (s : RuntimeStore) : Prop :=
  ∀ identity reason now clock closed, (s.close identity reason now clock).2 = some closed →
    ∃ v, s.byID.lookup closed.sessionID = some v ∧ Compatible 0 identity.id v.identity.id ∧
      Compatible 0 identity.kernelStart v.identity.kernelStart ∧
      Compatible "" identity.bootID v.identity.bootID ∧ Compatible "" identity.networkNS v.identity.networkNS

theorem merged_target [CaseMap] [Stdlib] (indexed : Indexed s) {now clock : Time}
    {w : RuntimeSession} {changed : Bool} (merged : (s.applyObserved record now clock).2 = .ok (w, false, changed)) :
    (completeRecord record).originalTuple.valid = true ∧
      ∃ v, s.mergeTarget record = some (w.sessionID, v) := by
  rcases s.applyObserved_cases record now clock with
    ⟨failure, refused⟩ | ⟨valid, ⟨id, v, target, merges⟩ | ⟨starts, creates⟩⟩
  · rw [refused] at merged
    cases merged
  · rw [merges] at merged
    have sameSession := congrArg Prod.fst (Except.ok.inj merged)
    dsimp only at sameSession
    have core_eq := core_mergeLocked (s.rememberIdentityLocked id
      (completeRecord record).identity) id v (completeRecord record) (observedAt now clock)
    have named : w.sessionID = id := by
      rw [← sameSession]
      refine (congrArg Core.sessionID core_eq).trans ((withReply_keeps _ v).1.trans ?_)
      exact (indexed.filed id v (mergeTarget_live target)).named
    exact ⟨valid, v, named ▸ target⟩
  · rw [creates] at merged
    unfold createLocked at merged
    split_ifs at merged
    all_goals cases merged

theorem compatible_of_closeMatches (agrees : closeMatches identity v) :
    Compatible 0 identity.id v.identity.id ∧ Compatible 0 identity.kernelStart v.identity.kernelStart ∧
      Compatible "" identity.bootID v.identity.bootID ∧ Compatible "" identity.networkNS v.identity.networkNS := by
  simp only [closeMatches, Bool.not_eq_eq_eq_not, Bool.not_true, decide_eq_false_iff_not,
    decide_eq_true_eq] at agrees
  obtain ⟨kernelStart, conntrackID, bootID, networkNS, _⟩ := agrees
  exact ⟨compatible_of_not conntrackID, compatible_of_not kernelStart, compatible_of_not bootID,
    compatible_of_not networkNS⟩

theorem closesCompatible (indexed : Indexed s) : ClosesCompatible s := by
  intro identity reason now clock closed closes
  obtain ⟨id, v, _, _, found, agrees, _, same⟩ := close_closes closes
  have named : closed.sessionID = id := same.trans (indexed.filed id v found).named
  exact ⟨v, named ▸ found, compatible_of_closeMatches agrees⟩

theorem incarnations_kept [CaseMap] [Stdlib]
    (reached : Reachable NewStore (fun s op => presenceTold op = true ∧ StartsApart s op) exec s) :
    MergesCompatible s ∧ ClosesCompatible s ∧
      ∀ op, presenceTold op = true → StartsApart s op → KeepsIncarnations s (s.exec op) := by
  have both : IndexedTied FitsIncarnation KeyFitsIncarnation s := by
    refine reached.invariant ?_ ?_
    · rintro _ ⟨limits, rfl⟩
      exact indexedTied_newRuntimeStore limits
    · rintro state op ⟨indexed, tied⟩ ⟨told, apart⟩
      exact ⟨indexed.exec op, tied_incarnation_exec tied indexed told apart⟩
  obtain ⟨indexed, tied⟩ := both
  refine ⟨fun record now clock w changed merged => ?_, closesCompatible indexed, fun op _ apart =>
    keepsIncarnations_exec apart⟩
  obtain ⟨_, v, target⟩ := merged_target indexed merged
  exact ⟨v, mergeTarget_live target, compatible_of_mergeTarget tied target⟩

end

section
attribute [local instance] Text.asciiCaseMap natStdlib

theorem incarnations_kept_nat :
    MergesCompatible natSessionStore ∧ ClosesCompatible natSessionStore ∧
      KeepsIncarnations natSessionStore
        (natSessionStore.exec (.applyObserved (partialRecord natTuple 7 0 none) 2 2)) ∧
      (natSessionStore.exec (.applyObserved (partialRecord natTuple 7 0 none) 2 2)).byID.keys.length = 1 := by
  have kept : MergesCompatible natSessionStore ∧ _ := incarnations_kept (.next _ (.start ⟨_, rfl⟩)
    ⟨by decide, fun _ member => absurd member (AList.notMem_empty _)⟩)
  refine ⟨kept.1, kept.2.1, kept.2.2 _ (by decide) fun starts => ?_, by decide +kernel⟩
  exact absurd starts.untaken (by decide +kernel)

def overwrittenID : String :=
  "sess-56831265c1f4ac0be5536cdfd69c6b2e-" ++ hexEncode "0001-01-01T00:00:00.000000005Z".toUTF8.toList

theorem overwritten_session_forgets_incarnation :
    ¬ ∀ s, Reachable NewStore (fun _ op => presenceTold op = true) exec s →
      ∀ op, presenceTold op = true → KeepsIncarnations s (s.exec op) := by
  intro kept
  have reached : Reachable NewStore (fun _ op => presenceTold op = true) exec
      (overwritingRun.foldl exec natStore) := Reachable.run (.start ⟨_, rfl⟩) (by decide +kernel)
  have before : ((overwritingRun.foldl exec natStore).byID.lookup overwrittenID).map
      (·.identity.id) = some 9 := by decide +kernel
  have after : (((overwritingRun.foldl exec natStore).exec
      (.applyObserved overwritingRecord 5 5)).byID.lookup overwrittenID).map (·.identity.id) = some 0 := by
    decide +kernel
  obtain ⟨v, live, known⟩ := Option.map_eq_some_iff.mp before
  obtain ⟨w, found, unknown⟩ := Option.map_eq_some_iff.mp after
  have same := (kept _ reached _ (by decide) overwrittenID v w live found).1 (by rw [known]; decide)
  rw [known, unknown] at same
  exact absurd same (by decide)

end

end Ngfw.Session

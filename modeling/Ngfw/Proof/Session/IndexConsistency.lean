import Ngfw.Proof.Session.EffectiveDecision
import Ngfw.Proof.Session.Index

/-! # The indexes agree with the live sessions -/

namespace Ngfw.Session
open Lib Domain RuntimeStore

def keptAliases (limits : RuntimeLimits) (v : RuntimeSession) : List FlowKey :=
  (aliases v.identity.networkNS v.identity.zone v.originalTuple v.replyTuple v.translatedTuple).take
    limits.maxAliases.toNat

structure Remembered (live : String → Prop) (s : RuntimeStore) : Prop where
  identities : Owned s.identityLimit live s.byIdentity s.identitiesBySession
  conntracks : Owned s.identityLimit live s.byConntrack s.conntracksBySession

structure Filed (s : RuntimeStore) (id : String) (v : RuntimeSession) : Prop where
  named : v.sessionID = id
  valid : v.originalTuple.valid = true
  aliases : s.aliasesBySession.lookup id = some (keptAliases s.limits v)

structure Indexed (s : RuntimeStore) : Prop where
  remembered : Remembered (· ∈ s.byID) s
  aliased : Aliased s.byTuple s.aliasesBySession
  aliasedLive : s.aliasesBySession.All fun id _ => id ∈ s.byID
  filed : s.byID.All (Filed s)
  room : s.byID.keys.length ≤ s.limits.maxSessions
  limited : 0 < s.limits.maxAliases

/-! ## Remembering an identity -/

section
variable {s : RuntimeStore} {live : String → Prop}

section
variable (s : RuntimeStore) (id : String) (identity : ConntrackIdentity)

theorem rememberIdentityLocked_rest :
    s.rememberIdentityLocked id identity =
      { s with
        byIdentity := (s.rememberIdentityLocked id identity).byIdentity
        identitiesBySession := (s.rememberIdentityLocked id identity).identitiesBySession
        byConntrack := (s.rememberIdentityLocked id identity).byConntrack
        conntracksBySession := (s.rememberIdentityLocked id identity).conntracksBySession } := by
  unfold rememberIdentityLocked
  dsimp only
  split_ifs
  · rfl
  all_goals
    split
    · rfl
    · split_ifs <;> rfl

theorem rememberIdentityLocked_cases :
    let after := s.rememberIdentityLocked id identity
    let identities := rememberKey s.identityLimit id identity s.byIdentity s.identitiesBySession
    (after.byIdentity = s.byIdentity ∧ after.identitiesBySession = s.identitiesBySession ∨
      after.byIdentity = identities.1 ∧ after.identitiesBySession = identities.2) ∧
    (after.byConntrack = s.byConntrack ∧ after.conntracksBySession = s.conntracksBySession ∨
      ∃ key, makeConntrackKey identity = some key ∧
        let conntracks := rememberKey s.identityLimit id key s.byConntrack s.conntracksBySession
        after.byConntrack = conntracks.1 ∧ after.conntracksBySession = conntracks.2) := by
  unfold rememberIdentityLocked
  dsimp only
  cases makeConntrackKey identity with
  | none => split_ifs <;> simp
  | some key =>
    dsimp only
    split_ifs
    · exact ⟨.inl ⟨rfl, rfl⟩, .inl ⟨rfl, rfl⟩⟩
    · exact ⟨.inl ⟨rfl, rfl⟩, .inr ⟨key, rfl, rfl, rfl⟩⟩
    · exact ⟨.inl ⟨rfl, rfl⟩, .inl ⟨rfl, rfl⟩⟩
    · exact ⟨.inr ⟨rfl, rfl⟩, .inr ⟨key, rfl, rfl, rfl⟩⟩
    · exact ⟨.inr ⟨rfl, rfl⟩, .inl ⟨rfl, rfl⟩⟩

end

theorem Remembered.rememberIdentityLocked (remembered : Remembered live s) {id : String} (alive : live id)
    (identity : ConntrackIdentity) : Remembered live (s.rememberIdentityLocked id identity) := by
  obtain ⟨identities, conntracks⟩ := rememberIdentityLocked_cases s id identity
  have limit : (s.rememberIdentityLocked id identity).identityLimit = s.identityLimit := by
    rw [rememberIdentityLocked_rest]
    rfl
  constructor
  · rw [limit]
    rcases identities with ⟨index, lists⟩ | ⟨index, lists⟩
    · rw [index, lists]
      exact remembered.identities
    · rw [index, lists]
      exact remembered.identities.rememberKey alive identity
  · rw [limit]
    rcases conntracks with ⟨index, lists⟩ | ⟨key, _, index, lists⟩
    · rw [index, lists]
      exact remembered.conntracks
    · rw [index, lists]
      exact remembered.conntracks.rememberKey alive key

theorem lookup_byIdentity_rememberIdentityLocked {id other : String} {identity found : ConntrackIdentity}
    (held : (s.rememberIdentityLocked id identity).byIdentity.lookup found = some other) :
    found = identity ∧ other = id ∨ s.byIdentity.lookup found = some other := by
  rcases (rememberIdentityLocked_cases s id identity).1 with ⟨index, _⟩ | ⟨index, _⟩
  · rw [index] at held
    exact .inr held
  · rw [index] at held
    exact (lookup_of_lookup_rememberKey held).imp_right And.right

theorem lookup_byConntrack_rememberIdentityLocked {id other : String} {identity : ConntrackIdentity}
    {found : ConntrackKey} (held : (s.rememberIdentityLocked id identity).byConntrack.lookup found = some other) :
    makeConntrackKey identity = some found ∧ other = id ∨ s.byConntrack.lookup found = some other := by
  rcases (rememberIdentityLocked_cases s id identity).2 with ⟨index, _⟩ | ⟨key, made, index, _⟩
  · rw [index] at held
    exact .inr held
  · rw [index] at held
    rcases lookup_of_lookup_rememberKey held with ⟨here, owner⟩ | ⟨_, before⟩
    · exact .inl ⟨here ▸ made, owner⟩
    · exact .inr before

theorem Remembered.imp {other : String → Prop} (remembered : Remembered live s)
    (implies : ∀ id, live id → other id) : Remembered other s :=
  ⟨remembered.identities.imp implies, remembered.conntracks.imp implies⟩

/-! ## Indexing the tuples -/

theorem byTuple_removeTupleIndexesLocked (s : RuntimeStore) (id : String) :
    (s.removeTupleIndexesLocked id).byTuple =
      (listedKeys s.aliasesBySession id).foldl (dropAlias id) s.byTuple := rfl

theorem aliased_removeTupleIndexesLocked (aliased : Aliased s.byTuple s.aliasesBySession) (id : String) :
    Aliased (s.removeTupleIndexesLocked id).byTuple (s.aliasesBySession.erase id) := by
  rw [byTuple_removeTupleIndexesLocked]
  exact aliased.drop id

theorem indexLocked_eq (s : RuntimeStore) (v : RuntimeSession) :
    (s.indexLocked v).1 =
      { s with
        byTuple := (keptAliases s.limits v).foldl (addAlias v.sessionID)
          (s.removeTupleIndexesLocked v.sessionID).byTuple
        aliasesBySession := (s.aliasesBySession.erase v.sessionID).insert v.sessionID (keptAliases s.limits v) } := by
  unfold indexLocked keptAliases
  dsimp only
  generalize aliases v.identity.networkNS v.identity.zone v.originalTuple v.replyTuple v.translatedTuple = all
  by_cases cut : s.limits.maxAliases < all.length
  · simp only [removeTupleIndexesLocked, cut, decide_true, if_true]
    rfl
  · have whole : all.take s.limits.maxAliases.toNat = all := List.take_of_length_le (by omega)
    simp only [removeTupleIndexesLocked, cut, decide_false, Bool.false_eq_true, if_false, whole]
    rfl

theorem aliased_indexLocked (aliased : Aliased s.byTuple s.aliasesBySession) (v : RuntimeSession) :
    Aliased (s.indexLocked v).1.byTuple (s.indexLocked v).1.aliasesBySession := by
  rw [indexLocked_eq]
  refine (aliased_removeTupleIndexesLocked aliased v.sessionID).add ?_ _
  exact fun member => (AList.mem_erase.mp member).1 rfl

theorem lookup_aliasesBySession_indexLocked (v : RuntimeSession) (id : String) :
    (s.indexLocked v).1.aliasesBySession.lookup id =
      if id = v.sessionID then some (keptAliases s.limits v) else s.aliasesBySession.lookup id := by
  rw [indexLocked_eq]
  split_ifs with same
  · rw [same, AList.lookup_insert]
  · rw [AList.lookup_insert_ne same, AList.lookup_erase_ne same]

end

/-! ## The changes -/

section
variable {s : RuntimeStore} {v w : RuntimeSession}

theorem keptAliases_congr (limits : RuntimeLimits) (namespaces : v.identity.networkNS = w.identity.networkNS)
    (zones : v.identity.zone = w.identity.zone) (same : core v = core w) :
    keptAliases limits v = keptAliases limits w := by
  simp only [core, Core.mk.injEq] at same
  unfold keptAliases
  rw [namespaces, zones, same.2.1, same.2.2.1, same.2.2.2.1]

variable {id : String} {p q : RuntimeStore × Nat} {after : RuntimeStore}

theorem Filed.of_anchor (filed : Filed s id v) (same : anchor w = anchor v) : Filed s id w := by
  simp only [anchor, Anchor.mk.injEq] at same
  obtain ⟨named, identity, original, reply, translated⟩ := same
  refine ⟨named.trans filed.named, original ▸ filed.valid, ?_⟩
  rw [filed.aliases, keptAliases, keptAliases, identity, original, reply, translated]

theorem Indexed.rewrite (indexed : Indexed s) (found : s.byID.lookup id = some v)
    (same : anchor w = anchor v) : Indexed { s with byID := s.byID.insert id w } := by
  have live (other : String) : other ∈ s.byID.insert id w ↔ other ∈ s.byID :=
    GoMap.mem_insert_of_mem (GoMap.mem_of_lookup found) other
  have kept : GoMap.All (Filed s) (s.byID.insert id w) :=
    indexed.filed.insert ((indexed.filed id v found).of_anchor same)
  refine ⟨?_, indexed.aliased, indexed.aliasedLive.imp fun other _ member => (live other).mpr member, ?_, ?_,
    indexed.limited⟩
  · have remembered := indexed.remembered.imp fun other member => (live other).mpr member
    exact ⟨remembered.identities, remembered.conntracks⟩
  · exact kept.imp fun other value filed => ⟨filed.named, filed.valid, filed.aliases⟩
  · dsimp only
    rw [GoMap.length_keys_insert_of_mem (GoMap.mem_of_lookup found)]
    exact indexed.room

theorem Indexed.bury (indexed : Indexed s) (found : s.byID.lookup id = some v)
    (closed : RuntimeSession) (now : Time) : Indexed (s.buryLocked id closed now) := by
  have live (other : String) : other ∈ s.byID.erase id ↔ other ∈ s.byID ∧ other ≠ id := by
    rw [AList.mem_erase, and_comm]
  refine ⟨?_, aliased_removeTupleIndexesLocked indexed.aliased id, ?_, ?_, ?_, indexed.limited⟩
  · have identities := (indexed.remembered.identities.forgetKeys id).imp fun other kept => (live other).mpr kept
    have conntracks := (indexed.remembered.conntracks.forgetKeys id).imp fun other kept => (live other).mpr kept
    exact ⟨identities, conntracks⟩
  · intro other keys lookup
    have before := GoMap.lookup_of_lookup_erase lookup
    exact (live other).mpr ⟨indexed.aliasedLive other keys before.1, before.2⟩
  · intro other value lookup
    have before := GoMap.lookup_of_lookup_erase lookup
    have filed := indexed.filed other value before.1
    exact ⟨filed.named, filed.valid, (AList.lookup_erase_ne before.2).trans filed.aliases⟩
  · have shorter := GoMap.length_keys_erase_of_mem (GoMap.mem_of_lookup found)
    have room := indexed.room
    rw [byID_buryLocked]
    change _ ≤ s.limits.maxSessions
    omega

theorem Indexed.change (indexed : Indexed p.1) (change : Change p q) : Indexed q.1 := by
  cases change with
  | rewrite found same _ => exact indexed.rewrite found same
  | bury found closed now => exact indexed.bury found closed now
  | count | note =>
    exact ⟨⟨indexed.remembered.identities, indexed.remembered.conntracks⟩, indexed.aliased, indexed.aliasedLive,
      indexed.filed.imp fun _ _ filed => ⟨filed.named, filed.valid, filed.aliases⟩, indexed.room, indexed.limited⟩
  | forget identity =>
    exact ⟨⟨indexed.remembered.identities.erase identity, indexed.remembered.conntracks⟩, indexed.aliased,
      indexed.aliasedLive, indexed.filed.imp fun _ _ filed => ⟨filed.named, filed.valid, filed.aliases⟩,
      indexed.room, indexed.limited⟩

theorem Indexed.changes (indexed : Indexed p.1) (changes : Changes p q) : Indexed q.1 := by
  induction changes with
  | refl => exact indexed
  | tail _ change ih => exact ih.change change

theorem Indexed.put (indexed : Indexed s)
    (byID : after.byID = s.byID.insert id w) (limits : after.limits = s.limits) (named : w.sessionID = id)
    (valid : w.originalTuple.valid) (remembered : Remembered (· ∈ after.byID) after)
    (aliased : Aliased after.byTuple after.aliasesBySession)
    (lookup : ∀ other, after.aliasesBySession.lookup other =
      if other = id then some (keptAliases s.limits w) else s.aliasesBySession.lookup other)
    (room : after.byID.keys.length ≤ s.limits.maxSessions) : Indexed after := by
  refine ⟨remembered, aliased, fun other keys held => ?_, fun other value held => ?_, limits ▸ room,
    limits ▸ indexed.limited⟩
  · change other ∈ after.byID
    rw [byID, AList.mem_insert]
    rw [lookup] at held
    split_ifs at held with same
    · exact .inl same
    · exact .inr (indexed.aliasedLive other keys held)
  · rw [byID] at held
    by_cases here : other = id
    · subst here
      rw [AList.lookup_insert] at held
      obtain rfl := Option.some.inj held
      exact ⟨named, valid, by rw [lookup, if_pos rfl, limits]⟩
    · rw [AList.lookup_insert_ne here] at held
      have old := indexed.filed other value held
      exact ⟨old.named, old.valid, by rw [lookup, if_neg here, limits, old.aliases]⟩

/-! ## Merging a record -/

theorem mergeReply_rest (s : RuntimeStore) (r : Record) (v : RuntimeSession) :
    (mergeReply s r v).1 =
      { s with
        byTuple := (mergeReply s r v).1.byTuple
        aliasesBySession := (mergeReply s r v).1.aliasesBySession
        revision := (mergeReply s r v).1.revision } := by
  unfold mergeReply
  split
  · split_ifs <;> rfl
  · rfl

theorem aliased_mergeReply (aliased : Aliased s.byTuple s.aliasesBySession) (r : Record) (v : RuntimeSession) :
    Aliased (mergeReply s r v).1.byTuple (mergeReply s r v).1.aliasesBySession := by
  unfold mergeReply
  split
  · split_ifs
    · exact aliased
    · exact aliased_indexLocked aliased _
  · exact aliased

theorem lookup_aliasesBySession_mergeReply (r : Record)
    (filed : s.aliasesBySession.lookup v.sessionID = some (keptAliases s.limits v)) (id : String) :
    (mergeReply s r v).1.aliasesBySession.lookup id =
      if id = v.sessionID then some (keptAliases s.limits (withReply r v)) else s.aliasesBySession.lookup id := by
  have unchanged : s.aliasesBySession.lookup id =
      if id = v.sessionID then some (keptAliases s.limits v) else s.aliasesBySession.lookup id := by
    split_ifs with same
    · rw [same, filed]
    · rfl
  unfold mergeReply withReply
  cases r.presence.replyTuple <;> cases r.replyTuple <;> try exact unchanged
  rename_i reply
  dsimp only
  by_cases known : v.replyTuple = some reply
  · rw [if_pos known, if_pos known]
    exact unchanged
  · rw [if_neg known, if_neg known]
    exact lookup_aliasesBySession_indexLocked _ id

theorem remembered_mergeInto [CaseMap] {live : String → Prop} (remembered : Remembered live s)
    (alive : live id) (named : v.sessionID = id) (r : Record) (now : Time) :
    Remembered live (s.mergeInto id v r now).1 := by
  have first := remembered.rememberIdentityLocked alive r.identity
  have second (expiryRetryAfter : GoMap String Time) : Remembered live
      { (mergeReply (s.rememberIdentityLocked id r.identity) r (mergeIdentity r v).1).1 with
        expiryRetryAfter := expiryRetryAfter } := by
    rw [mergeReply_rest]
    exact ⟨first.identities, first.conntracks⟩
  have third (expiryRetryAfter : GoMap String Time) :=
    (second expiryRetryAfter).rememberIdentityLocked (named ▸ alive : live v.sessionID) r.identity
  exact ⟨(third _).identities, (third _).conntracks⟩

section
variable (s : RuntimeStore) (id : String) (v : RuntimeSession) (r : Record) (now : Time)

theorem mergeInto_rest [CaseMap] :
    (s.mergeInto id v r now).1.limits = s.limits ∧ (s.mergeInto id v r now).1.stats = s.stats ∧
      (s.mergeInto id v r now).1.byTuple =
        (mergeReply (s.rememberIdentityLocked id r.identity) r (mergeIdentity r v).1).1.byTuple ∧
      (s.mergeInto id v r now).1.aliasesBySession =
        (mergeReply (s.rememberIdentityLocked id r.identity) r (mergeIdentity r v).1).1.aliasesBySession := by
  unfold mergeInto mergeLocked
  dsimp only
  rw [rememberIdentityLocked_rest]
  dsimp only
  rw [mergeReply_rest]
  dsimp only
  rw [rememberIdentityLocked_rest]
  exact ⟨rfl, rfl, rfl, rfl⟩

theorem learned_mergeInto [CaseMap] :
    ∃ w, (s.mergeInto id v r now).1.byID = s.byID.insert id w ∧ core w = core (withReply r v) ∧
      w.identity = learnIdentity r v.identity :=
  ⟨_, byID_mergeInto _ _ _ _ _, core_mergeLocked _ _ _ _ _, identity_mergeLocked _ _ _ _ _⟩

end

theorem withReply_keeps (r : Record) (v : RuntimeSession) :
    (withReply r v).sessionID = v.sessionID ∧ (withReply r v).originalTuple = v.originalTuple ∧
      (withReply r v).identity = v.identity := by
  unfold withReply
  split
  · split_ifs <;> exact ⟨rfl, rfl, rfl⟩
  · exact ⟨rfl, rfl, rfl⟩

theorem lookup_aliasesBySession_mergeInto [CaseMap] (filed : Filed s id v) (r : Record) (now : Time)
    (same : core w = core (withReply r v)) (identity : w.identity = learnIdentity r v.identity) (other : String) :
    (s.mergeInto id v r now).1.aliasesBySession.lookup other =
      if other = id then some (keptAliases s.limits w) else s.aliasesBySession.lookup other := by
  have learned : (mergeIdentity r v).1.identity = learnIdentity r v.identity :=
    congrArg (·.2.1) (lasting_mergeIdentity r v)
  have named : (mergeIdentity r v).1.sessionID = id :=
    (congrArg Core.sessionID (core_mergeIdentity r v)).trans filed.named
  have before : keptAliases s.limits (mergeIdentity r v).1 = keptAliases s.limits v :=
    keptAliases_congr _ (by rw [learned]; rfl) (by rw [learned]; rfl) (core_mergeIdentity r v)
  have after : keptAliases s.limits (withReply r (mergeIdentity r v).1) = keptAliases s.limits w := by
    have replied := (withReply_keeps r (mergeIdentity r v).1).2.2
    refine keptAliases_congr _ ?_ ?_ ?_
    · rw [replied, learned, identity]
    · rw [replied, learned, identity]
    · rw [same]
      exact core_withReply_congr r (core_mergeIdentity r v)
  have tables := rememberIdentityLocked_rest s id r.identity
  have lists : (s.rememberIdentityLocked id r.identity).aliasesBySession = s.aliasesBySession := by rw [tables]
  have limits : (s.rememberIdentityLocked id r.identity).limits = s.limits := by rw [tables]
  rw [(mergeInto_rest s id v r now).2.2.2, lookup_aliasesBySession_mergeReply, named, limits, lists, after]
  rw [named, limits, lists, before]
  exact filed.aliases

theorem Indexed.mergeInto [CaseMap] (indexed : Indexed s) (found : s.byID.lookup id = some v)
    (r : Record) (now : Time) : Indexed (s.mergeInto id v r now).1 := by
  have filed := indexed.filed id v found
  have member := GoMap.mem_of_lookup found
  obtain ⟨limits, _, byTuple, aliasLists⟩ := mergeInto_rest s id v r now
  obtain ⟨w, byID, same, identity⟩ := learned_mergeInto s id v r now
  have live (other : String) : other ∈ (s.mergeInto id v r now).1.byID ↔ other ∈ s.byID := by
    rw [byID]
    exact GoMap.mem_insert_of_mem member other
  have kept := withReply_keeps r v
  have named : w.sessionID = v.sessionID := (congrArg Core.sessionID same).trans kept.1
  have original : w.originalTuple = v.originalTuple := (congrArg Core.originalTuple same).trans kept.2.1
  refine indexed.put byID limits (named.trans filed.named) (by rw [original, filed.valid]) ?_ ?_
    (lookup_aliasesBySession_mergeInto filed r now same identity) ?_
  · exact remembered_mergeInto (indexed.remembered.imp fun other => (live other).mpr) ((live id).mpr member)
      filed.named r now
  · rw [byTuple, aliasLists]
    refine aliased_mergeReply ?_ _ _
    rw [rememberIdentityLocked_rest]
    exact indexed.aliased
  · rw [byID, GoMap.length_keys_insert_of_mem member]
    exact indexed.room

/-! ## Starting a session -/

def RuntimeStore.startLocked [CaseMap] (s : RuntimeStore) (id : String) (record : Record) (now : Time) :
    RuntimeStore :=
  let indexed := (s.rememberIdentityLocked id record.identity).indexLocked (newSession id record now)
  { indexed.1 with
    byID := indexed.1.byID.insert id indexed.2
    stats := { indexed.1.stats with
      created := indexed.1.stats.created + 1
      active := UInt64.ofNat (indexed.1.byID.insert id indexed.2).keys.length }
    revision := indexed.1.revision + 1 }

structure Started [CaseMap] (s : RuntimeStore) (id : String) (record : Record) (now : Time) (after : RuntimeStore)
    (v : RuntimeSession) : Prop where
  byID : after.byID = s.byID.insert id v
  session : v = ((s.rememberIdentityLocked id record.identity).indexLocked (newSession id record now)).2
  fresh : core v = core (newSession id record now)
  identity : v.identity = record.identity
  remembered : ∀ live, Remembered live after ↔ Remembered live (s.rememberIdentityLocked id record.identity)
  byIdentity : after.byIdentity = (s.rememberIdentityLocked id record.identity).byIdentity
  byConntrack : after.byConntrack = (s.rememberIdentityLocked id record.identity).byConntrack
  tuples : after.byTuple = (s.indexLocked (newSession id record now)).1.byTuple
  aliases : after.aliasesBySession = (s.indexLocked (newSession id record now)).1.aliasesBySession
  limits : after.limits = s.limits
  created : after.stats.created = s.stats.created + 1
  closed : after.stats.closed = s.stats.closed

theorem started_createLocked [CaseMap] [Stdlib] (s : RuntimeStore) (record : Record) (now clock : Time)
    (room : ¬ s.limits.maxSessions ≤ s.byID.keys.length) :
    ∃ v, (s.createLocked (completeRecord record) now clock).2 = .ok (v, true, true) ∧
      Started s (s.startedID record clock) (completeRecord record) now
        (s.createLocked (completeRecord record) now clock).1 v := by
  have unfolded : s.createLocked (completeRecord record) now clock =
      (s.startLocked (s.startedID record clock) (completeRecord record) now,
        .ok (((s.rememberIdentityLocked (s.startedID record clock)
          (completeRecord record).identity).indexLocked (newSession (s.startedID record clock)
            (completeRecord record) now)).2, true, true)) := by
    unfold createLocked
    rw [if_neg room]
    rfl
  rw [unfolded]
  generalize s.startedID record clock = id
  generalize completeRecord record = record
  have rest := rememberIdentityLocked_rest s id record.identity
  refine ⟨_, rfl, ?_⟩
  exact
    { byID := by rw [startLocked, byID_indexLocked, byID_rememberIdentityLocked]
      session := rfl
      fresh := congrArg Prod.fst (lasting_indexLocked _ _)
      identity := congrArg (·.2.1) (lasting_indexLocked _ _)
      remembered := fun live => ⟨fun known => ⟨known.1, known.2⟩, fun known => ⟨known.1, known.2⟩⟩
      byIdentity := rfl
      byConntrack := rfl
      tuples := by
        rw [startLocked, indexLocked_eq, indexLocked_eq, rest]
        rfl
      aliases := by
        rw [startLocked, indexLocked_eq, indexLocked_eq, rest]
      limits := by
        rw [startLocked, indexLocked_eq, rest]
      created := by
        rw [startLocked, indexLocked_eq, rest]
      closed := by
        rw [startLocked, indexLocked_eq, rest] }

theorem Indexed.started [CaseMap] (indexed : Indexed s) {record : Record} {now : Time}
    (started : Started s id record now after v) (valid : record.originalTuple.valid)
    (room : s.byID.keys.length < s.limits.maxSessions) : Indexed after := by
  have live (other : String) : other ∈ after.byID ↔ other = id ∨ other ∈ s.byID := by
    rw [started.byID, AList.mem_insert]
  have original : v.originalTuple = record.originalTuple := congrArg Core.originalTuple started.fresh
  have kept : keptAliases s.limits v = keptAliases s.limits (newSession id record now) :=
    keptAliases_congr _ (by rw [started.identity]; rfl) (by rw [started.identity]; rfl) started.fresh
  refine indexed.put started.byID started.limits (congrArg Core.sessionID started.fresh) (by rw [original, valid])
    ?_ ?_ (fun other => ?_) ?_
  · rw [started.remembered]
    exact (indexed.remembered.imp fun other member => (live other).mpr (.inr member)).rememberIdentityLocked
      ((live id).mpr (.inl rfl)) _
  · rw [started.tuples, started.aliases]
    exact aliased_indexLocked indexed.aliased _
  · rw [started.aliases, lookup_aliasesBySession_indexLocked, kept]
    rfl
  · rw [started.byID]
    by_cases known : id ∈ s.byID
    · rw [GoMap.length_keys_insert_of_mem known]
      exact indexed.room
    · rw [GoMap.length_keys_insert_of_notMem known]
      omega

theorem createLocked_full [CaseMap] [Stdlib] (full : s.limits.maxSessions ≤ s.byID.keys.length) (record : Record)
    (now clock : Time) : Changes (s, 0) ((s.createLocked record now clock).1, 0) := by
  unfold createLocked
  rw [if_pos full]
  exact .of_change (.note s.closed s.tombstones s.expiryRetryAfter s.limits.maxClosed s.limits.closedTTL s.revision _
    rfl rfl)

theorem exec_cases [CaseMap] [Stdlib] (s : RuntimeStore) (op : StoreOp) :
    Changes (s, 0) (s.exec op, 0) ∨
    ∃ record now clock, op = .applyObserved record now clock ∧
      (completeRecord record).originalTuple.valid = true ∧
      ((∃ id v, s.mergeTarget record = some (id, v) ∧
        s.exec op =
          (s.mergeInto id v (completeRecord record) (observedAt now clock)).1) ∨
      ∃ v, s.Starts record ∧ s.byID.keys.length < s.limits.maxSessions ∧
        Started s (s.startedID record clock) (completeRecord record) (observedAt now clock)
          (s.exec op) v) := by
  rcases op.observed_or with ⟨record, now, clock, rfl⟩ | applies
  · simp only [exec]
    rcases s.applyObserved_cases record now clock with
      ⟨failure, refused⟩ | ⟨valid, ⟨id, v, target, merges⟩ | ⟨starts, creates⟩⟩
    · rw [refused]
      exact .inl (.refl _)
    · rw [merges]
      exact .inr ⟨record, now, clock, rfl, valid, .inl ⟨id, v, target, rfl⟩⟩
    · rw [creates]
      by_cases full : s.limits.maxSessions ≤ s.byID.keys.length
      · exact .inl (createLocked_full full _ _ _)
      · obtain ⟨v, _, started⟩ := started_createLocked s record (observedAt now clock) clock full
        exact .inr ⟨record, now, clock, rfl, valid, .inr ⟨v, starts, by omega, started⟩⟩
  · exact .inl (Changes.exec s op applies)

theorem Indexed.exec [CaseMap] [Stdlib] (indexed : Indexed s) (op : StoreOp) : Indexed (s.exec op) := by
  rcases exec_cases s op with
    changes | ⟨record, now, clock, rfl, valid, ⟨id, v, target, merges⟩ | ⟨v, _, room, started⟩⟩
  · exact indexed.changes (p := (s, 0)) (q := (_, 0)) changes
  · rw [merges]
    exact indexed.mergeInto (mergeTarget_live target) _ _
  · exact indexed.started started valid room

theorem Indexed.run [CaseMap] [Stdlib] (indexed : Indexed s) (ops : List StoreOp) :
    Indexed (ops.foldl RuntimeStore.exec s) := by
  induction ops generalizing s with
  | nil => exact indexed
  | cons op rest ih => exact ih (indexed.exec op)

theorem indexed_newRuntimeStore (limits : RuntimeLimits) : Indexed (newRuntimeStore limits) := by
  refine ⟨⟨owned_empty, owned_empty⟩, ⟨fun key id => ?_, GoMap.all_empty⟩, GoMap.all_empty,
    GoMap.all_empty, ?_, ?_⟩
  · simp [newRuntimeStore, aliasOwners, listedKeys]
  · simp only [newRuntimeStore, defaultRuntimeLimits]
    split_ifs <;> simp
    omega
  · simp only [newRuntimeStore, defaultRuntimeLimits]
    split_ifs <;> omega

theorem indexed_of_reachable [CaseMap] [Stdlib] {admits : RuntimeStore → StoreOp → Prop}
    (reached : Reachable NewStore admits exec s) : Indexed s := by
  refine reached.invariant ?_ fun state op indexed _ => indexed.exec op
  rintro _ ⟨limits, rfl⟩
  exact indexed_newRuntimeStore limits

/-! ## The counters -/

def Counted (p : RuntimeStore × Nat) : Prop :=
  p.1.stats.created - p.1.stats.closed = UInt64.ofNat (p.1.byID.keys.length + p.2)

theorem Counted.change (counted : Counted p) (change : Change p q) : Counted q := by
  unfold Counted at counted ⊢
  cases change with
  | rewrite found same _ =>
    dsimp only at counted ⊢
    rw [counted, GoMap.length_keys_insert_of_mem (GoMap.mem_of_lookup found)]
  | @bury s uncounted id old found closed now =>
    have shorter := GoMap.length_keys_erase_of_mem (GoMap.mem_of_lookup found)
    have moved : (s.buryLocked id closed now).byID.keys.length + (uncounted + 1) =
        s.byID.keys.length + uncounted := by
      rw [byID_buryLocked]
      omega
    dsimp only at counted ⊢
    rw [moved]
    exact counted
  | @count s uncounted closed =>
    dsimp only [countClosed] at counted ⊢
    rw [← Nat.add_assoc, UInt64.ofNat_add] at counted
    grind
  | forget identity => exact counted
  | note closed tombstones expiryRetryAfter maxClosed closedTTL revision stats created ended =>
    dsimp only at counted ⊢
    rw [created, ended]
    exact counted

theorem Counted.changes (counted : Counted p) (changes : Changes p q) : Counted q := by
  induction changes with
  | refl => exact counted
  | tail _ change ih => exact ih.change change

def StartsApart [Stdlib] (s : RuntimeStore) : StoreOp → Prop
  | .applyObserved record _ clock => s.Starts record → s.startedID record clock ∉ s.byID
  | _ => True

theorem Counted.exec [CaseMap] [Stdlib] (counted : Counted (s, 0)) (op : StoreOp) (apart : StartsApart s op) :
    Counted (s.exec op, 0) := by
  rcases exec_cases s op with
    changes | ⟨record, now, clock, rfl, _, ⟨id, v, target, merges⟩ | ⟨v, starts, _, started⟩⟩
  · exact counted.changes changes
  · obtain ⟨w, byID, _⟩ := learned_mergeInto s id v (completeRecord record) (observedAt now clock)
    unfold Counted at counted ⊢
    dsimp only at counted ⊢
    rw [merges, (mergeInto_rest _ _ _ _ _).2.1, byID, GoMap.length_keys_insert_of_mem
      (GoMap.mem_of_lookup (mergeTarget_live target))]
    exact counted
  · unfold Counted at counted ⊢
    dsimp only at counted ⊢
    rw [started.created, started.closed, started.byID, GoMap.length_keys_insert_of_notMem (apart starts),
      Nat.add_right_comm, UInt64.ofNat_add, ← counted, UInt64.ofNat_one]
    grind

theorem counted_of_reachable [CaseMap] [Stdlib] (reached : Reachable NewStore StartsApart exec s) :
    s.stats.created - s.stats.closed = UInt64.ofNat s.byID.keys.length := by
  have counted : Counted (s, 0) := by
    refine @Reachable.invariant _ _ _ _ _ (fun s => Counted (s, 0)) ?_
      (fun state op counted apart => counted.exec op apart) s reached
    rintro _ ⟨limits, rfl⟩
    simp [Counted, newRuntimeStore]
  exact counted

/-! ## What is left of a closed session -/

def Mentions (s : RuntimeStore) (id : String) : Prop :=
  id ∈ s.byID ∨ (∃ identity, s.byIdentity.lookup identity = some id) ∨
    (∃ key, s.byConntrack.lookup key = some id) ∨ (∃ key, id ∈ aliasOwners s.byTuple key) ∨
    id ∈ s.aliasesBySession ∨ id ∈ s.identitiesBySession ∨ id ∈ s.conntracksBySession

theorem Indexed.live_of_mentions (indexed : Indexed s) (mentions : Mentions s id) : id ∈ s.byID := by
  have aliasedLive (member : id ∈ s.aliasesBySession) : id ∈ s.byID := by
    obtain ⟨keys, held⟩ := GoMap.exists_lookup_of_mem member
    exact indexed.aliasedLive id keys held
  rcases mentions with live | ⟨identity, held⟩ | ⟨key, held⟩ | ⟨key, owner⟩ | listed | listed | listed
  · exact live
  · exact indexed.remembered.identities.live_of_lookup held
  · exact indexed.remembered.conntracks.live_of_lookup held
  · exact aliasedLive (mem_of_mem_listedKeys ((indexed.aliased.inverse key id).mp owner))
  · exact aliasedLive listed
  · exact indexed.remembered.identities.alive id listed
  · exact indexed.remembered.conntracks.alive id listed

def closedBy (s : RuntimeStore) : StoreOp → List String
  | .close identity reason now clock => ((s.close identity reason now clock).2.map (·.sessionID)).toList
  | .delete id reason now clock => match (s.delete id reason now clock).2 with
    | .ok _ => [id]
    | .error _ => []
  | .reconcileMissing seen before now reason clock order =>
    (s.reconcileMissing seen before now reason clock order).2.map (·.sessionID)
  | .closeVerifiedExpired candidate now => ((s.closeVerifiedExpired candidate now).2.map (·.sessionID)).toList
  | _ => []

theorem notMem_byID_bury (s : RuntimeStore) (id : String) (closed : RuntimeSession) (now : Time) :
    id ∉ (s.buryLocked id closed now).byID := by
  rw [byID_buryLocked]
  exact fun member => (AList.mem_erase.mp member).1 rfl

theorem reconcile_gone (named : s.byID.All fun id v => v.sessionID = id) (seen : List String) (before now : Time)
    (reason : String) (order : List String) :
    ∀ v ∈ (order.foldl (reconcileOne seen before now reason) (s, [])).2,
      v.sessionID ∉ (order.foldl (reconcileOne seen before now reason) (s, [])).1.byID := by
  refine (List.foldlRecOn (b := (s, [])) order (reconcileOne seen before now reason)
    (motive := fun state => GoMap.All (fun id v => v.sessionID = id) state.1.byID ∧
      ∀ v ∈ state.2, v.sessionID ∉ state.1.byID) ⟨named, by simp⟩ ?_).2
  rintro state ⟨named, gone⟩ id _
  unfold reconcileOne
  split
  · exact ⟨named, gone⟩
  · rename_i v found
    split
    · exact ⟨named, gone⟩
    · refine ⟨GoMap.All.erase named id, fun removed member => ?_⟩
      rcases List.mem_append.mp member with earlier | last
      · exact fun left => gone removed earlier (AList.mem_erase.mp left).2
      · rw [List.mem_singleton.mp last]
        dsimp only
        rw [named id v found]
        exact notMem_byID_bury _ _ _ _

theorem notMem_of_closedBy [CaseMap] [Stdlib] (indexed : Indexed s) {op : StoreOp}
    (closed : id ∈ closedBy s op) : id ∉ (s.exec op).byID := by
  have named : s.byID.All fun id v => v.sessionID = id := indexed.filed.imp fun _ _ filed => filed.named
  cases op with
  | close identity reason now clock =>
    simp only [closedBy, Option.mem_toList, Option.map_eq_some_iff] at closed
    obtain ⟨v, closes, rfl⟩ := closed
    obtain ⟨id, live, time, _, found, _, result, same⟩ := close_closes closes
    rw [exec, result, same, named id live found]
    exact notMem_byID_bury _ _ _ _
  | delete other reason now clock =>
    simp only [closedBy] at closed
    split at closed
    · rename_i closes
      obtain ⟨v, buried, time, _, result⟩ := delete_closes closes
      rw [exec, result, List.mem_singleton.mp closed]
      exact notMem_byID_bury _ _ _ _
    · cases closed
  | reconcileMissing seen before now reason clock order =>
    obtain ⟨seenIDs, begun, ended, swept, sweep, byID, removed⟩ :=
      s.reconcileMissing_sweeps seen before now reason clock order
    simp only [closedBy, removed, List.mem_map] at closed
    obtain ⟨v, member, rfl⟩ := closed
    rw [exec, byID, sweep]
    rw [sweep] at member
    exact reconcile_gone named seenIDs begun ended reason order v member
  | closeVerifiedExpired candidate now =>
    simp only [closedBy, Option.mem_toList, Option.map_eq_some_iff] at closed
    obtain ⟨v, closes, rfl⟩ := closed
    obtain ⟨live, found, same, result⟩ := closeVerifiedExpired_closes closes
    rw [exec, result, same, named _ live found]
    exact notMem_byID_bury _ _ _ _
  | _ => simp [closedBy] at closed

structure IndexesAgree (s : RuntimeStore) : Prop where
  inverse : ∀ key id, id ∈ aliasOwners s.byTuple key ↔ id ∈ s.byID ∧ key ∈ listedKeys s.aliasesBySession id
  occupied : ∀ key ids, s.byTuple.lookup key = some ids → ids.keys ≠ []
  aliases : ∀ id v, s.byID.lookup id = some v →
    s.aliasesBySession.lookup id = some ((aliases v.identity.networkNS v.identity.zone v.originalTuple v.replyTuple
      v.translatedTuple).take s.limits.maxAliases.toNat)
  aliased : ∀ id keys, s.aliasesBySession.lookup id = some keys → id ∈ s.byID ∧ keys ≠ []
  identities : ∀ identity id, s.byIdentity.lookup identity = some id →
    id ∈ s.byID ∧ identity ∈ listedKeys s.identitiesBySession id
  conntracks : ∀ key id, s.byConntrack.lookup key = some id →
    id ∈ s.byID ∧ key ∈ listedKeys s.conntracksBySession id
  bounded : ∀ id, (listedKeys s.identitiesBySession id).length ≤ s.limits.maxAliases ∧
    (listedKeys s.conntracksBySession id).length ≤ s.limits.maxAliases
  room : s.byID.keys.length ≤ s.limits.maxSessions

theorem aliases_ne_nil {original : Tuple} (valid : original.valid) (networkNamespace : String)
    (conntrackZone : UInt16) (reply translated : Option Tuple) :
    aliases networkNamespace conntrackZone original reply translated ≠ [] := by
  have grows (add : List FlowKey → Tuple → List FlowKey) (keeps : ∀ seen t, seen ≠ [] → add seen t ≠ [])
      (views : List Tuple) (seen : List FlowKey) (some : seen ≠ []) : views.foldl add seen ≠ [] :=
    List.foldlRecOn (motive := (· ≠ [])) views add some fun seen some t _ => keeps seen t some
  unfold aliases
  dsimp only
  rw [List.append_assoc, List.cons_append, List.foldl_cons]
  refine grows _ (fun seen t some => ?_) _ _ ?_
  · split_ifs
    · exact some
    · simp
  · simp [valid]

theorem keptAliases_ne_nil {limits : RuntimeLimits} (limited : 0 < limits.maxAliases)
    (valid : v.originalTuple.valid) : keptAliases limits v ≠ [] := by
  unfold keptAliases
  rw [Ne, List.take_eq_nil_iff, not_or]
  exact ⟨by omega, aliases_ne_nil valid _ _ _ _⟩

theorem Indexed.agree (indexed : Indexed s) : IndexesAgree s := by
  have limit : (s.identityLimit : Int) = s.limits.maxAliases := by
    have limited := indexed.limited
    unfold identityLimit
    rw [if_neg (by omega)]
    omega
  have aliased (id : String) (keys : List FlowKey) (held : s.aliasesBySession.lookup id = some keys) :
      id ∈ s.byID ∧ keys ≠ [] := by
    have live := indexed.aliasedLive id keys held
    obtain ⟨v, found⟩ := GoMap.exists_lookup_of_mem live
    have filed := indexed.filed id v found
    rw [filed.aliases] at held
    obtain rfl := Option.some.inj held
    exact ⟨live, keptAliases_ne_nil indexed.limited filed.valid⟩
  refine ⟨fun key id => ?_, indexed.aliased.occupied, fun id v found => (indexed.filed id v found).aliases, aliased,
    fun identity id held => ?_, fun key id held => ?_, fun id => ?_, indexed.room⟩
  · rw [indexed.aliased.inverse]
    refine ⟨fun listed => ⟨?_, listed⟩, fun both => both.2⟩
    obtain ⟨keys, held⟩ := GoMap.exists_lookup_of_mem (mem_of_mem_listedKeys listed)
    exact (aliased id keys held).1
  · exact ⟨indexed.remembered.identities.live_of_lookup held,
      indexed.remembered.identities.listed identity id held⟩
  · exact ⟨indexed.remembered.conntracks.live_of_lookup held, indexed.remembered.conntracks.listed key id held⟩
  · have identities := indexed.remembered.identities.bounded id
    have conntracks := indexed.remembered.conntracks.bounded id
    omega

end

theorem indexes_agree_and_counters_tally [CaseMap] [Stdlib] :
    (∀ s, Reachable NewStore (fun _ _ => True) exec s →
      IndexesAgree s ∧ ∀ op id, id ∈ closedBy s op → ¬ Mentions (s.exec op) id) ∧
    ∀ s, Reachable NewStore StartsApart exec s →
      s.stats.created - s.stats.closed = UInt64.ofNat s.byID.keys.length := by
  refine ⟨fun s reached => ?_, fun s reached => counted_of_reachable reached⟩
  have indexed := indexed_of_reachable reached
  refine ⟨indexed.agree, fun op id closed mentions => ?_⟩
  exact notMem_of_closedBy indexed closed ((indexed.exec op).live_of_mentions mentions)

/-! ## A session that overwrites a live one -/

def natTuple : Tuple :=
  { family := .ipv4, srcIP := .v4 0xC000020A#32, srcPort := 40000, dstIP := .v4 0xC6336401#32, dstPort := 443
    protocol := 6 }

def natReply : Tuple :=
  { family := .ipv4, srcIP := .v4 0xC6336401#32, srcPort := 443, dstIP := .v4 0xCB007105#32, dstPort := 50000
    protocol := 6 }

def partialRecord (tuple : Tuple) (id : UInt32) (kernelStart : UInt64) (reply : Option Tuple) : Record where
  identity := { networkNS := "default", family := .ipv4, id := id, kernelStart := kernelStart, original := tuple }
  originalTuple := tuple
  replyTuple := reply
  presence :=
    { originalTuple := true, replyTuple := reply.isSome, id := id ≠ 0, timestamp := kernelStart ≠ 0 }

@[reducible] def natStdlib : Stdlib :=
  sumTable (fun bytes => (bytes.reverse.drop 8).head? = some 8)
    0x9fc84eb347ea704528ffe06e2ca60fbc5fbc26c749b133e2b3cf6dd28a79e12c
    0x56831265c1f4ac0be5536cdfd69c6b2e8645bb9b3accf06eb067a7d0ee8d5f60 "0001-01-01T00:00:00.000000005Z"

/-- A flow that is known under more identities than a session keeps, and started again by the first of them while
the clock reads the same. -/
def overwritingRun : List StoreOp :=
  [.applyObserved (partialRecord natTuple 0 0 none) 1 1,
    .applyObserved (partialRecord natTuple 7 0 none) 2 2,
    .applyObserved (partialRecord natTuple 0 90 none) 3 3,
    -- the first identity of the session is evicted
    .applyObserved (partialRecord natTuple 7 90 none) 4 4,
    -- a second session makes the tuple ambiguous
    .applyObserved (partialRecord natTuple 8 0 none) 4 4,
    .applyObserved (partialRecord natTuple 0 0 (some natReply)) 5 5,
    -- the third session is still found under its reply tuple
    .applyObserved (partialRecord natReply 0 0 none) 5 5,
    .applyObserved (partialRecord natReply 9 0 none) 5 5,
    .applyObserved (partialRecord natReply 9 95 none) 5 5]

def overwritingRecord : Record :=
  partialRecord natTuple 0 0 none

def natStore : RuntimeStore :=
  newRuntimeStore { defaultRuntimeLimits with maxAliases := 3 }

section
attribute [local instance] Text.asciiCaseMap natStdlib

def natSessionStore : RuntimeStore :=
  natStore.exec (.applyObserved (partialRecord natTuple 0 0 none) 1 1)

theorem indexes_agree_and_counters_tally_nat :
    IndexesAgree natSessionStore ∧
      ¬ Mentions (natSessionStore.exec (.delete "sess-56831265c1f4ac0be5536cdfd69c6b2e" "" 2 2))
        "sess-56831265c1f4ac0be5536cdfd69c6b2e" ∧
      natSessionStore.stats.created - natSessionStore.stats.closed =
        UInt64.ofNat natSessionStore.byID.keys.length ∧ natSessionStore.byID.keys.length = 1 := by
  have agree := indexes_agree_and_counters_tally.1 natSessionStore (.next _ (.start ⟨_, rfl⟩) trivial)
  have tally := indexes_agree_and_counters_tally.2 natSessionStore
    (.next _ (.start ⟨_, rfl⟩) fun _ member => absurd member (AList.notMem_empty _))
  exact ⟨agree.1, agree.2 _ _ (by decide +kernel), tally, by decide +kernel⟩

theorem overwritten_session_counted_twice :
    ¬ ∀ s, Reachable NewStore (fun _ _ => True) exec s →
      s.stats.created - s.stats.closed = UInt64.ofNat s.byID.keys.length := by
  intro tally
  have reached : Reachable NewStore (fun _ _ => True) exec
      ((overwritingRun ++ [StoreOp.applyObserved overwritingRecord 5 5]).foldl exec natStore) :=
    Reachable.run (.start ⟨_, rfl⟩) (by decide +kernel)
  exact absurd (tally _ reached) (by decide +kernel)

end

end Ngfw.Session

import Ngfw.Proof.Session.Store

/-! # The indexes of the store -/

namespace Ngfw.Session
open Lib Domain

/-! ## Keys with one owner -/

section
variable {Key : Type}

def listedKeys (bySession : GoMap String (List Key)) (id : String) : List Key :=
  (bySession.lookup id).getD []

variable {id other : String} {key : Key}

theorem mem_of_mem_listedKeys (listed : key ∈ listedKeys bySession id) : id ∈ bySession := by
  unfold listedKeys at listed
  cases found : bySession.lookup id with
  | none => simp [found] at listed
  | some keys => exact AList.lookup_isSome.mp (by rw [found]; rfl)

theorem listedKeys_insert (bySession : GoMap String (List Key)) (id : String) (keys : List Key) (other : String) :
    listedKeys (bySession.insert id keys) other = if other = id then keys else listedKeys bySession other := by
  unfold listedKeys
  split_ifs with same
  · subst same
    rw [AList.lookup_insert]
    rfl
  · rw [AList.lookup_insert_ne same]

theorem listedKeys_erase (bySession : GoMap String (List Key)) (id other : String) :
    listedKeys (bySession.erase id) other = if other = id then [] else listedKeys bySession other := by
  unfold listedKeys
  split_ifs with same
  · subst same
    rw [AList.lookup_erase]
    rfl
  · rw [AList.lookup_erase_ne same]

variable [DecidableEq Key]

structure Owned (limit : Nat) (live : String → Prop) (index : GoMap Key String)
    (bySession : GoMap String (List Key)) : Prop where
  listed : ∀ key id, index.lookup key = some id → key ∈ listedKeys bySession id
  bounded : ∀ id, (listedKeys bySession id).length ≤ limit
  alive : ∀ id, id ∈ bySession → live id

variable {limit : Nat} {live : String → Prop} {index : GoMap Key String} {bySession : GoMap String (List Key)}

theorem Owned.live_of_lookup (owned : Owned limit live index bySession)
    (found : index.lookup key = some id) : live id :=
  owned.alive id (mem_of_mem_listedKeys (owned.listed key id found))

theorem Owned.imp {other : String → Prop} (owned : Owned limit live index bySession)
    (implies : ∀ id, live id → other id) : Owned limit other index bySession :=
  ⟨owned.listed, owned.bounded, fun id member => implies id (owned.alive id member)⟩

theorem owned_empty : Owned limit live (∅ : GoMap Key String) ∅ := by
  refine ⟨fun key id found => ?_, fun id => ?_, fun id member => ?_⟩
  · simp at found
  · simp [listedKeys]
  · exact absurd member (AList.notMem_empty id)

theorem Owned.erase (owned : Owned limit live index bySession) (key : Key) :
    Owned limit live (index.erase key) bySession :=
  ⟨fun other id found => owned.listed other id (GoMap.lookup_of_lookup_erase found).1, owned.bounded, owned.alive⟩

def disown (id : String) (index : GoMap Key String) (key : Key) : GoMap Key String :=
  if index.lookup key = some id then index.erase key else index

theorem lookup_of_lookup_disown {removed : Key} (found : (disown id index removed).lookup key = some other) :
    index.lookup key = some other ∧ (other = id → key ≠ removed) := by
  unfold disown at found
  split_ifs at found with held
  · have kept := GoMap.lookup_of_lookup_erase found
    exact ⟨kept.1, fun _ => kept.2⟩
  · refine ⟨found, fun same removedHere => held ?_⟩
    rw [← removedHere, found, same]

theorem lookup_disown {removed : Key} (held : index.lookup key = some other) (different : other ≠ id) :
    (disown id index removed).lookup key = some other := by
  unfold disown
  split_ifs with own
  · rw [AList.lookup_erase_ne, held]
    rintro rfl
    exact different (Option.some.inj (held.symm.trans own))
  · exact held

theorem evictOldest_cons (limit : Nat) (id : String) (oldest : Key) (rest : List Key) (index : GoMap Key String) :
    evictOldest limit id (oldest :: rest) index =
      if limit < rest.length + 1 then evictOldest limit id rest (disown id index oldest)
      else (oldest :: rest, index) := rfl

theorem evictOldest_suffix (limit : Nat) (id : String) (keys : List Key) (index : GoMap Key String) :
    (evictOldest limit id keys index).1 <:+ keys ∧ (evictOldest limit id keys index).1.length ≤ limit := by
  induction keys generalizing index with
  | nil => simp [evictOldest]
  | cons oldest rest ih =>
    rw [evictOldest_cons]
    split_ifs with full
    · exact ⟨(ih _).1.trans (List.suffix_cons oldest rest), (ih _).2⟩
    · exact ⟨List.suffix_rfl, by simpa using full⟩

theorem lookup_of_lookup_evictOldest {limit : Nat} {keys : List Key}
    (found : (evictOldest limit id keys index).2.lookup key = some other) :
    index.lookup key = some other ∧
      (other = id → key ∈ keys → key ∈ (evictOldest limit id keys index).1) := by
  induction keys generalizing index with
  | nil => exact ⟨found, fun _ member => member⟩
  | cons oldest rest ih =>
    rw [evictOldest_cons] at found ⊢
    split_ifs at found ⊢ with full
    · have kept := ih found
      have before := lookup_of_lookup_disown kept.1
      refine ⟨before.1, fun own member => kept.2 own ?_⟩
      exact (List.mem_cons.mp member).resolve_left (before.2 own)
    · exact ⟨found, fun _ member => member⟩

theorem lookup_evictOldest {keys : List Key} (held : index.lookup key = some other)
    (kept : other ≠ id ∨ keys.length ≤ limit) : (evictOldest limit id keys index).2.lookup key = some other := by
  induction keys generalizing index with
  | nil => exact held
  | cons oldest rest ih =>
    rw [evictOldest_cons]
    split_ifs with full
    · have different := kept.resolve_right (Nat.not_le.mpr full)
      exact ih (lookup_disown held different) (.inl different)
    · exact held

theorem lookup_rememberKey {found : Key} (inserted : (index.insert key id).lookup found = some other)
    (kept : other ≠ id ∨ key ∈ listedKeys bySession id ∨ (listedKeys bySession id).length < limit) :
    (rememberKey limit id key index bySession).1.lookup found = some other := by
  unfold rememberKey
  dsimp only
  split_ifs with listed
  · exact inserted
  · refine lookup_evictOldest inserted (kept.imp_right fun room => ?_)
    rw [List.length_append]
    exact room.resolve_left listed

theorem lookup_of_lookup_rememberKey {found : Key}
    (lookup : (rememberKey limit id key index bySession).1.lookup found = some other) :
    found = key ∧ other = id ∨ found ≠ key ∧ index.lookup found = some other := by
  have inserted : (index.insert key id).lookup found = some other := by
    unfold rememberKey at lookup
    dsimp only at lookup
    split_ifs at lookup
    · exact lookup
    · exact (lookup_of_lookup_evictOldest lookup).1
  exact GoMap.lookup_of_lookup_insert inserted

theorem Owned.rememberKey (owned : Owned limit live index bySession) (alive : live id) (key : Key) :
    Owned limit live (rememberKey limit id key index bySession).1 (rememberKey limit id key index bySession).2 := by
  unfold Session.rememberKey
  dsimp only
  have known (found : Key) (other : String) (lookup : (index.insert key id).lookup found = some other)
      (different : other ≠ id) : found ∈ listedKeys bySession other := by
    rcases GoMap.lookup_of_lookup_insert lookup with ⟨_, here⟩ | ⟨_, before⟩
    · exact absurd here different
    · exact owned.listed found other before
  have own (found : Key) (lookup : (index.insert key id).lookup found = some id) :
      found ∈ listedKeys bySession id ++ [key] := by
    rcases GoMap.lookup_of_lookup_insert lookup with ⟨same, _⟩ | ⟨_, before⟩
    · simp [same]
    · simp [owned.listed found id before]
  split_ifs with listed
  · refine ⟨fun found other lookup => ?_, owned.bounded, owned.alive⟩
    by_cases same : other = id
    · subst same
      rcases List.mem_append.mp (own found lookup) with member | member
      · exact member
      · rw [List.mem_singleton.mp member]
        exact listed
    · exact known found other lookup same
  · have suffix := evictOldest_suffix limit id (listedKeys bySession id ++ [key]) (index.insert key id)
    refine ⟨fun found other lookup => ?_, fun other => ?_, fun other member => ?_⟩
    · have kept := lookup_of_lookup_evictOldest lookup
      rw [listedKeys_insert]
      split_ifs with same
      · subst same
        exact kept.2 rfl (own found kept.1)
      · exact known found other kept.1 same
    · rw [listedKeys_insert]
      split_ifs
      · exact suffix.2
      · exact owned.bounded other
    · rcases (AList.mem_insert _).mp member with same | before
      · rw [same]
        exact alive
      · exact owned.alive other before

theorem lookup_of_lookup_forgetKeys (lookup : (forgetKeys id index bySession).1.lookup key = some other) :
    index.lookup key = some other ∧ (other = id → key ∉ listedKeys bySession id) := by
  have swept : ∀ (keys : List Key) (index : GoMap Key String),
      (keys.foldl (disown id) index).lookup key = some other →
        index.lookup key = some other ∧ (other = id → key ∉ keys) := by
    intro keys
    induction keys with
    | nil => exact fun index found => ⟨found, fun _ => List.not_mem_nil⟩
    | cons first rest ih =>
      intro index found
      have later := ih _ found
      have here := lookup_of_lookup_disown later.1
      exact ⟨here.1, fun own => List.not_mem_cons_of_ne_of_not_mem (here.2 own) (later.2 own)⟩
  exact swept _ index lookup

theorem Owned.forgetKeys (owned : Owned limit live index bySession) (id : String) :
    Owned limit (fun other => live other ∧ other ≠ id) (forgetKeys id index bySession).1
      (forgetKeys id index bySession).2 := by
  refine ⟨fun key other lookup => ?_, fun other => ?_, fun other member => ?_⟩
  · have kept := lookup_of_lookup_forgetKeys lookup
    have listed := owned.listed key other kept.1
    have different : other ≠ id := by
      rintro rfl
      exact kept.2 rfl listed
    change key ∈ listedKeys (bySession.erase id) other
    rwa [listedKeys_erase, if_neg different]
  · change (listedKeys (bySession.erase id) other).length ≤ limit
    rw [listedKeys_erase]
    split_ifs
    · exact Nat.zero_le _
    · exact owned.bounded other
  · have inside := AList.mem_erase.mp member
    exact ⟨owned.alive other inside.2, inside.1⟩

end

/-! ## Tuples with several owners -/

def aliasOwners (byTuple : GoMap FlowKey (GoMap String Unit)) (key : FlowKey) : GoMap String Unit :=
  (byTuple.lookup key).getD ∅

def Occupied (byTuple : GoMap FlowKey (GoMap String Unit)) : Prop :=
  byTuple.All fun _ ids => ids.keys ≠ []

structure Aliased (byTuple : GoMap FlowKey (GoMap String Unit)) (aliasesBySession : GoMap String (List FlowKey)) :
    Prop where
  inverse : ∀ key id, id ∈ aliasOwners byTuple key ↔ key ∈ listedKeys aliasesBySession id
  occupied : Occupied byTuple

def dropAlias (id : String) (index : GoMap FlowKey (GoMap String Unit)) (key : FlowKey) :
    GoMap FlowKey (GoMap String Unit) :=
  match index.lookup key with
  | none => index
  | some ids =>
    let ids := ids.erase id
    if ids.entries.isEmpty then index.erase key else index.insert key ids

def addAlias (id : String) (index : GoMap FlowKey (GoMap String Unit)) (key : FlowKey) :
    GoMap FlowKey (GoMap String Unit) :=
  index.insert key ((aliasOwners index key).insert id ())

section
variable {index : GoMap FlowKey (GoMap String Unit)} {aliasesBySession : GoMap String (List FlowKey)}

variable (id : String) (keys : List FlowKey) (key : FlowKey) (other : String) (found : FlowKey)

theorem mem_aliasOwners_insert (other : FlowKey) (ids : GoMap String Unit) (id : String) :
    id ∈ aliasOwners (index.insert key ids) other ↔
      if other = key then id ∈ ids else id ∈ aliasOwners index other := by
  unfold aliasOwners
  split_ifs with same
  · rw [same, AList.lookup_insert]
    rfl
  · rw [AList.lookup_insert_ne same]

theorem mem_dropAlias :
    other ∈ aliasOwners (dropAlias id index key) found ↔
      other ∈ aliasOwners index found ∧ ¬ (other = id ∧ found = key) := by
  unfold dropAlias
  cases held : index.lookup key with
  | none =>
    refine ⟨fun member => ⟨member, ?_⟩, fun member => member.1⟩
    rintro ⟨_, rfl⟩
    simp [aliasOwners, held] at member
  | some ids =>
    have owners : aliasOwners index key = ids := by simp [aliasOwners, held]
    dsimp only
    split_ifs with empty
    · -- nobody else was under the alias
      have erased : ∀ owner : String, owner ∈ ids → owner = id := by
        intro owner member
        by_contra different
        have left : owner ∈ (ids.erase id).keys := AList.mem_erase.mpr ⟨different, member⟩
        simp [AList.keys, List.isEmpty_iff.mp empty] at left
      by_cases same : found = key
      · subst same
        have gone : ¬ other ∈ aliasOwners (index.erase found) found := by
          simp [aliasOwners, AList.lookup_erase]
        rw [owners]
        simp only [gone, and_true, false_iff, not_and, not_not]
        exact erased other
      · simp [aliasOwners, AList.lookup_erase_ne same, same]
    · rw [mem_aliasOwners_insert]
      by_cases same : found = key
      · subst same
        simp [owners, AList.mem_erase, and_comm]
      · simp [same]

theorem mem_addAlias :
    other ∈ aliasOwners (addAlias id index key) found ↔
      other ∈ aliasOwners index found ∨ other = id ∧ found = key := by
  unfold addAlias
  rw [mem_aliasOwners_insert]
  by_cases same : found = key
  · subst same
    simp [AList.mem_insert, or_comm]
  · simp [same]

theorem mem_foldl_dropAlias :
    other ∈ aliasOwners (keys.foldl (dropAlias id) index) found ↔
      other ∈ aliasOwners index found ∧ ¬ (other = id ∧ found ∈ keys) := by
  induction keys generalizing index with
  | nil => simp
  | cons first rest ih =>
    rw [List.foldl_cons, ih, mem_dropAlias, List.mem_cons]
    tauto

theorem mem_foldl_addAlias :
    other ∈ aliasOwners (keys.foldl (addAlias id) index) found ↔
      other ∈ aliasOwners index found ∨ other = id ∧ found ∈ keys := by
  induction keys generalizing index with
  | nil => simp
  | cons first rest ih =>
    rw [List.foldl_cons, ih, mem_addAlias, List.mem_cons]
    tauto

theorem Occupied.dropAlias (occupied : Occupied index) (id : String) (key : FlowKey) :
    Occupied (dropAlias id index key) := by
  unfold Session.dropAlias
  cases index.lookup key with
  | none => exact occupied
  | some ids =>
    dsimp only
    split_ifs with empty
    · exact GoMap.All.erase occupied key
    · refine GoMap.All.insert occupied fun none => empty ?_
      simpa [AList.keys, List.keys] using none

theorem Occupied.addAlias (occupied : Occupied index) (id : String) (key : FlowKey) :
    Occupied (addAlias id index key) := by
  refine GoMap.All.insert occupied fun none => ?_
  rw [AList.keys_insert] at none
  cases none

theorem Aliased.drop (aliased : Aliased index aliasesBySession) (id : String) :
    Aliased ((listedKeys aliasesBySession id).foldl (dropAlias id) index) (aliasesBySession.erase id) := by
  refine ⟨fun key other => ?_, ?_⟩
  · rw [mem_foldl_dropAlias, aliased.inverse, listedKeys_erase]
    split_ifs with same
    · subst same
      simp
    · simp [same]
  · exact List.foldlRecOn (motive := Occupied) _ _ aliased.occupied fun _ occupied key _ => occupied.dropAlias id key

theorem Aliased.add (aliased : Aliased index aliasesBySession)
    {id : String} (free : id ∉ aliasesBySession) (keys : List FlowKey) :
    Aliased (keys.foldl (addAlias id) index) (aliasesBySession.insert id keys) := by
  refine ⟨fun key other => ?_, ?_⟩
  · rw [mem_foldl_addAlias, aliased.inverse, listedKeys_insert]
    split_ifs with same
    · subst same
      have unlisted : key ∉ listedKeys aliasesBySession other := fun listed => free (mem_of_mem_listedKeys listed)
      simp [unlisted]
    · simp [same]
  · exact List.foldlRecOn (motive := Occupied) _ _ aliased.occupied fun _ occupied key _ => occupied.addAlias id key

end

end Ngfw.Session

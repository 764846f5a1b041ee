import Ngfw.Lib.Run
import Ngfw.Auth.Store

/-! # Tokens follow the user table -/

namespace Ngfw.Auth
open Lib Domain
open StoreSection (exec)

namespace Store

structure Keyed (s : Store) : Prop where
  keys : GoMap.All (fun key user => user.username = key ∧ key ≠ "") s.users
  ids : ∀ key other user twin, s.users.lookup key = some user → s.users.lookup other = some twin →
    user.id = twin.id → key = other

structure Replaces (id : String) (new : Option User) (before after : Store) : Prop where
  named : ∀ user ∈ new, user.id = id ∧ user.username ≠ ""
  free : ∀ user ∈ new, ∀ owner, before.users.lookup user.username = some owner → owner.id = id
  lookup : ∀ key user, after.users.lookup key = some user ↔
    user ∈ new ∧ key = user.username ∨ before.users.lookup key = some user ∧ user.id ≠ id
  tokens : ∀ token session, after.tokens.lookup token = some session →
    before.tokens.lookup token = some session ∧
      (session.user.id = id → ∀ key user, before.users.lookup key = some user → user.id ≠ id)

variable {s after before : Store} {id username key : String} {role : Role} {now : Time} {user : User}
  {new : Option User} {token : String}

theorem Replaces.keyed (replaces : Replaces id new before after) (keyed : before.Keyed) : after.Keyed where
  keys := by
    intro key user found
    rcases (replaces.lookup key user).mp found with ⟨given, rfl⟩ | ⟨stored, _⟩
    · exact ⟨rfl, (replaces.named user given).2⟩
    · exact keyed.keys key user stored
  ids := by
    intro key other user twin found foundTwin same
    rcases (replaces.lookup key user).mp found with ⟨given, rfl⟩ | ⟨stored, foreign⟩
    · rcases (replaces.lookup other twin).mp foundTwin with ⟨givenTwin, rfl⟩ | ⟨_, foreign⟩
      · rw [Option.mem_unique given givenTwin]
      · exact absurd (same.symm.trans (replaces.named user given).1) foreign
    · rcases (replaces.lookup other twin).mp foundTwin with ⟨givenTwin, rfl⟩ | ⟨storedTwin, _⟩
      · exact absurd (same.trans (replaces.named twin givenTwin).1) foreign
      · exact keyed.ids key other user twin stored storedTwin same

theorem find_spec (keyed : s.Keyed) (id : String) :
    (s.find id).1 = "" ∧ (∀ key user, s.users.lookup key = some user → user.id ≠ id) ∨
      (s.find id).1 ≠ "" ∧ s.users.lookup (s.find id).1 = some (s.find id).2 ∧ (s.find id).2.id = id := by
  unfold find
  cases found : s.users.entries.find? fun entry => entry.2.id = id with
  | none =>
    refine .inl ⟨rfl, fun key user stored => ?_⟩
    simpa using List.find?_eq_none.mp found ⟨key, user⟩ (AList.mem_lookup_iff.mp stored)
  | some entry =>
    have stored : s.users.lookup entry.1 = some entry.2 :=
      AList.mem_lookup_iff.mpr (List.mem_of_find?_eq_some found)
    exact .inr ⟨(keyed.keys _ _ stored).2, stored, by simpa using List.find?_some found⟩

theorem addUser_replaces {hash : String} (named : username ≠ "")
    (added : s.addUser id username hash role = .ok after) :
    Replaces id (some ⟨id, username, role, hash, true⟩) s after ∧
      ∀ key user, s.users.lookup key = some user → user.id ≠ id := by
  unfold addUser at added
  split_ifs at added with taken known
  cases added
  have absent : s.users.lookup username = none := by simpa using taken
  have unknown : ∀ key user, s.users.lookup key = some user → user.id ≠ id :=
    fun key user found same => known ⟨user, GoMap.mem_values.mpr ⟨key, found⟩, same⟩
  refine ⟨⟨?_, ?_, fun key user => ?_, fun token session found => ⟨found, fun _ => unknown⟩⟩, unknown⟩
  · rintro _ ⟨⟩
    exact ⟨rfl, named⟩
  · rintro _ ⟨⟩ owner found
    rw [absent] at found
    cases found
  · constructor
    · intro found
      rcases GoMap.lookup_of_lookup_insert found with ⟨rfl, rfl⟩ | ⟨_, stored⟩
      · exact .inl ⟨rfl, rfl⟩
      · exact .inr ⟨stored, unknown key user stored⟩
    · rintro (⟨⟨⟩, rfl⟩ | ⟨stored, _⟩)
      · exact AList.lookup_insert _
      · rw [AList.lookup_insert_ne, stored]
        rintro rfl
        rw [absent] at stored
        cases stored

theorem tokens_invalidated {session : Session}
    (found : (s.invalidateUserLocked id).tokens.lookup token = some session) :
    s.tokens.lookup token = some session ∧ session.user.id ≠ id := by
  obtain ⟨kept, foreign⟩ := GoMap.lookup_filter.mp found
  exact ⟨kept, by simpa using foreign⟩

def SparesAdmin (s : Store) (current : User) (new : Option User) : Prop :=
  current.enabled = true → current.role = .admin →
    (∃ user ∈ new, user.enabled = true ∧ user.role = .admin) ∨ 1 < s.enabledAdminsLocked

theorem lookup_erase_owner {current : User} (keyed : s.Keyed)
    (stored : s.users.lookup key = some current) (own : current.id = id) (other : String) (user : User) :
    (s.users.erase key).lookup other = some user ↔ s.users.lookup other = some user ∧ user.id ≠ id := by
  constructor
  · intro found
    obtain ⟨kept, different⟩ := GoMap.lookup_of_lookup_erase found
    exact ⟨kept, fun same => different (keyed.ids other key user current kept stored (same.trans own.symm))⟩
  · rintro ⟨kept, foreign⟩
    rw [AList.lookup_erase_ne, kept]
    rintro rfl
    rw [stored] at kept
    cases kept
    exact foreign own

theorem updateUser_replaces {newHash : String} {enabled : Bool}
    (keyed : s.Keyed) (named : username ≠ "") (updated : s.updateUser id username newHash role enabled = .ok after) :
    ∃ key current new, s.users.lookup key = some current ∧ current.id = id ∧ Replaces id (some new) s after ∧
      s.SparesAdmin current (some new) := by
  unfold updateUser at updated
  rcases find_spec keyed id with ⟨missing, _⟩ | ⟨_, stored, own⟩
  · rw [if_pos missing] at updated
    cases updated
  dsimp only at updated
  split at updated
  · cases updated
  split at updated
  · cases updated
  split at updated
  · cases updated
  rename_i taken last
  cases updated
  have free : ∀ owner, s.users.lookup username = some owner → owner.id = id := by
    intro owner found
    simpa [found] using taken
  refine ⟨_, _, ⟨id, username, role, if newHash = "" then (s.find id).2.passwordHash else newHash, enabled⟩,
    stored, own, ⟨?_, ?_, fun key user => ?_, fun token session found => ?_⟩, ?_⟩
  · rintro _ ⟨⟩
    exact ⟨rfl, named⟩
  · rintro _ ⟨⟩
    exact free
  · change ((s.users.erase _).insert username _).lookup key = some user ↔ _
    constructor
    · intro found
      rcases GoMap.lookup_of_lookup_insert found with ⟨rfl, rfl⟩ | ⟨_, kept⟩
      · exact .inl ⟨rfl, rfl⟩
      · exact .inr ((lookup_erase_owner keyed stored own key user).mp kept)
    · rintro (⟨⟨⟩, rfl⟩ | ⟨kept, foreign⟩)
      · exact AList.lookup_insert _
      · rw [AList.lookup_insert_ne, (lookup_erase_owner keyed stored own key user).mpr ⟨kept, foreign⟩]
        rintro rfl
        exact foreign (free user kept)
  · obtain ⟨kept, foreign⟩ := tokens_invalidated found
    exact ⟨kept, fun same => absurd same foreign⟩
  · intro active administers
    by_cases stays : role = .admin ∧ enabled = true
    · exact .inl ⟨_, rfl, stays.2, stays.1⟩
    · refine .inr (Nat.lt_of_not_le fun few => last ⟨administers, active, ?_, few⟩)
      rw [not_and_or] at stays
      simpa using stays

theorem deleteUser_replaces (keyed : s.Keyed) (deleted : s.deleteUser id = .ok after) :
    ∃ key current, s.users.lookup key = some current ∧ current.id = id ∧ Replaces id none s after ∧
      s.SparesAdmin current none := by
  unfold deleteUser at deleted
  rcases find_spec keyed id with ⟨missing, _⟩ | ⟨_, stored, own⟩
  · rw [if_pos missing] at deleted
    cases deleted
  dsimp only at deleted
  split_ifs at deleted with _ last
  cases deleted
  refine ⟨_, _, stored, own, ⟨nofun, nofun, fun key user => ?_, fun token session found => ?_⟩, ?_⟩
  · change (s.users.erase _).lookup key = some user ↔ _
    rw [lookup_erase_owner keyed stored own key user]
    simp
  · obtain ⟨kept, foreign⟩ := tokens_invalidated found
    exact ⟨kept, fun same => absurd same foreign⟩
  · exact fun active administers => .inr (Nat.lt_of_not_le fun few => last ⟨administers, active, few⟩)

def HasAdmin (s : Store) : Prop :=
  ∃ key user, s.users.lookup key = some user ∧ user.enabled = true ∧ user.role = .admin

theorem Replaces.admin {current : User}
    (replaces : Replaces id new before after) (keyed : before.Keyed) (stored : before.users.lookup key = some current)
    (own : current.id = id) (spares : before.SparesAdmin current new) (had : before.HasAdmin) : after.HasAdmin := by
  obtain ⟨held, admin, found, active, administers⟩ := had
  have stays : ∀ other user, before.users.lookup other = some user → user.id ≠ id → user.enabled = true →
      user.role = .admin → after.HasAdmin := fun other user kept foreign enabled role =>
    ⟨other, user, (replaces.lookup other user).mpr (.inr ⟨kept, foreign⟩), enabled, role⟩
  by_cases same : admin.id = id
  · have here : held = key := keyed.ids held key admin current found stored (same.trans own.symm)
    subst here
    rw [stored] at found
    cases found
    rcases spares active administers with ⟨user, given, enabled, role⟩ | more
    · exact ⟨_, user, (replaces.lookup _ user).mpr (.inl ⟨given, rfl⟩), enabled, role⟩
    · -- another enabled administrator has another key, so another id
      obtain ⟨other, twin, different, kept, counts⟩ := GoMap.exists_other_of_one_lt_countP stored more
      rw [Bool.and_eq_true, decide_eq_true_iff] at counts
      exact stays other twin kept
        (fun same => different (keyed.ids other _ twin current kept stored (same.trans own.symm))) counts.1 counts.2
  · exact stays held admin found same active administers

/-! ## Tokens -/

def Agrees (s : Store) (user : User) : Prop :=
  ∃ stored, s.users.lookup user.username = some stored ∧ stored.id = user.id ∧ stored.role = user.role ∧
    stored.enabled = user.enabled

instance (s : Store) (user : User) : Decidable (s.Agrees user) :=
  decidable_of_iff ((s.users.lookup user.username).any fun stored =>
    stored.id = user.id ∧ stored.role = user.role ∧ stored.enabled = user.enabled) (by
      unfold Agrees
      cases s.users.lookup user.username <;> simp)

def TokensCurrent (s : Store) : Prop :=
  ∀ token now user, (s.validate now token).1 = some user → s.Agrees user ∧ user.enabled = true

theorem validate_eq_some :
    (s.validate now token).1 = some user ↔
      ∃ session, s.tokens.lookup token = some session ∧ now ≤ session.expiresAt ∧ session.user = user := by
  unfold validate
  cases found : s.tokens.lookup token with
  | none => simp
  | some session =>
    by_cases expired : session.expiresAt < now
    · simp [expired]
    · simp [expired, Int.not_lt.mp expired]

theorem tokensCurrent_iff :
    s.TokensCurrent ↔ ∀ token session, s.tokens.lookup token = some session →
      s.Agrees session.user ∧ session.user.enabled = true := by
  constructor
  · intro current token session found
    exact current token session.expiresAt session.user (validate_eq_some.mpr ⟨session, found, Int.le_refl _, rfl⟩)
  · intro stored token now user valid
    obtain ⟨session, found, _, rfl⟩ := validate_eq_some.mp valid
    exact stored token session found

theorem TokensCurrent.sublist (current : before.TokensCurrent) (users : after.users = before.users)
    (fewer : ∀ token session, after.tokens.lookup token = some session →
      before.tokens.lookup token = some session) :
    after.TokensCurrent := by
  rw [tokensCurrent_iff] at current ⊢
  intro token session found
  have held := current token session (fewer token session found)
  unfold Agrees at held ⊢
  rwa [users]

theorem Replaces.tokensCurrent
    (replaces : Replaces id new before after) (current : before.TokensCurrent) : after.TokensCurrent := by
  rw [tokensCurrent_iff] at current ⊢
  intro token session found
  obtain ⟨kept, unknown⟩ := replaces.tokens token session found
  obtain ⟨⟨stored, held, sameId, same⟩, enabled⟩ := current token session kept
  have foreign : stored.id ≠ id := fun own => unknown (sameId.symm.trans own) _ stored held own
  exact ⟨⟨stored, (replaces.lookup _ stored).mpr (.inr ⟨held, foreign⟩), sameId, same⟩, enabled⟩

theorem tokensCurrent_putToken (enabled : user.enabled)
    (current : s.TokensCurrent) : (s.putToken now user token).TokensCurrent ↔ s.Agrees user := by
  rw [tokensCurrent_iff] at current ⊢
  constructor
  · intro stays
    exact (stays token ⟨user, now + s.ttl⟩ (AList.lookup_insert _)).1
  · intro agrees other session found
    rcases GoMap.lookup_of_lookup_insert found with ⟨_, rfl⟩ | ⟨_, kept⟩
    · exact ⟨agrees, enabled⟩
    · exact current other session kept

end Store

/-! ## Runs -/

namespace StoreSection

def Checked : StoreSection → Prop
  | .addUser _ username _ _ => username ≠ ""
  | .updateUser _ username _ _ _ => username ≠ ""
  | .putToken user _ => user.enabled = true
  | _ => True

def Admitted (s : Store) : StoreSection → Prop
  | .putToken user _ => s.Agrees user
  | _ => True

instance (s : Store) : DecidablePred (Admitted s)
  | .putToken user _ => inferInstanceAs (Decidable (s.Agrees user))
  | .addUser .. | .findUser .. | .validate _ | .logout _ | .updateUser .. | .deleteUser _ => .isTrue trivial

end StoreSection

section
variable [Passwords]

theorem sections_checked (call : StoreCall) : ∀ step ∈ call.sections, step.Checked := by
  intro step member
  unfold StoreCall.sections at member
  cases call with
  | addUser id username password role salt =>
    dsimp only at member
    split at member
    · cases member
    rename_i named
    split at member
    · cases member
    split at member
    · cases member
    · rw [List.mem_singleton.mp member]
      exact fun empty => named (.inr (.inl empty))
  | updateUser id username password role enabled salt =>
    dsimp only at member
    split at member
    · cases member
    rename_i named
    have checked : ∀ newHash, (StoreSection.updateUser id username newHash role enabled).Checked :=
      fun _ empty => named (.inr empty)
    split at member
    · cases member
    split at member
    · rw [List.mem_singleton.mp member]
      exact checked _
    split at member
    · cases member
    · rw [List.mem_singleton.mp member]
      exact checked _
  | login | validate | logout | deleteUser =>
    rw [List.mem_singleton.mp member]
    trivial

theorem exec_spec {step : StoreSection} (now : Time) {s : Store} (keyed : s.Keyed) (checked : step.Checked) :
    (step.exec now s).1.Keyed ∧ (s.HasAdmin → (step.exec now s).1.HasAdmin) ∧
      (s.TokensCurrent → ((step.exec now s).1.TokensCurrent ↔ step.Admitted s)) ∧
      ∀ later ∈ (step.exec now s).2, later.Checked := by
  cases step with
  | addUser id username hash role =>
    simp only [exec]
    cases added : s.addUser id username hash role with
    | error failure => exact ⟨keyed, fun had => had, fun current => iff_of_true current trivial, nofun⟩
    | ok after =>
      obtain ⟨replaces, unknown⟩ := Store.addUser_replaces checked added
      refine ⟨replaces.keyed keyed, ?_, fun current => iff_of_true (replaces.tokensCurrent current) trivial, nofun⟩
      rintro ⟨key, admin, found, administers⟩
      exact ⟨key, admin, (replaces.lookup key admin).mpr (.inr ⟨found, unknown key admin found⟩), administers⟩
  | findUser username password token =>
    have same : (exec (.findUser username password token) now s).1 = s := by
      simp only [exec]
      split
      · rfl
      · split_ifs
        · rfl
        · split <;> rfl
    rw [same]
    refine ⟨keyed, id, fun current => iff_of_true current trivial, ?_⟩
    simp only [exec]
    cases s.users.lookup username with
    | none => nofun
    | some user =>
      dsimp only
      split_ifs with refused
      · nofun
      · cases token with
        | error failure => nofun
        | ok token =>
          intro later member
          rw [List.mem_singleton.mp member]
          simp only [Bool.or_eq_true, not_or, Bool.not_eq_true', Bool.not_eq_false] at refused
          exact refused.1
  | putToken user token =>
    exact ⟨⟨keyed.keys, keyed.ids⟩, id, Store.tokensCurrent_putToken checked, nofun⟩
  | validate token =>
    have users : (s.validate now token).2.users = s.users := by
      unfold Store.validate
      split
      · rfl
      · split_ifs <;> rfl
    have fewer : ∀ other session, (s.validate now token).2.tokens.lookup other = some session →
        s.tokens.lookup other = some session := by
      intro other session
      unfold Store.validate
      split
      · exact id
      · split_ifs
        · exact fun found => (GoMap.lookup_of_lookup_erase found).1
        · exact id
    refine ⟨⟨?_, ?_⟩, ?_, fun current => iff_of_true (current.sublist users fewer) trivial, nofun⟩
    all_goals simp only [exec, Store.HasAdmin, users]
    · exact keyed.keys
    · exact keyed.ids
    · exact id
  | logout token =>
    refine ⟨⟨keyed.keys, keyed.ids⟩, id, fun current => iff_of_true (current.sublist rfl ?_) trivial, nofun⟩
    exact fun other session found => (GoMap.lookup_of_lookup_erase found).1
  | updateUser id username newHash role enabled =>
    simp only [exec]
    cases updated : s.updateUser id username newHash role enabled with
    | error failure => exact ⟨keyed, fun had => had, fun current => iff_of_true current trivial, nofun⟩
    | ok after =>
      obtain ⟨key, current, new, stored, own, replaces, spares⟩ :=
        Store.updateUser_replaces keyed checked updated
      exact ⟨replaces.keyed keyed, replaces.admin keyed stored own spares,
        fun current => iff_of_true (replaces.tokensCurrent current) trivial, nofun⟩
  | deleteUser id =>
    simp only [exec]
    cases deleted : s.deleteUser id with
    | error failure => exact ⟨keyed, fun had => had, fun current => iff_of_true current trivial, nofun⟩
    | ok after =>
      obtain ⟨key, current, stored, own, replaces, spares⟩ := Store.deleteUser_replaces keyed deleted
      exact ⟨replaces.keyed keyed, replaces.admin keyed stored own spares,
        fun current => iff_of_true (replaces.tokensCurrent current) trivial, nofun⟩

namespace StoreThreads

structure Sound (t : StoreThreads) : Prop where
  keyed : t.state.Keyed
  checked : ∀ step ∈ t.pending, step.Checked

def Admits (t : StoreThreads) : StoreMove → Prop
  | .start _ => True
  | .run index _ => ∀ step ∈ t.next index, step.Admitted t.state

instance (t : StoreThreads) : DecidablePred t.Admits
  | .start _ => .isTrue trivial
  | .run index _ => inferInstanceAs (Decidable (∀ step ∈ t.next index, step.Admitted t.state))

variable {t : StoreThreads}

theorem sound_step (move : StoreMove) (sound : t.Sound) : (t.step move).Sound := by
  refine Threads.invariant_step sound ?_ ?_
  · intro call _
    refine ⟨sound.keyed, fun step member => ?_⟩
    rcases Threads.mem_pending_start.mp member with waiting | entered
    · exact sound.checked step waiting
    · exact sections_checked call step entered
  · intro index now first after _ _ ran
    obtain ⟨keyed, _, _, checked⟩ := exec_spec now sound.keyed (sound.checked first ran.was)
    refine ⟨by rw [ran.state]; exact keyed, fun step member => ?_⟩
    rcases ran.origin step member with produced | waiting
    · exact checked step produced
    · exact sound.checked step waiting

theorem step_state (move : StoreMove) (sound : t.Sound) :
    (t.state.HasAdmin → (t.step move).state.HasAdmin) ∧
      (t.state.TokensCurrent → ((t.step move).state.TokensCurrent ↔ t.Admits move)) := by
  cases move with
  | start call => exact ⟨id, fun current => iff_of_true current trivial⟩
  | run index now =>
    unfold step
    cases next : t.next index with
    | none =>
      rw [Threads.step_idle next]
      refine ⟨id, fun current => iff_of_true current ?_⟩
      simp only [Admits, next]
      nofun
    | some first =>
      have ran : Threads.Ran exec t (Threads.step StoreCall.sections exec t (.run index now))
          first now := Threads.ran_step next
      obtain ⟨_, admin, current, _⟩ := exec_spec now sound.keyed (sound.checked first ran.was)
      rw [ran.state]
      refine ⟨admin, fun held => (current held).trans ?_⟩
      simp only [Admits, next, Option.mem_some_iff, forall_eq']

theorem sound_run (moves : List StoreMove) (sound : t.Sound) : (moves.foldl step t).Sound := by
  induction moves generalizing t with
  | nil => exact sound
  | cons move rest ih => exact ih (sound_step move sound)

theorem hasAdmin_run (moves : List StoreMove) (sound : t.Sound) (had : t.state.HasAdmin) :
    (moves.foldl step t).state.HasAdmin := by
  induction moves generalizing t with
  | nil => exact had
  | cons move rest ih => exact ih (sound_step move sound) ((step_state move sound).1 had)

omit [Passwords] in
theorem sound_new (ttl : Int) : Sound ⟨newStore ttl, []⟩ where
  keyed := ⟨GoMap.all_empty, fun key _ _ _ found => by simp [newStore] at found⟩
  checked := nofun

end StoreThreads

theorem tokens_follow_users (ttl : Int) (moves : List StoreMove) :
    (Along (fun t => t.state.TokensCurrent) StoreThreads.step ⟨newStore ttl, []⟩ moves ↔
      Allowed StoreThreads.Admits StoreThreads.step ⟨newStore ttl, []⟩ moves) ∧
    ∀ before after, moves = before ++ after →
      (before.foldl StoreThreads.step ⟨newStore ttl, []⟩).state.HasAdmin →
      (moves.foldl StoreThreads.step ⟨newStore ttl, []⟩).state.HasAdmin := by
  constructor
  · refine along_iff_allowed (fun t move => StoreThreads.sound_step move)
      (fun t move sound => (StoreThreads.step_state move sound).2) (StoreThreads.sound_new ttl) ?_
    rw [Store.tokensCurrent_iff]
    intro token session found
    simp [newStore] at found
  · rintro before after rfl had
    rw [List.foldl_append]
    exact StoreThreads.hasAdmin_run after (StoreThreads.sound_run before (StoreThreads.sound_new ttl)) had

end

section Runs
local instance plainPasswords : Passwords := ⟨fun password _ => password, fun hash password => hash = password⟩

def twoUsers : List StoreMove :=
  [.start (.addUser "1" "admin" "secret" .admin (.ok "salt")), .run 0 0,
    .start (.addUser "2" "mallory" "hunter2" .operator (.ok "salt")), .run 1 1]

def loginThenDelete : List StoreMove :=
  twoUsers ++ [.start (.login "mallory" "hunter2" (.ok "token")), .run 2 2, .run 2 3,
    .start (.deleteUser "2"), .run 3 4]

theorem tokens_follow_users_deleted :
    Along (fun t => t.state.TokensCurrent) StoreThreads.step ⟨newStore 0, []⟩ loginThenDelete ∧
      (loginThenDelete.foldl StoreThreads.step ⟨newStore 0, []⟩).state.HasAdmin :=
  ⟨(tokens_follow_users 0 loginThenDelete).1.mpr (by decide),
    (tokens_follow_users 0 loginThenDelete).2 twoUsers _ rfl ⟨"admin", _, rfl, rfl, rfl⟩⟩

def deletedDuringLogin : List StoreMove :=
  twoUsers ++ [.start (.login "mallory" "hunter2" (.ok "token")), .run 2 2,
    .start (.deleteUser "2"), .run 3 3, .run 2 4]

theorem deleted_user_validates :
    ((deletedDuringLogin.foldl StoreThreads.step ⟨newStore 0, []⟩).state.validate 5 "token").1 =
        some ⟨"2", "mallory", .operator, "hunter2", true⟩ ∧
      (deletedDuringLogin.foldl StoreThreads.step ⟨newStore 0, []⟩).state.users.lookup "mallory" = none ∧
      ((deletedDuringLogin.foldl StoreThreads.step ⟨newStore 0, []⟩).state.find "2").1 = "" := by
  decide

end Runs

end Ngfw.Auth

import Ngfw.Engine.Service
import Ngfw.Proof.Config.Atomicity
import Ngfw.Proof.Engine.CacheCoherence

/-! # What a call of the service leaves behind -/

namespace Ngfw.Engine
open Lib Lib.Text Domain Config Connectivity Session Procedure

/-! ## The generation of the runtime -/

section
variable [CaseMap] {program : Except String Program} {version : ConfigVersion}

section
variable (program : Program) (generation : UInt64) (reason : String) (clock : Time)

theorem evaluateOnce_generation (r : Runtime) (id : String) : (r.evaluateOnce id).1.generation = r.generation := by
  unfold Runtime.evaluateOnce
  cases r.store.byID.lookup id with
  | none => rfl
  | some v =>
    dsimp only
    split_ifs <;> rfl

theorem evaluateObserved_generation (r : Runtime) (value : RuntimeSession) :
    (r.evaluateObserved value).generation = r.generation := by
  unfold Runtime.evaluateObserved
  split_ifs
  · rfl
  · have kept : (r.evaluate value.sessionID).1.generation = r.generation := by
      rw [evaluate_eq_once, evaluateOnce_generation]
    dsimp only
    split
    all_goals exact kept

theorem activateOne_generation (r : Runtime) (current : RuntimeSession) :
    (Runtime.activateOne program generation reason clock r current).generation = r.generation := by
  unfold Runtime.activateOne
  split_ifs
  · rfl
  · dsimp only
    split
    · rfl
    · split_ifs
      · exact evaluateObserved_generation _ _
      · rfl

theorem activateAll_generation (sessions : List RuntimeSession) (r : Runtime) :
    (sessions.foldl (Runtime.activateOne program generation reason clock) r).generation = r.generation := by
  induction sessions generalizing r with
  | nil => rfl
  | cons current rest ih => rw [List.foldl_cons, ih, activateOne_generation]

end

theorem activate_spec (r : Runtime) (program : Program) (generation : UInt64) (reason : String) (clock : Time) :
    (generation ≠ 0 ∧ r.generation < generation ∧ (r.activate program generation reason clock).2 = .ok () ∧
      (r.activate program generation reason clock).1.generation = generation) ∨
    (¬(generation ≠ 0 ∧ r.generation < generation) ∧
      (∃ failure, (r.activate program generation reason clock).2 = .error failure) ∧
      (r.activate program generation reason clock).1 = r) := by
  unfold Runtime.activate
  split_ifs with zero earlier
  · exact .inr ⟨fun grows => grows.1 zero, ⟨_, rfl⟩, rfl⟩
  · exact .inr ⟨fun grows => absurd grows.2 (UInt64.not_lt.mpr earlier), ⟨_, rfl⟩, rfl⟩
  · exact .inl ⟨zero, UInt64.not_le.mp earlier, rfl, activateAll_generation _ _ _ _ _ _⟩

/-! ## The restoration -/

def RuntimeTakes (runtime : Option Runtime) (program : Except String Program) (generation : UInt64) : Prop :=
  ∀ r, runtime = some r → (∃ compiled, program = .ok compiled) ∧ generation ≠ 0 ∧ r.generation < generation

def HookPasses (wired : Bool) (op : ServiceOp) (faults : Faults ServiceOp) : Prop :=
  wired = true → faults op = none

abbrev managerFaults (faults : Faults ServiceOp) : Faults ManagerOp :=
  fun op => faults (.manager op)

abbrev restoreFaults (faults : Faults ServiceOp) : Faults ManagerOp :=
  fun op => faults (.restore op)

structure Point where
  runtime : Option Runtime
  previous : Option Config
  version : UInt64

def Service.point (s : Service) : Point :=
  ⟨s.runtime, s.config.manager.previous, s.config.manager.version.version⟩

structure RollsBack (input : ServiceInput) (faults : Faults ServiceOp) (p : Point) : Prop where
  previous : p.previous ≠ none
  room : p.version ≠ maxVersion
  activates : Activates input.goos true (restoreFaults faults)
  takes : ∀ target, p.previous = some target →
    RuntimeTakes p.runtime (compileRuntimeProgram target (p.version + 1)) (p.version + 1)

structure Restores (hooks : Hooks) (input : ServiceInput) (lifecycle : Bool) (faults : Faults ServiceOp)
    (p : Point) : Prop where
  rollsBack : RollsBack input faults p
  afterActivate : HookPasses (lifecycle && hooks.afterActivate) .restoreAfterActivate faults
  finalize : HookPasses hooks.finalizeActivation .restoreFinalize faults

structure RolledBack (s after : Service) (restored : ConfigVersion) : Prop where
  running : some after.config.manager.running = s.config.manager.previous
  previous : after.config.manager.previous = some s.config.manager.running
  version : after.config.manager.version = restored
  next : restored.version = s.config.manager.version.version + 1
  generation : ∀ r, after.runtime = some r → r.generation = restored.version

variable {hooks : Hooks} {input : ServiceInput} {faults : Faults ServiceOp} {s : Service}

variable {author comment cause : String} {post : Except String Unit → Service → Prop} {r : Runtime}

omit [CaseMap] in
theorem ends_callHook {wired : Bool} {op : ServiceOp}
    (fails : ∀ failure, ¬HookPasses wired op faults → post (.error failure) s)
    (passes : HookPasses wired op faults → post (.ok ()) s) : (callHook wired op).Ends faults s post := by
  unfold callHook
  cases wired with
  | false => exact passes nofun
  | true =>
    refine .attempt (fun failure fault => fails failure fun passed => ?_) fun fine => passes fun _ => fine
    simp [passed rfl] at fault

theorem ends_activateRuntime {program : Program} {generation : UInt64} {reason : String} {clock : Time}
    (fails : ¬(generation ≠ 0 ∧ r.generation < generation) → ∀ failure,
      post (.error failure) { s with runtime := some r })
    (takes : generation ≠ 0 → r.generation < generation →
      ∀ activated : Runtime, activated.generation = generation →
      post (.ok ()) { s with runtime := some activated }) :
    (activateRuntime r program generation reason clock).Ends faults s post := by
  refine ends_bind.mpr ?_
  rw [ends_update]
  rcases activate_spec r program generation reason clock with
    ⟨nonzero, grows, ok, generation⟩ | ⟨refused, ⟨failure, fault⟩, same⟩
  · rw [ok]
    exact takes nonzero grows _ generation
  · rw [fault, same]
    exact fails refused failure

variable [Digest]

theorem restoreAfterActivationFailure_spec (author comment : String) :
    (restoreAfterActivationFailure input author comment).Ends faults s fun result after =>
      after.events = s.events ∧
      (RollsBack input faults s.point ∧ (∃ restored, result = .ok restored ∧ RolledBack s after restored) ∨
        ¬RollsBack input faults s.point ∧ ∃ failure, result = .error failure) := by
  have rolled : ((ManagerCall.rollback author comment).procedure input.goos true input.restoredAt).Ends
      (restoreFaults faults) s.config _ := managerCall_spec _
  refine ends_bind.mpr (ends_within.mpr (rolled.imp fun result managed spec => ?_))
  rcases spec with ⟨refused, ⟨failure, rfl⟩, rfl⟩ | ⟨file, switch, accepted, written, runs, activated⟩
  · exact ⟨rfl, .inr ⟨fun rolls => refused ⟨rolls.previous, rolls.room⟩, _, rfl⟩⟩
  obtain ⟨target, next, previous⟩ := file_spec written
  cases activated with
  | failed fails => exact ⟨rfl, .inr ⟨fun rolls => fails rolls.activates, _, rfl⟩⟩
  | done activates manager stored editor applied =>
    have same : managed.manager.running = file.config := by rw [manager, runs.running]
    have swapped : ∀ after : Service, after.config = managed →
        (∀ r, after.runtime = some r → r.generation = file.version.version) →
          RolledBack s after file.version := by
      rintro after rfl generation
      exact
        { running := by rw [same]; exact target.symm
          previous := by rw [manager, runs.previous, previous]
          version := by rw [manager, runs.version]
          next := next
          generation := generation }
    have rolls : RuntimeTakes s.runtime (compileRuntimeProgram file.config file.version.version)
        file.version.version ↔ RollsBack input faults s.point := by
      rw [next]
      constructor
      · intro takes
        refine ⟨accepted.1, accepted.2, activates, fun other found => ?_⟩
        obtain rfl := Option.some.inj (target.symm.trans found)
        exact takes
      · exact fun rolls => rolls.takes _ target
    refine ends_bind.mpr ?_
    rw [ends_look]
    dsimp only [id]
    cases runtime : s.runtime with
    | none =>
      refine ⟨rfl, .inl ⟨rolls.mp (by simp [RuntimeTakes, runtime]), _, rfl, swapped _ rfl fun r found => ?_⟩⟩
      exact nomatch (found : none = some r)
    | some r =>
      rw [same]
      dsimp only
      cases compiled : compileRuntimeProgram file.config file.version.version with
      | error failure =>
        refine ⟨rfl, .inr ⟨fun rolled => ?_, _, rfl⟩⟩
        obtain ⟨⟨program, ok⟩, -⟩ := rolls.mpr rolled r runtime
        exact nomatch compiled.symm.trans ok
      | ok program =>
        refine ends_bind.mpr (ends_mapError.mpr (ends_activateRuntime ?_ ?_))
        · intro refused failure
          exact ⟨rfl, .inr ⟨fun rolled => refused (rolls.mpr rolled r runtime).2, _, rfl⟩⟩
        · intro nonzero grows activated generation
          refine ⟨rfl, .inl ⟨rolls.mp fun other found => ?_, _, rfl, swapped _ rfl ?_⟩⟩
          · obtain rfl := Option.some.inj (runtime.symm.trans found)
            exact ⟨⟨program, compiled⟩, nonzero, grows⟩
          · intro other found
            obtain rfl := Option.some.inj (found : some activated = some other)
            exact generation

theorem restorePublished_spec (author comment : String) (lifecycle : Bool) :
    (restorePublished hooks input author comment lifecycle).Ends faults s fun result after =>
      Restores hooks input lifecycle faults s.point ∧
        (∃ restored, result = .ok restored ∧ RolledBack s after restored ∧
          after.events = .restored restored :: s.events) ∨
      ¬Restores hooks input lifecycle faults s.point ∧ (∃ failure, result = .error failure) ∧
        after.events = s.events := by
  refine ends_bind.mpr ((restoreAfterActivationFailure_spec author comment).imp fun result next spec => ?_)
  obtain ⟨events, ⟨rolls, restored, rfl, back⟩ | ⟨refused, failure, rfl⟩⟩ := spec
  · refine ends_bind.mpr (ends_mapError.mpr (ends_bind.mpr
      (ends_mapError.mpr (ends_callHook (fun failure fails => ?_) fun passes => ?_))))
    · exact .inr ⟨fun restores => fails restores.afterActivate, ⟨_, rfl⟩, events⟩
    · refine ends_mapError.mpr (ends_callHook (fun failure fails => ?_) fun finalizes => ?_)
      · exact .inr ⟨fun restores => fails restores.finalize, ⟨_, rfl⟩, events⟩
      · exact .inl ⟨⟨rolls, passes, finalizes⟩, restored, rfl,
          ⟨back.running, back.previous, back.version, back.next, back.generation⟩, by rw [← events]; rfl⟩
  · exact .inr ⟨fun restores => refused restores.rollsBack, ⟨_, rfl⟩, events⟩

/-! ## After the publication -/

structure Completes (hooks : Hooks) (program : Except String Program) (faults : Faults ServiceOp) (p : Point) :
    Prop where
  takes : RuntimeTakes p.runtime program p.version
  afterActivate : HookPasses hooks.afterActivate .afterActivate faults
  finalize : HookPasses hooks.finalizeActivation .finalize faults

def Recovers (hooks : Hooks) (input : ServiceInput) (program : Except String Program) (faults : Faults ServiceOp)
    (p : Point) : Prop :=
  RuntimeTakes p.runtime program p.version ∧ Restores hooks input true faults p ∨
    ¬RuntimeTakes p.runtime program p.version ∧ Restores hooks input false faults p

structure Failed (hooks : Hooks) (input : ServiceInput) (program : Except String Program) (faults : Faults ServiceOp)
    (s : Service) (result : Except Failure Unit) (after : Service) : Prop where
  error : ∃ failure, result = .error failure
  recovery : Recovers hooks input program faults s.point ∧
      (∃ restored, RolledBack s after restored ∧ after.events = .restored restored :: s.events) ∨
    ¬Recovers hooks input program faults s.point ∧ after.events = s.events

omit [Digest] in
theorem rollsBack_activated {activated : Runtime} (runtime : s.runtime = some r)
    (grows : r.generation < s.config.manager.version.version)
    (generation : activated.generation = s.config.manager.version.version) :
    RollsBack input faults { s.point with runtime := some activated } ↔ RollsBack input faults s.point := by
  have larger : s.config.manager.version.version ≠ maxVersion →
      s.config.manager.version.version < s.config.manager.version.version + 1 := by
    intro room
    rw [UInt64.lt_iff_toNat_lt, toNat_next room]
    exact Nat.lt_succ_self _
  constructor
  · rintro ⟨previous, room, activates, takes⟩
    refine ⟨previous, room, activates, fun target found other same => ?_⟩
    obtain rfl := Option.some.inj (runtime.symm.trans same)
    obtain ⟨compiles, nonzero, -⟩ := takes target found activated rfl
    exact ⟨compiles, nonzero, UInt64.lt_trans grows (larger room)⟩
  · rintro ⟨previous, room, activates, takes⟩
    refine ⟨previous, room, activates, fun target found other same => ?_⟩
    obtain rfl := Option.some.inj (same : some activated = some other)
    obtain ⟨compiles, nonzero, -⟩ := takes target found r runtime
    exact ⟨compiles, nonzero, generation ▸ larger room⟩

theorem ends_restoreUnpublished (fails : ¬RuntimeTakes s.point.runtime program s.point.version) :
    (restoreUnpublished hooks input author comment version cause).Ends faults s
      (Failed hooks input program faults s) := by
  have recovers : Recovers hooks input program faults s.point ↔ Restores hooks input false faults s.point := by
    simp [Recovers, fails]
  refine ends_bind.mpr (ends_rescue.mpr
    ((restorePublished_spec author comment false).imp fun result next spec => ?_))
  rcases spec with ⟨restores, restored, rfl, back, events⟩ | ⟨refused, ⟨failure, rfl⟩, events⟩
  · exact ⟨⟨_, rfl⟩, .inl ⟨recovers.mpr restores, restored, back, events⟩⟩
  · exact ⟨⟨_, rfl⟩, .inr ⟨fun recovered => refused (recovers.mp recovered), events⟩⟩

theorem ends_recoverPublishedFailure
    {before : Service} (takes : RuntimeTakes before.point.runtime program before.point.version)
    (config : s.config = before.config) (logged : s.events = before.events)
    (rolls : RollsBack input faults s.point ↔ RollsBack input faults before.point) :
    (recoverPublishedFailure hooks input author comment cause).Ends faults s
      (Failed hooks input program faults before) := by
  have recovers : Recovers hooks input program faults before.point ↔ Restores hooks input true faults s.point := by
    simp only [Recovers, takes, true_and, not_true_eq_false, false_and, or_false]
    exact ⟨fun restores => ⟨rolls.mpr restores.1, restores.2, restores.3⟩,
      fun restores => ⟨rolls.mp restores.1, restores.2, restores.3⟩⟩
  refine ends_bind.mpr (ends_rescue.mpr
    ((restorePublished_spec author comment true).imp fun result next spec => ?_))
  rcases spec with ⟨restores, restored, rfl, back, events⟩ | ⟨refused, ⟨failure, rfl⟩, events⟩
  · refine ⟨⟨_, rfl⟩, .inl ⟨recovers.mpr restores, restored, ?_, by rw [← logged]; exact events⟩⟩
    exact ⟨config ▸ back.running, config ▸ back.previous, back.version, config ▸ back.next, back.generation⟩
  · exact ⟨⟨_, rfl⟩, .inr ⟨fun recovered => refused (recovers.mp recovered),
      by rw [← logged]; exact events⟩⟩

theorem ends_publishRuntime {texts : ActivationTexts}
    {post : Except Failure Unit → Service → Prop}
    (current : version = s.config.manager.version)
    (fails : ¬RuntimeTakes s.point.runtime program s.point.version → ∀ result after,
      Failed hooks input program faults s result after → post result after)
    (takes : RuntimeTakes s.point.runtime program s.point.version → ∀ next : Service,
      next.config = s.config → next.events = s.events →
      (RollsBack input faults next.point ↔ RollsBack input faults s.point) → post (.ok ()) next) :
    (publishRuntime hooks input texts author version program).Ends faults s post := by
  subst current
  refine ends_bind.mpr (ends_look.mpr ?_)
  dsimp only
  cases runtime : s.runtime with
  | none => exact takes (by simp [RuntimeTakes, Service.point, runtime]) s rfl rfl Iff.rfl
  | some r =>
    have unchanged : { s with runtime := some r } = s := by rw [← runtime]
    cases program with
    | error failure =>
      have refused : ¬RuntimeTakes s.point.runtime (.error failure) s.point.version := by
        simp [RuntimeTakes, Service.point, runtime]
      exact (ends_restoreUnpublished refused).imp (fails refused)
    | ok compiled =>
      refine ends_rescue.mpr (ends_activateRuntime (fun earlier failure => ?_) ?_)
      · have refused : ¬RuntimeTakes s.point.runtime (.ok compiled) s.point.version := fun taken =>
          earlier (taken r runtime).2
        rw [unchanged]
        exact (ends_restoreUnpublished refused).imp (fails refused)
      · intro nonzero grows activated generation
        refine takes (fun other found => ?_) _ rfl rfl (rollsBack_activated runtime grows generation)
        obtain rfl := Option.some.inj (runtime.symm.trans found)
        exact ⟨⟨compiled, rfl⟩, nonzero, grows⟩

theorem activatePublished_spec {texts : ActivationTexts} (current : version = s.config.manager.version) :
    (activatePublished hooks input texts author version program).Ends faults s fun result after =>
      Completes hooks program faults s.point ∧ result = .ok () ∧ after.events = s.events ∨
      ¬Completes hooks program faults s.point ∧ Failed hooks input program faults s result after := by
  refine ends_bind.mpr (ends_publishRuntime current (fun refused result after failed => ?_) ?_)
  · obtain ⟨failure, rfl⟩ := failed.error
    exact .inr ⟨fun completes => refused completes.takes, failed⟩
  · intro takes next config events rolls
    refine ends_bind.mpr (ends_rescue.mpr (ends_callHook (fun failure fails => ?_) fun passes => ?_))
    · refine (ends_recoverPublishedFailure takes config events rolls).imp fun result after failed => ?_
      obtain ⟨failure, rfl⟩ := failed.error
      exact .inr ⟨fun completes => fails completes.afterActivate, failed⟩
    · refine ends_rescue.mpr (ends_callHook (fun failure fails => ?_) fun finalizes => ?_)
      · refine (ends_recoverPublishedFailure takes config events rolls).imp fun result after failed => ?_
        exact .inr ⟨fun completes => fails completes.finalize, failed⟩
      · exact .inl ⟨⟨takes, passes, finalizes⟩, rfl, events⟩

end

end Ngfw.Engine

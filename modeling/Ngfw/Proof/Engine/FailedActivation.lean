import Ngfw.Proof.Engine.Service

/-! # A failed activation and the next rollback -/

namespace Ngfw.Engine
open Lib Lib.Text Domain Config Connectivity Session Procedure

section
variable {hooks : Hooks} {input : ServiceInput} {faults : Faults ServiceOp} {s : Service}

theorem ends_finalizeFailed {failure : Failure} {post : Except Failure ConfigVersion → Service → Prop}
    (ends : ∀ reported, post (.error reported) s) : (finalizeFailed hooks failure).Ends faults s post :=
  ends_bind.mpr (ends_rescue.mpr (ends_callHook (fun _ _ => ends _) fun _ => ends _))

theorem keepReceipt_events {operationID victim : String} {version : ConfigVersion} (s : Service) :
    (keepReceipt operationID victim version s).events = s.events := by
  unfold keepReceipt
  split_ifs <;> rfl

variable [CaseMap]

def Service.published (s : Service) : Point :=
  ⟨s.runtime, some s.config.manager.running, s.config.manager.version.version + 1⟩

structure Restored (before after : Service) (failed : Config) : Prop where
  running : after.config.manager.running = before.config.manager.running
  previous : after.config.manager.previous = some failed
  version : after.config.manager.version.version = before.config.manager.version.version + 1 + 1
  generation : ∀ r, after.runtime = some r → r.generation = after.config.manager.version.version

def Concluded (hooks : Hooks) (input : ServiceInput) (faults : Faults ServiceOp) (program : Except String Program)
    (target : Config) (s : Service) (result : Except Failure ConfigVersion) (after : Service) : Prop :=
  ∃ version,
    Completes hooks program faults s.published ∧ (∃ v, result = .ok v) ∧
        after.events = .published target version :: s.events ∨
      ¬Completes hooks program faults s.published ∧ (∃ failure, result = .error failure) ∧
        (Recovers hooks input program faults s.published ∧ Restored s after target ∧
            (∃ restored, after.events = .restored restored :: .published target version :: s.events) ∨
          ¬Recovers hooks input program faults s.published ∧
            after.events = .published target version :: s.events)

variable [Digest]

theorem ends_afterPublication {texts : ActivationTexts} {author : String} {version : ConfigVersion}
    {program : Except String Program} {target : Config} {next : Service} {keep : Service → Service}
    (keeps : ∀ after, (keep after).events = after.events) (point : next.point = s.published)
    (running : next.config.manager.running = target) (current : next.config.manager.version = version)
    (events : next.events = .published target version :: s.events) :
    (do activatePublished hooks input texts author version program
        .update keep
        return version : ServiceProcedure Failure ConfigVersion).Ends faults next
      (Concluded hooks input faults program target s) := by
  have previous : next.config.manager.previous = some s.config.manager.running := congrArg Point.previous point
  have increased : next.config.manager.version.version = s.config.manager.version.version + 1 :=
    congrArg Point.version point
  refine ends_bind.mpr ((activatePublished_spec current.symm).imp fun result after spec => ?_)
  rw [point] at spec
  rcases spec with ⟨completes, rfl, unchanged⟩ | ⟨fails, ⟨failure, rfl⟩, recovery⟩
  · refine ends_bind.mpr (ends_update.mpr ⟨version, .inl ⟨completes, ⟨version, rfl⟩, ?_⟩⟩)
    exact (keeps after).trans (unchanged.trans events)
  · refine ⟨version, .inr ⟨fails, ⟨failure, rfl⟩, ?_⟩⟩
    rw [point] at recovery
    rcases recovery with ⟨recovers, restored, back, logged⟩ | ⟨refused, logged⟩
    · refine .inl ⟨recovers, ⟨?_, ?_, ?_, ?_⟩, restored, by rw [logged, events]⟩
      · exact Option.some.inj (back.running.trans previous)
      · rw [back.previous, running]
      · rw [back.version, back.next, increased]
      · rw [back.version]
        exact back.generation
    · exact .inr ⟨refused, logged.trans events⟩

theorem publish_spec {texts : ActivationTexts} {author operationID : String} {call : ManagerCall}
    {program : Config → ConfigVersion → Except String Program} :
    (publish hooks input texts author operationID call program).Ends faults s fun result after =>
      ¬(call.Accepted s.config.manager ∧ Activates input.goos true (managerFaults faults)) ∧
        after.events = s.events ∨
      call.Accepted s.config.manager ∧ Activates input.goos true (managerFaults faults) ∧
        ∃ file, call.file input.now s.config.manager = some file ∧
          Concluded hooks input faults (program file.config file.version) file.config s result after := by
  have published : (call.procedure input.goos true input.now).Ends (managerFaults faults) s.config _ :=
    managerCall_spec call
  refine ends_bind.mpr (ends_rescue.mpr (ends_within.mpr
    (published.imp fun result managed spec => ?_)))
  rcases spec with ⟨refused, ⟨failure, rfl⟩, rfl⟩ | ⟨file, switch, accepted, written, runs, activated⟩
  · exact ends_finalizeFailed fun _ => .inl ⟨fun publishes => refused publishes.1, rfl⟩
  cases activated with
  | failed fails => exact ends_finalizeFailed fun _ => .inl ⟨fun publishes => fails publishes.2, rfl⟩
  | done activates manager stored editor applied =>
    obtain ⟨-, next, previous⟩ := file_spec written
    refine ends_bind.mpr (ends_look.mpr (ends_bind.mpr (ends_update.mpr
      ?_)))
    have running : managed.manager.running = file.config := by rw [manager, runs.running]
    have version : managed.manager.version = file.version := by rw [manager, runs.version]
    have point : Service.point { s with
        config := managed, events := .published managed.manager.running file.version :: s.events } =
          s.published := by
      rw [Service.point, Service.published, version, next, manager, runs.previous, previous]
    rw [running] at point ⊢
    refine (ends_afterPublication keepReceipt_events point running version rfl).imp fun result after concluded => ?_
    exact .inr ⟨accepted, activates, file, written, concluded⟩

/-! ## The calls -/

def Preflights (hooks : Hooks) (exhausted : Prop) (faults : Faults ServiceOp) : Prop :=
  hooks.beforeActivate = true → ¬exhausted ∧ faults .beforeActivate = none

omit [CaseMap] [Digest] in
theorem ends_preflight {exhausted : Bool} {text : String} {post : Except String Unit → Service → Prop}
    (fails : ∀ failure, ¬Preflights hooks (exhausted = true) faults → post (.error failure) s)
    (passes : Preflights hooks (exhausted) faults → post (.ok ()) s) :
    (preflight hooks exhausted text).Ends faults s post := by
  unfold preflight
  split_ifs with unset full
  · refine passes fun wired => ?_
    simp [wired] at unset
  · refine fails _ fun preflights => ?_
    exact (preflights (by simpa using unset)).1 full
  · refine ends_mapError.mpr (ends_callHook (fun failure refused => fails _ fun preflights => ?_) ?_)
    · exact refused fun _ => (preflights (by simpa using unset)).2
    · exact fun passed => passes fun _ => ⟨full, passed rfl⟩

structure CommitReaches (hooks : Hooks) (input : ServiceInput) (faults : Faults ServiceOp) (desired : Config)
    (expected : UInt64) (operationID : String) (s : Service) : Prop where
  available : hooks.apply = true
  fresh : receipt s operationID = none
  distinct : exactDuplicatePolicyErrorsForConfig desired = []
  reachable : m3UnreachablePolicyErrors desired = []
  valid : validate desired = []
  candidate : CandidateAccepted input.goos (managerFaults faults) s.config.manager desired
  compiles : precompile s.runtime desired expected = .ok ()
  preflights : Preflights hooks (expected = maxVersion) faults

structure RollbackReaches (hooks : Hooks) (faults : Faults ServiceOp) (operationID : String) (s : Service) :
    Prop where
  available : hooks.apply = true
  fresh : receipt s operationID = none
  target : hooks.beforeActivate = true → s.config.manager.version.version ≠ maxVersion →
    rollbackTarget s.config.manager ≠ none
  preflights : Preflights hooks (s.config.manager.version.version = maxVersion) faults

namespace ServiceCall

def Publishes (hooks : Hooks) (input : ServiceInput) (faults : Faults ServiceOp) (s : Service) : ServiceCall → Prop
  | commit desired expected author comment operationID =>
    CommitReaches hooks input faults desired expected operationID s ∧
      (ManagerCall.commit author comment expected).Accepted
        { s.config.manager with candidate := (normalizeCandidateServices desired).1, validation := {} } ∧
      Activates input.goos true (managerFaults faults)
  | rollback author comment operationID =>
    RollbackReaches hooks faults operationID s ∧ (ManagerCall.rollback author comment).Accepted s.config.manager ∧
      Activates input.goos true (managerFaults faults)

def target (s : Service) : ServiceCall → Option Config
  | commit desired _ _ _ _ => some (normalizeCandidateServices desired).1
  | rollback _ _ _ => s.config.manager.previous

def program (s : Service) (target : Config) : ServiceCall → Except String Program
  | commit desired expected _ _ _ => (compileRuntimeProgram desired (expected + 1)).map fun program =>
    { program with generation := s.config.manager.version.version + 1 }
  | rollback _ _ _ => compileRuntimeProgram target (s.config.manager.version.version + 1)

end ServiceCall

theorem rollbackConfig_spec (author comment operationID : String) :
    (rollbackConfig hooks input author comment operationID).Ends faults s fun result after =>
      ¬(ServiceCall.rollback author comment operationID).Publishes hooks input faults s ∧ after.events = s.events ∨
      (ServiceCall.rollback author comment operationID).Publishes hooks input faults s ∧
        ∃ target, s.config.manager.previous = some target ∧
          Concluded hooks input faults (compileRuntimeProgram target (s.config.manager.version.version + 1)) target s
            result after := by
  refine ends_bind.mpr (ends_look.mpr ?_)
  refine .require_bind (fun unavailable => ?_) fun available => ?_
  · exact .inl ⟨fun publishes => unavailable publishes.1.available, rfl⟩
  dsimp only [id]
  cases fresh : receipt s operationID with
  | some version => exact .inl ⟨fun publishes => by simp [publishes.1.fresh] at fresh, rfl⟩
  | none =>
    refine .require_bind (fun missing => ?_) fun target => ?_
    · exact .inl ⟨fun publishes => missing publishes.1.target, rfl⟩
    refine ends_bind.mpr (ends_mapError.mpr (ends_preflight (fun failure refused => ?_) ?_))
    · exact .inl ⟨fun publishes => refused (by simpa using publishes.1.preflights), rfl⟩
    intro preflights
    have reaches : RollbackReaches hooks faults operationID s :=
      ⟨available, fresh, target, by simpa using preflights⟩
    refine publish_spec.imp fun result after spec => ?_
    rcases spec with ⟨refused, events⟩ | ⟨accepted, activates, file, written, concluded⟩
    · exact .inl ⟨fun publishes => refused publishes.2, events⟩
    · obtain ⟨target, next, -⟩ := file_spec written
      rw [next] at concluded
      exact .inr ⟨⟨reaches, accepted, activates⟩, file.config, target, concluded⟩

omit [Digest] in
theorem Concluded.of_candidate {program : Except String Program} {target candidate : Config} {managed : Managed}
    {result : Except Failure ConfigVersion} {after : Service}
    (manager : managed.manager = { s.config.manager with candidate := candidate, validation := {} })
    (concluded : Concluded hooks input faults program target { s with config := managed } result after) :
    Concluded hooks input faults program target s result after := by
  have published : Service.published { s with config := managed } = s.published := by
    simp [Service.published, manager]
  unfold Concluded at concluded ⊢
  rw [published] at concluded
  obtain ⟨version, completed | ⟨fails, error, ⟨recovers, restored, logged⟩ | unrecovered⟩⟩ := concluded
  · exact ⟨version, .inl completed⟩
  · refine ⟨version, .inr ⟨fails, error,
      .inl ⟨recovers, ⟨?_, restored.previous, ?_, restored.generation⟩, logged⟩⟩⟩
    · rw [restored.running, manager]
    · rw [restored.version, manager]
  · exact ⟨version, .inr ⟨fails, error, .inr unrecovered⟩⟩

theorem commitConfig_spec (desired : Config) (expected : UInt64) (author comment operationID : String) :
    (commitConfig hooks input desired expected author comment operationID).Ends faults s fun result after =>
      ¬(ServiceCall.commit desired expected author comment operationID).Publishes hooks input faults s ∧
        after.events = s.events ∨
      (ServiceCall.commit desired expected author comment operationID).Publishes hooks input faults s ∧
        Concluded hooks input faults
          ((ServiceCall.commit desired expected author comment operationID).program s desired)
          (normalizeCandidateServices desired).1 s result after := by
  refine ends_bind.mpr (ends_look.mpr ?_)
  refine .require_bind (fun unavailable => ?_) fun available => ?_
  · exact .inl ⟨fun publishes => unavailable publishes.1.available, rfl⟩
  dsimp only [id]
  cases fresh : receipt s operationID with
  | some version => exact .inl ⟨fun publishes => by simp [publishes.1.fresh] at fresh, rfl⟩
  | none =>
    refine .require_bind (fun duplicated => ?_) fun distinct => ?_
    · exact .inl ⟨fun publishes => duplicated publishes.1.distinct, rfl⟩
    refine .require_bind (fun unreachable => ?_) fun reachable => ?_
    · exact .inl ⟨fun publishes => unreachable publishes.1.reachable, rfl⟩
    refine .require_bind (fun invalid => ?_) fun valid => ?_
    · exact .inl ⟨fun publishes => invalid publishes.1.valid, rfl⟩
    refine ends_bind.mpr (ends_within.mpr ((setCandidate_spec desired).imp ?_))
    rintro _ managed ⟨errs, rfl, -, accepted, switched⟩
    refine .require_bind (fun refused => ?_) fun clean => ?_
    · exact .inl ⟨fun publishes => refused (accepted.mpr publishes.1.candidate), rfl⟩
    have manager := switched clean
    refine ends_bind.mpr (ends_ofExcept.mpr ?_)
    cases compiles : precompile s.runtime desired expected with
    | error failure => exact .inl ⟨fun publishes => by simp [publishes.1.compiles] at compiles, rfl⟩
    | ok =>
      refine ends_bind.mpr (ends_mapError.mpr (ends_preflight (fun failure refused => ?_) ?_))
      · exact .inl ⟨fun publishes => refused (by simpa using publishes.1.preflights), rfl⟩
      intro preflights
      have reaches : CommitReaches hooks input faults desired expected operationID s :=
        ⟨available, fresh, distinct, reachable, valid, accepted.mp clean, compiles, by simpa using preflights⟩
      refine publish_spec.imp fun result after spec => ?_
      dsimp only at spec
      rcases spec with ⟨refused, events⟩ | ⟨ready, activates, file, written, concluded⟩
      · exact .inl ⟨fun publishes => refused (by rw [manager]; exact publishes.2), events⟩
      · obtain ⟨target, next, -⟩ := file_spec written
        rw [manager] at ready target next
        have same : (normalizeCandidateServices desired).1 = file.config := Option.some.inj target
        rw [next, ← same] at concluded
        exact .inr ⟨⟨reaches, ready, activates⟩, concluded.of_candidate manager⟩

theorem serviceCall_spec (call : ServiceCall) :
    (call.procedure hooks input).Ends faults s fun result after =>
      ¬call.Publishes hooks input faults s ∧ after.events = s.events ∨
      call.Publishes hooks input faults s ∧ ∃ target, call.target s = some target ∧
        Concluded hooks input faults (call.program s target) target s result after := by
  cases call with
  | commit desired expected author comment operationID =>
    refine (commitConfig_spec desired expected author comment operationID).imp fun result after spec => ?_
    exact spec.imp_right fun published => ⟨published.1, _, rfl, published.2⟩
  | rollback author comment operationID => exact rollbackConfig_spec author comment operationID

/-! ## The trace of a failed activation -/

structure LeavesNoTrace (hooks : Hooks) (failed : Config) (before after : Service) : Prop where
  running : after.config.manager.running = before.config.manager.running
  version : before.config.manager.version.version < after.config.manager.version.version
  generation : ∀ r, after.runtime = some r → r.generation = after.config.manager.version.version
  rollback : ∀ (input : ServiceInput) (faults : Faults ServiceOp) (author comment operationID : String),
    (rollbackConfig hooks input author comment operationID).Ends faults { after with events := [] } fun _ last =>
      ∀ version, .published failed version ∉ last.events

def TracelessFailure (hooks : Hooks) (before : Service) (result : Except Failure ConfigVersion) (after : Service) :
    Prop :=
  ∀ failure failed version restored, result = .error failure →
    after.events = .restored restored :: .published failed version :: before.events →
    LeavesNoTrace hooks failed before after

theorem rollback_publishes {target : Config} (available : hooks.apply)
    (previous : s.config.manager.previous = some target) (room : s.config.manager.version.version ≠ maxVersion) :
    (rollbackConfig hooks {} "" "" "").Ends (fun _ => none) s fun _ last =>
      ∃ version, .published target version ∈ last.events := by
  have publishes : (ServiceCall.rollback "" "" "").Publishes hooks {} (fun _ => none) s := by
    refine ⟨⟨available, by simp [receipt], ?_, fun _ => ⟨room, rfl⟩⟩, ⟨by simp [previous], room⟩, ?_⟩
    · simp [rollbackTarget, previous]
    · exact ⟨fun _ => rfl, ⟨rfl, rfl, rfl, .inr rfl, rfl, rfl⟩, .inr (.inr rfl), rfl⟩
  refine (rollbackConfig_spec "" "" "").imp fun result after spec => ?_
  rcases spec with ⟨refused, -⟩ | ⟨-, found, same, version, concluded⟩
  · exact absurd publishes refused
  obtain rfl := Option.some.inj (previous.symm.trans same)
  refine ⟨version, ?_⟩
  rcases concluded with ⟨-, -, events⟩ | ⟨-, -, ⟨-, -, restored, events⟩ | ⟨-, events⟩⟩
  all_goals simp [events]

omit [Digest] in
theorem Recovers.rollsBack {program : Except String Program} {p : Point}
    (recovers : Recovers hooks input program faults p) : RollsBack input faults p := by
  rcases recovers with ⟨-, restores⟩ | ⟨-, restores⟩
  · exact restores.rollsBack
  · exact restores.rollsBack

omit [Digest] in
theorem ServiceCall.Publishes.available {call : ServiceCall} (publishes : call.Publishes hooks input faults s) :
    hooks.apply = true := by
  cases call with
  | commit | rollback => exact publishes.1.available

omit [Digest] in
theorem ServiceCall.Publishes.room {call : ServiceCall} (publishes : call.Publishes hooks input faults s) :
    s.config.manager.version.version ≠ maxVersion := by
  cases call with
  | commit => exact publishes.2.1.2.2.2
  | rollback => exact accepted_room publishes.2.1

theorem leavesNoTrace_exhausted {failed : Config} {after : Service}
    (room : s.config.manager.version.version ≠ maxVersion)
    (next : s.config.manager.version.version + 1 ≠ maxVersion)
    (restored : Restored s after failed) (exhausted : s.config.manager.version.version + 1 + 1 = maxVersion) :
    LeavesNoTrace hooks failed s after where
  running := restored.running
  version := by
    rw [restored.version, UInt64.lt_iff_toNat_lt, toNat_next next, toNat_next room]
    omega
  generation := restored.generation
  rollback input faults author comment operationID := by
    refine (rollbackConfig_spec author comment operationID).imp fun result last spec version published => ?_
    rcases spec with ⟨-, unchanged⟩ | ⟨publishes, -⟩
    · rw [unchanged] at published
      exact absurd published List.not_mem_nil
    · exact publishes.room (restored.version.trans exhausted)

theorem failed_activation_leaves_no_trace (hooks : Hooks) (input : ServiceInput) (faults : Faults ServiceOp)
    (call : ServiceCall) (s : Service) :
    (call.procedure hooks input).Ends faults s (TracelessFailure hooks s) ↔
      ¬(call.Publishes hooks input faults s ∧ s.config.manager.version.version + 1 + 1 ≠ maxVersion ∧
        ∃ target, call.target s = some target ∧ ¬Completes hooks (call.program s target) faults s.published ∧
          Recovers hooks input (call.program s target) faults s.published) := by
  have spec : (call.procedure hooks input).Ends faults s _ := serviceCall_spec call
  constructor
  · rintro traceless ⟨publishes, room, target, found, fails, recovers⟩
    obtain ⟨result, after, traceless, spec⟩ := traceless.both spec
    rcases spec with ⟨refused, -⟩ | ⟨-, failed, same, version, concluded⟩
    · exact refused publishes
    obtain rfl := Option.some.inj (found.symm.trans same)
    rcases concluded with ⟨completes, -⟩ | ⟨-, ⟨failure, rfl⟩,
      ⟨-, restored, last, events⟩ | ⟨unrecovered, -⟩⟩
    · exact fails completes
    · have next : Service.config { after with events := [] } = after.config := rfl
      have trace := traceless failure target version last rfl events
      obtain ⟨_, final, none, published, member⟩ :=
        (trace.rollback {} (fun _ => none) "" "" "").both (rollback_publishes publishes.available restored.previous
          (by rw [next, restored.version]; exact room))
      exact none published member
    · exact unrecovered recovers
  · intro holds
    refine spec.imp fun result after spec failure failed version restored error events => ?_
    have twice : after.events.length = s.events.length + 2 := by simp [events]
    rcases spec with ⟨-, unchanged⟩ | ⟨publishes, target, found, published, concluded⟩
    · simp [unchanged] at twice
    rcases concluded with ⟨-, ⟨v, ok⟩, -⟩ | ⟨fails, -, ⟨recovers, back, last, logged⟩ | ⟨-, once⟩⟩
    · exact nomatch error.symm.trans ok
    · have same : failed = target := by
        have := events.symm.trans logged
        simp only [List.cons.injEq, ServiceEvent.published.injEq] at this
        exact this.2.1.1
      have exhausted : s.config.manager.version.version + 1 + 1 = maxVersion := by
        by_contra room
        exact holds ⟨publishes, room, target, found, fails, recovers⟩
      rw [same]
      exact leavesNoTrace_exhausted publishes.room recovers.rollsBack.room back exhausted
    · simp [once] at twice

end

/-! A commit whose finalization fails is restored; the rollback after it publishes what had failed. -/

section
attribute [local instance] asciiCaseMap configDigest

def servedManager : Manager where
  running := defaults
  candidate := defaults
  version := { version := 1 }

def editedService : Service where
  config := { manager := servedManager }
  runtime := some (newRuntime { generation := 1, defaultDeny := true } 1 defaultRuntimeLimits)

def finalizingHooks : Hooks where
  finalizeActivation := true

def finalizeFails : Faults ServiceOp
  | .finalize => some "remove activation journal: input/output error"
  | _ => none

def failingCommit : ServiceCall :=
  .commit editedConfig 1 "admin" "more sessions" ""

def failedVersion : ConfigVersion :=
  { version := 2, author := "admin", comment := "more sessions", checksum := Digest.checksum editedConfig }

def restoredVersion : ConfigVersion :=
  { version := 3, author := "admin", comment := "restore after activation finalization failure"
    checksum := Digest.checksum defaults }

def repeatedVersion : ConfigVersion :=
  { version := 4, author := "admin", checksum := Digest.checksum editedConfig }

theorem rollback_repeats_failed_activation :
    ¬(failingCommit.procedure finalizingHooks {}).Ends finalizeFails editedService
      (TracelessFailure finalizingHooks editedService) := by
  intro traceless
  have fails : ((failingCommit.procedure finalizingHooks {}).run finalizeFails editedService).1.isOk = false := by
    decide +kernel
  have events : ((failingCommit.procedure finalizingHooks {}).run finalizeFails editedService).2.events =
      [.restored restoredVersion, .published editedConfig failedVersion] := by decide +kernel
  have repeated : .published editedConfig repeatedVersion ∈
      ((rollbackConfig finalizingHooks {} "admin" "" "").run (fun _ => none)
        { ((failingCommit.procedure finalizingHooks {}).run finalizeFails editedService).2 with
          events := [] }).2.events := by decide +kernel
  cases result : ((failingCommit.procedure finalizingHooks {}).run finalizeFails editedService).1 with
  | ok version => simp [result, Except.isOk, Except.toBool] at fails
  | error failure =>
    have trace := traceless failure editedConfig failedVersion restoredVersion result events
    exact trace.rollback {} (fun _ => none) "admin" "" "" repeatedVersion repeated

end

end Ngfw.Engine

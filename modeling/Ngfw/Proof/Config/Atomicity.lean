import Ngfw.Proof.Config.Manager

/-! # Commit and rollback are atomic up to the rename -/

namespace Ngfw.Config
open Lib Lib.Text Domain

theorem incrementVersion_spec {current next : UInt64} (increments : incrementVersion current = .ok next) :
    next = current + 1 ∧ current ≠ UInt64.ofNat (2 ^ 64 - 1) := by
  unfold incrementVersion at increments
  split_ifs at increments with exhausted
  exact ⟨(Except.ok.inj increments).symm, exhausted⟩

theorem toNat_next {current : UInt64} (room : current ≠ UInt64.ofNat (2 ^ 64 - 1)) :
    (current + 1).toNat = current.toNat + 1 := by
  have small : current.toNat ≠ 2 ^ 64 - 1 := fun last => room (UInt64.toNat_inj.mp last)
  have bound := current.toNat_lt
  rw [UInt64.toNat_add]
  exact Nat.mod_eq_of_lt (by simp; omega)

theorem incrementVersion_error {current : UInt64} {failure : String}
    (fails : incrementVersion current = .error failure) : current = UInt64.ofNat (2 ^ 64 - 1) := by
  unfold incrementVersion at fails
  split_ifs at fails with exhausted
  exact exhausted

section
variable [CaseMap] [Digest]

namespace ManagerCall

def Accepted (m : Manager) : ManagerCall → Prop
  | commit _ _ expected =>
    expected = m.version.version ∧ validate m.candidate = [] ∧ semanticErrors m.candidate = [] ∧
      m.version.version ≠ UInt64.ofNat (2 ^ 64 - 1)
  | rollback _ _ => m.previous ≠ none ∧ m.version.version ≠ UInt64.ofNat (2 ^ 64 - 1)

def target (m : Manager) : ManagerCall → Option Config
  | commit _ _ _ => some m.candidate
  | rollback _ _ => m.previous

def file (now : Time) (m : Manager) (call : ManagerCall) : Option RunningFile :=
  (call.target m).map fun target =>
    let author := match call with
      | commit author _ _ => author
      | rollback author _ => author
    let comment := match call with
      | commit _ comment _ => comment
      | rollback _ comment => comment
    { config := target
      version :=
        { version := m.version.version + 1, author := author, timestamp := now, comment := comment
          checksum := Digest.checksum target }
      previous := some m.running }

end ManagerCall

structure Runs (file : RunningFile) (m : Manager) : Prop where
  running : m.running = file.config
  version : m.version = file.version
  previous : m.previous = file.previous

variable {goos : String} {apply : Bool} {now : Time} {faults : Faults ManagerOp} {s : Managed}

theorem managerCall_spec (call : ManagerCall) :
    (call.procedure goos apply now).Ends faults s fun result after =>
      ¬call.Accepted s.manager ∧ (∃ failure, result = .error ⟨s.manager.version, failure⟩) ∧ after = s ∨
      ∃ file switch, call.Accepted s.manager ∧ call.file now s.manager = some file ∧
        Runs file (switch s.manager) ∧
        Activated goos apply faults file.config file.version switch s result after := by
  cases call with
  | commit author comment expected =>
    simp only [ManagerCall.procedure, commitWithGeneration, Procedure.ends_bind, Procedure.ends_look]
    split_ifs with conflict invalid semantic
    · exact .inl ⟨fun accepted => conflict accepted.1, ⟨_, rfl⟩, rfl⟩
    · exact .inl ⟨fun accepted => invalid accepted.2.1, ⟨_, rfl⟩, rfl⟩
    · exact .inl ⟨fun accepted => semantic accepted.2.2.1, ⟨_, rfl⟩, rfl⟩
    · cases increments : incrementVersion s.manager.version.version with
      | error failure =>
        exact .inl ⟨fun accepted => accepted.2.2.2 (incrementVersion_error increments), ⟨_, rfl⟩, rfl⟩
      | ok next =>
        obtain ⟨rfl, room⟩ := incrementVersion_spec increments
        refine activateGeneration_spec.imp fun result after activated => .inr ⟨_, _, ?_, rfl, ?_, activated⟩
        · exact ⟨not_not.mp conflict, not_not.mp invalid, not_not.mp semantic, room⟩
        · exact ⟨rfl, rfl, rfl⟩
  | rollback author comment =>
    simp only [ManagerCall.procedure, rollbackGenerationLocked, Procedure.ends_bind, Procedure.ends_look]
    cases previous : s.manager.previous with
    | none => exact .inl ⟨fun accepted => accepted.1 previous, ⟨_, rfl⟩, rfl⟩
    | some target =>
      cases increments : incrementVersion s.manager.version.version with
      | error failure =>
        exact .inl ⟨fun accepted => accepted.2 (incrementVersion_error increments), ⟨_, rfl⟩, rfl⟩
      | ok next =>
        obtain ⟨rfl, room⟩ := incrementVersion_spec increments
        have written : (ManagerCall.rollback author comment).file now s.manager = some
            ⟨target, ⟨s.manager.version.version + 1, author, now, comment, Digest.checksum target⟩,
              some s.manager.running⟩ := by
          simp [ManagerCall.file, ManagerCall.target, previous]
        refine activateGeneration_spec.imp fun result after activated =>
          .inr ⟨_, _, ⟨?_, room⟩, written, ?_, activated⟩
        · simp [previous]
        · exact ⟨rfl, rfl, rfl⟩

/-! ## Atomicity -/

def restartConfig (initial : Config) (file : File RunningFile) : Except String Config :=
  (load initial file).map (·.running)

structure Unchanged (initial : Config) (before after : Managed) : Prop where
  running : after.manager.running = before.manager.running
  previous : after.manager.previous = before.manager.previous
  version : after.manager.version = before.manager.version
  restart : restartConfig initial after.file.file = restartConfig initial before.file.file

structure Switched (target : Option Config) (before after : Managed) : Prop where
  running : some after.manager.running = target
  previous : after.manager.previous = some before.manager.running
  version : after.manager.version.version.toNat = before.manager.version.version.toNat + 1
  file : after.file.file = .holds ⟨after.manager.running, after.manager.version, some before.manager.running⟩

def Atomic (initial : Config) (apply : Bool) (faults : Faults ManagerOp) (target : Option Config) (before : Managed) :
    Except Failure ConfigVersion → Managed → Prop
  | .error _, after => Compensates apply faults → Unchanged initial before after
  | .ok v, after => after.manager.version = v ∧ Switched target before after

omit [CaseMap] in
theorem file_spec {call : ManagerCall} {m : Manager} {file : RunningFile} (written : call.file now m = some file) :
    call.target m = some file.config ∧ file.version.version = m.version.version + 1 ∧
      file.previous = some m.running := by
  obtain ⟨target, found, rfl⟩ := Option.map_eq_some_iff.mp written
  exact ⟨found, rfl, rfl⟩

omit [Digest] in
theorem accepted_room {call : ManagerCall} {m : Manager} (accepted : call.Accepted m) :
    m.version.version ≠ UInt64.ofNat (2 ^ 64 - 1) := by
  cases call with
  | commit => exact accepted.2.2.2
  | rollback => exact accepted.2

def FailsAfterRename (goos : String) (apply : Bool) (faults : Faults ManagerOp) : Prop :=
  Applies apply faults ∧ Compensates apply faults ∧ Renames goos (persistFaults faults) ∧
    ¬Finishes goos (persistFaults faults)

theorem manager_call_atomic (initial : Config) (goos : String) (apply : Bool) (now : Time) (call : ManagerCall)
    (faults : Faults ManagerOp) (s : Managed) :
    (call.procedure goos apply now).Ends faults s (Atomic initial apply faults (call.target s.manager) s) ↔
      ¬(call.Accepted s.manager ∧ FailsAfterRename goos apply faults ∧
        ∃ file, call.file now s.manager = some file ∧
          restartConfig initial (.holds file) ≠ restartConfig initial s.file.file) := by
  have spec : (call.procedure goos apply now).Ends faults s _ := managerCall_spec call
  constructor
  · rintro atomic ⟨accepted, ⟨applies, compensates, renames, unsettled⟩, file, written, differs⟩
    obtain ⟨result, after, atomic, spec⟩ := atomic.both spec
    rcases spec with ⟨refused, -⟩ | ⟨new, switch, -, same, runs, activated⟩
    · exact refused accepted
    obtain rfl : new = file := Option.some.inj (same.symm.trans written)
    cases activated with
    | done activates => exact unsettled activates.finishes
    | failed fails manager late early editor applied =>
      have restart := (atomic compensates).restart
      rw [late applies renames, ← (file_spec written).2.2] at restart
      exact differs restart
  · intro holds
    refine spec.imp fun result after spec => ?_
    rcases spec with ⟨-, ⟨failure, rfl⟩, rfl⟩ | ⟨file, switch, accepted, written, runs, activated⟩
    · exact fun _ => ⟨rfl, rfl, rfl, rfl⟩
    obtain ⟨target, next, previous⟩ := file_spec written
    cases activated with
    | done activates manager stored editor applied =>
      refine ⟨by rw [manager, runs.version], ?_, ?_, ?_, ?_⟩
      · rw [manager, runs.running, target]
      · rw [manager, runs.previous, previous]
      · rw [manager, runs.version, next, toNat_next (accepted_room accepted)]
      · rw [manager, runs.running, runs.version, stored]
    | failed fails manager late early editor applied =>
      intro compensates
      refine ⟨by rw [manager], by rw [manager], by rw [manager], ?_⟩
      by_cases renamed : Applies apply faults ∧ Renames goos (persistFaults faults)
      · -- the file is the new one, so its configuration was there before
        have unsettled : ¬Finishes goos (persistFaults faults) := fun finishes =>
          fails ⟨renamed.1, renamed.2, finishes⟩
        rw [late renamed.1 renamed.2, ← previous]
        by_contra differs
        exact holds ⟨accepted, ⟨renamed.1, compensates, renamed.2, unsettled⟩, file, written, differs⟩
      · rw [early renamed]

end

/-! A commit whose last step fails: the manager runs the old configuration, and a restart the new one. -/

section
attribute [local instance] asciiCaseMap configDigest

def editedConfig : Config := { defaults with maxSessions := 60000 }

def editedManager : Managed where
  manager := { running := defaults, candidate := editedConfig }

def chmodFails : Faults ManagerOp
  | .persist .chmod => some "chmod running.json: operation not permitted"
  | _ => none

theorem late_failure_stays_on_disk :
    ¬((ManagerCall.commit "admin" "more sessions" 0).procedure "linux" true 0).Ends chmodFails editedManager
      (Atomic defaults true chmodFails (some editedConfig) editedManager) := by
  intro atomic
  have fails : (((ManagerCall.commit "admin" "more sessions" 0).procedure "linux" true 0).run chmodFails
      editedManager).1.isOk = false := by decide +kernel
  have stored : restartConfig defaults (((ManagerCall.commit "admin" "more sessions" 0).procedure "linux" true 0).run
      chmodFails editedManager).2.file.file = .ok editedConfig := by decide +kernel
  unfold Procedure.Ends at atomic
  cases result : (((ManagerCall.commit "admin" "more sessions" 0).procedure "linux" true 0).run chmodFails
      editedManager).1 with
  | ok v => simp [result, Except.isOk, Except.toBool] at fails
  | error failure =>
    rw [result] at atomic
    have restart := (atomic fun _ => rfl).restart
    rw [stored] at restart
    exact absurd restart (by decide)

end

end Ngfw.Config

import Ngfw.Config.Manager

/-! # What commit and rollback leave behind -/

namespace Ngfw.Config
open Lib Lib.Text Domain Procedure

/-! ## Replacing running.json -/

def Renames (goos : String) (faults : Faults PersistStep) : Prop :=
  faults .marshal = none ∧ faults .openTemporary = none ∧ faults .write = none ∧
    (goos = "windows" ∨ faults .sync = none) ∧ faults .close = none ∧ faults .rename = none

def Finishes (goos : String) (faults : Faults PersistStep) : Prop :=
  (goos = "windows" ∨ faults .openDirectory ≠ none ∨ faults .syncDirectory = none) ∧ faults .chmod = none

structure Persisted (goos : String) (payload : RunningFile) (faults : Faults PersistStep) (before : File RunningFile)
    (result : Except String Unit) (after : File RunningFile) : Prop where
  ok : result = .ok () ↔ Renames goos faults ∧ Finishes goos faults
  renamed : Renames goos faults → after = .holds payload
  kept : ¬Renames goos faults → after = before

section
variable {goos : String} {payload : RunningFile} {faults : Faults PersistStep}

variable {before : File RunningFile} {failure : String}

theorem Persisted.early (fails : ¬Renames goos faults) :
    Persisted goos payload faults before (.error failure) before where
  ok := ⟨fun impossible => (nomatch impossible), fun ok => absurd ok.1 fails⟩
  renamed renames := absurd renames fails
  kept _ := rfl

theorem Persisted.late (renames : Renames goos faults)
    (fails : ¬Finishes goos faults) : Persisted goos payload faults before (.error failure) (.holds payload) where
  ok := ⟨fun impossible => (nomatch impossible), fun ok => absurd ok.2 fails⟩
  renamed _ := rfl
  kept fails := absurd renames fails

theorem Persisted.done (renames : Renames goos faults) (finishes : Finishes goos faults) :
    Persisted goos payload faults before (.ok ()) (.holds payload) where
  ok := iff_of_true rfl ⟨renames, finishes⟩
  renamed _ := rfl
  kept fails := absurd renames fails

theorem persisted_chmod {r : Replaced RunningFile} (renames : Renames goos faults)
    (written : r.file = .holds payload)
    (synced : goos = "windows" ∨ faults .openDirectory ≠ none ∨ faults .syncDirectory = none) :
    (attempt PersistStep.chmod id).Ends faults r fun result after =>
      Persisted goos payload faults before result after.file := by
  refine .attempt (fun failure fails => ?_) fun fine => ?_
  · rw [written]
    exact .late renames fun finishes => by simp [finishes.2] at fails
  · rw [id, written]
    exact .done renames ⟨synced, fine⟩

theorem persist_spec (r : Replaced RunningFile) :
    (persist goos payload).Ends faults r fun result after =>
      Persisted goos payload faults r.file result after.file := by
  have removed : ∀ after : Replaced RunningFile,
      ((attempt PersistStep.removeTemporary Replaced.removeTemporary).run faults after).2.file =
        after.file := by
    intro after
    unfold attempt
    dsimp only
    split <;> rfl
  refine .attempt_bind (fun _ fails => .early (by simp [Renames, fails])) fun marshalled => ?_
  refine .attempt_bind (fun _ fails => .early (by simp [Renames, fails])) fun opened => ?_
  refine .deferred Replaced.file (Persisted goos payload faults r.file) removed ?_
  refine .attempt_bind (fun _ fails => .early (by simp [Renames, fails])) fun wrote => ?_
  refine .ignoring_bind (fun _ fails reported => .early ?_) fun synced => ?_
  · simpa [Renames, fails] using fun _ _ _ windows => absurd reported (by simp [windows])
  refine .attempt_bind (fun _ fails => .early (by simp [Renames, fails])) fun closed => ?_
  refine .attempt_bind (fun _ fails => .early (by simp [Renames, fails])) fun renamed => ?_
  have renames : Renames goos faults := ⟨marshalled, opened, wrote, by simpa using synced, closed, renamed⟩
  refine ends_bind.mpr (ends_outcome.mpr (.attempt (fun _ fails => ?_) fun found => ?_))
  · exact persisted_chmod renames rfl (.inr (.inl (by simp [fails])))
  · refine .ignoring_bind (fun _ fails reported => ?_) fun synced => ?_
    · refine .late renames fun finishes => ?_
      rcases finishes.1 with windows | closed | fine
      · simp [windows] at reported
      · exact closed found
      · simp [fine] at fails
    · refine persisted_chmod renames rfl ?_
      rcases synced with windows | fine
      · exact .inl (by simpa using windows)
      · exact .inr (.inr fine)

end

/-! ## Activating a generation -/

section
variable {goos : String} {apply : Bool} {post : Except String Unit → Managed → Prop}

def Applies (apply : Bool) (faults : Faults ManagerOp) : Prop :=
  apply = true → faults .apply = none

def Compensates (apply : Bool) (faults : Faults ManagerOp) : Prop :=
  apply = true → faults .restore = none

abbrev persistFaults (faults : Faults ManagerOp) : Faults PersistStep :=
  fun step => faults (.persist step)

structure Activates (goos : String) (apply : Bool) (faults : Faults ManagerOp) : Prop where
  applies : Applies apply faults
  renames : Renames goos (persistFaults faults)
  finishes : Finishes goos (persistFaults faults)

structure OnlyCalls (before after : Managed) : Prop where
  manager : after.manager = before.manager
  file : after.file = before.file
  editor : after.editor = before.editor
  applied : before.applied <:+ after.applied

theorem OnlyCalls.refl (s : Managed) : OnlyCalls s s := ⟨rfl, rfl, rfl, List.suffix_rfl⟩

inductive Activated (goos : String) (apply : Bool) (faults : Faults ManagerOp) (target : Config) (v : ConfigVersion)
    (switch : Manager → Manager) (before : Managed) : Except Failure ConfigVersion → Managed → Prop
  | done {after : Managed} (activates : Activates goos apply faults)
      (manager : after.manager = switch before.manager)
      (file : after.file.file = .holds ⟨target, v, some before.manager.running⟩)
      (editor : after.editor = before.editor)
      (applied : ((if apply then [(target, v.version)] else []) ++ before.applied) <:+ after.applied) :
      Activated goos apply faults target v switch before (.ok v) after
  | failed {after : Managed} {failure : String} (fails : ¬Activates goos apply faults)
      (manager : after.manager = before.manager)
      (late : Applies apply faults → Renames goos (persistFaults faults) →
        after.file.file = .holds ⟨target, v, some before.manager.running⟩)
      (early : ¬(Applies apply faults ∧ Renames goos (persistFaults faults)) → after.file.file = before.file.file)
      (editor : after.editor = before.editor)
      (applied : ((if apply then [(target, v.version)] else []) ++ before.applied) <:+ after.applied) :
      Activated goos apply faults target v switch before (.error ⟨before.manager.version, failure⟩) after

variable {faults : Faults ManagerOp} {s : Managed}

theorem ends_callApply {site : ManagerOp} {value : Config} {generation : UInt64} :
    (callApply site value generation).Ends faults s post ↔
      (attempt site id).Ends faults { s with applied := (value, generation) :: s.applied } post := Iff.rfl

theorem ends_restoreAppliedGeneration {previous : Config} {current : ConfigVersion} {cause : String}
    {post : Except Failure Unit → Managed → Prop}
    (ends : ∀ report after, OnlyCalls s after → post (.error ⟨current, report⟩) after) :
    (restoreAppliedGeneration apply previous current cause).Ends faults s post := by
  unfold restoreAppliedGeneration
  cases apply with
  | false => exact ends _ _ (.refl s)
  | true =>
    have called : OnlyCalls s { s with applied := (previous, current.version) :: s.applied } :=
      ⟨rfl, rfl, rfl, List.suffix_cons _ _⟩
    refine ends_bind.mpr (ends_rescue.mpr (ends_callApply.mpr (.attempt ?_ ?_)))
    · exact fun failure fails => ends _ _ called
    · exact fun fine => ends _ _ called

def calledFor (apply : Bool) (target : Config) (generation : UInt64) (s : Managed) : Managed :=
  { s with applied := (if apply then [(target, generation)] else []) ++ s.applied }

theorem ends_callTarget {target : Config} {generation : UInt64}
    (fails : ∀ failure, ¬Applies apply faults → post (.error failure) (calledFor apply target generation s))
    (works : Applies apply faults → post (.ok ()) (calledFor apply target generation s)) :
    Procedure.Ends (if apply then callApply .apply target generation else pure ()) faults s post := by
  cases apply with
  | false => exact works nofun
  | true =>
    refine ends_callApply.mpr (.attempt (fun failure fault => ?_) fun fine => works fun _ => fine)
    exact fails failure fun applies => by simp [applies rfl] at fault

theorem activateGeneration_spec {target : Config} {v : ConfigVersion} {activation persistence : String}
    {switch : Manager → Manager} :
    (activateGeneration goos apply target v activation persistence switch).Ends faults s
      (Activated goos apply faults target v switch s) := by
  unfold activateGeneration
  simp only [ends_bind, ends_look, ends_rescue, ends_within,
    ends_update, ends_pure]
  refine ends_callTarget (fun failure refused => ?_) fun applies => ?_
  · refine ends_restoreAppliedGeneration fun report after calls => ?_
    exact .failed (fun activates => refused activates.applies) calls.manager (fun applies => absurd applies refused)
      (fun _ => by rw [calls.file]; rfl) calls.editor calls.applied
  · refine (persist_spec _).imp fun result after persisted => ?_
    cases result with
    | ok =>
      obtain ⟨renames, finishes⟩ := persisted.ok.mp rfl
      exact .done ⟨applies, renames, finishes⟩ rfl (persisted.renamed renames) rfl List.suffix_rfl
    | error failure =>
      refine ends_restoreAppliedGeneration fun report last calls => ?_
      refine .failed (fun activates => ?_) calls.manager (fun _ renames => ?_) (fun fails => ?_) calls.editor
        calls.applied
      · cases persisted.ok.mpr ⟨activates.renames, activates.finishes⟩
      · rw [calls.file]
        exact persisted.renamed renames
      · rw [calls.file]
        exact persisted.kept fun renames => fails ⟨applies, renames⟩

end

/-! ## Setting the candidate -/

section
variable {goos : String}

structure EditorSaves (goos : String) (faults : Faults PersistStep) : Prop where
  marshal : faults .marshal = none
  openTemporary : faults .openTemporary = none
  chmod : faults .chmod = none
  write : faults .write = none
  sync : goos = "windows" ∨ faults .sync = none
  close : faults .close = none
  rename : faults .rename = none
  openDirectory : faults .openDirectory = none
  syncDirectory : goos = "windows" ∨ faults .syncDirectory = none

theorem persistEditorFile_spec {faults : Faults PersistStep} {payload : EditorFile} (r : Replaced EditorFile) :
    (persistEditorFile goos payload).Ends faults r fun result _ => result.isOk = true ↔ EditorSaves goos faults := by
  have early : ∀ {failure : String}, ¬EditorSaves goos faults →
      ((Except.error failure : Except String Unit).isOk = true ↔ EditorSaves goos faults) := by
    intro failure fails
    simp [Except.isOk, Except.toBool, fails]
  refine .attempt_bind (fun _ fails => early fun saves => by simp [saves.marshal] at fails) fun marshal => ?_
  refine .attempt_bind (fun _ fails => early fun saves => by simp [saves.openTemporary] at fails) fun opened => ?_
  refine .deferred (fun _ => ()) (fun result _ => result.isOk = true ↔ EditorSaves goos faults) (fun _ => rfl) ?_
  refine .attempt_bind (fun _ fails => early fun saves => by simp [saves.chmod] at fails) fun chmod => ?_
  refine .attempt_bind (fun _ fails => early fun saves => by simp [saves.write] at fails) fun write => ?_
  refine .ignoring_bind (fun _ fails reported => early fun saves => ?_) fun sync => ?_
  · simpa [fails, beq_eq_false_iff_ne.mp reported] using saves.sync
  refine .attempt_bind (fun _ fails => early fun saves => by simp [saves.close] at fails) fun close => ?_
  refine .attempt_bind (fun _ fails => early fun saves => by simp [saves.rename] at fails) fun rename => ?_
  refine .attempt_bind (fun _ fails => early fun saves => by simp [saves.openDirectory] at fails) fun found => ?_
  refine .ignoring (fun _ fails reported => early fun saves => ?_) fun synced => ?_
  · simpa [fails, beq_eq_false_iff_ne.mp reported] using saves.syncDirectory
  · exact iff_of_true rfl
      ⟨marshal, opened, chmod, write, by simpa using sync, close, rename, found, by simpa using synced⟩

theorem persistEditorLocked_spec {faults : Faults ManagerOp} {s : Managed} {candidate running : Config}
    {version : ConfigVersion} :
    (persistEditorLocked goos candidate running version).Ends faults s fun result after =>
      after.applied = s.applied ∧ after.manager = s.manager ∧ (result.isOk = true ↔
        (s.manager.persistEditor = true → EditorSaves goos fun step => faults (.editor step))) := by
  refine ends_bind.mpr (ends_look.mpr ?_)
  dsimp only
  split_ifs with persists
  · refine ends_within.mpr ((persistEditorFile_spec _).imp fun result after saved => ⟨rfl, rfl, ?_⟩)
    exact saved.trans ⟨fun saves _ => saves, fun saves => saves persists⟩
  · exact ⟨rfl, rfl, iff_of_true rfl fun persist => absurd persist persists⟩

variable [CaseMap]

structure CandidateAccepted (goos : String) (faults : Faults ManagerOp) (m : Manager) (c : Config) : Prop where
  normal : (normalizeCandidateServices c).2 = []
  valid : validate (normalizeCandidateServices c).1 = []
  saved : m.persistEditor = true → EditorSaves goos fun step => faults (.editor step)

theorem setCandidate_spec {faults : Faults ManagerOp} {s : Managed} (c : Config) :
    (setCandidate goos c).Ends faults s fun result after => ∃ errs, result = .ok errs ∧
      after.applied = s.applied ∧ (errs = [] ↔ CandidateAccepted goos faults s.manager c) ∧
      (errs = [] → after.manager =
        { s.manager with candidate := (normalizeCandidateServices c).1, validation := {} }) := by
  refine ends_bind.mpr (ends_look.mpr (ends_bind.mpr (ends_outcome.mpr ?_)))
  refine persistEditorLocked_spec.imp fun result after spec => ?_
  obtain ⟨applied, manager, saved⟩ := spec
  cases result with
  | error failure =>
    refine ⟨_, rfl, applied, iff_of_false (by simp) fun accepted => ?_, by simp⟩
    exact absurd (saved.mpr accepted.saved) (by simp [Except.isOk, Except.toBool])
  | ok =>
    refine ends_bind.mpr (ends_update.mpr (ends_pure.mpr
      ⟨_, rfl, applied, ?_, ?_⟩))
    · rw [List.append_eq_nil_iff]
      constructor
      · rintro ⟨normal, valid⟩
        exact ⟨normal, by simpa [normal] using valid, saved.mp rfl⟩
      · rintro ⟨normal, valid, -⟩
        exact ⟨normal, by simpa [normal] using valid⟩
    · intro none
      have normal := (List.append_eq_nil_iff.mp none).1
      simp [manager, normal]

end

@[reducible] def configDigest : Digest where
  checksum c := toString c.maxSessions ++ toString c.defaultDeny

end Ngfw.Config

import Ngfw.Config.Editor
import Ngfw.Proof.Config.Manager

/-! # Validated means this candidate -/

namespace Ngfw.Config
open Lib Lib.Text Domain Procedure
open EditorSection (exec)
open Digest (checksum)

section
variable [CaseMap] [Digest] {goos : String} {faults : Faults ManagerOp} {s : Managed}

def KeepsOrForgets (before after : Managed) : Prop :=
  after.manager.validation = before.manager.validation ∨ after.manager.validation = {}

section
variable (c : Config) (v : ConfigVersion)

omit [Digest] in
theorem setCandidate_validation : (setCandidate goos c).Ends faults s fun _ after => KeepsOrForgets s after := by
  refine ends_bind.mpr (ends_look.mpr (ends_bind.mpr (ends_outcome.mpr ?_)))
  refine persistEditorLocked_spec.imp fun result after ⟨_, manager, _⟩ => ?_
  cases result with
  | error failure => exact .inl (congrArg Manager.validation manager)
  | ok => exact .inr rfl

omit [Digest] in
theorem setCandidateIfValid_validation :
    (setCandidateIfValid goos c).Ends faults s fun _ after => KeepsOrForgets s after := by
  unfold setCandidateIfValid
  dsimp only
  split_ifs with normal valid
  · exact .inl rfl
  · exact .inl rfl
  · refine ends_bind.mpr (ends_look.mpr (ends_bind.mpr (ends_outcome.mpr ?_)))
    refine persistEditorLocked_spec.imp fun result after ⟨_, manager, _⟩ => ?_
    cases result with
    | error failure => exact .inl (congrArg Manager.validation manager)
    | ok => exact .inr rfl

omit [CaseMap] in
theorem syncRunning_spec :
    (syncRunning goos c v).Ends faults s fun _ after =>
      (after.manager.validation = validated c ∨ after.manager.validation = s.manager.validation) ∧
      (checksum s.manager.candidate ≠ checksum s.manager.running →
        after.manager.candidate = s.manager.candidate) := by
  refine ends_bind.mpr (ends_update.mpr (ends_bind.mpr (ends_look.mpr ?_)))
  refine persistEditorLocked_spec.imp fun result after ⟨_, manager, _⟩ => ?_
  rw [manager]
  refine ⟨?_, fun edited => if_neg edited⟩
  dsimp only
  split_ifs
  all_goals simp

omit [CaseMap] in
theorem syncRollback_validation :
    (syncRollback goos c v).Ends faults s fun _ after => after.manager.validation = validated c := by
  refine ends_bind.mpr (ends_update.mpr (ends_bind.mpr (ends_look.mpr ?_)))
  exact persistEditorLocked_spec.imp fun result after ⟨_, manager, _⟩ => congrArg Manager.validation manager

theorem activated_validation {apply : Bool} {now : Time} (call : ManagerCall) :
    (call.procedure goos apply now).Ends faults s fun result after =>
      match result with
      | .ok _ => after.manager.validation = validated after.manager.running
      | .error _ => after.manager = s.manager := by
  have activated {target : Config} {v : ConfigVersion} {activation persistence : String} {switch : Manager → Manager}
      (validates : (switch s.manager).validation = validated (switch s.manager).running) :
      (activateGeneration goos apply target v activation persistence switch).Ends faults s fun result after =>
        match result with
        | .ok _ => after.manager.validation = validated after.manager.running
        | .error _ => after.manager = s.manager := by
    refine activateGeneration_spec.imp fun result after activated => ?_
    cases activated with
    | done activates manager => exact manager ▸ validates
    | failed fails manager => exact manager
  cases call with
  | commit author comment expected =>
    simp only [ManagerCall.procedure, commitWithGeneration, ends_bind, ends_look]
    split_ifs with conflict invalid semantic
    · rfl
    · rfl
    · rfl
    · cases incrementVersion s.manager.version.version with
      | error failure => rfl
      | ok next => exact activated rfl
  | rollback author comment =>
    simp only [ManagerCall.procedure, rollbackGenerationLocked, ends_bind, ends_look]
    cases s.manager.previous with
    | none => rfl
    | some target =>
      cases incrementVersion s.manager.version.version with
      | error failure => rfl
      | ok next => exact activated rfl

omit [CaseMap] in
theorem markCandidateValidationFor_spec (valid : Bool) :
    (markCandidateValidationFor c valid).Ends faults s fun result after =>
      result = .ok true ∧ after.manager.validation = ⟨checksum c, valid, true⟩ ∨
      result = .ok false ∧ after = s := by
  unfold markCandidateValidationFor
  refine ends_bind.mpr (ends_look.mpr ?_)
  dsimp only
  split_ifs with edited
  · exact .inr ⟨rfl, rfl⟩
  · exact .inl ⟨rfl, rfl⟩

end

/-! ## What a valid result rests on -/

def Edited.Grounded (e : Edited) : Prop :=
  e.managed.manager.validation.checked = true → e.managed.manager.validation.valid = true →
    ∃ c ∈ e.endorsed, checksum c = e.managed.manager.validation.checksum

def EditorSection.Grounded : EditorSection → Prop
  | .publish _ activated => activated.validation = validated activated.running
  | .run _ => True

variable {e after : Edited}

omit [CaseMap] in
theorem Edited.Grounded.kept (grounded : e.Grounded) (kept : KeepsOrForgets e.managed after.managed)
    (endorsed : e.endorsed ⊆ after.endorsed) : after.Grounded := by
  intro checked valid
  rcases kept with same | forgotten
  · rw [same] at checked valid ⊢
    obtain ⟨c, member, digest⟩ := grounded checked valid
    exact ⟨c, endorsed member, digest⟩
  · rw [forgotten] at checked
    cases checked

omit [CaseMap] in
theorem grounded_validated {c : Config} (validation : after.managed.manager.validation = validated c)
    (endorsed : c ∈ after.endorsed) : after.Grounded := by
  intro checked valid
  rw [validation]
  exact ⟨c, endorsed, rfl⟩

theorem exec_grounded {step : EditorSection} (input : EditorInput) (sound : step.Grounded) (grounded : e.Grounded) :
    (step.exec input e).1.Grounded ∧ ∀ later ∈ (step.exec input e).2, later.Grounded := by
  cases step with
  | publish call activated =>
    refine ⟨grounded_validated ?_ List.mem_cons_self, by simp [exec]⟩
    cases call with
    | commit => exact sound
    | rollback => exact sound
  | run call =>
    cases call with
    | setCandidate c =>
      exact ⟨grounded.kept (setCandidate_validation c) (List.Subset.refl _), by simp [exec]⟩
    | setCandidateIfValid c =>
      exact ⟨grounded.kept (setCandidateIfValid_validation c) (List.Subset.refl _), by simp [exec]⟩
    | syncRunning c v =>
      refine ⟨?_, by simp [exec]⟩
      rcases (syncRunning_spec c v : (syncRunning input.goos c v).Ends input.faults e.managed _).1 with new | same
      · exact grounded_validated new List.mem_cons_self
      · exact grounded.kept (.inl same) (List.subset_cons_self c _)
    | syncRollback c v =>
      exact ⟨grounded_validated (syncRollback_validation c v) List.mem_cons_self, by simp [exec]⟩
    | markCandidateValidationFor c valid =>
      have spec : (markCandidateValidationFor c valid).Ends input.faults e.managed _ :=
        markCandidateValidationFor_spec c valid
      simp only [Procedure.Ends] at spec
      simp only [exec]
      generalize (markCandidateValidationFor c valid).run input.faults e.managed = ran at spec ⊢
      obtain ⟨result, after⟩ := ran
      rcases spec with ⟨rfl, validation⟩ | ⟨rfl, rfl⟩
      · refine ⟨fun _ passed => ?_, by simp⟩
        dsimp only at validation passed ⊢
        rw [validation] at passed ⊢
        exact ⟨c, by simp [show valid = true from passed], rfl⟩
      · exact ⟨grounded, by simp⟩
    | activate call =>
      have spec : (call.procedure input.goos input.apply input.now).Ends input.faults e.managed _ :=
        activated_validation call
      simp only [Procedure.Ends] at spec
      simp only [exec]
      generalize (call.procedure input.goos input.apply input.now).run input.faults e.managed = ran at spec ⊢
      obtain ⟨_ | _, activated⟩ := ran
      · exact ⟨grounded.kept (.inl (congrArg Manager.validation spec)) (List.Subset.refl _), by simp⟩
      · refine ⟨grounded.kept (.inl rfl) (List.Subset.refl _), fun later member => ?_⟩
        cases List.mem_singleton.mp member
        exact spec

def EditorThreads.Grounded (t : EditorThreads) : Prop :=
  t.state.Grounded ∧ ∀ step ∈ t.pending, step.Grounded

theorem grounded_step {t : EditorThreads} (move : EditorMove) (grounded : t.Grounded) : (t.step move).Grounded := by
  refine Threads.invariant_step grounded (fun call _ => ⟨grounded.1, fun step member => ?_⟩)
    fun index input first after _ _ ran => ?_
  · rcases Threads.mem_pending_start.mp member with old | new
    · exact grounded.2 step old
    · cases List.mem_singleton.mp new
      trivial
  · obtain ⟨state, fresh⟩ := exec_grounded input (grounded.2 first ran.was) grounded.1
    refine ⟨ran.state ▸ state, fun step member => ?_⟩
    rcases ran.origin step member with new | old
    · exact fresh step new
    · exact grounded.2 step old

theorem grounded_run {t : EditorThreads} (moves : List EditorMove) (grounded : t.Grounded) :
    (moves.foldl EditorThreads.step t).Grounded := by
  induction moves generalizing t with
  | nil => exact grounded
  | cons move moves ih => exact ih (grounded_step move grounded)

theorem valid_means_this_candidate {s : Managed} (unchecked : s.manager.validation = {}) (moves : List EditorMove) :
    let reached := (moves.foldl EditorThreads.step ⟨{ managed := s }, []⟩).state
    let m := reached.managed.manager
    ((candidateValidation m).1 = .valid → ∃ c ∈ reached.endorsed, checksum c = checksum m.candidate) ∧
      ∀ goos faults c v, checksum m.candidate ≠ checksum m.running →
        ((syncRunning goos c v).run faults reached.managed).2.manager.candidate = m.candidate := by
  intro reached m
  have grounded : reached.Grounded := by
    refine (grounded_run moves ⟨fun checked => ?_, by simp [Threads.pending]⟩).1
    rw [show ({ managed := s } : Edited).managed.manager.validation = {} from unchecked] at checked
    cases checked
  constructor
  · intro valid
    unfold candidateValidation at valid
    dsimp only at valid
    split_ifs at valid with current passed
    · obtain ⟨c, member, digest⟩ := grounded current.1 passed
      exact ⟨c, member, digest.trans current.2⟩
  · exact fun goos faults c v edited =>
      (syncRunning_spec c v : (syncRunning goos c v).Ends faults reached.managed _).2 edited

end

section
attribute [local instance] Text.asciiCaseMap configDigest

/-- The candidate is edited before the result for the older one is recorded, and committed by the engine. -/
def editedBeforeResult : List EditorMove :=
  [.start (.markCandidateValidationFor {} true), .start (.setCandidate { defaultDeny := true }), .run 1 {}, .run 0 {},
    .start (.syncRunning { defaultDeny := true } {}), .run 2 {}]

theorem valid_means_this_candidate_committed :
    let m : Manager := { running := {}, candidate := {} }
    let reached := (editedBeforeResult.foldl EditorThreads.step ⟨⟨{ manager := m }, []⟩, []⟩).state
    ∃ c ∈ reached.endorsed, checksum c = checksum reached.managed.manager.candidate :=
  (valid_means_this_candidate rfl editedBeforeResult).1 (by decide +kernel)

end

end Ngfw.Config

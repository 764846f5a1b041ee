import Ngfw.Config.Editor
import Ngfw.Lib.Run
import Ngfw.Proof.Config.Atomicity

/-!
# The manager over its history, restarts included

The engine's manager. Commit and rollback hold the activation lock from their first section to their last, so that only
edits of the candidate come between.
-/

namespace Ngfw.Config
open Lib Domain

structure History where
  managed : Managed
  generations : List UInt64 := []

inductive HistoryMove
  | call (input : EditorInput) (call : ManagerCall)
  | edit (candidate : Config) (validation : CandidateValidation)
  | restart

section
variable [CaseMap] {initial : Config}

def Manager.Valid (m : Manager) : Prop :=
  validate m.running = [] ∧ ∀ c ∈ m.previous, validate c = []

theorem load_valid (initially : validate initial = []) {file : File RunningFile} {m : Manager}
    (loads : load initial file = .ok m) : m.Valid := by
  cases file with
  | missing =>
    cases loads
    exact ⟨initially, by simp⟩
  | empty => cases loads
  | holds stored =>
    simp only [load] at loads
    split_ifs at loads with running previous
    cases loads
    refine ⟨not_not.mp running, fun c (found : stored.previous = some c) => ?_⟩
    simpa [found] using previous

theorem load_holds {config previous : Config} {version : ConfigVersion} (running : validate config = [])
    (before : validate previous = []) :
    load initial (.holds ⟨config, version, some previous⟩) =
      .ok { running := config, candidate := config, version, previous := some previous } := by
  simp [load, running, before]

theorem ManagerCall.target_valid {call : ManagerCall} {m : Manager} (accepted : call.Accepted m) (valid : m.Valid)
    {target : Config} (found : call.target m = some target) : validate target = [] := by
  cases call with
  | commit =>
    cases found
    exact accepted.2.1
  | rollback => exact valid.2 target found

variable [Digest] {h : History}

def History.step (initial : Config) (h : History) : HistoryMove → History
  | .call input call =>
    match (call.procedure input.goos input.apply input.now).run input.faults h.managed with
    | (.ok v, after) => ⟨after, v.version :: h.generations⟩
    | (.error _, after) => { h with managed := after }
  | .edit candidate validation => { h with managed.manager := { h.managed.manager with candidate, validation } }
  | .restart => match load initial h.managed.file.file with
    | .ok m => { h with managed.manager := m }
    | .error _ => h

/-- A restart brings back what runs, or the next generation, which a failed call has left in the file and from which a
rollback returns to what runs. -/
def History.Recovers (initial : Config) (h : History) : Prop :=
  ∃ m, load initial h.managed.file.file = .ok m ∧
    (Runs ⟨m.running, m.version, m.previous⟩ h.managed.manager ∨
      m.version.version.toNat = h.managed.manager.version.version.toNat + 1 ∧
        m.previous = some h.managed.manager.running)

structure History.Sound (initial : Config) (h : History) : Prop where
  valid : h.managed.manager.Valid
  recovers : h.Recovers initial
  ordered : h.generations.Pairwise (· > ·)
  counted : ∀ generation ∈ h.generations, generation ≤ h.managed.manager.version.version

theorem History.Sound.call (sound : h.Sound initial) (input : EditorInput) (call : ManagerCall) :
    (h.step initial (.call input call)).Sound initial := by
  have spec : (call.procedure input.goos input.apply input.now).Ends input.faults h.managed _ := managerCall_spec call
  simp only [Procedure.Ends, step] at spec ⊢
  generalize (call.procedure input.goos input.apply input.now).run input.faults h.managed = ran at spec ⊢
  obtain ⟨result, after⟩ := ran
  dsimp only at spec
  rcases spec with ⟨-, ⟨failure, rfl⟩, rfl⟩ | ⟨file, switch, accepted, written, runs, activated⟩
  · exact sound
  obtain ⟨target, next, previous⟩ := file_spec written
  have number := toNat_next (accepted_room accepted)
  have running : validate file.config = [] := ManagerCall.target_valid accepted sound.valid target
  cases activated with
  | done activates manager stored =>
    rw [← manager] at runs
    have later : h.managed.manager.version.version < file.version.version :=
      UInt64.lt_iff_toNat_lt.mpr (by rw [next, number]; exact Nat.lt_succ_self _)
    refine ⟨⟨runs.running ▸ running, ?_⟩,
      ⟨_, stored ▸ load_holds running sound.valid.1, .inl ?_⟩, ?_, ?_⟩
    · rw [runs.previous, previous]
      rintro c ⟨⟩
      exact sound.valid.1
    · exact ⟨runs.running, runs.version, runs.previous.trans previous⟩
    · exact List.pairwise_cons.mpr
        ⟨fun generation found => UInt64.lt_of_le_of_lt (sound.counted generation found) later, sound.ordered⟩
    · rw [runs.version]
      intro generation found
      rcases List.mem_cons.mp found with rfl | old
      · exact UInt64.le_refl _
      · exact UInt64.le_trans (sound.counted generation old) (UInt64.le_of_lt later)
  | failed fails manager late early =>
    refine ⟨manager ▸ sound.valid, ?_, sound.ordered, manager ▸ sound.counted⟩
    by_cases renamed : Applies input.apply input.faults ∧ Renames input.goos (persistFaults input.faults)
    · -- the file is one generation ahead of the manager
      refine ⟨_, late renamed.1 renamed.2 ▸ load_holds running sound.valid.1, .inr ⟨?_, ?_⟩⟩
      · rw [manager, next, number]
      · rw [manager]
    · unfold Recovers
      rw [early renamed, manager]
      exact sound.recovers

theorem History.Sound.restart (initially : validate initial = []) (sound : h.Sound initial) :
    (h.step initial .restart).Sound initial := by
  obtain ⟨m, loads, same⟩ := sound.recovers
  have restarted : h.step initial .restart = { h with managed.manager := m } := by simp only [step, loads]
  rw [restarted]
  refine ⟨load_valid initially loads, ⟨m, loads, .inl ⟨rfl, rfl, rfl⟩⟩, sound.ordered,
    fun generation found => ?_⟩
  have before := UInt64.le_iff_toNat_le.mp (sound.counted generation found)
  rw [UInt64.le_iff_toNat_le]
  rcases same with same | ⟨next, -⟩
  · change generation.toNat ≤ m.version.version.toNat
    rwa [← show h.managed.manager.version = m.version from same.version]
  · exact before.trans (next ▸ Nat.le_succ _)

def History.Initial (initial : Config) (h : History) : Prop :=
  ∃ m file, load initial file = .ok m ∧ h = { managed := { manager := m, file := { file } } }

/-- Whatever fails and whenever the process restarts: what runs is valid, a restart brings it back or completes a call
that failed, and no two calls succeed with one generation. -/
theorem manager_history_sound (initially : validate initial = [])
    (reached : Reachable (History.Initial initial) (fun _ _ => True) (History.step initial) h) : h.Sound initial := by
  refine reached.invariant ?_ ?_
  · rintro _ ⟨m, file, loads, rfl⟩
    exact ⟨load_valid initially loads, ⟨m, loads, .inl ⟨rfl, rfl, rfl⟩⟩, .nil, by simp⟩
  · intro h move sound _
    cases move with
    | call input call => exact sound.call input call
    | edit candidate validation =>
      obtain ⟨m, loads, same⟩ := sound.recovers
      refine ⟨sound.valid, ⟨m, loads, same.imp_left fun same => ?_⟩, sound.ordered, sound.counted⟩
      exact ⟨same.running, same.version, same.previous⟩
    | restart => exact sound.restart initially

end

section
attribute [local instance] Text.asciiCaseMap configDigest

/-- A commit that fails after the rename, a restart, and the rollback of what the restart has brought. -/
def recoveredHistory : List HistoryMove :=
  [.edit editedConfig {}, .call { faults := chmodFails } (.commit "admin" "more sessions" 0), .restart,
    .call {} (.rollback "admin" "fewer sessions")]

def newHistory : History where
  managed.manager := { running := defaults, candidate := defaults }

theorem manager_history_sound_recovered :
    (recoveredHistory.foldl (History.step defaults) newHistory).Sound defaults ∧
      (recoveredHistory.foldl (History.step defaults) newHistory).generations = [2] :=
  ⟨manager_history_sound (by decide +kernel) ((Reachable.start ⟨_, .missing, rfl, rfl⟩).run
    (allowed_of_forall (fun _ _ => trivial) _ _)), by decide +kernel⟩

end

end Ngfw.Config

import Ngfw.Config.Manager
import Ngfw.Lib.Threads

/-!
# Editing and validating the candidate

A method of the manager is one critical section, but for commit and rollback: these read the manager in one section,
activate without the lock, and publish in another.
-/

namespace Ngfw.Config
open Lib Lib.Text Domain

inductive ValidationState
  | valid
  | invalid
  | stale
  | notRun
  deriving DecidableEq

section
variable [CaseMap] [Digest]

def setCandidateIfValid (goos : String) (c : Config) : ManagerProcedure Failure (List String) := do
  let normalized := normalizeCandidateServices c
  if normalized.2 ≠ [] then return normalized.2
  else if validate normalized.1 ≠ [] then return validate normalized.1
  else
    let m ← .look (·.manager)
    match ← (persistEditorLocked goos normalized.1 m.running m.version).outcome with
    | .error failure => return ["persist candidate: " ++ failure]
    | .ok () =>
      .update fun s => { s with manager := { s.manager with candidate := normalized.1, validation := {} } }
      return []

def syncRunning (goos : String) (c : Config) (v : ConfigVersion) : ManagerProcedure String Unit := do
  .update fun s =>
    let m := s.manager
    let candidate := if Digest.checksum m.candidate = Digest.checksum m.running then c else m.candidate
    let validation := if Digest.checksum candidate = Digest.checksum c then validated c else m.validation
    { s with manager := { m with running := c, version := v, candidate, validation } }
  let m ← .look (·.manager)
  persistEditorLocked goos m.candidate m.running m.version

def syncRollback (goos : String) (c : Config) (v : ConfigVersion) : ManagerProcedure String Unit := do
  .update fun s =>
    { s with manager := { s.manager with running := c, candidate := c, version := v, validation := validated c } }
  let m ← .look (·.manager)
  persistEditorLocked goos m.candidate m.running m.version

def markCandidateValidationFor (candidate : Config) (valid : Bool) : ManagerProcedure String Bool := do
  let m ← .look (·.manager)
  if Digest.checksum m.candidate ≠ Digest.checksum candidate then return false
  else
    .update fun s => { s with manager := { s.manager with validation := ⟨Digest.checksum candidate, valid, true⟩ } }
    return true

def candidateValidation (m : Manager) : ValidationState × String × String × Bool :=
  let candidate := Digest.checksum m.candidate
  let checked := m.validation.checksum
  if m.validation.checked ∧ checked = candidate then
    if m.validation.valid then (.valid, candidate, checked, true) else (.invalid, candidate, checked, false)
  else if validate m.candidate ≠ [] then (.invalid, candidate, checked, false)
  else if m.validation.checked then (.stale, candidate, checked, false)
  else (.notRun, candidate, checked, false)

/-! ## Calls that interleave -/

inductive EditorCall
  | setCandidate (c : Config)
  | setCandidateIfValid (c : Config)
  | syncRunning (c : Config) (v : ConfigVersion)
  | syncRollback (c : Config) (v : ConfigVersion)
  | markCandidateValidationFor (c : Config) (valid : Bool)
  | activate (call : ManagerCall)

inductive EditorSection
  | run (call : EditorCall)
  | publish (call : ManagerCall) (activated : Manager)

structure EditorInput where
  goos : String := "linux"
  apply : Bool := true
  now : Time := 0
  faults : Faults ManagerOp := fun _ => none

/-- `endorsed` are the configurations recorded as valid, committed, rolled back to or reported as running. -/
structure Edited where
  managed : Managed
  endorsed : List Config := []

def ManagerCall.publish (activated m : Manager) : ManagerCall → Manager
  | commit _ _ _ =>
    { m with
      previous := activated.previous, running := activated.running, version := activated.version
      validation := activated.validation }
  | rollback _ _ =>
    { m with
      running := activated.running, candidate := activated.candidate, previous := activated.previous
      version := activated.version, validation := activated.validation }

def EditorSection.exec (step : EditorSection) (input : EditorInput) (e : Edited) : Edited × List EditorSection :=
  match step with
  | .run (.setCandidate c) => ({ e with managed := ((setCandidate input.goos c).run input.faults e.managed).2 }, [])
  | .run (.setCandidateIfValid c) =>
    ({ e with managed := ((setCandidateIfValid input.goos c).run input.faults e.managed).2 }, [])
  | .run (.syncRunning c v) => (⟨((syncRunning input.goos c v).run input.faults e.managed).2, c :: e.endorsed⟩, [])
  | .run (.syncRollback c v) =>
    (⟨((syncRollback input.goos c v).run input.faults e.managed).2, c :: e.endorsed⟩, [])
  | .run (.markCandidateValidationFor c valid) =>
    match (markCandidateValidationFor c valid).run input.faults e.managed with
    | (.ok true, after) => (⟨after, if valid then c :: e.endorsed else e.endorsed⟩, [])
    | (_, after) => ({ e with managed := after }, [])
  | .run (.activate call) =>
    match (call.procedure input.goos input.apply input.now).run input.faults e.managed with
    | (.ok _, after) =>
      -- running.json is written before the lock is taken again
      ({ e with managed := { after with manager := e.managed.manager } }, [.publish call after.manager])
    | (.error _, after) => ({ e with managed := after }, [])
  | .publish call activated =>
    (⟨{ e.managed with manager := call.publish activated e.managed.manager }, activated.running :: e.endorsed⟩, [])

abbrev EditorMove := Move EditorCall EditorInput

abbrev EditorThreads := Threads Edited EditorSection

def EditorThreads.step (t : EditorThreads) (move : EditorMove) : EditorThreads :=
  Threads.step (fun call => [.run call]) EditorSection.exec t move

end

end Ngfw.Config

import Ngfw.Lib.File
import Ngfw.Config.Validator

/-!
# The configuration manager

The running configuration with its version, the candidate that is edited, and the previous configuration a rollback
returns to. Running is durable in running.json; the candidate of an editor is durable in candidate.json.
-/

namespace Ngfw.Config
open Lib Lib.Text Domain

structure ConfigVersion where
  version : UInt64 := 0
  author : String := ""
  timestamp : Time := 0
  comment : String := ""
  checksum : String := ""
  deriving DecidableEq

class Digest where
  checksum : Config → String

structure CandidateValidation where
  checksum : String := ""
  valid : Bool := false
  checked : Bool := false
  deriving DecidableEq

structure Manager where
  running : Config
  candidate : Config
  version : ConfigVersion := {}
  previous : Option Config := none
  validation : CandidateValidation := {}
  persistEditor : Bool := false
  deriving DecidableEq

structure RunningFile where
  config : Config
  version : ConfigVersion
  previous : Option Config
  deriving DecidableEq

structure EditorFile where
  running : Config
  version : ConfigVersion
  candidate : Config
  deriving DecidableEq

structure Managed where
  manager : Manager
  file : Replaced RunningFile := {}
  editor : Replaced EditorFile := {}
  applied : List (Config × UInt64) := []
  deriving DecidableEq

structure Failure where
  version : ConfigVersion
  err : String
  deriving DecidableEq

/-! ## The files -/

inductive PersistStep
  | marshal
  | openTemporary
  | write
  | sync
  | close
  | rename
  | openDirectory
  | syncDirectory
  | chmod
  | removeTemporary
  deriving DecidableEq

def persist (goos : String) (payload : RunningFile) : Procedure PersistStep (Replaced RunningFile) String Unit := do
  .attempt .marshal id
  .attempt .openTemporary .create
  .deferred (.attempt .removeTemporary .removeTemporary) do
    .attempt .write (.write payload)
    .ignoring (goos == "windows") .sync
    .attempt .close id
    .attempt .rename .rename
    match ← (Procedure.attempt .openDirectory id).outcome with
    | .error _ => pure ()
    | .ok () => .ignoring (goos == "windows") .syncDirectory
    .attempt .chmod id

def persistEditorFile (goos : String) (payload : EditorFile) :
    Procedure PersistStep (Replaced EditorFile) String Unit := do
  .attempt .marshal id
  .attempt .openTemporary .create
  .deferred (.attempt .removeTemporary .removeTemporary) do
    .attempt .chmod id
    .attempt .write (.write payload)
    .ignoring (goos == "windows") .sync
    .attempt .close id
    .attempt .rename .rename
    .attempt .openDirectory id
    .ignoring (goos == "windows") .syncDirectory

def load [CaseMap] (initial : Config) (file : File RunningFile) : Except String Manager :=
  match file with
  | .missing => .ok { running := initial, candidate := initial }
  | .empty => .error "unexpected end of JSON input"
  | .holds stored =>
    if validate stored.config ≠ [] then .error "persisted running configuration is invalid"
    else if stored.previous.any (validate · ≠ []) then .error "persisted previous configuration is invalid"
    else .ok
      { running := stored.config, candidate := stored.config, version := stored.version
        previous := stored.previous }

def incrementVersion (current : UInt64) : Except String UInt64 :=
  if current = UInt64.ofNat (2 ^ 64 - 1) then .error "configuration generation exhausted" else .ok (current + 1)

/-! ## Activation -/

inductive ManagerOp
  | apply
  | restore
  | persist (step : PersistStep)
  | editor (step : PersistStep)
  deriving DecidableEq

abbrev ManagerProcedure := Procedure ManagerOp Managed

def rollbackTarget (m : Manager) : Option Config := m.previous

/-- What the callback has done when it fails is not known, so the call counts either way. -/
def callApply (site : ManagerOp) (value : Config) (generation : UInt64) : ManagerProcedure String Unit := do
  .update fun s => { s with applied := (value, generation) :: s.applied }
  .attempt site id

def restoreAppliedGeneration (apply : Bool) (previous : Config) (current : ConfigVersion) (cause : String) :
    ManagerProcedure Failure Unit :=
  if !apply then .fail ⟨current, cause⟩
  else do
    (callApply .restore previous current.version).rescue fun failure =>
      .fail ⟨current, cause ++ "\nrestore previous applied configuration generation " ++
        decimal current.version.toNat ++ ": " ++ failure⟩
    .fail ⟨current, cause⟩

def activateGeneration (goos : String) (apply : Bool) (target : Config) (v : ConfigVersion)
    (activation persistence : String) (switch : Manager → Manager) : ManagerProcedure Failure ConfigVersion := do
  let m ← .look (·.manager)
  (if apply then callApply .apply target v.version else pure ()).rescue fun failure =>
    restoreAppliedGeneration apply m.running m.version (activation ++ failure)
  let file : RunningFile := ⟨target, v, some m.running⟩
  ((persist goos file).within .persist Managed.file fun file s => { s with file := file }).rescue fun failure =>
    restoreAppliedGeneration apply m.running m.version (if apply then persistence ++ failure else failure)
  .update fun s => { s with manager := switch s.manager }
  return v

section
variable [CaseMap] [Digest]

def validated (c : Config) : CandidateValidation :=
  { checksum := Digest.checksum c, valid := true, checked := true }

def semanticErrors (c : Config) : List String :=
  exactDuplicatePolicyErrorsForConfig c ++ m3UnreachablePolicyErrors c

def commitWithGeneration (goos : String) (apply : Bool) (author comment : String) (expected : UInt64) (now : Time) :
    ManagerProcedure Failure ConfigVersion := do
  let m ← .look (·.manager)
  let candidate := m.candidate
  let old := m.running
  if expected ≠ m.version.version then
    .fail ⟨m.version, "config version conflict: expected " ++ decimal expected.toNat ++ ", running " ++
      decimal m.version.version.toNat⟩
  else if validate candidate ≠ [] then
    .fail ⟨m.version, "invalid candidate: " ++ join "; " (validate candidate)⟩
  else if semanticErrors candidate ≠ [] then
    .fail ⟨m.version, "invalid candidate: " ++ join "; " (semanticErrors candidate)⟩
  else match incrementVersion m.version.version with
    | .error failure => .fail ⟨m.version, failure⟩
    | .ok next =>
      let v : ConfigVersion :=
        { version := next, author := author, timestamp := now, comment := comment
          checksum := Digest.checksum candidate }
      activateGeneration goos apply candidate v "activation failed: " "persist running configuration: " fun m =>
        { m with previous := some old, running := candidate, version := v, validation := validated candidate }

def rollbackGenerationLocked (goos : String) (apply : Bool) (author comment : String) (now : Time) :
    ManagerProcedure Failure ConfigVersion := do
  let m ← .look (·.manager)
  match m.previous with
  | none => .fail ⟨m.version, "no previous configuration"⟩
  | some target =>
    let old := m.running
    match incrementVersion m.version.version with
    | .error failure => .fail ⟨m.version, failure⟩
    | .ok next =>
      let v : ConfigVersion :=
        { version := next, author := author, timestamp := now, comment := comment
          checksum := Digest.checksum target }
      activateGeneration goos apply target v "rollback activation failed: " "persist rollback configuration: "
        fun m =>
          { m with
            running := target, candidate := target, previous := some old, version := v
            validation := validated target }

inductive ManagerCall
  | commit (author comment : String) (expected : UInt64)
  | rollback (author comment : String)

def ManagerCall.procedure (goos : String) (apply : Bool) (now : Time) :
    ManagerCall → ManagerProcedure Failure ConfigVersion
  | commit author comment expected => commitWithGeneration goos apply author comment expected now
  | rollback author comment => rollbackGenerationLocked goos apply author comment now

def canonicalPolicy (policy : SecurityPolicy) (services : List String) : SecurityPolicy :=
  { policy with
    services := services
    sourceZones := canonicalStrings policy.sourceZones
    destinationZones := canonicalStrings policy.destinationZones
    sourceAddresses := canonicalAddresses policy.sourceAddresses
    destinationAddresses := canonicalAddresses policy.destinationAddresses
    applications := canonicalStrings policy.applications }

def normalizeCandidateServices (c : Config) : Config × List String :=
  ({ c with policies := c.policies.map fun policy => match canonicalServiceList policy.services with
      | .ok services => canonicalPolicy policy services
      | .error _ => policy },
    c.policies.filterMap fun policy => match canonicalServiceList policy.services with
      | .ok _ => none
      | .error failure => some ("policy " ++ policy.id ++ ": " ++ failure))

def persistEditorLocked (goos : String) (candidate running : Config) (version : ConfigVersion) :
    ManagerProcedure String Unit := do
  if ← .look (·.manager.persistEditor) then
    (persistEditorFile goos ⟨running, version, candidate⟩).within .editor Managed.editor
      fun editor s => { s with editor := editor }
  else pure ()

def setCandidate (goos : String) (c : Config) : ManagerProcedure Failure (List String) := do
  let normalized := normalizeCandidateServices c
  let c := if normalized.2.isEmpty then normalized.1 else c
  let m ← .look (·.manager)
  match ← (persistEditorLocked goos c m.running m.version).outcome with
  | .error failure => return normalized.2 ++ ["persist candidate: " ++ failure]
  | .ok () =>
    .update fun s => { s with manager := { s.manager with candidate := c, validation := {} } }
    return normalized.2 ++ validate c

end

end Ngfw.Config

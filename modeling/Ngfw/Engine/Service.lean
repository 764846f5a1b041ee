import Ngfw.Config.Manager
import Ngfw.Connectivity.Inspection
import Ngfw.Engine.Runtime

/-!
# The management service of the engine

CommitConfig and RollbackConfig: the manager publishes a configuration, then the runtime takes its program and the
hooks follow. A step that fails after the publication is answered with a rollback of the manager, which puts the
configuration before it back under a newer version.
-/

namespace Ngfw.Engine
open Lib Lib.Text Domain Config Connectivity Session

inductive ServiceEvent
  | published (config : Config) (version : ConfigVersion)
  | restored (version : ConfigVersion)
  deriving DecidableEq

/-- The service; `events` remembers what the calls have reached, the last first. -/
structure Service where
  config : Managed
  runtime : Option Runtime := none
  receipts : GoMap String ConfigVersion := ∅
  events : List ServiceEvent := []

structure Hooks where
  apply : Bool := true
  beforeActivate : Bool := false
  afterActivate : Bool := false
  finalizeActivation : Bool := false

/-- What a call takes from outside: the platform, the clock at the publication, at the activation and at a
restoration, and the receipt that a full table loses. -/
structure ServiceInput where
  goos : String := "linux"
  now : Time := 0
  clock : Time := 0
  restoredAt : Time := 0
  victim : String := ""

inductive ServiceOp
  | beforeActivate
  | manager (op : ManagerOp)
  | afterActivate
  | finalize
  | restore (op : ManagerOp)
  | restoreAfterActivate
  | restoreFinalize
  deriving DecidableEq

abbrev ServiceProcedure := Procedure ServiceOp Service

structure ActivationTexts where
  reason : String
  compileFailure : String
  activationFailure : String
  hookFailure : String
  finalizeFailure : String
  finalize : String

def commitTexts : ActivationTexts where
  reason := "configuration generation changed"
  compileFailure := "restore after runtime activation failure"
  activationFailure := "restore after runtime activation failure"
  hookFailure := "restore after inspection runtime activation failure"
  finalizeFailure := "restore after activation finalization failure"
  finalize := "finalize activation: "

def rollbackTexts : ActivationTexts where
  reason := "configuration rollback"
  compileFailure := "restore after rollback compile failure"
  activationFailure := "restore after rollback activation failure"
  hookFailure := "restore after rollback inspection runtime failure"
  finalizeFailure := "restore after rollback finalization failure"
  finalize := "finalize rollback activation: "

def onManager {Value : Type} (name : ManagerOp → ServiceOp) (p : ManagerProcedure Failure Value) :
    ServiceProcedure Failure Value :=
  p.within name Service.config fun config s => { s with config := config }

def callHook (wired : Bool) (op : ServiceOp) : ServiceProcedure String Unit :=
  if wired then .attempt op id else pure ()

def reached (event : ServiceEvent) : ServiceProcedure Failure Unit :=
  .update fun s => { s with events := event :: s.events }

section
variable [CaseMap] [Digest]

def compileRuntimeProgram (c : Config) (generation : UInt64) : Except String Program :=
  compileForCapabilities c generation ⟨true, true⟩

def activateRuntime (r : Runtime) (program : Program) (generation : UInt64) (reason : String) (clock : Time) :
    ServiceProcedure String Unit := do
  let activated := r.activate program generation reason clock
  .update fun s => { s with runtime := some activated.1 }
  .ofExcept activated.2

def restoreAfterActivationFailure (input : ServiceInput) (author comment : String) :
    ServiceProcedure Failure ConfigVersion := do
  let restored ← onManager .restore (rollbackGenerationLocked input.goos true author comment input.restoredAt)
  let s ← .look id
  match s.runtime with
  | none => return restored
  | some r => match compileRuntimeProgram s.config.manager.running restored.version with
    | .error failure => .fail ⟨restored, failure⟩
    | .ok program =>
      (activateRuntime r program restored.version comment input.clock).mapError (Failure.mk restored)
      return restored

def finishRestoredActivation (hooks : Hooks) (lifecycle : Bool) : ServiceProcedure String Unit := do
  (callHook (lifecycle && hooks.afterActivate) .restoreAfterActivate).mapError
    ("restore inspection runtime lifecycle: " ++ ·)
  (callHook hooks.finalizeActivation .restoreFinalize).mapError ("finalize restored activation: " ++ ·)

def restorePublished (hooks : Hooks) (input : ServiceInput) (author comment : String) (lifecycle : Bool) :
    ServiceProcedure Failure ConfigVersion := do
  let restored ← restoreAfterActivationFailure input author comment
  (finishRestoredActivation hooks lifecycle).mapError (Failure.mk restored)
  reached (.restored restored)
  return restored

def restoreUnpublished (hooks : Hooks) (input : ServiceInput) (author comment : String) (version : ConfigVersion)
    (cause : String) : ServiceProcedure Failure Unit := do
  let restored ← (restorePublished hooks input author comment false).rescue fun failure =>
    .fail ⟨version, cause ++ "\n" ++ failure.err⟩
  .fail ⟨restored, cause⟩

def recoverPublishedFailure (hooks : Hooks) (input : ServiceInput) (author comment cause : String) :
    ServiceProcedure Failure Unit := do
  let restored ← (restorePublished hooks input author comment true).rescue fun failure =>
    .fail ⟨failure.version, cause ++ "\n" ++ failure.err⟩
  .fail ⟨restored, cause⟩

def publishRuntime (hooks : Hooks) (input : ServiceInput) (texts : ActivationTexts) (author : String)
    (version : ConfigVersion) (program : Except String Program) : ServiceProcedure Failure Unit := do
  match ← .look (·.runtime) with
  | none => pure ()
  | some r => match program with
    | .error failure => restoreUnpublished hooks input author texts.compileFailure version failure
    | .ok program =>
      (activateRuntime r program version.version texts.reason input.clock).rescue fun failure =>
        restoreUnpublished hooks input author texts.activationFailure version failure

def activatePublished (hooks : Hooks) (input : ServiceInput) (texts : ActivationTexts) (author : String)
    (version : ConfigVersion) (program : Except String Program) : ServiceProcedure Failure Unit := do
  publishRuntime hooks input texts author version program
  (callHook hooks.afterActivate .afterActivate).rescue fun failure =>
    recoverPublishedFailure hooks input author texts.hookFailure failure
  (callHook hooks.finalizeActivation .finalize).rescue fun failure =>
    recoverPublishedFailure hooks input author texts.finalizeFailure (texts.finalize ++ failure)

def finalizeFailed (hooks : Hooks) (failure : Failure) : ServiceProcedure Failure ConfigVersion := do
  (callHook hooks.finalizeActivation .finalize).rescue fun finalizeErr =>
    .fail { failure with err := failure.err ++ "\n" ++ finalizeErr }
  .fail failure

def receipt (s : Service) (operationID : String) : Option ConfigVersion :=
  if operationID = "" then none else s.receipts.lookup operationID

def keepReceipt (operationID victim : String) (version : ConfigVersion) (s : Service) : Service :=
  if operationID = "" then s
  else
    let kept := if 1024 ≤ s.receipts.keys.length then s.receipts.erase victim else s.receipts
    { s with receipts := kept.insert operationID version }

def publish (hooks : Hooks) (input : ServiceInput) (texts : ActivationTexts) (author operationID : String)
    (call : ManagerCall) (program : Config → ConfigVersion → Except String Program) :
    ServiceProcedure Failure ConfigVersion := do
  let version ← (onManager .manager (call.procedure input.goos true input.now)).rescue (finalizeFailed hooks)
  let running ← .look (·.config.manager.running)
  reached (.published running version)
  activatePublished hooks input texts author version (program running version)
  .update (keepReceipt operationID input.victim version)
  return version

def maxVersion : UInt64 := UInt64.ofNat (2 ^ 64 - 1)

def precompile (runtime : Option Runtime) (desired : Config) (expected : UInt64) : Except String Unit :=
  if runtime.isNone then .ok ()
  else if expected = maxVersion then .error "policy generation exhausted"
  else (compileRuntimeProgram desired (expected + 1)).map fun _ => ()

def preflight (hooks : Hooks) (exhausted : Bool) (text : String) : ServiceProcedure String Unit :=
  if !hooks.beforeActivate then pure ()
  else if exhausted then .fail "policy generation exhausted"
  else (callHook true .beforeActivate).mapError (text ++ ·)

def commitConfig (hooks : Hooks) (input : ServiceInput) (desired : Config) (expected : UInt64)
    (author comment operationID : String) : ServiceProcedure Failure ConfigVersion := do
  let s ← .look id
  let current := s.config.manager.version
  .require (hooks.apply = true) ⟨{}, "privileged activation unavailable"⟩
  match receipt s operationID with
  | some version => return version
  | none =>
    let duplicates := exactDuplicatePolicyErrorsForConfig desired
    .require (duplicates = []) ⟨current, join "; " duplicates⟩
    let unreachable := m3UnreachablePolicyErrors desired
    .require (unreachable = []) ⟨current, join "; " unreachable⟩
    .require (validate desired = []) ⟨current, "invalid candidate: " ++ join "; " (validate desired)⟩
    let errs ← onManager .manager (setCandidate input.goos desired)
    .require (errs = []) ⟨current, "invalid candidate"⟩
    .ofExcept ((precompile s.runtime desired expected).mapError (Failure.mk current))
    (preflight hooks (expected = maxVersion) "inspection activation preflight: ").mapError (Failure.mk current)
    publish hooks input commitTexts author operationID (.commit author comment expected) fun _ version =>
      (compileRuntimeProgram desired (expected + 1)).map fun program => { program with generation := version.version }

def rollbackConfig (hooks : Hooks) (input : ServiceInput) (author comment operationID : String) :
    ServiceProcedure Failure ConfigVersion := do
  let s ← .look id
  let current := s.config.manager.version
  .require (hooks.apply = true) ⟨{}, "privileged activation unavailable"⟩
  match receipt s operationID with
  | some version => return version
  | none =>
    .require (hooks.beforeActivate = true → current.version ≠ maxVersion →
      rollbackTarget s.config.manager ≠ none)
      ⟨current, "no previous configuration"⟩
    (preflight hooks (current.version = maxVersion) "inspection rollback preflight: ").mapError (Failure.mk current)
    publish hooks input rollbackTexts author operationID (.rollback author comment) fun running version =>
      compileRuntimeProgram running version.version

inductive ServiceCall
  | commit (desired : Config) (expected : UInt64) (author comment operationID : String)
  | rollback (author comment operationID : String)

def ServiceCall.procedure (hooks : Hooks) (input : ServiceInput) :
    ServiceCall → ServiceProcedure Failure ConfigVersion
  | commit desired expected author comment operationID =>
    commitConfig hooks input desired expected author comment operationID
  | rollback author comment operationID => rollbackConfig hooks input author comment operationID

end

end Ngfw.Engine

import Ngfw.Lib.Threads
import Ngfw.Config.Validator
import Ngfw.Domain.RequestGate

/-!
# The proxy's heartbeat

The engine describes to the proxy what it has to serve, and keeps the last heartbeat the proxy sent for that
description. The description is read without the lock that guards the heartbeat, in several steps, so the generation
may switch and a preparation may start or end at any point of a SyncProxy.
-/

namespace Ngfw.Engine
open Lib Lib.Text Domain Config

def gateHeartbeatTTL : Duration := 5 * second

inductive SyncError
  | malformed
  | engineDown
  | staleGeneration
  | other (text : String)
  deriving DecidableEq

structure GateKey where
  generation : UInt64
  preparationID : String
  deriving DecidableEq

/-- A heartbeat the engine has stored, the time it stored with it, and what was current at that moment. -/
structure StoredHeartbeat where
  beat : RequestGateHeartbeat
  time : Time
  current : GateKey
  deriving DecidableEq

/-- The service with what it reads around it; it has a runtime and reads a running configuration. `sent` are the
heartbeats that came to read a descriptor, `replies` the answers they got and `stored` the heartbeats stored so far,
the newest in front. -/
structure GateHealth where
  engineInstance : Except String String
  generation : UInt64
  running : Config × UInt64
  interceptionReady : UInt64 → Bool := fun _ => false
  activationArtifacts : UInt64 → RequestGateArtifacts := fun _ => {}
  clock : Time := 0
  preparation : Option RequestGateRuntime := none
  heartbeat : RequestGateHeartbeat := {}
  heartbeatAt : Option Time := none
  sent : List RequestGateHeartbeat := []
  stored : List StoredHeartbeat := []
  replies : List (Except SyncError RequestGateRuntime) := []

inductive GateSection
  -- RuntimeDescriptor, then the rest of SyncProxy
  | prepared (beat : RequestGateHeartbeat)
  | attempt (beat : RequestGateHeartbeat) (engine : String) (remaining : Nat)
  | runningConfig (beat : RequestGateHeartbeat) (engine : String) (generation : UInt64) (remaining : Nat)
  | confirm (beat : RequestGateHeartbeat) (engine : String) (generation : UInt64) (value : Config) (remaining : Nat)
  | interception (beat : RequestGateHeartbeat) (runtime : RequestGateRuntime) (remaining : Nat)
  | artifacts (beat : RequestGateHeartbeat) (runtime : RequestGateRuntime) (remaining : Nat)
  | reconfirm (beat : RequestGateHeartbeat) (runtime : RequestGateRuntime) (remaining : Nat)
  | gateTime (beat : RequestGateHeartbeat) (runtime : RequestGateRuntime)
  | store (beat : RequestGateHeartbeat) (runtime : RequestGateRuntime) (now : Time)
  -- PrepareGateRuntime
  | prepare (descriptor : RequestGateRuntime)
  | poll (descriptor : RequestGateRuntime)
  | complete
  -- what happens around the service
  | activate (generation : UInt64)
  | commit (value : Config) (version : UInt64)
  | kernel (ready : UInt64 → Bool) (artifacts : UInt64 → RequestGateArtifacts)
  | elapse (time : Nat)

inductive GateEntry
  | syncProxy (beat : RequestGateHeartbeat)
  | prepareGateRuntime (value : Config) (generation : UInt64) (nonce : Except String String)
  | completeGatePreparation
  | activate (generation : UInt64)
  | commit (value : Config) (version : UInt64)
  | kernel (ready : UInt64 → Bool) (artifacts : UInt64 → RequestGateArtifacts)
  | elapse (time : Nat)

structure GateInput where
  cancelled : Option String := none
  timedOut : Bool := false

def gateRequiresCA (value : Config) : Bool :=
  usesM4 value && value.policies.any fun policy =>
    policy.enabled && policy.action = .allow && value.profiles.any fun profile =>
      profile.id = policy.securityProfileID && profile.requestGate.any (·.enabled) && profile.tlsMode = .decrypt

def validHash (value : String) : Bool :=
  value.utf8ByteSize = 64 ∧ value.toList.all fun c =>
    '0' ≤ c ∧ c ≤ '9' ∨ 'a' ≤ c ∧ c ≤ 'f' ∨ 'A' ≤ c ∧ c ≤ 'F'

def validPreparedArtifacts (artifacts : RequestGateArtifacts) (runtime : RequestGateRuntime) : Bool :=
  artifacts.rulesetID = runtime.config.rulesetID ∧ validHash artifacts.rulesetHash ∧
    validHash artifacts.workerConfigHash ∧ (!runtime.requiresCA ∨ validHash artifacts.caFingerprint)

/-! ## What SyncProxy checks -/

def wellFormed (beat : RequestGateHeartbeat) : Bool :=
  beat.artifacts.rulesetID.utf8ByteSize ≤ 128 ∧ beat.artifacts.rulesetHash.utf8ByteSize ≤ 64 ∧
    beat.artifacts.workerConfigHash.utf8ByteSize ≤ 64 ∧ beat.artifacts.caFingerprint.utf8ByteSize ≤ 64 ∧
    (beat.preparationID = "" ∨ validGateInstanceID beat.preparationID) ∧
    validGateInstanceID beat.proxyInstanceID ∧ beat.sequence ≠ 0 ∧ beat.counters.keys.length ≤ 32 ∧
    validGateFailureCode beat.failureCode ∧ 0 ≤ beat.workersReady ∧ beat.workersReady ≤ 4 ∧
    0 ≤ beat.queueDepth ∧ beat.queueDepth ≤ 1024 ∧ 0 ≤ beat.activeConnections ∧
      beat.activeConnections ≤ 50000 ∧
    0 ≤ beat.activeRequests ∧ beat.activeRequests ≤ 1024 ∧ beat.counters.keys.all validGateCounter

def reportsOn (beat : RequestGateHeartbeat) (runtime : RequestGateRuntime) : Bool :=
  beat.engineInstanceID = runtime.engineInstanceID ∧ beat.generation = runtime.configGeneration ∧
    beat.preparationID = runtime.preparationID

def fitsRuntime (beat : RequestGateHeartbeat) (runtime : RequestGateRuntime) : Bool :=
  beat.workersReady ≤ runtime.config.workerCount ∧ beat.queueDepth ≤ runtime.config.queueItems ∧
    beat.activeRequests ≤ runtime.config.maxConcurrentRequests ∧
    ¬(runtime.interceptionReady ∧ 0 < beat.workersReady ∧ runtime.expectedArtifacts ≠ {} ∧
      beat.artifacts ≠ runtime.expectedArtifacts) ∧
    ¬((!runtime.config.enabled ∨ !runtime.interceptionReady ∧ runtime.preparationID = "") ∧
      (beat.httpListenerReady ∨ beat.httpsListenerReady ∨ beat.workersReady ≠ 0 ∨
        beat.activeConnections ≠ 0 ∨ beat.activeRequests ≠ 0 ∨ beat.queueDepth ≠ 0))

namespace GateHealth

def send (s : GateHealth) (beat : RequestGateHeartbeat) : GateHealth :=
  { s with sent := beat :: s.sent }

def reply (s : GateHealth) (answer : Except SyncError RequestGateRuntime) : GateHealth :=
  { s with replies := answer :: s.replies }

def current (s : GateHealth) : GateKey :=
  match s.preparation with
  | some descriptor => ⟨descriptor.configGeneration, descriptor.preparationID⟩
  | none => ⟨s.generation, ""⟩

def fresh (s : GateHealth) (now : Time) : Bool :=
  s.heartbeatAt.any fun at_ => now - at_ < gateHeartbeatTTL

def storeHeartbeat (s : GateHealth) (beat : RequestGateHeartbeat) (runtime : RequestGateRuntime) (now : Time) :
    GateHealth :=
  let previous := s.heartbeat
  let same := previous.generation = beat.generation ∧ previous.engineInstanceID = beat.engineInstanceID ∧
    previous.preparationID = beat.preparationID
  if same ∧ previous.proxyInstanceID = beat.proxyInstanceID ∧ beat.sequence ≤ previous.sequence then
    s.reply (.error .staleGeneration)
  else if same ∧ previous.proxyInstanceID ≠ beat.proxyInstanceID ∧ s.fresh now then
    s.reply (.error .engineDown)
  else
    { s with heartbeat := beat, heartbeatAt := some now, stored := ⟨beat, now, s.current⟩ :: s.stored }.reply
      (.ok runtime)

def preflight (s : GateHealth) (descriptor : RequestGateRuntime) : Option Bool :=
  let beat := s.heartbeat
  if beat.preparationID = descriptor.preparationID ∧ beat.engineInstanceID = descriptor.engineInstanceID ∧
      beat.generation = descriptor.configGeneration ∧ s.fresh s.clock ∧ s.heartbeatAt.all (· ≤ s.clock) then
    if beat.failureCode ≠ "" ∧ beat.failureCode ≠ "GATE_INTERCEPTION_UNAVAILABLE" then some false
    else if beat.httpListenerReady ∧ beat.httpsListenerReady ∧ beat.workersReady = descriptor.config.workerCount ∧
        (!descriptor.requiresCA ∨ beat.caLoaded) ∧ beat.failureCode = "" ∧
        validPreparedArtifacts beat.artifacts descriptor then some true
    else none
  else none

end GateHealth

namespace GateSection

def checked (s : GateHealth) (beat : RequestGateHeartbeat) (runtime : RequestGateRuntime) :
    GateHealth × List GateSection :=
  if !reportsOn beat runtime then (s.reply (.ok runtime), [])
  else if !fitsRuntime beat runtime then (s.reply (.error .malformed), [])
  else (s, [.gateTime beat runtime])

def again (s : GateHealth) (beat : RequestGateHeartbeat) (engine : String) : Nat → GateHealth × List GateSection
  | 0 => (s.reply (.error .staleGeneration), [])
  | remaining + 1 => (s, [.attempt beat engine remaining])

def exec [CaseMap] (step : GateSection) (input : GateInput) (s : GateHealth) : GateHealth × List GateSection :=
  match step with
  | prepared beat =>
    let s := s.send beat
    match s.preparation with
    | some descriptor =>
      match input.cancelled with
      | some failure => (s.reply (.error (.other failure)), [])
      | none => checked s beat descriptor
    | none =>
      match s.engineInstance with
      | .error failure => (s.reply (.error (.other failure)), [])
      | .ok engine => (s, [.attempt beat engine 2])
  | attempt beat engine remaining =>
    match input.cancelled with
    | some failure => (s.reply (.error (.other failure)), [])
    | none => (s, [.runningConfig beat engine s.generation remaining])
  | runningConfig beat engine generation remaining =>
    if generation = 0 ∨ generation ≠ s.running.2 then again s beat engine remaining
    else (s, [.confirm beat engine generation s.running.1 remaining])
  | confirm beat engine generation value remaining =>
    if generation ≠ s.generation then again s beat engine remaining
    else if validateRequestGate value ≠ [] then (s.reply (.error .engineDown), [])
    else
      let limits := { effectiveRequestGateConfig value with enabled := usesM4 value }
      (s, [.interception beat ⟨engine, generation, limits, gateRequiresCA value, false, "", {}⟩ remaining])
  | interception beat runtime remaining =>
    let runtime := { runtime with
      interceptionReady := runtime.config.enabled && s.interceptionReady runtime.configGeneration }
    (s, [if runtime.config.enabled then .artifacts beat runtime remaining else .reconfirm beat runtime remaining])
  | artifacts beat runtime remaining =>
    (s, [.reconfirm beat { runtime with expectedArtifacts := s.activationArtifacts runtime.configGeneration }
      remaining])
  | reconfirm beat runtime remaining =>
    if runtime.configGeneration = s.generation then checked s beat runtime
    else again s beat runtime.engineInstanceID remaining
  | gateTime beat runtime => (s, [.store beat runtime s.clock])
  | store beat runtime now => (s.storeHeartbeat beat runtime now, [])
  | prepare descriptor => ({ s with preparation := some descriptor }, [.poll descriptor])
  | poll descriptor =>
    match s.preflight descriptor with
    | some false => (s, [.complete])
    | some true => (s, [])
    | none => (s, [if input.timedOut then .complete else .poll descriptor])
  | complete => ({ s with preparation := none }, [])
  | activate generation => ({ s with generation }, [])
  | commit value version => ({ s with running := (value, version) }, [])
  | kernel ready loaded => ({ s with interceptionReady := ready, activationArtifacts := loaded }, [])
  | elapse time => ({ s with clock := s.clock + time }, [])

end GateSection

def GateEntry.sections (engine : Except String String) : GateEntry → List GateSection
  | .syncProxy beat => if wellFormed beat then [.prepared beat] else []
  | .prepareGateRuntime value generation nonce =>
    if !usesM4 value then [.complete]
    else match engine, nonce with
      | .ok engine, .ok nonce =>
        [.prepare ⟨engine, generation, effectiveRequestGateConfig value, gateRequiresCA value, false, nonce, {}⟩]
      | _, _ => []
  | .completeGatePreparation => [.complete]
  | .activate generation => [.activate generation]
  | .commit value version => [.commit value version]
  | .kernel ready artifacts => [.kernel ready artifacts]
  | .elapse time => [.elapse time]

abbrev GateMove := Move GateEntry GateInput

abbrev GateThreads := Threads GateHealth GateSection

def GateThreads.step [CaseMap] (engine : Except String String) (t : GateThreads) (move : GateMove) : GateThreads :=
  Threads.step (GateEntry.sections engine) GateSection.exec t move

end Ngfw.Engine

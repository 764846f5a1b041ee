import Ngfw.Connectivity.Program
import Ngfw.Session.Lifecycle

/-!
# The connectivity runtime

The runtime keeps one program and generation, the temporary blocks and the revoked sessions, and decides the
sessions of its store. Calls run one after another; what a call takes from outside (the clock, the outcome of
a kernel guard, the order of a map iteration) is an argument.
-/

namespace Ngfw.Engine
open Lib Lib.Text Lib.Netip Domain Session Connectivity

structure TemporaryBlock where
  id : String
  indicator : String
  expiresAt : Time
  deriving DecidableEq

structure PolicyDecision where
  action : Domain.Decision
  scope : String
  policyID : String := ""
  configVersion : UInt64
  reason : String
  deriving DecidableEq

structure Runtime where
  store : RuntimeStore
  program : Program
  generation : UInt64
  degraded : Bool := false
  blocks : GoMap String TemporaryBlock := ∅
  revoked : GoMap String RuntimeSession := ∅
  maxRevoked : Int := 10000

def newRuntime (program : Program) (generation : UInt64) (limits : RuntimeLimits) : Runtime :=
  let generation := if generation = 0 then program.generation else generation
  { store := newRuntimeStore limits, program := { program with generation := generation }, generation }

/-- The tuple the forward filter sees: the source before SNAT, the destination after DNAT. -/
def policyTupleForSession (value : RuntimeSession) : Tuple :=
  match value.nat.dnat, value.translatedTuple with
  | true, some translated =>
    { translated with srcIP := value.originalTuple.srcIP, srcPort := value.originalTuple.srcPort }
  | _, _ => value.originalTuple

def inferSessionZones (program : Program) (value : RuntimeSession) : String × String :=
  let zones := program.inferZones (policyTupleForSession value)
  let destination := match value.nat.dnat, value.translatedTuple with
    | true, some translated =>
      let inferred := program.inferAddressZone translated.dstIP
      if inferred ≠ "" then inferred else zones.2
    | _, _ => zones.2
  (if zones.1 = "" then zoneUnknown else zones.1, if destination = "" then zoneUnknown else destination)

def isLocal (value : RuntimeSession) : Bool :=
  value.sourceZone = zoneLocal ∨ value.destinationZone = zoneLocal

def sessionView (value : RuntimeSession) : View :=
  viewFromTuple (policyTupleForSession value) value.sourceZone value.destinationZone

def listSessions (s : RuntimeStore) : List RuntimeSession :=
  s.byID.values.insertionSort fun a b =>
    a.createdAt < b.createdAt ∨ a.createdAt = b.createdAt ∧ a.sessionID ≤ b.sessionID

namespace Runtime

def isBlocked (r : Runtime) (value : RuntimeSession) : Bool :=
  (r.blocks.lookup value.originalTuple.srcIP.string).isSome

def setStore (r : Runtime) (store : RuntimeStore) : Runtime :=
  { r with store := store }

variable [CaseMap]

/-- Tells whether the attempt was stale and may be repeated. -/
def evaluateOnce (r : Runtime) (id : String) : Runtime × Except StoreError PolicyDecision × Bool :=
  match r.store.byID.lookup id with
  | none => (r, .error .sessionMissing, false)
  | some v =>
    if r.isBlocked v then
      let reason := "temporary block overrides cached allow"
      let set := r.store.setDecision id 0 r.generation .drop "" reason
      (r.setStore set.1, set.2.map fun _ =>
        { action := .drop, scope := "SOURCE", configVersion := r.generation, reason }, false)
    else if (r.revoked.lookup id).isSome then
      (r, .ok { action := .drop, scope := "SESSION", configVersion := r.generation
                reason := "session revoked" }, false)
    else if v.cacheState = .cached ∧ v.policyGeneration = r.generation ∧ !r.degraded ∧ !v.revoked then
      (r, .ok { action := v.decision, scope := "SESSION", policyID := v.matchedPolicyID
                configVersion := r.generation, reason := "cached decision" }, false)
    else
      let found := r.program.evaluate (sessionView v)
      let set := r.store.setDecision id v.revision r.generation found.action found.policyID found.reason
      let stale := match set.2 with
        | .error .staleDecision => true
        | _ => false
      (r.setStore set.1, set.2.map fun _ =>
        { action := found.action, scope := "SESSION", policyID := found.policyID
          configVersion := r.generation, reason := found.reason }, stale)

def evaluateRetry (r : Runtime) (id : String) : Nat → Runtime × Except StoreError PolicyDecision
  | 0 => ((r.evaluateOnce id).1, (r.evaluateOnce id).2.1)
  | retries + 1 =>
    let attempt := r.evaluateOnce id
    if attempt.2.2 then evaluateRetry attempt.1 id retries else (attempt.1, attempt.2.1)

def evaluate (r : Runtime) (id : String) : Runtime × Except StoreError PolicyDecision :=
  r.evaluateRetry id 2

def setDegraded (r : Runtime) : Runtime :=
  { r with degraded := true }

def evaluateObserved (r : Runtime) (value : RuntimeSession) : Runtime :=
  if isLocal value then
    r.setStore (r.store.markEvaluationUnavailable value.sessionID r.generation
      "local traffic is outside the M2 forward-policy path").1
  else
    let evaluated := r.evaluate value.sessionID
    match evaluated.2 with
    | .ok _ => evaluated.1
    | .error .sessionMissing => evaluated.1
    | .error .staleDecision => evaluated.1
    | .error _ => evaluated.1.setDegraded

/-- The end of applyRecord: the session is decided anew when something changed, the generation moved on, or a live
event finds it undecided. `enriched` is the session `v` with its zones. -/
def decideObserved (r : Runtime) (v enriched : RuntimeSession) (created changed publishUpdate : Bool) : Runtime :=
  let changed := changed || enriched.revision ≠ v.revision
  if created ∨ changed ∨ enriched.policyGeneration ≠ r.generation ∨
      publishUpdate ∧ enriched.cacheState ≠ .cached then
    r.evaluateObserved enriched
  else r

def applyRecord [Stdlib] (r : Runtime) (record : Record) (now clock : Time) (publishUpdate : Bool) : Runtime :=
  let applied := r.store.applyObserved record now clock
  let r := r.setStore applied.1
  match applied.2 with
  | .error .staleEvent => r
  | .error _ => r.setDegraded
  | .ok (v, created, changed) =>
    -- neither zone is ever empty: what cannot be inferred is unknown
    let zones := inferSessionZones r.program v
    let zoned := r.store.setZones v.sessionID zones.1 zones.2
    let enriched := match zoned.2 with
      | .ok enriched => enriched
      | .error _ => v
    (r.setStore zoned.1).decideObserved v enriched created changed publishUpdate

def activateOne (program : Program) (generation : UInt64) (reason : String) (clock : Time)
    (r : Runtime) (current : RuntimeSession) : Runtime :=
  if current.revoked then r
  else
    let zones := inferSessionZones program current
    let zoned := r.store.setZones current.sessionID zones.1 zones.2
    let current := match zoned.2 with
      | .ok enriched => enriched
      | .error _ => current
    let invalidated := zoned.1.invalidate current.sessionID generation reason clock
    let r := r.setStore invalidated.1
    match invalidated.2 with
    | .error _ => r
    | .ok v => if isLocal current then r.evaluateObserved v else r

def activate (r : Runtime) (program : Program) (generation : UInt64) (reason : String) (clock : Time) :
    Runtime × Except String Unit :=
  if generation = 0 then (r, .error "policy generation must be non-zero")
  else if generation ≤ r.generation then (r, .error "policy generation must increase")
  else
    let r := { r with program := { program with generation := generation }, generation }
    ((listSessions r.store).foldl (activateOne program generation reason clock) r, .ok ())

def invalidate (r : Runtime) (id reason : String) (clock : Time) : Runtime × Except StoreError RuntimeSession :=
  let invalidated := r.store.invalidate id r.generation reason clock
  (r.setStore invalidated.1, invalidated.2)

def reevaluateOne (indicator reason : String) (clock : Time) (r : Runtime) (current : RuntimeSession) : Runtime :=
  if equalFold current.originalTuple.srcIP.string indicator then
    let invalidated := r.invalidate current.sessionID reason clock
    match invalidated.2 with
    | .error _ => invalidated.1
    | .ok _ => invalidated.1.evaluateObserved current
  else r

def reevaluateSource (r : Runtime) (indicator reason : String) (clock : Time) : Runtime :=
  ((listSessions r.store).filter (!·.revoked)).foldl (reevaluateOne indicator reason clock) r

def blockIndicator (text : String) : Option String :=
  match parseAddr (trimList text.toList) with
  | some addr => if addr.is4 then some addr.string else none
  | none => none

def addTemporaryBlock (r : Runtime) (block : TemporaryBlock) (guardFailure : Option String)
    (clock : Time) : Runtime × Except String Unit :=
  if trimSpace block.indicator = "" then (r, .error "block indicator is required")
  else match blockIndicator block.indicator with
    | none => (r, .error "temporary block indicator must be an IPv4 address")
    | some indicator =>
      let block := { block with
        indicator := indicator
        expiresAt := if block.expiresAt = 0 then clock + 300 * second else block.expiresAt }
      if block.expiresAt ≤ clock then (r, .error "temporary block is already expired")
      else if r.blocks.lookup indicator = none ∧ 10000 ≤ r.blocks.keys.length then
        (r, .error "temporary block capacity reached")
      else
        let r := { r with blocks := r.blocks.insert indicator block }
        match guardFailure with
        -- the entry just written is still there, so it is taken back
        | some failure => ({ r with blocks := r.blocks.erase indicator }, .error failure)
        | none =>
          ((listSessions r.store).foldl (reevaluateOne indicator "temporary block" clock) r, .ok ())

/-- The block an indicator names: its address, or the ID of a block; `order` is the order of the map range. -/
def blockKey (r : Runtime) (indicator : String) (order : List String) : String :=
  let indicator := (blockIndicator indicator).getD indicator
  if (r.blocks.lookup indicator).isSome then indicator
  else (order.find? fun key => (r.blocks.lookup key).any (·.id == indicator)).getD indicator

def removeTemporaryBlock (r : Runtime) (indicator : String) (guardFailure : Option String)
    (clock : Time) (order : List String) : Runtime × Except String Unit :=
  let key := r.blockKey indicator order
  match guardFailure with
  | some failure => (r, .error failure)
  | none =>
    let r := { r with blocks := r.blocks.erase key }
    (r.reevaluateSource key "temporary block removed" clock, .ok ())

/-- A full table of revoked sessions first loses the entry `victim` that the map range visits first. -/
def revoke (r : Runtime) (id reason : String) (guardFailure : Option String) (victim : String) (clock : Time) :
    Runtime × Except String Unit :=
  match r.store.byID.lookup id, guardFailure with
  | none, _ => (r, .error "runtime session not found")
  | some _, some failure => (r, .error failure)
  | some v, none =>
    let limit := if r.maxRevoked ≤ 0 then 10000 else r.maxRevoked
    let kept := if limit ≤ r.revoked.keys.length then r.revoked.erase victim else r.revoked
    let marked := r.store.markRevoked id r.generation reason clock
    ({ r with store := marked.1, revoked := kept.insert id v, maxRevoked := limit }, .ok ())

end Runtime

inductive RuntimeOp
  | applyRecord (record : Record) (now clock : Time) (publishUpdate : Bool)
  | activate (program : Program) (generation : UInt64) (reason : String) (clock : Time)
  | evaluate (id : String)
  | addTemporaryBlock (block : TemporaryBlock) (guardFailure : Option String) (clock : Time)
  | removeTemporaryBlock (indicator : String) (guardFailure : Option String) (clock : Time)
      (order : List String)
  | revoke (id reason : String) (guardFailure : Option String) (victim : String) (clock : Time)

def Runtime.exec [CaseMap] [Stdlib] (r : Runtime) : RuntimeOp → Runtime
  | .applyRecord record now clock publishUpdate => r.applyRecord record now clock publishUpdate
  | .activate program generation reason clock => (r.activate program generation reason clock).1
  | .evaluate id => (r.evaluate id).1
  | .addTemporaryBlock block guardFailure clock => (r.addTemporaryBlock block guardFailure clock).1
  | .removeTemporaryBlock indicator guardFailure clock order =>
    (r.removeTemporaryBlock indicator guardFailure clock order).1
  | .revoke id reason guardFailure victim clock => (r.revoke id reason guardFailure victim clock).1

end Ngfw.Engine

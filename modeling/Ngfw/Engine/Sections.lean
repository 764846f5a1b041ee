import Ngfw.Lib.Threads
import Ngfw.Engine.Runtime

/-!
# The runtime at the grain of its locks

The calls of the runtime that decide sessions, cut into their critical sections: each section holds the lock of the
store or of the runtime once, or is one nft transaction on the kernel's set of blocked sources. Calls of several
goroutines interleave between sections.
-/

namespace Ngfw.Engine
open Lib Lib.Text Lib.Netip Domain Session Connectivity

inductive Basis
  | block
  | program (program : Program) (view : View)

/-- What the goroutines share. `sourceBlocks` is the kernel's set source_blocks with the end of each element's
timeout, and `basis` remembers what the last verdict of each session was computed from. -/
structure Shared where
  runtime : Runtime
  clock : Time := 0
  sourceBlocks : GoMap String Time := ∅
  basis : GoMap String Basis := ∅

/-- What a section takes from outside: the clock, the error of a kernel guard that fails, and the order of the range
over the block table. -/
structure SectionInput where
  clock : Time
  guardFailure : Option String := none
  order : List String := []

inductive Section
  -- evaluate
  | get (id : String) (retry : Nat)
  | consult (id : String) (v : RuntimeSession) (retry : Nat)
  | publishBlock (id : String) (generation : UInt64)
  | recheck (id : String) (generation : UInt64) (retry : Nat)
  | publish (id : String) (v : RuntimeSession) (program : Program) (generation : UInt64) (retry : Nat)
  -- evaluateObserved of local traffic
  | localGeneration (id : String)
  | markUnavailable (id : String) (generation : UInt64)
  -- applyRecord
  | applyObserved (record : Record) (now : Time) (publishUpdate : Bool)
  | inferZones (v : RuntimeSession) (created changed publishUpdate : Bool)
  | setZones (v : RuntimeSession) (zones : String × String) (created changed publishUpdate : Bool)
  | compareGeneration (v : RuntimeSession) (publishUpdate : Bool)
  | degrade
  -- Activate
  | activate (program : Program) (generation : UInt64) (reason : String)
  | activateList (program : Program) (generation : UInt64) (reason : String)
  | activateZones (program : Program) (generation : UInt64) (reason : String) (current : RuntimeSession)
  | activateInvalidate (generation : UInt64) (reason : String) (current : RuntimeSession)
  -- temporary blocks
  | addBlock (block : TemporaryBlock)
  | guardBlock (block : TemporaryBlock)
  | undoBlock (block : TemporaryBlock)
  | findBlock (indicator : String)
  | guardUnblock (key : String)
  | deleteBlock (key : String)
  | sweep (now : Time)
  | guardExpired (key : String)
  -- the sessions of a source
  | listSource (indicator reason : String) (skipRevoked : Bool)
  | invalidateGeneration (current : RuntimeSession) (reason : String)
  | invalidate (current : RuntimeSession) (generation : UInt64) (reason : String)

namespace Shared

def setRuntime (s : Shared) (r : Runtime) : Shared :=
  { s with runtime := r }

def setStore (s : Shared) (store : RuntimeStore) : Shared :=
  s.setRuntime (s.runtime.setStore store)

def setBlocks (s : Shared) (blocks : GoMap String TemporaryBlock) : Shared :=
  s.setRuntime { s.runtime with blocks := blocks }

def publish (s : Shared) (id : String) (set : RuntimeStore × Except StoreError RuntimeSession) (basis : Basis) :
    Shared :=
  match set.2 with
  | .ok _ => { s.setStore set.1 with basis := s.basis.insert id basis }
  | .error _ => s.setStore set.1

end Shared

def blockReason : String := "temporary block overrides cached allow"

def observeSections (value : RuntimeSession) : List Section :=
  if isLocal value then [.localGeneration value.sessionID] else [.get value.sessionID 0]

def nftDuration (value : Duration) : Duration :=
  max 1 (value.tdiv second) * second

def rangeOrder {Value : Type} (map : GoMap String Value) (order : List String) : List String :=
  if order.isPerm map.keys then order else map.keys

/-- nft add element: an element that is still there keeps its timeout. -/
def addElement (set : GoMap String Time) (element : String) (ends clock : Time) : GoMap String Time :=
  if (set.lookup element).any (clock < ·) then set else set.insert element ends

namespace Section

def consulted (r : Runtime) (id : String) (v : RuntimeSession) (retry : Nat) : List Section :=
  if r.isBlocked v then [.publishBlock id r.generation]
  else if (r.revoked.lookup id).isSome then []
  else if v.cacheState = .cached ∧ v.policyGeneration = r.generation ∧ !r.degraded ∧ !v.revoked then
    [.recheck id r.generation retry]
  else [.publish id v r.program r.generation retry]

def zoned (v enriched : RuntimeSession) (created changed publishUpdate : Bool) : List Section :=
  if created || (changed || enriched.revision ≠ v.revision) then observeSections enriched
  else [.compareGeneration enriched publishUpdate]

def exec [CaseMap] [Stdlib] (step : Section) (input : SectionInput) (s : Shared) : Shared × List Section :=
  let s := { s with clock := input.clock }
  let r := s.runtime
  match step with
  | get id retry =>
    match r.store.byID.lookup id with
    | none => (s, [])
    | some v => (s, [.consult id v retry])
  | consult id v retry => (s, consulted r id v retry)
  | publishBlock id generation =>
    (s.publish id (r.store.setDecision id 0 generation .drop "" blockReason) .block, [])
  | recheck id generation retry =>
    (s, if r.generation ≠ generation ∧ retry < 2 then [.get id (retry + 1)] else [])
  | publish id v program generation retry =>
    let found := program.evaluate (sessionView v)
    let set := r.store.setDecision id v.revision generation found.action found.policyID found.reason
    let again := match set.2 with
      | .error .staleDecision => decide (retry < 2)
      | _ => false
    (s.publish id set (.program program (sessionView v)), if again then [.get id (retry + 1)] else [])
  | localGeneration id => (s, [.markUnavailable id r.generation])
  | markUnavailable id generation =>
    (s.setStore (r.store.markEvaluationUnavailable id generation
      "local traffic is outside the M2 forward-policy path").1, [])
  | applyObserved record now publishUpdate =>
    let applied := r.store.applyObserved record now input.clock
    (s.setStore applied.1, match applied.2 with
      | .error .staleEvent => []
      | .error _ => [.degrade]
      | .ok (v, created, changed) => [.inferZones v created changed publishUpdate])
  | inferZones v created changed publishUpdate =>
    (s, [.setZones v (inferSessionZones r.program v) created changed publishUpdate])
  | setZones v zones created changed publishUpdate =>
    let set := r.store.setZones v.sessionID zones.1 zones.2
    let enriched := match set.2 with
      | .ok enriched => enriched
      | .error _ => v
    (s.setStore set.1, zoned v enriched created changed publishUpdate)
  | compareGeneration v publishUpdate =>
    (s, if v.policyGeneration ≠ r.generation ∨ publishUpdate ∧ v.cacheState ≠ .cached then observeSections v
      else [])
  | degrade => (s.setRuntime r.setDegraded, [])
  | activate program generation reason =>
    if generation ≤ r.generation then (s, [])
    else
      (s.setRuntime { r with program := { program with generation := generation }, generation },
        [.activateList program generation reason])
  | activateList program generation reason =>
    (s, ((listSessions r.store).filter (!·.revoked)).map (.activateZones program generation reason))
  | activateZones program generation reason current =>
    let zones := inferSessionZones program current
    let set := r.store.setZones current.sessionID zones.1 zones.2
    let current := match set.2 with
      | .ok enriched => enriched
      | .error _ => current
    (s.setStore set.1, [.activateInvalidate generation reason current])
  | activateInvalidate generation reason current =>
    let set := r.store.invalidate current.sessionID generation reason input.clock
    (s.setStore set.1, match set.2 with
      | .error _ => []
      | .ok v => if isLocal current then observeSections v else [])
  | addBlock block =>
    if trimSpace block.indicator = "" then (s, [])
    else match Runtime.blockIndicator block.indicator with
      | none => (s, [])
      | some indicator =>
        let block := { block with
          indicator := indicator
          expiresAt := if block.expiresAt = 0 then input.clock + 300 * second else block.expiresAt }
        if block.expiresAt ≤ input.clock then (s, [])
        else if r.blocks.lookup indicator = none ∧ 10000 ≤ r.blocks.keys.length then (s, [])
        else (s.setBlocks (r.blocks.insert indicator block), [.guardBlock block])
  | guardBlock block =>
    if input.guardFailure.isSome ∨ block.expiresAt ≤ input.clock then (s, [.undoBlock block])
    else
      let ends := input.clock + nftDuration (block.expiresAt - input.clock)
      ({ s with sourceBlocks := addElement s.sourceBlocks block.indicator ends input.clock },
        [.listSource block.indicator "temporary block" false])
  | undoBlock block =>
    let own := (r.blocks.lookup block.indicator).any fun current =>
      current.id = block.id ∧ current.expiresAt = block.expiresAt
    (if own then s.setBlocks (r.blocks.erase block.indicator) else s, [])
  | findBlock indicator => (s, [.guardUnblock (r.blockKey indicator (rangeOrder r.blocks input.order))])
  | guardUnblock key =>
    -- a key that is no address is refused; the others are in the form the set holds
    if input.guardFailure.isSome ∨ (Runtime.blockIndicator key).isNone then (s, [])
    else ({ s with sourceBlocks := s.sourceBlocks.erase key }, [.deleteBlock key])
  | deleteBlock key =>
    (s.setBlocks (r.blocks.erase key), [.listSource key "temporary block removed" true])
  | sweep now =>
    let expired := (rangeOrder r.blocks input.order).filter fun key =>
      (r.blocks.lookup key).any (·.expiresAt ≤ now)
    (s.setBlocks (expired.foldl (fun blocks key => blocks.erase key) r.blocks),
      expired.map .guardExpired ++ expired.map (.listSource · "temporary block expired" true))
  | guardExpired key =>
    (if input.guardFailure.isSome then s else { s with sourceBlocks := s.sourceBlocks.erase key }, [])
  | listSource indicator reason skipRevoked =>
    (s, ((listSessions r.store).filter fun current =>
        !(skipRevoked && current.revoked) && equalFold current.originalTuple.srcIP.string indicator).map
      (.invalidateGeneration · reason))
  | invalidateGeneration current reason => (s, [.invalidate current r.generation reason])
  | invalidate current generation reason =>
    let set := r.store.invalidate current.sessionID generation reason input.clock
    (s.setStore set.1, match set.2 with
      | .error _ => []
      | .ok _ => observeSections current)

end Section

inductive RuntimeCall
  | evaluate (id : String)
  | applyRecord (record : Record) (now : Time) (publishUpdate : Bool)
  | activate (program : Program) (generation : UInt64) (reason : String)
  | addTemporaryBlock (block : TemporaryBlock)
  | removeTemporaryBlock (indicator : String)
  | sweepBlocks (now : Time)

def RuntimeCall.sections : RuntimeCall → List Section
  | evaluate id => [.get id 0]
  | applyRecord record now publishUpdate => [.applyObserved record now publishUpdate]
  | activate program generation reason => if generation = 0 then [] else [.activate program generation reason]
  | addTemporaryBlock block => [.addBlock block]
  | removeTemporaryBlock indicator => [.findBlock indicator]
  | sweepBlocks now => [.sweep now]

abbrev RuntimeThreads := Threads Shared Section

abbrev RuntimeMove := Move RuntimeCall SectionInput

def RuntimeThreads.step [CaseMap] [Stdlib] (t : RuntimeThreads) (move : RuntimeMove) : RuntimeThreads :=
  Threads.step RuntimeCall.sections Section.exec t move

end Ngfw.Engine

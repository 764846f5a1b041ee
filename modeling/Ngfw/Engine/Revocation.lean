import Mathlib.Data.Finset.Basic
import Ngfw.Engine.Sections

/-!
# Revoking and closing sessions

The kernel drops the packets of every conntrack ID in its set revoked_ctids. RevokeContext puts an ID there, closing a
revoked session takes it out again. The flag of a session is in the store, the table of revoked sessions in the
runtime, and guardMu keeps the calls that change the kernel's set apart.
-/

namespace Ngfw.Engine
open Lib Domain Session Connectivity

/-- What the goroutines share. `revokedCTIDs` is the kernel's set, and `guardBusy` tells whether guardMu is held. -/
structure FenceState where
  runtime : Runtime
  revokedCTIDs : Finset UInt32 := ∅
  guardBusy : Bool := false

structure FenceInput where
  clock : Time
  guardFailure : Option String := none
  order : List String := []

inductive FenceSection
  -- the first section of applyRecord, and the calls that close sessions
  | applyObserved (record : Record) (now : Time)
  | close (identity : ConntrackIdentity) (reason : String) (now : Time)
  | closeExpired (candidate : RuntimeSession) (now : Time)
  | reconcile (seen : List ConntrackIdentity) (before now : Time) (reason : String)
  -- releaseClosedSession
  | untrackClosed (value : RuntimeSession)
  | lockClosed (value : RuntimeSession)
  | checkClosed (value : RuntimeSession)
  | releaseClosed (value : RuntimeSession)
  -- RevokeContext
  | find (id reason : String)
  | lockRevoke (id : String) (v : RuntimeSession) (reason : String)
  | guardRevoke (id : String) (v : RuntimeSession) (reason : String)
  | track (id : String) (v : RuntimeSession) (reason : String)
  | releaseEvicted (evicted : RuntimeSession) (id : String) (v : RuntimeSession) (reason : String)
  | readGeneration (id : String) (v : RuntimeSession) (reason : String)
  | mark (id : String) (v : RuntimeSession) (generation : UInt64) (reason : String)
  | untrack (id : String) (v : RuntimeSession)
  | releaseFailed (v : RuntimeSession)

def hasActiveRevokedConntrackID (s : RuntimeStore) (id : UInt32) : Bool :=
  id ≠ 0 ∧ ∃ current ∈ s.byID.values, current.identity.id = id ∧ current.revoked = true

namespace FenceState

def setStore (s : FenceState) (store : RuntimeStore) : FenceState :=
  { s with runtime := s.runtime.setStore store }

def setRevoked (s : FenceState) (revoked : GoMap String RuntimeSession) : FenceState :=
  { s with runtime := { s.runtime with revoked := revoked } }

def releaseSession (s : FenceState) (value : RuntimeSession) (guardFailure : Option String) : FenceState :=
  if value.identity.id = 0 ∨ guardFailure.isSome then s
  else { s with revokedCTIDs := s.revokedCTIDs.erase value.identity.id }

def unlock (s : FenceState) : FenceState :=
  { s with guardBusy := false }

end FenceState

namespace FenceSection

/-- A section that waits for guardMu stays where it is while another call holds it. -/
def exec [CaseMap] [Stdlib] (step : FenceSection) (input : FenceInput) (s : FenceState) :
    FenceState × List FenceSection :=
  let r := s.runtime
  match step with
  | applyObserved record now => (s.setStore (r.store.applyObserved record now input.clock).1, [])
  | close identity reason now =>
    let closed := r.store.close identity reason now input.clock
    (s.setStore closed.1, closed.2.toList.map untrackClosed)
  | closeExpired candidate now =>
    let closed := r.store.closeVerifiedExpired candidate now
    (s.setStore closed.1, closed.2.toList.map untrackClosed)
  | reconcile seen before now reason =>
    let closed := r.store.reconcileMissing seen before now reason input.clock
      (rangeOrder r.store.byID input.order)
    (s.setStore closed.1, closed.2.map untrackClosed)
  | untrackClosed value =>
    let tracked := (r.revoked.lookup value.sessionID).isSome
    (s.setRevoked (r.revoked.erase value.sessionID), if value.revoked || tracked then [.lockClosed value] else [])
  | lockClosed value =>
    if s.guardBusy then (s, [.lockClosed value]) else ({ s with guardBusy := true }, [.checkClosed value])
  | checkClosed value =>
    if hasActiveRevokedConntrackID r.store value.identity.id then (s.unlock, [])
    else (s, [.releaseClosed value])
  | releaseClosed value => ((s.releaseSession value input.guardFailure).unlock, [])
  | find id reason =>
    match r.store.byID.lookup id with
    | none => (s, [])
    | some v => (s, [.lockRevoke id v reason])
  | lockRevoke id v reason =>
    if s.guardBusy then (s, [.lockRevoke id v reason]) else ({ s with guardBusy := true }, [.guardRevoke id v reason])
  | guardRevoke id v reason =>
    if v.identity.id = 0 ∨ input.guardFailure.isSome then (s.unlock, [])
    else ({ s with revokedCTIDs := insert v.identity.id s.revokedCTIDs }, [.track id v reason])
  | track id v reason =>
    let limit := if r.maxRevoked ≤ 0 then 10000 else r.maxRevoked
    -- a full table loses the entry the range visits first, whichever session it is of
    let victim := if limit ≤ r.revoked.keys.length then (rangeOrder r.revoked input.order).head? else none
    let kept := victim.elim r.revoked fun key => r.revoked.erase key
    let s := { s with runtime := { r with revoked := kept.insert id v, maxRevoked := limit } }
    match victim.bind fun key => r.revoked.lookup key with
    | some evicted => (s, [.releaseEvicted evicted id v reason])
    | none => (s, [.readGeneration id v reason])
  | releaseEvicted evicted id v reason =>
    (s.releaseSession evicted input.guardFailure, [.readGeneration id v reason])
  | readGeneration id v reason => (s, [.mark id v r.generation reason])
  | mark id v generation reason =>
    let marked := r.store.markRevoked id generation reason input.clock
    match marked.2 with
    | .ok _ => ((s.setStore marked.1).unlock, [])
    | .error _ => (s, [.untrack id v])
  | untrack id v => (s.setRevoked (r.revoked.erase id), [.releaseFailed v])
  | releaseFailed v => ((s.releaseSession v input.guardFailure).unlock, [])

end FenceSection

inductive FenceCall
  | observe (record : Record) (now : Time)
  | destroy (identity : ConntrackIdentity) (now : Time)
  | expire (candidate : RuntimeSession) (now : Time)
  | resync (seen : List ConntrackIdentity) (before now : Time) (reason : String)
  | revoke (id reason : String)

def FenceCall.sections : FenceCall → List FenceSection
  | observe record now => [.applyObserved record now]
  | destroy identity now => [.close identity "conntrack destroy" now]
  | expire candidate now => [.closeExpired candidate now]
  | resync seen before now reason => [.reconcile seen before now reason]
  | revoke id reason => [.find id reason]

abbrev FenceThreads := Threads FenceState FenceSection

abbrev FenceMove := Move FenceCall FenceInput

def FenceThreads.step [CaseMap] [Stdlib] (t : FenceThreads) (move : FenceMove) : FenceThreads :=
  Threads.step FenceCall.sections FenceSection.exec t move

end Ngfw.Engine

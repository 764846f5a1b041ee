import Ngfw.Inspection.HttpGate

/-!
# The held request body

The proxy reads at most one byte more than it inspects, and hands the body on only against an allow decision.
-/

namespace Ngfw.Proxy

open Lib Domain Inspection

structure BufferedRequestBody where
  buffered : List UInt8
  source : Source ReadFailure
  max : Nat
  oversize : Bool
  used : Bool := false
  closed : Bool := false
  deriving DecidableEq

def noBody : Source ReadFailure :=
  { pieces := [], joined := false, failure := none }

/-- `before` and `after` are the context's error when the call starts and when the reading is over; `spare`
is the buffer growth of io.ReadAll. -/
def readGateRequestBody (before after : Option ContextError) (spare : Nat → Nat)
    (source : Option (Source ReadFailure)) (max : Int) : Except GateFailure BufferedRequestBody :=
  if max < 1 ∨ max > 1048576 then .error .malformed
  else
    let source := source.getD noBody
    match before with
    | some error => .error (.context error)
    | none =>
      match Reader.readAll (Reader.limit Source.read) spare (source.rank + 1) [] (max.toNat + 1, source) with
      | none => .error .other
      | some (_, some failure, _) =>
        match after with
        | some error => .error (.context error)
        | none => .error (.read failure)
      | some (buffered, none, (_, rest)) =>
        match after with
        | some error => .error (.context error)
        | none => .ok { buffered, source := rest, max := max.toNat, oversize := max.toNat < buffered.length }

namespace BufferedRequestBody

def inspectionPrefix (body : BufferedRequestBody) : List UInt8 × Bool :=
  (body.buffered.take (min body.buffered.length body.max), body.oversize)

def close (body : BufferedRequestBody) : BufferedRequestBody :=
  if body.closed ∨ body.used then body else { body with closed := true }

def replayable (decision : RequestDecision) (expectedRequestID : String) : Bool :=
  decision.verdict = .allow ∧ decision.decisionID ≠ "" ∧ decision.requestID ≠ "" ∧
    decision.requestID = expectedRequestID ∧ decision.coverage.valid

/-- The reader handed out is read by `Reader.afterBytes Source.read`. -/
def replayAfterAllow (decision : RequestDecision) (expectedRequestID : String) (body : BufferedRequestBody) :
    Option (List UInt8 × Source ReadFailure) × BufferedRequestBody :=
  if ¬ replayable decision expectedRequestID then (none, body)
  else if body.used ∨ body.closed then (none, body)
  else (some (body.buffered, body.source), { body with used := true })

end BufferedRequestBody

inductive BodyCall
  | close
  | replayAfterAllow (decision : RequestDecision) (expectedRequestID : String)

def BodyCall.perform (body : BufferedRequestBody) : BodyCall →
    Option (List UInt8 × Source ReadFailure) × BufferedRequestBody
  | .close => (none, body.close)
  | .replayAfterAllow decision expected => body.replayAfterAllow decision expected

def BodyCall.run (body : BufferedRequestBody) (calls : List BodyCall) : BufferedRequestBody :=
  calls.foldl (fun body call => (call.perform body).2) body

end Ngfw.Proxy

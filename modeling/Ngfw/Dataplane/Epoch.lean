import Ngfw.Lib.File
import Ngfw.Domain.Session

/-!
# The epoch allocator

The epoch of a cache mark is drawn from a counter that a file keeps for the current boot of the kernel.
-/

namespace Ngfw.Dataplane
open Lib Domain

inductive WriteStep
  | createTemp
  | chmod
  | write
  | sync
  | close
  | rename
  | remove
  | renameAgain
  | openDirectory
  | syncDirectory
  | removeTemporary
  deriving DecidableEq

def writeAtomic {Payload : Type} (goos : String) (payload : Payload) :
    Procedure WriteStep (Replaced Payload) String Unit := do
  .attempt .createTemp .create
  .deferred (.attempt .removeTemporary .removeTemporary) do
    .attempt .chmod id
    .attempt .write (.write payload)
    .attempt .sync id
    .attempt .close id
    .rescue (.attempt .rename .rename) fun failure => do
      -- a path that does not exist counts as removed
      match ← (Procedure.attempt .remove .remove).outcome with
      | .error _ => .fail failure
      | .ok () => .attempt .renameAgain .rename
    match ← (Procedure.attempt .openDirectory id).outcome with
    | .error _ => pure ()
    | .ok () => .ignoring (goos == "windows") .syncDirectory

/-! ## Epochs -/

def maxKernelEpoch : UInt16 := 4095

structure EpochState where
  schema : Int := 0
  bootID : String := ""
  highest : UInt16 := 0
  updatedAt : Time := 0
  checksum : String := ""
  deriving DecidableEq

structure EpochAllocator where
  path : String
  bootID : String
  state : EpochState
  deriving DecidableEq

class EpochDigest where
  sum : EpochState → String

def epochChecksum [EpochDigest] (state : EpochState) : String :=
  EpochDigest.sum { state with checksum := "" }

inductive EpochStep
  | readFile
  | checksum
  | marshal
  | mkdirAll
  | write (step : WriteStep)
  deriving DecidableEq

section
variable [EpochDigest]

/-- NewEpochAllocator; `bootID` is what kernelBootID returns. A file that is no JSON text reads like an empty one. -/
def newEpochAllocator (path bootID : String) :
    Procedure EpochStep (Replaced EpochState) String EpochAllocator := do
  .require (path ≠ "") "epoch state path is required"
  .attempt .readFile id
  match ← Procedure.look (·.file) with
  | .missing => pure ⟨path, bootID, { schema := 1, bootID }⟩
  | .empty => .fail "decode epoch state: unexpected end of JSON input"
  | .holds state =>
    .require (state.checksum ≠ "" ∧ state.checksum = epochChecksum state) "epoch state checksum mismatch"
    .require (state.schema = 1) "unsupported epoch state schema"
    if state.bootID ≠ bootID then pure ⟨path, bootID, { state with highest := 0, bootID }⟩
    else pure ⟨path, bootID, state⟩

namespace EpochAllocator

def persistLocked (goos : String) (a : EpochAllocator) :
    Procedure EpochStep (Replaced EpochState) String Unit := do
  .attempt .checksum id
  .attempt .marshal id
  .attempt .mkdirAll id
  (writeAtomic goos { a.state with checksum := epochChecksum a.state }).within .write id fun disk _ => disk

def allocate (goos : String) (now : Time) (a : EpochAllocator) :
    Procedure EpochStep (Replaced EpochState) Empty (Except String UInt16 × EpochAllocator) := do
  if maxKernelEpoch ≤ a.state.highest then
    pure (.error "kernel epoch exhausted; disable cache", a)
  else
    let a := { a with state := { a.state with highest := a.state.highest + 1, updatedAt := now } }
    match ← (a.persistLocked goos).outcome with
    | .error failure => pure (.error failure, { a with state := { a.state with highest := a.state.highest - 1 } })
    | .ok () => pure (.ok a.state.highest, a)

end EpochAllocator

structure Epochs where
  disk : Replaced EpochState
  allocators : List EpochAllocator := []
  results : List (Except String UInt16) := []

inductive EpochCall
  | create (faults : Faults EpochStep)
  | allocate (index : Nat) (now : Time) (faults : Faults EpochStep)
  | crash

def Epochs.step (goos path bootID : String) (s : Epochs) : EpochCall → Epochs
  | .create faults =>
    match (newEpochAllocator path bootID).run faults s.disk with
    | (.ok a, disk) => { s with disk, allocators := a :: s.allocators }
    | (.error _, disk) => { s with disk }
  | .allocate index now faults =>
    match s.allocators[index]? with
    | none => s
    | some a =>
      match (a.allocate goos now).run faults s.disk with
      | (.ok (result, after), disk) =>
        { disk, allocators := s.allocators.set index after, results := s.results ++ [result] }
  | .crash => { s with allocators := [] }

end

end Ngfw.Dataplane

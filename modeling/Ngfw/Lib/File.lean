import Ngfw.Lib.Procedure

/-!
# Files replaced by a rename

A file is written beside the one it replaces and renamed over it, so that a reader finds the old or the new
contents.
-/

namespace Ngfw.Lib

inductive File (Payload : Type)
  | missing
  | empty
  | holds (payload : Payload)
  deriving DecidableEq

structure Replaced (Payload : Type) where
  file : File Payload := .missing
  temporary : File Payload := .missing
  deriving DecidableEq

namespace Replaced
variable {Payload : Type}

def create (r : Replaced Payload) : Replaced Payload :=
  { r with temporary := .empty }

def write (payload : Payload) (r : Replaced Payload) : Replaced Payload :=
  { r with temporary := .holds payload }

def rename (r : Replaced Payload) : Replaced Payload :=
  ⟨r.temporary, .missing⟩

def remove (r : Replaced Payload) : Replaced Payload :=
  { r with file := .missing }

def removeTemporary (r : Replaced Payload) : Replaced Payload :=
  { r with temporary := .missing }

end Replaced

namespace Procedure
variable {Op State Value : Type} {faults : Faults Op} {state : State}

def ignoring (ignored : Bool) (op : Op) : Procedure Op State String Unit := do
  match ← (attempt op id).outcome with
  | .error failure => if ignored then pure () else fail failure
  | .ok () => pure ()

theorem Ends.ignoring {ignored : Bool} {op : Op} {post : Except String Unit → State → Prop}
    (fails : ∀ failure, faults op = some failure → ignored = false → post (.error failure) state)
    (works : ignored = true ∨ faults op = none → post (.ok ()) state) :
    (Procedure.ignoring ignored op).Ends faults state post := by
  unfold Procedure.ignoring
  simp only [ends_bind, ends_outcome]
  refine .attempt (fun failure fault => ?_) fun fine => works (.inr fine)
  cases ignored with
  | true => exact works (.inl rfl)
  | false => exact fails failure fault rfl

theorem Ends.ignoring_bind {ignored : Bool} {op : Op} {rest : Unit → Procedure Op State String Value}
    {post : Except String Value → State → Prop}
    (fails : ∀ failure, faults op = some failure → ignored = false → post (.error failure) state)
    (works : ignored = true ∨ faults op = none → (rest ()).Ends faults state post) :
    (Procedure.ignoring ignored op >>= rest).Ends faults state post :=
  ends_bind.mpr (.ignoring fails works)

end Procedure

end Ngfw.Lib

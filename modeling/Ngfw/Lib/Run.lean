import Mathlib.Logic.Function.Iterate

namespace Ngfw.Lib
variable {State Op : Type}

/-- The states reached from an initial state by steps each of which is admitted in the state it starts from. -/
inductive Reachable (initial : State → Prop) (admits : State → Op → Prop) (step : State → Op → State) :
    State → Prop
  | start {state : State} (begins : initial state) : Reachable initial admits step state
  | next {state : State} (op : Op) (reached : Reachable initial admits step state)
      (admitted : admits state op) : Reachable initial admits step (step state op)

variable {initial : State → Prop} {admits : State → Op → Prop} {step : State → Op → State}

theorem Reachable.invariant {holds : State → Prop} (atStart : ∀ state, initial state → holds state)
    (preserved : ∀ state op, holds state → admits state op → holds (step state op))
    {state : State} (reached : Reachable initial admits step state) : holds state := by
  induction reached with
  | start begins => exact atStart _ begins
  | next op _ admitted ih => exact preserved _ op ih admitted

/-- Each step of a list is admitted in the state the steps before it lead to. -/
def Allowed (admits : State → Op → Prop) (step : State → Op → State) : State → List Op → Prop
  | _, [] => True
  | state, op :: rest => admits state op ∧ Allowed admits step (step state op) rest

instance Allowed.decidable [∀ state op, Decidable (admits state op)] :
    ∀ state ops, Decidable (Allowed admits step state ops)
  | _, [] => .isTrue trivial
  | state, op :: rest =>
    have := Allowed.decidable (step state op) rest
    inferInstanceAs (Decidable (admits state op ∧ Allowed admits step (step state op) rest))

theorem Reachable.run {state : State} (reached : Reachable initial admits step state) {ops : List Op}
    (allowed : Allowed admits step state ops) : Reachable initial admits step (ops.foldl step state) := by
  induction ops generalizing state with
  | nil => exact reached
  | cons op rest ih => exact ih (.next op reached allowed.1) allowed.2

theorem allowed_of_forall (all : ∀ state op, admits state op) (state : State) (ops : List Op) :
    Allowed admits step state ops := by
  induction ops generalizing state with
  | nil => trivial
  | cons op rest ih => exact ⟨all state op, ih _⟩

theorem allowed_append {state : State} {first second : List Op} :
    Allowed admits step state (first ++ second) ↔
      Allowed admits step state first ∧ Allowed admits step (first.foldl step state) second := by
  induction first generalizing state with
  | nil => exact ⟨fun allowed => ⟨trivial, allowed⟩, fun both => both.2⟩
  | cons op rest ih =>
    rw [List.cons_append, Allowed, ih, Allowed, List.foldl_cons, and_assoc]

def Along (holds : State → Prop) (step : State → Op → State) : State → List Op → Prop
  | state, [] => holds state
  | state, op :: rest => holds state ∧ Along holds step (step state op) rest

theorem along_iff_allowed_of_legal {invariant holds : State → Prop} {legal : Op → Prop} {state : State}
    {ops : List Op} (keeps : ∀ state op, invariant state → invariant (step state op))
    (exact : ∀ state op, legal op → invariant state → holds state → (holds (step state op) ↔ admits state op))
    (begins : invariant state) (held : holds state) (allLegal : ∀ op ∈ ops, legal op) :
    Along holds step state ops ↔ Allowed admits step state ops := by
  induction ops generalizing state with
  | nil => exact iff_of_true held trivial
  | cons op rest ih =>
    have decides := exact state op (allLegal op List.mem_cons_self) begins held
    have restLegal : ∀ op ∈ rest, legal op := fun op member => allLegal op (List.mem_cons_of_mem _ member)
    constructor
    · rintro ⟨_, along⟩
      have next : holds (step state op) := by
        cases rest with
        | nil => exact along
        | cons => exact along.1
      exact ⟨decides.mp next, (ih (keeps state op begins) next restLegal).mp along⟩
    · rintro ⟨admitted, allowed⟩
      exact ⟨held, (ih (keeps state op begins) (decides.mpr admitted) restLegal).mpr allowed⟩

theorem along_iff_allowed {invariant holds : State → Prop} {state : State} {ops : List Op}
    (keeps : ∀ state op, invariant state → invariant (step state op))
    (exact : ∀ state op, invariant state → holds state → (holds (step state op) ↔ admits state op))
    (begins : invariant state) (held : holds state) :
    Along holds step state ops ↔ Allowed admits step state ops :=
  along_iff_allowed_of_legal keeps (fun state op (_ : True) => exact state op) begins held
    fun _ _ => trivial

def Leads (advance : State → State) (goal : State → Prop) (state : State) : Prop :=
  ∃ count, goal (advance^[count] state)

theorem Leads.next {advance : State → State} {goal : State → Prop} {state : State}
    (leads : Leads advance goal (advance state)) : Leads advance goal state := by
  obtain ⟨count, reached⟩ := leads
  exact ⟨count + 1, reached⟩

theorem Leads.imp {advance : State → State} {goal other : State → Prop} {state : State}
    (leads : Leads advance goal state) (weaker : ∀ state, goal state → other state) :
    Leads advance other state := by
  obtain ⟨count, reached⟩ := leads
  exact ⟨count, weaker _ reached⟩

theorem leads_of_rank {Rank : Type} {less : Rank → Rank → Prop} (wellFounded : WellFounded less)
    {advance : State → State} {invariant goal : State → Prop} (rank : State → Rank)
    (progress : ∀ state, invariant state →
      goal state ∨ invariant (advance state) ∧ less (rank (advance state)) (rank state))
    {state : State} (holds : invariant state) : Leads advance goal state := by
  induction hr : rank state using wellFounded.induction generalizing state with
  | _ value ih =>
    subst hr
    rcases progress state holds with reached | ⟨kept, lower⟩
    · exact ⟨0, reached⟩
    · exact (ih _ lower kept rfl).next

end Ngfw.Lib

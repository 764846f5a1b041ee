import Mathlib.Data.List.Basic
import Mathlib.Data.List.Perm.Basic

/-!
# Calls that interleave

A call in progress is the list of critical sections it has still to run. Running the first one changes the shared
state and may put further sections in front of the rest. A schedule chooses, step by step, which call goes on.
-/

namespace Ngfw.Lib
variable {State Section Entry Input : Type}

structure Threads (State Section : Type) where
  state : State
  calls : List (List Section) := []

inductive Move (Entry Input : Type)
  | start (entry : Entry)
  | run (index : Nat) (input : Input)

namespace Threads
variable (enter : Entry → List Section) (exec : Section → Input → State → State × List Section)

def next (t : Threads State Section) (index : Nat) : Option Section :=
  (t.calls[index]?).bind List.head?

def step (t : Threads State Section) : Move Entry Input → Threads State Section
  | .start entry => { t with calls := t.calls ++ [enter entry] }
  | .run index input =>
    match t.calls[index]? with
    | some (first :: rest) =>
      let ran := exec first input t.state
      { state := ran.1, calls := t.calls.set index (ran.2 ++ rest) }
    | _ => t

def pending (t : Threads State Section) : List Section :=
  t.calls.flatten

def quiet (t : Threads State Section) : Prop :=
  t.pending = []

instance [DecidableEq Section] (t : Threads State Section) : Decidable t.quiet :=
  inferInstanceAs (Decidable (_ = _))

/-- What running a section does: the state it leaves, and the sections that wait, among which its own successors take
its place. -/
structure Ran (t after : Threads State Section) (first : Section) (input : Input) : Prop where
  state : after.state = (exec first input t.state).1
  split : ∃ others, t.pending.Perm (first :: others) ∧
    after.pending.Perm ((exec first input t.state).2 ++ others)

variable {enter exec} {t : Threads State Section}

omit enter exec in
theorem quiet.notMem (atRest : t.quiet) (step : Section) : step ∉ t.pending := by
  rw [atRest]
  exact List.not_mem_nil

section
variable {after : Threads State Section} {first later : Section} {input : Input} (ran : Ran exec t after first input)
include ran

theorem Ran.was : first ∈ t.pending := by
  obtain ⟨others, before, -⟩ := ran.split
  exact before.mem_iff.mpr List.mem_cons_self

theorem Ran.fresh : ∀ later ∈ (exec first input t.state).2, later ∈ after.pending := by
  intro later produced
  obtain ⟨others, -, now⟩ := ran.split
  exact now.mem_iff.mpr (List.mem_append_left _ produced)

theorem Ran.stays : ∀ later ∈ t.pending, later = first ∨ later ∈ after.pending := by
  intro later waiting
  obtain ⟨others, before, now⟩ := ran.split
  rcases List.mem_cons.mp (before.mem_iff.mp waiting) with runs | other
  · exact .inl runs
  · exact .inr (now.mem_iff.mpr (List.mem_append_right _ other))

theorem Ran.origin :
    ∀ later ∈ after.pending, later ∈ (exec first input t.state).2 ∨ later ∈ t.pending := by
  intro later waiting
  obtain ⟨others, before, now⟩ := ran.split
  rcases List.mem_append.mp (now.mem_iff.mp waiting) with produced | other
  · exact .inl produced
  · exact .inr (before.mem_iff.mpr (List.mem_cons_of_mem _ other))

end

theorem ran_step {index : Nat} {input : Input} {first : Section} (runs : t.next index = some first) :
    Ran exec t (t.step enter exec (.run index input)) first input := by
  obtain ⟨call, found, head⟩ := Option.bind_eq_some_iff.mp runs
  obtain ⟨rest, rfl⟩ : ∃ rest, call = first :: rest := ⟨call.tail, (List.cons_head?_tail head).symm⟩
  obtain ⟨inside, at_⟩ := List.getElem?_eq_some_iff.mp found
  have stepped : t.step enter exec (.run index input) =
      ⟨(exec first input t.state).1, t.calls.set index ((exec first input t.state).2 ++ rest)⟩ := by
    simp only [step, found]
  -- the calls split into those before and after the one that runs
  have split : t.calls = t.calls.take index ++ (first :: rest) :: t.calls.drop (index + 1) := by
    rw [← at_, List.getElem_cons_drop, List.take_append_drop]
  refine ⟨by rw [stepped], (t.calls.take index).flatten ++ rest ++ (t.calls.drop (index + 1)).flatten, ?_, ?_⟩
  · rw [pending]
    conv_lhs => rw [split]
    simp only [List.flatten_append, List.flatten_cons, List.cons_append, List.append_assoc]
    exact List.perm_middle
  · rw [stepped, pending, List.set_eq_take_cons_drop _ inside]
    simp only [List.flatten_append, List.flatten_cons, List.append_assoc]
    exact List.perm_append_comm_assoc _ _ _

theorem step_idle {index : Nat} {input : Input} (ended : t.next index = none) :
    t.step enter exec (.run index input) = t := by
  unfold next at ended
  simp only [step]
  cases found : t.calls[index]? with
  | none => rfl
  | some call =>
    cases call with
    | nil => rfl
    | cons first rest => simp [found] at ended

theorem mem_pending_start {entry : Entry} {later : Section} :
    later ∈ (t.step enter exec (Move.start entry : Move Entry Input)).pending ↔
      later ∈ t.pending ∨ later ∈ enter entry := by
  simp [step, pending]

/-- An invariant of the shared state and the pending sections: calls that enter keep it, and so does every section
that runs. -/
theorem invariant_step {holds : Threads State Section → Prop} {move : Move Entry Input} (held : holds t)
    (started : ∀ entry, move = .start entry → holds (t.step enter exec (Move.start entry : Move Entry Input)))
    (ran : ∀ index input first after, move = .run index input → t.next index = some first →
      Ran exec t after first input → holds after) : holds (t.step enter exec move) := by
  cases move with
  | start entry => exact started entry rfl
  | run index input =>
    cases runs : t.next index with
    | none => rwa [step_idle runs]
    | some first => exact ran index input first _ rfl runs (ran_step runs)

end Threads

end Ngfw.Lib

import Mathlib.Data.List.Basic

/-!
# Calls on shared state

A call is a sequence of critical sections on a state that others share. Before each section the others may have
changed the state, so what holds of every run of a call holds under every interleaving.
-/

namespace Ngfw.Lib

inductive Call (State Error Value : Type) where
  | done (value : Value)
  | fail (error : Error)
  /-- One critical section: it turns the state it finds into `update`, and the call goes on as `next` says. -/
  | access (update : State → State) (next : State → Call State Error Value)

namespace Call
variable {State Error Value Result : Type} {result : Value}

protected def bind (call : Call State Error Value) (rest : Value → Call State Error Result) :
    Call State Error Result :=
  match call with
  | done value => rest value
  | fail error => .fail error
  | access update next => .access update fun state => (next state).bind rest

instance : Monad (Call State Error) where
  pure := .done
  bind := Call.bind

def read (look : State → Value) : Call State Error Value :=
  .access id fun state => .done (look state)

def modify (change : State → Value × State) : Call State Error Value :=
  .access (fun state => (change state).2) fun state => .done (change state).1

/-- The call can run from one state to another with this result; `seen` are the states its sections find, and `rely`
says what the others may do in between. -/
def Runs (rely : State → State → Prop) :
    Call State Error Value → State → List State → Except Error Value → State → Prop
  | done value, state, seen, result, after => seen = [] ∧ result = .ok value ∧ after = state
  | fail error, state, seen, result, after => seen = [] ∧ result = .error error ∧ after = state
  | access update next, state, seen, result, after =>
    ∃ found rest, rely state found ∧ seen = found :: rest ∧
      (next found).Runs rely (update found) rest result after

def alone : Call State Error Value → State → List State × Except Error Value × State
  | done value, state => ([], .ok value, state)
  | fail error, state => ([], .error error, state)
  | access update next, state =>
    let rest := (next state).alone (update state)
    (state :: rest.1, rest.2)

variable {rely : State → State → Prop} {state after : State} {seen : List State}

theorem alone_runs (stays : ∀ state, rely state state) (call : Call State Error Value) (state : State) :
    call.Runs rely state (call.alone state).1 (call.alone state).2.1 (call.alone state).2.2 := by
  induction call generalizing state with
  | done value => exact ⟨rfl, rfl, rfl⟩
  | fail error => exact ⟨rfl, rfl, rfl⟩
  | access update next ih => exact ⟨state, _, stays state, rfl, ih state (update state)⟩

@[simp] theorem runs_pure {value : Value} :
    (pure value : Call State Error Value).Runs rely state seen (.ok result) after ↔
      seen = [] ∧ result = value ∧ after = state := by
  change _ ∧ Except.ok result = .ok value ∧ _ ↔ _
  rw [Except.ok.injEq]

@[simp] theorem runs_fail {error : Error} :
    (fail error : Call State Error Value).Runs rely state seen (.ok result) after ↔ False := by
  change _ ∧ Except.ok result = .error error ∧ _ ↔ _
  simp

theorem runs_read {look : State → Value} :
    (read look : Call State Error Value).Runs rely state seen (.ok result) after ↔
      ∃ found, rely state found ∧ seen = [found] ∧ result = look found ∧ after = found := by
  constructor
  · rintro ⟨found, rest, related, rfl, rfl, value, same⟩
    exact ⟨found, related, rfl, Except.ok.inj value, same⟩
  · rintro ⟨found, related, rfl, rfl, rfl⟩
    exact ⟨_, [], related, rfl, rfl, rfl, rfl⟩

theorem runs_modify {change : State → Value × State} :
    (modify change : Call State Error Value).Runs rely state seen (.ok result) after ↔
      ∃ found, rely state found ∧ seen = [found] ∧ result = (change found).1 ∧ after = (change found).2 := by
  constructor
  · rintro ⟨found, rest, related, rfl, rfl, value, rfl⟩
    exact ⟨found, related, rfl, Except.ok.inj value, rfl⟩
  · rintro ⟨found, related, rfl, rfl, rfl⟩
    exact ⟨_, [], related, rfl, rfl, rfl, rfl⟩

theorem runs_bind {call : Call State Error Value} {rest : Value → Call State Error Result} {result : Result} :
    (call >>= rest).Runs rely state seen (.ok result) after ↔
      ∃ value first middle second, call.Runs rely state first (.ok value) middle ∧
        (rest value).Runs rely middle second (.ok result) after ∧ seen = first ++ second := by
  change (call.bind rest).Runs rely state seen (.ok result) after ↔ _
  induction call generalizing state seen with
  | done value =>
    constructor
    · exact fun runs => ⟨value, [], state, seen, ⟨rfl, rfl, rfl⟩, runs, rfl⟩
    · rintro ⟨same, first, middle, second, ⟨rfl, ok, rfl⟩, runs, rfl⟩
      cases ok
      exact runs
  | fail error =>
    constructor
    · rintro ⟨_, impossible, _⟩
      cases impossible
    · rintro ⟨_, _, _, _, ⟨_, impossible, _⟩, _⟩
      cases impossible
  | access update next ih =>
    constructor
    · rintro ⟨found, later, related, rfl, runs⟩
      obtain ⟨value, first, middle, second, runsFirst, runsSecond, rfl⟩ := (ih found).mp runs
      exact ⟨value, found :: first, middle, second, ⟨found, first, related, rfl, runsFirst⟩, runsSecond, rfl⟩
    · rintro ⟨value, _, middle, second, ⟨found, first, related, rfl, runsFirst⟩, runsSecond, rfl⟩
      exact ⟨found, first ++ second, related, rfl,
        (ih found).mpr ⟨value, first, middle, second, runsFirst, runsSecond, rfl⟩⟩

end Call

end Ngfw.Lib

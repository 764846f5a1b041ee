import Mathlib.Tactic.SplitIfs

/-!
# Procedures whose operations may fail

A procedure works on a state and calls operations of the system below. Which of them fail is decided outside, one
call site at a time, and an operation that fails changes nothing. An error does not undo what was done before it.
-/

namespace Ngfw.Lib

abbrev Faults (Op : Type) := Op → Option String

structure Procedure (Op State Error Value : Type) where
  run : Faults Op → State → Except Error Value × State

namespace Procedure
variable {Op Part State Inner Error Value Result : Type}

instance : Monad (Procedure Op State Error) where
  pure value := ⟨fun _ state => (.ok value, state)⟩
  bind first rest := ⟨fun faults state => match first.run faults state with
    | (.ok value, next) => (rest value).run faults next
    | (.error failure, next) => (.error failure, next)⟩

def fail (error : Error) : Procedure Op State Error Value :=
  ⟨fun _ state => (.error error, state)⟩

def require (condition : Prop) [Decidable condition] (error : Error) : Procedure Op State Error Unit :=
  if condition then pure () else fail error

def ofExcept (result : Except Error Value) : Procedure Op State Error Value :=
  ⟨fun _ state => (result, state)⟩

def look (view : State → Value) : Procedure Op State Error Value :=
  ⟨fun _ state => (.ok (view state), state)⟩

def update (change : State → State) : Procedure Op State Error Unit :=
  ⟨fun _ state => (.ok (), change state)⟩

def attempt (op : Op) (effect : State → State) : Procedure Op State String Unit :=
  ⟨fun faults state => match faults op with
    | some failure => (.error failure, state)
    | none => (.ok (), effect state)⟩

def outcome (p : Procedure Op State Error Value) : Procedure Op State Inner (Except Error Value) :=
  ⟨fun faults state => (.ok (p.run faults state).1, (p.run faults state).2)⟩

def mapError (f : Error → Inner) (p : Procedure Op State Error Value) : Procedure Op State Inner Value :=
  ⟨fun faults state => ((p.run faults state).1.mapError f, (p.run faults state).2)⟩

def rescue (p : Procedure Op State Inner Value) (handler : Inner → Procedure Op State Error Value) :
    Procedure Op State Error Value :=
  ⟨fun faults state => match p.run faults state with
    | (.ok value, next) => (.ok value, next)
    | (.error failure, next) => (handler failure).run faults next⟩

def deferred (last : Procedure Op State Inner Unit) (p : Procedure Op State Error Value) :
    Procedure Op State Error Value :=
  ⟨fun faults state => ((p.run faults state).1, (last.run faults (p.run faults state).2).2)⟩

def within (name : Inner → Op) (part : State → Part) (replace : Part → State → State)
    (p : Procedure Inner Part Error Value) : Procedure Op State Error Value :=
  ⟨fun faults state =>
    ((p.run (fun op => faults (name op)) (part state)).1,
      replace (p.run (fun op => faults (name op)) (part state)).2 state)⟩

/-! ## Where a run ends -/

def Ends (p : Procedure Op State Error Value) (faults : Faults Op) (state : State)
    (post : Except Error Value → State → Prop) : Prop :=
  post (p.run faults state).1 (p.run faults state).2

section
variable {faults : Faults Op} {state : State}

variable {post : Except Error Value → State → Prop} {p : Procedure Op State Error Value} {op : Op}
  {effect : State → State} {last : Procedure Op State Inner Unit}

theorem Ends.imp {weaker : Except Error Value → State → Prop}
    (ends : p.Ends faults state post) (implies : ∀ result after, post result after → weaker result after) :
    p.Ends faults state weaker :=
  implies _ _ ends

theorem Ends.both {one other : Except Error Value → State → Prop}
    (first : p.Ends faults state one) (second : p.Ends faults state other) :
    ∃ result after, one result after ∧ other result after :=
  ⟨_, _, first, second⟩

@[simp] theorem ends_pure {value : Value} :
    (pure value : Procedure Op State Error Value).Ends faults state post ↔ post (.ok value) state := Iff.rfl

@[simp] theorem ends_ofExcept {result : Except Error Value} :
    (ofExcept result : Procedure Op State Error Value).Ends faults state post ↔ post result state := Iff.rfl

@[simp] theorem ends_look {view : State → Value} :
    (look view : Procedure Op State Error Value).Ends faults state post ↔ post (.ok (view state)) state := Iff.rfl

@[simp] theorem ends_update {change : State → State} {post : Except Error Unit → State → Prop} :
    (update change : Procedure Op State Error Unit).Ends faults state post ↔ post (.ok ()) (change state) := Iff.rfl

@[simp] theorem ends_outcome {post : Except Inner (Except Error Value) → State → Prop} :
    (p.outcome : Procedure Op State Inner _).Ends faults state post ↔
      p.Ends faults state fun result after => post (.ok result) after := Iff.rfl

@[simp] theorem ends_mapError {f : Error → Inner} {post : Except Inner Value → State → Prop} :
    (p.mapError f).Ends faults state post ↔
      p.Ends faults state fun result after => post (result.mapError f) after := Iff.rfl

@[simp] theorem ends_deferred :
    (deferred last p).Ends faults state post ↔
      p.Ends faults state fun result after => last.Ends faults after fun _ final => post result final := Iff.rfl

@[simp] theorem ends_within {name : Inner → Op} {part : State → Part} {replace : Part → State → State}
    {p : Procedure Inner Part Error Value} :
    (p.within name part replace).Ends faults state post ↔
      p.Ends (fun op => faults (name op)) (part state) fun result after => post result (replace after state) := Iff.rfl

theorem ends_attempt {post : Except String Unit → State → Prop} :
    (attempt op effect).Ends faults state post ↔
      (faults op = none → post (.ok ()) (effect state)) ∧
        ∀ failure, faults op = some failure → post (.error failure) state := by
  cases given : faults op with
  | none | some => simp [Ends, attempt, given]

@[simp] theorem ends_bind {first : Procedure Op State Error Value} {rest : Value → Procedure Op State Error Result}
    {post : Except Error Result → State → Prop} :
    (first >>= rest).Ends faults state post ↔ first.Ends faults state fun result next => match result with
      | .ok value => (rest value).Ends faults next post
      | .error failure => post (.error failure) next := by
  have unfolded : (first >>= rest).run faults state = match first.run faults state with
      | (.ok value, next) => (rest value).run faults next
      | (.error failure, next) => (.error failure, next) := rfl
  unfold Ends
  rw [unfolded]
  cases runs : first.run faults state with
  | mk result next => cases result <;> rfl

@[simp] theorem ends_rescue {p : Procedure Op State Inner Value} {handler : Inner → Procedure Op State Error Value} :
    (p.rescue handler).Ends faults state post ↔ p.Ends faults state fun result next => match result with
      | .ok value => post (.ok value) next
      | .error failure => (handler failure).Ends faults next post := by
  have unfolded : (p.rescue handler).run faults state = match p.run faults state with
      | (.ok value, next) => (.ok value, next)
      | (.error failure, next) => (handler failure).run faults next := rfl
  unfold Ends
  rw [unfolded]
  cases runs : p.run faults state with
  | mk result next => cases result <;> rfl

theorem Ends.attempt {post : Except String Unit → State → Prop}
    (fails : ∀ failure, faults op = some failure → post (.error failure) state)
    (works : faults op = none → post (.ok ()) (effect state)) : (attempt op effect).Ends faults state post :=
  ends_attempt.mpr ⟨works, fails⟩

theorem Ends.require_bind {condition : Prop} [Decidable condition] {error : Error}
    {rest : Unit → Procedure Op State Error Value}
    (fails : ¬condition → post (.error error) state) (holds : condition → (rest ()).Ends faults state post) :
    (require condition error >>= rest).Ends faults state post := by
  unfold require
  split_ifs with given
  · exact holds given
  · exact fails given

theorem Ends.attempt_bind {rest : Unit → Procedure Op State String Value}
    {post : Except String Value → State → Prop}
    (fails : ∀ failure, faults op = some failure → post (.error failure) state)
    (works : faults op = none → (rest ()).Ends faults (effect state) post) :
    (Procedure.attempt op effect >>= rest).Ends faults state post :=
  ends_bind.mpr (.attempt fails works)

theorem Ends.deferred {View : Type} (view : State → View) (post : Except Error Value → View → Prop)
    (keeps : ∀ after, view (last.run faults after).2 = view after)
    (ends : p.Ends faults state fun result after => post result (view after)) :
    (deferred last p).Ends faults state fun result after => post result (view after) := by
  refine ends_deferred.mpr (ends.imp fun result after holds => ?_)
  change post result (view (last.run faults after).2)
  rwa [keeps]

end

end Procedure

end Ngfw.Lib

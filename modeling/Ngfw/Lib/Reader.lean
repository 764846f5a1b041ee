import Mathlib.Data.List.Basic

namespace Ngfw.Lib

inductive ReadStatus (Error : Type*)
  | more
  | eof
  | failed (error : Error)
  deriving DecidableEq

structure Reading (State Error : Type*) where
  bytes : List UInt8
  status : ReadStatus Error
  after : State

/-- io.Reader: one call fills at most the bytes it is offered. -/
def Reader (State Error : Type*) :=
  Nat → State → Reading State Error

namespace Reader

variable {State Error : Type*}

/-- io.ReadAll. `spare held` is the free capacity of the buffer, less one, when it holds `held` bytes. -/
def readAll (reader : Reader State Error) (spare : Nat → Nat) :
    Nat → List UInt8 → State → Option (List UInt8 × Option Error × State)
  | 0, _, _ => none
  | fuel + 1, held, state =>
    let reading := reader (spare held.length + 1) state
    match reading.status with
    | .eof => some (held ++ reading.bytes, none, reading.after)
    | .failed error => some (held ++ reading.bytes, some error, reading.after)
    | .more => readAll reader spare fuel (held ++ reading.bytes) reading.after

/-- What one read does to a loop: it reaches the end with `Post`, or keeps `Inv` and comes closer to it. -/
def Advances (Inv : List UInt8 → State → Prop) (rank : State → Nat)
    (Post : List UInt8 → Option Error → State → Prop) (held : List UInt8) (state : State)
    (reading : Reading State Error) : Prop :=
  match reading.status with
  | .eof => Post (held ++ reading.bytes) none reading.after
  | .failed error => Post (held ++ reading.bytes) (some error) reading.after
  | .more => Inv (held ++ reading.bytes) reading.after ∧ rank reading.after < rank state

theorem readAll_rule (reader : Reader State Error) (spare : Nat → Nat)
    (Inv : List UInt8 → State → Prop) (rank : State → Nat)
    (Post : List UInt8 → Option Error → State → Prop)
    (advances : ∀ held state room, 0 < room → Inv held state →
      Advances Inv rank Post held state (reader room state)) :
    ∀ fuel held state, Inv held state → rank state < fuel →
      ∃ bytes failure after, readAll reader spare fuel held state = some (bytes, failure, after) ∧
        Post bytes failure after := by
  intro fuel
  induction fuel with
  | zero => intro held state _ bound; omega
  | succ fuel ih =>
    intro held state inv bound
    have step := advances held state (spare held.length + 1) (by omega) inv
    simp only [readAll]
    unfold Advances at step
    cases status : (reader (spare held.length + 1) state).status with
    | eof | failed =>
      rw [status] at step
      exact ⟨_, _, _, rfl, step⟩
    | more =>
      rw [status] at step
      exact ih _ _ step.1 (by omega)

def limit (reader : Reader State Error) : Reader (Nat × State) Error := fun room (remaining, state) =>
  if remaining = 0 then ⟨[], .eof, (0, state)⟩
  else
    let reading := reader (min room remaining) state
    ⟨reading.bytes, reading.status, (remaining - reading.bytes.length, reading.after)⟩

/-- io.MultiReader of a bytes.Reader and a second reader; the first component is what the bytes.Reader
still holds. -/
def afterBytes (reader : Reader State Error) : Reader (List UInt8 × State) Error :=
  fun room (buffered, state) =>
    if buffered = [] then
      let reading := reader room state
      ⟨reading.bytes, reading.status, ([], reading.after)⟩
    else ⟨buffered.take room, .more, (buffered.drop room, state)⟩

end Reader

/-- A byte source as its reader meets it: the pieces that successive reads find ready, and how the stream
ends. A reader may report the end together with the last piece (`joined`) or in a read of its own; either
way every later read reports it again. -/
structure Source (Error : Type*) where
  pieces : List (List UInt8)
  joined : Bool
  failure : Option Error
  deriving DecidableEq

namespace Source

variable {Error : Type*}

def stream (source : Source Error) : List UInt8 :=
  source.pieces.flatten

def ending (source : Source Error) : ReadStatus Error :=
  match source.failure with
  | none => .eof
  | some error => .failed error

def read : Reader (Source Error) Error := fun room source =>
  match source.pieces with
  | [] => ⟨[], source.ending, source⟩
  | piece :: rest =>
    if piece.length ≤ room then
      ⟨piece, if source.joined ∧ rest = [] then source.ending else .more, { source with pieces := rest }⟩
    else ⟨piece.take room, .more, { source with pieces := piece.drop room :: rest }⟩

def rank (source : Source Error) : Nat :=
  source.stream.length + source.pieces.length

theorem read_spec (source : Source Error) (room : Nat) (offered : 0 < room) :
    let reading := read room source
    reading.bytes.length ≤ room ∧ reading.after.failure = source.failure ∧
    reading.bytes ++ reading.after.stream = source.stream ∧
    (reading.status = .more ∧ reading.after.rank < source.rank ∨
      reading.status = source.ending ∧ reading.after.stream = []) := by
  obtain ⟨pieces, joined, failure⟩ := source
  cases pieces with
  | nil => simp [read, stream, ending]
  | cons piece rest =>
    by_cases fits : piece.length ≤ room
    · by_cases last : joined = true ∧ rest = []
      · simp [read, fits, last, stream, ending]
      · refine ⟨by simp [read, fits], by simp [read, fits], by simp [read, fits, stream], .inl ?_⟩
        simp only [read, fits, if_true, if_neg last, rank, stream, List.flatten_cons,
          List.length_append, List.length_cons]
        exact ⟨trivial, by omega⟩
    · refine ⟨?_, by simp [read, fits], ?_, .inl ?_⟩
      · simp only [read, fits, if_false]
        exact List.length_take_le _ _
      · simp only [read, fits, if_false, stream, List.flatten_cons, ← List.append_assoc,
          List.take_append_drop]
      · simp only [read, fits, if_false, rank, stream, List.flatten_cons, List.length_append,
          List.length_cons, List.length_drop]
        exact ⟨trivial, by omega⟩

theorem readAll_limit (source : Source Error) (spare : Nat → Nat) (bound fuel : Nat)
    (enough : source.rank < fuel) :
    ∃ bytes failure after,
      Reader.readAll (Reader.limit read) spare fuel [] (bound, source) = some (bytes, failure, after) ∧
      (failure = none → bytes = source.stream.take bound ∧ after.2.stream = source.stream.drop bound ∧
        after.2.failure = source.failure) ∧
      (failure = none ∨ failure = source.failure) := by
  -- the bytes held and the bytes to come are the stream, and what is held counts against the bound
  let Inv (held : List UInt8) (state : Nat × Source Error) : Prop :=
    held ++ state.2.stream = source.stream ∧ held.length + state.1 = bound ∧
      state.2.failure = source.failure
  let Post (bytes : List UInt8) (failure : Option Error) (after : Nat × Source Error) : Prop :=
    (failure = none → bytes = source.stream.take bound ∧ after.2.stream = source.stream.drop bound ∧
      after.2.failure = source.failure) ∧ (failure = none ∨ failure = source.failure)
  have split : ∀ bytes rest : List UInt8, bytes ++ rest = source.stream → bytes.length ≤ bound →
      bytes.length = bound ∨ rest = [] →
      bytes = source.stream.take bound ∧ rest = source.stream.drop bound := by
    rintro bytes rest whole fits (full | rfl)
    · rw [← whole, ← full]
      simp
    · rw [← whole, List.append_nil]
      exact ⟨(List.take_of_length_le fits).symm, (List.drop_eq_nil_of_le fits).symm⟩
  refine Reader.readAll_rule (Reader.limit read) spare Inv (fun state => state.2.rank) Post ?_ fuel []
    (bound, source) ⟨rfl, by simp, rfl⟩ enough
  rintro held ⟨remaining, state⟩ room offered ⟨whole, counted, same⟩
  by_cases spent : remaining = 0
  · simp only [Reader.Advances, Reader.limit, spent, if_true, List.append_nil]
    obtain ⟨taken, left⟩ := split held state.stream whole (by omega) (.inl (by omega))
    exact ⟨fun _ => ⟨taken, left, same⟩, .inl rfl⟩
  · obtain ⟨fits, kept, delivered, progress⟩ := read_spec state (min room remaining) (by omega)
    have within : (read (min room remaining) state).bytes.length ≤ remaining := by omega
    have whole' : held ++ (read (min room remaining) state).bytes ++
        (read (min room remaining) state).after.stream = source.stream := by
      rw [List.append_assoc, delivered, whole]
    simp only [Reader.Advances, Reader.limit, spent, if_false]
    rcases progress with ⟨more, closer⟩ | ⟨ended, drained⟩
    · rw [more]
      refine ⟨⟨whole', ?_, kept.trans same⟩, closer⟩
      simp only [List.length_append]
      omega
    · rw [ended]
      unfold ending
      cases failure : state.failure with
      | some error => exact ⟨(nomatch ·), .inr (failure.symm.trans same)⟩
      | none =>
        obtain ⟨taken, left⟩ := split _ _ whole' (by simp only [List.length_append]; omega) (.inr drained)
        exact ⟨fun _ => ⟨taken, left, kept.trans same⟩, .inl rfl⟩

theorem readAll_afterBytes (buffered : List UInt8) (source : Source Error) (spare : Nat → Nat) (fuel : Nat)
    (enough : buffered.length + source.rank < fuel) :
    ∃ after, Reader.readAll (Reader.afterBytes read) spare fuel [] (buffered, source) =
      some (buffered ++ source.stream, source.failure, after) := by
  let Inv (held : List UInt8) (state : List UInt8 × Source Error) : Prop :=
    held ++ state.1 ++ state.2.stream = buffered ++ source.stream ∧ state.2.failure = source.failure
  let Post (bytes : List UInt8) (failure : Option Error) (_ : List UInt8 × Source Error) : Prop :=
    bytes = buffered ++ source.stream ∧ failure = source.failure
  have advances : ∀ held state room, 0 < room → Inv held state → Reader.Advances Inv
      (fun state => state.1.length + state.2.rank) Post held state (Reader.afterBytes read room state) := by
    rintro held ⟨pending, state⟩ room offered ⟨delivered, same⟩
    by_cases drained : pending = []
    · subst drained
      obtain ⟨-, kept, passed, progress⟩ := read_spec state room offered
      simp only [Reader.Advances, Reader.afterBytes, if_true]
      rcases progress with ⟨more, closer⟩ | ⟨ended, empty⟩
      · rw [more]
        refine ⟨⟨?_, kept.trans same⟩, by simpa using closer⟩
        simpa [List.append_assoc, passed] using delivered
      · rw [empty, List.append_nil] at passed
        have all : held ++ (read room state).bytes = buffered ++ source.stream := by
          simpa [passed] using delivered
        rw [ended]
        unfold ending
        cases failure : state.failure with
        | some | none => exact ⟨all, failure ▸ same⟩
    · simp only [Reader.Advances, Reader.afterBytes, drained, if_false]
      have shorter : (pending.drop room).length < pending.length := by
        have := List.length_pos_iff.mpr drained
        simp only [List.length_drop]
        omega
      refine ⟨⟨?_, same⟩, by omega⟩
      rw [List.append_assoc held, List.take_append_drop]
      exact delivered
  obtain ⟨bytes, failure, after, finished, all, same⟩ := Reader.readAll_rule (Reader.afterBytes read) spare
    Inv _ Post advances fuel [] (buffered, source) ⟨rfl, rfl⟩ enough
  exact ⟨after, by rw [finished, all, same]⟩

end Source

end Ngfw.Lib

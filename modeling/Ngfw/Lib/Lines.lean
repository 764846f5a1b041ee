import Mathlib.Data.List.Basic

/-!
# Lines of a text

A complete line is a newline with the bytes before it. A text is its complete lines and a rest without a newline.
-/

namespace Ngfw.Lib

def newline : UInt8 := 10

def IsLine (line : List UInt8) : Prop :=
  ∃ body, newline ∉ body ∧ line = body ++ [newline]

def completeLinesFrom (line : List UInt8) : List UInt8 → List (List UInt8)
  | [] => []
  | byte :: rest =>
    if byte = newline then (line ++ [byte]) :: completeLinesFrom [] rest
    else completeLinesFrom (line ++ [byte]) rest

def completeLines (text : List UInt8) : List (List UInt8) :=
  completeLinesFrom [] text

structure Frame where
  start : Nat
  stop : Nat
  line : List UInt8
  deriving DecidableEq

def frames (start : Nat) : List (List UInt8) → List Frame
  | [] => []
  | line :: rest => ⟨start, start + line.length, line⟩ :: frames (start + line.length) rest

def slice (text : List UInt8) (start stop : Nat) : List UInt8 :=
  (text.drop start).take (stop - start)

section
variable (line text : List UInt8)

@[simp] theorem slice_self (start : Nat) : slice text start start = [] := by
  simp [slice]

theorem slice_of_le {start stop : Nat} (empty : stop ≤ start) : slice text start stop = [] := by
  rw [slice, Nat.sub_eq_zero_of_le empty, List.take_zero]

theorem length_slice {text : List UInt8} {stop : Nat} (inside : stop ≤ text.length) (start : Nat) :
    (slice text start stop).length = stop - start := by
  simp only [slice, List.length_take, List.length_drop]
  omega

theorem slice_append_slice {start middle stop : Nat} (first : start ≤ middle)
    (second : middle ≤ stop) : slice text start middle ++ slice text middle stop = slice text start stop := by
  have split : stop - start = (middle - start) + (stop - middle) := by omega
  have behind : start + (middle - start) = middle := by omega
  simp only [slice]
  rw [split, List.take_add, List.drop_drop, behind]

theorem mem_slice_of_le {text : List UInt8} {byte : UInt8} {start middle stop : Nat} (later : start ≤ middle)
    (member : byte ∈ slice text middle stop) : byte ∈ slice text start stop := by
  by_cases ordered : middle ≤ stop
  · rw [← slice_append_slice text later ordered]
    exact List.mem_append_right _ member
  · rw [slice_of_le text (Nat.le_of_not_le ordered)] at member
    cases member

theorem slice_append {text : List UInt8} {stop : Nat} (inside : stop ≤ text.length) (start : Nat)
    (more : List UInt8) : slice (text ++ more) start stop = slice text start stop := by
  simp only [slice]
  by_cases before : start ≤ text.length
  · rw [List.drop_append_of_le_length before, List.take_append_of_le_length]
    rw [List.length_drop]
    omega
  · have empty : stop - start = 0 := by omega
    rw [empty, List.take_zero, List.take_zero]

theorem take_append_slice {start stop : Nat} (ordered : start ≤ stop) :
    text.take start ++ slice text start stop = text.take stop := by
  have joined := slice_append_slice text (Nat.zero_le start) ordered
  simpa [slice] using joined

theorem IsLine.length_pos {line : List UInt8} (complete : IsLine line) : 0 < line.length := by
  obtain ⟨body, _, rfl⟩ := complete
  simp

theorem take_slice {start stop count : Nat} (inside : start + count ≤ stop) :
    (slice text start stop).take count = slice text start (start + count) := by
  simp only [slice, List.take_take]
  congr 1
  omega

theorem IsLine.prepend {body line : List UInt8} (none : newline ∉ body) (complete : IsLine line) :
    IsLine (body ++ line) := by
  obtain ⟨rest, absent, rfl⟩ := complete
  exact ⟨body ++ rest, by simp [none, absent], by simp⟩

theorem isLine_take_idxOf {text : List UInt8} (ends : newline ∈ text) :
    IsLine (text.take (text.idxOf newline + 1)) := by
  induction text with
  | nil => cases ends
  | cons byte rest ih =>
    by_cases here : byte = newline
    · subst here
      exact ⟨[], List.not_mem_nil, by simp⟩
    · have later : newline ∈ rest := (List.mem_cons.mp ends).resolve_left (Ne.symm here)
      rw [List.idxOf_cons_ne _ here, List.take_succ_cons]
      have other : newline ∉ [byte] := by simpa using Ne.symm here
      exact (ih later).prepend other

theorem completeLinesFrom_of_notMem (none : newline ∉ text) : completeLinesFrom line text = [] := by
  induction text generalizing line with
  | nil => rfl
  | cons byte rest ih =>
    simp only [List.mem_cons, not_or] at none
    simp only [completeLinesFrom, if_neg (Ne.symm none.1)]
    exact ih _ none.2

theorem completeLinesFrom_append (body rest : List UInt8) (none : newline ∉ body) :
    completeLinesFrom line (body ++ newline :: rest) = (line ++ body ++ [newline]) :: completeLines rest := by
  induction body generalizing line with
  | nil => simp [completeLinesFrom, completeLines]
  | cons byte body ih =>
    simp only [List.mem_cons, not_or] at none
    simp only [List.cons_append, completeLinesFrom, if_neg (Ne.symm none.1)]
    rw [ih _ none.2]
    simp

end

theorem completeLines_of_notMem {text : List UInt8} (none : newline ∉ text) : completeLines text = [] :=
  completeLinesFrom_of_notMem [] text none

theorem isLine_of_mem_completeLinesFrom {before text line : List UInt8} (none : newline ∉ before)
    (member : line ∈ completeLinesFrom before text) : IsLine line := by
  induction text generalizing before with
  | nil => cases member
  | cons byte rest ih =>
    simp only [completeLinesFrom] at member
    split_ifs at member with ends
    · rcases List.mem_cons.mp member with rfl | later
      · exact ⟨before, none, by rw [ends]⟩
      · exact ih List.not_mem_nil later
    · exact ih (by simpa [none] using Ne.symm ends) member

theorem isLine_of_mem_completeLines {text line : List UInt8} (member : line ∈ completeLines text) : IsLine line :=
  isLine_of_mem_completeLinesFrom List.not_mem_nil member

theorem completeLines_append {line : List UInt8} (complete : IsLine line) (rest : List UInt8) :
    completeLines (line ++ rest) = line :: completeLines rest := by
  obtain ⟨body, none, rfl⟩ := complete
  rw [List.append_assoc]
  exact completeLinesFrom_append [] body rest none

theorem completeLines_flatten {lines : List (List UInt8)} (complete : ∀ line ∈ lines, IsLine line)
    (rest : List UInt8) : completeLines (lines.flatten ++ rest) = lines ++ completeLines rest := by
  induction lines with
  | nil => rfl
  | cons line lines ih =>
    rw [List.flatten_cons, List.append_assoc, completeLines_append (complete line List.mem_cons_self),
      ih fun other member => complete other (List.mem_cons_of_mem _ member), List.cons_append]

theorem frames_append (start : Nat) (first second : List (List UInt8)) :
    frames start (first ++ second) = frames start first ++ frames (start + first.flatten.length) second := by
  induction first generalizing start with
  | nil => simp [frames]
  | cons line first ih =>
    simp only [List.cons_append, frames, ih, List.flatten_cons, List.length_append]
    rw [Nat.add_assoc]

theorem line_unique {text : List UInt8} {start stop stop' : Nat} (inside : stop ≤ text.length)
    (inside' : stop' ≤ text.length) (line : IsLine (slice text start stop))
    (line' : IsLine (slice text start stop')) : stop = stop' := by
  have first : ∀ {stop : Nat}, IsLine (slice text start stop) →
      (completeLines (text.drop start)).head? = some (slice text start stop) := by
    intro stop line
    have lines := completeLines_append line ((text.drop start).drop (stop - start))
    rw [slice, List.take_append_drop] at lines
    rw [lines]
    rfl
  have same := Option.some.inj ((first line).symm.trans (first line'))
  have length := line.length_pos
  have length' := line'.length_pos
  have equal := congrArg List.length same
  rw [length_slice inside] at length equal
  rw [length_slice inside'] at length' equal
  omega

/-! ## Texts read up to an offset -/

structure Framed (text : List UInt8) (offset : Nat) (lines : List (List UInt8)) : Prop where
  inside : offset ≤ text.length
  complete : ∀ line ∈ lines, IsLine line
  joined : lines.flatten = text.take offset

variable {text : List UInt8} {offset : Nat} {lines : List (List UInt8)}

theorem Framed.start (text : List UInt8) : Framed text 0 [] where
  inside := Nat.zero_le _
  complete := by simp
  joined := rfl

section
variable (framed : Framed text offset lines)
include framed

theorem Framed.length : lines.flatten.length = offset := by
  rw [framed.joined, List.length_take]
  exact Nat.min_eq_left framed.inside

theorem Framed.append (more : List UInt8) : Framed (text ++ more) offset lines where
  inside := by
    rw [List.length_append]
    exact Nat.le_add_right_of_le framed.inside
  complete := framed.complete
  joined := by rw [List.take_append_of_le_length framed.inside, framed.joined]

theorem Framed.next {stop : Nat} (ordered : offset ≤ stop)
    (inside : stop ≤ text.length) (complete : IsLine (slice text offset stop)) :
    Framed text stop (lines ++ [slice text offset stop]) where
  inside := inside
  complete := by
    intro line member
    rcases List.mem_append.mp member with old | new
    · exact framed.complete line old
    · rw [List.mem_singleton.mp new]
      exact complete
  joined := by
    rw [List.flatten_append, framed.joined, List.flatten_singleton]
    exact take_append_slice text ordered

theorem Framed.frames_next {stop : Nat} (ordered : offset ≤ stop)
    (inside : stop ≤ text.length) : frames 0 (lines ++ [slice text offset stop]) =
      frames 0 lines ++ [⟨offset, stop, slice text offset stop⟩] := by
  rw [frames_append, framed.length]
  simp only [frames, length_slice inside, Nat.zero_add]
  congr 3
  omega

theorem Framed.completeLines : completeLines text = lines ++ Lib.completeLines (text.drop offset) := by
  conv_lhs => rw [← List.take_append_drop offset text, ← framed.joined]
  exact completeLines_flatten framed.complete _

theorem Framed.eq_completeLines (none : newline ∉ text.drop offset) : lines = Lib.completeLines text := by
  rw [framed.completeLines, completeLines_of_notMem none, List.append_nil]

theorem Framed.eq_take : lines = (Lib.completeLines text).take lines.length := by
  rw [framed.completeLines, List.take_left]

end

def IsLineStart (text : List UInt8) (offset : Nat) : Prop :=
  offset ≤ text.length ∧ ∀ before, before + 1 = offset → text[before]? = some newline

theorem isLineStart_zero (text : List UInt8) : IsLineStart text 0 :=
  ⟨Nat.zero_le _, fun _ behind => absurd behind (Nat.succ_ne_zero _)⟩

theorem IsLineStart.append (starts : IsLineStart text offset) (more : List UInt8) :
    IsLineStart (text ++ more) offset := by
  refine ⟨?_, fun before behind => ?_⟩
  · rw [List.length_append]
    exact Nat.le_add_right_of_le starts.1
  · have inside : before < text.length := Nat.lt_of_lt_of_le (by omega) starts.1
    rw [List.getElem?_append_left inside]
    exact starts.2 before behind

theorem isLineStart_of_isLine {start stop : Nat} (inside : stop ≤ text.length)
    (complete : IsLine (slice text start stop)) : IsLineStart text stop := by
  refine ⟨inside, fun before behind => ?_⟩
  obtain ⟨body, _, line⟩ := complete
  have length := congrArg List.length line
  rw [length_slice inside, List.length_append, List.length_singleton] at length
  have last : (slice text start stop)[body.length]? = some newline := by
    rw [line]
    simp
  have place : start + body.length = before := by omega
  rw [slice, List.getElem?_take_of_lt (by omega), List.getElem?_drop, place] at last
  exact last

theorem Framed.isLineStart (framed : Framed text offset lines) : IsLineStart text offset := by
  rcases List.eq_nil_or_concat lines with none | ⟨before, line, rfl⟩
  · have zero := framed.length
    subst none
    simp only [List.flatten_nil, List.length_nil] at zero
    subst zero
    exact isLineStart_zero text
  · have length := framed.length
    have joined := framed.joined
    have complete := framed.complete line (by simp)
    simp only [List.concat_eq_append, List.flatten_append, List.flatten_singleton, List.length_append] at joined length
    have last : slice text before.flatten.length offset = line := by
      have behind := congrArg (List.drop before.flatten.length) joined
      rw [List.drop_left, List.drop_take] at behind
      exact behind.symm
    apply isLineStart_of_isLine framed.inside
    rw [last]
    exact complete

end Ngfw.Lib

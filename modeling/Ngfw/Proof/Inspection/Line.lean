import Ngfw.Inspection.Eve

namespace Ngfw.Inspection
open Lib

namespace LineRead

/-- The bytes from the start of the line to the position are those of the text, none of them ends it, and what was
collected of them is right. -/
structure Gathered (max : Nat) (text : List UInt8) (line : LineRead) : Prop where
  ordered : line.start ≤ line.offset
  inside : line.position ≤ text.length
  fits : line.buffer.length < bufferSize
  unended : newline ∉ slice text line.start line.position
  buffered : line.buffer = slice text line.offset line.position
  large : line.tooLarge = true ↔ max < line.offset - line.start
  collected : line.tooLarge = false → line.collected = slice text line.start line.offset

structure Completed (max : Nat) (text : List UInt8) (start : Nat) (line : LineRead) : Prop where
  starts : line.start = start
  ordered : start ≤ line.offset
  inside : line.offset ≤ text.length
  complete : IsLine (slice text start line.offset)
  large : line.tooLarge = true ↔ max < line.offset - start
  collected : line.tooLarge = false → line.collected = slice text start line.offset

variable {max : Nat} {text : List UInt8} {line : LineRead}

theorem Gathered.begin {offset : Nat} (inside : offset ≤ text.length) :
    Gathered max text { start := offset, offset } := by
  constructor <;> simp [position, bufferSize, inside]

theorem Gathered.append (gathered : Gathered max text line) (more : List UInt8) :
    Gathered max (text ++ more) line := by
  have inside := gathered.inside
  have before : line.offset ≤ text.length := Nat.le_trans (Nat.le_add_right _ _) inside
  constructor
  · exact gathered.ordered
  · rw [List.length_append]
    omega
  · exact gathered.fits
  · rw [slice_append inside]
    exact gathered.unended
  · rw [slice_append inside]
    exact gathered.buffered
  · exact gathered.large
  · rw [slice_append before]
    exact gathered.collected

@[simp] theorem fragment_start (bytes : List UInt8) : (line.fragment max bytes).start = line.start := by
  simp only [fragment]
  split_ifs <;> rfl

@[simp] theorem fragment_offset (bytes : List UInt8) :
    (line.fragment max bytes).offset = line.offset + bytes.length := by
  simp only [fragment]
  split_ifs <;> rfl

@[simp] theorem fragment_buffer (bytes : List UInt8) : (line.fragment max bytes).buffer = [] := by
  simp only [fragment]
  split_ifs <;> rfl

theorem Gathered.fragment (gathered : Gathered max text line) {stop : Nat} (ordered : line.offset ≤ stop)
    (inside : stop ≤ text.length) :
    ((line.fragment max (slice text line.offset stop)).tooLarge = true ↔ max < stop - line.start) ∧
      ((line.fragment max (slice text line.offset stop)).tooLarge = false →
        (line.fragment max (slice text line.offset stop)).collected = slice text line.start stop) := by
  have length := length_slice inside line.offset
  have started := gathered.ordered
  have joined := slice_append_slice text started ordered
  cases large : line.tooLarge with
  | true =>
    have exceeds := gathered.large.mp large
    have still : max < stop - line.start := by omega
    simp only [LineRead.fragment]
    split_ifs <;> simp_all
  | false =>
    have within : ¬max < line.offset - line.start := fun exceeds => by
      rw [gathered.large.mpr exceeds] at large
      cases large
    have collected := gathered.collected large
    have size : line.collected.length = line.offset - line.start := by
      rw [collected, length_slice (Nat.le_trans ordered inside)]
    simp only [LineRead.fragment, length, size, large, Bool.not_false, if_true]
    split_ifs with exceeds
    · simp only [true_iff, false_implies, and_true]
      omega
    · simp only [false_iff, forall_const, collected]
      exact ⟨by omega, joined⟩

theorem Gathered.absorb (gathered : Gathered max text line) {stop : Nat} (reaches : line.position ≤ stop)
    (inside : stop ≤ text.length) {after : LineRead × Bool}
    (read : line.absorb max (slice text line.position stop) = after) :
    (after.2 = true ∧ Completed max text line.start after.1) ∨
      (after.2 = false ∧ Gathered max text after.1 ∧ after.1.start = line.start ∧ after.1.position = stop) := by
  have ordered := gathered.ordered
  have fits := gathered.fits
  have behind : line.offset ≤ line.position := Nat.le_add_right _ _
  have further : line.offset ≤ stop := Nat.le_trans behind reaches
  have buffer : line.buffer ++ slice text line.position stop = slice text line.offset stop := by
    conv_lhs => rw [gathered.buffered]
    exact slice_append_slice text behind reaches
  have length : (slice text line.offset stop).length = stop - line.offset := length_slice inside line.offset
  have unended : newline ∉ slice text line.start line.offset := fun member => by
    apply gathered.unended
    rw [← slice_append_slice text ordered behind]
    exact List.mem_append_left _ member
  subst read
  simp only [LineRead.absorb, buffer]
  by_cases ends : newline ∈ slice text line.offset stop
  · left
    have found := List.idxOf_lt_length_of_mem ends
    rw [length] at found
    have stops : line.offset + ((slice text line.offset stop).idxOf newline + 1) ≤ stop := by omega
    have piece := isLine_take_idxOf ends
    rw [take_slice text stops] at piece
    simp only [if_pos ends, take_slice text stops, true_and]
    have more : line.offset ≤ line.offset + ((slice text line.offset stop).idxOf newline + 1) := Nat.le_add_right _ _
    generalize line.offset + ((slice text line.offset stop).idxOf newline + 1) = last at *
    have last_inside : last ≤ text.length := Nat.le_trans stops inside
    have offset : (line.fragment max (slice text line.offset last)).offset = last := by
      rw [fragment_offset, length_slice last_inside]
      omega
    obtain ⟨large, collected⟩ := gathered.fragment more last_inside
    refine ⟨fragment_start _, ?_, ?_, ?_, ?_, ?_⟩ <;> rw [offset]
    · omega
    · exact last_inside
    · rw [← slice_append_slice text ordered more]
      exact piece.prepend unended
    · exact large
    · exact collected
  · right
    have none : newline ∉ slice text line.start stop := by
      rw [← slice_append_slice text ordered further, List.mem_append, not_or]
      exact ⟨unended, ends⟩
    simp only [if_neg ends]
    split_ifs with full
    · obtain ⟨large, collected⟩ := gathered.fragment further inside
      have offset : (line.fragment max (slice text line.offset stop)).offset = stop := by
        rw [fragment_offset, length]
        omega
      have reached : (line.fragment max (slice text line.offset stop)).position = stop := by
        rw [position, offset, fragment_buffer]
        rfl
      refine ⟨rfl, ⟨?_, ?_, ?_, ?_, ?_, ?_, ?_⟩, fragment_start _, reached⟩
      · rw [fragment_start, offset]
        omega
      · rw [reached]
        exact inside
      · rw [fragment_buffer]
        decide
      · rw [fragment_start, reached]
        exact none
      · rw [fragment_buffer, offset, reached, slice_self]
      · rw [fragment_start, offset]
        exact large
      · rw [fragment_start, offset]
        exact collected
    · have reached : line.offset + (slice text line.offset stop).length = stop := by
        rw [length]
        omega
      refine ⟨rfl, ⟨ordered, ?_, ?_, ?_, ?_, gathered.large, gathered.collected⟩, rfl, reached⟩
      · exact Nat.le_trans (Nat.le_of_eq reached) inside
      · exact Nat.lt_of_not_le full
      · change newline ∉ slice text line.start (line.offset + (slice text line.offset stop).length)
        rw [reached]
        exact none
      · change _ = slice text line.offset (line.offset + (slice text line.offset stop).length)
        rw [reached]

theorem read_eq (text : List UInt8) (position room : Nat) :
    (text.drop position).take room = slice text position (position + min room (text.length - position)) := by
  rw [slice, Nat.add_sub_cancel_left, ← List.length_drop]
  exact (List.take_eq_take_min ..)

end LineRead

def IsText (line text : List UInt8) : Prop :=
  text ++ [13, newline] = line ∨ text ++ [newline] = line ∧ text.getLast? ≠ some 13

theorem isText_chomp {line : List UInt8} (complete : IsLine line) : IsText line (chomp line) := by
  obtain ⟨body, _, rfl⟩ := complete
  simp only [IsText, chomp, dropLast, List.getLast?_concat, if_true, List.dropLast_concat]
  split_ifs with carriage
  · obtain ⟨start, rfl⟩ := List.getLast?_eq_some_iff.mp carriage
    simp
  · exact .inr ⟨rfl, carriage⟩

theorem IsText.eq_chomp {line text : List UInt8} (ends : IsText line text) : text = chomp line := by
  rcases ends with rfl | ⟨rfl, plain⟩
  · have split : text ++ [13, newline] = (text ++ [13]) ++ [newline] := by simp
    rw [split]
    simp [chomp, dropLast]
  · simp [chomp, dropLast, plain]

variable [EventHash] [EveParser]

/-- A complete line that was delivered, told by its bytes: above the limit it is rejected, and otherwise its text is
what the parser gets. -/
structure Delivered (c : ReaderConfig) (epoch generation : String) (birth : Nat) (frame : Frame)
    (delivery : Delivery) : Prop where
  position : delivery.position =
    ⟨c.sensorID, epoch, c.sensorConfigHash, c.rulesetID, c.mode, generation, frame.start, frame.stop⟩
  birth : delivery.birth = birth
  large : delivery.tooLarge = true ↔ c.limit < frame.line.length
  rejected : delivery.tooLarge = true → delivery.line = [] ∧ delivery.submitted = none
  text : delivery.tooLarge = false → IsText frame.line delivery.line
  submitted : delivery.tooLarge = false → delivery.submitted =
    if EveParser.accepts delivery.position delivery.line then some (eventID delivery.position delivery.line) else none

theorem Delivered.unique {c : ReaderConfig} {epoch generation : String} {birth : Nat} {frame : Frame}
    {one other : Delivery} (first : Delivered c epoch generation birth frame one)
    (second : Delivered c epoch generation birth frame other) : one = other := by
  obtain ⟨position, birth, large, rejected, text, submitted⟩ := first
  obtain ⟨position', birth', large', rejected', text', submitted'⟩ := second
  have same : one.tooLarge = other.tooLarge := Bool.eq_iff_iff.mpr (large.trans large'.symm)
  refine Delivery.ext (position.trans position'.symm) (birth.trans birth'.symm) same ?_ ?_ <;>
    cases exceeds : one.tooLarge
  all_goals
    have exceeds' := same.symm.trans exceeds
  · rw [(text exceeds).eq_chomp, (text' exceeds').eq_chomp]
  · rw [(rejected exceeds).1, (rejected' exceeds').1]
  · rw [submitted exceeds, submitted' exceeds', position, position', (text exceeds).eq_chomp,
      (text' exceeds').eq_chomp]
  · rw [(rejected exceeds).2, (rejected' exceeds').2]

namespace ReaderState
open LineRead
variable {c : ReaderConfig} {d : Disk} {r : ReaderState} {file : Inode} {line : LineRead}

theorem delivered_deliver {start birth : Nat} {text : List UInt8} (completed : Completed c.limit text start line) :
    Delivered c r.sensorEpoch r.generation birth ⟨start, line.offset, slice text start line.offset⟩
      (r.deliver c birth line) := by
  refine ⟨by rw [deliver, completed.starts], rfl, ?_, fun large => ?_, fun within => ?_, fun within => ?_⟩
  · rw [length_slice completed.inside]
    exact completed.large
  all_goals simp only [deliver] at *
  · simp [large]
  · simp only [within, Bool.false_eq_true, if_false, completed.collected within]
    exact isText_chomp completed.complete
  · simp [within]

theorem exec_read {input : ReaderInput} {purpose : Purpose} {size : Nat} {progressed : Bool}
    (next : r.next = .read purpose size progressed line) (held : r.held d = some file)
    (works : input.fault = none) (gathered : Gathered c.limit file.content line) :
    (newline ∉ file.content.drop line.start ∧
        r.exec c input d = (d, r.finished purpose progressed (some file.content.length), [])) ∨
      (∃ after, Completed c.limit file.content line.start after ∧ r.exec c input d =
        (d, { r with offset := after.offset, next := .save purpose size }, [r.deliver c file.birth after])) ∨
      ∃ after, Gathered c.limit file.content after ∧ after.start = line.start ∧ line.position < after.position ∧
        r.exec c input d = (d, { r with next := .read purpose size progressed after }, []) := by
  have inside := gathered.inside
  have fits := gathered.fits
  generalize count_eq : min (min line.room ((input.limit.map (· + 1)).getD line.room))
    (file.content.length - line.position) = count
  have bytes := read_eq file.content line.position (min line.room ((input.limit.map (· + 1)).getD line.room))
  rw [count_eq] at bytes
  have reach : line.position + count ≤ file.content.length := by omega
  by_cases ended : count = 0
  · left
    have room : 0 < min line.room ((input.limit.map (· + 1)).getD line.room) := by
      cases input.limit <;> simp [room] <;> omega
    have atEnd : line.position = file.content.length := by omega
    constructor
    · have whole := gathered.unended
      rw [atEnd] at whole
      simpa [slice, ← List.length_drop] using whole
    · subst ended
      simp [exec, next, held, works, atEnd]
  · right
    have some : slice file.content line.position (line.position + count) ≠ [] := by
      intro empty
      have length := congrArg List.length empty
      rw [length_slice reach, List.length_nil] at length
      omega
    rcases gathered.absorb (Nat.le_add_right _ _) reach rfl with
      ⟨done, completed⟩ | ⟨more, next', start, position⟩
    · left
      exact ⟨_, completed, by simp [exec, next, held, works, bytes, some, done]⟩
    · right
      exact ⟨_, next', start, by omega, by simp [exec, next, held, works, bytes, some, more]⟩

end ReaderState

end Ngfw.Inspection

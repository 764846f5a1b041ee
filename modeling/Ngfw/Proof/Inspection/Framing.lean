import Ngfw.Proof.Inspection.Progress

namespace Ngfw.Inspection
open Lib LineRead
open List (Forall₂)
open ReaderState (exec)

theorem Inode.generation_ne_empty (file : Inode) : file.generation ≠ "" := by
  intro empty
  have chars := congrArg String.toList empty
  simp [Inode.generation] at chars

/-! ## One file that only grows -/

structure Unread (c : ReaderConfig) (d : Disk) (r : ReaderState) : Prop where
  checkpoint : r.checkpoint.offset = 0
  generation : r.generation = ""
  offset : r.offset = 0
  polled : r.polled = none
  next : match r.next with
    | .readEpoch | .statPath | .wait => r.current = none ∨ r.current = some .broken
    | .statBeforeEpoch epoch => r.current = some .broken ∧ epoch = d.epoch
    | .statRotated _ => r.current = some .broken
    | .openPath => r.current = none
    | .statOpened => r.current = some (.file 0)
    | .readEpochOpened info => c.epochPath ≠ "" ∧ r.current = some (.file 0) ∧
        ∃ file, d.inodes = [file] ∧ info.generation = file.generation ∧ info.size ≤ file.content.length
    | _ => False

structure Following (c : ReaderConfig) (d : Disk) (file : Inode) (lines : List (List UInt8)) (r : ReaderState) :
    Prop where
  current : r.current = some (.file 0)
  generation : r.generation = file.generation
  birth : r.birth = file.birth
  level : c.epochPath = "" ∨ d.epoch = r.sensorEpoch
  framed : Framed file.content r.offset lines
  next : match r.next with
    | .seek .poll size _ | .save .poll size => size ≤ file.content.length
    | .read .poll size _ line =>
      size ≤ file.content.length ∧ line.start = r.offset ∧ Gathered c.limit file.content line
    | .wait | .readEpoch | .statPath => True
    | _ => False
  polled : ∀ size, r.polled = some size → size ≤ file.content.length ∧
    newline ∉ slice file.content r.offset size

variable {c : ReaderConfig} {d d' : Disk} {r : ReaderState} {file : Inode} {lines : List (List UInt8)}

theorem Unread.evolve (unread : Unread c d r) (epoch : d'.epoch = d.epoch)
    (grows : ∀ file, d.inodes = [file] → ∃ file', d'.inodes = [file'] ∧ file'.generation = file.generation ∧
      file.content.length ≤ file'.content.length) : Unread c d' r := by
  refine { unread with next := ?_ }
  have closed := unread.next
  cases next : r.next with
  | readEpochOpened info =>
    rw [next] at closed
    obtain ⟨launched, current, file, inodes, generation, size⟩ := closed
    obtain ⟨file', inodes', same, longer⟩ := grows file inodes
    exact ⟨launched, current, file', inodes', generation.trans same.symm, size.trans longer⟩
  | statBeforeEpoch =>
    rw [next] at closed
    rw [epoch]
    exact closed
  | readEpoch | statPath | wait | statRotated | openPath | statOpened | seek | read | save =>
    rw [next] at closed
    exact closed

theorem Unread.congr (unread : Unread c d r) (same : SameFiles d d') : Unread c d' r :=
  unread.evolve same.epoch fun file inodes => ⟨file, same.inodes.trans inodes, rfl, le_rfl⟩

theorem Following.congr (following : Following c d file lines r) (same : SameFiles d d') :
    Following c d' file lines r := by
  obtain ⟨current, generation, birth, level, framed, next, polled⟩ := following
  refine ⟨current, generation, birth, ?_, framed, next, polled⟩
  rw [same.epoch]
  exact level

theorem Unread.opened (unread : Unread c d r) (fromStart : c.startAtEnd = false)
    (level : c.epochPath = "" ∨ d.epoch = r.sensorEpoch)
    (here : r.current = some (.file 0)) {info : FileInfo} (generation : info.generation = file.generation)
    (size : info.size ≤ file.content.length) : Following c d file [] (r.opened c (some file) info) := by
  have zero : (r.opened c (some file) info).offset = 0 := by
    simp only [ReaderState.opened, fromStart, unread.checkpoint]
    split_ifs <;> simp_all
  have resumes : r.Resumes file info := fun _ _ _ => .inl unread.checkpoint
  refine ⟨?_, ?_, ReaderState.opened_birth resumes, ?_, ?_, ?_, ?_⟩
  · rw [ReaderState.opened_current, here]
  · simp only [ReaderState.opened]
    split_ifs <;> exact generation
  · rw [ReaderState.opened_sensorEpoch]
    exact level
  · rw [zero]
    exact Framed.start _
  · rw [ReaderState.opened_next]
    exact size
  · intro polledSize polled
    have none : (r.opened c (some file) info).polled = r.polled := by
      simp only [ReaderState.opened]
      split_ifs <;> rfl
    rw [none, unread.polled] at polled
    cases polled

def OneFile (d : Disk) : Prop :=
  (d.inodes = [] ∧ d.path = none) ∨ ∃ file, d.inodes = [file] ∧ d.path = some 0

theorem Unread.switchEpoch (unread : Unread c d r) (epoch : String) : Unread c d (r.switchEpoch epoch) := by
  refine ⟨?_, rfl, rfl, unread.polled, .inl rfl⟩
  simp only [ReaderState.switchEpoch]
  split_ifs
  · rfl
  · exact unread.checkpoint

theorem Unread.dropRotated (unread : Unread c d r) (info : FileInfo) : Unread c d (r.dropRotated info) := by
  simp only [ReaderState.dropRotated, ReaderState.located, true_or, if_true]
  exact ⟨unread.checkpoint, rfl, rfl, unread.polled, rfl⟩

theorem Unread.rest (unread : Unread c d r) {step : ReaderStep} {current : Option Handle} {generation : String}
    {offset : Nat} (generation_eq : generation = "") (offset_eq : offset = 0)
    (step_eq : step = .readEpoch ∨ step = .statPath ∨ step = .wait)
    (current_eq : current = none ∨ current = some .broken) :
    Unread c d { r with next := step, current, generation, offset } := by
  refine ⟨unread.checkpoint, generation_eq, offset_eq, unread.polled, ?_⟩
  rcases step_eq with rfl | rfl | rfl <;> exact current_eq

section Steps
theorem Following.held (following : Following c d file lines r) (inodes : d.inodes = [file]) :
    r.held d = some file := by
  simp [ReaderState.held, following.current, inodes]

theorem Following.rest (following : Following c d file lines r) {step : ReaderStep}
    (next : step = .readEpoch ∨ step = .statPath ∨ step = .wait) :
    Following c d file lines { r with next := step } := by
  refine { following with next := ?_ }
  rcases next with rfl | rfl | rfl <;> trivial

theorem Following.finished (following : Following c d file lines r) {progressed : Bool} {worked : Option Nat}
    (none : ∀ size, worked = some size → size ≤ file.content.length ∧
      newline ∉ slice file.content r.offset size) :
    Following c d file lines (r.finished .poll progressed worked) := by
  refine { following with next := ?_, polled := none }
  cases progressed <;> trivial

variable [EventHash] [EveParser]

theorem Unread.steps (unread : Unread c d r) (fromStart : c.startAtEnd = false) (files : OneFile d)
    (input : ReaderInput) :
    (r.exec c input d).2.2 = [] ∧ (r.exec c input d).1.checkpoint = d.checkpoint ∧
      (Unread c d (r.exec c input d).2.1 ∨
        ∃ file, d.inodes = [file] ∧ d.path = some 0 ∧ Following c d file [] (r.exec c input d).2.1) := by
  have closed := unread.next
  cases next : r.next with
  | readEpoch =>
    rw [next] at closed
    simp only [exec, next]
    split_ifs with taken isOpen
    · exact ⟨rfl, rfl, .inl (unread.rest unread.generation unread.offset (.inr (.inl rfl)) closed)⟩
    · refine ⟨rfl, rfl, .inl { unread with next := ⟨?_, rfl⟩ }⟩
      exact closed.resolve_left (Option.isSome_iff_ne_none.mp isOpen)
    · exact ⟨rfl, rfl, .inl (unread.switchEpoch _)⟩
  | statBeforeEpoch epoch =>
    rw [next] at closed
    have none : r.held d = none := by simp only [ReaderState.held, closed.1]
    simp only [exec, next, none]
    exact ⟨trivial, trivial, .inl (unread.switchEpoch _)⟩
  | statPath =>
    rw [next] at closed
    simp only [exec, next]
    cases d.named with
    | none =>
      exact ⟨rfl, rfl, .inl (unread.rest unread.generation unread.offset (.inr (.inr rfl)) closed)⟩
    | some file =>
      simp only
      split_ifs with failed rotated
      · exact ⟨rfl, rfl, .inl (unread.rest unread.generation unread.offset (.inr (.inr rfl)) closed)⟩
      · refine ⟨rfl, rfl, .inl { unread with next := ?_ }⟩
        exact closed.resolve_left (Option.isSome_iff_ne_none.mp rotated.1)
      · refine ⟨rfl, rfl, .inl ?_⟩
        have none : r.current = none := by
          rcases closed with none | broken
          · exact none
          · have known : r.generation = file.generation := by
              by_contra other
              exact rotated ⟨by simp [broken], other⟩
            rw [unread.generation] at known
            exact absurd known.symm file.generation_ne_empty
        simp only [ReaderState.located, none, true_or, if_true]
        exact { unread with next := rfl }
  | statRotated info =>
    rw [next] at closed
    have none : r.held d = none := by simp only [ReaderState.held, closed]
    simp only [exec, next, none]
    exact ⟨trivial, trivial, .inl (unread.dropRotated _)⟩
  | openPath =>
    simp only [exec, next]
    have broken : Unread c d { r with current := some .broken, next := .wait } :=
      unread.rest unread.generation unread.offset (.inr (.inr rfl)) (.inr rfl)
    rcases files with ⟨_, path⟩ | ⟨file, _, path⟩
    · simp only [path]
      exact ⟨trivial, trivial, .inl broken⟩
    · simp only [path]
      split_ifs
      · exact ⟨rfl, rfl, .inl broken⟩
      · exact ⟨rfl, rfl, .inl { unread with next := rfl }⟩
  | statOpened =>
    rw [next] at closed
    simp only [exec, next]
    have dropped : Unread c d { r with current := none, next := .wait } :=
      unread.rest unread.generation unread.offset (.inr (.inr rfl)) (.inl rfl)
    rcases files with ⟨inodes, _⟩ | ⟨file, inodes, path⟩
    · have none : r.held d = none := by simp [ReaderState.held, closed, inodes]
      simp only [none]
      exact ⟨trivial, trivial, .inl dropped⟩
    · have held : r.held d = some file := by simp [ReaderState.held, closed, inodes]
      simp only [held]
      split_ifs with failed plain
      · exact ⟨rfl, rfl, .inl dropped⟩
      · exact ⟨rfl, rfl, .inr ⟨file, inodes, path,
          unread.opened fromStart (.inl plain) closed rfl (Nat.le_refl _)⟩⟩
      · exact ⟨rfl, rfl, .inl { unread with next := ⟨plain, closed, file, inodes, rfl, Nat.le_refl _⟩ }⟩
  | readEpochOpened info =>
    rw [next] at closed
    obtain ⟨_, current, file, inodes, generation, size⟩ := closed
    have held : r.held d = some file := by simp [ReaderState.held, current, inodes]
    have path : d.path = some 0 := by
      rcases files with ⟨empty, _⟩ | ⟨_, _, path⟩
      · rw [empty] at inodes
        cases inodes
      · exact path
    simp only [exec, next, held]
    split_ifs with failed other
    · exact ⟨rfl, rfl, .inl (unread.rest rfl rfl (.inr (.inr rfl)) (.inl rfl))⟩
    · exact ⟨rfl, rfl, .inl (unread.rest rfl rfl (.inl rfl) (.inl rfl))⟩
    · exact ⟨rfl, rfl, .inr ⟨file, inodes, path,
        unread.opened fromStart (.inr (not_not.mp other)) current generation size⟩⟩
  | seek | read | save =>
    rw [next] at closed
    exact closed.elim
  | wait =>
    rw [next] at closed
    simp only [exec, next]
    exact ⟨trivial, trivial, .inl (unread.rest unread.generation unread.offset (.inl rfl) closed)⟩

theorem Following.steps (following : Following c d file lines r) (inodes : d.inodes = [file]) (path : d.path = some 0)
    (input : ReaderInput) :
    ∃ lines', Following c d file lines' (r.exec c input d).2.1 ∧
      (r.exec c input d).2.1.sensorEpoch = r.sensorEpoch ∧
      (∀ log, Forall₂ (Delivered c r.sensorEpoch file.generation file.birth) (frames 0 lines) log →
        Forall₂ (Delivered c r.sensorEpoch file.generation file.birth) (frames 0 lines')
          (log ++ (r.exec c input d).2.2)) ∧
      ((r.exec c input d).1.checkpoint = d.checkpoint ∨ (r.exec c input d).1.checkpoint.offset = r.offset) := by
  have same : ∀ log, Forall₂ (Delivered c r.sensorEpoch file.generation file.birth) (frames 0 lines) log →
      Forall₂ (Delivered c r.sensorEpoch file.generation file.birth) (frames 0 lines) (log ++ []) :=
    fun log delivered => (List.append_nil log).symm ▸ delivered
  have reads := following.next
  have held := following.held inodes
  have named : d.named = some file := by simp [Disk.named, path, inodes]
  have inside := following.framed.inside
  cases next : r.next with
  | readEpoch =>
    have step : r.exec c input d = (d, { r with next := .statPath }, []) := by
      rcases following.level with plain | level <;> simp_all [exec]
    rw [step]
    exact ⟨lines, following.rest (.inr (.inl rfl)), rfl, same, .inl rfl⟩
  | statPath =>
    cases failed : input.fault with
    | some =>
      have step : r.exec c input d = (d, { r with next := .wait }, []) := by
        simp [exec, next, named, failed]
      rw [step]
      exact ⟨lines, following.rest (.inr (.inr rfl)), rfl, same, .inl rfl⟩
    | none =>
      have step : r.exec c input d = ({ d with observed := file.birth :: d.observed },
          { r with next := .seek .poll file.content.length false }, []) := by
        simp [exec, next, named, failed, following.generation, ReaderState.located, following.current,
          Inode.info, Nat.not_lt.mpr inside]
      rw [step]
      exact ⟨lines, { following with next := Nat.le_refl _ }, rfl, same, .inl rfl⟩
  | seek purpose size progressed =>
    rw [next] at reads
    cases purpose with
    | epoch | rotation => exact reads.elim
    | poll =>
      have based := ReaderState.rebased_eq held following.birth
      by_cases worked : size ≤ r.offset
      · have step : r.exec c input d = (d, r.finished .poll progressed (some size), []) := by
          simp [exec, next, based, worked]
        have none : newline ∉ slice file.content r.offset size := by
          rw [slice_of_le _ worked]
          exact List.not_mem_nil
        rw [step]
        refine ⟨lines, following.finished fun size' worked => ?_, rfl, same, .inl rfl⟩
        cases worked
        exact ⟨reads, none⟩
      cases failed : input.fault with
      | some =>
        have step : r.exec c input d = (d, r.finished .poll progressed none, []) := by
          simp [exec, next, based, worked, failed]
        rw [step]
        exact ⟨lines, following.finished (by simp), rfl, same, .inl rfl⟩
      | none =>
        have step : r.exec c input d = (d, { r with
            next := .read .poll size progressed { start := r.offset, offset := r.offset } }, []) := by
          simp [exec, next, based, worked, failed, held]
        rw [step]
        exact ⟨lines, { following with next := ⟨reads, rfl, .begin inside⟩ }, rfl, same, .inl rfl⟩
  | read purpose size progressed line =>
    rw [next] at reads
    cases purpose with
    | epoch | rotation => exact reads.elim
    | poll =>
      obtain ⟨size_inside, start, gathered⟩ := reads
      cases failed : input.fault with
      | some =>
        have step : r.exec c input d = (d, r.finished .poll progressed none, []) := by
          simp [exec, next, held, failed]
        rw [step]
        exact ⟨lines, following.finished (by simp), rfl, same, .inl rfl⟩
      | none =>
        rcases ReaderState.exec_read next held failed gathered with ⟨none, step⟩ | ⟨after, completed, step⟩ |
          ⟨after, gathered', start', _, step⟩
        · rw [step]
          refine ⟨lines, following.finished fun size' worked => ?_, rfl, same, .inl rfl⟩
          cases worked
          rw [start] at none
          exact ⟨Nat.le_refl _, fun member => none (List.mem_of_mem_take member)⟩
        · rw [start] at completed
          rw [step]
          refine ⟨lines ++ [slice file.content r.offset after.offset], ?_, rfl, ?_, .inl rfl⟩
          · refine { following with
              framed := following.framed.next completed.ordered completed.inside completed.complete
              next := size_inside, polled := ?_ }
            intro polledSize polled
            obtain ⟨polled_inside, none⟩ := following.polled polledSize polled
            exact ⟨polled_inside, fun member => none (mem_slice_of_le completed.ordered member)⟩
          · intro log delivered
            rw [following.framed.frames_next completed.ordered completed.inside, ← following.generation]
            rw [← following.generation] at delivered
            exact List.rel_append delivered (.cons (ReaderState.delivered_deliver completed) .nil)
        · rw [step]
          exact ⟨lines, { following with next := ⟨size_inside, start'.trans start, gathered'⟩ }, rfl,
            same, .inl rfl⟩
  | save purpose size =>
    rw [next] at reads
    cases purpose with
    | epoch | rotation => exact reads.elim
    | poll =>
      have kept : Following c d file lines { r with next := .seek .poll size true } :=
        { following with next := reads }
      simp only [exec, next]
      split_ifs
      · exact ⟨lines, kept, rfl, same, .inl rfl⟩
      · exact ⟨lines, kept, rfl, same, .inr rfl⟩
  | wait =>
    have step : r.exec c input d = (d, { r with next := .readEpoch }, []) := by
      simp [exec, next]
    rw [step]
    exact ⟨lines, following.rest (.inl rfl), rfl, same, .inl rfl⟩
  | statBeforeEpoch | statRotated | openPath | statOpened | readEpochOpened =>
    rw [next] at reads
    exact reads.elim

/-! ## Runs -/

def EveState.Untouched (s : EveState) : Prop :=
  s.reader = none ∧ s.deliveries = [] ∧ s.disk.checkpoint = {} ∧ OneFile s.disk

def EveState.Appends (s : EveState) : EveMove → Prop
  | .event (.append _) | .step _ | .start _ => True
  | .event (.create _ _) => s.disk.inodes = []
  | .event .truncate | .event .remove | .stop => False

inductive Framing (c : ReaderConfig) (s : EveState) : Prop
  | idle (files : OneFile s.disk) (reader : s.reader = none) (deliveries : s.deliveries = [])
      (checkpoint : s.disk.checkpoint = {})
  | unread (r : ReaderState) (files : OneFile s.disk) (reader : s.reader = some r) (unread : Unread c s.disk r)
      (deliveries : s.deliveries = []) (checkpoint : s.disk.checkpoint.offset = 0)
  | following (r : ReaderState) (file : Inode) (lines : List (List UInt8)) (inodes : s.disk.inodes = [file])
      (path : s.disk.path = some 0) (reader : s.reader = some r) (following : Following c s.disk file lines r)
      (deliveries : Forall₂ (Delivered c r.sensorEpoch file.generation file.birth) (frames 0 lines) s.deliveries)
      (checkpoint : IsLineStart file.content s.disk.checkpoint.offset)

omit [EventHash] [EveParser] in
theorem OneFile.congr (files : OneFile d) (same : SameFiles d d') : OneFile d' := by
  unfold OneFile
  rw [same.inodes, same.path]
  exact files

omit [EventHash] [EveParser] in
theorem Following.append (following : Following c d file lines r) (bytes : List UInt8) (epoch : d'.epoch = d.epoch) :
    Following c d' { file with content := file.content ++ bytes } lines r := by
  have longer : file.content.length ≤ (file.content ++ bytes).length := by
    rw [List.length_append]
    exact Nat.le_add_right _ _
  refine { following with level := ?_, framed := following.framed.append bytes, next := ?_, polled := ?_ }
  · rw [epoch]
    exact following.level
  · have reads := following.next
    cases next : r.next with
    | seek purpose | save purpose =>
      rw [next] at reads
      cases purpose with
      | poll => exact Nat.le_trans reads longer
      | epoch | rotation => exact reads.elim
    | read purpose =>
      rw [next] at reads
      cases purpose with
      | poll => exact ⟨Nat.le_trans reads.1 longer, reads.2.1, reads.2.2.append bytes⟩
      | epoch | rotation => exact reads.elim
    | wait | readEpoch | statPath => trivial
    | statBeforeEpoch | statRotated | openPath | statOpened | readEpochOpened =>
      rw [next] at reads
      exact reads.elim
  · intro size polled
    obtain ⟨inside, none⟩ := following.polled size polled
    refine ⟨Nat.le_trans inside longer, ?_⟩
    rw [slice_append inside]
    exact none

variable {s : EveState}

omit [EventHash] [EveParser] in
theorem OneFile.append (inodes : s.disk.inodes = [file]) (path : s.disk.path = some 0)
    (bytes : List UInt8) : (s.disk.event (.append bytes)).inodes = [{ file with content := file.content ++ bytes }] ∧
      (s.disk.event (.append bytes)).path = some 0 := by
  simp [Disk.event, path, inodes]

theorem Framing.event (framing : Framing c s) {event : LogEvent} (appends : s.Appends (.event event)) :
    Framing c (s.step c (.event event)) := by
  cases event with
  | truncate => exact appends.elim
  | remove => exact appends.elim
  | create device number =>
    have inodes : s.disk.inodes = [] := appends
    have files : OneFile (s.disk.event (.create device number)) := by
      right
      simp [Disk.event, inodes]
    cases framing with
    | idle _ reader deliveries checkpoint => exact .idle files reader deliveries checkpoint
    | unread r _ reader unread deliveries checkpoint =>
      refine .unread r files reader (unread.evolve rfl fun file present => ?_) deliveries checkpoint
      rw [inodes] at present
      cases present
    | following r file lines present =>
      rw [inodes] at present
      cases present
  | append bytes =>
    have absent (none : s.disk.path = none) : s.step c (.event (.append bytes)) = s := by
      simp [EveState.step, Disk.event, none]
    have epoch : (s.disk.event (.append bytes)).epoch = s.disk.epoch := by
      simp only [Disk.event]
      split <;> rfl
    have checkpoint_eq : (s.disk.event (.append bytes)).checkpoint = s.disk.checkpoint := by
      simp only [Disk.event]
      split <;> rfl
    cases framing with
    | idle files reader deliveries checkpoint =>
      rcases files with ⟨inodes, path⟩ | ⟨file, inodes, path⟩
      · rw [absent path]
        exact .idle (.inl ⟨inodes, path⟩) reader deliveries checkpoint
      · exact .idle (.inr ⟨_, OneFile.append inodes path bytes⟩) reader deliveries (checkpoint_eq.trans checkpoint)
    | unread r files reader unread deliveries checkpoint =>
      rcases files with ⟨inodes, path⟩ | ⟨file, inodes, path⟩
      · rw [absent path]
        exact .unread r (.inl ⟨inodes, path⟩) reader unread deliveries checkpoint
      · have grown := OneFile.append inodes path bytes
        refine .unread r (.inr ⟨_, grown⟩) reader (unread.evolve epoch fun other present => ?_) deliveries
          ((congrArg Checkpoint.offset checkpoint_eq).trans checkpoint)
        cases inodes.symm.trans present
        exact ⟨_, grown.1, rfl, by simp⟩
    | following r file lines inodes path reader following deliveries checkpoint =>
      have grown := OneFile.append inodes path bytes
      refine .following r _ lines grown.1 grown.2 reader (following.append bytes epoch) deliveries ?_
      have starts := checkpoint.append bytes
      rw [← checkpoint_eq] at starts
      exact starts

theorem Framing.step (framing : Framing c s) (fromStart : c.startAtEnd = false) {move : EveMove}
    (appends : s.Appends move) : Framing c (s.step c move) := by
  cases move with
  | event event => exact framing.event appends
  | stop => exact appends.elim
  | start fault =>
    cases framing with
    | idle files reader deliveries checkpoint =>
      simp only [EveState.step, reader]
      have zero : (if fault.isSome then {} else s.disk.checkpoint : Checkpoint).offset = 0 := by
        rw [checkpoint, ite_self]
      exact .unread _ files rfl ⟨zero, rfl, rfl, rfl, .inl rfl⟩ deliveries (by rw [checkpoint])
    | unread r files reader unread deliveries checkpoint =>
      simp only [EveState.step, reader]
      exact .unread r files reader unread deliveries checkpoint
    | following r file lines inodes path reader following deliveries checkpoint =>
      simp only [EveState.step, reader]
      exact .following r file lines inodes path reader following deliveries checkpoint
  | step input =>
    cases framing with
    | idle files reader deliveries checkpoint =>
      simp only [EveState.step, reader]
      exact .idle files reader deliveries checkpoint
    | unread r files reader unread deliveries checkpoint =>
      have same := ReaderState.exec_sameFiles c input s.disk r
      obtain ⟨log, kept, unread' | ⟨file, inodes, path, following⟩⟩ := unread.steps fromStart files input
      · simp only [EveState.step, reader, log, List.append_nil]
        refine .unread _ (files.congr same) rfl (unread'.congr same) deliveries ?_
        exact (congrArg Checkpoint.offset kept).trans checkpoint
      · simp only [EveState.step, reader, log, List.append_nil]
        refine .following _ file [] (same.inodes.trans inodes) (same.path.trans path) rfl (following.congr same)
          (deliveries ▸ .nil) ?_
        simp only [kept, checkpoint]
        exact isLineStart_zero _
    | following r file lines inodes path reader following deliveries checkpoint =>
      have same := ReaderState.exec_sameFiles c input s.disk r
      obtain ⟨lines', following', epoch, log, saved⟩ := following.steps inodes path input
      simp only [EveState.step, reader]
      refine .following _ file lines' (same.inodes.trans inodes) (same.path.trans path) rfl
        (following'.congr same) ?_ ?_
      · simp only [epoch]
        exact log _ deliveries
      · rcases saved with kept | recorded
        · simp only [kept]
          exact checkpoint
        · simp only [recorded]
          exact following.framed.isLineStart

theorem framing_of_reachable (fromStart : c.startAtEnd = false)
    (reached : Reachable EveState.Untouched EveState.Appends (EveState.step c) s) : Framing c s := by
  apply reached.invariant
  · rintro state ⟨reader, deliveries, checkpoint, files⟩
    exact .idle files reader deliveries checkpoint
  · intro state move framing appends
    exact framing.step fromStart appends

omit [EventHash] [EveParser] in
theorem Unread.steady (unread : Unread c d r) (inodes : d.inodes = [file]) (path : d.path = some 0)
    (readable : c.epochPath ≠ "" → d.epoch ≠ "") : r.Steady c d 0 file := by
  have closed := unread.next
  have resumes : ∀ info, r.Resumes file info := fun _ _ _ _ => .inl unread.checkpoint
  refine ⟨path, by rw [inodes]; rfl, readable, ?_, ?_, ?_, ?_, ?_, ?_, fun _ _ => resumes _, ?_⟩
  · intro purpose size progressed line next
    rw [next] at closed
    exact closed.elim
  · intro purpose size progressed line next
    rw [next] at closed
    exact closed.elim
  · intro next isOpen known
    rw [unread.generation] at known
    exact absurd known.symm file.generation_ne_empty
  · intro epoch next
    rw [next] at closed
    exact closed.2
  · intro epoch size progressed next
    rw [next] at closed
    exact closed.elim
  · intro epoch size progressed line next
    rw [next] at closed
    exact closed.elim
  · intro info next
    rw [next] at closed
    exact ⟨closed.1, fun _ => resumes _⟩

omit [EventHash] [EveParser] in
theorem Following.steady (following : Following c d file lines r) (inodes : d.inodes = [file])
    (path : d.path = some 0) (readable : c.epochPath ≠ "" → d.epoch ≠ "") : r.Steady c d 0 file := by
  have reads := following.next
  have held := following.held inodes
  refine ⟨path, by rw [inodes]; rfl, readable, ?_, ?_,
    fun _ _ _ => ⟨following.current, .inl following.birth⟩, ?_, ?_, ?_, ?_, ?_⟩
  · intro purpose size progressed line next
    rw [next] at reads
    cases purpose with
    | epoch | rotation => exact reads.elim
    | poll =>
      intro other holds _
      cases held.symm.trans holds
      exact reads.2.2
  · intro purpose size progressed line _ other holds stale
    cases held.symm.trans holds
    exact absurd following.birth stale
  all_goals intros; simp_all

def EveState.Delivers (c : ReaderConfig) (s : EveState) (file : Inode) (lines : List (List UInt8)) : Prop :=
  ∃ epoch, Forall₂ (Delivered c epoch file.generation file.birth) (frames 0 lines) s.deliveries

theorem Framing.files (framing : Framing c s) : OneFile s.disk := by
  cases framing with
  | idle files => exact files
  | unread _ files => exact files
  | following _ file _ inodes path => exact .inr ⟨file, inodes, path⟩

omit [EventHash] [EveParser] in
theorem OneFile.of_named (files : OneFile d) (named : d.named = some file) : d.inodes = [file] ∧ d.path = some 0 := by
  rcases files with ⟨inodes, path⟩ | ⟨other, inodes, path⟩
  · simp [Disk.named, path] at named
  · have same : other = file := by simpa [Disk.named, inodes, path] using named
    subst same
    exact ⟨inodes, path⟩

theorem Framing.deliveries (framing : Framing c s) (inodes : s.disk.inodes = [file]) :
    (∃ count, s.Delivers c file ((completeLines file.content).take count)) ∧
      IsLineStart file.content s.disk.checkpoint.offset ∧
      ∀ r, s.reader = some r → IsLineStart file.content r.offset := by
  cases framing with
  | idle _ none deliveries checkpoint =>
    refine ⟨⟨0, "", deliveries ▸ .nil⟩, ?_, fun r reader => ?_⟩
    · rw [checkpoint]
      exact isLineStart_zero _
    · rw [none] at reader
      cases reader
  | unread r' _ reader' unread deliveries checkpoint =>
    refine ⟨⟨0, "", deliveries ▸ .nil⟩, ?_, fun r reader => ?_⟩
    · rw [checkpoint]
      exact isLineStart_zero _
    · cases reader.symm.trans reader'
      rw [unread.offset]
      exact isLineStart_zero _
  | following r' file' lines inodes' path reader' following deliveries checkpoint =>
    cases inodes.symm.trans inodes'
    refine ⟨⟨lines.length, r'.sensorEpoch, ?_⟩, checkpoint, fun r reader => ?_⟩
    · rw [← following.framed.eq_take]
      exact deliveries
    · cases reader.symm.trans reader'
      exact following.framed.isLineStart

theorem Framing.delivers_all (framing : Framing c s) (inodes : s.disk.inodes = [file])
    (reader : s.reader = some r) (settled : r.Settled 0 file) : s.Delivers c file (completeLines file.content) := by
  cases framing with
  | idle _ none => simp [none] at reader
  | unread r' _ reader' unread =>
    cases reader.symm.trans reader'
    rw [ReaderState.Settled, unread.polled] at settled
    cases settled.1
  | following r' file' lines inodes' path reader' following deliveries =>
    cases reader.symm.trans reader'
    cases inodes.symm.trans inodes'
    have none := (following.polled _ settled.1).2
    have rest : slice file.content r.offset file.content.length = file.content.drop r.offset := by
      rw [slice, ← List.length_drop, List.take_length]
    rw [rest] at none
    rw [← following.framed.eq_completeLines none]
    exact ⟨_, deliveries⟩

theorem Framing.steady (framing : Framing c s) (inodes : s.disk.inodes = [file])
    (path : s.disk.path = some 0) (runs : s.reader ≠ none) (readable : c.epochPath ≠ "" → s.disk.epoch ≠ "") :
    ∃ r, s.reader = some r ∧ r.Steady c s.disk 0 file := by
  cases framing with
  | idle _ none => exact absurd none runs
  | unread r _ reader unread => exact ⟨r, reader, unread.steady inodes path readable⟩
  | following r file' lines inodes' _ reader following =>
    cases inodes.symm.trans inodes'
    exact ⟨r, reader, following.steady inodes path readable⟩

theorem lines_delivered_once (c : ReaderConfig) (fromStart : c.startAtEnd = false) {s : EveState}
    (reached : Reachable EveState.Untouched EveState.Appends (EveState.step c) s) :
    (s.disk.named = none → s.deliveries = []) ∧
      ∀ file, s.disk.named = some file →
        ((∃ count, s.Delivers c file ((completeLines file.content).take count)) ∧
          IsLineStart file.content s.disk.checkpoint.offset ∧
          ∀ r, s.reader = some r → IsLineStart file.content r.offset) ∧
        (s.reader ≠ none → (c.epochPath ≠ "" → s.disk.epoch ≠ "") →
          Leads (EveState.quiet c) (·.Delivers c file (completeLines file.content)) s) := by
  have framing := framing_of_reachable fromStart reached
  constructor
  · intro absent
    cases framing with
    | idle _ _ deliveries => exact deliveries
    | unread _ _ _ _ deliveries => exact deliveries
    | following r file lines inodes path => simp [Disk.named, inodes, path] at absent
  · intro file named
    obtain ⟨inodes, path⟩ := framing.files.of_named named
    refine ⟨framing.deliveries inodes, fun runs readable => ?_⟩
    -- Along the quiet run the file stays the same and the states stay reachable.
    let stays (t : EveState) : Prop := Reachable EveState.Untouched EveState.Appends (EveState.step c) t ∧
      SameFiles s.disk t.disk ∧ t.reader ≠ none
    have kept : ∀ t, stays t → ¬False → stays (t.quiet c) := by
      rintro t ⟨reached, same, runs⟩ _
      have next : Reachable EveState.Untouched EveState.Appends (EveState.step c) (t.step c (.step {})) :=
        .next _ reached trivial
      exact ⟨next, same.trans (quiet_sameFiles c t), quiet_reader c runs⟩
    have steady : ∀ t, stays t → ¬False → ∃ r, t.reader = some r ∧ r.Steady c t.disk 0 file := by
      rintro t ⟨reached, same, runs⟩ _
      refine (framing_of_reachable fromStart reached).steady (same.inodes.trans inodes) (same.path.trans path) runs ?_
      rw [same.epoch]
      exact readable
    apply (leads_to_settled kept steady ⟨reached, .refl _, runs⟩).imp
    rintro t (never | ⟨⟨reached, same, _⟩, r, reader, settled⟩)
    · exact never.elim
    exact (framing_of_reachable fromStart reached).delivers_all (same.inodes.trans inodes) reader settled

end Steps

section Runs
local instance constantHash : EventHash := ⟨fun _ => "event"⟩
local instance everyRecord : EveParser := ⟨fun _ _ => true⟩

instance (s : EveState) : DecidablePred s.Appends
  | .event (.append _) | .step _ | .start _ => .isTrue trivial
  | .event (.create _ _) => inferInstanceAs (Decidable (s.disk.inodes = []))
  | .event .truncate | .event .remove | .stop => .isFalse id

def shortLines : ReaderConfig := { sensorID := "sensor", lineBytes := 3 }

def splitLine : List EveMove :=
  [.event (.create 1 7), .event (.append [97]), .start none] ++ List.replicate 7 (.step {}) ++
    [.event (.append [10, 98, 98, 98, 10, 99, 10])]

theorem lines_delivered_once_split :
    (splitLine.foldl (EveState.step shortLines) {}).deliveries = [] ∧
      Leads (EveState.quiet shortLines)
        (·.Delivers shortLines ⟨1, 7, 0, [97, 10, 98, 98, 98, 10, 99, 10]⟩ [[97, 10], [98, 98, 98, 10], [99, 10]])
        (splitLine.foldl (EveState.step shortLines) {}) := by
  have begins : Reachable EveState.Untouched EveState.Appends (EveState.step shortLines) {} :=
    .start ⟨rfl, rfl, rfl, .inl ⟨rfl, rfl⟩⟩
  have allowed : Allowed EveState.Appends (EveState.step shortLines) {} splitLine := by decide +kernel
  have named : (splitLine.foldl (EveState.step shortLines) {}).disk.named =
      some ⟨1, 7, 0, [97, 10, 98, 98, 98, 10, 99, 10]⟩ := by decide +kernel
  have runs : (splitLine.foldl (EveState.step shortLines) {}).reader ≠ none := by decide +kernel
  have result := (lines_delivered_once shortLines rfl (begins.run allowed)).2 _ named
  exact ⟨by decide +kernel, result.2 runs (by decide)⟩

end Runs

end Ngfw.Inspection

import Ngfw.Lib.Run
import Ngfw.Proof.Inspection.Line

namespace Ngfw.Inspection
open Lib LineRead

structure SameFiles (d d' : Disk) : Prop where
  inodes : d'.inodes = d.inodes
  path : d'.path = d.path
  births : d'.births = d.births
  past : d'.past = d.past
  epoch : d'.epoch = d.epoch

theorem SameFiles.refl (d : Disk) : SameFiles d d :=
  ⟨rfl, rfl, rfl, rfl, rfl⟩

theorem SameFiles.trans {d d' d'' : Disk} (first : SameFiles d d') (second : SameFiles d' d'') : SameFiles d d'' :=
  ⟨second.inodes.trans first.inodes, second.path.trans first.path, second.births.trans first.births,
    second.past.trans first.past, second.epoch.trans first.epoch⟩

namespace ReaderState
variable {c : ReaderConfig} {d d' : Disk} {r : ReaderState} {index : Nat} {file : Inode} {info : FileInfo}

theorem held_congr (same : SameFiles d d') (r : ReaderState) : r.held d' = r.held d := by
  simp only [held, same.inodes]

section
variable [EventHash] [EveParser]

theorem exec_sameFiles (c : ReaderConfig) (input : ReaderInput) (d : Disk) (r : ReaderState) :
    SameFiles d (r.exec c input d).1 := by
  unfold exec
  dsimp only
  repeat' split
  all_goals exact ⟨rfl, rfl, rfl, rfl, rfl⟩

end

def Settled (index : Nat) (file : Inode) (r : ReaderState) : Prop :=
  r.polled = some file.content.length ∧ r.current = some (.file index) ∧ r.birth = file.birth ∧
    (r.next = .wait ∨ r.next = .readEpoch)

instance : Decidable (r.Settled index file) := by
  unfold Settled
  infer_instance

/-- How far the reader is from a poll of the whole file, while nobody writes. With a new epoch to take over, everything
comes before that. -/
def stage (c : ReaderConfig) (d : Disk) (index : Nat) (file : Inode) (r : ReaderState) : Nat :=
  let late (before after : Nat) : Nat := if c.epochPath ≠ "" ∧ d.epoch ≠ r.sensorEpoch then before else after
  match r.next with
  | .seek .poll size _ =>
    late 70 (if r.current = some (.file index) ∧ size = file.content.length ∧
      (r.birth = file.birth ∨ r.offset = 0) then 1 else 40)
  | .read .poll size _ _ | .save .poll size =>
    late 70 (if r.current = some (.file index) ∧ size = file.content.length ∧ r.birth = file.birth then 1 else 40)
  | .statPath => late 80 16
  | .statRotated _ => late 79 15
  | .seek (.rotation _) _ _ | .read (.rotation _) _ _ _ | .save (.rotation _) _ => late 78 14
  | .openPath => late 77 13
  | .statOpened => late 76 (if r.current = some (.file index) then 12 else 42)
  | .readEpochOpened info =>
    late 75 (if r.current = some (.file index) ∧ info.size = file.content.length then 11 else 41)
  | .wait => late 62 20
  | .readEpoch => late 61 19
  | .statBeforeEpoch _ => late 60 18
  | .seek (.epoch _) _ _ | .read (.epoch _) _ _ _ | .save (.epoch _) _ => late 59 17

def remaining (d : Disk) (r : ReaderState) : Nat × Nat :=
  let size := ((r.held d).map (·.content.length)).getD 0
  match r.next with
  | .save _ _ => (size - r.offset, size + 3)
  | .seek _ _ _ => (size - r.offset, size + 2)
  | .read _ _ _ line => (size - line.start, size - line.position + 1)
  | _ => (0, 0)

def rank (c : ReaderConfig) (d : Disk) (index : Nat) (file : Inode) (r : ReaderState) : Nat × Nat × Nat :=
  (if r.Settled index file then 0 else r.stage c d index file, r.remaining d)

def Lower : Nat × Nat × Nat → Nat × Nat × Nat → Prop :=
  Prod.Lex (· < ·) (Prod.Lex (· < ·) (· < ·))

def Nearer (c : ReaderConfig) (d : Disk) (index : Nat) (file : Inode) (r' r : ReaderState) : Prop :=
  Lower (r'.rank c d index file) (r.rank c d index file)

theorem lower_wellFounded : WellFounded Lower :=
  (Prod.lex Nat.lt_wfRel (Prod.lex Nat.lt_wfRel Nat.lt_wfRel)).wf

theorem stage_congr (same : SameFiles d d') : r.stage c d' index file = r.stage c d index file := by
  simp only [stage, same.epoch]

theorem rank_congr (same : SameFiles d d') : r.rank c d' index file = r.rank c d index file := by
  simp only [rank, stage_congr same, remaining, held_congr same]

theorem stage_pos : 0 < r.stage c d index file := by
  unfold stage
  dsimp only
  repeat' split
  all_goals decide

variable {r' : ReaderState} {size : Nat} {progressed : Bool}

theorem lower_of_stage (unsettled : ¬r.Settled index file)
    (lower : r'.Settled index file ∨ r'.stage c d index file < r.stage c d index file) :
    Nearer c d index file r' r := by
  apply Prod.Lex.left
  rw [if_neg unsettled]
  split_ifs with settled
  · exact stage_pos
  · exact lower.resolve_left settled

theorem lower_of_remaining (unsettled : ¬r.Settled index file)
    (unsettled' : ¬r'.Settled index file) (stage : r'.stage c d index file ≤ r.stage c d index file)
    (lower : Prod.Lex (· < ·) (· < ·) (r'.remaining d) (r.remaining d)) :
    Nearer c d index file r' r := by
  unfold Nearer Lower rank
  rw [if_neg unsettled, if_neg unsettled']
  rcases Nat.lt_or_eq_of_le stage with less | same
  · exact Prod.Lex.left _ _ less
  · rw [same]
    exact Prod.Lex.right _ lower

def Resumes (file : Inode) (info : FileInfo) (r : ReaderState) : Prop :=
  r.checkpoint.fileGeneration = info.generation → r.checkpoint.sensorEpoch = r.sensorEpoch →
    r.checkpoint.offset ≤ info.size → r.checkpoint.offset = 0 ∨ r.checkpointBirth = file.birth

theorem opened_birth (resumes : r.Resumes file info) : (r.opened c (some file) info).birth = file.birth := by
  simp only [opened, Option.map_some, Option.getD_some]
  split_ifs with fits zero
  · rfl
  · exact (resumes fits.1 fits.2.1 fits.2.2).resolve_left zero
  · rfl
  · rfl

theorem opened_eq (fromStart : c.startAtEnd = false) (resumes : r.Resumes file info) :
    ∃ offset, (offset = 0 ∨ offset = r.checkpoint.offset ∧ r.checkpointBirth = file.birth) ∧
      r.opened c (some file) info = { r with
        generation := info.generation, birth := file.birth, offset, next := .seek .poll info.size false } := by
  simp only [opened, fromStart, Option.map_some, Option.getD_some, Bool.false_eq_true, false_and, if_false]
  split_ifs with fits zero
  · exact ⟨0, .inl rfl, by rw [zero]⟩
  · have same := (resumes fits.1 fits.2.1 fits.2.2).resolve_left zero
    exact ⟨r.checkpoint.offset, .inr ⟨rfl, same⟩, by rw [same]⟩
  · exact ⟨0, .inl rfl, rfl⟩

@[simp] theorem opened_current {file : Option Inode} : (r.opened c file info).current = r.current := by
  simp only [opened]
  split_ifs <;> rfl

@[simp] theorem opened_sensorEpoch {file : Option Inode} : (r.opened c file info).sensorEpoch = r.sensorEpoch := by
  simp only [opened]
  split_ifs <;> rfl

@[simp] theorem opened_next {file : Option Inode} : (r.opened c file info).next = .seek .poll info.size false := by
  simp only [opened]

structure Steady (c : ReaderConfig) (d : Disk) (index : Nat) (file : Inode) (r : ReaderState) : Prop where
  path : d.path = some index
  present : d.inodes[index]? = some file
  readable : c.epochPath ≠ "" → d.epoch ≠ ""
  gathered : ∀ {purpose size progressed line}, r.next = .read purpose size progressed line →
    ∀ {held}, r.held d = some held → r.birth = held.birth → Gathered c.limit held.content line
  ended : ∀ {purpose size progressed line}, r.next = .read purpose size progressed line →
    ∀ {held}, r.held d = some held → r.birth ≠ held.birth → held.content.length ≤ line.position
  found : r.next = .statPath → r.current ≠ none → r.generation = file.generation →
    r.current = some (.file index) ∧ (r.birth = file.birth ∨ r.offset = 0 ∨ file.content.length < r.offset)
  published : ∀ {epoch}, r.next = .statBeforeEpoch epoch → epoch = d.epoch
  draining : ∀ {epoch size progressed}, r.next = .seek (.epoch epoch) size progressed → epoch = d.epoch
  drained : ∀ {epoch size progressed line}, r.next = .read (.epoch epoch) size progressed line → epoch = d.epoch
  loaded : r.next = .statOpened → r.current = some (.file index) → r.Resumes file file.info
  awaited : ∀ {info}, r.next = .readEpochOpened info →
    c.epochPath ≠ "" ∧ (r.current = some (.file index) → r.Resumes file info)

theorem stage_switchEpoch : (r.switchEpoch d.epoch).stage c d index file = 16 := by
  simp [switchEpoch, stage]

theorem stage_dropRotated (info : FileInfo) : (r.dropRotated info).stage c d index file =
    if c.epochPath ≠ "" ∧ d.epoch ≠ r.sensorEpoch then 77 else 13 := by
  simp [dropRotated, located, stage]

theorem unsettled_of_next (waits : r.next ≠ .wait) (again : r.next ≠ .readEpoch) : ¬r.Settled index file := by
  rintro ⟨_, _, _, wait | next⟩
  · exact waits wait
  · exact again next

theorem stage_opened {opened : Option Inode} (level : ¬(c.epochPath ≠ "" ∧ d.epoch ≠ r.sensorEpoch))
    (fresh : r.current = some (.file index) → (r.opened c opened info).birth = file.birth) :
    (r.opened c opened info).stage c d index file =
      if r.current = some (.file index) ∧ info.size = file.content.length then 1 else 40 := by
  simp only [stage, opened_next, opened_current, opened_sensorEpoch, level, if_false]
  by_cases here : r.current = some (.file index)
  · simp only [here, fresh here, true_or, and_true]
  · simp only [here, false_and]

theorem stage_seek_eq_one (next : r.next = .seek .poll size progressed)
    (last : r.stage c d index file = 1) : r.current = some (.file index) ∧ size = file.content.length ∧
      (r.birth = file.birth ∨ r.offset = 0) := by
  simp only [stage, next] at last
  split_ifs at last <;> simp_all

theorem stage_read_eq_one {line : LineRead}
    (next : r.next = .read .poll size progressed line) (last : r.stage c d index file = 1) :
    r.current = some (.file index) ∧ size = file.content.length ∧ r.birth = file.birth := by
  simp only [stage, next] at last
  split_ifs at last <;> simp_all

theorem lower_of_finished {purpose : Purpose}
    (unsettled : ¬r.Settled index file) (epochs : ∀ epoch, purpose = .epoch epoch → epoch = d.epoch)
    (next : r.next = .seek purpose size progressed ∨ ∃ line, r.next = .read purpose size progressed line)
    (sensorEpoch : r'.sensorEpoch = r.sensorEpoch) (current : r'.current = r.current) {worked : Option Nat}
    (final : purpose = .poll → r.stage c d index file = 1 →
      r.current = some (.file index) ∧ worked = some file.content.length ∧ r'.birth = file.birth) :
    Nearer c d index file (r'.finished purpose progressed worked) r := by
  apply lower_of_stage unsettled
  cases purpose with
  | epoch epoch =>
    right
    rw [epochs epoch rfl, finished, stage_switchEpoch]
    rcases next with next | ⟨line, next⟩ <;> simp only [stage, next] <;> split_ifs <;> decide
  | rotation info =>
    right
    rw [finished, stage_dropRotated, sensorEpoch]
    rcases next with next | ⟨line, next⟩ <;> simp only [stage, next] <;> split_ifs <;> decide
  | poll =>
    by_cases last : r.stage c d index file = 1
    · left
      obtain ⟨here, whole, birth⟩ := final rfl last
      refine ⟨whole, current.trans here, birth, ?_⟩
      · cases progressed
        · exact .inl rfl
        · exact .inr rfl
    · right
      have after : (r'.finished .poll progressed worked).stage c d index file ≤
          if c.epochPath ≠ "" ∧ d.epoch ≠ r.sensorEpoch then 62 else 20 := by
        cases progressed <;> simp only [finished, stage, sensorEpoch, if_true, Bool.false_eq_true, if_false] <;>
          split_ifs <;> decide
      apply Nat.lt_of_le_of_lt after
      rcases next with next | ⟨line, next⟩ <;> simp only [stage, next] at last ⊢ <;>
        split_ifs at last ⊢ <;> omega

@[simp] theorem rebased_current : (r.rebased d).current = r.current := by
  unfold rebased
  repeat' split
  all_goals rfl

@[simp] theorem rebased_sensorEpoch : (r.rebased d).sensorEpoch = r.sensorEpoch := by
  unfold rebased
  repeat' split
  all_goals rfl

@[simp] theorem rebased_offset : (r.rebased d).offset = r.offset := by
  unfold rebased
  repeat' split
  all_goals rfl

@[simp] theorem rebased_held : (r.rebased d).held d = r.held d := by
  simp only [held, rebased_current]

theorem rebased_of_held (held : r.held d = some file) :
    r.rebased d = { r with birth := if r.offset = 0 then file.birth else r.birth } := by
  simp only [rebased, held]
  split_ifs <;> rfl

theorem rebased_eq (held : r.held d = some file) (fresh : r.birth = file.birth) : r.rebased d = r := by
  simp only [rebased, held, ← fresh]
  split_ifs <;> rfl

variable [EventHash] [EveParser]

section
variable {purpose : Purpose} (steady : r.Steady c d index file) (unsettled : ¬r.Settled index file)
include steady unsettled

omit [EventHash] [EveParser] unsettled in
theorem Steady.held_here (here : r.current = some (.file index)) : r.held d = some file := by
  simp only [held, here, steady.present]

theorem Steady.progress_readEpoch (next : r.next = .readEpoch) : Nearer c d index file (r.exec c {} d).2.1 r := by
  apply lower_of_stage unsettled
  right
  by_cases current : c.epochPath = "" ∨ d.epoch = r.sensorEpoch
  · have step : r.exec c {} d = (d, { r with next := .statPath }, []) := by
      rcases current with plain | same
      · simp [exec, next, plain]
      · simp [exec, next, same]
    have level : ¬(c.epochPath ≠ "" ∧ d.epoch ≠ r.sensorEpoch) := by tauto
    rw [step]
    simp only [stage, next, level, if_false]
    decide
  · simp only [not_or] at current
    have readable := steady.readable current.1
    cases open_ : r.current.isSome with
    | true => simp [exec, next, current, readable, open_, stage]
    | false =>
      have step : r.exec c {} d = (d, r.switchEpoch d.epoch, []) := by
        simp [exec, next, current, readable, open_]
      rw [step, stage_switchEpoch]
      simp [stage, next, current]

theorem Steady.progress_statPath (next : r.next = .statPath) : Nearer c d index file (r.exec c {} d).2.1 r := by
  have named : d.named = some file := by
    rw [Disk.named, steady.path, Option.bind_some, steady.present]
  apply lower_of_stage unsettled
  right
  by_cases rotated : r.current.isSome ∧ r.generation ≠ file.generation
  · have step : (r.exec c {} d).2.1 = { r with next := .statRotated file.info } := by
      simp [exec, next, named, rotated]
    rw [step]
    simp only [stage, next]
    split_ifs <;> decide
  · have step : (r.exec c {} d).2.1 = r.located file.info := by
      simp [exec, next, named, rotated]
    rw [step, located]
    split_ifs with closed
    · simp only [stage, next]
      split_ifs <;> decide
    · simp only [not_or, Nat.not_lt] at closed
      have generation : r.generation = file.generation := by
        by_contra other
        exact rotated ⟨Option.isSome_iff_ne_none.mpr closed.1, other⟩
      obtain ⟨here, text⟩ := steady.found next closed.1 generation
      have fresh : r.birth = file.birth ∨ r.offset = 0 := by
        rcases text with same | zero | short
        · exact .inl same
        · exact .inr zero
        · exact absurd short (Nat.not_lt.mpr closed.2)
      simp only [stage, next, here, fresh, Inode.info, true_and, if_true]
      split_ifs <;> decide

theorem Steady.progress_statOpened (next : r.next = .statOpened) : Nearer c d index file (r.exec c {} d).2.1 r := by
  apply lower_of_stage unsettled
  right
  cases holds : r.held d with
  | none =>
    have step : r.exec c {} d = (d, { r with current := none, next := .wait }, []) := by
      simp [exec, next, holds]
    have elsewhere : r.current ≠ some (.file index) := fun here => by
      cases holds.symm.trans (steady.held_here here)
    rw [step]
    simp only [stage, next, elsewhere, if_false]
    split_ifs <;> decide
  | some opened =>
    have same (here : r.current = some (.file index)) : opened = file :=
      Option.some.inj (holds.symm.trans (steady.held_here here))
    by_cases plain : c.epochPath = ""
    · have step : r.exec c {} d = (d, r.opened c (some opened) opened.info, []) := by
        simp [exec, next, holds, plain]
      have level : ¬(c.epochPath ≠ "" ∧ d.epoch ≠ r.sensorEpoch) := by tauto
      have fresh (here : r.current = some (.file index)) :
          (r.opened c (some opened) opened.info).birth = file.birth := by
        rw [same here]
        exact opened_birth (steady.loaded next here)
      rw [step, stage_opened level fresh]
      simp only [stage, next, level, if_false]
      by_cases here : r.current = some (.file index)
      · simp [here, same here, Inode.info]
      · simp [here]
    · have step : r.exec c {} d = (d, { r with next := .readEpochOpened opened.info }, []) := by
        simp [exec, next, holds, plain]
      rw [step]
      simp only [stage, next]
      by_cases here : r.current = some (.file index)
      · simp only [here, same here, Inode.info, true_and, if_true]
        split_ifs <;> decide
      · simp only [here, false_and, if_false]
        split_ifs <;> decide

theorem Steady.progress_readEpochOpened {info : FileInfo} (next : r.next = .readEpochOpened info) :
    Nearer c d index file (r.exec c {} d).2.1 r := by
  apply lower_of_stage unsettled
  right
  obtain ⟨launched, resumes⟩ := steady.awaited next
  have readable := steady.readable launched
  by_cases same : d.epoch = r.sensorEpoch
  · have step : r.exec c {} d = (d, r.opened c (r.held d) info, []) := by
      simp [exec, next, ← same, readable]
    have level : ¬(c.epochPath ≠ "" ∧ d.epoch ≠ r.sensorEpoch) := by tauto
    have fresh (here : r.current = some (.file index)) : (r.opened c (r.held d) info).birth = file.birth := by
      rw [steady.held_here here]
      exact opened_birth (resumes here)
    rw [step, stage_opened level fresh]
    simp only [stage, next, level, if_false]
    split_ifs <;> decide
  · have step : r.exec c {} d =
        (d, { r with current := none, generation := "", offset := 0, next := .readEpoch }, []) := by
      simp [exec, next, readable, same]
    rw [step]
    simp [stage, next, launched, same]

theorem Steady.progress_seek (next : r.next = .seek purpose size progressed) :
    Nearer c d index file (r.exec c {} d).2.1 r := by
  have epochs : ∀ epoch, purpose = .epoch epoch → epoch = d.epoch := by
    rintro epoch rfl
    exact steady.draining next
  by_cases worked : size ≤ r.offset
  · have step : r.exec c {} d = (d, (r.rebased d).finished purpose progressed (some size), []) := by
      simp [exec, next, worked]
    rw [step]
    apply lower_of_finished unsettled epochs (.inl next) rebased_sensorEpoch rebased_current
    rintro rfl last
    obtain ⟨here, whole, fresh⟩ := stage_seek_eq_one next last
    rw [rebased_of_held (steady.held_here here)]
    refine ⟨here, by rw [whole], ?_⟩
    dsimp only
    split_ifs with zero
    · rfl
    · exact fresh.resolve_right zero
  cases holds : r.held d with
  | none =>
    have step : r.exec c {} d = (d, (r.rebased d).finished purpose progressed none, []) := by
      simp [exec, next, worked, holds]
    rw [step]
    apply lower_of_finished unsettled epochs (.inl next) rebased_sensorEpoch rebased_current
    rintro rfl last
    cases holds.symm.trans (steady.held_here (stage_seek_eq_one next last).1)
  | some opened =>
    have step : r.exec c {} d = (d, { r.rebased d with
        next := .read purpose size progressed { start := r.offset, offset := r.offset } }, []) := by
      simp [exec, next, worked, holds]
    rw [step]
    apply lower_of_remaining unsettled (unsettled_of_next (by simp) (by simp))
    · cases purpose with
      | poll =>
        simp only [stage, next, rebased_of_held holds]
        apply Nat.le_of_eq
        congr 1
        apply if_congr _ rfl rfl
        by_cases here : r.current = some (.file index)
        · cases holds.symm.trans (steady.held_here here)
          by_cases zero : r.offset = 0 <;> simp [zero]
        · simp only [here, false_and]
      | epoch | rotation => simp only [stage, next, rebased_sensorEpoch, Nat.le_refl]
    · have size_eq : (r.rebased d).held d = some opened := rebased_held.trans holds
      simp only [held] at size_eq holds
      simp only [remaining, next, held, size_eq, holds]
      apply Prod.Lex.right
      simp only [position]
      omega

theorem Steady.progress_read {line : LineRead} (next : r.next = .read purpose size progressed line) :
    Nearer c d index file (r.exec c {} d).2.1 r := by
  have epochs : ∀ epoch, purpose = .epoch epoch → epoch = d.epoch := by
    rintro epoch rfl
    exact steady.drained next
  cases holds : r.held d with
  | none =>
    have step : r.exec c {} d = (d, r.finished purpose progressed none, []) := by
      simp [exec, next, holds]
    rw [step]
    apply lower_of_finished unsettled epochs (.inr ⟨line, next⟩) rfl rfl
    rintro rfl last
    cases holds.symm.trans (steady.held_here (stage_read_eq_one next last).1)
  | some opened =>
    have same (here : r.current = some (.file index)) : opened = file :=
      Option.some.inj (holds.symm.trans (steady.held_here here))
    by_cases fresh : r.birth = opened.birth
    · have works : ({} : ReaderInput).fault = none := rfl
      rcases exec_read next holds works (steady.gathered next holds fresh) with ⟨_, step⟩ |
        ⟨after, completed, step⟩ | ⟨after, gathered', start', further, step⟩
      · rw [step]
        apply lower_of_finished unsettled epochs (.inr ⟨line, next⟩) rfl rfl
        rintro rfl last
        obtain ⟨here, _, birth⟩ := stage_read_eq_one next last
        exact ⟨here, by rw [same here], birth⟩
      · rw [step]
        apply lower_of_remaining unsettled (unsettled_of_next (by simp) (by simp))
        · cases purpose <;> simp only [stage, next, Nat.le_refl]
        · have longer := completed.complete.length_pos
          have inside := completed.inside
          rw [length_slice inside] at longer
          simp only [held] at holds
          simp only [remaining, next, held, holds, Option.map_some, Option.getD_some]
          apply Prod.Lex.left
          omega
      · rw [step]
        apply lower_of_remaining unsettled (unsettled_of_next (by simp) (by simp))
        · cases purpose <;> simp only [stage, next, Nat.le_refl]
        · have inside := gathered'.inside
          simp only [held] at holds
          simp only [remaining, next, held, holds, Option.map_some, Option.getD_some, start']
          apply Prod.Lex.right
          omega
    · have empty : opened.content.drop line.position = [] :=
        List.drop_eq_nil_of_le (steady.ended next holds fresh)
      have step : r.exec c {} d = (d, r.finished purpose progressed (some line.position), []) := by
        simp [exec, next, holds, empty]
      rw [step]
      apply lower_of_finished unsettled epochs (.inr ⟨line, next⟩) rfl rfl
      rintro rfl last
      obtain ⟨here, _, birth⟩ := stage_read_eq_one next last
      rw [same here] at fresh
      exact absurd birth fresh

theorem Steady.progress : Nearer c d index file (r.exec c {} d).2.1 r := by
  cases next : r.next with
  | readEpoch => exact steady.progress_readEpoch unsettled next
  | statPath => exact steady.progress_statPath unsettled next
  | statOpened => exact steady.progress_statOpened unsettled next
  | readEpochOpened info => exact steady.progress_readEpochOpened unsettled next
  | seek purpose size progressed => exact steady.progress_seek unsettled next
  | read purpose size progressed line => exact steady.progress_read unsettled next
  | wait =>
    apply lower_of_stage unsettled
    right
    simp only [exec, next, stage]
    split_ifs <;> decide
  | statBeforeEpoch epoch =>
    apply lower_of_stage unsettled
    right
    have published := steady.published next
    subst published
    simp only [exec, next]
    split
    · simp only [Option.isSome_none, Bool.false_eq_true, if_false, stage, next]
      split_ifs <;> decide
    · rw [stage_switchEpoch]
      simp only [stage, next]
      split_ifs <;> decide
  | statRotated info =>
    apply lower_of_stage unsettled
    right
    simp only [exec, next]
    split
    · simp only [Option.isSome_none, Bool.false_eq_true, if_false, stage, next]
      split_ifs <;> decide
    · rw [stage_dropRotated]
      simp only [stage, next]
      split_ifs <;> decide
  | openPath =>
    apply lower_of_stage unsettled
    right
    have step : r.exec c {} d = (d, { r with current := some (.file index), next := .statOpened }, []) := by
      simp [exec, next, steady.path]
    rw [step]
    simp only [stage, next, if_true]
    split_ifs <;> decide
  | save purpose size =>
    have step : (r.exec c {} d).2.1 = { r with next := .seek purpose size true } := by
      simp [exec, next]
    rw [step]
    apply lower_of_remaining unsettled (unsettled_of_next (by simp) (by simp))
    · cases purpose with
      | poll =>
        simp only [stage, next]
        split_ifs <;> first | decide | tauto
      | epoch | rotation => simp only [stage, next, Nat.le_refl]
    · simp only [remaining, next, ReaderState.held]
      exact Prod.Lex.right _ (Nat.lt_succ_self _)

end

end ReaderState

def EveState.quiet [EventHash] [EveParser] (c : ReaderConfig) (s : EveState) : EveState :=
  s.step c (.step {})

theorem quiet_sameFiles [EventHash] [EveParser] (c : ReaderConfig) (s : EveState) :
    SameFiles s.disk (s.quiet c).disk := by
  simp only [EveState.quiet, EveState.step]
  split
  · exact .refl _
  · exact ReaderState.exec_sameFiles c {} s.disk _

theorem quiet_reader [EventHash] [EveParser] (c : ReaderConfig) {s : EveState} (runs : s.reader ≠ none) :
    (s.quiet c).reader ≠ none := by
  simp only [EveState.quiet, EveState.step]
  split
  · exact runs
  · simp

theorem leads_to_settled [EventHash] [EveParser] {c : ReaderConfig} {index : Nat} {file : Inode}
    {holds fails : EveState → Prop} (kept : ∀ t, holds t → ¬fails t → holds (t.quiet c))
    (steady : ∀ t, holds t → ¬fails t → ∃ r, t.reader = some r ∧ r.Steady c t.disk index file) {s : EveState}
    (begins : holds s) :
    Leads (EveState.quiet c) (fun t => fails t ∨ holds t ∧ ∃ r, t.reader = some r ∧
      r.Settled index file) s := by
  let rank (t : EveState) : Nat × Nat × Nat := (t.reader.map (·.rank c t.disk index file)).getD (0, 0, 0)
  apply leads_of_rank ReaderState.lower_wellFounded rank _ begins
  intro t held
  by_cases failed : fails t
  · exact .inl (.inl failed)
  obtain ⟨r, reader, moving⟩ := steady t held failed
  by_cases settled : r.Settled index file
  · exact .inl (.inr ⟨held, r, reader, settled⟩)
  · right
    refine ⟨kept t held failed, ?_⟩
    have lower := moving.progress settled
    have same := ReaderState.exec_sameFiles c {} t.disk r
    simp only [rank, EveState.quiet, EveState.step, reader, Option.map_some, Option.getD_some]
    rw [ReaderState.rank_congr same]
    exact lower

end Ngfw.Inspection

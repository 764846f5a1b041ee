import Ngfw.Proof.Inspection.Framing
import Mathlib.Data.List.Nodup

namespace Ngfw.Inspection
open Lib LineRead

/-! ## Texts -/

def Disk.texts (d : Disk) : List Inode :=
  d.inodes ++ d.past

structure Disk.Sound (d : Disk) : Prop where
  distinct : (d.texts.map Inode.birth).Nodup
  young : ∀ file ∈ d.texts, file.birth < d.births
  found : ∀ birth ∈ d.observed, birth < d.births
  named : ∀ index, d.path = some index → index < d.inodes.length

structure Inode.Grown (file file' : Inode) : Prop where
  birth : file'.birth = file.birth
  generation : file'.generation = file.generation
  content : file.content <+: file'.content

theorem Inode.Grown.refl (file : Inode) : file.Grown file :=
  ⟨rfl, rfl, List.prefix_refl _⟩

/-- What an event of the writer makes of the disk: the files keep their identity, a file at the path may grow or be
emptied, any other stays as it is, and no text is forgotten. -/
structure Disk.Evolves (d d' : Disk) : Prop where
  texts : ∀ file ∈ d.texts, ∃ file' ∈ d'.texts, file.Grown file'
  inodes : ∀ index file, d.inodes[index]? = some file → ∃ file', d'.inodes[index]? = some file' ∧
    (file' = file ∨ d.path = some index ∧
      (file.Grown file' ∨ file'.generation = file.generation ∧ file'.birth = d.births))
  path : d'.path = d.path ∨ d'.path = none ∨ d'.path = some d.inodes.length
  births : d.births ≤ d'.births
  epoch : d'.epoch = d.epoch

variable {d d' : Disk}

theorem SameFiles.evolves (same : SameFiles d d') : d.Evolves d' := by
  refine ⟨fun file member => ⟨file, ?_, .refl file⟩, fun index file present => ⟨file, ?_, .inl rfl⟩,
    .inl same.path, Nat.le_of_eq same.births.symm, same.epoch⟩
  · rw [Disk.texts, same.inodes, same.past]
    exact member
  · rw [same.inodes]
    exact present

theorem Disk.Sound.unique (sound : d.Sound) {file file' : Inode} (member : file ∈ d.texts)
    (member' : file' ∈ d.texts) (same : file.birth = file'.birth) : file = file' :=
  List.inj_on_of_nodup_map sound.distinct member member' same

theorem Disk.Sound.held (_sound : d.Sound) {index : Nat} {file : Inode} (present : d.inodes[index]? = some file) :
    file ∈ d.texts :=
  List.mem_append_left _ (List.mem_of_getElem? present)

theorem Disk.named_eq_some {file : Inode} :
    d.named = some file ↔ ∃ index, d.path = some index ∧ d.inodes[index]? = some file := by
  simp [Disk.named, Option.bind_eq_some_iff]

theorem getElem?_modify_of {files : List Inode} {place : Nat} {file : Inode} (present : files[place]? = some file)
    (index : Nat) (change : Inode → Inode) :
    (files.modify index change)[place]? = some (if index = place then change file else file) := by
  rw [List.getElem?_modify, present]
  rfl

theorem exists_of_getElem?_modify {files : List Inode} {index place : Nat} {change : Inode → Inode} {file : Inode}
    (present : (files.modify index change)[place]? = some file) :
    ∃ old, files[place]? = some old ∧ (if index = place then change old else old) = file := by
  rw [List.getElem?_modify] at present
  exact Option.map_eq_some_iff.mp present

theorem Disk.evolves_event (d : Disk) (event : LogEvent) : d.Evolves (d.event event) := by
  cases event with
  | append bytes =>
    simp only [Disk.event]
    cases path : d.path with
    | none =>
      exact (SameFiles.refl d).evolves
    | some index =>
      have grown (file : Inode) : file.Grown { file with content := file.content ++ bytes } :=
        ⟨rfl, rfl, List.prefix_append _ _⟩
      refine ⟨fun file member => ?_, fun place file present => ?_, .inl path.symm, Nat.le_refl _, rfl⟩
      · rcases List.mem_append.mp member with current | past
        · obtain ⟨place, present⟩ := List.getElem?_of_mem current
          refine ⟨_, List.mem_append_left _ (List.mem_of_getElem? (getElem?_modify_of present index _)), ?_⟩
          split_ifs
          · exact grown file
          · exact .refl file
        · exact ⟨file, List.mem_append_right _ past, .refl file⟩
      · refine ⟨_, getElem?_modify_of present index _, ?_⟩
        split_ifs with here
        · exact .inr ⟨path.trans (congrArg some here), .inl (grown file)⟩
        · exact .inl rfl
  | truncate =>
    simp only [Disk.event]
    cases path : d.path with
    | none =>
      exact (SameFiles.refl d).evolves
    | some index =>
      refine ⟨fun file member => ?_, fun place file present => ?_, .inl path.symm, Nat.le_succ _, rfl⟩
      · refine ⟨file, ?_, .refl file⟩
        simp only [Disk.texts, Disk.named, path, Option.bind_some]
        rcases List.mem_append.mp member with current | past
        · obtain ⟨place, present⟩ := List.getElem?_of_mem current
          by_cases here : index = place
          · subst here
            simp [present]
          · have kept := getElem?_modify_of present index fun file => { file with content := [], birth := d.births }
            rw [if_neg here] at kept
            exact List.mem_append_left _ (List.mem_of_getElem? kept)
        · exact List.mem_append_right _ (List.mem_append_left _ past)
      · refine ⟨_, getElem?_modify_of present index _, ?_⟩
        split_ifs with here
        · exact .inr ⟨path.trans (congrArg some here), .inr ⟨rfl, rfl⟩⟩
        · exact .inl rfl
  | remove =>
    exact ⟨fun file member => ⟨file, member, .refl file⟩, fun index file present => ⟨file, present, .inl rfl⟩,
      .inr (.inl rfl), Nat.le_refl _, rfl⟩
  | create device number =>
    refine ⟨fun file member => ⟨file, ?_, .refl file⟩, fun index file present => ⟨file, ?_, .inl rfl⟩,
      .inr (.inr rfl), Nat.le_succ _, rfl⟩
    · rcases List.mem_append.mp member with current | past
      · exact List.mem_append_left _ (List.mem_append_left _ current)
      · exact List.mem_append_right _ past
    · have inside := (List.getElem?_eq_some_iff.mp present).1
      simp only [Disk.event]
      rw [List.getElem?_append_left inside]
      exact present

theorem Disk.observed_event (d : Disk) (event : LogEvent) : (d.event event).observed = d.observed := by
  cases event with
  | append | truncate =>
    simp only [Disk.event]
    split <;> rfl
  | remove | create => rfl

theorem Disk.Sound.same (sound : d.Sound) (texts : d'.texts.map Inode.birth = d.texts.map Inode.birth)
    (births : d'.births = d.births) (observed : d'.observed = d.observed)
    (named : ∀ index, d'.path = some index → index < d'.inodes.length) : d'.Sound := by
  refine ⟨?_, fun file member => ?_, ?_, named⟩
  · rw [texts]
    exact sound.distinct
  · have old := List.mem_map_of_mem (f := Inode.birth) member
    rw [texts] at old
    obtain ⟨file', member', same⟩ := List.mem_map.mp old
    rw [← same, births]
    exact sound.young file' member'
  · rw [observed, births]
    exact sound.found

theorem Disk.Sound.born (sound : d.Sound)
    (texts : (d'.texts.map Inode.birth).Perm (d.births :: d.texts.map Inode.birth))
    (births : d'.births = d.births + 1) (observed : d'.observed = d.observed)
    (named : ∀ index, d'.path = some index → index < d'.inodes.length) : d'.Sound := by
  have young : ∀ birth ∈ d.texts.map Inode.birth, birth < d.births := by
    intro birth member
    obtain ⟨file, member', rfl⟩ := List.mem_map.mp member
    exact sound.young file member'
  refine ⟨?_, fun file member => ?_, ?_, named⟩
  · rw [texts.nodup_iff, List.nodup_cons]
    exact ⟨fun member => Nat.lt_irrefl _ (young _ member), sound.distinct⟩
  · have either := texts.mem_iff.mp (List.mem_map_of_mem (f := Inode.birth) member)
    rcases List.mem_cons.mp either with new | old
    · omega
    · have := young _ old
      omega
  · intro birth member
    rw [observed] at member
    have := sound.found birth member
    omega

theorem Disk.Sound.event (sound : d.Sound) (event : LogEvent) : (d.event event).Sound := by
  cases event with
  | append bytes =>
    simp only [Disk.event]
    cases path : d.path with
    | none => exact sound
    | some index =>
      refine sound.same ?_ rfl rfl ?_
      · simp only [Disk.texts, List.map_append]
        congr 1
        apply List.ext_getElem?
        intro place
        simp only [List.getElem?_map, List.getElem?_modify]
        cases d.inodes[place]? with
        | none => rfl
        | some file =>
          simp only [Option.map_eq_map, Option.map_some]
          split_ifs <;> rfl
      · intro place named
        rw [List.length_modify]
        exact sound.named place (path.trans named)
  | truncate =>
    simp only [Disk.event]
    cases path : d.path with
    | none => exact sound
    | some index =>
      have inside := sound.named index path
      refine sound.born ?_ rfl rfl ?_
      · simp only [Disk.texts, Disk.named, path, Option.bind_some, List.getElem?_eq_getElem inside,
          List.modify_eq_take_cons_drop inside]
        have whole : d.inodes.take index ++ d.inodes[index] :: d.inodes.drop (index + 1) = d.inodes := by
          rw [← List.drop_eq_getElem_cons inside, List.take_append_drop]
        conv_rhs => rw [← whole]
        rw [List.perm_iff_count]
        intro birth
        simp only [Option.toList_some, List.map_append, List.map_cons, List.map_nil, List.count_append,
          List.count_cons, List.count_nil]
        omega
      · intro place named
        rw [List.length_modify]
        exact sound.named place (path.trans named)
  | remove => exact sound.same rfl rfl rfl (by simp [Disk.event])
  | create device number =>
    refine sound.born ?_ rfl rfl ?_
    · simp only [Disk.texts, Disk.event, List.map_append, List.map_cons, List.map_nil]
      rw [List.append_assoc]
      exact List.perm_middle
    · intro place named
      simp only [Disk.event, Option.some.injEq] at named
      simp [Disk.event, ← named]

/-! ## Deliveries -/

def Logged (log : List Delivery) (birth : Nat) (frame : Frame) : Prop :=
  ∃ delivery ∈ log, delivery.birth = birth ∧ delivery.position.byteStart = frame.start ∧
    delivery.position.byteEnd = frame.stop

def AllDelivered (log : List Delivery) (file : Inode) : Prop :=
  ∀ frame ∈ frames 0 (completeLines file.content), Logged log file.birth frame

def Covered (log : List Delivery) (file : Inode) (offset : Nat) : Prop :=
  ∃ lines, Framed file.content offset lines ∧ ∀ frame ∈ frames 0 lines, Logged log file.birth frame

def Marked (log : List Delivery) (d : Disk) (offset birth : Nat) : Prop :=
  offset = 0 ∨ ∃ file ∈ d.texts, file.birth = birth ∧ Covered log file offset

def ReaderConfig.liveEpoch (c : ReaderConfig) (d : Disk) : String :=
  if c.epochPath = "" then c.sensorEpoch else d.epoch

def Chained (log : List Delivery) : Prop :=
  ∀ (index : Nat) (delivery : Delivery), log[index]? = some delivery → delivery.position.byteStart = 0 ∨
    ∃ (before : Nat) (earlier : Delivery), before < index ∧ log[before]? = some earlier ∧
      earlier.birth = delivery.birth ∧ earlier.position.byteEnd = delivery.position.byteStart

section Delivered
variable [EventHash] [EveParser]

def WholeLine (c : ReaderConfig) (d : Disk) (delivery : Delivery) : Prop :=
  ∃ file ∈ d.texts, ∃ start stop, start ≤ stop ∧ stop ≤ file.content.length ∧
    IsLineStart file.content start ∧ IsLine (slice file.content start stop) ∧
    Delivered c (c.liveEpoch d) file.generation file.birth ⟨start, stop, slice file.content start stop⟩ delivery

end Delivered

variable {c : ReaderConfig} {log : List Delivery} {file file' : Inode} {offset birth : Nat}

theorem Logged.append {frame : Frame} (logged : Logged log birth frame) (more : List Delivery) :
    Logged (log ++ more) birth frame := by
  obtain ⟨delivery, member, placed⟩ := logged
  exact ⟨delivery, List.mem_append_left _ member, placed⟩

theorem AllDelivered.append (all : AllDelivered log file) (more : List Delivery) : AllDelivered (log ++ more) file :=
  fun frame member => (all frame member).append more

theorem Covered.append (covered : Covered log file offset) (more : List Delivery) :
    Covered (log ++ more) file offset := by
  obtain ⟨lines, framed, logged⟩ := covered
  exact ⟨lines, framed, fun frame member => (logged frame member).append more⟩

theorem Marked.append (marked : Marked log d offset birth) (more : List Delivery) :
    Marked (log ++ more) d offset birth := by
  rcases marked with zero | ⟨file, member, same, covered⟩
  · exact .inl zero
  · exact .inr ⟨file, member, same, covered.append more⟩

theorem Covered.grow (covered : Covered log file offset) (grown : file.Grown file') : Covered log file' offset := by
  obtain ⟨lines, framed, logged⟩ := covered
  obtain ⟨more, content⟩ := grown.content
  refine ⟨lines, ?_, ?_⟩
  · rw [← content]
    exact framed.append more
  · rw [grown.birth]
    exact logged

theorem Marked.evolve (marked : Marked log d offset birth) (evolves : d.Evolves d') : Marked log d' offset birth := by
  rcases marked with zero | ⟨file, member, same, covered⟩
  · exact .inl zero
  · obtain ⟨file', member', grown⟩ := evolves.texts file member
    exact .inr ⟨file', member', grown.birth.trans same, covered.grow grown⟩

theorem Marked.covered (marked : Marked log d offset file.birth) (sound : d.Sound) (member : file ∈ d.texts) :
    Covered log file offset := by
  rcases marked with rfl | ⟨file', member', same, covered⟩
  · exact ⟨[], Framed.start _, by simp [frames]⟩
  · rw [← sound.unique member' member same]
    exact covered

section
variable (covered : Covered log file offset)
include covered

theorem Covered.inside : offset ≤ file.content.length := by
  obtain ⟨lines, framed, _⟩ := covered
  exact framed.inside

theorem Covered.all (none : newline ∉ file.content.drop offset) : AllDelivered log file := by
  obtain ⟨lines, framed, logged⟩ := covered
  rw [AllDelivered, ← framed.eq_completeLines none]
  exact logged

theorem Covered.next {stop : Nat} (ordered : offset ≤ stop)
    (inside : stop ≤ file.content.length) (complete : IsLine (slice file.content offset stop)) {delivery : Delivery}
    (birth : delivery.birth = file.birth) (start : delivery.position.byteStart = offset)
    (ends : delivery.position.byteEnd = stop) : Covered (log ++ [delivery]) file stop := by
  obtain ⟨lines, framed, logged⟩ := covered
  refine ⟨_, framed.next ordered inside complete, fun frame member => ?_⟩
  rw [framed.frames_next ordered inside] at member
  rcases List.mem_append.mp member with old | new
  · exact (logged frame old).append _
  · cases List.mem_singleton.mp new
    exact ⟨delivery, by simp, birth, start, ends⟩

theorem Covered.reached : offset = 0 ∨
    ∃ earlier ∈ log, earlier.birth = file.birth ∧ earlier.position.byteEnd = offset := by
  obtain ⟨lines, framed, logged⟩ := covered
  have length := framed.length
  rcases List.eq_nil_or_concat lines with rfl | ⟨before, line, rfl⟩
  · exact .inl length.symm
  · right
    rw [List.concat_eq_append] at logged length
    rw [frames_append] at logged
    obtain ⟨earlier, member, birth, _, ends⟩ := logged _ (List.mem_append_right _ List.mem_cons_self)
    refine ⟨earlier, member, birth, ends.trans ?_⟩
    simp only [List.flatten_append, List.flatten_singleton, List.length_append] at length
    simp only [Nat.zero_add]
    exact length

end

theorem Chained.snoc (chained : Chained log) {delivery : Delivery} (follows : delivery.position.byteStart = 0 ∨
    ∃ earlier ∈ log, earlier.birth = delivery.birth ∧ earlier.position.byteEnd = delivery.position.byteStart) :
    Chained (log ++ [delivery]) := by
  intro index found present
  by_cases old : index < log.length
  · rw [List.getElem?_append_left old] at present
    rcases chained index found present with zero | ⟨before, earlier, less, present', joined⟩
    · exact .inl zero
    · refine .inr ⟨before, earlier, less, ?_, joined⟩
      rw [List.getElem?_append_left (Nat.lt_trans less old)]
      exact present'
  · rw [List.getElem?_append_right (Nat.le_of_not_lt old)] at present
    have last : index - log.length = 0 ∧ found = delivery := by
      rcases at' : index - log.length with _ | more
      · rw [at'] at present
        exact ⟨rfl, (Option.some.inj present).symm⟩
      · rw [at'] at present
        cases present
    obtain ⟨place, rfl⟩ := last
    rcases follows with zero | ⟨earlier, member, joined⟩
    · exact .inl zero
    · obtain ⟨before, present'⟩ := List.getElem?_of_mem member
      have inside := (List.getElem?_eq_some_iff.mp present').1
      refine .inr ⟨before, earlier, by omega, ?_, joined⟩
      rw [List.getElem?_append_left inside]
      exact present'

section Delivered
variable [EventHash] [EveParser]

theorem WholeLine.evolve {delivery : Delivery} (whole : WholeLine c d delivery) (evolves : d.Evolves d') :
    WholeLine c d' delivery := by
  obtain ⟨file, member, start, stop, ordered, inside, starts, line, same⟩ := whole
  obtain ⟨file', member', grown⟩ := evolves.texts file member
  obtain ⟨more, content⟩ := grown.content
  have epoch : c.liveEpoch d' = c.liveEpoch d := by
    simp only [ReaderConfig.liveEpoch, evolves.epoch]
  refine ⟨file', member', start, stop, ordered, ?_, ?_, ?_, ?_⟩ <;> rw [← content]
  · rw [List.length_append]
    exact Nat.le_add_right_of_le inside
  · exact starts.append more
  · rw [slice_append inside]
    exact line
  · rw [slice_append inside, grown.birth, grown.generation, epoch]
    exact same

end Delivered

/-! ## The reader -/

@[simp] def ReaderStep.opening : ReaderStep → Bool
  | .statOpened | .readEpochOpened _ => true
  | _ => false

@[simp] def ReaderStep.drained : ReaderStep → Option Nat
  | .seek (.rotation _) size _ | .read (.rotation _) size _ _ | .save (.rotation _) size => some size
  | _ => none

@[simp] def ReaderStep.resting : ReaderStep → Bool
  | .wait | .readEpoch | .statPath => true
  | _ => false

structure Attached (c : ReaderConfig) (d : Disk) (log : List Delivery) (index : Nat) (file : Inode)
    (r : ReaderState) : Prop where
  generation : r.generation = file.generation
  level : r.sensorEpoch = c.liveEpoch d
  young : r.birth < d.births
  marked : Marked log d r.offset r.birth
  next : match r.next with
    | .read _ _ _ line => line.start = r.offset ∧ (r.birth = file.birth → Gathered c.limit file.content line)
    | .openPath => r.birth ≠ file.birth
    | .statRotated _ => d.path ≠ some index
    | _ => True
  drained : ∀ size, r.next.drained = some size → d.path ≠ some index ∧ size = file.content.length
  polled : r.next.resting = true → r.birth = file.birth → ∀ size, r.polled = some size →
    size ≤ file.content.length ∧ newline ∉ slice file.content r.offset size

def ReaderState.Ready (c : ReaderConfig) (live : String) (r : ReaderState) : ReaderStep → Prop
  | .statBeforeEpoch epoch => c.epochPath ≠ "" ∧ epoch = live ∧ r.current = some .broken
  | .statOpened => ∃ index, r.current = some (.file index)
  | .readEpochOpened _ => c.epochPath ≠ "" ∧ ∃ index, r.current = some (.file index)
  | .seek purpose _ _ | .read purpose _ _ _ | .save purpose _ =>
    (∀ epoch, purpose ≠ .epoch epoch) ∧ ∃ index, r.current = some (.file index)
  | _ => True

structure Tracks (c : ReaderConfig) (d : Disk) (log : List Delivery) (r : ReaderState) : Prop where
  loaded : Marked log d r.checkpoint.offset r.checkpointBirth
  plain : c.epochPath = "" → r.sensorEpoch = c.sensorEpoch
  broken : r.current = some .broken → ∀ file, d.named = some file → r.generation ≠ file.generation
  held : ∀ index, r.current = some (.file index) → ∃ file, d.inodes[index]? = some file ∧
    (∀ other named, d.path = some other → d.inodes[other]? = some named →
      named.generation = file.generation → other = index) ∧
    (r.next.opening = false → Attached c d log index file r) ∧
    ∀ info, r.next = .readEpochOpened info → info.generation = file.generation
  step : r.Ready c d.epoch r.next

variable {r : ReaderState} {index : Nat}

theorem Inode.generation_of_change (change : file' = file ∨ d.path = some index ∧
      (file.Grown file' ∨ file'.generation = file.generation ∧ file'.birth = d.births)) :
    file'.generation = file.generation := by
  rcases change with rfl | ⟨_, grown | emptied⟩
  · rfl
  · exact grown.generation
  · exact emptied.1

theorem Attached.evolve (attached : Attached c d log index file r) (evolves : d.Evolves d')
    (inside : index < d.inodes.length)
    (change : file' = file ∨ d.path = some index ∧
      (file.Grown file' ∨ file'.generation = file.generation ∧ file'.birth = d.births)) :
    Attached c d' log index file' r := by
  have generation := Inode.generation_of_change change
  -- Either the text has grown, or the reader is left with the offset of one that is gone.
  have text : file.Grown file' ∨ r.birth ≠ file'.birth := by
    rcases change with rfl | ⟨_, grown | emptied⟩
    · exact .inl (.refl _)
    · exact .inl grown
    · right
      rw [emptied.2]
      exact Nat.ne_of_lt attached.young
  have away (elsewhere : d.path ≠ some index) : d'.path ≠ some index := by
    rcases evolves.path with same | none | new
    · rw [same]
      exact elsewhere
    · rw [none]
      exact nofun
    · rw [new]
      intro here
      cases here
      exact Nat.lt_irrefl _ inside
  refine ⟨attached.generation.trans generation.symm, ?_, Nat.lt_of_lt_of_le attached.young evolves.births,
    attached.marked.evolve evolves, ?_, ?_, ?_⟩
  · rw [attached.level, ReaderConfig.liveEpoch, ReaderConfig.liveEpoch, evolves.epoch]
  · have next := attached.next
    cases at' : r.next with
    | read purpose size progressed line =>
      rw [at'] at next
      refine ⟨next.1, fun fresh => ?_⟩
      rcases text with grown | stale
      · obtain ⟨more, content⟩ := grown.content
        rw [← content]
        exact (next.2 (fresh.trans grown.birth)).append more
      · exact absurd fresh stale
    | openPath =>
      rw [at'] at next
      rcases text with grown | stale
      · rw [grown.birth]
        exact next
      · exact stale
    | statRotated =>
      rw [at'] at next
      exact away next
    | readEpoch | statBeforeEpoch | statPath | statOpened | readEpochOpened | seek | save | wait => trivial
  · intro size drained
    obtain ⟨elsewhere, whole⟩ := attached.drained size drained
    refine ⟨away elsewhere, ?_⟩
    rcases change with rfl | ⟨here, _⟩
    · exact whole
    · exact absurd here elsewhere
  · intro resting fresh size polled
    rcases text with grown | stale
    · obtain ⟨more, content⟩ := grown.content
      obtain ⟨inside, none⟩ := attached.polled resting (fresh.trans grown.birth) size polled
      rw [← content, List.length_append, slice_append inside]
      exact ⟨Nat.le_add_right_of_le inside, none⟩
    · exact absurd fresh stale

def ReaderState.Apart (r : ReaderState) (d : Disk) (generation : String) : Prop :=
  (∀ file, r.held d = some file → generation ≠ file.generation) ∧
    (r.current = some .broken → generation ≠ r.generation)

theorem Tracks.evolve (tracks : Tracks c d log r) (sound : d.Sound) (evolves : d.Evolves d')
    (apart : ∀ other named, d'.path = some other → d'.inodes[other]? = some named → d.path ≠ some other →
      r.Apart d named.generation) : Tracks c d' log r := by
  -- A file that was at the path before has kept its generation.
  have kept : ∀ other named, d.path = some other → d'.inodes[other]? = some named →
      ∃ old, d.inodes[other]? = some old ∧ named.generation = old.generation := by
    intro other named path present
    have before := List.getElem?_eq_getElem (sound.named other path)
    obtain ⟨after, present', change⟩ := evolves.inodes other _ before
    cases present.symm.trans present'
    exact ⟨_, before, Inode.generation_of_change change⟩
  refine ⟨tracks.loaded.evolve evolves, tracks.plain, ?_, ?_, ?_⟩
  · intro broken file named
    obtain ⟨other, path, present⟩ := Disk.named_eq_some.mp named
    by_cases before : d.path = some other
    · obtain ⟨old, present', same⟩ := kept other file before present
      rw [same]
      exact tracks.broken broken old (Disk.named_eq_some.mpr ⟨other, before, present'⟩)
    · exact ((apart other file path present before).2 broken).symm
  · intro index current
    obtain ⟨file, present, law, attached, info⟩ := tracks.held index current
    obtain ⟨file', present', change⟩ := evolves.inodes index file present
    have generation := Inode.generation_of_change change
    refine ⟨file', present', ?_, fun closed => ?_, fun described next => ?_⟩
    · intro other named path named_present same
      by_cases before : d.path = some other
      · obtain ⟨old, old_present, kept'⟩ := kept other named before named_present
        exact law other old before old_present (kept'.symm.trans (same.trans generation))
      · have held : r.held d = some file := by simp only [ReaderState.held, current, present]
        exact absurd (same.trans generation) ((apart other named path named_present before).1 file held)
    · exact (attached closed).evolve evolves (List.getElem?_eq_some_iff.mp present).1 change
    · exact (info described next).trans generation.symm
  · have step := tracks.step
    rw [← evolves.epoch] at step
    exact step

/-! ## One system call -/

theorem ReaderState.held_eq_some : r.held d = some file ↔
    ∃ index, r.current = some (.file index) ∧ d.inodes[index]? = some file := by
  simp only [ReaderState.held]
  split <;> simp_all

def ReaderState.Follows (r : ReaderState) (index : Nat) (file : Inode) : Prop :=
  r.current = some (.file index) ∧ r.birth = file.birth ∧ r.next.opening = false

theorem ReaderState.loose_of_opening (opening : r.next.opening) (index : Nat) (file : Inode) :
    ¬r.Follows index file := by
  rintro ⟨_, _, closed⟩
  rw [opening] at closed
  cases closed

/-- The system calls under which the reader keeps track: they succeed, but for the saving of the checkpoint; a text that
has replaced the one read so far is shorter than the reader's position when the reader looks at it; and a checkpoint
that fits an opened file was saved for the text in it. -/
def ReaderState.AdmittedAt (r : ReaderState) (d : Disk) (input : ReaderInput) : ReaderStep → Prop
  | .save _ _ => True
  | .statPath => input.fault = none ∧ ∀ file, d.named = some file → r.held d = some file →
      r.birth = file.birth ∨ r.offset = 0 ∨ file.content.length < r.offset
  | .read _ _ _ line => input.fault = none ∧ ∀ file, r.held d = some file → r.birth ≠ file.birth →
      file.content.length ≤ line.position
  | .statOpened => input.fault = none ∧ ∀ file, r.held d = some file → r.Resumes file file.info
  | .readEpochOpened info => input.fault = none ∧ ∀ file, r.held d = some file → r.Resumes file info
  | _ => input.fault = none

def ReaderState.Admitted (r : ReaderState) (d : Disk) (input : ReaderInput) : Prop :=
  r.AdmittedAt d input r.next

open ReaderState (exec Admitted)

theorem Tracks.of_closed (loaded : Marked log d r.checkpoint.offset r.checkpointBirth)
    (plain : c.epochPath = "" → r.sensorEpoch = c.sensorEpoch) (current : r.current = none)
    (next : r.next.resting = true ∨ r.next = .openPath) : Tracks c d log r := by
  refine ⟨loaded, plain, fun broken => ?_, fun index held => ?_, ?_⟩
  · rw [current] at broken
    cases broken
  · rw [current] at held
    cases held
  · rcases next with resting | opens
    · cases at' : r.next <;> first | trivial | (rw [at'] at resting; cases resting)
    · rw [opens]
      trivial

theorem Tracks.switchEpoch (tracks : Tracks c d log r) (launched : c.epochPath ≠ "") (epoch : String) :
    Tracks c d log (r.switchEpoch epoch) := by
  refine .of_closed ?_ (fun plain => absurd plain launched) rfl (.inl rfl)
  simp only [ReaderState.switchEpoch]
  split_ifs
  · exact .inl rfl
  · exact tracks.loaded

theorem Tracks.dropRotated (tracks : Tracks c d log r) (info : FileInfo) : Tracks c d log (r.dropRotated info) := by
  simp only [ReaderState.dropRotated, ReaderState.located, true_or, if_true]
  exact .of_closed tracks.loaded tracks.plain rfl (.inr rfl)

theorem Attached.rebased (attached : Attached c d log index file r) (sound : d.Sound)
    (present : d.inodes[index]? = some file) {purpose : Purpose} {size : Nat} {progressed : Bool}
    (next : r.next = .seek purpose size progressed) :
    Attached c d log index file { r with birth := if r.offset = 0 then file.birth else r.birth } := by
  obtain ⟨generation, level, young, marked, _, drained, _⟩ := attached
  refine ⟨generation, level, ?_, ?_, ?_, drained, ?_⟩
  · simp only
    split_ifs
    · exact sound.young file (sound.held present)
    · exact young
  · simp only
    split_ifs with zero
    · exact .inl zero
    · exact marked
  · simp only [next]
  · intro resting
    simp only [next] at resting
    cases resting

structure Stepped [EventHash] [EveParser] (c : ReaderConfig) (d : Disk) (log : List Delivery) (r : ReaderState)
    (after : Disk × ReaderState × List Delivery) : Prop where
  tracks : Tracks c d (log ++ after.2.2) after.2.1
  whole : ∀ delivery ∈ after.2.2, WholeLine c d delivery
  chained : Chained log → Chained (log ++ after.2.2)
  saved : Marked log d d.checkpoint.offset d.checkpointBirth →
    Marked (log ++ after.2.2) d after.1.checkpoint.offset after.1.checkpointBirth
  follows : ∀ index file, d.inodes[index]? = some file → r.Follows index file →
    after.2.1.Follows index file ∨ AllDelivered (log ++ after.2.2) file
  observed : ∀ birth ∈ after.1.observed, birth ∈ d.observed ∨ ∃ file, d.named = some file ∧
    file.birth = birth

section Exec
variable {r' : ReaderState}

theorem Tracks.advance (tracks : Tracks c d log r) {step : ReaderStep} (closed : r.next.opening = false)
    (closed' : step.opening = false) (ready : r.Ready c d.epoch step)
    (attached : ∀ index file, r.current = some (.file index) → d.inodes[index]? = some file →
      Attached c d log index file r → Attached c d log index file { r with next := step }) :
    Tracks c d log { r with next := step } := by
  refine { tracks with held := fun index current => ?_, step := ready }
  obtain ⟨file, present, law, attached', _⟩ := tracks.held index current
  refine ⟨file, present, law, fun _ => attached index file current present (attached' closed), ?_⟩
  intro info opened
  simp only at opened
  subst opened
  cases closed'

theorem Tracks.next {step : ReaderStep} (tracks : Tracks c d log r) (rests : r.next.resting)
    (resting : step.resting) : Tracks c d log { r with next := step } := by
  have closed : r.next.opening = false := by
    cases at' : r.next <;> first | rfl | (rw [at'] at rests; cases rests)
  refine tracks.advance closed ?_ ?_ fun index file _ _ attached =>
    { attached with next := ?_, drained := ?_, polled := fun _ => attached.polled rests }
  · cases step <;> first | rfl | cases resting
  · cases step <;> trivial
  · cases step <;> trivial
  · intro size drained
    cases step <;> first | cases drained | cases resting

theorem Tracks.attached (tracks : Tracks c d log r) (current : r.current = some (.file index))
    (closed : r.next.opening = false) :
    ∃ file, d.inodes[index]? = some file ∧ r.held d = some file ∧ Attached c d log index file r := by
  obtain ⟨file, present, _, attached, _⟩ := tracks.held index current
  refine ⟨file, present, ?_, attached closed⟩
  simp only [ReaderState.held, current, present]

theorem Attached.covered (attached : Attached c d log index file r) (sound : d.Sound)
    (present : d.inodes[index]? = some file) (fresh : r.birth = file.birth) : Covered log file r.offset := by
  have marked := attached.marked
  rw [fresh] at marked
  exact marked.covered sound (sound.held present)

variable [EventHash] [EveParser]

section
variable (tracks : Tracks c d log r')
include tracks

theorem Stepped.silent
    (follows : ∀ index file, d.inodes[index]? = some file → r.Follows index file →
      r'.Follows index file ∨ AllDelivered log file) : Stepped c d log r (d, r', []) := by
  refine ⟨?_, nofun, ?_, ?_, ?_, fun birth member => .inl member⟩ <;> simp only [List.append_nil]
  · exact tracks
  · exact id
  · exact id
  · exact follows

theorem Stepped.going (current : r'.current = r.current) (birth : r'.birth = r.birth)
    (closed : r'.next.opening = false) : Stepped c d log r (d, r', []) := by
  refine .silent tracks fun index file _ follows => .inl ?_
  exact ⟨current.trans follows.1, birth.trans follows.2.1, closed⟩

theorem Stepped.loose (loose : ∀ index file, ¬r.Follows index file) : Stepped c d log r (d, r', []) :=
  .silent tracks fun index file _ follows => absurd follows (loose index file)

variable {input : ReaderInput} {purpose : Purpose} {progressed : Bool} {size : Nat}

theorem Stepped.finished {worked : Option Nat}
    (noEpoch : ∀ epoch, purpose ≠ .epoch epoch) (current : r'.current = some (.file index))
    (present : d.inodes[index]? = some file) (attached : Attached c d log index file r')
    (same : r.current = r'.current) (fresh : r.birth = file.birth → r'.birth = file.birth)
    (polled : r'.birth = file.birth → ∀ size, worked = some size →
      size ≤ file.content.length ∧ newline ∉ slice file.content r'.offset size)
    (drained : ∀ info, purpose = .rotation info → r'.birth = file.birth → AllDelivered log file) :
    Stepped c d log r (d, r'.finished purpose progressed worked, []) := by
  have mine : ∀ index' file', d.inodes[index']? = some file' → r.Follows index' file' →
      index' = index ∧ file' = file ∧ r'.birth = file.birth := by
    intro index' file' present' follows
    have here : some (Handle.file index') = some (.file index) := follows.1.symm.trans (same.trans current)
    cases here
    cases present.symm.trans present'
    exact ⟨rfl, rfl, fresh follows.2.1⟩
  cases purpose with
  | epoch epoch => exact absurd rfl (noEpoch epoch)
  | rotation info =>
    refine .silent (tracks.dropRotated info) fun index' file' present' follows => .inr ?_
    obtain ⟨rfl, rfl, birth⟩ := mine index' file' present' follows
    exact drained info rfl birth
  | poll =>
    obtain ⟨file', present', law, _, _⟩ := tracks.held index current
    cases present.symm.trans present'
    have resting : (if progressed = true then ReaderStep.readEpoch else .wait).resting = true := by
      cases progressed <;> rfl
    refine .silent { tracks with held := ?_, step := ?_ } ?_
    · intro index' current'
      cases current.symm.trans current'
      refine ⟨file, present, law, fun _ =>
        { attached with next := ?_, drained := ?_, polled := fun _ => polled }, ?_⟩
      · cases progressed <;> trivial
      · cases progressed <;> exact nofun
      · cases progressed <;> exact nofun
    · cases progressed <;> trivial
    · intro index' file' present'' follows
      obtain ⟨rfl, rfl, birth⟩ := mine index' file' present'' follows
      refine .inl ⟨current, birth, ?_⟩
      cases progressed <;> rfl

end

theorem Stepped.opened (tracks : Tracks c d log r) (fromStart : c.startAtEnd = false) (sound : d.Sound)
    (level : r.sensorEpoch = c.liveEpoch d) (current : r.current = some (.file index))
    (present : d.inodes[index]? = some file) {info : FileInfo} (generation : info.generation = file.generation)
    (resumes : r.Resumes file info) (opening : r.next.opening) :
    Stepped c d log r (d, r.opened c (some file) info, []) := by
  obtain ⟨file', present', law, _, _⟩ := tracks.held index current
  cases present.symm.trans present'
  obtain ⟨offset, mark, result⟩ := ReaderState.opened_eq fromStart resumes
  rw [result]
  refine .loose ⟨tracks.loaded, tracks.plain, fun broken => ?_, fun index' current' => ?_,
    ⟨nofun, index, current⟩⟩
    (r.loose_of_opening opening)
  · rw [current] at broken
    cases broken
  · cases current.symm.trans current'
    refine ⟨file, present, law, fun _ =>
      ⟨generation, level, sound.young file (sound.held present), ?_, trivial, nofun, nofun⟩, nofun⟩
    rcases mark with rfl | ⟨rfl, same⟩
    · exact .inl rfl
    · have loaded := tracks.loaded
      rw [same] at loaded
      exact loaded

variable (tracks : Tracks c d log r) (sound : d.Sound)
include tracks sound

theorem Tracks.exec_statPath (next : r.next = .statPath)
    (admitted : r.Admitted d input) : Stepped c d log r (r.exec c input d) := by
  rw [Admitted, next] at admitted
  obtain ⟨works, noticed⟩ := admitted
  have rests : r.next.resting := by
    rw [next]
    rfl
  have closed := congrArg ReaderStep.opening next
  cases named : d.named with
  | none =>
    have step : r.exec c input d = (d, { r with next := .wait }, []) := by
      simp [exec, next, named]
    rw [step]
    exact .going (tracks.next rests rfl) rfl rfl rfl
  | some found =>
    obtain ⟨place, path, place_present⟩ := Disk.named_eq_some.mp named
    -- Only the text found is new on record.
    have noted {r' : ReaderState} (stepped : Stepped c d log r (d, r', [])) :
        Stepped c d log r ({ d with observed := found.birth :: d.observed }, r', []) := by
      refine { stepped with observed := ?_ }
      intro birth member
      rcases List.mem_cons.mp member with rfl | old
      · exact .inr ⟨found, named, rfl⟩
      · exact .inl old
    by_cases rotated : r.current.isSome ∧ r.generation ≠ found.generation
    · have step : r.exec c input d = ({ d with observed := found.birth :: d.observed },
          { r with next := .statRotated found.info }, []) := by
        simp [exec, next, named, works, rotated]
      rw [step]
      refine noted (.going (tracks.advance closed rfl trivial
        fun index file current present attached => ?_) rfl rfl rfl)
      refine { attached with next := fun here => ?_, drained := by simp, polled := by simp }
      cases here.symm.trans path
      cases present.symm.trans place_present
      exact rotated.2 attached.generation
    · have step : r.exec c input d = ({ d with observed := found.birth :: d.observed }, r.located found.info, []) := by
        simp [exec, next, named, works, rotated]
      rw [step]
      apply noted
      cases current : r.current with
      | none =>
        have opens : r.located found.info = { r with next := .openPath } := by
          simp [ReaderState.located, current]
        rw [opens]
        exact .going (.of_closed tracks.loaded tracks.plain current (.inr rfl)) rfl rfl rfl
      | some handle =>
        have generation : r.generation = found.generation := by
          by_contra other
          exact rotated ⟨by simp [current], other⟩
        cases handle with
        | broken => exact absurd generation (tracks.broken current found named)
        | file index =>
          obtain ⟨file, present, law, attached, _⟩ := tracks.held index current
          have attached := attached closed
          have here : place = index :=
            law place found path place_present (generation.symm.trans attached.generation)
          subst here
          cases present.symm.trans place_present
          have isOpen : r.current ≠ none := by simp [current]
          simp only [ReaderState.located, isOpen, false_or, Inode.info]
          split_ifs with shrunk
          · -- The text read so far is gone.
            refine .going (tracks.advance closed rfl trivial fun index' file' current' present' attached' => ?_)
              rfl rfl rfl
            refine { attached' with next := fun fresh => ?_, drained := by simp, polled := by simp }
            cases current.symm.trans current'
            cases present.symm.trans present'
            have inside := (attached'.covered sound present' fresh).inside
            omega
          · refine .going (tracks.advance closed rfl ⟨by simp, place, current⟩ fun _ _ _ _ attached' => ?_) rfl rfl
              rfl
            exact { attached' with next := trivial, drained := by simp, polled := by simp }

theorem Tracks.exec_seek (next : r.next = .seek purpose size progressed)
    (works : input.fault = none) : Stepped c d log r (r.exec c input d) := by
  have step := tracks.step
  rw [next] at step
  obtain ⟨noEpoch, index, current⟩ := step
  have closed := congrArg ReaderStep.opening next
  obtain ⟨file, present, held, attached⟩ := tracks.attached current closed
  obtain ⟨_, present', law, _, _⟩ := tracks.held index current
  cases present.symm.trans present'
  have based := attached.rebased sound present next
  -- From here on the reader has the text that the file holds, if its offset is zero.
  have fresh : r.birth = file.birth → (if r.offset = 0 then file.birth else r.birth) = file.birth := by
    intro same
    rw [same, ite_self]
  have tracks' : Tracks c d log { r with birth := if r.offset = 0 then file.birth else r.birth } := by
    refine { tracks with held := fun index' current' => ?_ }
    cases current.symm.trans current'
    refine ⟨file, present, law, fun _ => based, fun info opened => ?_⟩
    simp only [next] at opened
    cases opened
  by_cases worked : size ≤ r.offset
  · have step : r.exec c input d = (d, ({ r with birth := if r.offset = 0 then file.birth else r.birth }).finished
        purpose progressed (some size), []) := by
      rw [← ReaderState.rebased_of_held held]
      simp [exec, next, worked]
    rw [step]
    refine .finished tracks' noEpoch current present based rfl fresh (fun same size' whole => ?_)
      fun info rotation same => ?_
    · cases whole
      have inside := (based.covered sound present same).inside
      refine ⟨Nat.le_trans worked inside, ?_⟩
      rw [slice_of_le _ worked]
      exact List.not_mem_nil
    · subst rotation
      have covered := based.covered sound present same
      have inside := covered.inside
      obtain ⟨_, whole⟩ := attached.drained size (by rw [next]; rfl)
      apply covered.all
      rw [List.drop_eq_nil_of_le (by simp only; omega)]
      exact List.not_mem_nil
  · have step : r.exec c input d = (d, { r with
        birth := if r.offset = 0 then file.birth else r.birth
        next := .read purpose size progressed { start := r.offset, offset := r.offset } }, []) := by
      have plain : r.exec c input d = (d, { r.rebased d with
          next := .read purpose size progressed { start := r.offset, offset := r.offset } }, []) := by
        simp [exec, next, worked, works, held]
      rw [plain, ReaderState.rebased_of_held held]
    rw [step]
    refine .silent (tracks'.advance closed rfl ⟨noEpoch, index, current⟩ ?_) ?_
    · intro index' file' current' present'' attached'
      cases current.symm.trans current'
      cases present.symm.trans present''
      refine { attached' with next := ⟨rfl, fun same => ?_⟩, drained := fun size' drained => ?_, polled := by simp }
      · exact .begin (based.covered sound present same).inside
      · apply attached.drained
        rw [next]
        cases purpose <;> exact drained
    · intro index' file' present'' follows
      cases current.symm.trans follows.1
      cases present.symm.trans present''
      exact .inl ⟨current, fresh follows.2.1, rfl⟩

theorem Tracks.exec_read {line : LineRead}
    (next : r.next = .read purpose size progressed line) (admitted : r.Admitted d input) :
    Stepped c d log r (r.exec c input d) := by
  have step := tracks.step
  rw [next] at step
  obtain ⟨noEpoch, index, current⟩ := step
  have closed := congrArg ReaderStep.opening next
  obtain ⟨file, present, held, attached⟩ := tracks.attached current closed
  rw [Admitted, next] at admitted
  obtain ⟨works, ended⟩ := admitted
  have reading := attached.next
  rw [next] at reading
  obtain ⟨start, gathered⟩ := reading
  -- The steps after this one read on for the same purpose.
  have same_drain : ∀ step : ReaderStep, step = .save purpose size ∨
    (∃ line, step = .read purpose size progressed line) →
      ∀ size', step.drained = some size' → d.path ≠ some index ∧ size' = file.content.length := by
    intro step later size' drained
    apply attached.drained
    rw [next]
    rcases later with rfl | ⟨_, rfl⟩ <;> cases purpose <;> exact drained
  by_cases fresh : r.birth = file.birth
  · have covered := attached.covered sound present fresh
    rcases ReaderState.exec_read next held works (gathered fresh) with ⟨none, step⟩ | ⟨after, completed, step⟩ |
      ⟨after, gathered', start', _, step⟩
    · rw [start] at none
      rw [step]
      refine .finished tracks noEpoch current present attached rfl id (fun _ size' whole => ?_) fun _ _ _ => ?_
      · cases whole
        exact ⟨Nat.le_refl _, fun member => none (List.mem_of_mem_take member)⟩
      · exact covered.all none
    · rw [start] at completed
      have delivered : Delivered c r.sensorEpoch r.generation file.birth _ (r.deliver c file.birth after) :=
        ReaderState.delivered_deliver completed
      rw [attached.generation, attached.level] at delivered
      rw [step]
      have member := sound.held present
      have starts : IsLineStart file.content r.offset := by
        obtain ⟨lines, framed, _⟩ := covered
        exact framed.isLineStart
      generalize r.deliver c file.birth after = delivery at delivered ⊢
      have whole : WholeLine c d delivery :=
        ⟨file, member, r.offset, after.offset, completed.ordered, completed.inside, starts,
          completed.complete, delivered⟩
      have birth := delivered.birth
      have start : delivery.position.byteStart = r.offset := by rw [delivered.position]
      have ends : delivery.position.byteEnd = after.offset := by rw [delivered.position]
      have covered' := covered.next completed.ordered completed.inside completed.complete birth start ends
      obtain ⟨_, present', law, _, _⟩ := tracks.held index current
      cases present.symm.trans present'
      refine ⟨⟨tracks.loaded.append _, tracks.plain, tracks.broken, fun index' current' => ?_,
        ⟨noEpoch, index, current⟩⟩,
        fun other single => ?_, fun chained => ?_, fun saved => saved.append _,
        fun index' file' present'' follows => ?_, fun birth old => .inl old⟩
      · cases current.symm.trans current'
        exact ⟨file, present, law, fun _ => { attached with
          marked := .inr ⟨file, member, fresh.symm, covered'⟩
          next := trivial, drained := same_drain _ (.inl rfl), polled := nofun }, nofun⟩
      · cases List.mem_singleton.mp single
        exact whole
      · apply chained.snoc
        rw [start, birth]
        exact covered.reached
      · exact .inl ⟨follows.1, follows.2.1, rfl⟩
    · rw [step]
      refine .going (tracks.advance closed rfl ⟨noEpoch, index, current⟩ ?_) rfl rfl rfl
      intro index' file' current' present' attached'
      cases current.symm.trans current'
      cases present.symm.trans present'
      exact { attached with
        next := ⟨start'.trans start, fun _ => gathered'⟩
        drained := same_drain _ (.inr ⟨after, rfl⟩), polled := nofun }
  · have empty : file.content.drop line.position = [] := List.drop_eq_nil_of_le (ended file held fresh)
    have step : r.exec c input d = (d, r.finished purpose progressed (some line.position), []) := by
      simp [exec, next, held, works, empty]
    rw [step]
    exact .finished tracks noEpoch current present attached rfl id (fun same => absurd same fresh)
      fun _ _ same => absurd same fresh

theorem Tracks.steps (fromStart : c.startAtEnd = false) (admitted : r.Admitted d input) :
    Stepped c d log r (r.exec c input d) := by
  have step := tracks.step
  cases next : r.next with
  | wait =>
    simp only [exec, next]
    exact .going (tracks.next (by rw [next]; rfl) rfl) rfl rfl rfl
  | readEpoch =>
    rw [Admitted, next] at admitted
    by_cases taken : c.epochPath = "" ∨ input.fault.isSome ∨ d.epoch = "" ∨ d.epoch = r.sensorEpoch
    · have step : r.exec c input d = (d, { r with next := .statPath }, []) := by
        simp only [exec, next, taken, if_true]
      rw [step]
      exact .going (tracks.next (by rw [next]; rfl) rfl) rfl rfl rfl
    · have launched : c.epochPath ≠ "" := fun plain => taken (.inl plain)
      have behind : d.epoch ≠ r.sensorEpoch := fun level => taken (.inr (.inr (.inr level)))
      have loose : ∀ index, r.current ≠ some (.file index) := by
        intro index current
        obtain ⟨file, present, _, attached⟩ := tracks.attached current (by rw [next]; rfl)
        have level := attached.level
        rw [ReaderConfig.liveEpoch, if_neg launched] at level
        exact behind level.symm
      have apart : ∀ index file, ¬r.Follows index file := fun index file follows => loose index follows.1
      simp only [exec, next, taken, if_false]
      split_ifs with isOpen
      · refine .loose (tracks.advance (by rw [next]; rfl) rfl ⟨launched, rfl, ?_⟩
          fun index file current => ?_) apart
        · cases current : r.current with
          | none => simp [current] at isOpen
          | some handle =>
            cases handle with
            | file index => exact absurd current (loose index)
            | broken => rfl
        · exact absurd current (loose index)
      · exact .loose (tracks.switchEpoch launched _) apart
  | statBeforeEpoch epoch =>
    rw [next] at step
    obtain ⟨launched, _, broken⟩ := step
    have none : r.held d = none := by simp only [ReaderState.held, broken]
    have loose : ∀ index file, ¬r.Follows index file := by
      rintro index file ⟨current, _⟩
      rw [broken] at current
      cases current
    have step : r.exec c input d = (d, r.switchEpoch epoch, []) := by
      simp only [exec, next, none]
    rw [step]
    exact .loose (tracks.switchEpoch launched _) loose
  | statPath => exact tracks.exec_statPath sound next admitted
  | statRotated info =>
    rw [Admitted, next] at admitted
    have works : input.fault = none := admitted
    have closed := congrArg ReaderStep.opening next
    cases held : r.held d with
    | none =>
      have step : r.exec c input d = (d, r.dropRotated info, []) := by
        simp only [exec, next, held]
      rw [step]
      refine .loose (tracks.dropRotated info) fun index file follows => ?_
      obtain ⟨_, _, held', _⟩ := tracks.attached follows.1 closed
      rw [held] at held'
      cases held'
    | some file =>
      have step : r.exec c input d =
          (d, { r with next := .seek (.rotation info) file.content.length false }, []) := by
        simp [exec, next, held, works]
      obtain ⟨index, current, _⟩ := ReaderState.held_eq_some.mp held
      rw [step]
      refine .going (tracks.advance closed rfl ⟨by simp, index, current⟩ ?_) rfl rfl rfl
      intro index' file' current' present' attached
      have elsewhere := attached.next
      rw [next] at elsewhere
      refine { attached with next := trivial, drained := fun size drained => ?_, polled := by simp }
      simp only [ReaderState.held, current', present', Option.some.injEq] at held
      subst held
      cases drained
      exact ⟨elsewhere, rfl⟩
  | openPath =>
    rw [Admitted, next] at admitted
    have works : input.fault = none := admitted
    have loose : ∀ index file, d.inodes[index]? = some file → ¬r.Follows index file := by
      intro index file present follows
      obtain ⟨_, present', _, attached⟩ := tracks.attached follows.1 (by rw [next]; rfl)
      cases present.symm.trans present'
      have gone := attached.next
      rw [next] at gone
      exact gone follows.2.1
    cases path : d.path with
    | none =>
      have step : r.exec c input d = (d, { r with current := some .broken, next := .wait }, []) := by
        simp [exec, next, path]
      rw [step]
      refine .silent ⟨tracks.loaded, tracks.plain, fun _ file named => ?_, by simp, trivial⟩
        fun index file present follows => absurd follows (loose index file present)
      simp [Disk.named, path] at named
    | some index =>
      have step : r.exec c input d = (d, { r with current := some (.file index), next := .statOpened }, []) := by
        simp [exec, next, path, works]
      have present := List.getElem?_eq_getElem (sound.named index path)
      rw [step]
      refine .silent ⟨tracks.loaded, tracks.plain, by simp, fun index' current' => ?_, ⟨index, rfl⟩⟩
        fun index file present follows => absurd follows (loose index file present)
      cases current'
      refine ⟨_, present, fun other named other_path _ _ => ?_, by simp, by simp⟩
      cases path.symm.trans other_path
      rfl
  | statOpened =>
    rw [next] at step
    rw [Admitted, next] at admitted
    obtain ⟨index, current⟩ := step
    obtain ⟨file, present, law, _, _⟩ := tracks.held index current
    have held : r.held d = some file := by simp only [ReaderState.held, current, present]
    have opening := congrArg ReaderStep.opening next
    simp only [exec, next, held, admitted.1, Option.isSome_none, Bool.false_eq_true, if_false]
    split_ifs with plain
    · have level : r.sensorEpoch = c.liveEpoch d := by
        rw [ReaderConfig.liveEpoch, if_pos plain]
        exact tracks.plain plain
      exact .opened tracks fromStart sound level current present rfl (admitted.2 file held) opening
    · refine .loose { tracks with held := fun index' current' => ?_, step := ⟨plain, index, current⟩ }
        (r.loose_of_opening opening)
      cases current.symm.trans current'
      refine ⟨file, present, law, by simp, fun info same => ?_⟩
      cases same
      rfl
  | readEpochOpened info =>
    rw [next] at step
    rw [Admitted, next] at admitted
    obtain ⟨launched, index, current⟩ := step
    obtain ⟨file, present, law, _, described⟩ := tracks.held index current
    have held : r.held d = some file := by simp only [ReaderState.held, current, present]
    have opening := congrArg ReaderStep.opening next
    have loose := r.loose_of_opening opening
    simp only [exec, next, held, admitted.1, Option.isSome_none, Bool.false_eq_true, false_or]
    split_ifs with absent other
    · exact .loose (.of_closed tracks.loaded tracks.plain rfl (.inl rfl)) loose
    · exact .loose (.of_closed tracks.loaded tracks.plain rfl (.inl rfl)) loose
    · have level : r.sensorEpoch = c.liveEpoch d := by
        rw [ReaderConfig.liveEpoch, if_neg launched]
        exact (not_not.mp other).symm
      exact .opened tracks fromStart sound level current present (described info next) (admitted.2 file held) opening
  | seek purpose size progressed =>
    rw [Admitted, next] at admitted
    exact tracks.exec_seek sound next admitted
  | read purpose size progressed line => exact tracks.exec_read sound next admitted
  | save purpose size =>
    rw [next] at step
    obtain ⟨noEpoch, index, current⟩ := step
    have closed := congrArg ReaderStep.opening next
    have going : Stepped c d log r (d, { r with next := .seek purpose size true }, []) := by
      refine .going (tracks.advance closed rfl ⟨noEpoch, index, current⟩ ?_) rfl rfl rfl
      intro index' file' current' present' attached
      refine { attached with next := trivial, drained := fun size' drained => ?_, polled := by simp }
      apply attached.drained
      rw [next]
      cases purpose <;> exact drained
    obtain ⟨_, _, _, attached⟩ := tracks.attached current closed
    simp only [exec, next]
    split_ifs
    · exact going
    · exact { going with saved := fun _ => attached.marked.append _ }

end Exec

/-! ## Runs -/

def EveState.Lives (s : EveState) (file : Inode) : Prop :=
  ∃ index, s.disk.inodes[index]? = some file ∧
    (s.disk.path = some index ∨ ∃ r, s.reader = some r ∧ r.Follows index file)

def ReaderState.Reads (r : ReaderState) (d : Disk) (file : Inode) : Prop :=
  r.held d = some file ∧ r.birth = file.birth ∧ r.next.opening = false

/-- The moves under which the reader loses nothing. A text the reader has found is emptied only when all of its lines
have been delivered, and taken from the path only then or while the reader reads it; the reader is not stopped over a
rotated file with lines it has not delivered; a new file is not mistaken for the one the reader knows; and the reader's
calls are admitted. -/
def EveState.Admits (s : EveState) : EveMove → Prop
  | .event (.append _) | .start _ => True
  | .event .truncate => ∀ file, s.disk.named = some file → file.birth ∈ s.disk.observed →
      AllDelivered s.deliveries file
  | .event .remove => ∀ file, s.disk.named = some file → file.birth ∈ s.disk.observed →
      AllDelivered s.deliveries file ∨ ∃ r, s.reader = some r ∧ r.Reads s.disk file
  | .event (.create device number) => s.disk.path = none ∧ ∀ r, s.reader = some r →
      r.Apart s.disk (Inode.generation { device, number, birth := s.disk.births })
  | .stop => ∀ r, s.reader = some r → ∀ file, r.held s.disk = some file → file.birth ∈ s.disk.observed →
      s.disk.named = some file ∨ AllDelivered s.deliveries file
  | .step input => ∀ r, s.reader = some r → r.Admitted s.disk input

def EveState.Blank (s : EveState) : Prop :=
  ∃ epoch, s = { disk := { epoch } }

section Runs
theorem Disk.checkpoint_event (d : Disk) (event : LogEvent) : (d.event event).checkpoint = d.checkpoint ∧
    (d.event event).checkpointBirth = d.checkpointBirth := by
  cases event with
  | append | truncate =>
    simp only [Disk.event]
    split <;> exact ⟨rfl, rfl⟩
  | remove | create => exact ⟨rfl, rfl⟩

theorem Disk.texts_event (event : LogEvent) (member : file ∈ (d.event event).texts) :
    file ∈ d.texts ∨ file.birth = d.births ∨
      ∃ index, (d.event event).path = some index ∧ (d.event event).inodes[index]? = some file := by
  cases event with
  | append bytes =>
    simp only [Disk.event] at member ⊢
    cases path : d.path with
    | none =>
      rw [path] at member
      exact .inl member
    | some index =>
      rw [path] at member
      rcases List.mem_append.mp member with current | past
      · obtain ⟨place, present⟩ := List.getElem?_of_mem current
        by_cases here : index = place
        · subst here
          exact .inr (.inr ⟨index, rfl, present⟩)
        · obtain ⟨old, present', same⟩ := exists_of_getElem?_modify present
          rw [if_neg here] at same
          subst same
          exact .inl (List.mem_append_left _ (List.mem_of_getElem? present'))
      · exact .inl (List.mem_append_right _ past)
  | truncate =>
    simp only [Disk.event] at member
    cases path : d.path with
    | none =>
      rw [path] at member
      exact .inl member
    | some index =>
      rw [path] at member
      rcases List.mem_append.mp member with current | past
      · obtain ⟨place, present⟩ := List.getElem?_of_mem current
        obtain ⟨old, present', same⟩ := exists_of_getElem?_modify present
        split_ifs at same
        · subst same
          exact .inr (.inl rfl)
        · subst same
          exact .inl (List.mem_append_left _ (List.mem_of_getElem? present'))
      · rcases List.mem_append.mp past with old | named
        · exact .inl (List.mem_append_right _ old)
        · obtain ⟨place, _, present⟩ := Disk.named_eq_some.mp (Option.mem_toList.mp named)
          exact .inl (List.mem_append_left _ (List.mem_of_getElem? present))
  | remove => exact .inl member
  | create device number =>
    rcases List.mem_append.mp member with current | past
    · rcases List.mem_append.mp current with old | new
      · exact .inl (List.mem_append_left _ old)
      · cases List.mem_singleton.mp new
        exact .inr (.inl rfl)
    · exact .inl (List.mem_append_right _ past)

theorem Tracks.steady (tracks : Tracks c d log r) (admitted : r.Admitted d {}) (path : d.path = some index)
    (present : d.inodes[index]? = some file) (readable : c.epochPath ≠ "" → d.epoch ≠ "") :
    r.Steady c d index file := by
  have step := tracks.step
  have named : d.named = some file := Disk.named_eq_some.mpr ⟨index, path, present⟩
  have holds (here : r.current = some (.file index)) : r.held d = some file := by
    simp only [ReaderState.held, here, present]
  refine ⟨path, present, readable, ?_, ?_, ?_, ?_, ?_, ?_, ?_, ?_⟩
  · intro purpose size progressed line next held same
    rw [next] at step
    obtain ⟨_, place, current⟩ := step
    intro fresh
    obtain ⟨file', _, held', attached⟩ := tracks.attached current (by rw [next]; rfl)
    cases same.symm.trans held'
    have reading := attached.next
    rw [next] at reading
    exact reading.2 fresh
  · intro purpose size progressed line next held same stale
    rw [Admitted, next] at admitted
    exact admitted.2 held same stale
  · intro next isOpen generation
    rw [Admitted, next] at admitted
    cases current : r.current with
    | none => exact absurd current isOpen
    | some handle =>
      cases handle with
      | broken => exact absurd generation (tracks.broken current file named)
      | file place =>
        obtain ⟨file', present', law, attached, _⟩ := tracks.held place current
        have attached := attached (by rw [next]; rfl)
        have here := law index file path present (generation.symm.trans attached.generation)
        subst here
        exact ⟨rfl, admitted.2 file named (holds current)⟩
  · intro epoch next
    rw [next] at step
    exact step.2.1
  · intro epoch size progressed next
    rw [next] at step
    exact absurd rfl (step.1 epoch)
  · intro epoch size progressed line next
    rw [next] at step
    exact absurd rfl (step.1 epoch)
  · intro next here
    rw [Admitted, next] at admitted
    exact admitted.2 file (holds here)
  · intro info next
    rw [next] at step
    rw [Admitted, next] at admitted
    exact ⟨step.1, fun here => admitted.2 file (holds here)⟩

variable [EventHash] [EveParser]

structure Tracked (c : ReaderConfig) (s : EveState) : Prop where
  sound : s.disk.Sound
  whole : ∀ delivery ∈ s.deliveries, WholeLine c s.disk delivery
  chained : Chained s.deliveries
  saved : Marked s.deliveries s.disk s.disk.checkpoint.offset s.disk.checkpointBirth
  reader : ∀ r, s.reader = some r → Tracks c s.disk s.deliveries r
  ended : ∀ file ∈ s.disk.texts, file.birth ∈ s.disk.observed → AllDelivered s.deliveries file ∨ s.Lives file

variable {s : EveState}

theorem Tracked.of_blank (blank : s.Blank) : Tracked c s := by
  obtain ⟨epoch, rfl⟩ := blank
  exact ⟨⟨List.nodup_nil, nofun, nofun, nofun⟩, nofun, nofun, .inl rfl, nofun, nofun⟩

theorem Tracked.event (tracked : Tracked c s) {event : LogEvent} (admits : s.Admits (.event event)) :
    Tracked c (s.step c (.event event)) := by
  obtain ⟨sound, whole, chained, saved, reader, ended⟩ := tracked
  have evolves := s.disk.evolves_event event
  simp only [EveState.step]
  refine ⟨sound.event event, fun delivery member => (whole delivery member).evolve evolves, chained, ?_, ?_, ?_⟩
  · obtain ⟨checkpoint, birth⟩ := s.disk.checkpoint_event event
    simp only [checkpoint, birth]
    exact saved.evolve evolves
  · intro r running
    apply (reader r running).evolve sound evolves
    intro other named path present elsewhere
    -- Only a new file can have come to the path.
    cases event with
    | append | truncate =>
      simp only [Disk.event] at path
      split at path
      · exact absurd path elsewhere
      · exact absurd path elsewhere
    | remove => cases path
    | create device number =>
      cases path
      simp only [Disk.event, List.getElem?_concat_length, Option.some.injEq] at present
      subst present
      exact admits.2 r running
  · intro file member observed
    simp only [Disk.observed_event] at observed
    rcases Disk.texts_event event member with old | new | ⟨index, path, present⟩
    · rcases ended file old observed with all | ⟨index, present, lives⟩
      · exact .inl all
      · obtain ⟨file', present', change⟩ := evolves.inodes index file present
        -- The file still holds this text, or it has just been emptied.
        have text : file' = file ∨ s.disk.path = some index ∧ file'.birth = s.disk.births := by
          rcases change with same | ⟨path, grown | emptied⟩
          · exact .inl same
          · exact .inl ((sound.event event).unique ((sound.event event).held present') member grown.birth)
          · exact .inr ⟨path, emptied.2⟩
        cases event with
        | append bytes =>
          have path_eq : (s.disk.event (.append bytes)).path = s.disk.path := by
            simp only [Disk.event]
            split <;> rfl
          have births_eq : (s.disk.event (.append bytes)).births = s.disk.births := by
            simp only [Disk.event]
            split <;> rfl
          have young := (sound.event (.append bytes)).young file' ((sound.event _).held present')
          rw [births_eq] at young
          rcases text with rfl | ⟨_, born⟩
          · exact .inr ⟨index, present', lives.imp_left path_eq.trans⟩
          · omega
        | truncate =>
          have path_eq : (s.disk.event .truncate).path = s.disk.path := by
            simp only [Disk.event]
            split <;> rfl
          rcases text with rfl | ⟨path, _⟩
          · exact .inr ⟨index, present', lives.imp_left path_eq.trans⟩
          · exact .inl (admits file (Disk.named_eq_some.mpr ⟨index, path, present⟩) observed)
        | remove =>
          rcases lives with path | follows
          · rcases admits file (Disk.named_eq_some.mpr ⟨index, path, present⟩) observed with
              all | ⟨r, running, reads⟩
            · exact .inl all
            · obtain ⟨place, current, place_present⟩ := ReaderState.held_eq_some.mp reads.1
              exact .inr ⟨place, place_present, .inr ⟨r, running, current, reads.2⟩⟩
          · exact .inr ⟨index, present, .inr follows⟩
        | create device number =>
          have free := admits.1
          rcases text with rfl | ⟨path, _⟩
          · rcases lives with path | follows
            · rw [free] at path
              cases path
            · exact .inr ⟨index, present', .inr follows⟩
          · rw [free] at path
            cases path
    · have := sound.found _ observed
      omega
    · exact .inr ⟨index, present, .inl path⟩

theorem Tracked.stop (tracked : Tracked c s) (admits : s.Admits .stop) : Tracked c (s.step c .stop) := by
  obtain ⟨sound, whole, chained, saved, reader, ended⟩ := tracked
  refine ⟨sound, whole, chained, saved, nofun, fun file member observed => ?_⟩
  rcases ended file member observed with all | ⟨index, present, path | ⟨r, running, follows⟩⟩
  · exact .inl all
  · exact .inr ⟨index, present, .inl path⟩
  · have held : r.held s.disk = some file := ReaderState.held_eq_some.mpr ⟨index, follows.1, present⟩
    rcases admits r running file held observed with named | all
    · obtain ⟨place, path, place_present⟩ := Disk.named_eq_some.mp named
      exact .inr ⟨place, place_present, .inl path⟩
    · exact .inl all

theorem Tracked.start (tracked : Tracked c s) (fault : Option String) : Tracked c (s.step c (.start fault)) := by
  cases stopped : s.reader with
  | some r =>
    have step : s.step c (.start fault) = s := by
      simp only [EveState.step, stopped]
    rw [step]
    exact tracked
  | none =>
    obtain ⟨sound, whole, chained, saved, _, ended⟩ := tracked
    simp only [EveState.step, stopped]
    refine ⟨sound, whole, chained, saved, fun r running => ?_, fun file member observed => ?_⟩
    · cases running
      refine .of_closed ?_ (fun _ => rfl) rfl (.inl rfl)
      simp only
      split_ifs
      · exact .inl rfl
      · exact saved
    · rcases ended file member observed with all | ⟨index, present, path | ⟨r, running, _⟩⟩
      · exact .inl all
      · exact .inr ⟨index, present, .inl path⟩
      · rw [stopped] at running
        cases running

theorem Tracked.steps (tracked : Tracked c s) (fromStart : c.startAtEnd = false) {input : ReaderInput}
    (admits : s.Admits (.step input)) : Tracked c (s.step c (.step input)) := by
  cases running : s.reader with
  | none =>
    have step : s.step c (.step input) = s := by
      simp only [EveState.step, running]
    rw [step]
    exact tracked
  | some r =>
    have same := ReaderState.exec_sameFiles c input s.disk r
    have stepped := (tracked.reader r running).steps tracked.sound fromStart (admits r running)
    obtain ⟨sound, whole, chained, saved, _, ended⟩ := tracked
    simp only [EveState.step, running]
    generalize r.exec c input s.disk = after at same stepped
    have evolves := same.evolves
    have texts : after.1.texts = s.disk.texts := by
      simp only [Disk.texts, same.inodes, same.past]
    have path : ∀ other, after.1.path = some other → s.disk.path = some other := by
      intro other path
      rw [← path, same.path]
    refine ⟨⟨?_, ?_, ?_, ?_⟩, ?_, stepped.chained chained, (stepped.saved saved).evolve evolves, ?_, ?_⟩
    · rw [texts]
      exact sound.distinct
    · rw [texts, same.births]
      exact sound.young
    · intro birth member
      rw [same.births]
      rcases stepped.observed birth member with old | ⟨file, named, rfl⟩
      · exact sound.found birth old
      · obtain ⟨index, _, present⟩ := Disk.named_eq_some.mp named
        exact sound.young file (sound.held present)
    · intro index named
      rw [same.inodes]
      exact sound.named index (path index named)
    · intro delivery member
      rcases List.mem_append.mp member with old | new
      · exact (whole delivery old).evolve evolves
      · exact (stepped.whole delivery new).evolve evolves
    · intro r' running'
      cases running'
      exact stepped.tracks.evolve sound evolves fun other named named_path _ elsewhere =>
        absurd (path other named_path) elsewhere
    · intro file member observed
      rw [texts] at member
      have lives : AllDelivered s.deliveries file ∨ s.Lives file := by
        rcases stepped.observed _ observed with old | ⟨file', named, birth⟩
        · exact ended file member old
        · obtain ⟨index, path, present⟩ := Disk.named_eq_some.mp named
          cases sound.unique (sound.held present) member birth
          exact .inr ⟨index, present, .inl path⟩
      rcases lives with all | ⟨index, present, path | ⟨r', running', follows⟩⟩
      · exact .inl (all.append _)
      · exact .inr ⟨index, by rw [same.inodes]; exact present, .inl (same.path.trans path)⟩
      · cases running.symm.trans running'
        rcases stepped.follows index file present follows with still | all
        · exact .inr ⟨index, by rw [same.inodes]; exact present, .inr ⟨_, rfl, still⟩⟩
        · exact .inl all

theorem tracked_of_reachable (fromStart : c.startAtEnd = false)
    (reached : Reachable EveState.Blank EveState.Admits (EveState.step c) s) : Tracked c s := by
  apply reached.invariant
  · intro state blank
    exact .of_blank blank
  · intro state move tracked admits
    cases move with
    | event event => exact tracked.event admits
    | step input => exact tracked.steps fromStart admits
    | stop => exact tracked.stop admits
    | start fault => exact tracked.start fault

theorem Tracked.settled (tracked : Tracked c s) (path : s.disk.path = some index)
    (present : s.disk.inodes[index]? = some file) (running : s.reader = some r) (settled : r.Settled index file) :
    ∀ text ∈ s.disk.texts, text.birth ∈ s.disk.observed ∨ s.disk.named = some text →
      AllDelivered s.deliveries text := by
  obtain ⟨polled, current, fresh, rests⟩ := settled
  have resting : r.next.resting := by
    rcases rests with next | next <;> rw [next] <;> rfl
  have closed : r.next.opening = false := by
    rcases rests with next | next <;> rw [next] <;> rfl
  obtain ⟨file', present', _, attached⟩ := (tracked.reader r running).attached current closed
  cases present.symm.trans present'
  have here : AllDelivered s.deliveries file := by
    apply (attached.covered tracked.sound present fresh).all
    have none := (attached.polled resting fresh _ polled).2
    rw [slice, ← List.length_drop, List.take_length] at none
    exact none
  have named : s.disk.named = some file := Disk.named_eq_some.mpr ⟨index, path, present⟩
  intro text member wanted
  rcases wanted with observed | same
  · rcases tracked.ended text member observed with all | ⟨place, place_present,
      at_path | ⟨r', running', follows⟩⟩
    · exact all
    · cases path.symm.trans at_path
      cases present.symm.trans place_present
      exact here
    · cases running.symm.trans running'
      cases current.symm.trans follows.1
      cases present.symm.trans place_present
      exact here
  · cases named.symm.trans same
    exact here

structure EveState.LosesNothing (c : ReaderConfig) (s : EveState) : Prop where
  whole : ∀ delivery ∈ s.deliveries, WholeLine c s.disk delivery
  chained : Chained s.deliveries
  again : ∀ first ∈ s.deliveries, ∀ second ∈ s.deliveries, first.birth = second.birth →
    first.position.byteStart = second.position.byteStart → first = second
  ended : ∀ text ∈ s.disk.texts, text.birth ∈ s.disk.observed → AllDelivered s.deliveries text ∨ s.Lives text

theorem Tracked.losesNothing (tracked : Tracked c s) : s.LosesNothing c := by
  refine ⟨tracked.whole, tracked.chained, fun first member second member' birth start => ?_, tracked.ended⟩
  obtain ⟨file, text, from_, upTo, _, inside, _, line, delivered⟩ := tracked.whole first member
  obtain ⟨file', text', from', upTo', _, inside', _, line', delivered'⟩ := tracked.whole second member'
  rw [delivered.birth, delivered'.birth] at birth
  cases tracked.sound.unique text text' birth
  rw [delivered.position, delivered'.position] at start
  have same : from_ = from' := start
  subst same
  rw [line_unique inside inside' line line'] at delivered
  exact delivered.unique delivered'

/-- Left to itself the reader comes to deliver every text it has found, as long as its calls are admitted. -/
theorem rotation_loses_nothing (c : ReaderConfig) (fromStart : c.startAtEnd = false) {s : EveState}
    (reached : Reachable EveState.Blank EveState.Admits (EveState.step c) s) :
    s.LosesNothing c ∧
      (s.disk.named ≠ none → s.reader ≠ none → (c.epochPath ≠ "" → s.disk.epoch ≠ "") →
        Leads (EveState.quiet c) (fun t => ¬t.Admits (.step {}) ∨ ∀ text ∈ t.disk.texts,
          text.birth ∈ t.disk.observed ∨ t.disk.named = some text → AllDelivered t.deliveries text) s) := by
  refine ⟨(tracked_of_reachable fromStart reached).losesNothing, fun exists_ runs readable => ?_⟩
  obtain ⟨file, named⟩ := Option.ne_none_iff_exists'.mp exists_
  obtain ⟨index, path, present⟩ := Disk.named_eq_some.mp named
  let stays (t : EveState) : Prop := Reachable EveState.Blank EveState.Admits (EveState.step c) t ∧
    SameFiles s.disk t.disk ∧ t.reader ≠ none
  have kept : ∀ t, stays t → ¬¬t.Admits (.step {}) → stays (t.quiet c) := by
    rintro t ⟨reached, same, runs⟩ admitted
    have next : Reachable EveState.Blank EveState.Admits (EveState.step c) (t.step c (.step {})) :=
      .next _ reached (not_not.mp admitted)
    exact ⟨next, same.trans (quiet_sameFiles c t), quiet_reader c runs⟩
  have steady : ∀ t, stays t → ¬¬t.Admits (.step {}) →
      ∃ r, t.reader = some r ∧ r.Steady c t.disk index file := by
    rintro t ⟨reached, same, runs⟩ admitted
    obtain ⟨r, running⟩ := Option.ne_none_iff_exists'.mp runs
    have admitted := not_not.mp admitted r running
    refine ⟨r, running, ((tracked_of_reachable fromStart reached).reader r running).steady admitted
      (same.path.trans path) ?_ ?_⟩
    · rw [same.inodes]
      exact present
    · rw [same.epoch]
      exact readable
  apply (leads_to_settled kept steady ⟨reached, .refl _, runs⟩).imp
  rintro t (refused | ⟨⟨reached, same, _⟩, r, running, settled⟩)
  · exact .inl refused
  · right
    refine (tracked_of_reachable fromStart reached).settled (same.path.trans path) ?_ running settled
    rw [same.inodes]
    exact present

end Runs

/-! ## Two runs -/

section Sample
attribute [local instance] constantHash everyRecord

instance (log : List Delivery) (birth : Nat) (frame : Frame) : Decidable (Logged log birth frame) :=
  inferInstanceAs (Decidable (∃ delivery ∈ log, _ ∧ _))

instance (log : List Delivery) (file : Inode) : Decidable (AllDelivered log file) :=
  inferInstanceAs (Decidable (∀ frame ∈ frames 0 (completeLines file.content), _))

instance (file : Inode) (info : FileInfo) (r : ReaderState) : Decidable (r.Resumes file info) :=
  inferInstanceAs (Decidable (_ → _ → _ → _ ∨ _))

instance (r : ReaderState) (d : Disk) (generation : String) : Decidable (r.Apart d generation) :=
  inferInstanceAs (Decidable ((∀ file ∈ r.held d, _) ∧ _))

instance (r : ReaderState) (d : Disk) (file : Inode) : Decidable (r.Reads d file) :=
  inferInstanceAs (Decidable (_ ∧ _ ∧ _))

instance (r : ReaderState) (d : Disk) (input : ReaderInput) : DecidablePred (r.AdmittedAt d input)
  | .save _ _ => .isTrue trivial
  | .statPath => inferInstanceAs (Decidable (_ ∧ ∀ file ∈ d.named, r.held d = some file → _ ∨ _ ∨ _))
  | .read _ _ _ _ => inferInstanceAs (Decidable (_ ∧ ∀ file ∈ r.held d, r.birth ≠ file.birth → _))
  | .statOpened => inferInstanceAs (Decidable (_ ∧ ∀ file ∈ r.held d, r.Resumes file file.info))
  | .readEpochOpened info => inferInstanceAs (Decidable (_ ∧ ∀ file ∈ r.held d, r.Resumes file info))
  | .readEpoch | .statBeforeEpoch _ | .statRotated _ | .openPath | .seek _ _ _ | .wait =>
    inferInstanceAs (Decidable (input.fault = none))

instance (r : ReaderState) (d : Disk) (input : ReaderInput) : Decidable (r.Admitted d input) :=
  inferInstanceAs (Decidable (r.AdmittedAt d input r.next))

instance (s : EveState) : DecidablePred s.Admits
  | .event (.append _) | .start _ => .isTrue trivial
  | .event .truncate =>
    inferInstanceAs (Decidable (∀ file ∈ s.disk.named, file.birth ∈ s.disk.observed → AllDelivered _ file))
  | .event .remove => inferInstanceAs (Decidable (∀ file ∈ s.disk.named, file.birth ∈ s.disk.observed →
      AllDelivered _ file ∨ ∃ r ∈ s.reader, r.Reads s.disk file))
  | .event (.create _ _) => inferInstanceAs (Decidable (_ ∧ ∀ r ∈ s.reader, r.Apart s.disk _))
  | .stop => inferInstanceAs (Decidable (∀ r ∈ s.reader, ∀ file ∈ r.held s.disk,
      file.birth ∈ s.disk.observed → _ ∨ _))
  | .step input => inferInstanceAs (Decidable (∀ r ∈ s.reader, r.Admitted s.disk input))

def longLines : ReaderConfig := { sensorID := "sensor", sensorEpoch := "epoch-1" }

def caughtUp : List EveMove :=
  [.event (.create 1 7), .event (.append [97, 10, 98, 10]), .start none] ++ List.replicate 11 (.step {}) ++
    [.event .truncate, .event (.append [120, 10])] ++ List.replicate 8 (.step {}) ++
    [.event .remove, .event (.create 1 8), .event (.append [121, 10])] ++ List.replicate 10 (.step {}) ++
    [.stop, .start none, .event (.append [122, 10])]

theorem rotation_loses_nothing_caught_up :
    (caughtUp.foldl (EveState.step longLines) {}).LosesNothing longLines ∧
      Leads (EveState.quiet longLines) (fun t => ¬t.Admits (.step {}) ∨ ∀ text ∈ t.disk.texts,
        text.birth ∈ t.disk.observed ∨ t.disk.named = some text → AllDelivered t.deliveries text)
        (caughtUp.foldl (EveState.step longLines) {}) := by
  have begins : Reachable EveState.Blank EveState.Admits (EveState.step longLines) {} := .start ⟨"", rfl⟩
  have allowed : Allowed EveState.Admits (EveState.step longLines) {} caughtUp := by decide +kernel
  have named : (caughtUp.foldl (EveState.step longLines) {}).disk.named ≠ none := by decide +kernel
  have runs : (caughtUp.foldl (EveState.step longLines) {}).reader ≠ none := by decide +kernel
  obtain ⟨intact, leads⟩ := rotation_loses_nothing longLines rfl (begins.run allowed)
  exact ⟨intact, leads named runs (by decide)⟩

/-- A restart from a checkpoint, then a text shorter than the offset but longer than the checkpoint. -/
def staleCheckpoint : List EveMove :=
  [.event (.create 1 7), .event (.append [97, 10]), .start none] ++ List.replicate 8 (.step {}) ++
    [.stop, .start none, .event (.append [98, 10, 99, 10])] ++ List.replicate 11 (.step {}) ++
    [.event .truncate, .event (.append [120, 10, 121, 10])] ++ List.replicate 8 (.step {})

theorem first_line_after_truncation_lost :
    (staleCheckpoint.foldl (EveState.step longLines) {}).deliveries.map
        (fun delivery => (delivery.birth, delivery.position.byteStart, delivery.line)) =
      [(0, 0, [97]), (0, 2, [98]), (0, 4, [99]), (1, 2, [121])] ∧
    (staleCheckpoint.foldl (EveState.step longLines) {}).disk.named = some ⟨1, 7, 1, [120, 10, 121, 10]⟩ ∧
    (staleCheckpoint.foldl (EveState.step longLines) {}).reader.bind (·.polled) = some 4 ∧
    ¬AllDelivered (staleCheckpoint.foldl (EveState.step longLines) {}).deliveries ⟨1, 7, 1, [120, 10, 121, 10]⟩ ∧
    ¬(staleCheckpoint.foldl (EveState.step longLines) {}).LosesNothing longLines := by
  refine ⟨by decide +kernel, by decide +kernel, by decide +kernel, by decide +kernel, fun intact => ?_⟩
  have births : (staleCheckpoint.foldl (EveState.step longLines) {}).deliveries.map
      (fun delivery => (delivery.birth, delivery.position.byteStart)) = [(0, 0), (0, 2), (0, 4), (1, 2)] := by
    decide +kernel
  have chained := intact.chained
  generalize (staleCheckpoint.foldl (EveState.step longLines) {}).deliveries = log at births chained
  obtain ⟨first, log, rfl, first_eq, births⟩ := List.map_eq_cons_iff.mp births
  obtain ⟨second, log, rfl, second_eq, births⟩ := List.map_eq_cons_iff.mp births
  obtain ⟨third, log, rfl, third_eq, births⟩ := List.map_eq_cons_iff.mp births
  obtain ⟨last, log, rfl, last_eq, _⟩ := List.map_eq_cons_iff.mp births
  simp only [Prod.mk.injEq] at first_eq second_eq third_eq last_eq
  rcases chained 3 last rfl with zero | ⟨before, earlier, less, present, birth, _⟩
  · omega
  · match before, less with
    | 0, _ | 1, _ | 2, _ =>
      cases present
      omega

end Sample

end Ngfw.Inspection

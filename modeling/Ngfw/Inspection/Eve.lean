import Ngfw.Inspection.Observation
import Ngfw.Lib.Lines

/-!
# The EVE reader

The reader follows a log file by its path: it reads the complete lines behind its offset, notices that the file was
replaced or emptied, and saves a checkpoint after every line. It runs beside the writer of the log, so between any two
of its system calls the file may grow, be emptied or be replaced. The counters and the health text of the reader, which
it never reads back, are left out.
-/

namespace Ngfw.Inspection
open Lib

/-- SHA-256 in hexadecimal. -/
class EventHash where
  hex : List UInt8 → String

/-- ParseLineWithLimit, as far as the reader needs it: whether a line is a record. -/
class EveParser where
  accepts : SourcePosition → List UInt8 → Bool

def bigEndian : Nat → Nat → List UInt8
  | 0, _ => []
  | width + 1, value => bigEndian width (value / 256) ++ [UInt8.ofNat (value % 256)]

def putString (value : String) : List UInt8 :=
  bigEndian 4 (value.utf8ByteSize % 2 ^ 32) ++ value.toUTF8.toList

def eventID [EventHash] (source : SourcePosition) (line : List UInt8) : String :=
  EventHash.hex (putString source.sensorID ++ putString source.sensorEpoch ++ putString source.fileGeneration ++
    bigEndian 8 source.byteStart ++ bigEndian 8 source.byteEnd ++ line)

/-! ## Files -/

/-- A file by its inode. `birth` counts the times any file of the path was created or emptied: two contents with one
birth are the same text, the second grown out of the first. -/
structure Inode where
  device : Nat
  number : Nat
  birth : Nat
  content : List UInt8 := []
  deriving DecidableEq

def Inode.generation (file : Inode) : String :=
  toString file.device ++ ":" ++ toString file.number

inductive LogEvent
  | append (bytes : List UInt8)
  | truncate
  | remove
  | create (device number : Nat)
  deriving DecidableEq

structure Checkpoint where
  fileGeneration : String := ""
  offset : Nat := 0
  sensorEpoch : String := ""
  deriving DecidableEq

/-- The inodes of all files the path has named, which one it names now, the checkpoint on disk, and the epoch the
launcher has published, empty if there is none to be read. `past` keeps the contents that were emptied, `observed` the
births of the texts the reader has found at the path. -/
structure Disk where
  inodes : List Inode := []
  path : Option Nat := none
  births : Nat := 0
  past : List Inode := []
  observed : List Nat := []
  checkpoint : Checkpoint := {}
  checkpointBirth : Nat := 0
  epoch : String := ""
  deriving DecidableEq

namespace Disk

def named (d : Disk) : Option Inode :=
  d.path.bind (d.inodes[·]?)

def event (d : Disk) : LogEvent → Disk
  | .append bytes =>
    match d.path with
    | none => d
    | some index => { d with inodes := d.inodes.modify index fun file =>
        { file with content := file.content ++ bytes } }
  | .truncate =>
    match d.path with
    | none => d
    | some index =>
      { d with
        inodes := d.inodes.modify index fun file => { file with content := [], birth := d.births }
        past := d.past ++ d.named.toList
        births := d.births + 1 }
  | .remove => { d with path := none }
  | .create device number =>
    { d with
      inodes := d.inodes ++ [⟨device, number, d.births, []⟩]
      path := some d.inodes.length
      births := d.births + 1 }

end Disk

/-! ## Reading one line -/

def bufferSize : Nat := 4096

/-- readCompleteLine between two reads: what the buffer holds since the last fragment, and what the fragments gave. -/
structure LineRead where
  start : Nat
  offset : Nat
  buffer : List UInt8 := []
  collected : List UInt8 := []
  tooLarge : Bool := false
  deriving DecidableEq

namespace LineRead

def position (read : LineRead) : Nat :=
  read.offset + read.buffer.length

def room (read : LineRead) : Nat :=
  bufferSize - read.buffer.length

def fragment (max : Nat) (read : LineRead) (bytes : List UInt8) : LineRead :=
  let read := { read with offset := read.offset + bytes.length, buffer := [] }
  if max < read.collected.length + bytes.length then { read with tooLarge := true }
  else if !read.tooLarge then { read with collected := read.collected ++ bytes }
  else read

def absorb (max : Nat) (read : LineRead) (bytes : List UInt8) : LineRead × Bool :=
  let buffer := read.buffer ++ bytes
  if newline ∈ buffer then (read.fragment max (buffer.take (buffer.idxOf newline + 1)), true)
  else if bufferSize ≤ buffer.length then (read.fragment max buffer, false)
  else ({ read with buffer := buffer }, false)

end LineRead

def dropLast (byte : UInt8) (line : List UInt8) : List UInt8 :=
  if line.getLast? = some byte then line.dropLast else line

def chomp (line : List UInt8) : List UInt8 :=
  dropLast 13 (dropLast newline line)

/-! ## The reader -/

structure FileInfo where
  size : Nat
  generation : String
  deriving DecidableEq

def Inode.info (file : Inode) : FileInfo :=
  ⟨file.content.length, file.generation⟩

/-- The file the reader holds. After a failed Open the interface holds a nil pointer and is not nil itself. -/
inductive Handle
  | file (index : Nat)
  | broken
  deriving DecidableEq

inductive Purpose
  | epoch (epoch : String)
  | rotation (info : FileInfo)
  | poll
  deriving DecidableEq

inductive ReaderStep
  | readEpoch
  | statBeforeEpoch (epoch : String)
  | statPath
  | statRotated (info : FileInfo)
  | openPath
  | statOpened
  | readEpochOpened (info : FileInfo)
  | seek (purpose : Purpose) (size : Nat) (progressed : Bool)
  | read (purpose : Purpose) (size : Nat) (progressed : Bool) (line : LineRead)
  | save (purpose : Purpose) (size : Nat)
  | wait
  deriving DecidableEq

structure ReaderConfig where
  sensorID : String := ""
  sensorEpoch : String := ""
  sensorConfigHash : String := ""
  rulesetID : String := ""
  mode : Domain.InspectionMode := .off
  epochPath : String := ""
  lineBytes : Int := 2 ^ 20
  startAtEnd : Bool := false
  deriving DecidableEq

/-- The variables of Run. `birth` says of which text `offset` is an offset, `checkpointBirth` the same for the loaded
checkpoint, and `polled` says up to where the last poll has worked the file off. -/
structure ReaderState where
  next : ReaderStep := .readEpoch
  sensorEpoch : String
  checkpoint : Checkpoint := {}
  checkpointBirth : Nat := 0
  current : Option Handle := none
  generation : String := ""
  offset : Nat := 0
  birth : Nat := 0
  polled : Option Nat := none
  deriving DecidableEq

@[ext] structure Delivery where
  position : SourcePosition
  birth : Nat
  tooLarge : Bool
  line : List UInt8
  submitted : Option String
  deriving DecidableEq

structure ReaderInput where
  fault : Option String := none
  limit : Option Nat := none
  deriving DecidableEq

namespace ReaderConfig

def limit (c : ReaderConfig) : Nat :=
  if c.lineBytes ≤ 0 then 2 ^ 20 else c.lineBytes.toNat

end ReaderConfig

namespace ReaderState

def held (r : ReaderState) (d : Disk) : Option Inode :=
  match r.current with
  | some (.file index) => d.inodes[index]?
  | _ => none

def rebased (r : ReaderState) (d : Disk) : ReaderState :=
  match r.held d with
  | some file => if r.offset = 0 then { r with birth := file.birth } else r
  | none => r

def switchEpoch (r : ReaderState) (epoch : String) : ReaderState :=
  { r with
    current := none, sensorEpoch := epoch, generation := "", offset := 0
    checkpoint := if r.checkpoint.sensorEpoch ≠ epoch then {} else r.checkpoint
    next := .statPath }

def located (r : ReaderState) (info : FileInfo) : ReaderState :=
  if r.current = none ∨ info.size < r.offset then { r with next := .openPath }
  else { r with next := .seek .poll info.size false }

def dropRotated (r : ReaderState) (info : FileInfo) : ReaderState :=
  { r with current := none, generation := "", offset := 0 }.located info

def opened (c : ReaderConfig) (r : ReaderState) (file : Option Inode) (info : FileInfo) : ReaderState :=
  let r := { r with generation := info.generation, birth := (file.map Inode.birth).getD 0 }
  let r :=
    if r.checkpoint.fileGeneration = info.generation ∧ r.checkpoint.sensorEpoch = r.sensorEpoch ∧
        r.checkpoint.offset ≤ info.size then
      { r with offset := r.checkpoint.offset, birth := if r.checkpoint.offset = 0 then r.birth else r.checkpointBirth }
    else if c.startAtEnd ∧ r.checkpoint.fileGeneration = "" then { r with offset := info.size }
    else { r with offset := 0 }
  { r with next := .seek .poll info.size false }

/-- consumeAvailable returns, having worked the file off up to some offset or with an error. -/
def finished (r : ReaderState) (purpose : Purpose) (progressed : Bool) (worked : Option Nat) : ReaderState :=
  match purpose with
  | .epoch epoch => r.switchEpoch epoch
  | .rotation info => r.dropRotated info
  | .poll => { r with next := if progressed then .readEpoch else .wait, polled := worked }

variable [EventHash] [EveParser]

def deliver (c : ReaderConfig) (r : ReaderState) (birth : Nat) (line : LineRead) : Delivery :=
  let position : SourcePosition :=
    ⟨c.sensorID, r.sensorEpoch, c.sensorConfigHash, c.rulesetID, c.mode, r.generation, line.start, line.offset⟩
  let text := chomp line.collected
  { position, birth, tooLarge := line.tooLarge
    line := if line.tooLarge then [] else text
    submitted := if !line.tooLarge && EveParser.accepts position text then some (eventID position text) else none }

def exec (c : ReaderConfig) (input : ReaderInput) (d : Disk) (r : ReaderState) : Disk × ReaderState × List Delivery :=
  let failed := input.fault.isSome
  let keep (r : ReaderState) : Disk × ReaderState × List Delivery := (d, r, [])
  match r.next with
  | .readEpoch =>
    if c.epochPath = "" ∨ failed ∨ d.epoch = "" ∨ d.epoch = r.sensorEpoch then keep { r with next := .statPath }
    else if r.current.isSome then keep { r with next := .statBeforeEpoch d.epoch }
    else keep (r.switchEpoch d.epoch)
  | .statBeforeEpoch epoch =>
    match r.held d with
    | some file => keep (if failed then r.switchEpoch epoch else
        { r with next := .seek (.epoch epoch) file.content.length false })
    | none => keep (r.switchEpoch epoch)
  | .statPath =>
    match d.named with
    | none => keep { r with next := .wait }
    | some file =>
      if failed then keep { r with next := .wait }
      else
        let r := if r.current.isSome ∧ r.generation ≠ file.generation then { r with next := .statRotated file.info }
          else r.located file.info
        ({ d with observed := file.birth :: d.observed }, r, [])
  | .statRotated info =>
    match r.held d with
    | some file => keep (if failed then r.dropRotated info else
        { r with next := .seek (.rotation info) file.content.length false })
    | none => keep (r.dropRotated info)
  | .openPath =>
    match d.path with
    | none => keep { r with current := some .broken, next := .wait }
    | some index =>
      if failed then keep { r with current := some .broken, next := .wait }
      else keep { r with current := some (.file index), next := .statOpened }
  | .statOpened =>
    match r.held d with
    | none => keep { r with current := none, next := .wait }
    | some file =>
      if failed then keep { r with current := none, next := .wait }
      else if c.epochPath = "" then keep (r.opened c (some file) file.info)
      else keep { r with next := .readEpochOpened file.info }
  | .readEpochOpened info =>
    if failed ∨ d.epoch = "" then keep { r with current := none, generation := "", offset := 0, next := .wait }
    else if d.epoch ≠ r.sensorEpoch then
      keep { r with current := none, generation := "", offset := 0, next := .readEpoch }
    else keep (r.opened c (r.held d) info)
  | .seek purpose size progressed =>
    let r := r.rebased d
    if size ≤ r.offset then keep (r.finished purpose progressed (some size))
    else if failed ∨ r.held d = none then keep (r.finished purpose progressed none)
    else keep { r with next := .read purpose size progressed { start := r.offset, offset := r.offset } }
  | .read purpose size progressed line =>
    match r.held d with
    | none => keep (r.finished purpose progressed none)
    | some file =>
      if failed then keep (r.finished purpose progressed none)
      else
        let room := min line.room ((input.limit.map (· + 1)).getD line.room)
        let bytes := (file.content.drop line.position).take room
        if bytes = [] then keep (r.finished purpose progressed (some line.position))
        else
          let after := line.absorb c.limit bytes
          if after.2 then
            (d, { r with offset := after.1.offset, next := .save purpose size },
              [r.deliver c file.birth after.1])
          else keep { r with next := .read purpose size progressed after.1 }
  | .save purpose size =>
    let r' := { r with next := .seek purpose size true }
    if failed then keep r'
    else ({ d with checkpoint := ⟨r.generation, r.offset, r.sensorEpoch⟩, checkpointBirth := r.birth }, r', [])
  | .wait => keep { r with next := .readEpoch }

end ReaderState

structure EveState where
  disk : Disk := {}
  reader : Option ReaderState := none
  deliveries : List Delivery := []
  deriving DecidableEq

inductive EveMove
  | event (event : LogEvent)
  | step (input : ReaderInput)
  | stop
  | start (fault : Option String)
  deriving DecidableEq

def EveState.step [EventHash] [EveParser] (c : ReaderConfig) (s : EveState) : EveMove → EveState
  | .event event => { s with disk := s.disk.event event }
  | .step input =>
    match s.reader with
    | none => s
    | some r =>
      let after := r.exec c input s.disk
      { disk := after.1, reader := some after.2.1, deliveries := s.deliveries ++ after.2.2 }
  | .stop => { s with reader := none }
  | .start fault =>
    match s.reader with
    | some _ => s
    | none =>
      let r : ReaderState :=
        { sensorEpoch := c.sensorEpoch, checkpointBirth := s.disk.checkpointBirth
          checkpoint := if fault.isSome then {} else s.disk.checkpoint }
      { s with reader := some r }

end Ngfw.Inspection

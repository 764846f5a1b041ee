import Mathlib.Data.Prod.Lex
import Mathlib.Data.String.Basic
import Ngfw.Session.Lifecycle

/-!
# Paged queries of the live sessions
-/

namespace Ngfw.Session
open Lib Lib.Text Domain

inductive TupleView
  | original
  | translated
  | any
  deriving DecidableEq

/-- An empty text, the protocol zero, no state and no decision match everything. -/
structure SessionFilter where
  sourceIP : String := ""
  destinationIP : String := ""
  protocol : UInt8 := 0
  sourceZone : String := ""
  destinationZone : String := ""
  state : Option SessionState := none
  decision : Decision := .unset
  tupleView : TupleView := .original
  deriving DecidableEq

structure Page where
  number : Int := 0
  size : Int := 0
  deriving DecidableEq

structure PageResult where
  items : List RuntimeSession
  page : Int
  pageSize : Int
  total : Int
  hasMore : Bool
  storeRevision : UInt64
  snapshotTime : Time

def matchesTuple [CaseMap] (f : SessionFilter) (t : Tuple) : Bool :=
  (f.sourceIP = "" ∨ equalFold t.srcIP.string f.sourceIP) ∧
  (f.destinationIP = "" ∨ equalFold t.dstIP.string f.destinationIP) ∧
  (f.protocol = 0 ∨ t.protocol = f.protocol)

def matchesFilter [CaseMap] (v : RuntimeSession) (f : SessionFilter) : Bool :=
  let tuples : Bool := match f.tupleView with
    | .translated => v.translatedTuple.any (matchesTuple f)
    | .any => matchesTuple f v.originalTuple || v.translatedTuple.any (matchesTuple f)
    | .original => matchesTuple f v.originalTuple
  tuples ∧ (f.sourceZone = "" ∨ equalFold v.sourceZone f.sourceZone) ∧
    (f.destinationZone = "" ∨ equalFold v.destinationZone f.destinationZone) ∧
    (f.state = none ∨ f.state = some v.state) ∧
    (f.decision = .unset ∨ v.effectiveDecision = f.decision ∨ v.decision = f.decision)

def listedBefore (a b : RuntimeSession) : Prop :=
  if a.createdAt = b.createdAt then a.sessionID ≤ b.sessionID else a.createdAt < b.createdAt

instance : DecidableRel listedBefore := fun a b =>
  inferInstanceAs (Decidable (if a.createdAt = b.createdAt then a.sessionID ≤ b.sessionID
    else a.createdAt < b.createdAt))

def int64 (n : Int) : Int :=
  n.bmod (2 ^ 64)

/-- The bounds of a slice expression on a list of the given length; out of range it panics. -/
def sliceBounds (length low high : Int) : Option (Nat × Nat) :=
  if 0 ≤ low ∧ low ≤ high ∧ high ≤ length then some (low.toNat, high.toNat) else none

def pageSize (size : Int) : Int :=
  let size := if size ≤ 0 then 100 else size
  if 500 < size then 500 else size

def pageNumber (number : Int) : Int :=
  if number ≤ 0 then 1 else number

namespace RuntimeStore

/-- One page of the live sessions that match a filter; `none` is a panic. `visited` is what the range over the live
map yields, in its order. -/
def query [CaseMap] (s : RuntimeStore) (filter : SessionFilter) (page : Page) (visited : List RuntimeSession)
    (clock : Time) : Option PageResult :=
  let filtered := (visited.filter (matchesFilter · filter)).insertionSort listedBefore
  let total : Int := filtered.length
  let size := pageSize page.size
  let number := pageNumber page.number
  let start := int64 (int64 (number - 1) * size)
  let start := if total < start then total else start
  let stop := int64 (start + size)
  let stop := if total < stop then total else stop
  (sliceBounds total start stop).map fun (low, high) =>
    { items := (filtered.take high).drop low
      page := number
      pageSize := size
      total := total
      hasMore := stop < total
      storeRevision := s.revision
      snapshotTime := clock }

end RuntimeStore

def parsePage (page size : String) : Except String Page := do
  let number ← if page = "" then .ok 0 else match atoi page.toList with
    | some value => if value < 1 then .error "page must be at least 1" else .ok value
    | none => .error "page must be at least 1"
  let size ← if size = "" then .ok 0 else match atoi size.toList with
    | some value => if value < 1 ∨ 500 < value then .error "page_size must be between 1 and 500" else .ok value
    | none => .error "page_size must be between 1 and 500"
  return { number, size }

end Ngfw.Session

import Ngfw.Lib.Netip

/-!
# nftables chains

A packet as the hooks of an `inet` table see it, the conditions and the verdict of a rule line, and the walk of a
chain. `Tag` is what the comment of a line stands for.
-/

namespace Ngfw.Lib.Nft
open Text Netip

inductive CtState
  | invalid
  | new
  | established
  | related
  | untracked
  deriving DecidableEq, Inhabited

inductive FibType
  | unicast
  | «local»
  | broadcast
  | multicast
  | other
  deriving DecidableEq, Inhabited

structure Packet where
  iifname : String := ""
  oifname : String := ""
  /-- The interface a route lookup of the destination leads to. -/
  fibOifname : String := ""
  fibType : FibType := .unicast
  saddr : Addr := .zero
  daddr : Addr := .zero
  l4proto : UInt8 := 0
  sport : UInt16 := 0
  dport : UInt16 := 0
  ctState : CtState := .new
  ctMark : BitVec 32 := 0
  ctStatusDnat : Bool := false
  sets : List String := []
  deriving DecidableEq, Inhabited

namespace Packet

def reverse (p : Packet) : Packet :=
  { p with
    iifname := p.oifname, oifname := p.iifname, saddr := p.daddr, daddr := p.saddr
    sport := p.dport, dport := p.sport }

end Packet

inductive Selector
  | host (addr : Addr)
  | network (pfx : Prefix)
  deriving DecidableEq

namespace Selector

def contains : Selector → Addr → Bool
  | host one, addr => one == addr
  | network pfx, addr => pfx.contains addr

def text : Selector → String
  | host addr => addr.string
  | network pfx => pfx.string

end Selector

inductive Match
  | iifname (negated : Bool) (names : List String)
  | oifname (negated : Bool) (names : List String)
  | fibOifname (negated : Bool) (names : List String)
  | fibType (type : FibType)
  | saddr (selectors : List Selector)
  | daddr (selectors : List Selector)
  | ctState (states : List CtState)
  | ctMark (mask value : BitVec 32)
  | ctStatusDnat
  | l4proto (protocol : UInt8)
  | sport (protocol : UInt8) (first last : Nat)
  | dport (protocol : UInt8) (first last : Nat)
  | inSet (key name : String)
  deriving DecidableEq

def nameIn (negated : Bool) (names : List String) (name : String) : Bool :=
  names.contains name != negated

def portIn (first last : Nat) (port : UInt16) : Bool :=
  first ≤ port.toNat ∧ port.toNat ≤ last

def Match.holds (p : Packet) : Match → Bool
  | iifname negated names => nameIn negated names p.iifname
  | oifname negated names => nameIn negated names p.oifname
  | fibOifname negated names => nameIn negated names p.fibOifname
  | fibType type => p.fibType == type
  | saddr selectors => selectors.any (·.contains p.saddr)
  | daddr selectors => selectors.any (·.contains p.daddr)
  | ctState states => states.contains p.ctState
  | ctMark mask value => p.ctMark &&& mask == value
  | ctStatusDnat => p.ctStatusDnat
  | l4proto protocol => p.l4proto == protocol
  | sport protocol first last => p.l4proto == protocol && portIn first last p.sport
  | dport protocol first last => p.l4proto == protocol && portIn first last p.dport
  | inSet _ name => p.sets.contains name

structure Target where
  addr : Addr
  port : Option Nat
  deriving DecidableEq

inductive Verdict
  | accept
  | drop
  | reject
  | queue (number : Nat)
  | «return»
  | tproxy (port : Int) (mark : BitVec 32)
  | dnat (target : Target)
  | snat (target : Target)
  | masquerade
  deriving DecidableEq

/-- One rule. A line without a verdict is not terminal; `setMark` keeps the bits of its mask and sets its value. -/
structure Line (Tag : Type) where
  conditions : List Match
  counter : Bool := false
  logGroup : Option Nat := none
  setMark : Option (BitVec 32 × BitVec 32) := none
  verdict : Option Verdict
  comment : Option Tag := none
  deriving DecidableEq

structure Chain (Tag : Type) where
  policy : Verdict
  lines : List (Line Tag)
  deriving DecidableEq

structure Outcome (Tag : Type) where
  verdict : Verdict
  comment : Option Tag
  logged : Bool
  ctMark : BitVec 32
  deriving DecidableEq

section
variable {Tag : Type}

def Line.applies (p : Packet) (line : Line Tag) : Bool :=
  line.conditions.all (·.holds p)

def Line.markAfter (line : Line Tag) (mark : BitVec 32) : BitVec 32 :=
  match line.setMark with
  | some (keep, value) => mark &&& keep ||| value
  | none => mark

def firstMatch (lines : List (Line Tag)) (p : Packet) : Option (Line Tag) :=
  lines.find? (·.applies p)

def walk (policy : Verdict) : List (Line Tag) → Packet → Outcome Tag
  | [], p => { verdict := policy, comment := none, logged := false, ctMark := p.ctMark }
  | line :: rest, p =>
    if line.applies p then
      let mark := line.markAfter p.ctMark
      match line.verdict with
      | some verdict =>
        { verdict, comment := line.comment, logged := line.logGroup.isSome, ctMark := mark }
      | none =>
        let outcome := walk policy rest { p with ctMark := mark }
        { outcome with logged := outcome.logged || line.logGroup.isSome }
    else walk policy rest p

def Chain.run (chain : Chain Tag) (p : Packet) : Outcome Tag :=
  walk chain.policy chain.lines p

variable {policy : Verdict} {p : Packet} {line : Line Tag} {lines rest : List (Line Tag)}

theorem walk_skip (skipped : ∀ line ∈ lines, line.applies p = false) :
    walk policy (lines ++ rest) p = walk policy rest p := by
  induction lines with
  | nil => rfl
  | cons line lines ih =>
    rw [List.cons_append, walk, skipped line List.mem_cons_self]
    simpa using ih fun other member => skipped other (List.mem_cons_of_mem _ member)

theorem firstMatch_append (first second : List (Line Tag)) (p : Packet) :
    firstMatch (first ++ second) p = (firstMatch first p).or (firstMatch second p) :=
  List.find?_append

def outcomeOf (policy : Verdict) (p : Packet) : Option (Line Tag) → Outcome Tag
  | some line =>
    { verdict := line.verdict.getD policy, comment := line.comment, logged := line.logGroup.isSome
      ctMark := line.markAfter p.ctMark }
  | none => { verdict := policy, comment := none, logged := false, ctMark := p.ctMark }

theorem walk_terminal (terminal : ∀ line ∈ lines, line.verdict.isSome) :
    walk policy lines p = outcomeOf policy p (firstMatch lines p) := by
  induction lines with
  | nil => rfl
  | cons line lines ih =>
    rw [walk, firstMatch, List.find?_cons]
    cases applies : line.applies p with
    | true =>
      obtain ⟨verdict, given⟩ := Option.isSome_iff_exists.mp (terminal line List.mem_cons_self)
      simp [given, outcomeOf]
    | false =>
      simpa [firstMatch] using ih fun other member => terminal other (List.mem_cons_of_mem _ member)

/-! ## Groups of lines -/

def Skips (p : Packet) (lines : List (Line Tag)) : Prop :=
  ∀ line ∈ lines, line.applies p = false

structure Decides (p : Packet) (comment : Tag) (outcome : Outcome Tag) (lines : List (Line Tag)) : Prop where
  first : ∃ line, firstMatch lines p = some line ∧ line.comment = some comment
  walked : ∀ policy rest, walk policy (lines ++ rest) p = outcome

/-- The lines decide the packet where the guard holds, and have no part in it where it does not. -/
def Settles (p : Packet) (guard : Bool) (comment : Tag) (outcome : Outcome Tag) (lines : List (Line Tag)) : Prop :=
  if guard then Decides p comment outcome lines else Skips p lines

section
variable {comment : Tag} {outcome : Outcome Tag} {first second : List (Line Tag)}

theorem Skips.append (skips : Skips p first) (others : Skips p second) : Skips p (first ++ second) := by
  intro line member
  rcases List.mem_append.mp member with inFirst | inSecond
  · exact skips line inFirst
  · exact others line inSecond

theorem Skips.firstMatch (skips : Skips p lines) : firstMatch lines p = none := by
  rw [Nft.firstMatch, List.find?_eq_none]
  intro line member
  simp [skips line member]

theorem Skips.run (skips : Skips p lines) :
    walk policy lines p = { verdict := policy, comment := none, logged := false, ctMark := p.ctMark } := by
  rw [← List.append_nil lines, walk_skip skips, walk]

theorem Decides.append (decides : Decides p comment outcome first) (second : List (Line Tag)) :
    Decides p comment outcome (first ++ second) := by
  obtain ⟨line, found, named⟩ := decides.first
  refine ⟨⟨line, by rw [firstMatch_append, found, Option.some_or], named⟩, fun policy rest => ?_⟩
  rw [List.append_assoc]
  exact decides.walked policy _

theorem Skips.append_decides (skips : Skips p first) (decides : Decides p comment outcome second) :
    Decides p comment outcome (first ++ second) := by
  obtain ⟨line, found, named⟩ := decides.first
  refine ⟨⟨line, by rw [firstMatch_append, skips.firstMatch, Option.none_or, found], named⟩,
    fun policy rest => ?_⟩
  rw [List.append_assoc, walk_skip skips]
  exact decides.walked policy rest

theorem Decides.run (decides : Decides p comment outcome lines) : walk policy lines p = outcome := by
  simpa using decides.walked policy []

theorem Settles.append {guard otherGuard : Bool} {otherComment : Tag} {otherOutcome : Outcome Tag}
    (settles : Settles p guard comment outcome first)
    (others : Settles p otherGuard otherComment otherOutcome second) :
    Settles p (guard || otherGuard) (if guard then comment else otherComment)
      (if guard then outcome else otherOutcome) (first ++ second) := by
  cases guard with
  | true => exact Decides.append settles second
  | false =>
    cases otherGuard with
    | true => exact Skips.append_decides settles others
    | false => exact Skips.append settles others

theorem settles_line (line : Line Tag) {verdict : Verdict} (given : line.verdict = some verdict)
    (named : line.comment = some comment) :
    Settles p (line.applies p) comment
      { verdict, comment := some comment, logged := line.logGroup.isSome, ctMark := line.markAfter p.ctMark }
      [line] := by
  cases applies : line.applies p with
  | true =>
    refine ⟨⟨line, by simp [firstMatch, applies], named⟩, fun policy rest => ?_⟩
    simp [walk, applies, given, named]
  | false =>
    intro other member
    rw [List.mem_singleton.mp member]
    exact applies

theorem settles_passed (line : Line Tag) (settles : Settles p (line.applies p) comment outcome rest)
    (passed : line.verdict = none) (unmarked : line.setMark = none) (named : line.comment = some comment) :
    Settles p (line.applies p) comment { outcome with logged := outcome.logged || line.logGroup.isSome }
      (line :: rest) := by
  have sameMark : line.markAfter p.ctMark = p.ctMark := by simp [Line.markAfter, unmarked]
  cases applies : line.applies p with
  | true =>
    rw [applies] at settles
    refine ⟨⟨line, by simp [firstMatch, applies], named⟩, fun policy after => ?_⟩
    rw [List.cons_append, walk, if_pos applies, passed, sameMark]
    simp only [settles.walked policy after]
  | false =>
    rw [applies] at settles
    intro other member
    rcases List.mem_cons.mp member with rfl | later
    · exact applies
    · exact settles other later

theorem settles_flatMap {Item : Type} {guard : Item → Bool} {render : Item → List (Line Tag)} {items : List Item}
    (settles : ∀ item ∈ items, Settles p (guard item) comment outcome (render item)) :
    Settles p (items.any guard) comment outcome (items.flatMap render) := by
  induction items with
  | nil => exact fun line member => absurd member (by simp)
  | cons item items ih =>
    have others := ih fun other member => settles other (List.mem_cons_of_mem _ member)
    simpa using (settles item List.mem_cons_self).append others

theorem settles_map {Item : Type} {guard : Item → Bool} {render : Item → Line Tag} {items : List Item}
    (settles : ∀ item ∈ items, Settles p (guard item) comment outcome [render item]) :
    Settles p (items.any guard) comment outcome (items.map render) := by
  rw [List.map_eq_flatMap]
  exact settles_flatMap settles

theorem decides_first {Item : Type} {guard : Item → Bool} {commentOf : Item → Tag}
    {outcomeFor : Item → Outcome Tag} {items : List Item} {groups : List (List (Line Tag))}
    (related : List.Forall₂ (fun item lines => Settles p (guard item) (commentOf item) (outcomeFor item) lines)
      items groups) :
    match items.find? guard with
    | some item => Decides p (commentOf item) (outcomeFor item) groups.flatten
    | none => Skips p groups.flatten := by
  induction related with
  | nil => exact fun line member => absurd member (by simp)
  | @cons item lines items groups settles _ ih =>
    rw [List.find?_cons, List.flatten_cons]
    cases holds : guard item with
    | true =>
      rw [Settles, if_pos holds] at settles
      exact settles.append _
    | false =>
      rw [Settles, if_neg (by simp [holds])] at settles
      cases found : items.find? guard with
      | some other =>
        rw [found] at ih
        exact settles.append_decides ih
      | none =>
        rw [found] at ih
        exact settles.append ih

end

end

end Ngfw.Lib.Nft

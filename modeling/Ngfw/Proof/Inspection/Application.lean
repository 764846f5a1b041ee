import Mathlib.Data.Finset.Max
import Mathlib.Data.List.Perm.Subperm
import Ngfw.Inspection.Observation

/-!
# The order of application evidence

The merge keeps the strongest evidence and, of equally strong, the newest. What it remembers as the time of an
identity is the time of any evidence, ignored evidence included, so the outcome can depend on the order.
-/

namespace Ngfw.Inspection
open Lib Domain

def rankOf (app : ApplicationIdentity) : Nat :=
  confidenceRank app.confidence

def timeOf (app : ApplicationIdentity) : Time :=
  app.lastSeen.getD 0

structure Observed (app : ApplicationIdentity) : Prop where
  named : app.name ≠ "" ∧ app.name ≠ "UNKNOWN"
  stamped : app.lastSeen.isSome
  agreed : app.conflicted = false

def mergeAll (evidence : List ApplicationIdentity) : ApplicationIdentity :=
  evidence.foldl mergeApplication unknownApplication

structure Standing where
  name : String
  rank : Nat
  time : Time
  conflicted : Bool

def standing (app : ApplicationIdentity) : Standing :=
  ⟨app.name, rankOf app, timeOf app, app.conflicted⟩

def Standing.absorb (s : Standing) (o : ApplicationIdentity) : Standing :=
  let time := if s.time < timeOf o then timeOf o else s.time
  if s.rank < rankOf o then ⟨o.name, rankOf o, time, false⟩
  else if s.rank = rankOf o ∧ s.name ≠ o.name ∧ s.time < timeOf o then ⟨o.name, s.rank, time, false⟩
  else if s.rank = rankOf o ∧ s.name ≠ o.name ∧ s.time = timeOf o then ⟨s.name, s.rank, time, true⟩
  else ⟨s.name, s.rank, time, s.conflicted⟩

open Standing (absorb)
variable {o app a first : ApplicationIdentity}

theorem normalizeZero_eq (named : app.name ≠ "") : app.normalizeZero = app := by
  rw [ApplicationIdentity.normalizeZero, if_neg named]

theorem standing_mergeApplication (named : app.name ≠ "" ∧ app.name ≠ "UNKNOWN")
    (stamped : app.lastSeen.isSome) (observed : Observed o) :
    standing (mergeApplication app o) = (standing app).absorb o ∧
      (mergeApplication app o).name ≠ "" ∧ (mergeApplication app o).name ≠ "UNKNOWN" ∧
      (mergeApplication app o).lastSeen.isSome := by
  obtain ⟨before, seen⟩ := Option.isSome_iff_exists.mp stamped
  obtain ⟨now, seenNow⟩ := Option.isSome_iff_exists.mp observed.stamped
  have result : (prevailing app o).name ≠ "" ∧ (prevailing app o).name ≠ "UNKNOWN" := by
    unfold prevailing
    dsimp only
    split_ifs
    all_goals first | exact named | exact observed.named
  have merged : mergeApplication app o = { prevailing app o with
      firstSeen := earlier (earlier (prevailing app o).firstSeen app.firstSeen) o.firstSeen
      lastSeen := later (later (prevailing app o).lastSeen app.lastSeen) o.lastSeen
      revision := app.revision + 1 } := by
    rw [mergeApplication, normalizeZero_eq named.1, normalizeZero_eq observed.named.1]
    simp only [if_neg named.2, if_neg observed.named.2]
    exact normalizeZero_eq result.1
  have order : timeOrder app o = if before < now then .gt else if now < before then .lt else .eq := by
    simp [timeOrder, applicationObservedTime, seen, seenNow]
  have kept : (prevailing app o).lastSeen = some before ∨ (prevailing app o).lastSeen = some now := by
    unfold prevailing
    dsimp only
    split_ifs
    all_goals first | exact .inl seen | exact .inr seenNow
  have last : later (later (prevailing app o).lastSeen app.lastSeen) o.lastSeen =
      some (if before < now then now else before) := by
    rw [seen, seenNow]
    rcases kept with same | same
    · rw [same]
      grind [later]
    · rw [same]
      grind [later]
  rw [merged, last]
  refine ⟨?_, result.1, result.2, rfl⟩
  have agreed := observed.agreed
  simp only [standing, absorb, timeOf, seen, seenNow, Option.getD_some, rankOf, prevailing, order]
  rcases Nat.lt_trichotomy (confidenceRank app.confidence) (confidenceRank o.confidence) with less | equal | more
  · grind
  · grind
  · grind

/-! ## What stands after some evidence -/

def Disputes (seen : List ApplicationIdentity) (rank : Nat) (name : String) (a : ApplicationIdentity) : Prop :=
  rankOf a = rank ∧ a.name ≠ name ∧
    ((∃ b ∈ seen, rankOf b = rank ∧ b.name = name ∧ timeOf b = timeOf a) ∨
      (∃ b ∈ seen, rankOf b = rank ∧ b.name = name ∧ timeOf b < timeOf a) ∧
      ∃ q ∈ seen, rankOf q < rank ∧ timeOf q = timeOf a)

structure Weighs (seen : List ApplicationIdentity) (s : Standing) : Prop where
  bounded : ∀ o ∈ seen, rankOf o ≤ s.rank ∧ timeOf o ≤ s.time
  last : ∃ o ∈ seen, timeOf o = s.time
  own : ∃ o ∈ seen, o.name = s.name ∧ rankOf o = s.rank
  settled : s.conflicted = false → ∀ o ∈ seen, rankOf o = s.rank → timeOf o = s.time → o.name = s.name
  disputed : s.conflicted = true → ∃ a ∈ seen, Disputes seen s.rank s.name a
  newest : ∀ o ∈ seen, rankOf o = s.rank → timeOf o = s.time →
    (∀ q ∈ seen, timeOf q = s.time → rankOf q = s.rank ∧ q.name = o.name) → s.name = o.name

theorem Disputes.cons {seen : List ApplicationIdentity} {rank : Nat} {name : String}
    (disputes : Disputes seen rank name a) (o : ApplicationIdentity) : Disputes (o :: seen) rank name a := by
  grind [Disputes]

theorem Weighs.start (observed : Observed o) : Weighs [o] (standing o) := by
  have agreed := observed.agreed
  constructor <;> simp_all [standing]

section
variable {seen : List ApplicationIdentity} {s : Standing} {o : ApplicationIdentity} (weighs : Weighs seen s)
include weighs

theorem Weighs.disputes_cons (conflicted : s.conflicted) (o : ApplicationIdentity) :
    ∃ a ∈ o :: seen, Disputes (o :: seen) s.rank s.name a := by
  obtain ⟨a, member, disputes⟩ := weighs.disputed conflicted
  exact ⟨a, List.mem_cons_of_mem o member, disputes.cons o⟩

theorem Weighs.raises (strong : s.rank = rankOf o) (other : s.name ≠ o.name)
    (now : s.time = timeOf o) : ∃ a ∈ o :: seen, Disputes (o :: seen) s.rank s.name a := by
  cases conflicted : s.conflicted with
  | true => exact weighs.disputes_cons conflicted o
  | false =>
    obtain ⟨b, believed, name, rank⟩ := weighs.own
    obtain ⟨q, latest, time⟩ := weighs.last
    refine ⟨o, List.mem_cons_self, strong.symm, Ne.symm other, ?_⟩
    have early := (weighs.bounded b believed).2
    have weak := (weighs.bounded q latest).1
    by_cases same : timeOf b = timeOf o
    · exact .inl ⟨b, List.mem_cons_of_mem o believed, rank, name, same⟩
    by_cases equal : rankOf q = s.rank
    · have agrees := weighs.settled conflicted q latest equal time
      exact .inl ⟨q, List.mem_cons_of_mem o latest, equal, agrees, time.trans now⟩
    · have before : timeOf b < timeOf o := Int.lt_iff_le_and_ne.mpr ⟨now ▸ early, same⟩
      refine .inr ⟨⟨b, List.mem_cons_of_mem o believed, rank, name, before⟩, q,
        List.mem_cons_of_mem o latest, ?_⟩
      exact ⟨Nat.lt_of_le_of_ne weak equal, time.trans now⟩

theorem Weighs.stronger (more : s.rank < rankOf o) :
    Weighs (o :: seen) ⟨o.name, rankOf o, max s.time (timeOf o), false⟩ := by
  obtain ⟨bounded, last, -, -, -, -⟩ := weighs
  constructor <;> grind

theorem Weighs.newer (strong : s.rank = rankOf o) (now : s.time < timeOf o) :
    Weighs (o :: seen) ⟨o.name, s.rank, timeOf o, false⟩ := by
  obtain ⟨bounded, -, -, -, -, -⟩ := weighs
  constructor <;> grind

theorem Weighs.contradicted (strong : s.rank = rankOf o) (other : s.name ≠ o.name)
    (now : s.time = timeOf o) : Weighs (o :: seen) { s with conflicted := true } := by
  have raised := weighs.raises strong other now
  obtain ⟨bounded, last, own, -, -, newest⟩ := weighs
  constructor <;> grind

theorem Weighs.kept (weak : rankOf o ≤ s.rank)
    (known : s.rank = rankOf o → s.name = o.name ∨ timeOf o < s.time) :
    Weighs (o :: seen) { s with time := max s.time (timeOf o) } := by
  have still := fun conflicted => weighs.disputes_cons conflicted o
  obtain ⟨bounded, last, own, settled, -, newest⟩ := weighs
  constructor <;> grind

theorem Weighs.one (o : ApplicationIdentity) : Weighs (o :: seen) (s.absorb o) := by
  have time : (if s.time < timeOf o then timeOf o else s.time) = max s.time (timeOf o) := by grind
  unfold absorb
  rw [time]
  dsimp only
  split_ifs with more newer same
  · exact weighs.stronger more
  · rw [max_eq_right (le_of_lt newer.2.2)]
    exact weighs.newer newer.1 newer.2.2
  · rw [max_eq_left (ge_of_eq same.2.2)]
    exact weighs.contradicted same.1 same.2.1 same.2.2
  · exact weighs.kept (Nat.not_lt.mp more) (by grind)

theorem Weighs.all (evidence : List ApplicationIdentity) :
    Weighs (evidence.reverse ++ seen) (evidence.foldl absorb s) := by
  induction evidence generalizing seen s with
  | nil => exact weighs
  | cons o evidence ih =>
    rw [List.reverse_cons, List.append_assoc]
    exact ih (weighs.one o)

end

theorem standing_mergeAll {rest : List ApplicationIdentity} (begins : Observed first)
    (observed : ∀ o ∈ rest, Observed o) :
    standing (mergeAll (first :: rest)) = rest.foldl absorb (standing first) := by
  have general : ∀ app : ApplicationIdentity, app.name ≠ "" ∧ app.name ≠ "UNKNOWN" → app.lastSeen.isSome →
      standing (rest.foldl mergeApplication app) = rest.foldl absorb (standing app) := by
    induction rest with
    | nil => exact fun _ _ _ => rfl
    | cons o rest ih =>
      intro app named stamped
      obtain ⟨same, name, known, seen⟩ := standing_mergeApplication named stamped (observed o List.mem_cons_self)
      rw [List.foldl_cons, ih (fun q member => observed q (List.mem_cons_of_mem o member)) _ ⟨name, known⟩ seen,
        same]
      rfl
  have started : mergeApplication unknownApplication first = { first with revision := 1 } := by
    rw [mergeApplication, normalizeZero_eq begins.named.1]
    rfl
  rw [mergeAll, List.foldl_cons, started]
  exact general _ begins.named begins.stamped

theorem weighs_mergeAll {evidence : List ApplicationIdentity} (some : evidence ≠ [])
    (observed : ∀ o ∈ evidence, Observed o) : Weighs evidence.reverse (standing (mergeAll evidence)) := by
  cases evidence with
  | nil => exact absurd rfl some
  | cons first rest =>
    have begins := observed first List.mem_cons_self
    rw [standing_mergeAll begins fun o member => observed o (List.mem_cons_of_mem first member), List.reverse_cons]
    exact (Weighs.start begins).all rest

/-! ## When the order does not matter -/

def Strongest (evidence : List ApplicationIdentity) (o : ApplicationIdentity) : Prop :=
  o ∈ evidence ∧ ∀ q ∈ evidence, rankOf q ≤ rankOf o

/-- The strongest evidence names one application; or the newest of all names several, each as strong as any; or the
newest of all is the strongest, names one, and nothing disputed that name before. -/
def OrderFree (evidence : List ApplicationIdentity) : Prop :=
  (∀ a b, Strongest evidence a → Strongest evidence b → a.name = b.name) ∨
  (∃ a b, Strongest evidence a ∧ Strongest evidence b ∧ a.name ≠ b.name ∧ timeOf a = timeOf b ∧
    ∀ q ∈ evidence, timeOf q ≤ timeOf a) ∨
  ∃ b, Strongest evidence b ∧
    (∀ q ∈ evidence, timeOf q ≤ timeOf b ∧
      (timeOf q = timeOf b → rankOf q = rankOf b ∧ q.name = b.name)) ∧
    ∀ a ∈ evidence, ¬ Disputes evidence (rankOf b) b.name a

theorem Weighs.congr {seen evidence : List ApplicationIdentity} {s : Standing} (weighs : Weighs seen s)
    (same : ∀ o, o ∈ seen ↔ o ∈ evidence) : Weighs evidence s := by
  obtain ⟨bounded, last, own, settled, disputed, newest⟩ := weighs
  simp only [Disputes, same] at bounded last own settled disputed newest
  exact ⟨bounded, last, own, settled, disputed, newest⟩

section
variable {evidence : List ApplicationIdentity} {s t : Standing} {b o first : ApplicationIdentity}

section
variable (weighs : Weighs evidence s)
include weighs

theorem Weighs.strongest : Strongest evidence o ↔ o ∈ evidence ∧ rankOf o = s.rank := by
  obtain ⟨b, believed, -, rank⟩ := weighs.own
  constructor
  · rintro ⟨member, most⟩
    exact ⟨member, Nat.le_antisymm (weighs.bounded o member).1 (rank ▸ most b believed)⟩
  · rintro ⟨member, equal⟩
    exact ⟨member, fun q other => equal ▸ (weighs.bounded q other).1⟩

theorem Weighs.time_eq (member : o ∈ evidence)
    (newest : ∀ q ∈ evidence, timeOf q ≤ timeOf o) : timeOf o = s.time := by
  obtain ⟨q, latest, time⟩ := weighs.last
  exact Int.le_antisymm (weighs.bounded o member).2 (time ▸ newest q latest)

theorem Weighs.unanimous (one : ∀ a b, Strongest evidence a → Strongest evidence b → a.name = b.name) :
    s.conflicted = false ∧ ∀ b, Strongest evidence b → s.name = b.name := by
  obtain ⟨o, believed, name, rank⟩ := weighs.own
  have own : Strongest evidence o := weighs.strongest.mpr ⟨believed, rank⟩
  refine ⟨Bool.not_eq_true _ ▸ fun conflicted => ?_, fun b strong => name ▸ one o b own strong⟩
  obtain ⟨a, member, equal, other, -⟩ := weighs.disputed conflicted
  exact other (name ▸ one a o (weighs.strongest.mpr ⟨member, equal⟩) own)

theorem Weighs.contested {a : ApplicationIdentity} (one : Strongest evidence a)
    (two : Strongest evidence b) (differ : a.name ≠ b.name) (together : timeOf a = timeOf b)
    (newest : ∀ q ∈ evidence, timeOf q ≤ timeOf a) : s.conflicted = true := by
  rw [weighs.strongest] at one two
  have time := weighs.time_eq one.1 newest
  by_contra agreed
  rw [Bool.not_eq_true] at agreed
  have left := weighs.settled agreed a one.1 one.2 time
  have right := weighs.settled agreed b two.1 two.2 (together ▸ time)
  exact differ (left.trans right.symm)

theorem Weighs.prevails (strong : Strongest evidence b)
    (newest : ∀ q ∈ evidence, timeOf q ≤ timeOf b ∧
      (timeOf q = timeOf b → rankOf q = rankOf b ∧ q.name = b.name))
    (undisputed : ∀ a ∈ evidence, ¬ Disputes evidence (rankOf b) b.name a) :
    s.conflicted = false ∧ s.name = b.name := by
  obtain ⟨member, rank⟩ := weighs.strongest.mp strong
  have time := weighs.time_eq member fun q other => (newest q other).1
  have name : s.name = b.name := by
    apply weighs.newest b member rank time
    rw [← time, ← rank]
    exact fun q other => (newest q other).2
  refine ⟨Bool.not_eq_true _ ▸ fun conflicted => ?_, name⟩
  obtain ⟨a, against, disputes⟩ := weighs.disputed conflicted
  rw [← rank, name] at disputes
  exact undisputed a against disputes

end

def SameOutcome (s t : Standing) : Prop :=
  s.rank = t.rank ∧ s.conflicted = t.conflicted ∧ (s.conflicted = false → s.name = t.name)

theorem OrderFree.sameOutcome (free : OrderFree evidence) (one : Weighs evidence s) (two : Weighs evidence t) :
    SameOutcome s t := by
  obtain ⟨o, believed, -, rank⟩ := one.own
  have strong : Strongest evidence o := one.strongest.mpr ⟨believed, rank⟩
  refine ⟨rank.symm.trans (two.strongest.mp strong).2, ?_⟩
  rcases free with single | ⟨a, b, left, right, differ, together, newest⟩ | ⟨b, newer, newest, undisputed⟩
  · obtain ⟨agreed, name⟩ := one.unanimous single
    obtain ⟨agreed', name'⟩ := two.unanimous single
    exact ⟨agreed.trans agreed'.symm, fun _ => (name o strong).trans (name' o strong).symm⟩
  · have conflicted := one.contested left right differ together newest
    refine ⟨conflicted.trans (two.contested left right differ together newest).symm, fun agreed => ?_⟩
    rw [conflicted] at agreed
    cases agreed
  · obtain ⟨agreed, name⟩ := one.prevails newer newest undisputed
    obtain ⟨agreed', name'⟩ := two.prevails newer newest undisputed
    exact ⟨agreed.trans agreed'.symm, fun _ => name.trans name'.symm⟩

/-! ## Orders that disagree -/

theorem foldl_absorb_below {rest : List ApplicationIdentity}
    (below : ∀ o ∈ rest, rankOf o ≤ s.rank ∧ timeOf o ≤ s.time) :
    (rest.foldl absorb s).name = s.name ∧
      ((rest.foldl absorb s).conflicted = true ↔
        s.conflicted = true ∨ ∃ o ∈ rest, rankOf o = s.rank ∧ timeOf o = s.time ∧ o.name ≠ s.name) := by
  induction rest generalizing s with
  | nil => simp
  | cons o rest ih =>
    obtain ⟨weak, early⟩ := below o List.mem_cons_self
    have step : (s.absorb o).name = s.name ∧ (s.absorb o).rank = s.rank ∧ (s.absorb o).time = s.time ∧
        ((s.absorb o).conflicted = true ↔
          s.conflicted = true ∨ rankOf o = s.rank ∧ timeOf o = s.time ∧ o.name ≠ s.name) := by
      unfold absorb
      grind
    have later := @ih (s.absorb o)
    simp only [step] at later
    obtain ⟨name, conflicted⟩ := later fun q member => below q (List.mem_cons_of_mem o member)
    refine ⟨name, conflicted.trans ?_⟩
    simp only [List.mem_cons, exists_eq_or_imp, or_assoc]

theorem exists_order (observed : ∀ o ∈ evidence, Observed o)
    {others : List ApplicationIdentity} (distinct : (first :: others).Nodup)
    (inside : ∀ o ∈ first :: others, o ∈ evidence) (begins : others.foldl absorb (standing first) = s)
    (top : ∀ o ∈ evidence, rankOf o ≤ s.rank ∧ timeOf o ≤ s.time) :
    ∃ order, order.Perm evidence ∧ (standing (mergeAll order)).name = s.name ∧
      ((s.conflicted = true ∨ ∃ o ∈ evidence, o ∉ first :: others ∧ rankOf o = s.rank ∧
        timeOf o = s.time ∧ o.name ≠ s.name) → (standing (mergeAll order)).conflicted = true) ∧
      (s.conflicted = false → (∀ o ∈ evidence, rankOf o = s.rank → timeOf o = s.time → o.name = s.name) →
        (standing (mergeAll order)).conflicted = false) := by
  obtain ⟨part, same, sub⟩ := List.subperm_of_subset distinct inside
  obtain ⟨rest, split⟩ := sub.exists_perm_append
  have perm : (first :: others ++ rest).Perm evidence := (same.append_right rest).symm.trans split.symm
  have all : ∀ o ∈ first :: (others ++ rest), Observed o := fun o member => observed o (perm.mem_iff.mp member)
  have behind : ∀ o ∈ rest, o ∈ evidence := fun o member => perm.mem_iff.mp (List.mem_append_right _ member)
  obtain ⟨name, conflicted⟩ := foldl_absorb_below fun o member => top o (behind o member)
  have final : standing (mergeAll (first :: (others ++ rest))) = rest.foldl absorb s := by
    rw [standing_mergeAll (all first List.mem_cons_self) fun o member => all o (List.mem_cons_of_mem first member),
      List.foldl_append, begins]
  refine ⟨first :: (others ++ rest), perm, ?_, ?_, ?_⟩
  · rw [final, name]
  · rintro (already | ⟨o, member, fresh, disputes⟩)
    · exact final ▸ conflicted.mpr (.inl already)
    · have left := (List.mem_append.mp (perm.mem_iff.mpr member)).resolve_left fresh
      exact final ▸ conflicted.mpr (.inr ⟨o, left, disputes⟩)
  · intro agreed one
    rw [final, ← Bool.not_eq_true, conflicted, agreed]
    rintro (already | ⟨o, member, rank, time, other⟩)
    · cases already
    · exact other (one o (behind o member) rank time)

theorem exists_latest {among : ApplicationIdentity → Prop} (member : b ∈ evidence)
    (meets : among b) : ∃ m ∈ evidence, among m ∧ ∀ q ∈ evidence, among q → timeOf q ≤ timeOf m := by
  classical
  obtain ⟨m, inside, latest⟩ := (evidence.toFinset.filter among).exists_max_image timeOf
    ⟨b, Finset.mem_filter.mpr ⟨List.mem_toFinset.mpr member, meets⟩⟩
  simp only [Finset.mem_filter, List.mem_toFinset] at inside latest
  exact ⟨m, inside.1, inside.2, fun q other chosen => latest q ⟨other, chosen⟩⟩

theorem first_wins (observed : ∀ o ∈ evidence, Observed o) {q x : ApplicationIdentity} (late : q ∈ evidence)
    (latest : ∀ o ∈ evidence, timeOf o ≤ timeOf q) (strong : Strongest evidence x)
    (older : ∀ o, Strongest evidence o → timeOf o < timeOf q) :
    ∃ order, order.Perm evidence ∧ (standing (mergeAll order)).conflicted = false ∧
      (standing (mergeAll order)).name = x.name := by
  have before := older x strong
  have weak : rankOf q < rankOf x := by
    by_contra equal
    have also : Strongest evidence q := ⟨late,
      fun o member => Nat.le_trans (strong.2 o member) (Nat.le_of_not_lt equal)⟩
    exact Int.lt_irrefl _ (older q also)
  have begins : [x].foldl absorb (standing q) = ⟨x.name, rankOf x, timeOf q, false⟩ := by
    simp only [List.foldl_cons, List.foldl_nil, absorb, standing]
    grind
  obtain ⟨order, perm, name, -, agreed⟩ := exists_order observed (by grind) (by simp [late, strong.1]) begins
    fun o member => ⟨strong.2 o member, latest o member⟩
  refine ⟨order, perm, agreed rfl fun o member rank time => ?_, name⟩
  have behind := older o ⟨member, fun other present => rank ▸ strong.2 other present⟩
  exact absurd (time ▸ behind) (Int.lt_irrefl _)

theorem nodup_of_times {e q d m : ApplicationIdentity} (before : timeOf e < timeOf d) (time : timeOf q = timeOf d)
    (weak : rankOf q < rankOf d) (early : timeOf d < timeOf m) : [e, q, d, m].Nodup := by
  grind

theorem orderFree_of_sameOutcome (observed : ∀ o ∈ evidence, Observed o)
    (agree : ∀ one two, one.Perm evidence → two.Perm evidence →
      SameOutcome (standing (mergeAll one)) (standing (mergeAll two))) : OrderFree evidence := by
  by_contra bound
  simp only [OrderFree, not_or, not_forall, not_exists, not_and] at bound
  obtain ⟨⟨a, b, strongA, strongB, differ⟩, noTie, noLast⟩ := bound
  obtain ⟨m, memberM, strongM, newest⟩ : ∃ m ∈ evidence, Strongest evidence m ∧
      ∀ q ∈ evidence, Strongest evidence q → timeOf q ≤ timeOf m := exists_latest strongA.1 strongA
  by_cases ignored : ∃ q ∈ evidence, timeOf m < timeOf q
  · obtain ⟨late, lateIn, later⟩ := ignored
    obtain ⟨q, member, -, latest⟩ : ∃ q ∈ evidence, True ∧ ∀ o ∈ evidence, True →
      timeOf o ≤ timeOf q :=
      exists_latest lateIn trivial
    have older : ∀ o, Strongest evidence o → timeOf o < timeOf q := fun o strong =>
      Int.lt_of_le_of_lt (newest o strong.1 strong) (Int.lt_of_lt_of_le later (latest late lateIn trivial))
    obtain ⟨one, permOne, agreed, nameOne⟩ :=
      first_wins observed member (fun o inside => latest o inside trivial) strongA older
    obtain ⟨two, permTwo, -, nameTwo⟩ :=
      first_wins observed member (fun o inside => latest o inside trivial) strongB older
    exact differ (nameOne.symm.trans (((agree one two permOne permTwo).2.2 agreed).trans nameTwo))
  have last : ∀ q ∈ evidence, timeOf q ≤ timeOf m := fun q member =>
    Int.not_lt.mp fun later => ignored ⟨q, member, later⟩
  have top : ∀ o ∈ evidence, rankOf o ≤ rankOf m ∧ timeOf o ≤ timeOf m := fun o member =>
    ⟨strongM.2 o member, last o member⟩
  have alone : ∀ o ∈ evidence, rankOf o = rankOf m → timeOf o = timeOf m → o.name = m.name := by
    intro o member rank time
    by_contra other
    have strong : Strongest evidence o := ⟨member, fun q present => rank ▸ strongM.2 q present⟩
    obtain ⟨q, present, late⟩ := noTie m o strongM strong (Ne.symm other) time.symm
    exact late (last q present)
  -- evidence that ends with the newest
  obtain ⟨plain, permPlain, -, -, agreed⟩ :=
    exists_order observed (List.nodup_singleton m) (by simp [memberM]) rfl top
  have calm : (standing (mergeAll plain)).conflicted = false := agreed (observed m memberM).agreed alone
  have never : ∀ order, order.Perm evidence → (standing (mergeAll order)).conflicted ≠ true := by
    intro order perm conflicted
    rw [(agree order plain perm permPlain).2.1, calm] at conflicted
    cases conflicted
  obtain ⟨c, strongC, nameC⟩ : ∃ c, Strongest evidence c ∧ c.name ≠ m.name := by
    by_cases own : a.name = m.name
    · exact ⟨b, strongB, fun same => differ (own.trans same.symm)⟩
    · exact ⟨a, strongA, own⟩
  have strengthC : rankOf c = rankOf m := Nat.le_antisymm (strongM.2 c strongC.1) (strongC.2 m memberM)
  by_cases weaker : ∃ q ∈ evidence, timeOf q = timeOf m ∧ rankOf q ≠ rankOf m
  · obtain ⟨q, member, time, rank⟩ := weaker
    have weak : rankOf q < rankOf m := Nat.lt_of_le_of_ne (strongM.2 q member) rank
    have begins : [c].foldl absorb (standing q) = ⟨c.name, rankOf m, timeOf m, false⟩ := by
      have early := last c strongC.1
      simp only [List.foldl_cons, List.foldl_nil, absorb, standing]
      grind
    obtain ⟨order, perm, -, conflicted, -⟩ :=
      exists_order observed (by grind) (by simp [member, strongC.1]) begins top
    have fresh : m ∉ [q, c] := by
      simp only [List.mem_cons, List.not_mem_nil, or_false, not_or]
      exact ⟨fun same => rank (same ▸ rfl), fun same => nameC (same ▸ rfl)⟩
    exact never order perm (conflicted (.inr ⟨m, memberM, fresh, rfl, rfl, Ne.symm nameC⟩))
  have named : ∀ q ∈ evidence, timeOf q ≤ timeOf m ∧
    (timeOf q = timeOf m → rankOf q = rankOf m ∧ q.name = m.name) := by
    intro q member
    refine ⟨last q member, fun time => ?_⟩
    have rank : rankOf q = rankOf m := by_contra fun other => weaker ⟨q, member, time, other⟩
    exact ⟨rank, alone q member rank time⟩
  have disputed := noLast m strongM named
  simp only [not_not] at disputed
  obtain ⟨d, against, rank, other, reason⟩ := disputed
  have early : timeOf d < timeOf m :=
    Int.lt_iff_le_and_ne.mpr ⟨last d against, fun time => other (alone d against rank time)⟩
  have agreedNow := fun o member => (observed o member).agreed
  rcases reason with ⟨e, member, rankE, nameE, together⟩ | ⟨⟨e, member, rankE, nameE, before⟩, q,
    inside, weak, time⟩
  · have begins : [d, m].foldl absorb (standing e) = ⟨m.name, rankOf m, timeOf m, true⟩ := by
      simp only [List.foldl_cons, List.foldl_nil, absorb, standing]
      grind
    obtain ⟨order, perm, -, conflicted, -⟩ :=
      exists_order observed (by grind) (by simp [member, against, memberM]) begins top
    exact never order perm (conflicted (.inl rfl))
  · have begins : [q, d, m].foldl absorb (standing e) = ⟨m.name, rankOf m, timeOf m, true⟩ := by
      simp only [List.foldl_cons, List.foldl_nil, absorb, standing]
      grind
    obtain ⟨order, perm, -, conflicted, -⟩ :=
      exists_order observed (nodup_of_times before time (rank ▸ weak) early)
        (by simp [member, against, memberM, inside]) begins top
    exact never order perm (conflicted (.inl rfl))

end

theorem rank_absorb_le (s : Standing) (o : ApplicationIdentity) : s.rank ≤ (s.absorb o).rank := by
  unfold absorb
  grind

theorem rank_mergeAll_le {before : List ApplicationIdentity}
    (observed : ∀ q ∈ before ++ [o], Observed q) :
    rankOf (mergeAll before) ≤ rankOf (mergeAll (before ++ [o])) := by
  cases before with
  | nil =>
    have started : standing (mergeAll [o]) = standing o := standing_mergeAll (observed o (by simp)) (by simp)
    have rank : rankOf (mergeAll [o]) = rankOf o := congrArg Standing.rank started
    rw [List.nil_append, rank]
    cases confidence : o.confidence <;> simp [rankOf, mergeAll, unknownApplication, confidence, confidenceRank]
  | cons first rest =>
    have begins := observed first (by simp)
    have behind : ∀ q ∈ rest ++ [o], Observed q := fun q member => observed q (List.mem_cons_of_mem first member)
    have whole : standing (mergeAll (first :: (rest ++ [o]))) = (standing (mergeAll (first :: rest))).absorb o := by
      rw [standing_mergeAll begins behind, standing_mergeAll begins fun q member => behind q (by simp [member]),
        List.foldl_append]
      rfl
    have grows := rank_absorb_le (standing (mergeAll (first :: rest))) o
    rw [← whole] at grows
    exact grows

theorem arrival_order_irrelevant_iff {evidence : List ApplicationIdentity} (observed : ∀ o ∈ evidence, Observed o) :
    (∀ order, order.Perm evidence →
      (∀ before o after, order = before ++ o :: after →
        rankOf (mergeAll before) ≤ rankOf (mergeAll (before ++ [o]))) ∧
      SameOutcome (standing (mergeAll order)) (standing (mergeAll evidence))) ↔ OrderFree evidence := by
  constructor
  · intro agree
    apply orderFree_of_sameOutcome observed
    intro one two permOne permTwo
    obtain ⟨-, rank, conflicted, name⟩ := agree one permOne
    obtain ⟨-, rank', conflicted', name'⟩ := agree two permTwo
    refine ⟨rank.trans rank'.symm, conflicted.trans conflicted'.symm,
      fun agreed => (name agreed).trans (name' ?_).symm⟩
    rw [conflicted', ← conflicted, agreed]
  · intro free order perm
    have all : ∀ o ∈ order, Observed o := fun o member => observed o (perm.mem_iff.mp member)
    constructor
    · rintro before o after rfl
      apply rank_mergeAll_le
      intro q member
      apply all
      simp only [List.mem_append, List.mem_cons] at member ⊢
      tauto
    · by_cases empty : evidence = []
      · subst empty
        rw [List.perm_nil.mp perm]
        exact ⟨rfl, rfl, fun _ => rfl⟩
      · have some : order ≠ [] := fun none => empty (List.nil_perm.mp (none ▸ perm))
        apply free.sameOutcome
        · apply (weighs_mergeAll some all).congr
          intro o
          rw [List.mem_reverse, perm.mem_iff]
        · exact (weighs_mergeAll empty observed).congr fun o => List.mem_reverse

def seenAs (name : String) (confidence : ApplicationConfidence) (time : Time) : ApplicationIdentity :=
  { name, source := .suricataAppProto, confidence, firstSeen := some time, lastSeen := some time }

/-- The second observation is ignored, and makes the third one too old to replace the first. -/
theorem ignored_evidence_decides :
    Observed (seenAs "HTTP" .high 1) ∧ Observed (seenAs "OTHER" .medium 5) ∧ Observed (seenAs "TLS" .high 3) ∧
    (mergeAll [seenAs "HTTP" .high 1, seenAs "OTHER" .medium 5, seenAs "TLS" .high 3]).name = "HTTP" ∧
    (mergeAll [seenAs "HTTP" .high 1, seenAs "OTHER" .medium 5, seenAs "TLS" .high 3]).conflicted = false ∧
    (mergeAll [seenAs "HTTP" .high 1, seenAs "TLS" .high 3, seenAs "OTHER" .medium 5]).name = "TLS" ∧
    (mergeAll [seenAs "HTTP" .high 1, seenAs "TLS" .high 3, seenAs "OTHER" .medium 5]).conflicted = false := by
  refine ⟨⟨by decide, rfl, rfl⟩, ⟨by decide, rfl, rfl⟩, ⟨by decide, rfl, rfl⟩, ?_⟩
  decide +kernel

theorem arrival_order_irrelevant_upgrade :
    SameOutcome (standing (mergeAll [seenAs "TLS" .high 3, seenAs "HTTP" .high 1]))
      (standing (mergeAll [seenAs "HTTP" .high 1, seenAs "TLS" .high 3])) := by
  have observed : ∀ o ∈ [seenAs "HTTP" .high 1, seenAs "TLS" .high 3], Observed o := by
    simp only [List.forall_mem_cons]
    exact ⟨⟨by decide, rfl, rfl⟩, ⟨by decide, rfl, rfl⟩, nofun⟩
  have free : OrderFree [seenAs "HTTP" .high 1, seenAs "TLS" .high 3] := by
    right
    right
    refine ⟨seenAs "TLS" .high 3, ⟨by simp, by decide⟩, by decide +kernel, ?_⟩
    simp only [Disputes]
    decide +kernel
  exact ((arrival_order_irrelevant_iff observed).mpr free _ (List.Perm.swap _ _ _)).2

end Ngfw.Inspection

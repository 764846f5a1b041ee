import Ngfw.Session.Query
import Ngfw.Proof.Session.IndexConsistency

/-! # Pages of the session listing -/

namespace Ngfw.Session
open Lib Domain

/-! ## The listing -/

def listingKey (v : RuntimeSession) : Int ×ₗ String :=
  toLex (v.createdAt, v.sessionID)

theorem listedBefore_iff (a b : RuntimeSession) : listedBefore a b ↔ listingKey a ≤ listingKey b := by
  unfold listedBefore listingKey
  rw [Prod.Lex.toLex_le_toLex]
  split_ifs with same
  · simp [same]
  · simp [same]

instance : Std.Total listedBefore where
  total a b := by
    rw [listedBefore_iff, listedBefore_iff]
    exact le_total _ _

instance : IsTrans RuntimeSession listedBefore where
  trans a b c first second := by
    rw [listedBefore_iff] at *
    exact le_trans first second

def listing [CaseMap] (s : RuntimeStore) (filter : SessionFilter) : List RuntimeSession :=
  (s.byID.values.filter (matchesFilter · filter)).insertionSort listedBefore

section
variable {s : RuntimeStore} {visited : List RuntimeSession}

theorem listing_perm [CaseMap] (s : RuntimeStore) (filter : SessionFilter) :
    (listing s filter).Perm (s.byID.values.filter (matchesFilter · filter)) :=
  List.perm_insertionSort _ _

theorem listing_sorted [CaseMap] (s : RuntimeStore) (filter : SessionFilter) :
    (listing s filter).Pairwise listedBefore :=
  List.pairwise_insertionSort _ _

theorem eq_of_listedBefore (indexed : Indexed s) {a b : RuntimeSession} (live : a ∈ s.byID.values)
    (liveToo : b ∈ s.byID.values) (first : listedBefore a b) (second : listedBefore b a) : a = b := by
  obtain ⟨id, found⟩ := GoMap.mem_values.mp live
  obtain ⟨other, foundToo⟩ := GoMap.mem_values.mp liveToo
  have sameID : a.sessionID = b.sessionID := by
    rw [listedBefore_iff] at first second
    exact congrArg (fun key => (ofLex key).2) (le_antisymm first second)
  rw [(indexed.filed id a found).named, (indexed.filed other b foundToo).named] at sameID
  subst sameID
  exact Option.some.inj (found.symm.trans foundToo)

theorem listing_of_visited [CaseMap] (indexed : Indexed s) (filter : SessionFilter)
    (all : visited.Perm s.byID.values) :
    (visited.filter (matchesFilter · filter)).insertionSort listedBefore = listing s filter := by
  refine List.Perm.eq_of_pairwise ?_ (List.pairwise_insertionSort listedBefore _) (listing_sorted s filter) ?_
  · intro a b inside insideToo
    have member : a ∈ visited := List.mem_of_mem_filter ((List.mem_insertionSort _).mp inside)
    have memberToo : b ∈ s.byID.values := List.mem_of_mem_filter ((List.mem_insertionSort _).mp insideToo)
    exact eq_of_listedBefore indexed (all.mem_iff.mp member) memberToo
  · exact ((List.perm_insertionSort _ _).trans (all.filter _)).trans (listing_perm s filter).symm

/-! ## The window of a page -/

theorem int64_eq {n : Int} (low : -2 ^ 63 ≤ n) (high : n < 2 ^ 63) : int64 n = n := by
  unfold int64
  exact Int.bmod_eq_of_le (by omega) (by omega)

def answer [CaseMap] (s : RuntimeStore) (filter : SessionFilter) (page : Page) (clock : Time) : PageResult :=
  let first := (pageNumber page.number - 1) * pageSize page.size
  { items := ((listing s filter).drop first.toNat).take (pageSize page.size).toNat
    page := pageNumber page.number
    pageSize := pageSize page.size
    total := (listing s filter).length
    hasMore := first + pageSize page.size < (listing s filter).length
    storeRevision := s.revision
    snapshotTime := clock }

theorem pageSize_bounds (size : Int) : 1 ≤ pageSize size ∧ pageSize size ≤ 500 := by
  unfold pageSize
  dsimp only
  split_ifs <;> omega

def pageStart (total first : Int) : Int :=
  if total < int64 first then total else int64 first

def pageStop (total start size : Int) : Int :=
  if total < int64 (start + size) then total else int64 (start + size)

theorem query_eq [CaseMap] (indexed : Indexed s) (filter : SessionFilter) (page : Page)
    (all : visited.Perm s.byID.values) (clock : Time) (small : page.number < 2 ^ 63) :
    s.query filter page visited clock =
      let total : Int := (listing s filter).length
      let start := pageStart total ((pageNumber page.number - 1) * pageSize page.size)
      let stop := pageStop total start (pageSize page.size)
      (sliceBounds total start stop).map fun (low, high) =>
        { items := ((listing s filter).take high).drop low
          page := pageNumber page.number
          pageSize := pageSize page.size
          total := total
          hasMore := stop < total
          storeRevision := s.revision
          snapshotTime := clock } := by
  have inside : int64 (pageNumber page.number - 1) = pageNumber page.number - 1 := by
    refine int64_eq ?_ ?_ <;> (unfold pageNumber; split_ifs <;> omega)
  unfold RuntimeStore.query
  simp only [listing_of_visited indexed filter all, inside]
  rfl

def FitsPage (total first : Int) : Prop :=
  first < 2 ^ 63 ∨ total ≤ int64 first

section
variable {total first start size : Int}

theorem pageStart_fits (short : total + 500 < 2 ^ 63) (begins : 0 ≤ first) (fits : FitsPage total first) :
    pageStart total first = min first total := by
  unfold pageStart
  by_cases small : first < 2 ^ 63
  · rw [int64_eq (by omega) small]
    split_ifs <;> omega
  · have behind := fits.resolve_left small
    split_ifs <;> omega

theorem pageStop_eq (short : total + 500 < 2 ^ 63) (low : 0 ≤ start) (high : start ≤ total) (some : 1 ≤ size)
    (few : size ≤ 500) : pageStop total start size = min (start + size) total := by
  unfold pageStop
  rw [int64_eq (by omega) (by omega)]
  split_ifs <;> omega

theorem sliceBounds_wraps (short : total + 500 < 2 ^ 63) (some : 1 ≤ size) (few : size ≤ 500)
    (wraps : ¬ FitsPage total first) :
    let start := pageStart total first
    sliceBounds total start (pageStop total start size) = none ∨
      ∃ low high, sliceBounds total start (pageStop total start size) = Option.some (low, high) ∧ low < high ∧
        (high : Int) ≤ total := by
  obtain ⟨_, before⟩ := not_or.mp wraps
  have here : pageStart total first = int64 first := by
    unfold pageStart
    rw [if_neg (by omega)]
  dsimp only
  rw [here]
  by_cases negative : int64 first < 0
  · left
    unfold sliceBounds
    rw [if_neg (by omega)]
  · right
    rw [pageStop_eq short (by omega) (by omega) some few]
    unfold sliceBounds
    rw [if_pos (by omega)]
    exact ⟨_, _, rfl, by omega, by omega⟩

end

theorem window_eq {Item : Type} (items : List Item) {first size : Int} (begins : 0 ≤ first) (long : 0 ≤ size) :
    (items.take (min (first + size) items.length).toNat).drop (min first items.length).toNat =
      (items.drop first.toNat).take size.toNat := by
  obtain ⟨first, rfl⟩ := Int.eq_ofNat_of_zero_le begins
  obtain ⟨size, rfl⟩ := Int.eq_ofNat_of_zero_le long
  rw [List.drop_take]
  by_cases inside : first ≤ items.length
  · rw [min_eq_left (by omega : (first : Int) ≤ items.length)]
    by_cases whole : first + size ≤ items.length
    · congr 1
      omega
    · rw [List.take_of_length_le, List.take_of_length_le]
      all_goals
        rw [List.length_drop]
        omega
  · rw [List.drop_of_length_le (by omega), List.drop_of_length_le (by omega), List.take_nil, List.take_nil]

theorem query_eq_answer_iff [CaseMap] (indexed : Indexed s) (filter : SessionFilter) (page : Page)
    (all : visited.Perm s.byID.values) (clock : Time) (small : page.number < 2 ^ 63)
    (short : ((listing s filter).length : Int) + 500 < 2 ^ 63) :
    s.query filter page visited clock = some (answer s filter page clock) ↔
      FitsPage (listing s filter).length ((pageNumber page.number - 1) * pageSize page.size) := by
  have sizes := pageSize_bounds page.size
  have begins : 0 ≤ (pageNumber page.number - 1) * pageSize page.size := by
    refine Int.mul_nonneg ?_ (by omega)
    unfold pageNumber
    split_ifs <;> omega
  rw [query_eq indexed filter page all clock small]
  dsimp only
  unfold answer
  dsimp only
  generalize (pageNumber page.number - 1) * pageSize page.size = first at begins
  generalize pageSize page.size = size at sizes
  generalize listing s filter = items at short
  constructor
  · intro found
    by_contra wraps
    have past := (not_or.mp wraps).1
    rcases sliceBounds_wraps short sizes.1 sizes.2 wraps with panics | ⟨low, high, cut, inside, bounded⟩
    · rw [panics] at found
      cases found
    · rw [cut] at found
      have lengths := congrArg (fun result => result.items.length) (Option.some.inj found)
      simp only [List.length_drop, List.length_take] at lengths
      omega
  · intro fits
    rw [pageStart_fits short begins fits, pageStop_eq short (by omega) (by omega) sizes.1 sizes.2]
    have bounds : sliceBounds (items.length : Int) (min first items.length)
        (min (min first items.length + size) items.length) =
        some ((min first items.length).toNat, (min (first + size) items.length).toNat) := by
      unfold sliceBounds
      rw [if_pos (by omega)]
      congr 2
      omega
    have more : (min (min first items.length + size) items.length < (items.length : Int)) ↔
        first + size < items.length := by omega
    rw [bounds, Option.map_some]
    simp only [more, window_eq items begins (by omega : 0 ≤ size)]

/-! ## All pages -/

def pagedItems [CaseMap] (s : RuntimeStore) (filter : SessionFilter) (size : Int)
    (visited : Nat → List RuntimeSession) (clock : Nat → Time) (count : Nat) : List RuntimeSession :=
  (List.range count).flatMap fun i : Nat =>
    ((s.query filter ⟨i + 1, size⟩ (visited i) (clock i)).map (·.items)).getD []

theorem pagedItems_eq [CaseMap] (indexed : Indexed s) (filter : SessionFilter) (size : Int)
    {visited : Nat → List RuntimeSession} (all : ∀ i, (visited i).Perm s.byID.values) (clock : Nat → Time)
    (short : ((listing s filter).length : Int) + 500 < 2 ^ 63) (count : Nat)
    (fits : (count : Int) * pageSize size < 2 ^ 63) :
    pagedItems s filter size visited clock count = (listing s filter).take (count * (pageSize size).toNat) := by
  have sizes := pageSize_bounds size
  induction count with
  | zero => simp [pagedItems]
  | succ count ih =>
    have split : ((count + 1 : Nat) : Int) * pageSize size = count * pageSize size + pageSize size := by
      rw [Int.natCast_add, Int.add_mul, Int.natCast_one, Int.one_mul]
    have before : (count : Int) ≤ count * pageSize size := by
      have grows := Int.mul_le_mul_of_nonneg_left sizes.1 (Int.natCast_nonneg count)
      omega
    have number : pageNumber (count + 1) - 1 = count := by
      unfold pageNumber
      split_ifs <;> omega
    have result := (query_eq_answer_iff indexed filter ⟨count + 1, size⟩ (all count) (clock count)
      (by dsimp only; omega) short).mpr (.inl (by dsimp only; rw [number]; omega))
    have place : ((count : Int) * pageSize size).toNat = count * (pageSize size).toNat := by
      rw [Int.toNat_mul (by omega) (by omega), Int.toNat_natCast]
    unfold pagedItems at ih ⊢
    rw [List.range_succ, List.flatMap_append, ih (by omega), List.flatMap_singleton, result, Option.map_some,
      Option.getD_some, Nat.succ_mul, List.take_add]
    simp only [answer, number, place]

theorem query_yields_page_iff [CaseMap] [Stdlib]
    (reached : Reachable NewStore (fun _ _ => True) RuntimeStore.exec s)
    (short : (s.byID.keys.length : Int) + 500 < 2 ^ 63) (filter : SessionFilter) :
    ((listing s filter).Perm (s.byID.values.filter (matchesFilter · filter)) ∧
      (listing s filter).Pairwise listedBefore) ∧
    (∀ page visited clock, page.number < 2 ^ 63 → visited.Perm s.byID.values →
      (s.query filter page visited clock = some (answer s filter page clock) ↔
        FitsPage (listing s filter).length ((pageNumber page.number - 1) * pageSize page.size))) ∧
    ∀ size visited clock, (∀ i, (visited i).Perm s.byID.values) → ∀ count : Nat,
      (count : Int) * pageSize size < 2 ^ 63 →
      pagedItems s filter size visited clock count = (listing s filter).take (count * (pageSize size).toNat) := by
  have indexed := indexed_of_reachable reached
  have some : (listing s filter).length ≤ s.byID.keys.length := by
    rw [(listing_perm s filter).length_eq]
    refine (List.length_filter_le _ _).trans_eq ?_
    simp [GoMap.values, AList.keys, List.keys]
  refine ⟨⟨listing_perm s filter, listing_sorted s filter⟩, fun page visited clock small all => ?_,
    fun size visited clock all count fits => ?_⟩
  · exact query_eq_answer_iff indexed filter page all clock small (by omega)
  · exact pagedItems_eq indexed filter size all clock (by omega) count fits

end

section
attribute [local instance] Text.asciiCaseMap natStdlib

def twoSessionStore : RuntimeStore :=
  natSessionStore.exec (.applyObserved (partialRecord natReply 8 0 none) 2 2)

theorem query_yields_page_nat :
    twoSessionStore.query {} ⟨2, 1⟩ twoSessionStore.byID.values 3 =
      some (answer twoSessionStore {} ⟨2, 1⟩ 3) ∧ (answer twoSessionStore {} ⟨2, 1⟩ 3).items.length = 1 ∧
      pagedItems twoSessionStore {} 1 (fun _ => twoSessionStore.byID.values) (fun _ => 3) 2 =
        (listing twoSessionStore {}).take (2 * (pageSize 1).toNat) ∧ (listing twoSessionStore {}).length = 2 := by
  have reached : Reachable NewStore (fun _ _ => True) RuntimeStore.exec twoSessionStore :=
    .next _ (.next _ (.start ⟨_, rfl⟩) trivial) trivial
  have pages := query_yields_page_iff reached (by decide +kernel) {}
  exact ⟨(pages.2.1 ⟨2, 1⟩ _ 3 (by decide) (.refl _)).mpr (.inl (by decide)), by decide +kernel,
    pages.2.2 1 _ _ (fun _ => .refl _) 2 (by decide), by decide +kernel⟩

/-- The API accepts the largest page number. With pages of 500 the start of that page is negative, and the start of
page 2^62 + 1 is zero. -/
theorem page_product_wraps :
    parsePage "9223372036854775807" "500" = .ok ⟨9223372036854775807, 500⟩ ∧
      (natSessionStore.query {} ⟨9223372036854775807, 500⟩ natSessionStore.byID.values 3).isNone = true ∧
      (natSessionStore.query {} ⟨4611686018427387905, 500⟩ natSessionStore.byID.values 3).map (·.items.length) =
        some 1 := by
  refine ⟨by rfl, by decide +kernel, by decide +kernel⟩

end

end Ngfw.Session

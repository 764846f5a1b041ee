import Ngfw.Proof.Engine.SecurityEvents

/-! # Pages of security events -/

namespace Ngfw.Engine
open Lib Domain SecurityEventStore

section
variable [CaseMap] (query : SecurityQuery) (limit : Nat) {after : UInt64}

def onPage (after passed : UInt64) (event : ThreatEvent) : Bool :=
  after < event.sequence ∧ event.sequence ≤ passed ∧ matchesSecurityQuery event query

structure Walked (after : UInt64) (rest items : List ThreatEvent) (passed : UInt64)
    (page : List ThreatEvent × UInt64 × Bool) : Prop where
  whole : page.1 = items ++ rest.filter (onPage query after page.2.1)
  later : passed ≤ page.2.1
  done : page.2.2 = false → ∀ event ∈ rest, event.sequence ≤ page.2.1
  more : page.2.2 = true → limit ≤ page.1.length

variable {query limit}

theorem Walked.cons {event : ThreatEvent} {rest items found : List ThreatEvent} {passed next : UInt64}
    {page : List ThreatEvent × UInt64 × Bool} (walked : Walked query limit after rest found next page)
    (onward : passed ≤ next) (covered : event.sequence ≤ next)
    (same : found = items ++ [event].filter fun event => after < event.sequence ∧ matchesSecurityQuery event query) :
    Walked query limit after (event :: rest) items passed page := by
  have reached := UInt64.le_trans covered walked.later
  refine ⟨?_, UInt64.le_trans onward walked.later,
    fun none => List.forall_mem_cons.mpr ⟨reached, walked.done none⟩, walked.more⟩
  rw [walked.whole, same, List.append_assoc, List.filter_cons, List.filter_cons]
  simp only [List.filter_nil, onPage, reached, true_and]
  split_ifs <;> rfl

theorem collectPage_walked {rest : List ThreatEvent} (items : List ThreatEvent) (passed : UInt64)
    (increasing : (rest.map (·.sequence)).Pairwise (· < ·)) (reached : after ≤ passed)
    (ahead : ∀ event ∈ rest, after < event.sequence → passed < event.sequence) :
    Walked query limit after rest items passed (collectPage query limit after rest items passed) := by
  induction rest generalizing items passed with
  | nil => exact ⟨(List.append_nil _).symm, UInt64.le_refl _, by simp, by simp [collectPage]⟩
  | cons event rest ih =>
    rw [List.map_cons, List.pairwise_cons] at increasing
    unfold collectPage
    by_cases old : event.sequence ≤ after
    · rw [if_pos old]
      exact (ih items passed increasing.2 reached fun other member => ahead other (List.mem_cons_of_mem _ member)).cons
        (UInt64.le_refl _) (UInt64.le_trans old reached) (by simp [UInt64.not_lt.mpr old])
    · rw [if_neg old]
      have new := UInt64.not_le.mp old
      by_cases full : limit ≤ items.length
      · rw [if_pos full]
        -- what is left is beyond the number passed, so the page ends before it
        refine ⟨?_, UInt64.le_refl _, by simp, fun _ => full⟩
        rw [List.filter_eq_nil_iff.mpr, List.append_nil]
        intro other member listed
        simp only [onPage, decide_eq_true_eq] at listed
        exact UInt64.not_le.mpr (ahead other member listed.1) listed.2.1
      · rw [if_neg full]
        have further (items : List ThreatEvent) := ih items event.sequence increasing.2 (UInt64.le_of_lt new)
          fun other member _ => increasing.1 other.sequence (List.mem_map_of_mem member)
        have before := UInt64.le_of_lt (ahead event List.mem_cons_self new)
        by_cases found : matchesSecurityQuery event query = true
        · rw [if_pos found]
          exact (further _).cons before (UInt64.le_refl _) (by simp [new, found])
        · rw [if_neg found]
          exact (further _).cons before (UInt64.le_refl _) (by simp [found])

variable (query)

/-- A page holds what matches of the retained events after a number up to `nextSequence`, where the next page goes on.
That is never beyond the numbers given out, and has moved on if events are left. -/
structure Covers (s : SecurityEventStore) (after : UInt64) (page : SecurityEventPage) : Prop where
  items : page.items = (s.snapshot.map (·.event)).filter (onPage query after page.nextSequence)
  bounded : page.nextSequence ≤ s.next
  onward : after ≤ s.next → after ≤ page.nextSequence
  complete : page.hasMore = false → ∀ stored ∈ s.snapshot, stored.event.sequence ≤ page.nextSequence
  progress : page.hasMore = true → after < page.nextSequence

theorem Retains.covers {s : SecurityEventStore} {events : List StoredThreat} (retains : Retains s events)
    (ordered : Ordered s events) :
    Covers query s (if (s.query query).resetRequired then 0 else query.afterSequence) (s.query query) := by
  have increasing : ((s.snapshot.map (·.event)).map (·.sequence)).Pairwise (· < ·) := by
    rw [retains.snapshot, List.map_map]
    exact ordered.increasing
  have given : ∀ event ∈ s.snapshot.map (·.event), event.sequence ≤ s.next := by
    rw [retains.snapshot]
    intro event member
    obtain ⟨stored, held, rfl⟩ := List.mem_map.mp member
    exact ordered.given _ (List.mem_map_of_mem held)
  unfold SecurityEventStore.query
  dsimp only
  generalize (if decide (query.streamID ≠ "" ∧ query.streamID ≠ s.streamID) then 0 else query.afterSequence) =
    after
  generalize limited : (if query.limit ≤ 0 then 50 else if 200 < query.limit then 200 else query.limit.toNat) = limit
  have positive : 0 < limit := by
    rw [← limited]
    split_ifs <;> omega
  have walked := @collectPage_walked _ query limit _ _ [] after increasing (UInt64.le_refl _) fun _ _ new => new
  generalize collectPage query limit after (s.snapshot.map (·.event)) [] after = walk at walked ⊢
  obtain ⟨items, passed, hasMore⟩ := walk
  obtain ⟨whole, later, done, more⟩ := walked
  dsimp only at whole later done more ⊢
  -- the last number given out cuts nothing off
  obtain ⟨bounded, onward, same⟩ : (if s.next < passed then s.next else passed) ≤ s.next ∧
      (after ≤ s.next → after ≤ if s.next < passed then s.next else passed) ∧
        ∀ event ∈ s.snapshot.map (·.event),
        (event.sequence ≤ (if s.next < passed then s.next else passed) ↔ event.sequence ≤ passed) := by
    split_ifs with beyond
    · exact ⟨UInt64.le_refl _, id, fun event member => iff_of_true (given event member)
        (UInt64.le_trans (given event member) (UInt64.le_of_lt beyond))⟩
    · exact ⟨UInt64.not_lt.mp beyond, fun _ => later, fun _ _ => .rfl⟩
  refine ⟨?_, bounded, onward, fun none stored member => ?_, fun left => ?_⟩
  · rw [whole, List.nil_append]
    refine List.filter_congr fun event member => ?_
    simp only [onPage, same event member]
  · exact (same _ (List.mem_map_of_mem member)).mpr (done none _ (List.mem_map_of_mem member))
  · obtain ⟨event, listed⟩ := List.exists_mem_of_length_pos (Nat.lt_of_lt_of_le positive (more left))
    rw [whole, List.nil_append, List.mem_filter] at listed
    obtain ⟨member, shown⟩ := listed
    simp only [onPage, decide_eq_true_eq] at shown
    exact UInt64.lt_of_lt_of_le shown.1 ((same event member).mpr shown.2.1)

end

theorem security_pages_cover [CaseMap] [EventEncoding] (capacity maxBytes : Int) (streamID : String)
    (calls : List SecurityCall) (few : calls.countP isAdd < 2 ^ 64) (query : SecurityQuery) :
    let s := calls.foldl exec (newSecurityEventStore capacity maxBytes streamID)
    Covers query s (if (s.query query).resetRequired then 0 else query.afterSequence) (s.query query) := by
  obtain ⟨events, retains, ordered, -⟩ := ordered_run capacity maxBytes streamID calls few
  exact retains.covers query ordered

attribute [local instance] Text.asciiCaseMap evenEncoding

theorem security_pages_cover_two :
    let s := ([.add { eventID := "a", correlationState := .uncorrelated } 7,
      .add { eventID := "b", correlationState := .uncorrelated } 8] : List SecurityCall).foldl exec
        (newSecurityEventStore 2 4096 "stream")
    Covers { limit := 1 } s 0 (s.query { limit := 1 }) ∧ (s.query { limit := 1 }).hasMore = true :=
  ⟨security_pages_cover 2 4096 "stream" _ (by decide) { limit := 1 }, by decide +kernel⟩

end Ngfw.Engine

import Mathlib.Data.List.Infix
import Ngfw.Engine.SecurityEvents
import Ngfw.Lib.Ring

/-! # The ring of security events is a queue -/

namespace Ngfw.Engine
open Lib Lib.Text Domain SecurityEventStore

structure Retains (s : SecurityEventStore) (events : List StoredThreat) : Prop where
  slots : s.items.length = s.capacity
  ring : Ring.Holds s.items s.head events
  count : s.count = events.length
  bytes : s.bytes = totalBytes events
  budget : totalBytes events ≤ s.maxBytes
  index : ∀ id position, s.index.lookup id = some position ↔
    ∃ place stored, events[place]? = some stored ∧ stored.event.eventID = id ∧
      position = Ring.slot s.capacity s.head place

@[simp] theorem totalBytes_nil : totalBytes [] = 0 := rfl

@[simp] theorem totalBytes_cons (stored : StoredThreat) (events : List StoredThreat) :
    totalBytes (stored :: events) = stored.size + totalBytes events := by
  simp [totalBytes]

@[simp] theorem totalBytes_append (first second : List StoredThreat) :
    totalBytes (first ++ second) = totalBytes first + totalBytes second := by
  simp [totalBytes]

theorem filterMap_range_getElem? {Value : Type} (values : List Value) :
    (List.range values.length).filterMap (fun place => values[place]?) = values := by
  induction values with
  | nil => rfl
  | cons value rest ih =>
    rw [List.length_cons, List.range_succ_eq_map, List.filterMap_cons]
    simp only [List.getElem?_cons_zero, List.filterMap_map]
    exact congrArg (value :: ·) ih

section
variable {s : SecurityEventStore} {events : List StoredThreat}

namespace Retains

section
variable (retains : Retains s events)
include retains

theorem positive : 0 < s.capacity := by
  rw [← retains.slots]
  exact Nat.zero_lt_of_lt retains.ring.inside

theorem bound : events.length ≤ s.capacity := by
  rw [← retains.slots]
  exact retains.ring.room

theorem item {place : Nat} {stored : StoredThreat}
    (stands : events[place]? = some stored) : s.item (Ring.slot s.capacity s.head place) = some stored := by
  have held := retains.ring.held place stored stands
  rw [retains.slots] at held
  rw [SecurityEventStore.item, held]
  rfl

theorem find {id : String} {stored : StoredThreat} :
    s.find id = some stored ↔ stored ∈ events ∧ stored.event.eventID = id := by
  constructor
  · intro found
    obtain ⟨position, indexed, at_⟩ := Option.bind_eq_some_iff.mp found
    obtain ⟨place, other, stands, named, rfl⟩ := (retains.index id position).mp indexed
    rw [retains.item stands] at at_
    cases at_
    exact ⟨List.mem_of_getElem? stands, named⟩
  · rintro ⟨member, named⟩
    obtain ⟨place, stands⟩ := List.mem_iff_getElem?.mp member
    have indexed := (retains.index id _).mpr ⟨place, stored, stands, named, rfl⟩
    rw [SecurityEventStore.find, indexed]
    exact retains.item stands

theorem find_none {id : String} (absent : s.find id = none) :
    ∀ stored ∈ events, stored.event.eventID ≠ id := by
  intro stored member named
  rw [retains.find.mpr ⟨member, named⟩] at absent
  cases absent

theorem place_unique {first second : Nat} {one two : StoredThreat}
    (here : events[first]? = some one) (there : events[second]? = some two)
    (same : one.event.eventID = two.event.eventID) : first = second := by
  have indexed := (retains.index _ _).mpr ⟨first, one, here, rfl, rfl⟩
  have indexed' := (retains.index _ _).mpr ⟨second, two, there, same.symm, rfl⟩
  have equal := Option.some.inj (indexed.symm.trans indexed')
  have within := (List.getElem?_eq_some_iff.mp here).1
  have within' := (List.getElem?_eq_some_iff.mp there).1
  exact Ring.slot_injective (within.trans_le retains.bound) (within'.trans_le retains.bound) equal

theorem snapshot : s.snapshot = events := by
  rw [SecurityEventStore.snapshot, retains.count]
  conv_rhs => rw [← filterMap_range_getElem? events]
  apply List.filterMap_congr
  intro place listed
  have within : place < events.length := List.mem_range.mp listed
  rw [List.getElem?_eq_getElem within]
  exact retains.item (List.getElem?_eq_getElem within)

theorem reclaimable (id : String) : s.reclaimable id = totalBytes (events.takeWhile (·.event.eventID ≠ id)) := by
  rw [SecurityEventStore.reclaimable, retains.snapshot]

theorem projected {id : String} {stored : StoredThreat} (member : stored ∈ events)
    (named : stored.event.eventID = id) (size : Nat) :
    s.projected id size = totalBytes events - stored.size + size := by
  rw [SecurityEventStore.projected, retains.find.mpr ⟨member, named⟩, retains.bytes]
  rfl

end

/-! ## Eviction -/

theorem evict {oldest : StoredThreat} (retains : Retains s (oldest :: events)) :
    Retains s.evictOldestLocked events := by
  have head : s.item s.head = some oldest := by
    have here := retains.item (show (oldest :: events)[0]? = some oldest from rfl)
    rwa [Ring.slot_zero (retains.slots ▸ retains.ring.inside)] at here
  have nonempty : s.count ≠ 0 := by
    rw [retains.count, List.length_cons]
    omega
  have evicted : s.evictOldestLocked =
      { s with
        index := s.index.erase oldest.event.eventID
        bytes := s.bytes - oldest.size
        items := s.items.set s.head none
        head := (s.head + 1) % s.capacity
        count := s.count - 1
        evicted := s.evicted + 1 } := by
    simp [evictOldestLocked, nonempty, head]
  have total := retains.bytes
  have budget := retains.budget
  rw [totalBytes_cons] at total budget
  rw [evicted]
  refine ⟨by simpa using retains.slots, retains.slots ▸ retains.ring.pop, by simp [retains.count], ?_, ?_, ?_⟩
  · dsimp only
    omega
  · dsimp only
    omega
  · -- the place of every other event moves by one, its slot stays
    intro id position
    dsimp only
    constructor
    · intro found
      obtain ⟨old, other⟩ := GoMap.lookup_of_lookup_erase found
      obtain ⟨place, stored, stands, named, rfl⟩ := (retains.index id position).mp old
      cases place with
      | zero =>
        rw [List.getElem?_cons_zero, Option.some.injEq] at stands
        subst stands
        exact absurd named.symm other
      | succ place => exact ⟨place, stored, by simpa using stands, named, (Ring.slot_next _ _ _).symm⟩
    · rintro ⟨place, stored, stands, named, rfl⟩
      have later : (oldest :: events)[place + 1]? = some stored := by simpa using stands
      have other : id ≠ oldest.event.eventID := by
        intro same
        have equal := retains.place_unique later (show (oldest :: events)[0]? = some oldest from rfl) (named.trans same)
        omega
      rw [AList.lookup_erase_ne other, Ring.slot_next]
      exact (retains.index id _).mpr ⟨place + 1, stored, later, named, rfl⟩

end Retains

@[simp] theorem evictOldestLocked_rest (s : SecurityEventStore) :
    s.evictOldestLocked.capacity = s.capacity ∧ s.evictOldestLocked.maxBytes = s.maxBytes ∧
      s.evictOldestLocked.next = s.next ∧ s.evictOldestLocked.streamID = s.streamID := by
  unfold evictOldestLocked
  split_ifs <;> exact ⟨rfl, rfl, rfl, rfl⟩

structure Evicts (s after : SecurityEventStore) : Prop where
  capacity : after.capacity = s.capacity
  maxBytes : after.maxBytes = s.maxBytes
  next : after.next = s.next

theorem Evicts.refl (s : SecurityEventStore) : Evicts s s := ⟨rfl, rfl, rfl⟩

theorem Evicts.step {after : SecurityEventStore} (rest : Evicts s.evictOldestLocked after) : Evicts s after := by
  obtain ⟨capacity, maxBytes, next, -⟩ := evictOldestLocked_rest s
  exact ⟨rest.capacity.trans capacity, rest.maxBytes.trans maxBytes, rest.next.trans next⟩

theorem evicts_makeRoom (size fuel : Nat) (s : SecurityEventStore) : Evicts s (makeRoom size fuel s) := by
  induction fuel generalizing s with
  | zero => exact .refl s
  | succ fuel ih =>
    rw [makeRoom]
    split_ifs
    · exact (ih _).step
    · exact .refl s

theorem evicts_makeRoomFor (id : String) (size fuel : Nat) (s : SecurityEventStore) :
    Evicts s (SecurityEventStore.makeRoomFor id size fuel s) := by
  induction fuel generalizing s with
  | zero => exact .refl s
  | succ fuel ih =>
    rw [SecurityEventStore.makeRoomFor]
    split_ifs
    · exact (ih _).step
    · exact .refl s

structure Spares (s : SecurityEventStore) (size : Nat) (events kept : List StoredThreat) : Prop where
  suffix : kept <:+ events
  room : kept.length < s.capacity
  fits : kept = [] ∨ (totalBytes kept : Int) + size ≤ s.maxBytes
  needed : ∀ oldest, oldest :: kept <:+ events →
    s.capacity ≤ kept.length + 1 ∨ s.maxBytes < totalBytes (oldest :: kept) + size

variable {fuel place : Nat} {old : StoredThreat} {id : String}

theorem Retains.makeRoom (retains : Retains s events) (size : Nat) (enough : events.length ≤ fuel) :
    ∃ kept, Spares s size events kept ∧ Retains (makeRoom size fuel s) kept := by
  have whole : ∀ oldest, ¬oldest :: events <:+ events := by
    intro oldest longer
    have length := longer.length_le
    rw [List.length_cons] at length
    omega
  induction fuel generalizing s events with
  | zero =>
    obtain rfl : events = [] := List.eq_nil_of_length_eq_zero (Nat.le_zero.mp enough)
    exact ⟨[], ⟨List.suffix_rfl, retains.positive, .inl rfl, fun oldest longer => absurd longer (whole oldest)⟩,
      retains⟩
  | succ fuel ih =>
    have total := retains.bytes
    have number := retains.count
    rw [makeRoom]
    split_ifs with full
    · cases events with
      | nil =>
        have positive := retains.positive
        rw [List.length_nil] at number
        omega
      | cons oldest rest =>
        obtain ⟨kept, spares, left⟩ := ih retains.evict (by simpa using enough) (by
          intro other longer
          have length := longer.length_le
          rw [List.length_cons] at length
          omega)
        obtain ⟨capacity, maxBytes, -⟩ := evictOldestLocked_rest s
        obtain ⟨suffix, room, fits, needed⟩ := spares
        rw [capacity] at room needed
        rw [maxBytes] at fits needed
        refine ⟨kept, ⟨suffix.trans (List.suffix_cons _ _), room, fits, ?_⟩, left⟩
        intro other longer
        rcases List.suffix_cons_iff.mp longer with same | shorter
        · rw [← same] at total number
          rw [List.length_cons] at number
          omega
        · exact needed other shorter
    · refine ⟨events, ⟨List.suffix_rfl, by omega, ?_, fun oldest longer => absurd longer (whole oldest)⟩,
        retains⟩
      cases events with
      | nil => exact .inl rfl
      | cons oldest rest =>
        rw [List.length_cons] at number
        exact .inr (by omega)

theorem Retains.withNext (retains : Retains s events) (next : UInt64) : Retains { s with next := next } events :=
  ⟨retains.slots, retains.ring, retains.count, retains.bytes, retains.budget, retains.index⟩

theorem Retains.push (retains : Retains s events) (stored : StoredThreat) (room : events.length < s.capacity)
    (fits : (totalBytes events : Int) + stored.size ≤ s.maxBytes)
    (fresh : ∀ other ∈ events, other.event.eventID ≠ stored.event.eventID) :
    Retains
      { s with
        items := s.items.set ((s.head + s.count) % s.capacity) (some stored)
        index := s.index.insert stored.event.eventID ((s.head + s.count) % s.capacity)
        count := s.count + 1
        bytes := s.bytes + stored.size } (events ++ [stored]) := by
  have total := retains.bytes
  have place : (s.head + s.count) % s.capacity = Ring.slot s.capacity s.head events.length := by
    rw [Ring.slot, retains.count]
  refine ⟨by simpa using retains.slots, ?_, by simp [retains.count], ?_, ?_, ?_⟩
  · rw [place, ← retains.slots]
    exact retains.ring.push (retains.slots ▸ room) stored
  · simp [total]
  · simpa using fits
  · intro id position
    dsimp only
    constructor
    · intro found
      rcases GoMap.lookup_of_lookup_insert found with ⟨rfl, rfl⟩ | ⟨other, old⟩
      · exact ⟨events.length, stored, by simp, rfl, place⟩
      · obtain ⟨earlier, known, stands, named, rfl⟩ := (retains.index id position).mp old
        have within := (List.getElem?_eq_some_iff.mp stands).1
        exact ⟨earlier, known, by rw [List.getElem?_append_left within, stands], named, rfl⟩
    · rintro ⟨where_, known, stands, named, rfl⟩
      by_cases last : where_ < events.length
      · rw [List.getElem?_append_left last] at stands
        have other : id ≠ stored.event.eventID := named ▸ fresh known (List.mem_of_getElem? stands)
        rw [AList.lookup_insert_ne other]
        exact (retains.index id _).mpr ⟨where_, known, stands, named, rfl⟩
      · have bound := (List.getElem?_eq_some_iff.mp stands).1
        rw [List.length_append, List.length_singleton] at bound
        obtain rfl : where_ = events.length := by omega
        rw [List.getElem?_append_right (le_refl _), Nat.sub_self, List.getElem?_cons_zero, Option.some.injEq] at stands
        rw [← named, ← stands, AList.lookup_insert, place]

theorem totalBytes_set (stands : events[place]? = some old) (new : StoredThreat) :
    totalBytes (events.set place new) + old.size = totalBytes events + new.size := by
  induction events generalizing place with
  | nil => simp at stands
  | cons first rest ih =>
    cases place with
    | zero =>
      rw [List.getElem?_cons_zero, Option.some.injEq] at stands
      subst stands
      rw [List.set_cons_zero, totalBytes_cons, totalBytes_cons]
      omega
    | succ place =>
      have later := ih (by simpa using stands)
      rw [List.set_cons_succ, totalBytes_cons, totalBytes_cons]
      omega

theorem Retains.replace (retains : Retains s events)
    (stands : events[place]? = some old) (new : StoredThreat)
    (named : new.event.eventID = old.event.eventID) {bytes : Int}
    (total : bytes = totalBytes events - old.size + new.size) (fits : bytes ≤ s.maxBytes) :
    Retains
      { s with items := s.items.set (Ring.slot s.capacity s.head place) (some new), bytes := bytes }
      (events.set place new) := by
  have within := (List.getElem?_eq_some_iff.mp stands).1
  have sum := totalBytes_set stands new
  refine ⟨by simpa using retains.slots, retains.slots ▸
    retains.ring.replace within new, by simpa using retains.count, ?_, ?_, ?_⟩
  · dsimp only
    omega
  · dsimp only
    omega
  · -- the ID of the event stays, so the index does
    intro id position
    rw [retains.index id position]
    dsimp only
    constructor
    · rintro ⟨other, stored, found, same, rfl⟩
      by_cases here : other = place
      · subst here
        rw [stands, Option.some.injEq] at found
        exact ⟨other, new, List.getElem?_set_self within, named.trans (found ▸ same), rfl⟩
      · exact ⟨other, stored, by rw [List.getElem?_set_ne (Ne.symm here), found], same, rfl⟩
    · rintro ⟨other, stored, found, same, rfl⟩
      by_cases here : other = place
      · subst here
        rw [List.getElem?_set_self within, Option.some.injEq] at found
        exact ⟨other, old, stands, by rw [← named, found, same], rfl⟩
      · rw [List.getElem?_set_ne (Ne.symm here)] at found
        exact ⟨other, stored, found, same, rfl⟩

theorem Retains.makeRoomFor {record : StoredThreat} (retains : Retains s events)
    (member : record ∈ events) (named : record.event.eventID = id) {size : Nat} (enough : events.length ≤ fuel)
    (spare : (totalBytes events : Int) - record.size + size -
      totalBytes (events.takeWhile (·.event.eventID ≠ id)) ≤ s.maxBytes) :
    ∃ kept, kept <:+ events ∧ Retains (SecurityEventStore.makeRoomFor id size fuel s) kept ∧ record ∈ kept ∧
      (totalBytes kept : Int) - record.size + size ≤ s.maxBytes := by
  induction fuel generalizing s events with
  | zero => exact absurd (Nat.le_zero.mp enough) (List.length_pos_of_mem member).ne'
  | succ fuel ih =>
    obtain ⟨oldest, rest, rfl⟩ := List.exists_cons_of_ne_nil (List.ne_nil_of_mem member)
    have head : s.item s.head = some oldest := by
      have here := retains.item (show (oldest :: rest)[0]? = some oldest from rfl)
      rwa [Ring.slot_zero (retains.slots ▸ retains.ring.inside)] at here
    have total := retains.projected member named size
    rw [SecurityEventStore.makeRoomFor, head, total]
    by_cases first : oldest.event.eventID = id
    · -- nothing is older than the event
      rw [if_neg (by simp [first])]
      refine ⟨_, List.suffix_rfl, retains, member, ?_⟩
      simpa [first] using spare
    · have later : record ∈ rest := (List.mem_cons.mp member).resolve_left fun same => first (same ▸ named)
      have known : s.find id = some record := retains.find.mpr ⟨member, named⟩
      have several : 1 < s.count := by
        rw [retains.count, List.length_cons]
        exact Nat.succ_lt_succ (List.length_pos_of_mem later)
      have older : (oldest :: rest).takeWhile (·.event.eventID ≠ id) =
          oldest :: rest.takeWhile (·.event.eventID ≠ id) :=
        List.takeWhile_cons_of_pos (by simpa using first)
      rw [older, totalBytes_cons, totalBytes_cons] at spare
      split_ifs with short
      · obtain ⟨-, maxBytes, -⟩ := evictOldestLocked_rest s
        obtain ⟨kept, suffix, left, still, fits⟩ := ih retains.evict later (by simpa using enough) (by omega)
        exact ⟨kept, suffix.trans (List.suffix_cons _ _), left, still, maxBytes ▸ fits⟩
      · refine ⟨_, List.suffix_rfl, retains, member, ?_⟩
        by_contra exceeds
        exact short ⟨not_le.mp exceeds, several, by simpa using first, by rw [known]; rfl⟩

/-! ## The calls -/

section
variable [EventEncoding]

def Outgrows (s : SecurityEventStore) (event : ThreatEvent) (clock : Time) : Prop :=
  trimSpace event.eventID ≠ "" ∧ (EventEncoding.size (completeEvent event clock) : Int) ≤ s.maxBytes ∧
    s.find event.eventID = none ∧ s.maxBytes < EventEncoding.size (s.numbered event clock)

inductive Added (s : SecurityEventStore) (events : List StoredThreat) (event : ThreatEvent) (clock : Time) :
    SecurityEventStore × Except SecurityEventError (ThreatEvent × Bool) → Prop
  | refused (failure : SecurityEventError)
      (bad : trimSpace event.eventID = "" ∨ s.maxBytes < EventEncoding.size (completeEvent event clock)) :
      Added s events event clock (s, .error failure)
  | known {stored : StoredThreat} (member : stored ∈ events) (named : stored.event.eventID = event.eventID) :
      Added s events event clock (s, .ok (stored.event, false))
  | wasted {after : SecurityEventStore} {kept : List StoredThreat} (outgrows : Outgrows s event clock)
      (evicts : Evicts { s with next := s.next + 1 } after) (suffix : kept <:+ events) (retains : Retains after kept) :
      Added s events event clock (after, .error .tooLarge)
  | stored {after : SecurityEventStore} {kept : List StoredThreat}
      (evicts : Evicts { s with next := s.next + 1 } after)
      (spares : Spares s (EventEncoding.size (s.numbered event clock)) events kept)
      (unknown : ∀ other ∈ events, other.event.eventID ≠ event.eventID)
      (retains : Retains after (kept ++ [⟨s.numbered event clock, EventEncoding.size (s.numbered event clock)⟩])) :
      Added s events event clock (after, .ok (s.numbered event clock, true))

theorem Retains.added (retains : Retains s events) (event : ThreatEvent) (clock : Time) :
    Added s events event clock (s.add event clock) := by
  rw [add]
  split
  · rename_i blank
    exact .refused _ (.inl blank)
  split
  · rename_i large
    exact .refused _ (.inr large)
  · rename_i blank large
    split
    · rename_i stored found
      obtain ⟨member, named⟩ := retains.find.mp found
      exact .known member named
    · rename_i absent
      have unknown := retains.find_none absent
      obtain ⟨kept, ⟨suffix, room, fits, needed⟩, left⟩ := (retains.withNext (s.next + 1)).makeRoom
        (EventEncoding.size (s.numbered event clock)) retains.count.ge
      have evicts := evicts_makeRoom (EventEncoding.size (s.numbered event clock)) s.count
        { s with next := s.next + 1 }
      dsimp only
      split
      · rename_i exceeds
        have bytes := evicts.maxBytes
        exact .wasted ⟨blank, not_lt.mp large, absent, bytes ▸ exceeds⟩ evicts suffix left
      · rename_i exceeds
        have bytes := evicts.maxBytes
        refine .stored ⟨evicts.capacity, evicts.maxBytes, evicts.next⟩ ⟨suffix, room, fits, needed⟩ unknown ?_
        apply left.push
        · rw [evicts.capacity]
          exact room
        · rw [bytes] at exceeds ⊢
          rcases fits with rfl | fits
          · simpa using not_lt.mp exceeds
          · exact fits
        · intro other member
          exact unknown other (suffix.subset member)

inductive Updated (s : SecurityEventStore) (events : List StoredThreat) (id sessionID policyID : String)
    (generation : UInt64) (state : CorrelationState) (reason : String) :
    SecurityEventStore × Except SecurityEventError ThreatEvent → Prop
  | refused (failure : SecurityEventError) :
      Updated s events id sessionID policyID generation state reason (s, .error failure)
  | same {record : StoredThreat} (member : record ∈ events) (named : record.event.eventID = id)
      (session : record.event.sessionID = sessionID) (correlation : record.event.correlationState = state) :
      Updated s events id sessionID policyID generation state reason (s, .ok record.event)
  | put {after : SecurityEventStore} {kept : List StoredThreat} {place : Nat} {record : StoredThreat} (size : Nat)
      (evicts : Evicts s after) (suffix : kept <:+ events) (stands : kept[place]? = some record)
      (named : record.event.eventID = id)
      (retains : Retains after (kept.set place
        ⟨correlated record.event sessionID policyID generation state reason, size⟩)) :
      Updated s events id sessionID policyID generation state reason
        (after, .ok (correlated record.event sessionID policyID generation state reason))

theorem Retains.updated (retains : Retains s events) (id sessionID policyID : String) (generation : UInt64)
    (state : CorrelationState) (reason : String) :
    Updated s events id sessionID policyID generation state reason
      (s.updateCorrelation id sessionID policyID generation state reason) := by
  rw [updateCorrelation]
  split
  · exact .refused _
  · rename_i record found
    obtain ⟨member, named⟩ := retains.find.mp found
    dsimp only
    split
    · rename_i same
      exact .same member named same.1 same.2.2.2.1
    split
    · exact .refused _
    split
    · exact .refused _
    · rename_i large scarce
      generalize EventEncoding.size
        (correlated record.event sessionID policyID generation state reason) = size at large scarce ⊢
      rw [retains.projected member named, retains.reclaimable] at scarce
      obtain ⟨kept, suffix, left, still, fits⟩ := retains.makeRoomFor member named retains.count.ge
        (not_lt.mp scarce)
      have evicts := evicts_makeRoomFor id size s.count s
      generalize SecurityEventStore.makeRoomFor id size s.count s = after at left evicts ⊢
      obtain ⟨place, stands⟩ := List.mem_iff_getElem?.mp still
      have indexed := (left.index id _).mpr ⟨place, record, stands, named, rfl⟩
      simp only [indexed]
      have total := left.projected still named size
      have room : ¬after.maxBytes < after.projected id size := by
        rw [total, evicts.maxBytes]
        exact not_lt.mpr fits
      rw [if_neg room]
      refine .put size ⟨evicts.capacity, evicts.maxBytes, evicts.next⟩ suffix stands named ?_
      exact left.replace stands
        ⟨correlated record.event sessionID policyID generation state reason, size⟩ rfl total
        (not_lt.mp room)

/-! ## Whole runs -/

variable (capacity maxBytes : Int) (streamID : String) (calls : List SecurityCall)

omit [EventEncoding] in
theorem retains_new : Retains (newSecurityEventStore capacity maxBytes streamID) [] := by
  unfold newSecurityEventStore
  dsimp only
  refine ⟨List.length_replicate, Ring.Holds.empty ?_, rfl, rfl, ?_, ?_⟩
  · rw [List.length_replicate]
    split_ifs <;> omega
  · dsimp only
    split_ifs
    · decide
    · simp only [totalBytes_nil]
      omega
  · intro id position
    simp

theorem retains_exec (retains : Retains s events) (call : SecurityCall) : ∃ after, Retains (s.exec call) after := by
  cases call with
  | add event clock =>
    have added := retains.added event clock
    rw [exec]
    generalize s.add event clock = result at added ⊢
    cases added with
    | refused => exact ⟨events, retains⟩
    | known => exact ⟨events, retains⟩
    | wasted _ _ _ left => exact ⟨_, left⟩
    | stored _ _ _ left => exact ⟨_, left⟩
  | updateCorrelation id sessionID policyID generation state reason =>
    have updated := retains.updated id sessionID policyID generation state reason
    rw [exec]
    generalize s.updateCorrelation id sessionID policyID generation state reason = result at updated ⊢
    cases updated with
    | refused => exact ⟨events, retains⟩
    | same => exact ⟨events, retains⟩
    | put _ _ _ _ _ left => exact ⟨_, left⟩
  | query => exact ⟨events, retains⟩

def sequences (events : List StoredThreat) : List UInt64 :=
  events.map (·.event.sequence)

structure Ordered (s : SecurityEventStore) (events : List StoredThreat) : Prop where
  increasing : (sequences events).Pairwise (· < ·)
  given : ∀ number ∈ sequences events, number ≤ s.next

omit [EventEncoding] in
theorem Ordered.suffix {kept : List StoredThreat} (ordered : Ordered s events) (suffix : kept <:+ events)
    (after : SecurityEventStore) (later : s.next ≤ after.next) : Ordered after kept := by
  have shorter : (sequences kept).Sublist (sequences events) := suffix.sublist.map _
  refine ⟨ordered.increasing.sublist shorter, ?_⟩
  intro number member
  exact UInt64.le_trans (ordered.given number (shorter.subset member)) later

omit [EventEncoding] in
theorem sequences_set {place : Nat} {record : StoredThreat} (stands : events[place]? = some record)
    (new : StoredThreat) (same : new.event.sequence = record.event.sequence) :
    sequences (events.set place new) = sequences events := by
  have here : (sequences events)[place]? = some record.event.sequence := by
    rw [sequences, List.getElem?_map, stands]
    rfl
  obtain ⟨within, value⟩ := List.getElem?_eq_some_iff.mp here
  rw [sequences, List.map_set, same, ← value]
  exact List.set_getElem_self within

def isAdd : SecurityCall → Bool
  | .add _ _ => true
  | _ => false

theorem ordered_exec (retains : Retains s events) (ordered : Ordered s events) (call : SecurityCall)
    (left : isAdd call → s.next.toNat + 1 < 2 ^ 64) :
    ∃ after, Retains (s.exec call) after ∧ Ordered (s.exec call) after ∧
      (s.exec call).next.toNat ≤ s.next.toNat + if isAdd call then 1 else 0 := by
  cases call with
  | add event clock =>
    have bumped : (s.next + 1).toNat = s.next.toNat + 1 := by
      rw [UInt64.toNat_add, UInt64.toNat_one]
      exact Nat.mod_eq_of_lt (left rfl)
    have added := retains.added event clock
    rw [exec]
    generalize s.add event clock = result at added ⊢
    cases added with
    | refused | known => exact ⟨events, retains, ordered, by simp⟩
    | wasted _ evicts suffix kept =>
      have next := evicts.next
      refine ⟨_, kept, ordered.suffix suffix _ ?_, ?_⟩
      · rw [next, UInt64.le_iff_toNat_le, bumped]
        omega
      · simp [next, bumped, isAdd]
    | stored evicts spares _ kept =>
      have suffix := spares.suffix
      have next := evicts.next
      have below : ∀ number ∈ sequences events, number < s.next + 1 := by
        intro number member
        have given := UInt64.le_iff_toNat_le.mp (ordered.given number member)
        rw [UInt64.lt_iff_toNat_lt, bumped]
        omega
      have older := ordered.suffix suffix s (UInt64.le_refl _)
      refine ⟨_, kept, ⟨?_, ?_⟩, by simp [next, bumped, isAdd]⟩
      · rw [sequences, List.map_append, List.pairwise_append]
        refine ⟨older.increasing, List.pairwise_singleton _ _, ?_⟩
        intro number member last new
        rw [List.map_singleton, List.mem_singleton] at new
        rw [new]
        exact below number ((suffix.sublist.map _).subset member)
      · intro number member
        rw [next]
        rw [sequences, List.map_append, List.mem_append] at member
        rcases member with earlier | last
        · exact UInt64.le_of_lt (below number ((suffix.sublist.map _).subset earlier))
        · rw [List.map_singleton, List.mem_singleton] at last
          rw [last]
          exact UInt64.le_refl _
  | updateCorrelation id sessionID policyID generation state reason =>
    have updated := retains.updated id sessionID policyID generation state reason
    rw [exec]
    generalize s.updateCorrelation id sessionID policyID generation state reason = result at updated ⊢
    cases updated with
    | refused | same => exact ⟨events, retains, ordered, by simp⟩
    | put size evicts suffix stands named kept =>
      have older := ordered.suffix suffix _ (UInt64.le_of_eq evicts.next.symm)
      have numbers := sequences_set stands
        ⟨correlated _ sessionID policyID generation state reason, size⟩ rfl
      exact ⟨_, kept, ⟨numbers ▸ older.increasing, numbers ▸ older.given⟩, by simp [evicts.next]⟩
  | query => exact ⟨events, retains, ordered, by simp [exec]⟩

theorem retains_run :
    ∃ events, Retains (calls.foldl exec (newSecurityEventStore capacity maxBytes streamID)) events := by
  refine List.foldlRecOn calls _ (motive := fun s => ∃ events, Retains s events)
    ⟨[], retains_new capacity maxBytes streamID⟩ ?_
  rintro s ⟨events, retains⟩ call _
  exact retains_exec retains call

theorem ordered_run (few : calls.countP isAdd < 2 ^ 64) :
    ∃ events, Retains (calls.foldl exec (newSecurityEventStore capacity maxBytes streamID)) events ∧
      Ordered (calls.foldl exec (newSecurityEventStore capacity maxBytes streamID)) events ∧
      (calls.foldl exec (newSecurityEventStore capacity maxBytes streamID)).next.toNat ≤
        calls.countP isAdd := by
  induction calls using List.reverseRecOn with
  | nil => exact ⟨[], retains_new capacity maxBytes streamID, ⟨List.Pairwise.nil, by simp [sequences]⟩,
      Nat.le_refl 0⟩
  | append_singleton calls call ih =>
    rw [List.countP_append, List.countP_singleton] at few ⊢
    obtain ⟨events, retains, ordered, given⟩ := ih (by omega)
    rw [List.foldl_append, List.foldl_cons, List.foldl_nil]
    obtain ⟨after, kept, increasing, next⟩ := ordered_exec retains ordered call (by
      intro adds
      rw [if_pos adds] at few
      omega)
    exact ⟨after, kept, increasing, by omega⟩

structure RingInvariant (s : SecurityEventStore) : Prop where
  indexed : ∀ id position, s.index.lookup id = some position ↔
    ∃ place < s.count, position = (s.head + place) % s.capacity ∧
      (s.item position).map (·.event.eventID) = some id
  filled : s.snapshot.length = s.count
  bytes : s.bytes = totalBytes s.snapshot
  budget : s.bytes ≤ s.maxBytes
  capacity : s.count ≤ s.capacity
  ordered : (sequences s.snapshot).Pairwise (· < ·)
  retrievable : ∀ stored ∈ s.snapshot, s.get stored.event.eventID = some stored.event

omit [EventEncoding] in
theorem Retains.invariant (retains : Retains s events) (increasing : (sequences events).Pairwise (· < ·)) :
    RingInvariant s := by
  refine ⟨?_, ?_, ?_, ?_, ?_, ?_, ?_⟩
  · intro id position
    rw [retains.index id position]
    constructor
    · rintro ⟨place, stored, stands, named, rfl⟩
      have within := (List.getElem?_eq_some_iff.mp stands).1
      refine ⟨place, retains.count ▸ within, rfl, ?_⟩
      rw [retains.item stands, Option.map_some, named]
    · rintro ⟨place, within, rfl, named⟩
      rw [retains.count] at within
      have stands := List.getElem?_eq_getElem within
      have here := retains.item stands
      rw [Ring.slot] at here
      rw [here, Option.map_some, Option.some.injEq] at named
      exact ⟨place, _, stands, named, rfl⟩
  · rw [retains.snapshot, retains.count]
  · rw [retains.snapshot, retains.bytes]
  · rw [retains.bytes]
    exact retains.budget
  · rw [retains.count]
    exact retains.bound
  · rw [retains.snapshot]
    exact increasing
  · intro stored member
    rw [retains.snapshot] at member
    rw [SecurityEventStore.get, retains.find.mpr ⟨member, rfl⟩]
    rfl

theorem ring_invariant (capacity maxBytes : Int) (streamID : String) (calls : List SecurityCall)
    (few : calls.countP isAdd < 2 ^ 64) :
    RingInvariant (calls.foldl exec (newSecurityEventStore capacity maxBytes streamID)) := by
  obtain ⟨events, retains, ordered, -⟩ := ordered_run capacity maxBytes streamID calls few
  exact retains.invariant ordered.increasing

end

abbrev evenEncoding : EventEncoding :=
  ⟨fun _ => 1024⟩

theorem ring_invariant_two : RingInvariant (([.add { eventID := "a", correlationState := .uncorrelated } 7,
    .add { eventID := "b", correlationState := .uncorrelated } 8] : List SecurityCall).foldl
      (@exec evenEncoding) (newSecurityEventStore 1 4096 "stream")) :=
  @ring_invariant evenEncoding 1 4096 "stream" _ (by decide)

def HoldsLast (s : SecurityEventStore) (number : Nat) : Prop :=
  ∃ older newer : StoredThreat, Retains s [older, newer] ∧ s.capacity = 2 ∧ s.maxBytes = 4096 ∧
    newer.size = 1024 ∧ older.event.sequence = UInt64.ofNat number ∧
    newer.event.sequence = UInt64.ofNat (number + 1) ∧ s.next = UInt64.ofNat (number + 1)

theorem exists_fresh_id (first second : String) :
    ∃ id, trimSpace id ≠ "" ∧ id ≠ first ∧ id ≠ second := by
  by_cases a : "a" = first ∨ "a" = second
  · by_cases b : "b" = first ∨ "b" = second
    · refine ⟨"c", by decide, ?_, ?_⟩
      · rintro rfl
        grind
      · rintro rfl
        grind
    · exact ⟨"b", by decide, fun same => b (.inl same), fun same => b (.inr same)⟩
  · exact ⟨"a", by decide, fun same => a (.inl same), fun same => a (.inr same)⟩

theorem stored_add {events : List StoredThreat} (retains : Retains s events)
    (maxBytes : s.maxBytes = 4096) (named : trimSpace id ≠ "")
    (fresh : ∀ other ∈ events, other.event.eventID ≠ id) :
    ∃ call event kept after, @exec evenEncoding s call = after ∧ Spares s 1024 events kept ∧
      Retains after (kept ++ [⟨event, 1024⟩]) ∧ event.sequence = s.next + 1 ∧ after.capacity = s.capacity ∧
      after.maxBytes = 4096 ∧ after.next = s.next + 1 := by
  let := evenEncoding
  have added := retains.added { eventID := id, correlationState := .uncorrelated } 7
  have fits : ¬s.maxBytes < (1024 : Nat) := by
    rw [maxBytes]
    decide
  refine ⟨.add { eventID := id, correlationState := .uncorrelated } 7, ?_⟩
  simp only [exec]
  generalize s.add { eventID := id, correlationState := .uncorrelated } 7 = result at added ⊢
  cases added with
  | refused failure bad =>
    rcases bad with blank | large
    · exact absurd blank named
    · exact absurd large fits
  | known member same => exact absurd same (fresh _ member)
  | wasted outgrows => exact absurd outgrows.2.2.2 fits
  | stored evicts spares unknown left =>
    exact ⟨_, _, _, rfl, spares, left, rfl, evicts.capacity, evicts.maxBytes.trans maxBytes, evicts.next⟩

theorem holdsLast_add {number : Nat} (holds : HoldsLast s number) :
    ∃ call, HoldsLast (@exec evenEncoding s call) (number + 1) := by
  obtain ⟨older, newer, retains, capacity, maxBytes, size, -, sequence, next⟩ := holds
  obtain ⟨id, named, first, second⟩ := exists_fresh_id older.event.eventID newer.event.eventID
  obtain ⟨call, event, kept, after, result, spares, left, numbered, sameCapacity, sameBytes, again⟩ :=
    stored_add retains maxBytes named (by simpa using ⟨first.symm, second.symm⟩)
  -- one of the two goes, and the newer one still fits beside the event
  obtain rfl : kept = [newer] := by
    have room := spares.room
    rw [capacity] at room
    rcases List.suffix_cons_iff.mp spares.suffix with rfl | shorter
    · simp at room
    rcases List.suffix_cons_iff.mp shorter with rfl | none
    · rfl
    · obtain rfl := List.suffix_nil.mp none
      have needed := spares.needed newer (List.suffix_cons _ _)
      rw [capacity, maxBytes, totalBytes_cons, size] at needed
      simp at needed
  refine ⟨call, result ▸ ⟨newer, ⟨event, 1024⟩, left, sameCapacity.trans capacity, sameBytes, rfl,
    sequence, ?_, ?_⟩⟩
  · rw [numbered, next]
    exact (UInt64.ofNat_add (number + 1) 1).symm
  · rw [again, next]
    exact (UInt64.ofNat_add (number + 1) 1).symm

theorem holdsLast_two (retains : Retains s []) (capacity : s.capacity = 2)
    (maxBytes : s.maxBytes = 4096) (next : s.next = 0) :
    ∃ first second, HoldsLast ([first, second].foldl (@exec evenEncoding) s) 1 := by
  obtain ⟨call, event, kept, after, result, spares, left, one, sameCapacity, sameBytes, numbered⟩ :=
    stored_add retains maxBytes (show trimSpace "a" ≠ "" by decide) (by simp)
  obtain rfl := List.suffix_nil.mp spares.suffix
  obtain ⟨id, named, fresh, -⟩ := exists_fresh_id event.eventID ""
  obtain ⟨more, second, kept, last, ends, spares, left, two, capacities, bytes, again⟩ :=
    stored_add left sameBytes named (by simpa using fresh.symm)
  obtain rfl : kept = [⟨event, 1024⟩] := by
    rcases List.suffix_cons_iff.mp spares.suffix with rfl | shorter
    · rfl
    · obtain rfl := List.suffix_nil.mp shorter
      have needed := spares.needed _ List.suffix_rfl
      rw [sameCapacity, capacity, sameBytes, totalBytes_cons] at needed
      simp at needed
  refine ⟨call, more, ?_⟩
  rw [List.foldl_cons, List.foldl_cons, List.foldl_nil, result, ends]
  rw [next] at one numbered
  rw [numbered] at two again
  exact ⟨_, _, left, capacities.trans (sameCapacity.trans capacity), bytes, rfl, one, two, again⟩

/-- After enough events the newer one of the two has the smaller sequence. -/
theorem sequences_wrap : ∃ calls : List SecurityCall,
    ¬RingInvariant (calls.foldl (@exec evenEncoding) (newSecurityEventStore 2 4096 "stream")) := by
  have reached : ∀ number, ∃ calls : List SecurityCall, HoldsLast
      (calls.foldl (@exec evenEncoding) (newSecurityEventStore 2 4096 "stream")) (number + 1) := by
    intro number
    induction number with
    | zero =>
      obtain ⟨first, second, holds⟩ := holdsLast_two (retains_new 2 4096 "stream") rfl rfl rfl
      exact ⟨[first, second], holds⟩
    | succ number ih =>
      obtain ⟨calls, holds⟩ := ih
      obtain ⟨call, further⟩ := holdsLast_add holds
      refine ⟨calls ++ [call], ?_⟩
      rw [List.foldl_append]
      exact further
  obtain ⟨calls, older, newer, retains, -, -, -, old, new, -⟩ := reached (2 ^ 64 - 2)
  refine ⟨calls, fun invariant => ?_⟩
  have ordered := invariant.ordered
  rw [retains.snapshot] at ordered
  have less : older.event.sequence < newer.event.sequence :=
    List.rel_of_pairwise_cons ordered (List.mem_singleton.mpr rfl)
  rw [old, new] at less
  exact absurd less (by decide)

/-! ## Rejected events -/

section
variable [EventEncoding]

def Rejects (s : SecurityEventStore) : SecurityCall → Prop
  | .add event clock => ∃ failure, (s.add event clock).2 = .error failure
  | .updateCorrelation id sessionID policyID generation state reason =>
    ∃ failure, (s.updateCorrelation id sessionID policyID generation state reason).2 = .error failure
  | .query _ => False

def OutgrowsBudget (s : SecurityEventStore) : SecurityCall → Prop
  | .add event clock => Outgrows s event clock
  | _ => False

def Unchanged (before after : SecurityEventStore) : Prop :=
  after.snapshot = before.snapshot ∧ after.next = before.next

theorem rejected_add_iff (retains : Retains s events) (event : ThreatEvent) (clock : Time) :
    (Rejects s (.add event clock) → Unchanged s (s.exec (.add event clock))) ↔ ¬Outgrows s event clock := by
  have added := retains.added event clock
  simp only [Rejects, exec]
  generalize s.add event clock = result at added ⊢
  cases added with
  | refused failure bad =>
    refine iff_of_true (fun _ => ⟨rfl, rfl⟩) fun outgrows => ?_
    rcases bad with blank | large
    · exact outgrows.1 blank
    · exact not_lt.mpr outgrows.2.1 large
  | known member named =>
    refine iff_of_true (fun _ => ⟨rfl, rfl⟩) fun outgrows => ?_
    exact retains.find_none outgrows.2.2.1 _ member named
  | wasted outgrows evicts suffix left =>
    refine iff_of_false (fun unchanged => ?_) (not_not_intro outgrows)
    have next := (unchanged ⟨_, rfl⟩).2
    rw [evicts.next] at next
    simp at next
  | stored evicts spares unknown left =>
    refine iff_of_true (fun rejects => ?_) fun outgrows => ?_
    · obtain ⟨failure, fails⟩ := rejects
      cases fails
    · -- the event is stored, so it is within the budget
      have budget := left.budget
      rw [totalBytes_append, totalBytes_cons, evicts.maxBytes] at budget
      have exceeds := outgrows.2.2.2
      dsimp only at budget
      omega

theorem rejected_event_costs_nothing_iff (capacity maxBytes : Int) (streamID : String) (calls : List SecurityCall)
    (call : SecurityCall) :
    (Rejects (calls.foldl exec (newSecurityEventStore capacity maxBytes streamID)) call →
      Unchanged (calls.foldl exec (newSecurityEventStore capacity maxBytes streamID))
        ((calls.foldl exec (newSecurityEventStore capacity maxBytes streamID)).exec call)) ↔
      ¬OutgrowsBudget (calls.foldl exec (newSecurityEventStore capacity maxBytes streamID)) call := by
  obtain ⟨events, retains⟩ := retains_run capacity maxBytes streamID calls
  generalize calls.foldl exec (newSecurityEventStore capacity maxBytes streamID) = s at retains ⊢
  cases call with
  | add event clock => exact rejected_add_iff retains event clock
  | updateCorrelation id sessionID policyID generation state reason =>
    refine iff_of_true (fun rejects => ?_) not_false
    have updated := retains.updated id sessionID policyID generation state reason
    simp only [Rejects] at rejects
    simp only [exec]
    generalize s.updateCorrelation id sessionID policyID generation state reason = result at updated rejects ⊢
    obtain ⟨failure, fails⟩ := rejects
    cases updated with
    | refused => exact ⟨rfl, rfl⟩
    | same => cases fails
    | put => cases fails
  | query => exact iff_of_true (fun rejects => rejects.elim) not_false

end

abbrev digitsEncoding : EventEncoding :=
  ⟨fun event => 600 + (Nat.toDigits 10 event.sequence.toNat).length⟩

def nineAdded : SecurityEventStore :=
  (["a", "b", "a", "b", "a", "b", "a", "b", "a"].map fun id =>
    SecurityCall.add { eventID := id, correlationState := .uncorrelated } 7).foldl
      (@exec digitsEncoding) (newSecurityEventStore 4 601 "stream")

theorem rejected_event_evicts :
    ¬(@Rejects digitsEncoding nineAdded (.add { eventID := "b", correlationState := .uncorrelated } 7) →
      Unchanged nineAdded (@exec digitsEncoding nineAdded
        (.add { eventID := "b", correlationState := .uncorrelated } 7))) := by
  intro unchanged
  have kept := (unchanged ⟨.tooLarge, by decide +kernel⟩).1
  exact absurd kept (by decide +kernel)

end

end Ngfw.Engine

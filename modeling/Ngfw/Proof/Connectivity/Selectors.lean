import Ngfw.Lib.CaseMap
import Ngfw.Lib.NetipText
import Ngfw.Proof.Connectivity.Program
import Ngfw.Proof.Domain.Service

/-! # What the selectors of a policy mean -/

namespace Ngfw.Connectivity
open Lib Lib.Text Lib.Netip Domain Config

section
variable {Value : Type} {a b : List Value}

theorem isEmpty_congr (same : ∀ value, value ∈ a ↔ value ∈ b) : a.isEmpty = b.isEmpty := by
  rw [Bool.eq_iff_iff, List.isEmpty_iff, List.isEmpty_iff, List.eq_nil_iff_forall_not_mem,
    List.eq_nil_iff_forall_not_mem]
  exact forall_congr' fun value => not_congr (same value)

theorem any_congr (same : ∀ value, value ∈ a ↔ value ∈ b) (p : Value → Bool) : a.any p = b.any p := by
  rw [Bool.eq_iff_iff, List.any_eq_true, List.any_eq_true]
  exact exists_congr fun value => and_congr_left fun _ => same value

end

structure SameMembers (a b : Rule) : Prop where
  sourceZones : ∀ zone, zone ∈ a.sourceZones ↔ zone ∈ b.sourceZones
  destinationZones : ∀ zone, zone ∈ a.destinationZones ↔ zone ∈ b.destinationZones
  sourceAddresses : ∀ pfx, pfx ∈ a.sourceAddresses ↔ pfx ∈ b.sourceAddresses
  destinationAddresses : ∀ pfx, pfx ∈ a.destinationAddresses ↔ pfx ∈ b.destinationAddresses
  services : ∀ service, service ∈ a.services ↔ service ∈ b.services

variable {p : Prefix}

theorem SameMembers.ruleMatches_eq [CaseMap] {a b : Rule} (same : SameMembers a b) (view : View) :
    ruleMatches a view = ruleMatches b view := by
  unfold ruleMatches zoneMatch addressMatch
  rw [isEmpty_congr same.sourceZones, isEmpty_congr same.destinationZones, isEmpty_congr same.sourceAddresses,
    isEmpty_congr same.destinationAddresses, isEmpty_congr same.services, any_congr same.sourceAddresses,
    any_congr same.destinationAddresses, any_congr same.services, List.contains_eq_mem, List.contains_eq_mem,
    List.contains_eq_mem, List.contains_eq_mem]
  simp only [same.sourceZones, same.destinationZones]

theorem mem_stringSet [CaseMap] {zones : List String} {key : String} :
    key ∈ stringSet zones ↔ key ∈ canonicalStrings zones :=
  mem_uniqueSorted.symm

/-! ## Addresses -/

theorem keepBits_keepBits {w : Nat} (bits : Nat) (value : BitVec w) :
    Prefix.keepBits bits (Prefix.keepBits bits value) = Prefix.keepBits bits value := by
  have same := Prefix.sameBits_keepBits bits value value
  simp only [Prefix.sameBits, beq_self_eq_true, beq_iff_eq] at same
  rw [Prefix.keepBits, same, Prefix.keepBits]

theorem masked_masked (p : Prefix) : p.masked.masked = p.masked := by
  obtain ⟨addr, bits, fits⟩ := p
  cases addr <;> simp [Prefix.masked, Prefix.maskAddr, keepBits_keepBits]

def Canonical (p : Prefix) : Prop :=
  p.addr.plain = true ∧ p.masked = p

theorem plain_maskAddr {addr : Addr} (plain : addr.plain) (bits : Nat) :
    (Prefix.maskAddr bits addr).plain = true := by
  cases addr with
  | zero => cases plain
  | v4 value => rfl
  | v6 value zone => exact plain

theorem canonical_masked (plain : p.addr.plain) : Canonical p.masked :=
  ⟨plain_maskAddr plain _, masked_masked p⟩

theorem canonical_single {addr : Addr} (nonzero : addr ≠ .zero) : Canonical (.single addr) := by
  have whole : ∀ {w : Nat} (value : BitVec w), Prefix.keepBits w value = value := by
    intro w value
    simp [Prefix.keepBits]
  cases addr with
  | zero => exact absurd rfl nonzero
  | v4 bits => exact ⟨rfl, by simp [Prefix.single, Addr.withoutZone, Prefix.masked, Prefix.maskAddr,
      Addr.bitLen, whole]⟩
  | v6 bits zone =>
    exact ⟨rfl, by simp [Prefix.single, Addr.withoutZone, Prefix.masked, Prefix.maskAddr, Addr.bitLen, whole]⟩

theorem Canonical.string_injective {q : Prefix} (canonical : Canonical p) (canonicalToo : Canonical q)
    (same : p.string = q.string) : p = q := by
  have read := parsePrefix_string canonical.1
  rw [same, parsePrefix_string canonicalToo.1] at read
  exact (Option.some.inj read).symm

theorem selectorPrefix_eq (raw : String) : selectorPrefix raw = parseAddressPrefix (trimSpace raw) := by
  unfold selectorPrefix parseAddressPrefix trimSpace
  dsimp only
  rw [String.toList_ofList]
  cases read : parsePrefix (trimList raw.toList) with
  | none => cases parseAddr (trimList raw.toList) <;> rfl
  | some p => simp [parseAddr_of_parseCIDR (parseCIDR_of_parsePrefix read)]

theorem canonicalAddress_eq (raw : String) :
    canonicalAddress raw = ((parseAddressPrefix (trimSpace raw)).map Prefix.string).getD (trimSpace raw) := by
  rw [← selectorPrefix_eq]
  unfold canonicalAddress selectorPrefix trimSpace
  dsimp only
  rw [String.toList_ofList]
  cases parsePrefix (trimList raw.toList) with
  | none => cases parseAddr (trimList raw.toList) <;> rfl
  | some p => rfl

theorem canonical_of_read {text : String} (read : parseAddressPrefix text = some p) : Canonical p := by
  unfold parseAddressPrefix at read
  split at read
  · rename_i addr parsed
    cases read
    exact canonical_single fun zero => parseAddr_ne_zero (zero ▸ parsed)
  · obtain ⟨q, parsed, rfl⟩ := Option.map_eq_some_iff.mp read
    obtain ⟨_, _, _, _, plain, _⟩ := parsePrefix_iff.mp parsed
    exact canonical_masked plain

theorem string_nonempty : p.string ≠ "" := by
  intro empty
  have chars := congrArg String.toList empty
  simp [Prefix.string] at chars

theorem Canonical.read_string (canonical : Canonical p) :
    trimSpace p.string = p.string ∧ parseAddressPrefix p.string = some p := by
  have read := parsePrefix_string canonical.1
  constructor
  · rw [trimSpace, trimList_of_parseCIDR (parseCIDR_of_parsePrefix read), String.ofList_toList]
  · rw [parseAddressPrefix, parseAddr_of_parseCIDR (parseCIDR_of_parsePrefix read), read]
    exact congrArg some canonical.2

theorem mem_prefixes {values : List String} {pfxs : List Prefix} (read : prefixes values = some pfxs) :
    p ∈ pfxs ↔ Canonical p ∧ p.string ∈ canonicalAddresses values := by
  have members := mapM_some.mp read
  constructor
  · intro member
    obtain ⟨text, listed, parsed⟩ := forall₂_mem_right members member
    obtain ⟨trimmed, named⟩ := List.mem_filter.mp listed
    obtain ⟨raw, inside, rfl⟩ := List.mem_map.mp trimmed
    refine ⟨canonical_of_read parsed, ?_⟩
    rw [canonicalAddresses, mem_uniqueSorted, List.mem_filter, List.mem_map]
    refine ⟨⟨raw, inside, ?_⟩, by simpa using string_nonempty⟩
    rw [canonicalAddress_eq, parsed]
    rfl
  · rintro ⟨canonical, listed⟩
    rw [canonicalAddresses, mem_uniqueSorted, List.mem_filter, List.mem_map] at listed
    obtain ⟨⟨raw, inside, text⟩, -⟩ := listed
    have named : trimSpace raw ≠ "" := by
      intro blank
      rw [canonicalAddress_eq, blank] at text
      exact string_nonempty text.symm
    have kept : trimSpace raw ∈ (values.map trimSpace).filter (· ≠ "") :=
      List.mem_filter.mpr ⟨List.mem_map_of_mem inside, by simpa using named⟩
    obtain ⟨q, member, parsed⟩ := forall₂_mem_left members kept
    rw [canonicalAddress_eq, parsed] at text
    rwa [← (canonical_of_read parsed).string_injective canonical text]

/-! ## Services -/

section
variable [CaseMap] {values texts : List String}

theorem canonical_injective {a b : ServiceSelector} (formed : a.WellFormed) (formedToo : b.WellFormed)
    (same : a.canonical = b.canonical) : a = b := by
  have read := parseServiceSelector_canonical formed
  rw [same, parseServiceSelector_canonical formedToo] at read
  exact (Except.ok.inj read).symm

theorem parseServiceSelector_blank {raw : String} (blank : trimSpace raw = "") (selector : ServiceSelector) :
    parseServiceSelector raw ≠ .ok selector := by
  have empty : trimList raw.toList = [] := by simpa [trimSpace] using blank
  intro read
  unfold parseServiceSelector at read
  dsimp only at read
  rw [empty] at read
  simp [splitOn, trimList, ServiceProtocol.ofName, toLower] at read

theorem parseServices_iff {selectors : List ServiceSelector} :
    parseServices values = .ok selectors ↔ Yields parseServiceSelector values selectors := by
  induction values generalizing selectors with
  | nil =>
    rw [Yields, List.forall₂_nil_left_iff]
    exact ⟨fun read => (Except.ok.inj read).symm, fun empty => congrArg _ empty.symm⟩
  | cons raw values ih =>
    rw [Yields, List.forall₂_cons_left_iff]
    unfold parseServices
    split_ifs with blank
    · refine iff_of_false (by simp) ?_
      rintro ⟨selector, rest, read, -⟩
      exact parseServiceSelector_blank blank selector read
    · cases read : parseServiceSelector raw with
      | error failure => simp
      | ok selector =>
        dsimp only
        rw [map_ok]
        constructor
        · rintro ⟨rest, others, rfl⟩
          exact ⟨selector, rest, rfl, ih.mp others, rfl⟩
        · rintro ⟨_, rest, same, others, rfl⟩
          cases same
          exact ⟨rest, ih.mpr others, rfl⟩

theorem canonicalServiceList_iff : canonicalServiceList values = .ok texts ↔
    ∃ selectors, Yields parseServiceSelector values selectors ∧
      texts = (selectors.dedup.insertionSort fun a b => serviceBefore a b).map ServiceSelector.canonical := by
  rw [canonicalServiceList, map_ok]
  simp only [parseServices_iff]
  exact exists_congr fun selectors => and_congr_right fun _ => eq_comm

theorem mem_services {services : List Service} (read : Yields parseService values services)
    (canonical : canonicalServiceList values = .ok texts) {service : Service} :
    service ∈ services ↔ ∃ selector : ServiceSelector, selector.WellFormed ∧ selector.canonical ∈ texts ∧
      service = ⟨selector.protocol.number, selector.ports⟩ := by
  obtain ⟨selectors, parsed, rfl⟩ := canonicalServiceList_iff.mp canonical
  constructor
  · intro member
    obtain ⟨raw, listed, own⟩ := forall₂_mem_right read member
    obtain ⟨selector, selected, rfl⟩ := map_ok.mp own
    obtain ⟨other, inside, same⟩ := forall₂_mem_left parsed listed
    rw [selected] at same
    cases same
    refine ⟨selector, parseServiceSelector_wellFormed selected, List.mem_map_of_mem ?_, rfl⟩
    rwa [List.mem_insertionSort, List.mem_dedup]
  · rintro ⟨selector, formed, listed, rfl⟩
    obtain ⟨other, inside, text⟩ := List.mem_map.mp listed
    rw [List.mem_insertionSort, List.mem_dedup] at inside
    obtain ⟨raw, member, selected⟩ := forall₂_mem_right parsed inside
    obtain rfl := canonical_injective (parseServiceSelector_wellFormed selected) formed text
    obtain ⟨service, own, readToo⟩ := forall₂_mem_left read member
    rw [parseService, selected] at readToo
    cases readToo
    exact own

theorem canonicalServiceList_of_read {services : List Service} (read : Yields parseService values services) :
    ∃ texts, canonicalServiceList values = .ok texts := by
  obtain ⟨selectors, parsed⟩ : ∃ selectors,
      Yields parseServiceSelector values selectors := by
    refine forall₂_of_exists fun raw member => ?_
    obtain ⟨service, -, own⟩ := forall₂_mem_left read member
    obtain ⟨selector, selected, -⟩ := map_ok.mp own
    exact ⟨selector, selected⟩
  exact ⟨_, canonicalServiceList_iff.mpr ⟨selectors, parsed, rfl⟩⟩

structure SameSelectors (p q : SecurityPolicy) : Prop where
  sourceZones : canonicalStrings p.sourceZones = canonicalStrings q.sourceZones
  destinationZones : canonicalStrings p.destinationZones = canonicalStrings q.destinationZones
  sourceAddresses : canonicalAddresses p.sourceAddresses = canonicalAddresses q.sourceAddresses
  destinationAddresses : canonicalAddresses p.destinationAddresses = canonicalAddresses q.destinationAddresses
  services : canonicalServiceList p.services = canonicalServiceList q.services

theorem SameSelectors.sameMembers {p q : SecurityPolicy} (same : SameSelectors p q) {a b : Rule}
    (compiled : compileRule p = .ok a) (compiledToo : compileRule q = .ok b) : SameMembers a b := by
  obtain ⟨_, sources, destinations, services, sourceZones, destinationZones, _⟩ := compileRule_spec compiled
  obtain ⟨_, sources', destinations', services', sourceZones', destinationZones', _⟩ := compileRule_spec compiledToo
  obtain ⟨texts, canonical⟩ := canonicalServiceList_of_read services
  have canonicalToo := same.services.symm.trans canonical
  constructor
  · intro zone
    rw [sourceZones, sourceZones', mem_stringSet, mem_stringSet, same.sourceZones]
  · intro zone
    rw [destinationZones, destinationZones', mem_stringSet, mem_stringSet, same.destinationZones]
  · intro pfx
    rw [mem_prefixes sources, mem_prefixes sources', same.sourceAddresses]
  · intro pfx
    rw [mem_prefixes destinations, mem_prefixes destinations', same.destinationAddresses]
  · intro service
    rw [mem_services services canonical, mem_services services' canonicalToo]

end

end Ngfw.Connectivity

import Mathlib.Data.Prod.Lex
import Mathlib.Data.String.Basic
import Ngfw.Proof.Connectivity.RequestGate
import Ngfw.Proof.Connectivity.Selectors

/-! # The meaning of a list of services -/

namespace Ngfw.Connectivity
open Lib Lib.Text Domain Config

theorem serviceBefore_iff (a b : ServiceSelector) : serviceBefore a b = true ↔
    toLex (a.protocol.name, toLex ((a.ports.map PortRange.first).getD 0, (a.ports.map PortRange.last).getD 0)) ≤
      toLex (b.protocol.name, toLex ((b.ports.map PortRange.first).getD 0, (b.ports.map PortRange.last).getD 0)) := by
  rw [Prod.Lex.toLex_le_toLex, Prod.Lex.toLex_le_toLex]
  simp [serviceBefore]

instance : Std.Total fun a b : ServiceSelector => serviceBefore a b = true where
  total a b := by
    rw [serviceBefore_iff, serviceBefore_iff]
    exact le_total _ _

instance : IsTrans ServiceSelector fun a b => serviceBefore a b = true where
  trans a b d := by
    rw [serviceBefore_iff, serviceBefore_iff, serviceBefore_iff]
    exact le_trans

/-- A range starts at port 1 at the earliest, so the ports the order reads say whether there is one. -/
theorem serviceBefore_antisymm {a b : ServiceSelector} (before : serviceBefore a b) (after : serviceBefore b a) :
    a = b := by
  have same := le_antisymm ((serviceBefore_iff a b).mp before) ((serviceBefore_iff b a).mp after)
  simp only [EmbeddingLike.apply_eq_iff_eq, Prod.mk.injEq] at same
  obtain ⟨⟨protocol, ports⟩, ⟨protocol', ports'⟩⟩ := a, b
  obtain ⟨names, firsts, lasts⟩ := same
  have named : protocol = protocol' := by
    have read := ofName_name protocol
    rw [names, ofName_name] at read
    exact (Option.some.inj read).symm
  have ranges : ports = ports' := by
    cases ports with
    | none => cases ports' with
      | none => rfl
      | some range => exact absurd range.positive (by simp_all)
    | some range => cases ports' with
      | none => exact absurd range.positive (by simp_all)
      | some range' =>
        obtain ⟨first, last, _, _, _⟩ := range
        simp_all
  rw [named, ranges]

section
variable [CaseMap] {values texts : List String}

structure OneMeaning (values texts : List String) (selectors : List ServiceSelector) : Prop where
  printed : texts = selectors.map ServiceSelector.canonical
  distinct : texts.Nodup
  sorted : selectors.Pairwise fun a b => serviceBefore a b
  reparsed : ∀ selector ∈ selectors, parseServiceSelector selector.canonical = .ok selector
  members : ∀ selector, selector ∈ selectors ↔ ∃ raw ∈ values, parseServiceSelector raw = .ok selector

section
variable (canonical : canonicalServiceList values = .ok texts)
include canonical

theorem canonicalServiceList_meaning : ∃ selectors, OneMeaning values texts selectors := by
  obtain ⟨selectors, parsed, rfl⟩ := canonicalServiceList_iff.mp canonical
  have members : ∀ selector, selector ∈ selectors.dedup.insertionSort (fun a b => serviceBefore a b) ↔
      ∃ raw ∈ values, parseServiceSelector raw = .ok selector := by
    intro selector
    rw [List.mem_insertionSort, List.mem_dedup]
    constructor
    · exact forall₂_mem_right parsed
    · rintro ⟨raw, listed, read⟩
      obtain ⟨own, member, same⟩ := forall₂_mem_left parsed listed
      rwa [← Except.ok.inj (same.symm.trans read)]
  have formed : ∀ selector ∈ selectors.dedup.insertionSort (fun a b => serviceBefore a b), selector.WellFormed := by
    intro selector member
    obtain ⟨raw, -, read⟩ := (members selector).mp member
    exact parseServiceSelector_wellFormed read
  refine ⟨_, rfl, ?_, List.pairwise_insertionSort _ _,
    fun selector member => parseServiceSelector_canonical (formed selector member), members⟩
  exact ((List.perm_insertionSort _ _).nodup_iff.mpr (List.nodup_dedup _)).map_on
    fun a member b memberToo same => canonical_injective (formed a member) (formed b memberToo) same

theorem canonicalServiceList_fixed : canonicalServiceList texts = .ok texts := by
  obtain ⟨selectors, meaning⟩ := canonicalServiceList_meaning canonical
  refine canonicalServiceList_iff.mpr ⟨selectors, ?_, ?_⟩
  · rw [Yields, meaning.printed, List.forall₂_map_left_iff, List.forall₂_same]
    exact meaning.reparsed
  · have distinct := meaning.distinct
    rw [meaning.printed] at distinct ⊢
    rw [distinct.of_map.dedup, meaning.sorted.insertionSort_eq]

theorem canonicalServiceList_congr {others : List String}
    (same : ∀ raw, raw ∈ others ↔ raw ∈ values) : canonicalServiceList others = .ok texts := by
  obtain ⟨selectors, parsed, rfl⟩ := canonicalServiceList_iff.mp canonical
  obtain ⟨selectors', parsedToo⟩ : ∃ selectors', Yields parseServiceSelector
      others selectors' := by
    refine forall₂_of_exists fun raw member => ?_
    obtain ⟨selector, -, read⟩ := forall₂_mem_left parsed ((same raw).mp member)
    exact ⟨selector, read⟩
  have again := canonicalServiceList_iff.mpr ⟨selectors', parsedToo, rfl⟩
  obtain ⟨sorted, meaning⟩ := canonicalServiceList_meaning canonical
  obtain ⟨sorted', meaning'⟩ := canonicalServiceList_meaning again
  have perm : sorted'.Perm sorted := by
    refine (List.perm_ext_iff_of_nodup ?_ ?_).mpr fun selector => ?_
    · exact (meaning'.printed ▸ meaning'.distinct).of_map
    · exact (meaning.printed ▸ meaning.distinct).of_map
    · simp only [meaning'.members, meaning.members, same]
  have equal : sorted' = sorted :=
    perm.eq_of_pairwise (fun _ _ _ _ before after => serviceBefore_antisymm before after) meaning'.sorted meaning.sorted
  rw [again, meaning'.printed, meaning.printed, equal]

def Matched (values : List String) (protocol : UInt8) (port : UInt16) : Prop :=
  ∃ raw ∈ values, ∃ service, parseService raw = .ok service ∧ serviceMatch service protocol port

theorem matched_canonical (protocol : UInt8) (port : UInt16) :
    Matched texts protocol port ↔ Matched values protocol port := by
  obtain ⟨selectors, meaning⟩ := canonicalServiceList_meaning canonical
  constructor
  · rintro ⟨text, listed, service, read, matched⟩
    rw [meaning.printed] at listed
    obtain ⟨selector, member, rfl⟩ := List.mem_map.mp listed
    rw [parseService, meaning.reparsed selector member] at read
    obtain ⟨raw, inside, own⟩ := (meaning.members selector).mp member
    exact ⟨raw, inside, service, by rwa [parseService, own], matched⟩
  · rintro ⟨raw, listed, service, read, matched⟩
    obtain ⟨selector, own, -⟩ := map_ok.mp read
    have member := (meaning.members selector).mpr ⟨raw, listed, own⟩
    refine ⟨selector.canonical, meaning.printed ▸ List.mem_map_of_mem member, service, ?_, matched⟩
    rw [parseService, meaning.reparsed selector member]
    rwa [parseService, own] at read

end

theorem services_one_meaning (canonical : canonicalServiceList values = .ok texts) (rule : Rule) :
    (∃ selectors, OneMeaning values texts selectors) ∧
      (∀ others : List String, (∀ raw, raw ∈ others ↔ raw ∈ values) →
        canonicalServiceList others = .ok texts) ∧
      canonicalServiceList texts = .ok texts ∧
      (∀ protocol port, Matched texts protocol port ↔ Matched values protocol port) ∧
      Separated (requestGateTCPPorts rule) ∧
      ∀ value, WithinPorts (requestGateTCPPorts rule) value ↔ GatedPort rule value := by
  exact ⟨canonicalServiceList_meaning canonical, fun _ same => canonicalServiceList_congr canonical same,
    canonicalServiceList_fixed canonical, matched_canonical canonical, requestGateTCPPorts_spec rule⟩

end

attribute [local instance] asciiCaseMap

def adjacentRule : Rule :=
  ⟨"web", "", 10, [], [], [], [], ["tcp:443", "tcp:81-90", "tcp:80"].filterMap (parseService · |>.toOption),
    .allow, true⟩

theorem services_one_meaning_web :
    canonicalServiceList [" TCP:80 ", "icmp", "tcp:080"] = .ok ["icmp", "tcp:80"] ∧
      (∀ protocol port, Matched ["icmp", "tcp:80"] protocol port ↔
        Matched [" TCP:80 ", "icmp", "tcp:080"] protocol port) ∧
      (requestGateTCPPorts adjacentRule).map (fun range => (range.first, range.last)) = [(80, 90), (443, 443)] ∧
      ∀ value, WithinPorts (requestGateTCPPorts adjacentRule) value ↔ GatedPort adjacentRule value := by
  have canonical : canonicalServiceList [" TCP:80 ", "icmp", "tcp:080"] = .ok ["icmp", "tcp:80"] := by
    decide +kernel
  obtain ⟨-, -, -, matched, -, gated⟩ := services_one_meaning canonical adjacentRule
  exact ⟨canonical, matched, by decide +kernel, gated⟩

end Ngfw.Connectivity

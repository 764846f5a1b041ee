import Mathlib.Tactic.IntervalCases
import Ngfw.Dataplane.CompilerM2

/-! # Cache marks -/

namespace Ngfw.Dataplane
open Lib Lib.Nft Domain

variable {value : BitVec 32} {mark : CacheMark}

theorem getElem_ofNat_of_lt {value width : Nat} (small : value < 2 ^ width) (index : Nat) (inside : index < 32)
    (high : width ≤ index) : (BitVec.ofNat 32 value)[index] = false := by
  rw [← BitVec.getLsbD_eq_getElem, BitVec.getLsbD_ofNat,
    Nat.testBit_lt_two_pow (small.trans_le (Nat.pow_le_pow_right (by omega) high)), Bool.and_false]

theorem packed_mask (epoch source destination : BitVec 32) :
    (epoch <<< 20 ||| source <<< 14 ||| destination <<< 8) &&& ngfwMarkMask =
      epoch <<< 20 ||| source <<< 14 ||| destination <<< 8 := by
  apply BitVec.eq_of_getLsbD_eq
  intro index inside
  unfold ngfwMarkMask
  interval_cases index <;> simp

theorem packed_epoch {epoch source destination : Nat} (epochFits : epoch < 2 ^ 12) (sourceFits : source < 2 ^ 6)
    (destinationFits : destination < 2 ^ 6) :
    ((BitVec.ofNat 32 epoch <<< 20 ||| BitVec.ofNat 32 source <<< 14 ||| BitVec.ofNat 32 destination <<< 8) &&&
      0xfff00000#32) >>> 20 = BitVec.ofNat 32 epoch := by
  have epochBits := getElem_ofNat_of_lt epochFits
  have sourceBits := getElem_ofNat_of_lt sourceFits
  have destinationBits := getElem_ofNat_of_lt destinationFits
  apply BitVec.eq_of_getLsbD_eq
  intro index inside
  interval_cases index <;> simp [epochBits, sourceBits, destinationBits]

theorem packCacheMark_ok (packed : packCacheMark mark = .ok value) :
    mark.epoch.toNat < 2 ^ 12 ∧ mark.sourceZoneSlot.toNat < 2 ^ 6 ∧ mark.destinationZoneSlot.toNat < 2 ^ 6 ∧
      value = BitVec.ofNat 32 mark.epoch.toNat <<< 20 ||| BitVec.ofNat 32 mark.sourceZoneSlot.toNat <<< 14 |||
        BitVec.ofNat 32 mark.destinationZoneSlot.toNat <<< 8 := by
  unfold packCacheMark at packed
  split at packed
  · cases packed
  · split at packed
    · cases packed
    · rename_i epochRange slotRange
      simp only [not_or, UInt16.lt_iff_toNat_lt, UInt8.lt_iff_toNat_lt] at epochRange slotRange
      have epochHigh : ¬ 4095 < mark.epoch.toNat := epochRange.2
      have sourceHigh : ¬ 63 < mark.sourceZoneSlot.toNat := slotRange.2.1
      have destinationHigh : ¬ 63 < mark.destinationZoneSlot.toNat := slotRange.2.2.2
      exact ⟨by omega, by omega, by omega, (Except.ok.inj packed).symm⟩

theorem packCacheMark_mask (packed : packCacheMark mark = .ok value) : value &&& ngfwMarkMask = value := by
  obtain ⟨_, _, _, rfl⟩ := packCacheMark_ok packed
  exact packed_mask _ _ _

theorem unpackCacheMark_epoch {ctMark : BitVec 32} (packed : packCacheMark mark = .ok value)
    (masked : ctMark &&& ngfwMarkMask = value) : (unpackCacheMark ctMark).epoch = mark.epoch := by
  obtain ⟨epochFits, sourceFits, destinationFits, rfl⟩ := packCacheMark_ok packed
  have high : ctMark &&& 0xfff00000#32 = ctMark &&& ngfwMarkMask &&& 0xfff00000#32 := by
    rw [BitVec.and_assoc]
    rfl
  have bits := packed_epoch epochFits sourceFits destinationFits
  have small : mark.epoch.toNat < 2 ^ 32 := by omega
  simp only [unpackCacheMark]
  rw [high, masked, bits, BitVec.toNat_ofNat, Nat.mod_eq_of_lt small, UInt16.ofNat_toNat]

theorem recorded_mask (whole : value &&& ngfwMarkMask = value) (ctMark : BitVec 32) :
    (ctMark &&& 0x000000ff#32 ||| value) &&& ngfwMarkMask = value := by
  have low : ctMark &&& 0x000000ff#32 &&& ngfwMarkMask = 0#32 := by
    rw [BitVec.and_assoc]
    simp [ngfwMarkMask]
  apply BitVec.eq_of_getLsbD_eq
  intro index _
  have lowBit := congrArg (fun bits => bits.getLsbD index) low
  have wholeBit := congrArg (fun bits => bits.getLsbD index) whole
  simp only [BitVec.getLsbD_and, BitVec.getLsbD_or, BitVec.getLsbD_zero] at lowBit wholeBit ⊢
  rw [Bool.and_or_distrib_right, lowBit, wholeBit, Bool.false_or]

namespace M2CompileOptions
variable {options : M2CompileOptions}

def ZeroRule (options : M2CompileOptions) : Prop :=
  options.cacheInUse = true ∧ ∃ slot ∈ options.slots, 4095 < options.epoch ∨ 63 < slot

theorem packCacheMark_unfit {mark : CacheMark} (epoch : mark.epoch ≠ 0) (source : mark.sourceZoneSlot ≠ 0)
    (destination : mark.destinationZoneSlot ≠ 0) :
    (packCacheMark mark).toOption = none ↔
      4095 < mark.epoch ∨ 63 < mark.sourceZoneSlot ∨ 63 < mark.destinationZoneSlot := by
  unfold packCacheMark
  split_ifs with epochRange slotRange
  · have high := epochRange.resolve_left epoch
    simp [high, Except.toOption]
  · have high : 63 < mark.sourceZoneSlot ∨ 63 < mark.destinationZoneSlot := by
      simpa [source, destination] using slotRange
    simp [high, Except.toOption]
  · simp only [not_or] at epochRange slotRange
    simp [epochRange, slotRange, Except.toOption]

theorem mem_cacheValues {value : BitVec 32} :
    value ∈ options.cacheValues ↔ options.cacheInUse = true ∧
      ∃ source ∈ options.slots, ∃ destination ∈ options.slots,
        options.cacheValue source destination = value := by
  unfold cacheValues
  split_ifs with used <;> simp [used]

theorem slots_pos {slot : UInt8} (member : slot ∈ options.slots) : slot ≠ 0 := by
  rw [slots, List.mem_insertionSort, List.mem_filter] at member
  simpa [UInt8.pos_iff_ne_zero] using member.2

theorem epoch_pos (used : options.cacheInUse) : options.epoch ≠ 0 := by
  simp only [cacheInUse, decide_eq_true_eq] at used
  exact UInt16.pos_iff_ne_zero.mp used.2.1

theorem zeroRule_iff (used : options.cacheInUse) :
    options.ZeroRule ↔ ∃ source ∈ options.slots, ∃ destination ∈ options.slots,
      (packCacheMark ⟨options.epoch, source, destination⟩).toOption = none := by
  constructor
  · rintro ⟨_, slot, inside, unfit⟩
    refine ⟨slot, inside, slot, inside, ?_⟩
    rw [packCacheMark_unfit (epoch_pos used) (slots_pos inside) (slots_pos inside)]
    exact unfit.imp_right .inl
  · rintro ⟨source, inSource, destination, inDestination, unfit⟩
    rw [packCacheMark_unfit (epoch_pos used) (slots_pos inSource) (slots_pos inDestination)] at unfit
    refine ⟨used, ?_⟩
    rcases unfit with high | high | high
    · exact ⟨source, inSource, .inl high⟩
    · exact ⟨source, inSource, .inr high⟩
    · exact ⟨destination, inDestination, .inr high⟩

theorem stale_mem_cacheValues {ctMark : BitVec 32} (stale : (unpackCacheMark ctMark).epoch ≠ options.epoch) :
    ctMark &&& ngfwMarkMask ∈ options.cacheValues ↔ ctMark &&& ngfwMarkMask = 0 ∧ options.ZeroRule := by
  rw [mem_cacheValues]
  constructor
  · rintro ⟨used, source, inSource, destination, inDestination, covered⟩
    unfold cacheValue at covered
    cases packed : packCacheMark ⟨options.epoch, source, destination⟩ with
    | ok value =>
      rw [packed] at covered
      exact absurd (unpackCacheMark_epoch packed covered.symm) stale
    | error =>
      rw [packed] at covered
      have unfit := (zeroRule_iff used).mpr ⟨source, inSource, destination, inDestination, by rw [packed]; rfl⟩
      exact ⟨covered.symm, unfit⟩
  · rintro ⟨zero, rule⟩
    obtain ⟨source, inSource, destination, inDestination, unfit⟩ := (zeroRule_iff rule.1).mp rule
    refine ⟨rule.1, source, inSource, destination, inDestination, ?_⟩
    rw [cacheValue, unfit, zero]
    rfl

theorem policyMark_mem_cacheValues (used : options.cacheInUse) {policy : SecurityPolicy} {value : BitVec 32}
    (recorded : options.policyMark policy = some value) :
    value &&& ngfwMarkMask = value ∧ value ∈ options.cacheValues := by
  unfold policyMark at recorded
  split at recorded
  · cases recorded
  · split at recorded
    · split at recorded
      · rename_i source destination sourceFound destinationFound
        split at recorded
        · cases recorded
        · rename_i nonzero
          rw [not_or] at nonzero
          have inSlots : ∀ {zone slot}, options.zoneSlots.lookup zone = some slot → slot ≠ 0 →
              slot ∈ options.slots := by
            intro zone slot found positive
            rw [slots, List.mem_insertionSort, List.mem_filter]
            exact ⟨GoMap.mem_values.mpr ⟨zone, found⟩, by simpa [UInt8.pos_iff_ne_zero] using positive⟩
          cases packed : packCacheMark ⟨options.epoch, source, destination⟩ with
          | error => simp [packed, Except.toOption] at recorded
          | ok packedValue =>
            simp only [packed, Except.toOption, Option.some.injEq] at recorded
            subst recorded
            refine ⟨packCacheMark_mask packed, mem_cacheValues.mpr ⟨used, source, inSlots sourceFound nonzero.1,
              destination, inSlots destinationFound nonzero.2, ?_⟩⟩
            simp [cacheValue, packed, Except.toOption]
      · cases recorded
    · cases recorded

end M2CompileOptions

end Ngfw.Dataplane

import Ngfw.Lib.NetipText
import Ngfw.Proof.Dataplane.Agreement

/-! # What an address of a policy means -/

namespace Ngfw.Dataplane
open Lib Lib.Text Lib.Netip Lib.Nft Domain Config Connectivity

theorem ipv4Written_of_quad {value : String} {address length : List Char} {bits : BitVec 32}
    (shape : value.toList = address ++ '/' :: length) (read : parseAddr address = some (.v4 bits)) :
    ipv4Written value = true := by
  have quad := parseIPv4_of_parseAddr read
  rw [ipv4Written, shape, takeWhile_quad quad, quad]
  rfl

theorem not_ipv4Written {value : String} {bits : BitVec 128} {address : List Char}
    (first : value.toList.takeWhile (· ≠ '/') = address) (read : parseAddr address = some (.v6 bits "")) :
    ¬ ipv4Written value = true := by
  intro written
  obtain ⟨quad, parsed⟩ := Option.isSome_iff_exists.mp written
  rw [first] at parsed
  rw [parseAddr_of_parseIPv4 parsed] at read
  cases read

/-! ## Both readings of an accepted address -/

def OneMeaning (value : String) : Prop :=
  ∃ selector pfx, canonicalIPv4 value = .ok selector ∧ prefixes [value] = some [pfx] ∧
    ∀ bits : BitVec 32, (Match.saddr [selector]).holds { saddr := .v4 bits } = addressMatch [pfx] (.v4 bits)

def wideMapped (value : String) : Bool :=
  (parseCIDR value.toList).any fun cidr => cidr.addr.is6 && cidr.bits < 96

def netipLength (value : String) : Prop :=
  '/' ∈ value.toList → plainLength (lengthText value.toList)

instance (value : String) : Decidable (netipLength value) :=
  inferInstanceAs (Decidable (_ → _))

section
variable {value : String}

theorem prefixes_single (trimmed : trimSpace value = value) (nonempty : value ≠ "") (pfx : Prefix) :
    prefixes [value] = some [pfx] ↔ parseAddressPrefix value = some pfx := by
  rw [prefixes, List.map_singleton, trimmed, List.filter_cons_of_pos (by simpa using nonempty), List.filter_nil]
  cases read : parseAddressPrefix value <;> simp [read]

theorem oneMeaning_iff {selector : Selector} (canonical : canonicalIPv4 value = .ok selector)
    (trimmed : trimSpace value = value) (nonempty : value ≠ "") :
    OneMeaning value ↔ ∃ pfx, parseAddressPrefix value = some pfx ∧
      ∀ bits : BitVec 32, selector.contains (.v4 bits) = pfx.contains (.v4 bits) := by
  constructor
  · rintro ⟨other, pfx, sameCanonical, read, same⟩
    rw [canonical] at sameCanonical
    cases sameCanonical
    refine ⟨pfx, (prefixes_single trimmed nonempty pfx).mp read, fun bits => ?_⟩
    simpa [Match.holds, addressMatch] using same bits
  · rintro ⟨pfx, read, same⟩
    refine ⟨selector, pfx, canonical, (prefixes_single trimmed nonempty pfx).mpr read, fun bits => ?_⟩
    simpa [Match.holds, addressMatch] using same bits

theorem oneMeaning_host (slash : '/' ∉ value.toList) (accepted : validateIPv4 value = none) :
    OneMeaning value ↔ ipv4Written value = true := by
  have whole := takeWhile_ne_self slash
  have noSlash : contains '/' value = false := by simpa [contains] using slash
  unfold validateIPv4 at accepted
  cases target : (parseIP value.toList).bind to4 with
  | none => simp [target] at accepted
  | some four =>
    have canonical : canonicalIPv4 value = .ok (.host four) := by
      simp [canonicalIPv4, noSlash, target]
    obtain ⟨addr, read, mapped⟩ := Option.bind_eq_some_iff.mp target
    obtain ⟨read, plain⟩ := Option.filter_eq_some_iff.mp read
    rw [decide_eq_true_eq] at plain
    have chars := parseAddr_chars read (noZone_of_parseAddr read plain)
    have trimmed := trimSpace_of_all fun c member => isSpace_of_addressChar (chars c member)
    have nonempty : value ≠ "" := by
      rintro rfl
      cases read
    rw [oneMeaning_iff canonical trimmed nonempty, parseAddressPrefix, read]
    rcases to4_cases ((withoutZone_iff_plain read).mp plain) (by rw [mapped]; rfl) with
      ⟨bits, rfl⟩ | ⟨bits, rfl, mark⟩
    · have written : ipv4Written value := by
        rw [ipv4Written, whole, parseIPv4_of_parseAddr read]
        rfl
      cases mapped
      refine iff_of_true ⟨_, rfl, fun other => ?_⟩ written
      simp [Selector.contains, Prefix.contains, Prefix.single, Addr.withoutZone, Addr.bitLen, Prefix.sameBits]
    · rw [to4_mapped mark] at mapped
      cases mapped
      refine iff_of_false ?_ (not_ipv4Written whole read)
      rintro ⟨pfx, same, meaning⟩
      cases same
      have own := meaning (bits.setWidth 32)
      simp [Selector.contains, Prefix.contains, Prefix.single, Addr.withoutZone] at own

theorem oneMeaning_network (slash : '/' ∈ value.toList) (accepted : validateIPv4CIDR value = none) :
    OneMeaning value ↔ plainLength (lengthText value.toList) ∧
      (ipv4Written value = true ∨ wideMapped value = true) := by
  have withSlash : contains '/' value := by simpa [contains] using slash
  unfold validateIPv4CIDR at accepted
  cases target : (parseCIDR value.toList).bind fun cidr => to4 cidr.addr with
  | none => simp [target] at accepted
  | some four =>
    obtain ⟨cidr, read, mapped⟩ := Option.bind_eq_some_iff.mp target
    have canonical : canonicalIPv4 value = .ok (.network (ipNet cidr)) := by
      simp [canonicalIPv4, withSlash, read, mapped]
    obtain ⟨address, length, shape, addrRead, plain, bitsRead⟩ := parseCIDR_iff.mp read
    have noZone := withoutZone_of_plain plain
    have chars := parseAddr_chars addrRead (noZone_of_parseAddr addrRead noZone)
    have trimmed : trimSpace value = value := by
      refine trimSpace_of_all fun c member => ?_
      rw [shape, List.mem_append, List.mem_cons] at member
      rcases member with inAddress | rfl | inLength
      · exact isSpace_of_addressChar (chars c inAddress)
      · rfl
      · exact isSpace_of_digit (digits_all bitsRead c inLength)
    have nonempty : value ≠ "" := by
      rintro rfl
      cases slash
    have first : value.toList.takeWhile (· ≠ '/') = address := by
      rw [shape, takeWhile_ne_append (slash_notMem_address addrRead noZone)]
    -- The engine has a prefix exactly when netip takes the length.
    have engine : ∀ pfx, parseAddressPrefix value = some pfx ↔
        plainLength (lengthText value.toList) ∧ pfx = cidr.masked := by
      intro pfx
      rw [parseAddressPrefix, parseAddr_of_parseCIDR read, ← parsePrefix_of_parseCIDR read]
      constructor
      · intro parsed
        obtain ⟨own, ownRead, rfl⟩ := Option.map_eq_some_iff.mp parsed
        have same := (parseCIDR_of_parsePrefix ownRead).symm.trans read
        cases same
        exact ⟨ownRead, rfl⟩
      · rintro ⟨ownRead, rfl⟩
        rw [ownRead]
        rfl
    have meaning : OneMeaning value ↔ plainLength (lengthText value.toList) ∧
        ∀ bits : BitVec 32, (ipNet cidr).contains (.v4 bits) = cidr.masked.contains (.v4 bits) := by
      simp only [oneMeaning_iff canonical trimmed nonempty, engine, Selector.contains, and_assoc,
        exists_and_left, exists_eq_left]
    rw [meaning]
    refine and_congr_right fun _ => ?_
    rcases to4_cases plain (by rw [mapped]; rfl) with ⟨bits, quad⟩ | ⟨bits, notation6, mark⟩
    · rw [quad] at addrRead
      refine iff_of_true (fun other => ?_) (.inl (ipv4Written_of_quad shape addrRead))
      rw [ipNet_quad quad]
    · have outside : ∀ other, cidr.masked.contains (.v4 other) = false := by
        intro other
        simp [Prefix.contains, Prefix.masked, Prefix.maskAddr, notation6]
      have shown := ipNet_mapped notation6 mark
      rw [notation6] at addrRead
      have wide : wideMapped value = true ↔ cidr.bits < 96 := by
        simp [wideMapped, read, notation6, Addr.is6]
      rw [or_iff_right (not_ipv4Written first addrRead), wide]
      simp only [outside]
      split_ifs at shown with large
      · simp [shown, outside, large]
      · obtain ⟨net, fits, network⟩ := shown
        refine iff_of_false (fun same => ?_) large
        have own := same net
        rw [network, contains_self rfl] at own
        cases own

theorem address_has_one_meaning_iff (accepted : validateIPv4AddressOrCIDR value = none) :
    OneMeaning value ↔ netipLength value ∧ (ipv4Written value = true ∨ wideMapped value = true) := by
  unfold validateIPv4AddressOrCIDR at accepted
  by_cases slash : '/' ∈ value.toList
  · rw [if_pos (by simpa [contains] using slash)] at accepted
    rw [oneMeaning_network slash accepted, netipLength]
    simp [slash]
  · rw [if_neg (by simpa [contains] using slash)] at accepted
    have noNetwork : wideMapped value = false := by
      cases read : parseCIDR value.toList with
      | none => simp [wideMapped, read]
      | some cidr =>
        obtain ⟨address, length, shape, -⟩ := parseCIDR_iff.mp read
        exact absurd (by simp [shape]) slash
    rw [oneMeaning_host slash accepted, netipLength, noNetwork]
    simp [slash]

end

theorem address_has_one_meaning_ten : OneMeaning "10.0.0.0/8" := by
  exact (address_has_one_meaning_iff (by decide +kernel)).mpr ⟨by decide +kernel, .inl (by decide +kernel)⟩

theorem mapped_address_matched_by_ruleset_only :
    validateIPv4AddressOrCIDR "::ffff:10.0.0.1" = none ∧
      (canonicalIPv4 "::ffff:10.0.0.1").toOption.map (·.contains (.v4 0x0a000001#32)) = some true ∧
      (prefixes ["::ffff:10.0.0.1"]).map (addressMatch · (.v4 0x0a000001#32)) = some false ∧
      validateIPv4AddressOrCIDR "10.0.0.0/08" = none ∧ (canonicalIPv4 "10.0.0.0/08").toOption.isSome = true ∧
      prefixes ["10.0.0.0/08"] = none := by
  decide +kernel

end Ngfw.Dataplane

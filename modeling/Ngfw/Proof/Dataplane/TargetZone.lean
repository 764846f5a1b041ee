import Ngfw.Proof.Config.Validator
import Ngfw.Proof.Dataplane.AddressMeaning

/-! # The zone of a translated address -/

namespace Ngfw.Dataplane
open Lib Lib.Text Lib.Netip Domain Config Connectivity

/-! ## The longest prefix of the program -/

def Wins (zone : String) (entries : List (String × Nat)) : Prop :=
  ∃ longest ∈ entries, longest.1 = zone ∧ ∀ entry ∈ entries, entry.1 ≠ zone → entry.2 < longest.2

structure Best (entries : List (String × Nat)) (best : Program.BestZone) : Prop where
  none : entries = [] → best = {}
  longest : entries ≠ [] → ∃ entry ∈ entries, entry.1 = best.zone ∧ (entry.2 : Int) = best.bits
  bound : ∀ entry ∈ entries, (entry.2 : Int) ≤ best.bits
  ambiguous : best.ambiguous = true ↔ ∃ entry ∈ entries, (entry.2 : Int) = best.bits ∧ entry.1 ≠ best.zone

section
variable {entries : List (String × Nat)} {best : Program.BestZone}

theorem Best.add (held : Best entries best) (zone : String) (bits : Nat) :
    Best (entries ++ [(zone, bits)]) (best.add zone bits) := by
  have bound := held.bound
  unfold Program.BestZone.add
  split_ifs with longer tie
  · refine ⟨by simp, fun _ => ⟨(zone, bits), by simp, rfl, rfl⟩, ?_, ?_⟩
    · grind
    · grind
  · have visited : entries ≠ [] := by
      rintro empty
      rw [held.none empty] at tie
      simp at tie
    obtain ⟨entry, listed, named, counted⟩ := held.longest visited
    refine ⟨by simp, fun _ => ⟨entry, by simp [listed], named, counted⟩, ?_, ?_⟩
    · grind
    · simp only [true_iff]
      exact ⟨(zone, bits), by simp, tie⟩
  · have visited : entries ≠ [] := by
      rintro empty
      rw [held.none empty] at longer
      simp at longer
      omega
    obtain ⟨entry, listed, named, counted⟩ := held.longest visited
    refine ⟨by simp, fun _ => ⟨entry, by simp [listed], named, counted⟩, ?_, ?_⟩
    · grind
    · rw [held.ambiguous]
      constructor
      · rintro ⟨other, member, same, differs⟩
        exact ⟨other, List.mem_append_left _ member, same, differs⟩
      · rintro ⟨other, member, same, differs⟩
        rcases List.mem_append.mp member with earlier | last
        · exact ⟨other, earlier, same, differs⟩
        · rw [List.mem_singleton.mp last] at same differs
          exact absurd ⟨same, differs⟩ tie

theorem best_foldl (entries : List (String × Nat)) :
    Best entries (entries.foldl (fun best entry => best.add entry.1 entry.2) {}) := by
  induction entries using List.reverseRecOn with
  | nil => exact ⟨fun _ => rfl, by simp, by simp, by simp⟩
  | append_singleton entries entry ih =>
    rw [List.foldl_append, List.foldl_cons, List.foldl_nil]
    exact ih.add entry.1 entry.2

theorem Best.zone_iff (held : Best entries best) {zone : String} (named : zone ≠ "") :
    (if best.ambiguous ∨ best.bits < 0 then "" else best.zone) = zone ↔ Wins zone entries := by
  have bound := held.bound
  by_cases empty : entries = []
  · have start := held.none empty
    subst empty start
    simp [Wins, named.symm]
  · obtain ⟨entry, listed, own, counted⟩ := held.longest empty
    have some : ¬ best.bits < 0 := by omega
    simp only [some, or_false]
    constructor
    · intro settled
      split_ifs at settled with ambiguous
      · exact absurd settled.symm named
      · refine ⟨entry, listed, own.trans settled, fun other member differs => ?_⟩
        have le := bound other member
        have tie : (other.2 : Int) ≠ best.bits := by
          intro same
          exact ambiguous (held.ambiguous.mpr ⟨other, member, same, by rwa [settled]⟩)
        omega
    · rintro ⟨longest, member, inZone, shorter⟩
      have top : best.zone = zone := by
        by_contra differs
        have less := shorter entry listed (by rwa [own])
        have le := bound longest member
        omega
      have clear : ¬ best.ambiguous := by
        intro ambiguous
        obtain ⟨other, otherMember, same, differs⟩ := held.ambiguous.mp ambiguous
        have less := shorter other otherMember (by rwa [← top])
        have le := bound longest member
        omega
      rw [if_neg clear, top]

end

theorem inferAddressZone_iff {program : Program} {addr : Addr} (bits : BitVec 32) (four : addr = .v4 bits)
    (foreign : addr ∉ program.localAddresses) {order : List (String × Prefix)}
    (visited : order.Perm program.zonePrefixes) {zone : String} (named : zone ≠ "") :
    Program.inferAddressZone { program with zonePrefixes := order } addr = zone ↔
      if addr.isLoopback then zone = zoneLocal
      else ∃ own ∈ program.zonePrefixes, own.1 = zone ∧ own.2.contains addr = true ∧
        ∀ entry ∈ program.zonePrefixes, entry.1 ≠ zone → entry.2.contains addr = true →
          entry.2.bits < own.2.bits := by
  have nonzero : addr ≠ .zero := by simp [four]
  have entries := best_foldl (((order.filter fun entry => entry.2.contains addr)).map fun entry =>
    (entry.1, entry.2.bits))
  rw [List.foldl_map] at entries
  unfold Program.inferAddressZone
  dsimp only
  rw [if_neg nonzero]
  by_cases loopback : addr.isLoopback = true
  · rw [if_pos loopback, if_pos loopback]
    exact eq_comm
  · rw [if_neg loopback, if_neg loopback, if_neg (by simpa using foreign)]
    refine (entries.zone_iff named).trans ?_
    have listed : ∀ entry, entry ∈ order.filter (fun entry => entry.2.contains addr) ↔
        entry ∈ program.zonePrefixes ∧ entry.2.contains addr = true := by
      intro entry
      rw [List.mem_filter, visited.mem_iff]
    constructor
    · rintro ⟨_, member, inZone, shorter⟩
      obtain ⟨own, kept, rfl⟩ := List.mem_map.mp member
      obtain ⟨known, inside⟩ := (listed own).mp kept
      refine ⟨own, known, inZone, inside, fun entry other differs contains => ?_⟩
      exact shorter _ (List.mem_map.mpr ⟨entry, (listed entry).mpr ⟨other, contains⟩, rfl⟩) differs
    · rintro ⟨own, known, inZone, inside, shorter⟩
      refine ⟨_, List.mem_map.mpr ⟨own, (listed own).mpr ⟨known, inside⟩, rfl⟩, inZone, ?_⟩
      intro _ member differs
      obtain ⟨entry, kept, rfl⟩ := List.mem_map.mp member
      obtain ⟨other, contains⟩ := (listed entry).mp kept
      exact shorter entry other differs contains

/-! ## The networks of a zone -/

def Attached (c : Config) (addr : Addr) (zone : String) (bits : Nat) : Prop :=
  (∃ iface ∈ c.interfaces, iface.zoneID = zone ∧
    ∃ raw ∈ iface.ipv4Addresses, ∃ p, parsePrefix raw.toList = some p ∧
    p.contains addr = true ∧ p.bits = bits) ∨
  ∃ route ∈ c.routes, route.enabled = true ∧
    (∃ iface, interfaceByID c route.interfaceID = some iface ∧ iface.zoneID = zone) ∧
    ∃ p, parsePrefix route.destinationCIDR.toList = some p ∧ p.contains addr = true ∧ p.bits = bits

theorem mem_zonePrefixesOf {c : Config} {zone : String} {pfx : Prefix} :
    (zone, pfx) ∈ zonePrefixesOf c ↔
      (∃ iface ∈ c.interfaces, trimSpace iface.zoneID ≠ "" ∧ iface.zoneID = zone ∧
        ∃ raw ∈ iface.ipv4Addresses ++ iface.ipv6Addresses, parseInterfacePrefix raw = some pfx) ∨
      ∃ route ∈ c.routes, route.enabled = true ∧ (∃ iface, interfaceByID c route.interfaceID = some iface ∧
        trimSpace iface.zoneID ≠ "" ∧ iface.zoneID = zone) ∧
        ∃ p, parsePrefix (trimList route.destinationCIDR.toList) = some p ∧ p.masked = pfx := by
  unfold zonePrefixesOf
  dsimp only
  rw [List.mem_append, List.mem_flatMap, List.mem_flatMap]
  refine or_congr (exists_congr fun iface => and_congr_right fun _ => ?_)
    (exists_congr fun route => and_congr_right fun _ => ?_)
  · by_cases blank : trimSpace iface.zoneID = ""
    · simp [blank]
    · rw [if_neg blank, List.mem_filterMap]
      simp only [interfaceAddresses, List.mem_filter, Option.map_eq_some_iff, Prod.mk.injEq]
      constructor
      · rintro ⟨raw, ⟨listed, -⟩, read, parsed, named, rfl⟩
        exact ⟨blank, named, raw, listed, parsed⟩
      · rintro ⟨-, named, raw, listed, parsed⟩
        exact ⟨raw, ⟨listed, by rw [parsed]; rfl⟩, pfx, parsed, named, rfl⟩
  · cases found : interfaceByID c route.interfaceID with
    | none => simp
    | some iface =>
      by_cases skipped : (!route.enabled) = true ∨ trimSpace iface.zoneID = ""
      · simp only [if_pos skipped, List.not_mem_nil, false_iff]
        rintro ⟨enabled, ⟨other, same, named, -⟩, -⟩
        cases same
        rcases skipped with disabled | blank
        · simp [enabled] at disabled
        · exact named blank
      · rw [not_or] at skipped
        have enabled : route.enabled := by simpa using skipped.1
        cases parsed : parsePrefix (trimList route.destinationCIDR.toList) with
        | none => simp
        | some p =>
          simp only [enabled, Bool.not_true, Bool.false_eq_true, skipped.2, or_self, if_false, List.mem_singleton,
            Prod.mk.injEq]
          constructor
          · rintro ⟨rfl, rfl⟩
            exact ⟨trivial, ⟨iface, rfl, skipped.2, rfl⟩, p, rfl, rfl⟩
          · rintro ⟨-, ⟨_, same, -, rfl⟩, _, samePrefix, rfl⟩
            cases same
            cases samePrefix
            exact ⟨rfl, rfl⟩

theorem parseInterfacePrefix_eq {raw : String} {cidr : Prefix} (read : parseCIDR raw.toList = some cidr) :
    parseInterfacePrefix raw = (parsePrefix raw.toList).map Prefix.masked := by
  rw [parseInterfacePrefix, trimList_of_parseCIDR read, parseAddr_of_parseCIDR read]
  cases parsePrefix raw.toList <;> rfl

theorem validateAddressFamily_eq {raw : String} {ipv6 : Bool} (accepted : validateAddressFamily raw ipv6 = none) :
    ∃ cidr, parseCIDR raw.toList = some cidr ∧ ((to4 cidr.addr).isNone = ipv6) := by
  unfold validateAddressFamily at accepted
  split at accepted
  · cases accepted
  · rename_i cidr read
    split_ifs at accepted with family
    exact ⟨cidr, read, not_not.mp family⟩

theorem interfaceByID_listed {c : Config} {id : String} {iface : Interface} (found : interfaceByID c id = some iface) :
    iface ∈ c.interfaces :=
  List.mem_reverse.mp (List.mem_of_find?_eq_some found)

section
variable [CaseMap] {c : Config} {bits : BitVec 32}

theorem route_accepted (valid : validate c = []) {route : Route} (listed : route ∈ c.routes) :
    ∃ cidr, parseCIDR route.destinationCIDR.toList = some cidr := by
  simp only [validate, List.append_eq_nil_iff] at valid
  obtain ⟨earlier, accepted⟩ := accepted_of_withEarlier valid.1.1.1.1.1.1.1.1.2 listed
  simp only [routeErrors, List.append_eq_nil_iff, fieldError_eq_nil] at accepted
  obtain ⟨⟨⟨⟨⟨⟨-, network⟩, -⟩, -⟩, -⟩, -⟩, -⟩ := accepted
  unfold validateCIDR at network
  split_ifs at network with empty unread
  exact Option.ne_none_iff_exists'.mp (by simpa using unread)

theorem zone_named (valid : validate c = []) {iface : Interface} (listed : iface ∈ c.interfaces) :
    trimSpace iface.zoneID ≠ "" ↔ iface.zoneID ≠ "" := by
  constructor
  · intro named empty
    rw [empty] at named
    exact named rfl
  · intro zoned
    rwa [identifier_trimmed (zoneID_identifier valid listed zoned)]

theorem attached_iff (valid : validate c = []) {zone : String} {n : Nat} :
    (∃ pfx, (zone, pfx) ∈ zonePrefixesOf c ∧ pfx.contains (.v4 bits) = true ∧ pfx.bits = n) ↔
      zone ≠ "" ∧ Attached c (.v4 bits) zone n := by
  constructor
  · rintro ⟨pfx, listed, inside, counted⟩
    rcases mem_zonePrefixesOf.mp listed with
      ⟨iface, member, named, rfl, raw, written, parsed⟩ | ⟨route, member, enabled, ⟨iface, found, named, rfl⟩,
        p, parsed, rfl⟩
    · obtain ⟨-, four, six⟩ := interface_accepted valid member
      refine ⟨(zone_named valid member).mp named, .inl ⟨iface, member, rfl, raw, ?_⟩⟩
      rcases List.mem_append.mp written with isFour | isSix
      · obtain ⟨cidr, read, -⟩ := validateAddressFamily_eq (four raw isFour)
        rw [parseInterfacePrefix_eq read] at parsed
        obtain ⟨p, own, rfl⟩ := Option.map_eq_some_iff.mp parsed
        rw [Prefix.contains_masked] at inside
        exact ⟨isFour, p, own, inside, counted⟩
      · obtain ⟨cidr, read, family⟩ := validateAddressFamily_eq (six raw isSix)
        rw [parseInterfacePrefix_eq read] at parsed
        obtain ⟨p, own, rfl⟩ := Option.map_eq_some_iff.mp parsed
        cases (parseCIDR_of_parsePrefix own).symm.trans read
        rw [Prefix.contains_masked] at inside
        exfalso
        cases shape : cidr.addr with
        | zero | v6 => simp [Prefix.contains, shape] at inside
        | v4 value => simp [to4, Addr.unmap, shape] at family
    · obtain ⟨cidr, read⟩ := route_accepted valid member
      rw [trimList_of_parseCIDR read] at parsed
      rw [Prefix.contains_masked] at inside
      exact ⟨(zone_named valid (interfaceByID_listed found)).mp named,
        .inr ⟨route, member, enabled, ⟨iface, found, rfl⟩, p, parsed, inside, counted⟩⟩
  · rintro ⟨zoned, ⟨iface, member, rfl, raw, written, p, parsed, inside, counted⟩ |
      ⟨route, member, enabled, ⟨iface, found, rfl⟩, p, parsed, inside, counted⟩⟩
    · obtain ⟨cidr, read, -⟩ := validateAddressFamily_eq ((interface_accepted valid member).2.1 raw written)
      refine ⟨p.masked, mem_zonePrefixesOf.mpr (.inl ⟨iface, member, (zone_named valid member).mpr zoned, rfl, raw,
        List.mem_append_left _ written, ?_⟩), by rwa [Prefix.contains_masked], counted⟩
      rw [parseInterfacePrefix_eq read, parsed]
      rfl
    · obtain ⟨cidr, read⟩ := route_accepted valid member
      refine ⟨p.masked, mem_zonePrefixesOf.mpr (.inr ⟨route, member, enabled,
        ⟨iface, found, (zone_named valid (interfaceByID_listed found)).mpr zoned, rfl⟩, p, ?_, rfl⟩),
        by rwa [Prefix.contains_masked], counted⟩
      rwa [trimList_of_parseCIDR read]

def Undisputed (c : Config) (addr : Addr) (zone : String) : Prop :=
  ∃ bits, Attached c addr zone bits ∧
    ∀ other, other ≠ zone → other ≠ "" → ∀ more, Attached c addr other more → more < bits

theorem undisputed_iff (valid : validate c = []) {zone : String} (named : zone ≠ "") :
    (∃ own ∈ zonePrefixesOf c, own.1 = zone ∧ own.2.contains (.v4 bits) = true ∧
      ∀ entry ∈ zonePrefixesOf c, entry.1 ≠ zone → entry.2.contains (.v4 bits) = true →
      entry.2.bits < own.2.bits) ↔ Undisputed c (.v4 bits) zone := by
  constructor
  · rintro ⟨⟨_, pfx⟩, listed, rfl, inside, shorter⟩
    refine ⟨pfx.bits, ((attached_iff valid).mp ⟨pfx, listed, inside, rfl⟩).2,
      fun other differs zoned more attached => ?_⟩
    obtain ⟨longer, member, contains, rfl⟩ := (attached_iff valid).mpr ⟨zoned, attached⟩
    exact shorter (other, longer) member differs contains
  · rintro ⟨n, attached, shorter⟩
    obtain ⟨pfx, listed, inside, rfl⟩ := (attached_iff valid).mpr ⟨named, attached⟩
    refine ⟨(zone, pfx), listed, rfl, inside, fun ⟨other, entry⟩ member differs contains => ?_⟩
    obtain ⟨zoned, otherAttached⟩ := (attached_iff valid).mp ⟨entry, member, contains, rfl⟩
    exact shorter other differs zoned _ otherAttached

end

/-! ## The first longest network of the validator -/

def networksOf (c : Config) (target : Addr) : List (Int × String) :=
  (c.interfaces.flatMap fun iface => ((iface.ipv4Addresses.filterMap fun raw => parseCIDR raw.toList).filter
    (networkContains · target)).map fun cidr => ((cidr.bits : Int), iface.zoneID)) ++
  c.routes.flatMap fun route => match route.enabled, parseCIDR route.destinationCIDR.toList with
    | true, some cidr =>
      if (to4 (ipNet cidr).addr).isNone ∨ !networkContains cidr target then []
      else [((cidr.bits : Int), ((interfaceByID c route.interfaceID).map (·.zoneID)).getD "")]
    | _, _ => []

def keepLonger (best entry : Int × String) : Int × String :=
  if best.1 < entry.1 then entry else best

theorem ipv4BelongsToZone_eq {c : Config} {address zone : String} {target : Addr}
    (read : (parseIP address.toList).bind to4 = some target) :
    ipv4BelongsToZone address zone c = true ↔
      0 ≤ ((networksOf c target).foldl keepLonger (-1, "")).1 ∧
        ((networksOf c target).foldl keepLonger (-1, "")).2 = zone := by
  rw [ipv4BelongsToZone, read, networksOf, List.foldl_append, List.foldl_flatMap, List.foldl_flatMap]
  refine (Bool.and_eq_true_iff.trans (and_congr decide_eq_true_iff decide_eq_true_iff)).trans (iff_of_eq ?_)
  simp only [List.foldl_map, List.foldl_filter]
  -- both sides fold over the routes; they differ in how a route that does not count is skipped
  congr! 6 <;> rename_i best route <;> cases route.enabled <;> cases parseCIDR route.destinationCIDR.toList <;> try rfl
  all_goals
    dsimp only
    split_ifs <;> rfl

theorem keepLonger_spec (entries : List (Int × String)) (start : Int × String) :
    (entries.foldl keepLonger start = start ∨ entries.foldl keepLonger start ∈ entries) ∧
      start.1 ≤ (entries.foldl keepLonger start).1 ∧
        ∀ entry ∈ entries, entry.1 ≤ (entries.foldl keepLonger start).1 := by
  induction entries generalizing start with
  | nil => simp
  | cons first entries ih =>
    obtain ⟨kept, low, bound⟩ := ih (keepLonger start first)
    have step : (keepLonger start first = start ∨ keepLonger start first = first) ∧
        start.1 ≤ (keepLonger start first).1 ∧ first.1 ≤ (keepLonger start first).1 := by
      unfold keepLonger
      split_ifs with longer
      · exact ⟨.inr rfl, longer.le, le_rfl⟩
      · exact ⟨.inl rfl, le_rfl, by omega⟩
    rw [List.foldl_cons]
    refine ⟨?_, step.2.1.trans low, fun entry member => ?_⟩
    · rcases kept with same | later
      · rw [same]
        rcases step.1 with old | new
        · exact .inl old
        · exact .inr (by rw [new]; exact List.mem_cons_self)
      · exact .inr (List.mem_cons_of_mem _ later)
    · rcases List.mem_cons.mp member with rfl | later
      · exact step.2.2.trans low
      · exact bound entry later

section
variable {c : Config} {bits : BitVec 32}

theorem networkContains_quad {cidr : Prefix} {net : BitVec 32} (quad : cidr.addr = .v4 net) (addr : Addr) :
    networkContains cidr addr = cidr.contains addr := by
  rw [networkContains, ipNet_quad quad, Prefix.contains_masked]

theorem mem_networksOf {target : Addr} {entry : Int × String} : entry ∈ networksOf c target ↔
    (∃ iface ∈ c.interfaces, ∃ raw ∈ iface.ipv4Addresses, ∃ cidr, parseCIDR raw.toList = some cidr ∧
      networkContains cidr target = true ∧ entry = (↑cidr.bits, iface.zoneID)) ∨
    ∃ route ∈ c.routes, route.enabled = true ∧ ∃ cidr, parseCIDR route.destinationCIDR.toList = some cidr ∧
      (to4 (ipNet cidr).addr).isSome ∧ networkContains cidr target = true ∧
      entry = (↑cidr.bits, ((interfaceByID c route.interfaceID).map (·.zoneID)).getD "") := by
  rw [networksOf, List.mem_append, List.mem_flatMap, List.mem_flatMap]
  refine or_congr (exists_congr fun iface => and_congr_right fun _ => ?_)
    (exists_congr fun route => and_congr_right fun _ => ?_)
  · simp only [List.mem_map, List.mem_filter, List.mem_filterMap]
    constructor
    · rintro ⟨cidr, ⟨⟨raw, listed, read⟩, inside⟩, rfl⟩
      exact ⟨raw, listed, cidr, read, inside, rfl⟩
    · rintro ⟨raw, listed, cidr, read, inside, rfl⟩
      exact ⟨cidr, ⟨⟨raw, listed, read⟩, inside⟩, rfl⟩
  · split
    · rename_i cidr enabled read
      split_ifs with skipped
      · simp only [List.not_mem_nil, false_iff]
        rintro ⟨-, other, same, family, inside, -⟩
        rw [read] at same
        cases same
        rcases skipped with foreign | outside
        · simp [Option.isNone_iff_eq_none.mp foreign] at family
        · simp [inside] at outside
      · simp only [not_or, Bool.not_eq_true, Option.isNone_eq_false_iff] at skipped
        simp only [List.mem_singleton]
        constructor
        · rintro rfl
          exact ⟨enabled, cidr, read, skipped.1, by simpa using skipped.2, rfl⟩
        · rintro ⟨-, other, same, -, -, rfl⟩
          rw [read] at same
          cases same
          rfl
    · rename_i other
      simp only [List.not_mem_nil, false_iff]
      rintro ⟨enabled, cidr, read, -⟩
      exact other cidr enabled read

theorem network_of_attached {zone : String} {n : Nat} (attached : Attached c (.v4 bits) zone n) :
    ((n : Int), zone) ∈ networksOf c (.v4 bits) := by
  rcases attached with ⟨iface, member, rfl, raw, written, p, parsed, inside, rfl⟩ |
    ⟨route, member, enabled, ⟨iface, found, rfl⟩, p, parsed, inside, rfl⟩
  · obtain ⟨net, quad⟩ := contains_quad inside
    refine mem_networksOf.mpr (.inl ⟨iface, member, raw, written, p, parseCIDR_of_parsePrefix parsed, ?_, rfl⟩)
    rwa [networkContains_quad quad]
  · obtain ⟨net, quad⟩ := contains_quad inside
    refine mem_networksOf.mpr (.inr ⟨route, member, enabled, p, parseCIDR_of_parsePrefix parsed, ?_,
      ?_, by simp [found]⟩)
    · simp [ipNet_quad quad, Prefix.masked, Prefix.maskAddr, quad, to4, Addr.unmap]
    · rwa [networkContains_quad quad]

def PlainNetworks (c : Config) (target : Addr) : Prop :=
  ∀ raw, ((∃ iface ∈ c.interfaces, raw ∈ iface.ipv4Addresses) ∨
      ∃ route ∈ c.routes, route.enabled = true ∧ raw = route.destinationCIDR) →
    ∀ cidr, parseCIDR raw.toList = some cidr → networkContains cidr target = true →
      cidr.addr.is4 = true ∧ parsePrefix raw.toList = some cidr

theorem attached_of_network (plain : PlainNetworks c (.v4 bits)) {zone : String} {n : Nat} (named : zone ≠ "")
    (member : ((n : Int), zone) ∈ networksOf c (.v4 bits)) : Attached c (.v4 bits) zone n := by
  have quadOf : ∀ cidr : Prefix, cidr.addr.is4 = true → networkContains cidr (.v4 bits) = true →
      cidr.contains (.v4 bits) = true := by
    intro cidr four inside
    cases shape : cidr.addr with
    | zero | v6 => simp [shape, Addr.is4] at four
    | v4 net => rwa [networkContains_quad shape] at inside
  rcases mem_networksOf.mp member with ⟨iface, listed, raw, written, cidr, read, inside, same⟩ |
    ⟨route, listed, enabled, cidr, read, -, inside, same⟩
  · obtain ⟨count, rfl⟩ := Prod.mk.inj same
    obtain ⟨four, parsed⟩ := plain raw (.inl ⟨iface, listed, written⟩) cidr read inside
    exact .inl ⟨iface, listed, rfl, raw, written, cidr, parsed, quadOf cidr four inside, by omega⟩
  · obtain ⟨count, zoneIs⟩ := Prod.mk.inj same
    obtain ⟨four, parsed⟩ := plain _ (.inr ⟨route, listed, enabled, rfl⟩) cidr read inside
    cases found : interfaceByID c route.interfaceID with
    | none => simp [found, named] at zoneIs
    | some iface =>
      have zoneOf : iface.zoneID = zone := by simpa [found] using zoneIs.symm
      exact .inr ⟨route, listed, enabled, ⟨iface, found, zoneOf⟩, cidr, parsed,
        quadOf cidr four inside, by omega⟩

def ZoneTie (c : Config) (addr : Addr) (zone : String) : Prop :=
  ∃ bits other, other ≠ zone ∧ other ≠ "" ∧ Attached c addr zone bits ∧ Attached c addr other bits ∧
    ∀ more, Attached c addr zone more → more ≤ bits

theorem undisputed_iff_not_tied (plain : PlainNetworks c (.v4 bits)) {address zone : String}
    (read : (parseIP address.toList).bind to4 = some (.v4 bits)) (named : zone ≠ "")
    (accepted : ipv4BelongsToZone address zone c) :
    Undisputed c (.v4 bits) zone ↔ ¬ ZoneTie c (.v4 bits) zone := by
  obtain ⟨found, inZone⟩ := (ipv4BelongsToZone_eq read).mp accepted
  obtain ⟨kept, -, bound⟩ := keepLonger_spec (networksOf c (.v4 bits)) (-1, "")
  generalize (networksOf c (.v4 bits)).foldl keepLonger (-1, "") = best at found inZone kept bound
  obtain ⟨count, zoneOf⟩ := best
  dsimp only at found inZone bound
  subst inZone
  have member : (count, zoneOf) ∈ networksOf c (.v4 bits) := by
    rcases kept with start | member
    · cases start
      exact absurd found (by decide)
    · exact member
  obtain ⟨longest, rfl⟩ := Int.eq_ofNat_of_zero_le found
  have own := attached_of_network plain named member
  have top : ∀ other n, Attached c (.v4 bits) other n → n ≤ longest := by
    intro other n attached
    have le := bound _ (network_of_attached attached)
    dsimp only at le
    omega
  constructor
  · rintro ⟨n, attached, shorter⟩ ⟨m, other, differs, zoned, ownToo, others, last⟩
    have less := shorter other differs zoned m others
    have le := last n attached
    omega
  · intro untied
    refine ⟨longest, own, fun other differs zoned more attached => ?_⟩
    by_contra notLess
    have same : more = longest := le_antisymm (top other more attached) (Nat.le_of_not_lt notLess)
    subst same
    exact untied ⟨more, other, differs, zoned, own, attached, fun n ownToo => top _ n ownToo⟩

end

/-! ## The zone of a target -/

section
variable [CaseMap] {c : Config} {generation : UInt64} {program : Program} {rule : NATRule} {target : Addr}

theorem translated_zone_inferred_iff (valid : validate c = []) (compiled : compile c generation = .ok program)
    (listed : rule ∈ c.natRules) (enabled : rule.enabled = true) (dnat : toUpper rule.type = "DNAT")
    (read : (parseIP rule.translatedAddress.toList).bind to4 = some target)
    (foreign : target ∉ program.localAddresses) : (∀ order, order.Perm program.zonePrefixes →
      (Program.inferAddressZone { program with zonePrefixes := order } target = rule.destinationZone ↔
        if target.isLoopback then rule.destinationZone = zoneLocal else Undisputed c target rule.destinationZone)) ∧
    (PlainNetworks c target →
      (Undisputed c target rule.destinationZone ↔ ¬ ZoneTie c target rule.destinationZone)) := by
  obtain ⟨named, accepted⟩ := dnat_accepted valid listed enabled dnat
  obtain ⟨addr, -, four⟩ := Option.bind_eq_some_iff.mp read
  obtain ⟨bits, rfl⟩ := to4_quad four
  obtain ⟨rules, -, rfl⟩ := map_ok.mp compiled
  refine ⟨fun order visited => ?_, fun plain => undisputed_iff_not_tied plain read named accepted⟩
  rw [inferAddressZone_iff bits rfl foreign visited named, ← undisputed_iff valid named]

end

section
attribute [local instance] Text.asciiCaseMap

def publishedServer : NATRule :=
  { id := "web", type := "DNAT", sourceZone := "wan", destinationZone := "dmz", protocol := "tcp"
    destinationNetwork := "203.0.113.1/32", originalPort := 80
    translatedAddress := "10.0.1.50", translatedPort := 8080 }

def publishingConfig (others : List Interface) : Config :=
  { defaults with
    interfaces := [ethernet "eth0" "wan" "203.0.113.1/24", ethernet "eth1" "dmz" "10.0.1.1/24"] ++ others
    zones := [{ id := "wan" }, { id := "dmz" }, { id := "lab" }]
    natRules := [publishedServer] }

def labInterface : Interface :=
  ethernet "eth2" "lab" "10.0.1.2/24"

def zoneOfServer (c : Config) : Option String :=
  (compile c 1).toOption.map (·.inferAddressZone (.v4 0x0a000132#32))

theorem translated_zone_inferred_dmz : zoneOfServer (publishingConfig []) = some "dmz" ∧
    Undisputed (publishingConfig []) (.v4 0x0a000132#32) "dmz" := by
  have accepted : validate (publishingConfig []) = [] := by decide +kernel
  have listed : publishedServer ∈ (publishingConfig []).natRules := by decide +kernel
  have dnat : toUpper publishedServer.type = "DNAT" := by decide +kernel
  have read : (parseIP publishedServer.translatedAddress.toList).bind to4 = some (.v4 0x0a000132#32) := by
    decide +kernel
  refine ⟨by decide +kernel, ?_⟩
  have inferred := translated_zone_inferred_iff accepted (rfl : compile (publishingConfig []) 1 = .ok _) listed rfl dnat
    read (by decide +kernel)
  exact (inferred.1 _ (.refl _)).mp (by decide +kernel)

/-- The validator and the ruleset accept the target in the DMZ, and the program knows no zone for it. With the two
interfaces the other way round the validator refuses the rule. -/
theorem translated_zone_ambiguous :
    validate (publishingConfig [labInterface]) = [] ∧ validateForRender (publishingConfig [labInterface]) = [] ∧
      zoneOfServer (publishingConfig [labInterface]) = some "" ∧
      validate { publishingConfig [labInterface] with interfaces :=
        (publishingConfig [labInterface]).interfaces.reverse } =
        ["nat web DNAT target is outside destination zone dmz"] := by
  decide +kernel

end

end Ngfw.Dataplane

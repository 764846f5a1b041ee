import Ngfw.Proof.Connectivity.Shadowed

/-! # TLS exclusions that never fire -/

namespace Ngfw.Connectivity
open Lib Lib.Text Lib.Netip Domain Config

/-! ## Groups of selectors -/

def groupMatches {Value : Type} (hits : Value → Bool) (group : List Value) : Bool :=
  group.isEmpty || group.any hits

section
variable {Value Result : Type}

theorem groupMatches_of_covers {covers : Value → Value → Bool} {hits : Value → Bool} {earlier later : List Value}
    (sound : ∀ candidate wanted, covers candidate wanted = true → hits wanted = true → hits candidate = true)
    (covered : groupCovers covers earlier later) (hit : groupMatches hits later) :
    groupMatches hits earlier = true := by
  simp only [groupCovers, groupMatches, Bool.or_eq_true, Bool.and_eq_true, Bool.not_eq_true', List.all_eq_true,
    List.any_eq_true] at covered hit ⊢
  rcases covered with unrestricted | ⟨restricted, each⟩
  · exact .inl unrestricted
  · rcases hit with empty | ⟨wanted, listed, hit⟩
    · rw [empty] at restricted
      cases restricted
    · obtain ⟨candidate, inside, holds⟩ := each wanted listed
      exact .inr ⟨candidate, inside, sound candidate wanted holds hit⟩

theorem groupMatches_congr {hits : Value → Bool} {one other : List Value}
    (same : ∀ value, value ∈ one ↔ value ∈ other) : groupMatches hits one = groupMatches hits other := by
  have empty : one = [] ↔ other = [] := by
    simp only [List.eq_nil_iff_forall_not_mem, same]
  rw [Bool.eq_iff_iff]
  simp only [groupMatches, Bool.or_eq_true, List.isEmpty_iff, List.any_eq_true, same, empty]

theorem groupMatches_map (f : Value → Result) (hits : Result → Bool) (group : List Value) :
    groupMatches hits (group.map f) = groupMatches (hits ∘ f) group := by
  rw [groupMatches, groupMatches, List.isEmpty_map, List.any_map]

theorem groupMatches_congr_hits {hits hitsToo : Value → Bool} {group : List Value}
    (same : ∀ value ∈ group, hits value = hitsToo value) :
    groupMatches hits group = groupMatches hitsToo group := by
  rw [Bool.eq_iff_iff]
  simp only [groupMatches, Bool.or_eq_true, List.any_eq_true]
  apply or_congr_right
  exact exists_congr fun value => and_congr_right fun listed => by rw [same value listed]

end

/-! ## What canonical selectors select -/

section
theorem tlsDomainCovers_iff {earlier later : String} : tlsDomainCovers earlier later = true ↔ earlier = later ∨
    hasPrefix "*." earlier = true ∧ '.' :: (trimStart "*." earlier).toList <:+ (trimStart "*." later).toList := by
  unfold tlsDomainCovers
  split_ifs with same plain
  · simp [same]
  · simp only [Bool.not_eq_true'] at plain
    simp [same, plain]
  · simp only [Bool.not_eq_true, Bool.not_eq_false'] at plain
    simp [same, plain, hasSuffix]

theorem tlsDomainCovers_trans {first second third : String} (covers : tlsDomainCovers first second)
    (coversToo : tlsDomainCovers second third) : tlsDomainCovers first third = true := by
  rw [tlsDomainCovers_iff] at *
  rcases covers with rfl | ⟨wildcard, inside⟩
  · exact coversToo
  · rcases coversToo with rfl | ⟨-, insideToo⟩
    · exact .inr ⟨wildcard, inside⟩
    · exact .inr ⟨wildcard, (inside.trans (List.suffix_cons _ _)).trans insideToo⟩

theorem tlsCIDRCovers_sound (candidate wanted : String) (covers : tlsCIDRCovers candidate wanted)
    (hit : (parsePrefix wanted.toList).any (·.contains addr)) :
    (parsePrefix candidate.toList).any (·.contains addr) = true := by
  unfold tlsCIDRCovers at covers
  split at covers
  · rename_i outer inner outerRead innerRead
    rw [innerRead] at hit
    rw [outerRead]
    exact prefixCovers_sound covers hit
  · cases covers

variable [CaseMap]

def selects (selectors : TLSExclusionSelectors) (host : String) (addr : Addr) (port : UInt16) : Bool :=
  groupMatches (tlsDomainMatchesCanonical · host) selectors.domains &&
    groupMatches (fun raw => (parsePrefix raw.toList).any (·.contains addr)) selectors.cidrs &&
    groupMatches (fun wanted => wanted == (port.toNat : Int)) selectors.ports

variable {exclusion : TLSExclusion} {host kind previous : String} {addr : Addr} {before : List TLSExclusion}
  {port : UInt16} {selectors : TLSExclusionSelectors} {rule : TLSExclusionRule}

theorem tlsDomainMatchesCanonical_covers (candidate wanted : String)
    (covers : tlsDomainCovers candidate wanted) (hit : tlsDomainMatchesCanonical wanted host) :
    tlsDomainMatchesCanonical candidate host = true := by
  unfold tlsDomainMatchesCanonical at *
  split at hit
  · cases hit
  · rw [Bool.and_eq_true] at hit ⊢
    exact ⟨hit.1, tlsDomainCovers_trans covers hit.2⟩

theorem selects_of_covers {earlier later : TLSExclusionSelectors} (covers : tlsExclusionCovers earlier later)
    (hit : selects later host addr port) : selects earlier host addr port = true := by
  simp only [tlsExclusionCovers, selects, Bool.and_eq_true] at covers hit ⊢
  obtain ⟨⟨domains, cidrs⟩, ports⟩ := covers
  obtain ⟨⟨domainHit, cidrHit⟩, portHit⟩ := hit
  refine ⟨⟨?_, ?_⟩, ?_⟩
  · exact groupMatches_of_covers tlsDomainMatchesCanonical_covers domains domainHit
  · exact groupMatches_of_covers tlsCIDRCovers_sound cidrs cidrHit
  · apply groupMatches_of_covers _ ports portHit
    intro candidate wanted same hit
    rwa [beq_iff_eq.mp same]

/-! ## The compiled rule selects the same -/

theorem canonicalDomains_ok {f : String → Except String String} {raws domains : List String}
    (read : raws.mapM f = .ok domains)
    (fails : ∀ raw failure, canonicalTLSDomain raw = .error failure → ∃ text, f raw = .error text)
    (keeps : ∀ raw value, canonicalTLSDomain raw = .ok value → f raw = .ok value) :
    Yields canonicalTLSDomain raws domains := by
  apply (mapM_ok.mp read).imp
  intro raw value own
  cases parsed : canonicalTLSDomain raw with
  | error failure =>
    obtain ⟨text, failed⟩ := fails raw failure parsed
    rw [failed] at own
    cases own
  | ok canonical =>
    rw [keeps raw canonical parsed] at own
    exact own

theorem canonicalTLSExclusion_ok
    (canonical : canonicalTLSExclusion exclusion = .ok selectors) : ∃ domains pfxs,
      Yields canonicalTLSDomain exclusion.domains domains ∧
      List.Forall₂ (fun raw pfx => parsePrefix raw.toList = some pfx) exclusion.destinationCIDRs pfxs ∧
      (∀ port ∈ exclusion.ports, 1 ≤ port ∧ port ≤ 65535) ∧
      selectors = ⟨uniqueSorted domains, uniqueSorted (pfxs.map (·.masked.string)),
        exclusion.ports.dedup.insertionSort (· ≤ ·)⟩ := by
  unfold canonicalTLSExclusion at canonical
  obtain ⟨domains, domainsRead, rest⟩ := bind_ok.mp canonical
  obtain ⟨texts, textsRead, rest⟩ := bind_ok.mp rest
  obtain ⟨pfxs, parsed, printed⟩ : ∃ pfxs,
      List.Forall₂ (fun raw pfx => parsePrefix raw.toList = some pfx) exclusion.destinationCIDRs pfxs ∧
      List.Forall₂ (fun text (pfx : Prefix) => text = pfx.masked.string) texts pfxs := by
    apply forall₂_step _ (mapM_ok.mp textsRead)
    intro raw text read
    split at read
    · rename_i pfx parsed
      cases read
      exact ⟨pfx, parsed, rfl⟩
    · cases read
  have textsAre : texts = pfxs.map (·.masked.string) := by
    simpa using map_eq_of_forall₂ printed
  split at rest
  · cases rest
  · rename_i valid
    cases rest
    refine ⟨domains, pfxs, canonicalDomains_ok domainsRead ?_ ?_, parsed, ?_, by rw [textsAre]⟩
    · intro raw failure parsed
      simp only [parsed]
      exact ⟨_, rfl⟩
    · intro raw value parsed
      simp only [parsed]
    intro port listed
    have fits := List.find?_eq_none.mp valid port listed
    simp only [decide_eq_true_eq] at fits
    omega

theorem compileExclusion_ok
    (compiled : compileExclusion exclusion = .ok rule) : ∃ domains pfxs,
      Yields canonicalTLSDomain exclusion.domains domains ∧
      List.Forall₂ (fun raw pfx => parsePrefix raw.toList = some pfx) exclusion.destinationCIDRs pfxs ∧
      rule.domains = domains ∧ rule.cidrs = pfxs.map Prefix.masked ∧
      rule.ports = exclusion.ports.map fun port => UInt16.ofInt port := by
  unfold compileExclusion at compiled
  obtain ⟨domains, domainsRead, rest⟩ := bind_ok.mp compiled
  split at rest
  · cases rest
  · rename_i pfxs parsed
    cases rest
    refine ⟨domains, pfxs, canonicalDomains_ok domainsRead ?_ ?_, mapM_some.mp parsed, rfl, rfl, rfl⟩
    · intro raw failure parsed
      simp only [parsed]
      exact ⟨_, rfl⟩
    · intro raw value parsed
      simp only [parsed]

omit [CaseMap] in
theorem ofInt_port {wanted : Int} (low : 1 ≤ wanted) (high : wanted ≤ 65535) (port : UInt16) :
    (UInt16.ofInt wanted == port) = (wanted == (port.toNat : Int)) := by
  have small : (wanted % 2 ^ 16).toNat < 2 ^ 16 := by omega
  rw [Bool.eq_iff_iff, beq_iff_eq, beq_iff_eq, UInt16.ofInt, ← UInt16.toNat_inj, UInt16.toNat_ofNat_of_lt' small]
  omega

omit [CaseMap] in
theorem contains_string {raw : String} {pfx : Prefix} (parsed : parsePrefix raw.toList = some pfx) (addr : Addr) :
    (parsePrefix pfx.masked.string.toList).any (·.contains addr) = pfx.masked.contains addr := by
  obtain ⟨-, -, -, -, plain, -⟩ := parsePrefix_iff.mp parsed
  rw [parsePrefix_string (canonical_masked plain).1, Option.any_some]

theorem matches_eq_selects
    (canonical : canonicalTLSExclusion exclusion = .ok selectors) (compiled : compileExclusion exclusion = .ok rule)
    (host : String) (addr : Addr) (port : UInt16) :
    TLSExclusionRule.matches rule host addr port = selects selectors host addr port := by
  obtain ⟨domains, pfxs, domainsRead, pfxsRead, valid, rfl⟩ := canonicalTLSExclusion_ok canonical
  obtain ⟨domainsToo, pfxsToo, domainsReadToo, pfxsReadToo, sameDomains, sameCIDRs, samePorts⟩ :=
    compileExclusion_ok compiled
  obtain rfl : domainsToo = domains := List.right_unique_forall₂'
    (fun raw a b first second => Except.ok.inj (first.symm.trans second)) domainsReadToo domainsRead
  obtain rfl : pfxsToo = pfxs := List.right_unique_forall₂'
    (fun raw a b first second => Option.some.inj (first.symm.trans second)) pfxsReadToo pfxsRead
  have domainGroup : groupMatches (tlsDomainMatchesCanonical · host) (uniqueSorted domainsToo) =
      groupMatches (tlsDomainMatchesCanonical · host) rule.domains := by
    rw [sameDomains]
    exact groupMatches_congr fun _ => mem_uniqueSorted
  have cidrGroup : groupMatches (fun raw => (parsePrefix raw.toList).any (·.contains addr))
      (uniqueSorted (pfxsToo.map (·.masked.string))) = groupMatches (·.contains addr) rule.cidrs := by
    rw [sameCIDRs, groupMatches_congr fun _ => mem_uniqueSorted, groupMatches_map, groupMatches_map]
    apply groupMatches_congr_hits
    intro pfx listed
    obtain ⟨raw, -, parsed⟩ := forall₂_mem_right pfxsRead listed
    exact contains_string parsed addr
  have portGroup : groupMatches (fun wanted => wanted == (port.toNat : Int))
      (exclusion.ports.dedup.insertionSort (· ≤ ·)) = groupMatches (· == port) rule.ports := by
    rw [samePorts, groupMatches_congr fun _ => (List.mem_insertionSort _).trans List.mem_dedup, groupMatches_map]
    apply groupMatches_congr_hits
    intro wanted listed
    exact (ofInt_port (valid wanted listed).1 (valid wanted listed).2 port).symm
  have member : rule.ports.contains port = rule.ports.any (· == port) := by
    rw [List.contains_eq_any_beq]
    exact List.any_congr rfl fun _ => Bool.beq_comm
  rw [selects, domainGroup, cidrGroup, portGroup, TLSExclusionRule.matches, member]
  rfl

abbrev shadowReport (exclusion : TLSExclusion) (kind previous : String) : String :=
  "tls_exclusion " ++ exclusion.id ++ " is " ++ kind ++ " preceding tls_exclusion " ++ previous

omit [CaseMap] in
theorem shadowReport_ne_duplicate {id : String}
    (same : shadowReport exclusion kind previous = "duplicate tls_exclusion ID " ++ id) : False := by
  have own : "tls_exclusion ".toList.head? = some 't' := by simp
  have other : "duplicate tls_exclusion ID ".toList.head? = some 'd' := by simp
  have first := congrArg (fun text => text.toList.head?) same
  simp only [String.toList_append, List.append_assoc, List.head?_append, own, other, Option.some_or,
    Option.some.injEq] at first
  cases first

theorem covered_of_report
    (reported : shadowReport exclusion kind previous ∈ tlsExclusionErrors before exclusion) :
    exclusion.enabled = true ∧ ∃ selectors, canonicalTLSExclusion exclusion = .ok selectors ∧
      ∃ earlier ∈ before.filter (·.enabled), ∃ covering, canonicalTLSExclusion earlier = .ok covering ∧
        tlsExclusionCovers covering selectors = true := by
  unfold tlsExclusionErrors at reported
  rcases List.mem_append.mp reported with duplicate | shadowed
  · split_ifs at duplicate
    · exact (shadowReport_ne_duplicate (List.mem_singleton.mp duplicate)).elim
    · cases duplicate
  · split at shadowed
    · rename_i selectors enabled canonical
      refine ⟨enabled, selectors, canonical, ?_⟩
      dsimp only at shadowed
      split at shadowed
      · rename_i found first
        obtain ⟨earlier, listed, read⟩ := List.mem_filterMap.mp (List.mem_of_find?_eq_some first)
        obtain ⟨covering, covers, rfl⟩ := Option.map_eq_some_iff.mp read
        exact ⟨earlier, listed, covering, toOption_some.mp covers, by simpa using List.find?_some first⟩
      · cases shadowed
    · cases shadowed

omit [CaseMap] in
theorem mem_withEarlier_of_split {Value : Type} {check : List Value → Value → List String}
    {values earlier : List Value}
    {value : Value} {later : List Value} {text : String} (split : values = earlier ++ value :: later)
    (before : List Value) (reported : text ∈ check (before ++ earlier) value) :
    text ∈ withEarlier check before values := by
  subst split
  induction earlier generalizing before with
  | nil =>
    rw [List.append_nil] at reported
    exact List.mem_append_left _ reported
  | cons first rest ih =>
    apply List.mem_append_right
    apply ih
    rwa [List.append_assoc]

/-! ## The first match -/

theorem compileTLSExclusions_split {after : List TLSExclusion}
    {rules : List TLSExclusionRule} (enabled : exclusion.enabled)
    (compiled : compileTLSExclusions (before ++ exclusion :: after) = .ok rules) : ∃ earlier own later,
      rules = earlier ++ own :: later ∧ compileTLSExclusions before = .ok earlier ∧
      compileExclusion exclusion = .ok own ∧ compileTLSExclusions after = .ok later := by
  unfold compileTLSExclusions at compiled ⊢
  rw [List.filter_append, List.filter_cons_of_pos enabled] at compiled
  obtain ⟨earlier, others, rfl, first, rest⟩ := forall₂_append (mapM_ok.mp compiled)
  obtain ⟨own, later, compiledOwn, last, rfl⟩ := List.forall₂_cons_left_iff.mp rest
  exact ⟨earlier, own, later, rfl, mapM_ok.mpr first, compiledOwn, mapM_ok.mpr last⟩

theorem earlier_matches (reported : shadowReport exclusion kind previous ∈ tlsExclusionErrors before exclusion)
    {earlier : List TLSExclusionRule} {own : TLSExclusionRule} (compiled : compileTLSExclusions before = .ok earlier)
    (compiledOwn : compileExclusion exclusion = .ok own)
    (hit : TLSExclusionRule.matches own host addr port) :
    ∃ rule ∈ earlier, TLSExclusionRule.matches rule host addr port = true := by
  obtain ⟨-, selectors, canonical, other, listed, covering, canonicalToo, covers⟩ := covered_of_report reported
  obtain ⟨rule, inside, rendered⟩ := forall₂_mem_left (mapM_ok.mp compiled) listed
  refine ⟨rule, inside, ?_⟩
  rw [matches_eq_selects canonical compiledOwn] at hit
  rw [matches_eq_selects canonicalToo rendered]
  exact selects_of_covers covers hit

theorem shadowed_exclusion_never_fires {c : Config} {before after : List TLSExclusion} {exclusion : TLSExclusion}
    {kind previous : String} {plan : RequestGatePlan} (gated : usesM4 c = true)
    (listed : c.tlsExclusions = before ++ exclusion :: after)
    (reported : shadowReport exclusion kind previous ∈ tlsExclusionErrors before exclusion)
    (compiled : compileTLSExclusions c.tlsExclusions = .ok plan.exclusions) :
    shadowReport exclusion kind previous ∈ tlsExclusionSemanticErrors c ∧
    ∃ earlier own later, plan.exclusions = earlier ++ own :: later ∧ compileTLSExclusions before = .ok earlier ∧
      compileExclusion exclusion = .ok own ∧ compileTLSExclusions after = .ok later ∧
      ∀ host addr port,
        (∀ rule, plan.matchTLSExclusion host addr port = some rule →
          rule ∈ earlier ∨ rule ∈ later ∧ TLSExclusionRule.matches own host addr port = false) ∧
        plan.matchTLSExclusion host addr port =
          { plan with exclusions := earlier ++ later }.matchTLSExclusion host addr port := by
  constructor
  · rw [tlsExclusionSemanticErrors, gated]
    exact mem_withEarlier_of_split listed [] reported
  obtain ⟨enabled, -⟩ := covered_of_report reported
  rw [listed] at compiled
  obtain ⟨earlier, own, later, rules, first, compiledOwn, last⟩ := compileTLSExclusions_split enabled compiled
  refine ⟨earlier, own, later, rules, first, compiledOwn, last, ?_⟩
  intro host addr port
  have covered : TLSExclusionRule.matches own host addr port = true →
      ∃ rule ∈ earlier, TLSExclusionRule.matches rule host addr port = true :=
    earlier_matches reported first compiledOwn
  have same : (earlier ++ later).find? (fun rule => TLSExclusionRule.matches rule host addr port) =
      (earlier ++ own :: later).find? fun rule => TLSExclusionRule.matches rule host addr port :=
    find?_delete covered
  constructor
  · intro rule returned
    rw [RequestGatePlan.matchTLSExclusion] at returned
    split_ifs at returned
    rw [rules, ← same, List.find?_append] at returned
    cases found : earlier.find? fun rule => TLSExclusionRule.matches rule host addr port with
    | some early =>
      rw [found] at returned
      cases returned
      exact .inl (List.mem_of_find?_eq_some found)
    | none =>
      rw [found] at returned
      refine .inr ⟨List.mem_of_find?_eq_some returned, ?_⟩
      rw [← Bool.not_eq_true]
      intro hit
      obtain ⟨other, inside, hitToo⟩ := covered hit
      exact List.find?_eq_none.mp found other inside hitToo
  · rw [RequestGatePlan.matchTLSExclusion, RequestGatePlan.matchTLSExclusion, same, ← rules]

end

section
attribute [local instance] asciiCaseMap

def wideExclusion : TLSExclusion := { id := "wide", domains := ["*.Example.com"], reason := "pinned" }

def narrowExclusion : TLSExclusion :=
  { id := "narrow", domains := ["a.example.com."], destinationCIDRs := ["10.0.0.0/8"], ports := [443],
    reason := "pinned" }

def shadowingConfig : Config :=
  { defaults with requestGate := some { enabled := true }, tlsExclusions := [wideExclusion, narrowExclusion] }

def shadowingPlan : RequestGatePlan :=
  { enabled := true, policyID := "web", generation := 1
    exclusions :=
      [{ id := "wide", reason := "pinned", domains := ["*.example.com"], cidrs := [], ports := [] },
        { id := "narrow", reason := "pinned", domains := ["a.example.com"],
          cidrs := [⟨.v4 0x0a000000#32, 8, by decide⟩]
          ports := [443] }] }

theorem shadowed_exclusion_never_fires_narrow :
    shadowReport narrowExclusion "shadowed by" "wide" ∈ tlsExclusionSemanticErrors shadowingConfig ∧
    ∃ earlier own later, shadowingPlan.exclusions = earlier ++ own :: later ∧
      compileTLSExclusions [wideExclusion] = .ok earlier ∧ compileExclusion narrowExclusion = .ok own ∧
      compileTLSExclusions [] = .ok later ∧
      ∀ host addr port,
        (∀ rule, shadowingPlan.matchTLSExclusion host addr port = some rule →
          rule ∈ earlier ∨ rule ∈ later ∧ TLSExclusionRule.matches own host addr port = false) ∧
        shadowingPlan.matchTLSExclusion host addr port =
          { shadowingPlan with exclusions := earlier ++ later }.matchTLSExclusion host addr port :=
  shadowed_exclusion_never_fires (by decide)
    (show shadowingConfig.tlsExclusions = [wideExclusion] ++ narrowExclusion :: [] from rfl) (by decide +kernel) rfl

end

end Ngfw.Connectivity

import Mathlib.Data.Prod.Lex
import Mathlib.Data.String.Basic
import Ngfw.Proof.Config.Validator
import Ngfw.Proof.Connectivity.Selectors

/-! # Policies that never decide -/

namespace Ngfw.Connectivity
open Lib Lib.Text Lib.Netip Domain Config

theorem find?_delete {Value : Type} {p : Value → Bool} {before after : List Value} {dead : Value}
    (covered : p dead = true → ∃ other ∈ before, p other = true) :
    (before ++ after).find? p = (before ++ dead :: after).find? p := by
  rw [List.find?_append, List.find?_append]
  cases found : before.find? p with
  | some first => rfl
  | none =>
    have silent : ¬ p dead := by
      intro hit
      obtain ⟨other, member, hitToo⟩ := covered hit
      exact List.find?_eq_none.mp found other member hitToo
    rw [List.find?_cons_of_neg silent]

theorem forall₂_append {Value Result : Type} {related : Value → Result → Prop} {a b : List Value}
    {results : List Result} (all : List.Forall₂ related (a ++ b) results) :
    ∃ c d, results = c ++ d ∧ List.Forall₂ related a c ∧ List.Forall₂ related b d := by
  refine ⟨results.take a.length, results.drop a.length, (List.take_append_drop _ _).symm, ?_, ?_⟩
  · exact (List.forall₂_take_append _ _ _ all.flip).flip
  · exact (List.forall₂_drop_append _ _ _ all.flip).flip

theorem perm_sortByPriority (policies : List SecurityPolicy) : (sortByPriority policies).Perm policies :=
  List.perm_insertionSort _ _

theorem sorted_sortByPriority (policies : List SecurityPolicy) :
    (sortByPriority policies).Pairwise fun a b => a.priority ≤ b.priority :=
  List.pairwise_insertionSort _ _

theorem sortByPriority_unique {policies sorted : List SecurityPolicy}
    (distinct : (policies.map SecurityPolicy.priority).Nodup) (members : sorted.Perm policies)
    (ordered : sorted.Pairwise fun a b => a.priority ≤ b.priority) : sortByPriority policies = sorted := by
  refine List.Perm.eq_of_pairwise ?_ (sorted_sortByPriority policies) ordered
    ((perm_sortByPriority policies).trans members.symm)
  intro a b inside insideToo low high
  have listed := (perm_sortByPriority policies).mem_iff.mp inside
  exact List.inj_on_of_nodup_map distinct listed (members.mem_iff.mp insideToo) (le_antisymm low high)

theorem sortByPriority_erase {c : Config} {policy : SecurityPolicy}
    (distinct : (c.policies.map SecurityPolicy.priority).Nodup)
    (listed : policy ∈ c.policies) : ∃ before after, sortByPriority c.policies = before ++ policy :: after ∧
      sortByPriority (c.policies.erase policy) = before ++ after ∧
      ∀ other ∈ c.policies, other.priority < policy.priority → other ∈ before := by
  have members := perm_sortByPriority c.policies
  have ordered := sorted_sortByPriority c.policies
  obtain ⟨before, after, split⟩ := List.append_of_mem (members.mem_iff.mpr listed)
  rw [split] at members ordered
  refine ⟨before, after, split, ?_, fun other inside lower => ?_⟩
  · refine sortByPriority_unique (distinct.sublist (List.erase_sublist.map _)) ?_ (ordered.sublist (by simp))
    have moved : (policy :: (before ++ after)).Perm c.policies := List.perm_middle.symm.trans members
    simpa using moved.erase policy
  · rcases List.mem_append.mp (members.mem_iff.mpr inside) with early | late
    · exact early
    · have order := (List.pairwise_append.mp ordered).2.1
      rcases List.mem_cons.mp late with rfl | later
      · exact absurd lower (lt_irrefl _)
      · have le := (List.pairwise_cons.mp order).1 other later
        omega

section
variable [CaseMap] {earlier later values : List String} {text zone : String}

theorem evaluate_congr {p q : Program} (view : View)
    (found : (p.rules.find? fun rule => rule.enabled && ruleMatches rule view) =
      q.rules.find? fun rule => rule.enabled && ruleMatches rule view)
    (default : p.defaultDeny = q.defaultDeny) (generation : p.generation = q.generation) :
    p.evaluate view = q.evaluate view := by
  unfold Program.evaluate
  rw [found, default, generation]

section
variable {c : Config} {generation : UInt64} {program : Program} {policy : SecurityPolicy}

def Covered (c : Config) (policy : SecurityPolicy) : Prop :=
  ∃ earlier ∈ c.policies, earlier.enabled = true ∧ earlier.priority < policy.priority ∧
    ∀ rule covering, compileRule policy = .ok rule → compileRule earlier = .ok covering →
      ∀ view, ruleMatches rule view = true → ruleMatches covering view = true

theorem priorities_nodup (compiled : compile c generation = .ok program) :
    (c.policies.map SecurityPolicy.priority).Nodup := by
  obtain ⟨rules, compiledRules, -⟩ := map_ok.mp compiled
  exact ((perm_sortByPriority c.policies).map _).nodup_iff.mp (compileRules_iff.mp compiledRules).2.1

theorem evaluate_erase (compiled : compile c generation = .ok program) (listed : policy ∈ c.policies)
    (covered : policy.enabled = true → Covered c policy) :
    ∃ without, compile { c with policies := c.policies.erase policy } generation = .ok without ∧
      ∀ view, without.evaluate view = program.evaluate view := by
  have distinct := priorities_nodup compiled
  obtain ⟨rules, compiledRules, rfl⟩ := map_ok.mp compiled
  obtain ⟨-, sortedDistinct, renders⟩ := compileRules_iff.mp compiledRules
  obtain ⟨before, after, split, erased, earlierFirst⟩ := sortByPriority_erase distinct listed
  rw [split] at renders sortedDistinct
  have shorter : ((before ++ after).map SecurityPolicy.priority).Nodup :=
    sortedDistinct.sublist (((List.Sublist.refl before).append (List.sublist_cons_self policy after)).map _)
  -- The rules of the shorter list, and that they find the same first match.
  obtain ⟨kept, rendersKept, sameFirst⟩ : ∃ kept,
      Yields compileRule ((before ++ after).filter (·.enabled)) kept ∧
      ∀ view, (kept.find? fun rule => rule.enabled && ruleMatches rule view) =
        rules.find? fun rule => rule.enabled && ruleMatches rule view := by
    by_cases enabled : policy.enabled = true
    · rw [List.filter_append, List.filter_cons_of_pos enabled] at renders
      obtain ⟨first, others, rfl, rendersFirst, rendersOthers⟩ := forall₂_append renders
      obtain ⟨rule, rest, own, rendersRest, rfl⟩ := List.forall₂_cons_left_iff.mp rendersOthers
      refine ⟨first ++ rest, ?_, fun view => find?_delete fun hit => ?_⟩
      · rw [List.filter_append]
        exact List.rel_append rendersFirst rendersRest
      · obtain ⟨earlier, member, active, lower, matching⟩ := covered enabled
        have early : earlier ∈ before.filter (·.enabled) :=
          List.mem_filter.mpr ⟨earlierFirst earlier member lower, active⟩
        obtain ⟨covering, inside, rendered⟩ := forall₂_mem_left rendersFirst early
        obtain ⟨_, _, _, _, _, _, _, _, on⟩ := compileRule_spec rendered
        rw [Bool.and_eq_true] at hit
        exact ⟨covering, inside, by rw [on, matching rule covering own rendered view hit.2]; rfl⟩
    · rw [List.filter_append, List.filter_cons_of_neg enabled, ← List.filter_append] at renders
      exact ⟨rules, renders, fun _ => rfl⟩
  have recompiled : compileRules [] (sortByPriority (c.policies.erase policy)) = .ok kept := by
    rw [erased]
    exact compileRules_iff.mpr ⟨by simp, shorter, rendersKept⟩
  exact ⟨_, map_ok.mpr ⟨kept, recompiled, rfl⟩, fun view => evaluate_congr view (sameFirst view) rfl rfl⟩

end

/-! ## Selectors that cover others -/

omit [CaseMap] in
theorem sameBits_mono {w m n : Nat} (fewer : m ≤ n) {a b : BitVec w} (same : Prefix.sameBits n a b) :
    Prefix.sameBits m a b = true := by
  have further : ∀ value : BitVec w, value >>> (w - m) = value >>> (w - n) >>> ((w - m) - (w - n)) := by
    intro value
    rw [← BitVec.shiftRight_add]
    congr 1
    omega
  unfold Prefix.sameBits at same ⊢
  rw [beq_iff_eq] at same ⊢
  rw [further a, further b, same]

variable {c : Config} {addr : Addr} {Value : Type} {protocol : UInt8} {port : UInt16} {before : List SecurityPolicy}
  {policy : SecurityPolicy} {key : PolicyKey}

omit [CaseMap] in
theorem prefixCovers_sound {candidate wanted : Prefix} (covers : prefixCovers candidate wanted)
    (inside : wanted.contains addr) : candidate.contains addr = true := by
  unfold prefixCovers at covers
  rw [Bool.and_eq_true, Bool.and_eq_true, decide_eq_true_eq] at covers
  obtain ⟨⟨-, fewer⟩, holds⟩ := covers
  unfold Prefix.contains at *
  cases own : candidate.addr <;> cases mid : wanted.addr <;> cases addr <;>
    simp only [own, mid, Bool.false_eq_true, Bool.and_eq_true] at inside holds ⊢
  · have step := sameBits_mono fewer inside
    simp only [Prefix.sameBits, beq_iff_eq] at holds step ⊢
    rw [holds, step]
  · have step := sameBits_mono fewer inside.2
    simp only [Prefix.sameBits, beq_iff_eq] at inside holds step ⊢
    exact ⟨inside.1, holds.2.trans step⟩

theorem zoneKey_of_equalFold {a b : String} (identifier : isIdentifier a) (identifierToo : isIdentifier b)
    (same : equalFold (trimSpace a) (trimSpace b)) : zoneKey a = zoneKey b := by
  rw [identifier_trimmed identifier, identifier_trimmed identifierToo, equalFold, beq_iff_eq] at same
  rw [zoneKey, zoneKey, identifier_trimmed identifier, identifier_trimmed identifierToo,
    toLower_ascii (identifier_ascii identifier), toLower_ascii (identifier_ascii identifierToo)]
  rw [List.map_congr_left fun c member => CaseMap.fold_ascii c (identifier_ascii identifier c member),
    List.map_congr_left fun c member => CaseMap.fold_ascii c (identifier_ascii identifierToo c member)] at same
  rw [same]

theorem mem_stringSet_of_identifier {zones : List String} (listed : zone ∈ zones)
    (identifier : isIdentifier zone) : zoneKey zone ∈ stringSet zones := by
  refine List.mem_filter.mpr ⟨List.mem_map_of_mem listed, ?_⟩
  rw [zoneKey, identifier_trimmed identifier]
  simpa [toLower_eq_empty] using identifier_nonempty identifier

theorem zoneMatch_covers (identifiers : ∀ zone ∈ earlier, isIdentifier zone = true)
    (identifiersToo : ∀ zone ∈ later, isIdentifier zone = true) (covers : stringSelectorsCover earlier later)
    (hit : zoneMatch (stringSet later) zone) : zoneMatch (stringSet earlier) zone = true := by
  cases earlier with
  | nil => rfl
  | cons first rest =>
    cases later with
    | nil => simp [stringSelectorsCover, selectorsCover] at covers
    | cons second others =>
      have nonempty : stringSet (second :: others) ≠ [] := List.ne_nil_of_mem
        (mem_stringSet_of_identifier List.mem_cons_self (identifiersToo second List.mem_cons_self))
      have key : zoneKey zone ∈ stringSet (second :: others) := by
        simpa [zoneMatch, nonempty] using hit
      obtain ⟨keyed, -⟩ := List.mem_filter.mp key
      obtain ⟨wanted, listed, sameKey⟩ := List.mem_map.mp keyed
      simp only [stringSelectorsCover, selectorsCover, List.isEmpty_cons, Bool.false_eq_true, if_false,
        Bool.false_or, List.all_eq_true, List.any_eq_true] at covers
      obtain ⟨candidate, inside, folds⟩ := covers wanted listed
      have found := mem_stringSet_of_identifier inside (identifiers candidate inside)
      rw [zoneKey_of_equalFold (identifiers candidate inside) (identifiersToo wanted listed) folds, sameKey] at found
      simp [zoneMatch, found]

omit [CaseMap] in
theorem parsedSelectorsCover_iff {parse : String → Option Value} {covers : Value → Value → Bool}
    (covered : parsedSelectorsCover parse covers earlier later)
    (nonempty : earlier ≠ []) : later ≠ [] ∧ ∃ prior wanted,
      List.Forall₂ (fun raw value => parse raw = some value) earlier prior ∧
      List.Forall₂ (fun raw value => parse raw = some value) later wanted ∧
      ∀ value ∈ wanted, ∃ candidate ∈ prior, covers candidate value = true := by
  unfold parsedSelectorsCover at covered
  split_ifs at covered with empty
  · exact absurd (List.isEmpty_iff.mp covered) nonempty
  · rw [Bool.or_eq_true, List.isEmpty_iff, or_iff_right nonempty] at covered
    split at covered
    · rename_i prior wanted priorRead wantedRead
      refine ⟨by simpa using empty, prior, wanted, mapM_some.mp priorRead, mapM_some.mp wantedRead, ?_⟩
      simpa [List.all_eq_true, List.any_eq_true] using covered
    · cases covered

omit [CaseMap] in
theorem prefixes_of_selectors {pfxs read : List Prefix} (compiled : prefixes values = some pfxs)
    (selectors : List.Forall₂ (fun raw pfx => selectorPrefix raw = some pfx) values read) : pfxs = read := by
  have mapped : values.map trimSpace = (values.map trimSpace).filter (· ≠ "") := by
    refine (List.filter_eq_self.mpr fun text member => ?_).symm
    obtain ⟨raw, listed, rfl⟩ := List.mem_map.mp member
    obtain ⟨pfx, -, parsed⟩ := forall₂_mem_left selectors listed
    rw [selectorPrefix_eq] at parsed
    rw [decide_eq_true_eq]
    intro blank
    rw [blank] at parsed
    cases parsed
  rw [prefixes, ← mapped] at compiled
  have parsed := List.forall₂_map_left_iff.mp (mapM_some.mp compiled)
  simp only [← selectorPrefix_eq] at parsed
  refine List.right_unique_forall₂' (fun raw a b first second => ?_) parsed selectors
  exact Option.some.inj (first.symm.trans second)

omit [CaseMap] in
theorem addressMatch_covers {prior wanted : List Prefix}
    (compiled : prefixes earlier = some prior) (compiledToo : prefixes later = some wanted)
    (covers : addressSelectorsCover earlier later) (hit : addressMatch wanted addr) :
    addressMatch prior addr = true := by
  by_cases empty : earlier = []
  · subst empty
    cases compiled
    rfl
  · obtain ⟨more, priorRead, wantedRead, priorParsed, wantedParsed, covered⟩ :=
      parsedSelectorsCover_iff covers empty
    obtain rfl := prefixes_of_selectors compiled priorParsed
    obtain rfl := prefixes_of_selectors compiledToo wantedParsed
    have nonempty : wanted ≠ [] := by
      rintro rfl
      exact more (List.forall₂_nil_right_iff.mp wantedParsed)
    have found : wanted.any (·.contains addr) := by simpa [addressMatch, nonempty] using hit
    obtain ⟨pfx, listed, inside⟩ := List.any_eq_true.mp found
    obtain ⟨candidate, member, coversOne⟩ := covered pfx listed
    have holds : prior.any (·.contains addr) :=
      List.any_eq_true.mpr ⟨candidate, member, prefixCovers_sound coversOne inside⟩
    simp [addressMatch, holds]

def servicesMatch (services : List Service) (protocol : UInt8) (port : UInt16) : Bool :=
  services.isEmpty || services.any (serviceMatch · protocol port)

omit [CaseMap] in
theorem serviceCovers_sound {candidate wanted : ServiceSelector} (covers : serviceCovers candidate wanted)
    (hit : serviceMatch ⟨wanted.protocol.number, wanted.ports⟩ protocol port = true) :
    serviceMatch ⟨candidate.protocol.number, candidate.ports⟩ protocol port = true := by
  obtain ⟨name, ports⟩ := candidate
  obtain ⟨wantedName, wantedPorts⟩ := wanted
  simp only [serviceCovers, Bool.and_eq_true, beq_iff_eq] at covers
  obtain ⟨rfl, inner⟩ := covers
  simp only [serviceMatch, Bool.and_eq_true] at hit ⊢
  refine ⟨hit.1, ?_⟩
  cases ports with
  | none => rfl
  | some range =>
    cases wantedPorts with
    | none => simp at inner
    | some wanted =>
      simp only [decide_eq_true_eq] at inner
      simp only [Option.all_some, PortRange.contains, decide_eq_true_eq] at hit ⊢
      omega

theorem services_of_selectors {services : List Service} {selectors : List ServiceSelector}
    (compiled : Yields parseService values services)
    (parsed : List.Forall₂ (fun raw selector => (parseServiceSelector raw).toOption = some selector)
      values selectors) :
    services = selectors.map fun selector => ⟨selector.protocol.number, selector.ports⟩ := by
  have read : Yields parseService values
      (selectors.map fun selector => ⟨selector.protocol.number, selector.ports⟩) := by
    rw [Yields, List.forall₂_map_right_iff]
    refine parsed.imp fun raw selector selected => ?_
    rw [parseService, toOption_some.mp selected]
    rfl
  refine List.right_unique_forall₂' (fun raw a b first second => ?_) compiled read
  exact Except.ok.inj (first.symm.trans second)

theorem servicesMatch_covers {prior wanted : List Service} (compiled : Yields parseService earlier prior)
    (compiledToo : Yields parseService later wanted)
    (covers : serviceSelectorsCover earlier later)
    (hit : servicesMatch wanted protocol port) : servicesMatch prior protocol port = true := by
  by_cases empty : earlier = []
  · subst empty
    cases compiled
    rfl
  · obtain ⟨more, priorRead, wantedRead, priorParsed, wantedParsed, covered⟩ :=
      parsedSelectorsCover_iff covers empty
    have nonempty : wanted ≠ [] := by
      rintro rfl
      exact more (List.forall₂_nil_right_iff.mp compiledToo)
    have found : wanted.any (serviceMatch · protocol port) := by simpa [servicesMatch, nonempty] using hit
    rw [services_of_selectors compiledToo wantedParsed, List.any_map, List.any_eq_true] at found
    obtain ⟨selector, listed, inside⟩ := found
    obtain ⟨candidate, member, coversOne⟩ := covered selector listed
    have holds : prior.any (serviceMatch · protocol port) := by
      rw [services_of_selectors compiled priorParsed, List.any_map, List.any_eq_true]
      exact ⟨candidate, member, serviceCovers_sound coversOne inside⟩
    simp [servicesMatch, holds]

theorem ruleMatches_covers {earlier later : SecurityPolicy} {covering rule : Rule}
    (identifiers : ∀ zone ∈ earlier.sourceZones ++ earlier.destinationZones, isIdentifier zone = true)
    (identifiersToo : ∀ zone ∈ later.sourceZones ++ later.destinationZones, isIdentifier zone = true)
    (covers : policyMatchCovers earlier later) (compiled : compileRule earlier = .ok covering)
    (compiledToo : compileRule later = .ok rule) {view : View} (hit : ruleMatches rule view) :
    ruleMatches covering view = true := by
  obtain ⟨_, sources, destinations, services, sourceZones, destinationZones, _⟩ := compileRule_spec compiled
  obtain ⟨_, sources', destinations', services', sourceZones', destinationZones', _⟩ := compileRule_spec compiledToo
  simp only [policyMatchCovers, Bool.and_eq_true] at covers
  obtain ⟨⟨⟨⟨coversSource, coversDestination⟩, coversFrom⟩, coversTo⟩, coversServices⟩ := covers
  unfold ruleMatches at hit ⊢
  rw [sourceZones', destinationZones'] at hit
  rw [sourceZones, destinationZones]
  simp only [Bool.and_eq_true] at hit ⊢
  obtain ⟨⟨⟨⟨hitSource, hitDestination⟩, hitFrom⟩, hitTo⟩, hitServices⟩ := hit
  refine ⟨⟨⟨⟨?_, ?_⟩, addressMatch_covers sources sources' coversFrom hitFrom⟩,
    addressMatch_covers destinations destinations' coversTo hitTo⟩,
    servicesMatch_covers services services' coversServices hitServices⟩
  · exact zoneMatch_covers (fun zone member => identifiers zone (List.mem_append_left _ member))
      (fun zone member => identifiersToo zone (List.mem_append_left _ member)) coversSource hitSource
  · exact zoneMatch_covers (fun zone member => identifiers zone (List.mem_append_right _ member))
      (fun zone member => identifiersToo zone (List.mem_append_right _ member)) coversDestination hitDestination

/-! ## What is reported -/

omit [CaseMap] in
theorem mem_withEarlier {check : List Value → Value → List String} {before values : List Value}
    (member : text ∈ withEarlier check before values) :
    ∃ first value rest, values = first ++ value :: rest ∧ text ∈ check (before ++ first) value := by
  induction values generalizing before with
  | nil => cases member
  | cons value values ih =>
    rcases List.mem_append.mp member with own | later
    · exact ⟨[], value, values, rfl, by simpa using own⟩
    · obtain ⟨first, other, rest, split, found⟩ := ih later
      exact ⟨value :: first, other, rest, by rw [split]; rfl, by simpa using found⟩

def Names (policy : SecurityPolicy) (text : String) : Prop :=
  ∃ reason, text = "policy " ++ policy.id ++ " is " ++ reason

omit [CaseMap] in
theorem names_unique {a b : SecurityPolicy} (identifier : isIdentifier a.id)
    (identifierToo : isIdentifier b.id) (first : Names a text) (second : Names b text) :
    a.id = b.id := by
  have noSpace : ∀ id : String, isIdentifier id = true → ' ' ∉ id.toList := by
    intro id known member
    have range := identifier_chars known ' ' member
    exact absurd range.1 (by decide)
  have words : ∀ id reason : String, isIdentifier id = true →
      splitOn ' ' ("policy " ++ id ++ " is " ++ reason).toList =
        "policy".toList :: id.toList :: "is".toList :: splitOn ' ' reason.toList := by
    intro id reason known
    have shape : ("policy " ++ id ++ " is " ++ reason).toList =
        "policy".toList ++ ' ' :: (id.toList ++ ' ' :: ("is".toList ++ ' ' :: reason.toList)) := by
      simp
    rw [shape, splitOn_append (by decide), splitOn_append (noSpace id known), splitOn_append (by decide)]
  obtain ⟨reason, rfl⟩ := first
  obtain ⟨other, same⟩ := second
  have fields := congrArg (fun s => splitOn ' ' s.toList) same
  rw [words _ _ identifier, words _ _ identifierToo] at fields
  exact String.toList_inj.mp (List.cons.inj (List.cons.inj fields).2).1

theorem unreachableError_spec {later : SecurityPolicy}
    (reported : text ∈ unreachableError before later) : Names later text ∧ ∃ earlier ∈ before,
      earlier.enabled = true ∧ earlier.priority < later.priority ∧ policyMatchCovers earlier later = true := by
  unfold unreachableError at reported
  split_ifs at reported with other
  · cases reported
  · dsimp only at reported
    split at reported
    · rename_i earlier found
      have covers := List.find?_some found
      simp only [Bool.and_eq_true, decide_eq_true_eq] at covers
      obtain ⟨⟨lower, firstMatch⟩, covering⟩ := covers
      rw [List.mem_singleton] at reported
      refine ⟨⟨"unreachable: higher-priority policy " ++ earlier.id ++ " (priority " ++ toString earlier.priority ++
        ") already matches all of its traffic", ?_⟩, earlier, List.mem_of_find?_eq_some found, ?_, lower, covering⟩
      · rw [reported, ← String.toList_inj]
        simp
      · simp only [isL3L4FirstMatchPolicy, Bool.and_eq_true] at firstMatch
        exact firstMatch.1.1.1.1.1.1
    · cases reported

theorem effectivePolicyKey_spec (effective : effectivePolicyKey c policy = .ok key) :
    canonicalServiceList policy.services = .ok key.services ∧ key.enabled = policy.enabled ∧
      key.sourceZones = canonicalStrings policy.sourceZones ∧
      key.destinationZones = canonicalStrings policy.destinationZones ∧
      key.sourceAddresses = canonicalAddresses policy.sourceAddresses ∧
      key.destinationAddresses = canonicalAddresses policy.destinationAddresses := by
  unfold effectivePolicyKey at effective
  split at effective
  · cases effective
  · rename_i services canonical
    dsimp only at effective
    split at effective
    · cases effective
      exact ⟨canonical, rfl, rfl, rfl, rfl, rfl⟩
    · obtain ⟨semantics, -, rfl⟩ := map_ok.mp effective
      exact ⟨canonical, rfl, rfl, rfl, rfl, rfl⟩

theorem sameSelectors_of_key {p q : SecurityPolicy}
    (effective : effectivePolicyKey c p = .ok key) (effectiveToo : effectivePolicyKey c q = .ok key) :
    SameSelectors p q ∧ p.enabled = q.enabled := by
  obtain ⟨services, enabled, sourceZones, destinationZones, sources, destinations⟩ :=
    effectivePolicyKey_spec effective
  obtain ⟨services', enabled', sourceZones', destinationZones', sources', destinations'⟩ :=
    effectivePolicyKey_spec effectiveToo
  exact ⟨⟨sourceZones.symm.trans sourceZones', destinationZones.symm.trans destinationZones',
    sources.symm.trans sources', destinations.symm.trans destinations', services.trans services'.symm⟩,
    enabled.symm.trans enabled'⟩

theorem duplicateError_spec
    (reported : text ∈ duplicateError c before policy) : Names policy text ∧ ∃ earlier ∈ before,
      SameSelectors earlier policy ∧ earlier.enabled = policy.enabled := by
  unfold duplicateError at reported
  split at reported
  · cases reported
  · rename_i key effective
    split at reported
    · rename_i earlier found
      have effectiveToo := List.find?_some found
      rw [decide_eq_true_eq] at effectiveToo
      rw [List.mem_singleton] at reported
      refine ⟨⟨"an exact duplicate of effective policy " ++ earlier.id ++ " (priority " ++
        toString earlier.priority ++ ")", ?_⟩, earlier, List.mem_of_find?_eq_some found, ?_⟩
      · rw [reported, ← String.toList_inj]
        simp
      · exact sameSelectors_of_key (toOption_some.mp effectiveToo) (toOption_some.mp effective)
    · cases reported

/-! ## Reported policies are dead -/

section
variable {c : Config} {generation : UInt64} {program : Program} {policy : SecurityPolicy} {later : SecurityPolicy}
  {text : String}

def Reported (c : Config) (policy : SecurityPolicy) : Prop :=
  ∃ text ∈ exactDuplicatePolicyErrorsForConfig c ++ m3UnreachablePolicyErrors c, Names policy text

omit [CaseMap] in
theorem listed_of_sorted {precedes : SecurityPolicy → SecurityPolicy → Prop} [DecidableRel precedes]
    {first rest : List SecurityPolicy}
    (split : c.policies.insertionSort precedes = first ++ later :: rest) :
    later ∈ c.policies ∧ ∀ earlier ∈ first, earlier ∈ c.policies := by
  have members := List.perm_insertionSort precedes c.policies
  rw [split] at members
  exact ⟨members.mem_iff.mp (by simp), fun earlier inside => members.mem_iff.mp (by simp [inside])⟩

theorem eq_of_names (valid : validate c = []) (listed : policy ∈ c.policies)
    (found : later ∈ c.policies) (named : Names policy text) (namedToo : Names later text) :
    later = policy :=
  List.inj_on_of_nodup_map (policyIDs_nodup valid) found listed
    (names_unique (policy_accepted valid found).identifier (policy_accepted valid listed).identifier namedToo named)

theorem covered_of_unreachable (valid : validate c = []) (listed : policy ∈ c.policies)
    (reported : text ∈ m3UnreachablePolicyErrors c) (named : Names policy text) : Covered c policy := by
  obtain ⟨first, later, rest, split, found⟩ := mem_withEarlier reported
  obtain ⟨namedToo, earlier, inside, enabled, lower, covers⟩ := unreachableError_spec found
  obtain ⟨laterListed, firstListed⟩ := listed_of_sorted split
  obtain rfl := eq_of_names valid listed laterListed named namedToo
  have earlierListed := firstListed earlier (by simpa using inside)
  refine ⟨earlier, earlierListed, enabled, lower, fun rule covering compiled compiledToo view hit => ?_⟩
  exact ruleMatches_covers ((policy_accepted valid earlierListed).zone_identifiers valid)
    ((policy_accepted valid listed).zone_identifiers valid) covers compiledToo compiled hit

omit [CaseMap] in
theorem priority_lt_of_split (distinct : (c.policies.map SecurityPolicy.priority).Nodup)
    {first rest : List SecurityPolicy}
    (split : (c.policies.insertionSort fun a b => a.priority < b.priority ∨ a.priority = b.priority ∧
      a.id ≤ b.id) = first ++ later :: rest) : ∀ earlier ∈ first, earlier.priority < later.priority := by
  intro earlier early
  let precedes (a b : SecurityPolicy) : Prop := a.priority < b.priority ∨ a.priority = b.priority ∧ a.id ≤ b.id
  have lex : ∀ a b, precedes a b ↔ toLex (a.priority, a.id) ≤ toLex (b.priority, b.id) := by
    intro a b
    rw [Prod.Lex.toLex_le_toLex]
  have : Std.Total precedes := ⟨fun a b => by rw [lex, lex]; exact le_total _ _⟩
  have : IsTrans SecurityPolicy precedes := ⟨fun a b d => by rw [lex, lex, lex]; exact le_trans⟩
  have ordered := List.pairwise_insertionSort precedes c.policies
  have apart := ((List.perm_insertionSort precedes c.policies).map SecurityPolicy.priority).nodup_iff.mpr distinct
  rw [split] at ordered apart
  rcases (List.pairwise_append.mp ordered).2.2 earlier early later (by simp) with lower | ⟨equal, -⟩
  · exact lower
  · rw [List.map_append, List.nodup_append] at apart
    exact absurd equal (apart.2.2 _ (List.mem_map_of_mem early) _ (by simp))

theorem covered_of_duplicate (valid : validate c = []) (distinct : (c.policies.map SecurityPolicy.priority).Nodup)
    (listed : policy ∈ c.policies) (reported : text ∈ exactDuplicatePolicyErrorsForConfig c)
    (named : Names policy text) (enabled : policy.enabled) : Covered c policy := by
  obtain ⟨first, later, rest, split, found⟩ := mem_withEarlier reported
  obtain ⟨namedToo, earlier, inside, same, alike⟩ := duplicateError_spec found
  obtain ⟨laterListed, firstListed⟩ := listed_of_sorted split
  obtain rfl := eq_of_names valid listed laterListed named namedToo
  have early : earlier ∈ first := by simpa using inside
  refine ⟨earlier, firstListed earlier early, alike.trans enabled, priority_lt_of_split distinct split earlier early,
    fun rule covering compiled compiledToo view hit => ?_⟩
  rwa [(same.sameMembers compiledToo compiled).ruleMatches_eq view]

theorem evaluate_without_reported_policy (valid : validate c = []) (compiled : compile c generation = .ok program)
    (listed : policy ∈ c.policies) (reported : Reported c policy) :
    ∃ without, compile { c with policies := c.policies.erase policy } generation = .ok without ∧
      ∀ view, without.evaluate view = program.evaluate view := by
  refine evaluate_erase compiled listed fun enabled => ?_
  obtain ⟨text, member, named⟩ := reported
  rcases List.mem_append.mp member with duplicate | unreachable
  · exact covered_of_duplicate valid (priorities_nodup compiled) listed duplicate named enabled
  · exact covered_of_unreachable valid listed unreachable named

end

end

def layeredConfig : Config :=
  { defaults with
    interfaces := [ethernet "eth0" "LAN" "10.0.0.1/24"]
    zones := [{ id := "LAN" }]
    policies :=
      [{ id := "allow-lan", priority := 10, sourceZones := ["LAN"], services := ["tcp:1-1024"], action := .allow },
       { id := "drop-telnet", priority := 20, sourceZones := ["LAN"], services := ["tcp:23"], action := .drop }] }

def shadowedByLan : String :=
  "unreachable: higher-priority policy allow-lan (priority 10) already matches all of its traffic"

attribute [local instance] Text.asciiCaseMap in
theorem evaluate_without_shadowed_telnet : ∃ program policy without,
    validate layeredConfig = [] ∧ compile layeredConfig 1 = .ok program ∧ policy ∈ layeredConfig.policies ∧
      Reported layeredConfig policy ∧
      compile { layeredConfig with policies := layeredConfig.policies.erase policy } 1 = .ok without ∧
      ∀ view, without.evaluate view = program.evaluate view := by
  have valid : validate layeredConfig = [] := by decide +kernel
  have reported : Reported layeredConfig layeredConfig.policies[1] :=
    ⟨"policy drop-telnet is " ++ shadowedByLan, by decide +kernel, shadowedByLan, by decide +kernel⟩
  have listed : layeredConfig.policies[1] ∈ layeredConfig.policies := List.getElem_mem _
  obtain ⟨without, compiled, same⟩ := evaluate_without_reported_policy valid
    (rfl : compile layeredConfig 1 = .ok _) listed reported
  exact ⟨_, _, without, valid, rfl, listed, reported, compiled, same⟩

end Ngfw.Connectivity

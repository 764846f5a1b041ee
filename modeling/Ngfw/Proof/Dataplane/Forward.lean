import Ngfw.Proof.Connectivity.Selectors
import Ngfw.Proof.Dataplane.Selection

/-! # What the forward chains do -/

namespace Ngfw.Dataplane
open Lib Lib.Text Lib.Netip Lib.Nft Domain Config Connectivity

def actionVerdict (action : Domain.Decision) : Verdict :=
  (policyAction action).toOption.getD .drop

theorem actionVerdict_of_ok {action : Domain.Decision} {verdict : Verdict} (acted : policyAction action = .ok verdict) :
    actionVerdict action = verdict := by
  simp [actionVerdict, acted, Except.toOption]

theorem actionVerdict_accept {action : Domain.Decision} : actionVerdict action = .accept ↔ action = .allow := by
  cases action <;> simp [actionVerdict, policyAction, Except.toOption]

def FoundIn (policies : List SecurityPolicy) (guard : SecurityPolicy → Bool)
    (comment : SecurityPolicy → RuleComment) (found : Option RuleLine) : Prop :=
  match policies.find? guard with
  | some policy => ∃ conditions,
      found = some (policyLine conditions (actionVerdict policy.action) (comment policy))
  | none => found = none

section
variable {p : Packet} {lines : List RuleLine} {render : SecurityPolicy → Except String (List RuleLine)}

theorem PolicyLines.firstMatch {guard : Bool} {verdict : Verdict} {comment : RuleComment}
    (rendered : PolicyLines p guard verdict comment lines) :
    if guard then ∃ conditions, firstMatch lines p = some (policyLine conditions verdict comment)
    else firstMatch lines p = none := by
  cases found : Nft.firstMatch lines p with
  | none =>
    have unmatched : guard = false := by
      rw [← rendered.applies, List.any_eq_false]
      simpa [Nft.firstMatch] using found
    simp [unmatched]
  | some line =>
    have member := List.mem_of_find?_eq_some found
    have matched : guard := by
      rw [← rendered.applies, List.any_eq_true]
      exact ⟨line, member, List.find?_some found⟩
    obtain ⟨conditions, rfl⟩ := rendered.shape line member
    simpa [matched] using ⟨conditions, rfl⟩

variable {guard : SecurityPolicy → Bool} {comment : SecurityPolicy → RuleComment} {policies : List SecurityPolicy}
  (spec : ∀ policy ∈ policies, ∀ own, render policy = .ok own → ∃ verdict,
    policyAction policy.action = .ok verdict ∧ PolicyLines p (guard policy) verdict (comment policy) own)
include spec

theorem policyLines_foundIn (rendered : policyLines render policies = .ok lines) :
    FoundIn policies guard comment (firstMatch lines p) := by
  obtain ⟨groups, mapped, rfl⟩ := map_ok.mp rendered
  have related := mapM_ok.mp mapped
  clear rendered mapped
  induction related with
  | nil => rfl
  | @cons policy own policies groups renders _ ih =>
    obtain ⟨verdict, acted, ownLines⟩ := spec policy List.mem_cons_self own renders
    have ownFirst := ownLines.firstMatch
    have others := ih fun other member => spec other (List.mem_cons_of_mem _ member)
    rw [List.flatten_cons, firstMatch_append, FoundIn, List.find?_cons]
    cases holds : guard policy with
    | true =>
      rw [holds, if_pos rfl] at ownFirst
      obtain ⟨conditions, first⟩ := ownFirst
      exact ⟨conditions, by rw [first, actionVerdict_of_ok acted, Option.some_or]⟩
    | false =>
      rw [holds, if_neg (by simp)] at ownFirst
      rw [ownFirst, Option.none_or]
      exact others

theorem policyLines_terminal (rendered : policyLines render policies = .ok lines) :
    ∀ line ∈ lines, line.verdict.isSome := by
  obtain ⟨groups, mapped, rfl⟩ := map_ok.mp rendered
  intro line member
  obtain ⟨own, inGroups, inOwn⟩ := List.mem_flatten.mp member
  obtain ⟨policy, inside, renders⟩ := forall₂_mem_right (mapM_ok.mp mapped) inGroups
  obtain ⟨verdict, _, ownLines⟩ := spec policy inside own renders
  obtain ⟨conditions, rfl⟩ := ownLines.shape line inOwn
  rfl

end

/-! ## Compiled rulesets -/

theorem mem_enabledPolicies {c : Config} {policy : SecurityPolicy} :
    policy ∈ enabledPolicies c ↔ policy ∈ c.policies ∧ policy.enabled = true := by
  rw [enabledPolicies, List.mem_filter, sortByPriority, List.mem_insertionSort]

section
variable [CaseMap] {c : Config} {ruleset : Ruleset}

theorem renderPolicyErrors_nil (accepted : validateForRender c = []) {policy : SecurityPolicy}
    (enabled : policy ∈ enabledPolicies c) : renderPolicyErrors c policy = [] := by
  simp only [validateForRender, List.append_eq_nil_iff, List.flatMap_eq_nil_iff] at accepted
  exact accepted.1.2 policy (mem_enabledPolicies.mp enabled).1

theorem services_named (accepted : validateForRender c = []) {policy : SecurityPolicy}
    (enabled : policy ∈ enabledPolicies c) : "" ∉ policy.services := by
  intro blank
  have errors := renderPolicyErrors_nil accepted enabled
  simp only [renderPolicyErrors, (mem_enabledPolicies.mp enabled).2, Bool.not_true, Bool.false_eq_true, if_false,
    List.append_eq_nil_iff, List.flatMap_eq_nil_iff] at errors
  have none := errors.2 "" blank
  cases read : parseServiceSelector "" with
  | error failure =>
    rw [serviceExpression, read] at none
    cases none
  | ok selector => exact parseServiceSelector_blank rfl selector read

theorem compileRuleset_spec (compiled : compileRuleset c = .ok ruleset) :
    validateForRender c = [] ∧ ∃ lines, policyLines (renderPolicyRules c) (enabledPolicies c) = .ok lines ∧
      ruleset.forward =
        { policy := if c.defaultDeny then .drop else .accept
          lines := invalidDrop :: establishedAccept :: lines } := by
  unfold compileRuleset at compiled
  split at compiled
  · cases compiled
  · rename_i accepted
    obtain ⟨_, _, compiled⟩ := bind_ok.mp compiled
    obtain ⟨_, _, compiled⟩ := bind_ok.mp compiled
    obtain ⟨lines, rendered, compiled⟩ := bind_ok.mp compiled
    obtain ⟨_, _, compiled⟩ := bind_ok.mp compiled
    cases compiled
    exact ⟨by simpa using accepted, lines, rendered, rfl⟩

theorem compileM2Ruleset_spec {options : M2CompileOptions} {ruleset : M2Ruleset}
    (compiled : compileM2Ruleset c options = .ok ruleset) :
    validateForRender c = [] ∧ ∃ lines reverseLines,
      policyLines (renderPolicyRules c) (enabledPolicies c) = .ok lines ∧
      policyLines (renderReversePolicyRules c) (enabledPolicies c) = .ok reverseLines ∧
      ruleset.policy.forward.policy = .drop ∧
      ruleset.policy.forward.lines =
        ([invalidDrop] ++ options.cacheValues.map cacheRule ++ lines ++ reverseLines ++
          if c.defaultDeny then [] else [defaultAllow]).map (markLine (options.markByPolicy c)) := by
  unfold compileM2Ruleset at compiled
  obtain ⟨m1, compiledM1, compiled⟩ := bind_ok.mp compiled
  obtain ⟨accepted, lines, rendered, forward⟩ := compileRuleset_spec compiledM1
  split at compiled
  · cases compiled
  · obtain ⟨reverseLines, renderedReverse, compiled⟩ := bind_ok.mp compiled
    cases compiled
    refine ⟨accepted, lines, reverseLines, rendered, renderedReverse, rfl, ?_⟩
    have differs : invalidDrop ≠ establishedAccept := by decide
    simp only [forward, replaceEstablished, differs, if_false, if_true]
    simp

end

/-! ## Running the chains -/

section
variable {marks : GoMap String (BitVec 32)} {line : RuleLine} {p : Packet}

theorem markLine_eq (marks : GoMap String (BitVec 32)) (line : RuleLine) :
    ∃ setMark, markLine marks line = { line with setMark } := by
  unfold markLine
  dsimp only
  split
  · split
    · exact ⟨_, rfl⟩
    · exact ⟨line.setMark, rfl⟩
  · split
    · exact ⟨_, rfl⟩
    · exact ⟨line.setMark, rfl⟩
  · exact ⟨line.setMark, rfl⟩

theorem applies_markLine : (markLine marks line).applies p = line.applies p := by
  obtain ⟨setMark, marked⟩ := markLine_eq marks line
  rw [marked]
  rfl

theorem firstMatch_markLine (lines : List RuleLine) :
    firstMatch (lines.map (markLine marks)) p = (firstMatch lines p).map (markLine marks) := by
  rw [firstMatch, firstMatch, List.find?_map]
  congr 2
  funext line
  exact applies_markLine

end

def recordedMark (marks : GoMap String (BitVec 32)) (policy : SecurityPolicy) (mark : BitVec 32) : BitVec 32 :=
  match policy.action, marks.lookup policy.id with
  | .allow, some value => mark &&& 0x000000ff#32 ||| value
  | _, _ => mark

def policyOutcome (marks : GoMap String (BitVec 32)) (policy : SecurityPolicy) (comment : RuleComment)
    (mark : BitVec 32) : Outcome RuleComment :=
  { verdict := actionVerdict policy.action, comment := some comment, logged := false
    ctMark := recordedMark marks policy mark }

def defaultOutcome (c : Config) (mark : BitVec 32) : Outcome RuleComment :=
  if c.defaultDeny then { verdict := .drop, comment := none, logged := false, ctMark := mark }
  else { verdict := .accept, comment := some .defaultAllow, logged := false, ctMark := mark }

theorem outcomeOf_markLine {marks : GoMap String (BitVec 32)} {policy : SecurityPolicy} {comment : RuleComment}
    (named : comment = .policy policy.id ∨ comment = .policyReverse policy.id) (conditions : List Match)
    (p : Packet) :
    outcomeOf .drop p (some (markLine marks (policyLine conditions (actionVerdict policy.action) comment))) =
      policyOutcome marks policy comment p.ctMark := by
  -- only the line of an ALLOW is marked
  cases action : policy.action <;> rcases named with rfl | rfl <;> cases found : marks.lookup policy.id <;>
    simp [outcomeOf, markLine, policyLine, actionVerdict, policyAction, policyOutcome, recordedMark, action, found,
      Line.markAfter, Except.toOption]

theorem outcomeOf_default (marks : GoMap String (BitVec 32)) (c : Config) (p : Packet) :
    outcomeOf .drop p ((if c.defaultDeny then none else some defaultAllow).map (markLine marks)) =
      defaultOutcome c p.ctMark := by
  unfold defaultOutcome
  split_ifs
  · rfl
  · rfl

theorem firstMatch_cacheRules (values : List (BitVec 32)) (p : Packet) :
    firstMatch (values.map cacheRule) p =
      if p.ctState = .established ∧ p.ctMark &&& ngfwMarkMask ∈ values
      then some (cacheRule (p.ctMark &&& ngfwMarkMask)) else none := by
  induction values with
  | nil => simp [firstMatch]
  | cons value values ih =>
    rw [List.map_cons, firstMatch, List.find?_cons]
    by_cases hit : p.ctState = .established ∧ p.ctMark &&& ngfwMarkMask = value
    · obtain ⟨established, rfl⟩ := hit
      simp [cacheRule, Line.applies, Match.holds, established]
    · have missed : (cacheRule value).applies p = false := by
        simpa [cacheRule, Line.applies, Match.holds, imp_iff_not_or, not_and_or] using hit
      rw [missed]
      rw [firstMatch] at ih
      rw [ih]
      refine if_congr ?_ rfl rfl
      rw [List.mem_cons, and_or_left]
      exact (or_iff_right hit).symm

section
variable [CaseMap] {c : Config} {p : Packet}

theorem foundIn_policyLines (accepted : validateForRender c = []) {lines : List RuleLine}
    (rendered : policyLines (renderPolicyRules c) (enabledPolicies c) = .ok lines) (p : Packet) :
    FoundIn (enabledPolicies c) (selects c · p) (.policy ·.id) (firstMatch lines p) :=
  policyLines_foundIn (fun _ enabled _ renders =>
    renderPolicyRules_spec (services_named accepted enabled) renders p) rendered

theorem foundIn_reverseLines (accepted : validateForRender c = []) {lines : List RuleLine}
    (rendered : policyLines (renderReversePolicyRules c) (enabledPolicies c) = .ok lines) (p : Packet) :
    FoundIn (enabledPolicies c)
      (fun policy => [CtState.established, .related].contains p.ctState && selects c policy p.reverse)
      (.policyReverse ·.id) (firstMatch lines p) :=
  policyLines_foundIn (fun _ enabled _ renders =>
    renderReversePolicyRules_spec (services_named accepted enabled) renders p) rendered

variable {options : M2CompileOptions} {ruleset : M2Ruleset}

section
variable (compiled : compileM2Ruleset c options = .ok ruleset)
include compiled

theorem m2_terminal : ∀ line ∈ ruleset.policy.forward.lines, line.verdict.isSome := by
  obtain ⟨accepted, lines, reverseLines, rendered, renderedReverse, _, forward⟩ := compileM2Ruleset_spec compiled
  have ownTerminal := policyLines_terminal (p := default) (fun _ enabled _ renders =>
    renderPolicyRules_spec (services_named accepted enabled) renders _) rendered
  have reverseTerminal := policyLines_terminal (p := default) (fun _ enabled _ renders =>
    renderReversePolicyRules_spec (services_named accepted enabled) renders _) renderedReverse
  rw [forward]
  intro marked member
  obtain ⟨line, inside, rfl⟩ := List.mem_map.mp member
  obtain ⟨setMark, marked⟩ := markLine_eq (options.markByPolicy c) line
  rw [marked]
  simp only [List.mem_append, List.mem_map] at inside
  rcases inside with (((drop | ⟨value, _, rfl⟩) | own) | reversed) | last
  · rw [List.mem_singleton.mp drop]
    rfl
  · rfl
  · exact ownTerminal line own
  · exact reverseTerminal line reversed
  · split_ifs at last
    · cases last
    · rw [List.mem_singleton.mp last]
      rfl

theorem m2_firstMatch (valid : p.ctState ≠ .invalid) :
    ∃ own reversed, FoundIn (enabledPolicies c) (selects c · p) (.policy ·.id) own ∧
      FoundIn (enabledPolicies c)
        (fun policy => [CtState.established, .related].contains p.ctState && selects c policy p.reverse)
        (.policyReverse ·.id) reversed ∧
      firstMatch ruleset.policy.forward.lines p =
        ((((firstMatch (options.cacheValues.map cacheRule) p).or own).or reversed).or
          (if c.defaultDeny then none else some defaultAllow)).map (markLine (options.markByPolicy c)) := by
  obtain ⟨accepted, lines, reverseLines, rendered, renderedReverse, _, forward⟩ := compileM2Ruleset_spec compiled
  refine ⟨_, _, foundIn_policyLines accepted rendered p, foundIn_reverseLines accepted renderedReverse p, ?_⟩
  have notInvalid : firstMatch [invalidDrop] p = none := by
    simp [firstMatch, invalidDrop, Line.applies, Match.holds, valid]
  have last : firstMatch (if c.defaultDeny then [] else [defaultAllow]) p =
      if c.defaultDeny then none else some defaultAllow := by
    split_ifs
    · rfl
    · rfl
  rw [forward, firstMatch_markLine, firstMatch_append, firstMatch_append, firstMatch_append, firstMatch_append,
    notInvalid, last, Option.none_or]

theorem m2_run (p : Packet) :
    ruleset.policy.forward.run p = outcomeOf .drop p (firstMatch ruleset.policy.forward.lines p) := by
  obtain ⟨_, _, _, _, _, policy, _⟩ := compileM2Ruleset_spec compiled
  rw [Chain.run, policy, walk_terminal (m2_terminal compiled)]

theorem m2_run_new (new : p.ctState = .new) :
    ruleset.policy.forward.run p = match (enabledPolicies c).find? (selects c · p) with
      | some policy => policyOutcome (options.markByPolicy c) policy (.policy policy.id) p.ctMark
      | none => defaultOutcome c p.ctMark := by
  obtain ⟨own, reversed, ownFound, reverseFound, first⟩ := m2_firstMatch (p := p) compiled (by simp [new])
  have noCache : firstMatch (options.cacheValues.map cacheRule) p = none := by
    simp [firstMatch_cacheRules, new]
  have noReverse : reversed = none := by
    have unmatched : (enabledPolicies c).find?
        (fun policy => [CtState.established, .related].contains p.ctState && selects c policy p.reverse) = none := by
      simp [new]
    rwa [FoundIn, unmatched] at reverseFound
  rw [m2_run compiled, first, noCache, noReverse, Option.none_or, Option.or_none]
  unfold FoundIn at ownFound
  split at ownFound
  · obtain ⟨conditions, rfl⟩ := ownFound
    exact outcomeOf_markLine (.inl rfl) conditions p
  · rw [ownFound, Option.none_or]
    exact outcomeOf_default _ c p

theorem m2_run_established (established : p.ctState = .established) :
    ruleset.policy.forward.run p =
      if p.ctMark &&& ngfwMarkMask ∈ options.cacheValues then
        { verdict := .accept, comment := none, logged := false, ctMark := p.ctMark }
      else match (enabledPolicies c).find? (selects c · p) with
        | some policy => policyOutcome (options.markByPolicy c) policy (.policy policy.id) p.ctMark
        | none => match (enabledPolicies c).find? (selects c · p.reverse) with
          | some policy => policyOutcome (options.markByPolicy c) policy (.policyReverse policy.id) p.ctMark
          | none => defaultOutcome c p.ctMark := by
  obtain ⟨own, reversed, ownFound, reverseFound, first⟩ := m2_firstMatch (p := p) compiled (by simp [established])
  rw [m2_run compiled, first, firstMatch_cacheRules]
  simp only [established, true_and]
  by_cases hit : p.ctMark &&& ngfwMarkMask ∈ options.cacheValues
  · rw [if_pos hit, if_pos hit]
    rfl
  · simp only [FoundIn, established] at ownFound reverseFound
    rw [if_neg hit, if_neg hit, Option.none_or]
    split at ownFound
    · obtain ⟨conditions, rfl⟩ := ownFound
      exact outcomeOf_markLine (.inl rfl) conditions p
    · rw [ownFound, Option.none_or]
      simp only [List.contains_cons, beq_self_eq_true, Bool.true_or, Bool.true_and] at reverseFound
      split at reverseFound
      · obtain ⟨conditions, rfl⟩ := reverseFound
        exact outcomeOf_markLine (.inr rfl) conditions p
      · rw [reverseFound, Option.none_or]
        exact outcomeOf_default _ c p

end

theorem m1_run_new {ruleset : Ruleset} (compiled : compileRuleset c = .ok ruleset) (new : p.ctState = .new) :
    ruleset.forward.run p = match (enabledPolicies c).find? (selects c · p) with
      | some policy => policyOutcome ∅ policy (.policy policy.id) p.ctMark
      | none => { defaultOutcome c p.ctMark with comment := none } := by
  obtain ⟨accepted, lines, rendered, forward⟩ := compileRuleset_spec compiled
  have ownFound := foundIn_policyLines accepted rendered p
  have terminal := policyLines_terminal (p := p) (fun _ enabled _ renders =>
    renderPolicyRules_spec (services_named accepted enabled) renders _) rendered
  have skipped : ∀ line ∈ [invalidDrop, establishedAccept], line.applies p = false := by
    simp [invalidDrop, establishedAccept, Line.applies, Match.holds, new]
  rw [Chain.run, forward]
  refine (walk_skip skipped).trans ?_
  rw [walk_terminal terminal]
  unfold FoundIn at ownFound
  split at ownFound
  · obtain ⟨conditions, found⟩ := ownFound
    rw [found]
    rename_i policy _
    cases action : policy.action <;> simp [outcomeOf, policyLine, policyOutcome, recordedMark, Line.markAfter, action]
  · rw [ownFound]
    unfold defaultOutcome
    split_ifs
    · rfl
    · rfl

end

end Ngfw.Dataplane

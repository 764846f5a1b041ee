import Mathlib.Data.List.Chain
import Ngfw.Engine.InspectionReducer

/-! # The grounds of an application guard -/

namespace Ngfw.Engine
open Lib Domain Connectivity Inspection

def inspectionOf (current : RuntimeSession) : SessionInspection :=
  current.inspection.getD defaultSessionInspection

section

variable [CaseMap]

def mergedApplication (current : RuntimeSession) (obs : Observation) : ApplicationIdentity :=
  (identified (inspectionOf current) obs).application

def restrictionState (current : RuntimeSession) (selection : InspectionSelection) (obs : Observation) (now : Time) :
    AppPolicyState :=
  (evaluateAppRestriction selection (mergedApplication current obs) (inspectionOf current).appDeadline now).1

def StrongMismatch (current : RuntimeSession) (selection : InspectionSelection) (obs : Observation) (now : Time) :
    Prop :=
  strongApplication (mergedApplication current obs) = true ∧ restrictionState current selection obs now = .mismatch

def evidenced (current : RuntimeSession) (selection : InspectionSelection) (obs : Observation) : SessionInspection :=
  let next := { inspectionOf current with
    generation := selection.generation, profileID := selection.profileID, mode := selection.mode, state := .inspecting }
  alerted (identified (observed next obs) obs) obs current.sessionID selection

def judged (current : RuntimeSession) (selection : InspectionSelection) (obs : Observation) (now : Time) :
    SessionInspection :=
  restricted (evidenced current selection obs) selection now

section
variable {current : RuntimeSession} {selection : InspectionSelection} {obs : Observation} {now : Time}

omit [CaseMap] in
theorem observed_rest (next : SessionInspection) (obs : Observation) :
    (observed next obs).application = next.application ∧ (observed next obs).appDeadline = next.appDeadline ∧
      (observed next obs).enforcement = next.enforcement := by
  unfold observed
  split_ifs <;> exact ⟨rfl, rfl, rfl⟩

theorem alerted_rest (next : SessionInspection) (sessionID : String) :
    (alerted next obs sessionID selection).application = next.application ∧
      (alerted next obs sessionID selection).appDeadline = next.appDeadline := by
  unfold alerted
  dsimp only
  split_ifs <;> exact ⟨rfl, rfl⟩

theorem alerted_guard {next : SessionInspection} (guarded : guardInFlightOrApplied next.enforcement)
    (sessionID : String) : (alerted next obs sessionID selection).enforcement = next.enforcement := by
  simp only [guardInFlightOrApplied, decide_eq_true_eq] at guarded
  unfold alerted
  dsimp only
  split_ifs with skipped replaced
  · rfl
  · rcases replaced with other | idle
    · exact absurd guarded.1 other
    · rcases guarded.2.2 with pending | applied
      · exact absurd pending idle.1
      · exact absurd applied idle.2
  · rfl

theorem restricted_guard {next : SessionInspection} (mode : selection.mode = .ips)
    (strong : strongApplication next.application)
    (mismatch : (evaluateAppRestriction selection next.application next.appDeadline now).1 = .mismatch) :
    (restricted next selection now).enforcement = next.enforcement := by
  simp only [restricted, mismatch, mode, strong]
  simp

theorem evidenced_rest : (evidenced current selection obs).application = mergedApplication current obs ∧
    (evidenced current selection obs).appDeadline = (inspectionOf current).appDeadline := by
  simp only [evidenced, alerted_rest, identified, observed_rest, and_true]
  rfl

theorem evidenced_guard (guarded : guardInFlightOrApplied (inspectionOf current).enforcement) :
    (evidenced current selection obs).enforcement = (inspectionOf current).enforcement := by
  rw [evidenced, alerted_guard]
  · simp only [identified, observed_rest]
  · simpa only [identified, observed_rest] using guarded

theorem judged_rest : (judged current selection obs now).application = mergedApplication current obs ∧
    (judged current selection obs now).appPolicyState = restrictionState current selection obs now := by
  simp only [judged, restricted, evidenced_rest, true_and]
  rfl

theorem judged_guard (guarded : guardInFlightOrApplied (inspectionOf current).enforcement)
    (mode : selection.mode = .ips) (mismatch : StrongMismatch current selection obs now) :
    guardInFlightOrApplied (judged current selection obs now).enforcement = true := by
  have kept : (judged current selection obs now).enforcement = (evidenced current selection obs).enforcement := by
    apply restricted_guard mode
    · rw [evidenced_rest.1]
      exact mismatch.1
    · rw [evidenced_rest.1, evidenced_rest.2]
      exact mismatch.2
  rw [kept, evidenced_guard guarded]
  exact guarded

theorem reduceInspection_cases (current : RuntimeSession) (selection : InspectionSelection) (obs : Observation)
    (now : Time) :
    (∃ intent, (reduceInspection current selection obs now).intents = [intent] ∧ selection.mode = .ips ∧
      StrongMismatch current selection obs now ∧ (mergedApplication current obs).conflicted = false ∧
      guardInFlightOrApplied (judged current selection obs now).enforcement = false ∧
      guardInFlightOrApplied (reduceInspection current selection obs now).next.enforcement = true) ∨
    (reduceInspection current selection obs now).intents = [] ∧
      (selection.mode = .off ∨ (reduceInspection current selection obs now).next =
        judged current selection obs now) := by
  by_cases off : selection.mode = .off
  · right
    simp [reduceInspection, off]
  by_cases install : (judged current selection obs now).appPolicyState = .mismatch ∧ selection.mode = .ips ∧
      !(judged current selection obs now).application.conflicted ∧
      strongApplication (judged current selection obs now).application ∧
      !guardInFlightOrApplied (judged current selection obs now).enforcement
  · left
    have reduced : ∃ enforcement intent, reduceInspection current selection obs now =
        { next := { judged current selection obs now with enforcement }, intents := [intent] } ∧
        guardInFlightOrApplied enforcement = true := by
      unfold reduceInspection
      rw [if_neg off]
      exact ⟨_, _, if_pos install, rfl⟩
    obtain ⟨enforcement, intent, reduced, pending⟩ := reduced
    rw [reduced]
    obtain ⟨mismatch, mode, agreed, strong, free⟩ := install
    rw [judged_rest.1] at agreed strong
    rw [judged_rest.2] at mismatch
    exact ⟨intent, rfl, mode, ⟨strong, mismatch⟩, by simpa using agreed, by simpa using free, pending⟩
  · right
    have reduced : reduceInspection current selection obs now = { next := judged current selection obs now } := by
      unfold reduceInspection
      rw [if_neg off]
      exact if_neg install
    rw [reduced]
    exact ⟨rfl, .inr rfl⟩

end

/-! ## Reductions one after another -/

structure ReductionStep where
  current : RuntimeSession
  obs : Observation
  now : Time

section
variable (selection : InspectionSelection)

def ReductionStep.reduce (step : ReductionStep) : InspectionReduction :=
  reduceInspection step.current selection step.obs step.now

def ReductionStep.Requests (step : ReductionStep) : Prop :=
  ∃ intent ∈ (step.reduce selection).intents, intent.kind = .installAppGuard

def ReductionStep.Mismatched (step : ReductionStep) : Prop :=
  StrongMismatch step.current selection step.obs step.now

def ReductionStep.Precedes (first second : ReductionStep) : Prop :=
  ∃ revision, second.current.inspection = some { (first.reduce selection).next with revision }

def ReductionStep.Guarded (step : ReductionStep) : Prop :=
  guardInFlightOrApplied (inspectionOf step.current).enforcement = true

end

section
variable {selection : InspectionSelection} {first second : ReductionStep}

theorem ReductionStep.Requests.grounds (requests : first.Requests selection) :
    selection.mode = .ips ∧ first.Mismatched selection ∧
      (mergedApplication first.current first.obs).conflicted = false ∧ ¬ first.Guarded := by
  obtain ⟨intent, member, -⟩ := requests
  rcases reduceInspection_cases first.current selection first.obs first.now with
    ⟨-, -, mode, mismatch, agreed, free, -⟩ | ⟨none, -⟩
  · refine ⟨mode, mismatch, agreed, fun guarded => ?_⟩
    rw [judged_guard guarded mode mismatch] at free
    cases free
  · rw [ReductionStep.reduce, none] at member
    cases member

theorem ReductionStep.guarded_of_precedes (precedes : first.Precedes selection second)
    (guards : guardInFlightOrApplied (first.reduce selection).next.enforcement) : second.Guarded := by
  obtain ⟨revision, carried⟩ := precedes
  rw [ReductionStep.Guarded, inspectionOf, carried]
  exact guards

theorem ReductionStep.Requests.guards (requests : first.Requests selection) :
    guardInFlightOrApplied (first.reduce selection).next.enforcement = true := by
  obtain ⟨intent, member, -⟩ := requests
  rcases reduceInspection_cases first.current selection first.obs first.now with
    ⟨-, -, -, -, -, -, guards⟩ | ⟨none, -⟩
  · exact guards
  · rw [ReductionStep.reduce, none] at member
    cases member

theorem ReductionStep.Guarded.guards (guarded : first.Guarded) (mode : selection.mode = .ips)
    (mismatch : first.Mismatched selection) :
    guardInFlightOrApplied (first.reduce selection).next.enforcement = true := by
  rcases reduceInspection_cases first.current selection first.obs first.now with
    ⟨-, -, -, -, -, -, guards⟩ | ⟨-, off | same⟩
  · exact guards
  · rw [mode] at off
    cases off
  · rw [ReductionStep.reduce, same]
    exact judged_guard guarded mode mismatch

theorem mismatch_before_request (mode : selection.mode = .ips) {steps : List ReductionStep}
    (chain : steps.IsChain (ReductionStep.Precedes selection))
    (guarded : ∀ step ∈ steps.head?, step.Guarded) {place : Nat}
    (found : steps[place]? = some second) (requests : second.Requests selection) :
    ∃ between step, between < place ∧ steps[between]? = some step ∧ ¬ step.Mismatched selection := by
  induction steps generalizing place with
  | nil => simp at found
  | cons step steps ih =>
    have own : step.Guarded := guarded step rfl
    cases place with
    | zero =>
      cases found
      exact absurd own requests.grounds.2.2.2
    | succ place =>
      by_cases mismatch : step.Mismatched selection
      · obtain ⟨links, rest⟩ := List.isChain_cons.mp chain
        have later : ∀ other ∈ steps.head?, other.Guarded := fun other head =>
          ReductionStep.guarded_of_precedes (links other head) (own.guards mode mismatch)
        obtain ⟨between, other, less, present, changed⟩ := ih rest later found
        exact ⟨between + 1, other, Nat.succ_lt_succ less, present, changed⟩
      · exact ⟨0, step, Nat.succ_pos _, rfl, mismatch⟩

theorem mismatch_between_requests {steps : List ReductionStep}
    (chain : steps.IsChain (ReductionStep.Precedes selection))
    {start stop : Nat} (ordered : start < stop) (begins : steps[start]? = some first)
    (ends : steps[stop]? = some second) (requested : first.Requests selection) (requests : second.Requests selection) :
    ∃ between step, start < between ∧ between < stop ∧ steps[between]? = some step ∧
      ¬ step.Mismatched selection := by
  induction steps generalizing start stop with
  | nil => simp at begins
  | cons step steps ih =>
    obtain ⟨links, rest⟩ := List.isChain_cons.mp chain
    obtain ⟨stop, rfl⟩ := Nat.exists_eq_succ_of_ne_zero (Nat.ne_of_gt (Nat.zero_lt_of_lt ordered))
    cases start with
    | zero =>
      cases begins
      have later : ∀ other ∈ steps.head?, other.Guarded := fun other head =>
        ReductionStep.guarded_of_precedes (links other head) requested.guards
      obtain ⟨between, other, less, present, changed⟩ :=
        mismatch_before_request requested.grounds.1 rest later ends requests
      exact ⟨between + 1, other, Nat.succ_pos _, Nat.succ_lt_succ less, present, changed⟩
    | succ start =>
      obtain ⟨between, other, after, less, present, changed⟩ := ih rest (Nat.lt_of_succ_lt_succ ordered) begins ends
      exact ⟨between + 1, other, Nat.succ_lt_succ after, Nat.succ_lt_succ less, present, changed⟩

end

theorem guard_requests_grounded :
    (∀ (current : RuntimeSession) (selection : InspectionSelection) (obs : Observation) (now : Time) (intent),
      intent ∈ (reduceInspection current selection obs now).intents → intent.kind = .installAppGuard →
      selection.mode = .ips ∧ strongApplication (mergedApplication current obs) = true ∧
        (mergedApplication current obs).conflicted = false ∧
        restrictionState current selection obs now = .mismatch ∧
        guardInFlightOrApplied (inspectionOf current).enforcement = false) ∧
    (∀ (selection : InspectionSelection) (steps : List ReductionStep),
      steps.IsChain (ReductionStep.Precedes selection) → ∀ (start stop : Nat) (first second : ReductionStep),
      start < stop → steps[start]? = some first → steps[stop]? = some second → first.Requests selection →
      second.Requests selection →
      ∃ between step, start < between ∧ between < stop ∧ steps[between]? = some step ∧
        ¬ step.Mismatched selection) := by
  constructor
  · intro current selection obs now intent member kind
    have requests : ReductionStep.Requests selection ⟨current, obs, now⟩ := ⟨intent, member, kind⟩
    obtain ⟨mode, mismatch, agreed, free⟩ := requests.grounds
    exact ⟨mode, mismatch.1, agreed, mismatch.2, by simpa [ReductionStep.Guarded] using free⟩
  · intro selection steps chain start stop first second ordered begins ends requested requests
    exact mismatch_between_requests chain ordered begins ends requested requests

end

section

attribute [local instance] Text.asciiCaseMap

def browsingSelection : InspectionSelection :=
  { policyID := "web", mode := .ips, allowedApps := ["HTTP"], generation := 1 }

def browsingSession (inspection : Option SessionInspection) : RuntimeSession where
  sessionID := "s"
  identity := {}
  originalTuple := {}
  ipFamily := .ipv4
  protocol := 6
  state := .established
  createdAt := 0
  lastSeen := 0
  lastObservedAt := 0
  quality := { trackingStatus := .complete, identityConfidence := .complete }
  inspection := inspection

def browsingStep (inspection : Option SessionInspection) (name : String) (time : Time) : ReductionStep :=
  ⟨browsingSession inspection,
    { id := name, observedAt := some time, app := { name, source := .suricataAppProto, confidence := .high } }, time⟩

def browsingSteps : List ReductionStep :=
  let first := browsingStep none "TLS" 1
  let second := browsingStep (some (first.reduce browsingSelection).next) "HTTP" 2
  [first, second, browsingStep (some (second.reduce browsingSelection).next) "TLS" 3]

theorem browsing_chain : browsingSteps.IsChain (ReductionStep.Precedes browsingSelection) := by
  refine List.isChain_cons_cons.mpr ⟨⟨_, rfl⟩,
    List.isChain_cons_cons.mpr ⟨⟨_, rfl⟩, List.isChain_singleton _⟩⟩

theorem guard_requests_grounded_browsing :
    (∃ first third, browsingSteps[0]? = some first ∧ browsingSteps[2]? = some third ∧
      first.Requests browsingSelection ∧ third.Requests browsingSelection) ∧
    ∃ between step, 0 < between ∧ between < 2 ∧ browsingSteps[between]? = some step ∧
      ¬ step.Mismatched browsingSelection := by
  have first : (browsingSteps.get ⟨0, by decide⟩).Requests browsingSelection := by
    unfold ReductionStep.Requests
    decide +kernel
  have third : (browsingSteps.get ⟨2, by decide⟩).Requests browsingSelection := by
    unfold ReductionStep.Requests
    decide +kernel
  exact ⟨⟨_, _, rfl, rfl, first, third⟩,
    guard_requests_grounded.2 browsingSelection browsingSteps browsing_chain 0 2 _ _ (by decide) rfl rfl first third⟩

end

end Ngfw.Engine

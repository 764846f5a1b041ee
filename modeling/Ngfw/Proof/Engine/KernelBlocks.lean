import Ngfw.Proof.Engine.BlockRemoval

/-!
# The block table and the kernel's set

An entry of the table and its element in the kernel's set are written, removed and swept in separate sections. They
agree once no call is in progress, as long as calls on one source do not get between each other's sections and no
element that ends too early is left to stand for a longer block.
-/

namespace Ngfw.Engine
open Lib Lib.Text Lib.Netip Domain Session Connectivity
open Section (exec)

/-- Every entry that has not expired has an element that ends at most one second before it, and every element that has
not ended has an entry. -/
structure KernelAgrees (s : Shared) : Prop where
  entries : ∀ key block, s.runtime.blocks.lookup key = some block → s.clock < block.expiresAt →
    ∃ ends, s.sourceBlocks.lookup key = some ends ∧ block.expiresAt ≤ ends + second
  elements : ∀ key ends, s.sourceBlocks.lookup key = some ends →
    ends ≤ s.clock ∨ (s.runtime.blocks.lookup key).isSome

def Mirrors (t : RuntimeThreads) (key : String) (block : TemporaryBlock) : Prop :=
  (∃ ends, t.state.sourceBlocks.lookup key = some ends ∧ block.expiresAt ≤ ends + second) ∨
  (∃ written, .guardBlock written ∈ t.pending ∧ written.indicator = key ∧
    written.expiresAt = block.expiresAt) ∨
  .deleteBlock key ∈ t.pending

structure MirroredAt (t : RuntimeThreads) (key : String) : Prop where
  entry : ∀ block, t.state.runtime.blocks.lookup key = some block → t.state.clock < block.expiresAt →
    Mirrors t key block
  element : ∀ ends, t.state.sourceBlocks.lookup key = some ends →
    ends ≤ t.state.clock ∨ (t.state.runtime.blocks.lookup key).isSome ∨ .guardExpired key ∈ t.pending

structure Mirrored (t : RuntimeThreads) : Prop where
  guarded : ∀ block, .undoBlock block ∉ t.pending
  sources : ∀ key, MirroredAt t key

/-- Guards succeed. The guard of a block finds the entry the call wrote, and no element of the source that is there and
ends more than a second before it; a removed entry has no element any more; the element of a swept entry has no new
entry. -/
def Section.aligned (s : Shared) (input : SectionInput) : Section → Bool
  | .guardBlock block => input.guardFailure.isNone ∧ input.clock < block.expiresAt ∧
      (s.runtime.blocks.lookup block.indicator).any (fun entry => entry.expiresAt = block.expiresAt) ∧
      (s.sourceBlocks.lookup block.indicator).all fun ends =>
        ends ≤ input.clock ∨ block.expiresAt ≤ ends + second
  | .guardUnblock _ => input.guardFailure.isNone
  | .deleteBlock key => (s.sourceBlocks.lookup key).all (· ≤ input.clock)
  | .guardExpired key => input.guardFailure.isNone ∧ s.runtime.blocks.lookup key = none
  | _ => true

def RunsAligned (t : RuntimeThreads) : RuntimeMove → Prop
  | .start _ => True
  | .run index input => (t.next index).all (·.aligned t.state input) = true ∧ t.state.clock ≤ input.clock

instance (t : RuntimeThreads) : ∀ move, Decidable (RunsAligned t move)
  | .start _ => .isTrue trivial
  | .run _ _ => inferInstanceAs (Decidable (_ ∧ _))

def Section.writesBlocks : Section → Bool
  | .addBlock _ | .guardBlock _ | .undoBlock _ | .guardUnblock _ | .deleteBlock _ | .sweep _ | .guardExpired _ => true
  | _ => false

theorem expires_nftDuration {clock expires : Int} (unexpired : clock < expires) :
    expires ≤ clock + nftDuration (expires - clock) + second := by
  have positive : 0 ≤ expires - clock := Int.sub_nonneg_of_le (Int.le_of_lt unexpired)
  rw [nftDuration, Int.tdiv_eq_ediv_of_nonneg positive]
  simp only [second]
  omega

theorem lookup_addElement_self (set : GoMap String Time) (element : String) (ends clock : Time) :
    (addElement set element ends clock).lookup element =
      if (set.lookup element).any (clock < ·) then set.lookup element else some ends := by
  unfold addElement
  split_ifs
  · rfl
  · exact AList.lookup_insert _

theorem lookup_addElement_ne {set : GoMap String Time} {element other : String} (different : other ≠ element)
    (ends clock : Time) : (addElement set element ends clock).lookup other = set.lookup other := by
  unfold addElement
  split_ifs
  · rfl
  · exact AList.lookup_insert_ne different

section
variable {t after : RuntimeThreads} {first : Section} {input : SectionInput} {key : String}

theorem publish_outside (s : Shared) (id : String) (set : RuntimeStore × Except StoreError RuntimeSession)
    (basis : Basis) : (s.publish id set basis).clock = s.clock ∧
    (s.publish id set basis).sourceBlocks = s.sourceBlocks := by
  unfold Shared.publish
  split <;> exact ⟨rfl, rfl⟩

theorem Mirrored.new (new : NewThreads t) : Mirrored t := by
  obtain ⟨program, generation, limits, rfl⟩ := new
  refine ⟨fun _ waiting => absurd waiting List.not_mem_nil, fun key => ⟨?_, ?_⟩⟩
  · intro block found
    cases (AList.lookup_empty key).symm.trans found
  · intro ends held
    cases (AList.lookup_empty key).symm.trans held

variable [CaseMap] [Stdlib]

theorem exec_clock (step : Section) (input : SectionInput) (s : Shared) :
    (step.exec input s).1.clock = input.clock := by
  cases step with
  | publishBlock | publish => exact (publish_outside _ _ _ _).1
  | addBlock block =>
    rcases exec_addBlock block input s with same | ⟨_, -, same⟩ <;> rw [same]
    rfl
  | get | activate | guardBlock | undoBlock | guardUnblock | guardExpired =>
    simp only [exec]
    split <;> rfl
  | _ => rfl

theorem exec_unwritten {step : Section} (input : SectionInput) (s : Shared) (other : step.writesBlocks = false) :
    (step.exec input s).1.runtime.blocks = s.runtime.blocks ∧
    (step.exec input s).1.sourceBlocks = s.sourceBlocks := by
  cases step with
  | addBlock | guardBlock | undoBlock | guardUnblock | deleteBlock | sweep | guardExpired => cases other
  | publishBlock | publish => exact ⟨blocks_publish _ _ _ _, (publish_outside _ _ _ _).2⟩
  | get | activate =>
    simp only [exec]
    split <;> exact ⟨rfl, rfl⟩
  | _ => exact ⟨rfl, rfl⟩

theorem Mirrored.guarded_ran (mirrored : Mirrored t) (ran : Threads.Ran exec t after first input)
    (aligned : first.aligned t.state input) (block : TemporaryBlock) : .undoBlock block ∉ after.pending := by
  intro waiting
  rcases ran.origin _ waiting with produced | waited
  · obtain ⟨rfl, failed⟩ := exec_origin produced
    obtain ⟨succeeds, unexpired, -⟩ := of_decide_eq_true aligned
    rcases failed with failed | expired
    · rw [Option.isNone_iff_eq_none.mp succeeds] at failed
      cases failed
    · exact absurd expired (Int.not_le.mpr unexpired)
  · exact mirrored.guarded block waited

theorem MirroredAt.idle (mirrored : MirroredAt t key) (ran : Threads.Ran exec t after first input)
    (forward : t.state.clock ≤ after.state.clock)
    (entry : after.state.runtime.blocks.lookup key = t.state.runtime.blocks.lookup key)
    (element : after.state.sourceBlocks.lookup key = t.state.sourceBlocks.lookup key)
    (noGuard : ∀ written : TemporaryBlock, written.indicator = key → first ≠ .guardBlock written)
    (noDelete : first ≠ .deleteBlock key) (noExpired : first ≠ .guardExpired key) : MirroredAt after key := by
  constructor
  · intro block found unexpired
    rw [entry] at found
    rcases mirrored.entry block found (Int.lt_of_le_of_lt forward unexpired) with
      ⟨ends, held, covers⟩ | ⟨written, waiting, named, same⟩ | waiting
    · exact .inl ⟨ends, element.trans held, covers⟩
    · exact .inr (.inl ⟨written, (ran.stays _ waiting).resolve_left (noGuard written named).symm, named, same⟩)
    · exact .inr (.inr ((ran.stays _ waiting).resolve_left noDelete.symm))
  · intro ends held
    rw [element] at held
    rcases mirrored.element ends held with ended | present | waiting
    · exact .inl (Int.le_trans ended forward)
    · exact .inr (.inl (by rwa [entry]))
    · exact .inr (.inr ((ran.stays _ waiting).resolve_left noExpired.symm))

theorem MirroredAt.guardBlock {block : TemporaryBlock} (ran : Threads.Ran exec t after (.guardBlock block) input)
    (aligned : (Section.guardBlock block).aligned t.state input) : MirroredAt after block.indicator := by
  obtain ⟨succeeds, unexpired, own, stands⟩ := of_decide_eq_true aligned
  obtain ⟨entry, found, same⟩ := (Option.any_eq_true _ _).mp own
  have same : entry.expiresAt = block.expiresAt := of_decide_eq_true same
  have runs : ¬(input.guardFailure.isSome = true ∨ block.expiresAt ≤ input.clock) := by
    rintro (failed | expired)
    · rw [Option.isNone_iff_eq_none.mp succeeds] at failed
      cases failed
    · exact absurd expired (Int.not_le.mpr unexpired)
  have table : after.state.runtime.blocks.lookup block.indicator = some entry := by
    rw [ran.state]
    simp only [exec]
    rw [if_neg runs]
    exact found
  have set : after.state.sourceBlocks = addElement t.state.sourceBlocks block.indicator
      (input.clock + nftDuration (block.expiresAt - input.clock)) input.clock := by
    rw [ran.state]
    simp only [exec]
    rw [if_neg runs]
  constructor
  · intro held holds _
    rw [table] at holds
    cases holds
    left
    rw [set, lookup_addElement_self, same]
    split_ifs with live
    · obtain ⟨ends, there, later⟩ := (Option.any_eq_true _ _).mp live
      refine ⟨ends, there, ?_⟩
      rw [there] at stands
      exact (of_decide_eq_true stands).resolve_left (Int.not_le.mpr (of_decide_eq_true later))
    · exact ⟨_, rfl, expires_nftDuration unexpired⟩
  · intro ends _
    exact .inr (.inl (by rw [table]; rfl))

theorem Mirrored.ran (mirrored : Mirrored t) (ran : Threads.Ran exec t after first input)
    (aligned : first.aligned t.state input) (forward : t.state.clock ≤ input.clock) : Mirrored after := by
  refine ⟨mirrored.guarded_ran ran aligned, fun key => ?_⟩
  have ahead : t.state.clock ≤ after.state.clock := by
    rwa [ran.state, exec_clock]
  have idle := (mirrored.sources key).idle ran ahead
  rw [ran.state] at idle
  cases writes : first.writesBlocks with
  | false =>
    have unwritten := exec_unwritten input t.state writes
    refine idle (by rw [unwritten.1]) (by rw [unwritten.2]) ?_ ?_ ?_
    · rintro written - rfl
      cases writes
    · rintro rfl
      cases writes
    · rintro rfl
      cases writes
  | true =>
  cases first with
  | addBlock block =>
    rcases exec_addBlock block input t.state with refused | ⟨entry, -, written⟩
    · rw [refused] at idle
      exact idle rfl rfl (by simp) (by simp) (by simp)
    · by_cases here : key = entry.indicator
      · subst here
        have table : after.state.runtime.blocks.lookup entry.indicator = some entry := by
          rw [ran.state, written]
          exact AList.lookup_insert _
        constructor
        · intro held holds _
          rw [table] at holds
          cases holds
          exact .inr (.inl ⟨entry, ran.fresh _ (by rw [written]; exact List.mem_singleton.mpr rfl), rfl, rfl⟩)
        · intro ends _
          exact .inr (.inl (by rw [table]; rfl))
      · rw [written] at idle
        exact idle (AList.lookup_insert_ne here) rfl (by simp) (by simp) (by simp)
  | guardBlock block =>
    by_cases here : key = block.indicator
    · rw [here]
      exact .guardBlock ran aligned
    · have other : ∀ written : TemporaryBlock, written.indicator = key →
          Section.guardBlock block ≠ .guardBlock written := by
        rintro written rfl runs
        cases runs
        exact here rfl
      simp only [exec] at idle
      split at idle
      · exact idle rfl rfl other (by simp) (by simp)
      · exact idle rfl (lookup_addElement_ne here _ _) other (by simp) (by simp)
  | undoBlock block => exact absurd ran.was (mirrored.guarded block)
  | guardUnblock removed =>
    have state := ran.state
    have fresh := ran.fresh
    simp only [exec] at idle state fresh
    split at idle
    · exact idle rfl rfl (by simp) (by simp) (by simp)
    rename_i runs
    rw [if_neg runs] at state fresh
    by_cases here : key = removed
    · subst here
      refine ⟨fun _ _ _ => .inr (.inr (fresh _ (List.mem_singleton.mpr rfl))), fun ends held => ?_⟩
      rw [state] at held
      cases (AList.lookup_erase key t.state.sourceBlocks).symm.trans held
    · exact idle rfl (AList.lookup_erase_ne here) (by simp) (by simp) (by simp)
  | deleteBlock removed =>
    by_cases here : key = removed
    · subst here
      constructor
      · intro block found _
        rw [ran.state] at found
        cases (AList.lookup_erase key t.state.runtime.blocks).symm.trans found
      · intro ends held
        rw [ran.state] at held
        have ended : (t.state.sourceBlocks.lookup key).all (· ≤ input.clock) = true := aligned
        have there : t.state.sourceBlocks.lookup key = some ends := held
        rw [there] at ended
        left
        rw [ran.state, exec_clock]
        exact of_decide_eq_true ended
    · exact idle (AList.lookup_erase_ne here) rfl (by simp) (fun runs => here (by cases runs; rfl)) (by simp)
  | sweep now =>
    have state := ran.state
    have fresh := ran.fresh
    simp only [exec] at idle state fresh
    generalize (List.filter _ (rangeOrder t.state.runtime.blocks input.order)) = expired at idle state fresh
    have table := lookup_eraseAll expired t.state.runtime.blocks key
    by_cases swept : key ∈ expired
    · rw [if_pos swept] at table
      constructor
      · intro block found _
        rw [state] at found
        cases table.symm.trans found
      · intro ends _
        exact .inr (.inr (fresh _ (List.mem_append_left _ (List.mem_map_of_mem swept))))
    · rw [if_neg swept] at table
      exact idle table rfl (by simp) (by simp) (by simp)
  | guardExpired swept =>
    obtain ⟨succeeds, absent⟩ := of_decide_eq_true aligned
    have state := ran.state
    simp only [exec, Option.isNone_iff_eq_none.mp succeeds, Option.isSome_none] at idle state
    by_cases here : key = swept
    · subst here
      constructor
      · intro block found _
        rw [state] at found
        cases absent.symm.trans found
      · intro ends held
        rw [state] at held
        cases (AList.lookup_erase key t.state.sourceBlocks).symm.trans held
    · exact idle rfl (AList.lookup_erase_ne here) (by simp) (by simp) (fun runs => here (by cases runs; rfl))
  | _ => cases writes

theorem Mirrored.start (mirrored : Mirrored t) (call : RuntimeCall) : Mirrored (t.step (.start call)) := by
  have grows : ∀ step ∈ t.pending, step ∈ (t.step (.start call)).pending := fun step waiting =>
    Threads.mem_pending_start.mpr (.inl waiting)
  refine ⟨?_, fun key => ⟨?_, ?_⟩⟩
  · intro block waiting
    rcases Threads.mem_pending_start.mp waiting with waited | entered
    · exact mirrored.guarded block waited
    · cases call with
      | activate program generation reason =>
        simp only [RuntimeCall.sections] at entered
        split_ifs at entered
        · exact absurd entered List.not_mem_nil
        · cases List.mem_singleton.mp entered
      | _ => cases List.mem_singleton.mp entered
  · intro block found unexpired
    rcases (mirrored.sources key).entry block found unexpired with held | ⟨written, waiting, rest⟩ | waiting
    · exact .inl held
    · exact .inr (.inl ⟨written, grows _ waiting, rest⟩)
    · exact .inr (.inr (grows _ waiting))
  · intro ends held
    exact ((mirrored.sources key).element ends held).imp_right (Or.imp_right (grows _))

theorem kernel_agrees_at_rest (reached : Reachable NewThreads RunsAligned RuntimeThreads.step t) (quiet : t.quiet) :
    KernelAgrees t.state := by
  have mirrored : Mirrored t := reached.invariant (fun _ => Mirrored.new) (by
    intro t move mirrored admitted
    refine Threads.invariant_step mirrored (fun call _ => mirrored.start call) ?_
    rintro index input first after rfl runs ran
    obtain ⟨aligned, forward⟩ := admitted
    rw [runs] at aligned
    exact mirrored.ran ran aligned forward)
  constructor
  · intro key block found unexpired
    rcases (mirrored.sources key).entry block found unexpired with held | ⟨_, waiting, _⟩ | waiting
    · exact held
    · exact absurd waiting (quiet.notMem _)
    · exact absurd waiting (quiet.notMem _)
  · intro key ends held
    exact ((mirrored.sources key).element ends held).imp_right (Or.resolve_right · (quiet.notMem _))

end

section
attribute [local instance] asciiCaseMap visitStdlib

theorem kernel_agrees_at_rest_visit :
    KernelAgrees (blockedVisit.foldl RuntimeThreads.step visitThreads).state ∧
      (blockedVisit.foldl RuntimeThreads.step visitThreads).state.sourceBlocks.lookup "198.51.100.7" =
        some (600 * second) :=
  ⟨kernel_agrees_at_rest ((Reachable.start ⟨publishedProgram, 1, defaultRuntimeLimits, rfl⟩).run
    (by decide +kernel))
    (List.isEmpty_iff.mp (by decide +kernel)), by decide +kernel⟩

def extendedBlock : List RuntimeMove :=
  blockedVisit ++
    .start (.addTemporaryBlock { visitorBlock with id := "visitor-again", expiresAt := 900 * second }) :: runs 2 8

theorem extended_block_ends_early :
    (extendedBlock.foldl RuntimeThreads.step visitThreads).quiet ∧
      ¬KernelAgrees (extendedBlock.foldl RuntimeThreads.step visitThreads).state := by
  refine ⟨List.isEmpty_iff.mp (by decide +kernel), fun agrees => ?_⟩
  have table : (extendedBlock.foldl RuntimeThreads.step visitThreads).state.runtime.blocks.lookup "198.51.100.7" =
      some ⟨"visitor-again", "198.51.100.7", 900 * second⟩ := by decide +kernel
  have set : (extendedBlock.foldl RuntimeThreads.step visitThreads).state.sourceBlocks.lookup "198.51.100.7" =
      some (600 * second) := by decide +kernel
  have early : (extendedBlock.foldl RuntimeThreads.step visitThreads).state.clock = second := by decide +kernel
  obtain ⟨ends, held, covers⟩ := agrees.entries _ _ table (by rw [early]; decide)
  cases set.symm.trans held
  exact absurd covers (by decide)

end

end Ngfw.Engine

import Ngfw.Lib.Run
import Ngfw.Dataplane.Epoch

/-!
# Epochs are not reused

What was returned stays below the counter of the allocator in use and below the counter on disk. The one way to lose
the counter on disk is a save that removes the file and cannot put the new one in its place.
-/

namespace Ngfw.Dataplane
open Lib Domain

def LosesFile (faults : Faults WriteStep) : Prop :=
  faults .rename ≠ none ∧ faults .remove = none ∧ faults .renameAgain ≠ none

instance (faults : Faults WriteStep) : Decidable (LosesFile faults) :=
  inferInstanceAs (Decidable (_ ∧ _ ∧ _))

structure Saved {Payload : Type} (faults : Faults WriteStep) (payload : Payload) (before : Replaced Payload)
    (result : Except String Unit) (file : File Payload) : Prop where
  written : result = .ok () → file = .holds payload
  file : file = before.file ∨ file = .holds payload ∨ LosesFile faults ∧ file = .missing

-- once the new file is in place only the directory is left
theorem ends_syncDirectory {Payload : Type} (goos : String) (faults : Faults WriteStep) (after : Replaced Payload)
    (post : Except String Unit → Replaced Payload → Prop) (all : ∀ result, post result after) :
    Procedure.Ends (do
      match ← (Procedure.attempt WriteStep.openDirectory id).outcome with
      | .error _ => pure ()
      | .ok () => Procedure.ignoring (goos == "windows") .syncDirectory) faults after post := by
  simp only [Procedure.ends_bind, Procedure.ends_outcome]
  refine .attempt (fun _ _ => all _) fun _ => ?_
  exact .ignoring (fun _ _ _ => all _) fun _ => all _

theorem writeAtomic_saved {Payload : Type} (goos : String) (payload : Payload) (faults : Faults WriteStep)
    (disk : Replaced Payload) :
    (writeAtomic goos payload).Ends faults disk fun result after => Saved faults payload disk result after.file := by
  unfold writeAtomic
  have kept : ∀ failure, Saved faults payload disk (.error failure) disk.file :=
    fun failure => ⟨by simp, .inl rfl⟩
  have replaced : ∀ result, Saved faults payload disk result (.holds payload) :=
    fun result => ⟨fun _ => rfl, .inr (.inl rfl)⟩
  have settled (after : Replaced Payload) (holds : after.file = .holds payload) :=
    ends_syncDirectory goos faults after (fun result last => Saved faults payload disk result last.file)
      fun result => holds ▸ replaced result
  refine .attempt_bind (fun failure _ => kept failure) fun _ => ?_
  refine .deferred Replaced.file (fun result file => Saved faults payload disk result file) ?_ ?_
  · intro after
    cases given : faults .removeTemporary <;> simp [Procedure.attempt, given, Replaced.removeTemporary]
  refine .attempt_bind (fun failure _ => kept failure) fun _ => ?_
  refine .attempt_bind (fun failure _ => kept failure) fun _ => ?_
  refine .attempt_bind (fun failure _ => kept failure) fun _ => ?_
  refine .attempt_bind (fun failure _ => kept failure) fun _ => ?_
  rw [Procedure.ends_bind, Procedure.ends_rescue]
  refine .attempt (fun failure stuck => ?_) fun _ => settled _ rfl
  simp only [Procedure.ends_bind, Procedure.ends_outcome]
  refine .attempt (fun _ _ => kept failure) fun removed => ?_
  refine .attempt (fun again stuckAgain => ⟨by simp, .inr (.inr ⟨⟨?_, removed, ?_⟩, rfl⟩)⟩)
    fun _ => settled _ rfl
  · simp [stuck]
  · simp [stuckAgain]

theorem toNat_succ_epoch {highest : UInt16} (room : highest < maxKernelEpoch) :
    (highest + 1).toNat = highest.toNat + 1 ∧ highest.toNat < 4095 := by
  have bound : highest.toNat < 4095 := UInt16.lt_iff_toNat_lt.mp room
  refine ⟨?_, bound⟩
  rw [UInt16.toNat_add]
  exact Nat.mod_eq_of_lt (by simp; omega)

theorem lt_succ_epoch {highest : UInt16} (room : highest < maxKernelEpoch) : highest < highest + 1 := by
  rw [UInt16.lt_iff_toNat_lt, (toNat_succ_epoch room).1]
  omega

theorem succ_epoch_range {highest : UInt16} (room : highest < maxKernelEpoch) :
    1 ≤ highest + 1 ∧ highest + 1 ≤ maxKernelEpoch := by
  obtain ⟨next, bound⟩ := toNat_succ_epoch room
  have last : maxKernelEpoch.toNat = 4095 := rfl
  have first : (1 : UInt16).toNat = 1 := rfl
  rw [UInt16.le_iff_toNat_le, UInt16.le_iff_toNat_le, next, last, first]
  omega

section
variable [EpochDigest] {goos path bootID : String}

theorem allocate_exhausted {now : Time} {a : EpochAllocator} (exhausted : maxKernelEpoch ≤ a.state.highest) :
    a.allocate goos now = pure (.error "kernel epoch exhausted; disable cache", a) := by
  unfold EpochAllocator.allocate
  rw [if_pos exhausted]

inductive Allocated (faults : Faults EpochStep) (a : EpochAllocator) (before : Replaced EpochState) :
    Except String UInt16 → EpochAllocator → Replaced EpochState → Prop
  | refused {failure : String} (exhausted : maxKernelEpoch ≤ a.state.highest) :
      Allocated faults a before (.error failure) a before
  | failed {failure : String} {after : EpochAllocator} {disk : Replaced EpochState} (state : EpochState)
      (room : a.state.highest < maxKernelEpoch) (kept : after.state.highest = a.state.highest)
      (boot : after.state.bootID = a.state.bootID) (next : state.highest = a.state.highest + 1)
      (same : state.bootID = a.state.bootID)
      (file : disk.file = before.file ∨ disk.file = .holds state ∨
        LosesFile (fun step => faults (.write step)) ∧ disk.file = .missing) :
      Allocated faults a before (.error failure) after disk
  | returned {after : EpochAllocator} {disk : Replaced EpochState} (state : EpochState)
      (room : a.state.highest < maxKernelEpoch) (highest : after.state.highest = a.state.highest + 1)
      (boot : after.state.bootID = a.state.bootID) (next : state.highest = a.state.highest + 1)
      (same : state.bootID = a.state.bootID) (file : disk.file = .holds state) :
      Allocated faults a before (.ok (a.state.highest + 1)) after disk

variable (now : Time) (a : EpochAllocator) (s : Epochs) (faults : Faults EpochStep) (disk : Replaced EpochState)
  (allocators : List EpochAllocator)

theorem persistLocked_saved :
    (a.persistLocked goos).Ends faults disk fun result after =>
      Saved (fun step => faults (.write step)) { a.state with checksum := epochChecksum a.state } disk result
        after.file := by
  unfold EpochAllocator.persistLocked
  refine .attempt_bind (fun _ _ => ⟨nofun, .inl rfl⟩) fun _ => ?_
  refine .attempt_bind (fun _ _ => ⟨nofun, .inl rfl⟩) fun _ => ?_
  refine .attempt_bind (fun _ _ => ⟨nofun, .inl rfl⟩) fun _ => ?_
  exact Procedure.ends_within.mpr (writeAtomic_saved goos _ _ disk)

variable (goos) in
theorem allocate_spec :
    (a.allocate goos now).Ends faults disk fun result after =>
      ∃ value, result = .ok value ∧ Allocated faults a disk value.1 value.2 after := by
  by_cases exhausted : maxKernelEpoch ≤ a.state.highest
  · rw [allocate_exhausted exhausted]
    exact ⟨_, rfl, .refused exhausted⟩
  · have room : a.state.highest < maxKernelEpoch := UInt16.not_le.mp exhausted
    unfold EpochAllocator.allocate
    rw [if_neg exhausted]
    simp only [Procedure.ends_bind, Procedure.ends_outcome]
    refine (persistLocked_saved _ faults disk).imp fun result after saved => ?_
    cases result with
    | error failure =>
      have file := saved.file
      refine Procedure.ends_pure.mpr ⟨_, rfl, .failed _ room ?_ rfl ?_ ?_ file⟩
      · exact UInt16.add_sub_cancel _ _
      · rfl
      · rfl
    | ok done =>
      have file := saved.written rfl
      refine Procedure.ends_pure.mpr ⟨_, rfl, .returned _ room rfl rfl ?_ ?_ file⟩
      · rfl
      · rfl

variable (path bootID) in
theorem newEpochAllocator_spec :
    (newEpochAllocator path bootID).Ends faults disk fun result after => after = disk ∧
      ∀ a, result = .ok a → a.state.bootID = bootID ∧
        ∀ state, disk.file = .holds state → state.bootID = bootID → a.state.highest = state.highest := by
  unfold newEpochAllocator
  refine .require_bind (fun _ => ⟨rfl, by simp⟩) fun _ => ?_
  refine .attempt_bind (fun _ _ => ⟨rfl, by simp⟩) fun _ => ?_
  simp only [Procedure.ends_bind, Procedure.ends_look, id]
  cases found : disk.file with
  | missing =>
    refine ⟨rfl, fun a opened => ?_⟩
    cases opened
    exact ⟨rfl, by simp⟩
  | empty => exact ⟨rfl, by simp [Procedure.fail]⟩
  | holds state =>
    refine .require_bind (fun _ => ⟨rfl, by simp⟩) fun _ => ?_
    refine .require_bind (fun _ => ⟨rfl, by simp⟩) fun _ => ?_
    split_ifs with foreign
    · refine ⟨rfl, fun a opened => ?_⟩
      cases opened
      refine ⟨rfl, fun stored holds own => ?_⟩
      cases holds
      exact absurd own foreign
    · refine ⟨rfl, fun a opened => ?_⟩
      cases opened
      refine ⟨not_not.mp foreign, fun stored holds own => ?_⟩
      cases holds
      rfl

/-! ## Runs -/

namespace Epochs

def returned (s : Epochs) : List UInt16 :=
  s.results.filterMap Except.toOption

structure Unique (s : Epochs) : Prop where
  increasing : s.returned.Pairwise (· < ·)
  range : ∀ epoch ∈ s.returned, 1 ≤ epoch ∧ epoch ≤ maxKernelEpoch
  exhausted : ∀ before after, s.results = before ++ .ok maxKernelEpoch :: after →
    ∀ result ∈ after, ∃ failure, result = .error failure

structure Counted (bootID : String) (s : Epochs) : Prop where
  increasing : s.returned.Pairwise (· < ·)
  range : ∀ epoch ∈ s.returned, 1 ≤ epoch ∧ epoch ≤ maxKernelEpoch
  disk : ∀ epoch ∈ s.returned, ∃ state, s.disk.file = .holds state ∧ state.bootID = bootID ∧
    epoch ≤ state.highest
  memory : ∀ a ∈ s.allocators.head?, a.state.bootID = bootID ∧ ∀ epoch ∈ s.returned, epoch ≤ a.state.highest

omit [EpochDigest] in
theorem Counted.unique {s : Epochs} (counted : s.Counted bootID) : s.Unique where
  increasing := counted.increasing
  range := counted.range
  exhausted := by
    intro before after split result later
    cases result with
    | error failure => exact ⟨failure, rfl⟩
    | ok epoch =>
      -- it would have to lie above the highest epoch
      have listed : s.returned = before.filterMap Except.toOption ++
          maxKernelEpoch :: after.filterMap Except.toOption := by
        rw [returned, split, List.filterMap_append]
        rfl
      have among : epoch ∈ after.filterMap Except.toOption := List.mem_filterMap.mpr ⟨_, later, rfl⟩
      have ordered := counted.increasing
      rw [listed] at ordered
      have above := (List.pairwise_cons.mp (List.pairwise_append.mp ordered).2.1).1 epoch among
      have member : epoch ∈ s.returned := by
        rw [listed]
        exact List.mem_append_right _ (List.mem_cons_of_mem _ among)
      exact absurd (counted.range epoch member).2 (UInt16.not_le.mpr above)

end Epochs

def EpochCall.Orderly : EpochCall → Prop
  | .allocate index _ faults => index = 0 ∧ ¬LosesFile fun step => faults (.write step)
  | _ => True

variable (goos path bootID) in
theorem create_step :
    s.step goos path bootID (.create faults) = s ∨
      ∃ a, s.step goos path bootID (.create faults) = { s with allocators := a :: s.allocators } ∧
        a.state.bootID = bootID ∧
        ∀ state, s.disk.file = .holds state → state.bootID = bootID → a.state.highest = state.highest := by
  obtain ⟨same, opened⟩ := newEpochAllocator_spec path bootID faults s.disk
  simp only [Epochs.step]
  cases runs : (newEpochAllocator path bootID).run faults s.disk with
  | mk result disk =>
    rw [runs] at same opened
    cases same
    cases result with
    | error failure => exact .inl rfl
    | ok a => exact .inr ⟨a, rfl, opened a rfl⟩

variable (goos path bootID) in
theorem allocate_step (index : Nat) (now : Time) (faults : Faults EpochStep) :
    s.allocators[index]? = none ∧ s.step goos path bootID (.allocate index now faults) = s ∨
      ∃ a result after disk, s.allocators[index]? = some a ∧ Allocated faults a s.disk result after disk ∧
        s.step goos path bootID (.allocate index now faults) =
          { disk, allocators := s.allocators.set index after, results := s.results ++ [result] } := by
  cases found : s.allocators[index]? with
  | none =>
    refine .inl ⟨rfl, ?_⟩
    simp only [Epochs.step, found]
  | some a =>
    obtain ⟨⟨result, after⟩, returned, allocated⟩ := allocate_spec goos now a faults s.disk
    refine .inr ⟨a, result, after, _, rfl, allocated, ?_⟩
    simp only [Epochs.step, found]
    cases runs : (a.allocate goos now).run faults s.disk with
    | mk outcome disk =>
      rw [runs] at returned
      cases returned
      rfl

omit [EpochDigest] in
theorem returned_error (failure : String) :
    (Epochs.mk disk allocators (s.results ++ [.error failure])).returned = s.returned := by
  simp [Epochs.returned, Except.toOption]

omit [EpochDigest] in
theorem returned_ok (epoch : UInt16) :
    (Epochs.mk disk allocators (s.results ++ [.ok epoch])).returned = s.returned ++ [epoch] := by
  simp [Epochs.returned, Except.toOption]

omit [EpochDigest] in
theorem counted_allocated {s : Epochs} {a after : EpochAllocator} {disk : Replaced EpochState}
    {faults : Faults EpochStep} {result : Except String UInt16} {allocators : List EpochAllocator}
    (counted : s.Counted bootID) (newest : a ∈ s.allocators.head?)
    (allocated : Allocated faults a s.disk result after disk)
    (keeps : ¬LosesFile fun step => faults (.write step)) (head : ∀ a' ∈ allocators.head?, a' = after) :
    (Epochs.mk disk allocators (s.results ++ [result])).Counted bootID := by
  obtain ⟨boot, below⟩ := counted.memory a newest
  cases allocated with
  | refused exhausted =>
    have same := returned_error s s.disk allocators
    refine ⟨same _ ▸ counted.increasing, same _ ▸ counted.range, same _ ▸ counted.disk, fun a' first => ?_⟩
    rw [head a' first, same]
    exact ⟨boot, below⟩
  | failed state room kept bootKept next own file =>
    have same := returned_error s disk allocators
    refine ⟨same _ ▸ counted.increasing, same _ ▸ counted.range, ?_, fun a' first => ?_⟩
    · rw [same]
      intro epoch member
      rcases file with old | new | ⟨loses, _⟩
      · obtain ⟨stored, holds, bounds⟩ := counted.disk epoch member
        exact ⟨stored, old.trans holds, bounds⟩
      · refine ⟨state, new, own.trans boot, ?_⟩
        rw [next]
        exact UInt16.le_trans (below epoch member) (UInt16.le_of_lt (lt_succ_epoch room))
      · exact absurd loses keeps
    · rw [head a' first, same, kept, bootKept]
      exact ⟨boot, below⟩
  | returned state room highest bootKept next own file =>
    have fresh : ∀ epoch ∈ s.returned, epoch < a.state.highest + 1 :=
      fun epoch member => UInt16.lt_of_le_of_lt (below epoch member) (lt_succ_epoch room)
    have bounded : ∀ epoch ∈ s.returned ++ [a.state.highest + 1], epoch ≤ a.state.highest + 1 := by
      intro epoch member
      rcases List.mem_append.mp member with old | new
      · exact UInt16.le_of_lt (fresh epoch old)
      · rw [List.mem_singleton.mp new]
        exact UInt16.le_refl _
    constructor
    · rw [returned_ok, List.pairwise_append]
      refine ⟨counted.increasing, List.pairwise_singleton _ _, fun epoch old newer new => ?_⟩
      rw [List.mem_singleton.mp new]
      exact fresh epoch old
    · rw [returned_ok]
      intro epoch member
      rcases List.mem_append.mp member with old | new
      · exact counted.range epoch old
      · rw [List.mem_singleton.mp new]
        exact succ_epoch_range room
    · rw [returned_ok]
      intro epoch member
      refine ⟨state, file, own.trans boot, ?_⟩
      rw [next]
      exact bounded epoch member
    · intro a' first
      rw [head a' first, returned_ok, highest, bootKept]
      exact ⟨boot, bounded⟩

theorem counted_step {s : Epochs} {call : EpochCall} (counted : s.Counted bootID) (orderly : call.Orderly) :
    (s.step goos path bootID call).Counted bootID := by
  cases call with
  | crash => exact ⟨counted.increasing, counted.range, counted.disk, nofun⟩
  | create faults =>
    rcases create_step goos path bootID s faults with
      unchanged | ⟨a, opened, boot, counts⟩
    · rw [unchanged]
      exact counted
    · rw [opened]
      refine ⟨counted.increasing, counted.range, counted.disk, ?_⟩
      rintro _ ⟨⟩
      refine ⟨boot, fun epoch member => ?_⟩
      obtain ⟨state, holds, own, below⟩ := counted.disk epoch member
      rwa [counts state holds own]
  | allocate index now faults =>
    obtain ⟨rfl, keeps⟩ := orderly
    rcases allocate_step goos path bootID s 0 now faults with
      ⟨_, unchanged⟩ | ⟨a, result, after, disk, found, allocated, stepped⟩
    · rw [unchanged]
      exact counted
    · rw [stepped]
      refine counted_allocated counted (List.head?_eq_getElem?.trans found) allocated keeps ?_
      cases s.allocators with
      | nil => nofun
      | cons first rest =>
        rintro _ ⟨⟩
        rfl

theorem epochs_unique {s : Epochs} (disk : Replaced EpochState)
    (reached : Reachable (· = { disk }) (fun _ call => EpochCall.Orderly call) (Epochs.step goos path bootID) s) :
    s.Unique := by
  have counted : s.Counted bootID := by
    refine reached.invariant ?_ fun before call held orderly => counted_step held orderly
    rintro _ rfl
    exact ⟨.nil, nofun, nofun, nofun⟩
  exact counted.unique

end

instance : DecidablePred EpochCall.Orderly
  | .create _ => .isTrue trivial
  | .allocate _ _ _ => inferInstanceAs (Decidable (_ ∧ _))
  | .crash => .isTrue trivial

section Runs
local instance constantDigest : EpochDigest := ⟨fun _ => "digest"⟩

def reopened : List EpochCall :=
  [.create fun _ => none, .allocate 0 10 fun _ => none,
    .allocate 0 20 fun | .write .syncDirectory => some "input/output error" | _ => none,
    .crash, .create fun _ => none, .allocate 0 30 fun _ => none]

theorem epochs_unique_reopened :
    (reopened.foldl (Epochs.step "linux" "runtime-epoch.json" "boot-1") { disk := {} }).returned = [1, 3] ∧
      (reopened.foldl (Epochs.step "linux" "runtime-epoch.json" "boot-1") { disk := {} }).Unique := by
  have begins : Reachable (· = { disk := {} }) (fun _ call => EpochCall.Orderly call)
      (Epochs.step "linux" "runtime-epoch.json" "boot-1") { disk := {} } := .start rfl
  have allowed : Allowed (fun _ call => EpochCall.Orderly call) (Epochs.step "linux" "runtime-epoch.json" "boot-1")
      { disk := {} } reopened := by decide
  exact ⟨by decide, epochs_unique {} (begins.run allowed)⟩

/-- The second save removes the file and then fails to put the new one in its place. -/
def lostFile : List EpochCall :=
  [.create fun _ => none, .allocate 0 10 fun _ => none,
    .allocate 0 20 fun
      | .write .rename => some "no such file or directory"
      | .write .renameAgain => some "no such file or directory"
      | _ => none,
    .crash, .create fun _ => none, .allocate 0 30 fun _ => none]

theorem epoch_returned_again :
    (lostFile.foldl (Epochs.step "linux" "runtime-epoch.json" "boot-1") { disk := {} }).results =
        [.ok 1, .error "no such file or directory", .ok 1] ∧
      ¬(lostFile.foldl (Epochs.step "linux" "runtime-epoch.json" "boot-1") { disk := {} }).Unique := by
  refine ⟨by decide, fun unique => ?_⟩
  have increasing : [1, 1].Pairwise ((· < ·) : UInt16 → UInt16 → Prop) := unique.increasing
  revert increasing
  decide

end Runs

end Ngfw.Dataplane

import Ngfw.Engine.Gate

/-! # A temporary block the kernel refuses -/

namespace Ngfw.Engine
open Lib Lib.Netip Lib.Text Domain Session Connectivity

section
variable [CaseMap]

structure SameBlocks (before after : Runtime) : Prop where
  table : ∀ key, after.blocks.lookup key = before.blocks.lookup key
  evaluation : ∀ value, after.isBlocked value = before.isBlocked value
  gate : ∀ (service : GateService) (address : Addr),
    ((gateSourceBlocked address).alone { service with runtime := after }).2.1 =
      ((gateSourceBlocked address).alone { service with runtime := before }).2.1

omit [CaseMap] in
theorem sameBlocks_iff {before after : Runtime} :
    SameBlocks before after ↔ ∀ key, after.blocks.lookup key = before.blocks.lookup key := by
  constructor
  · exact SameBlocks.table
  intro table
  refine ⟨table, ?_, ?_⟩
  · intro value
    simp only [Runtime.isBlocked, table]
  · intro service address
    simp only [gateSourceBlocked, Call.read, Call.alone, table]

theorem addTemporaryBlock_failed {r : Runtime} {block : TemporaryBlock} {clock : Time}
    (reached : (r.addTemporaryBlock block none clock).2 = .ok ()) (failure : String) :
    ∃ indicator, Runtime.blockIndicator block.indicator = some indicator ∧
      (r.addTemporaryBlock block (some failure) clock).2 = .error failure ∧
      ∀ key, (r.addTemporaryBlock block (some failure) clock).1.blocks.lookup key =
        if key = indicator then none else r.blocks.lookup key := by
  unfold Runtime.addTemporaryBlock at reached ⊢
  split at reached
  · cases reached
  rename_i given
  rw [if_neg given]
  cases address : Runtime.blockIndicator block.indicator with
  | none =>
    rw [address] at reached
    cases reached
  | some indicator =>
    rw [address] at reached
    dsimp only at reached ⊢
    generalize (if block.expiresAt = 0 then clock + 300 * second else block.expiresAt) = expires at reached ⊢
    split at reached
    · cases reached
    split at reached
    · cases reached
    rename_i unexpired room
    rw [if_neg unexpired, if_neg room]
    refine ⟨indicator, rfl, rfl, ?_⟩
    intro key
    by_cases same : key = indicator
    · rw [if_pos same, same]
      exact AList.lookup_erase _ _
    · rw [if_neg same]
      exact (AList.lookup_erase_ne same).trans (AList.lookup_insert_ne same)

theorem failed_block_keeps_table_iff (r : Runtime) (block : TemporaryBlock) (failure : String) (clock : Time)
    (reached : (r.addTemporaryBlock block none clock).2 = .ok ()) :
    SameBlocks r (r.addTemporaryBlock block (some failure) clock).1 ↔
      ∀ indicator, Runtime.blockIndicator block.indicator = some indicator → r.blocks.lookup indicator = none := by
  obtain ⟨indicator, address, -, table⟩ := addTemporaryBlock_failed reached failure
  rw [sameBlocks_iff, address]
  constructor
  · rintro same _ ⟨⟩
    have kept := same indicator
    rw [table, if_pos rfl] at kept
    exact kept.symm
  · intro absent key
    rw [table]
    split_ifs with here
    · rw [here, absent indicator rfl]
    · rfl

end

attribute [local instance] Text.asciiCaseMap

def emptyRuntime : Runtime :=
  newRuntime { generation := 1, defaultDeny := true } 1 defaultRuntimeLimits

def scannerBlock : TemporaryBlock :=
  { id := "scanner", indicator := "10.0.0.5", expiresAt := 600 * second }

def blockedRuntime : Runtime :=
  (emptyRuntime.addTemporaryBlock scannerBlock none second).1

theorem failed_block_keeps_table_new :
    SameBlocks blockedRuntime (blockedRuntime.addTemporaryBlock { scannerBlock with indicator := "10.0.0.9" }
      (some "nft: operation not permitted") second).1 := by
  refine (failed_block_keeps_table_iff blockedRuntime _ "nft: operation not permitted" second
    (by decide +kernel)).mpr ?_
  have absent : ∀ indicator ∈ Runtime.blockIndicator "10.0.0.9", blockedRuntime.blocks.lookup indicator = none := by
    decide +kernel
  exact absent

def extendedRuntime : Runtime × Except String Unit :=
  blockedRuntime.addTemporaryBlock { scannerBlock with id := "scanner-again", expiresAt := 900 * second }
    (some "nft: operation not permitted") (2 * second)

theorem failed_block_unblocks :
    extendedRuntime.2 = .error "nft: operation not permitted" ∧
      (blockedRuntime.blocks.lookup "10.0.0.5").any (2 * second < ·.expiresAt) = true ∧
      ¬SameBlocks blockedRuntime extendedRuntime.1 := by
  refine ⟨by decide +kernel, by decide +kernel, fun same => ?_⟩
  have before : (blockedRuntime.blocks.lookup "10.0.0.5").isSome = true := by decide +kernel
  have after : extendedRuntime.1.blocks.lookup "10.0.0.5" = none := by decide +kernel
  rw [← same.table, after] at before
  cases before

end Ngfw.Engine

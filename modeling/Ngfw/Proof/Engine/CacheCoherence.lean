import Ngfw.Lib.Run
import Ngfw.Engine.Runtime
import Ngfw.Proof.Session.Store

/-!
# Coherence of cached decisions

A cached decision is answered without a look at the session's policy view. It stays the program's own as long as
no record moves a cached session to a view that the program decides otherwise, and no guard fails for a source
that was blocked before.
-/

namespace Ngfw.Engine
open Lib Lib.Text Domain Session Connectivity RuntimeStore

def DecidedBy [CaseMap] (program : Program) (v : RuntimeSession) : Prop :=
  v.decision = (program.evaluate (sessionView v)).action ∧
    v.matchedPolicyID = (program.evaluate (sessionView v)).policyID

def Answerable (r : Runtime) (v : RuntimeSession) : Prop :=
  v.revoked = false ∧ v.cacheState = .cached ∧ v.policyGeneration = r.generation ∧ r.isBlocked v = false

def CacheCoherent [CaseMap] (r : Runtime) : Prop :=
  r.store.byID.All fun _ v => isLocal v = false → Answerable r v → DecidedBy r.program v

def NewRuntime (r : Runtime) : Prop :=
  ∃ program generation limits, r = newRuntime program generation limits

def observedSession (program : Program) (record : Record) (v : RuntimeSession) : RuntimeSession :=
  let seen := withReply (completeRecord record) v
  { seen with
    sourceZone := (inferSessionZones program seen).1
    destinationZone := (inferSessionZones program seen).2 }

def KeepsDecision [CaseMap] (program : Program) (record : Record) (v : RuntimeSession) : Prop :=
  let seen := observedSession program record v
  isLocal seen = true ∨
    (program.evaluate (sessionView seen)).action = (program.evaluate (sessionView v)).action ∧
      (program.evaluate (sessionView seen)).policyID = (program.evaluate (sessionView v)).policyID

/-- While the runtime is not degraded, no record moves a session with a cached decision to a view that is decided
otherwise; and no guard fails for a source that is blocked already. -/
def KeepsCache [CaseMap] (r : Runtime) : RuntimeOp → Prop
  | .applyRecord record _ _ _ => ∀ id v, r.store.mergeTarget record = some (id, v) → r.degraded = false →
      Answerable r v → KeepsDecision r.program record v
  | .addTemporaryBlock block (some _) _ => ∀ indicator, Runtime.blockIndicator block.indicator = some indicator →
      r.blocks.lookup indicator = none
  | _ => True

/-! ## The invariant -/

def Settled [CaseMap] (r : Runtime) (id : String) (v : RuntimeSession) : Prop :=
  Answerable r v → r.revoked.lookup id = none ∧ DecidedBy r.program v

structure Good [CaseMap] (r : Runtime) (id : String) (v : RuntimeSession) : Prop where
  keyed : v.sessionID = id
  zoned : v.revoked = false → (v.sourceZone, v.destinationZone) = inferSessionZones r.program v
  settled : Settled r id v

def Coherent [CaseMap] (r : Runtime) : Prop :=
  r.store.byID.All (Good r)

structure SameContext (r after : Runtime) : Prop where
  program : after.program = r.program
  generation : after.generation = r.generation
  blocks : after.blocks = r.blocks
  revoked : after.revoked = r.revoked

structure Wrote (r after : Runtime) (id : String) (v : RuntimeSession) : Prop where
  context : SameContext r after
  puts : GoMap.Puts r.store.byID after.store.byID id v

structure SameFlow (v w : RuntimeSession) : Prop where
  sessionID : w.sessionID = v.sessionID
  originalTuple : w.originalTuple = v.originalTuple
  translatedTuple : w.translatedTuple = v.translatedTuple
  nat : w.nat = v.nat
  revoked : w.revoked = v.revoked

section
variable {r after : Runtime} {id : String} {v w : RuntimeSession}

theorem SameContext.refl (r : Runtime) : SameContext r r := ⟨rfl, rfl, rfl, rfl⟩

theorem SameContext.trans {last : Runtime} (first : SameContext r after) (second : SameContext after last) :
    SameContext r last :=
  ⟨second.program.trans first.program, second.generation.trans first.generation,
    second.blocks.trans first.blocks, second.revoked.trans first.revoked⟩

section
variable (r : Runtime) (store : RuntimeStore)

@[simp] theorem setStore_store : (r.setStore store).store = store := rfl

@[simp] theorem setStore_program : (r.setStore store).program = r.program := rfl

theorem SameContext.setStore : SameContext r (r.setStore store) :=
  ⟨rfl, rfl, rfl, rfl⟩

end

theorem Wrote.trans {last : Runtime} (first : Wrote r after id v) (second : Wrote after last id w) :
    Wrote r last id w :=
  ⟨first.context.trans second.context, first.puts.trans second.puts⟩

theorem SameContext.answerable (same : SameContext r after) : Answerable after v ↔ Answerable r v := by
  simp [Answerable, Runtime.isBlocked, same.generation, same.blocks]

theorem SameContext.settled [CaseMap] (same : SameContext r after) : Settled after id v ↔ Settled r id v := by
  simp [Settled, same.answerable, same.revoked, same.program]

theorem SameContext.good [CaseMap] (same : SameContext r after) : Good after id v ↔ Good r id v := by
  constructor
  · rintro ⟨keyed, zoned, settled⟩
    exact ⟨keyed, by rwa [same.program] at zoned, same.settled.mp settled⟩
  · rintro ⟨keyed, zoned, settled⟩
    exact ⟨keyed, by rwa [same.program], same.settled.mpr settled⟩

theorem SameFlow.refl (v : RuntimeSession) : SameFlow v v := ⟨rfl, rfl, rfl, rfl, rfl⟩

theorem SameFlow.trans {u : RuntimeSession} (first : SameFlow u v) (second : SameFlow v w) : SameFlow u w :=
  ⟨second.sessionID.trans first.sessionID, second.originalTuple.trans first.originalTuple,
    second.translatedTuple.trans first.translatedTuple, second.nat.trans first.nat,
    second.revoked.trans first.revoked⟩

theorem SameFlow.inferSessionZones (same : SameFlow v w) (program : Program) :
    inferSessionZones program w = inferSessionZones program v := by
  unfold Engine.inferSessionZones policyTupleForSession
  rw [same.nat, same.translatedTuple, same.originalTuple]

theorem inferSessionZones_generation (program : Program) (generation : UInt64) (v : RuntimeSession) :
    inferSessionZones { program with generation := generation } v = inferSessionZones program v := rfl

theorem Coherent.sameSessions [CaseMap] (coherent : Coherent r) (context : SameContext r after)
    (same : after.store.byID = r.store.byID) : Coherent after := by
  unfold Coherent
  rw [same]
  exact coherent.imp fun _ _ => context.good.mpr

theorem Coherent.wrote [CaseMap] (coherent : Coherent r) (wrote : Wrote r after id v) (good : Good r id v) :
    Coherent after :=
  (coherent.puts wrote.puts good).imp fun _ _ => wrote.context.good.mpr

def withBlocks (r : Runtime) (blocks : GoMap String TemporaryBlock) : Runtime :=
  { r with blocks := blocks }

theorem isBlocked_insert {indicator : String} {block : TemporaryBlock}
    (blocked : r.isBlocked v) : (withBlocks r (r.blocks.insert indicator block)).isBlocked v = true := by
  unfold Runtime.isBlocked withBlocks at *
  by_cases same : v.originalTuple.srcIP.string = indicator
  · rw [same, AList.lookup_insert]
    rfl
  · rw [AList.lookup_insert_ne same]
    exact blocked

theorem isBlocked_erase {indicator : String}
    (differs : v.originalTuple.srcIP.string ≠ indicator) (blocked : r.isBlocked v) :
    (withBlocks r (r.blocks.erase indicator)).isBlocked v = true := by
  unfold Runtime.isBlocked withBlocks at *
  rw [AList.lookup_erase_ne differs]
  exact blocked

theorem settled_of_uncached [CaseMap] (uncached : v.cacheState ≠ .cached) : Settled r id v :=
  fun answerable => absurd answerable.2.1 uncached

theorem settled_of_revoked [CaseMap] (revoked : v.revoked) : Settled r id v := by
  intro answerable
  rw [answerable.1] at revoked
  cases revoked

theorem settled_of_blocked [CaseMap] (blocked : r.isBlocked v) : Settled r id v := by
  intro answerable
  rw [answerable.2.2.2] at blocked
  cases blocked

end

/-! ## Store operations on one session -/

section
variable {s : RuntimeStore} {id : String} {v : RuntimeSession}

section
variable (found : s.byID.lookup id = some v)
include found

theorem setZones_spec (source destination : String) :
    ∃ w, (s.setZones id source destination).2 = .ok w ∧
      GoMap.Puts s.byID (s.setZones id source destination).1.byID id w ∧
      core w = { core v with sourceZone := source, destinationZone := destination } ∧
      (w.revision = v.revision → core w = core v) := by
  unfold setZones
  rw [found]
  dsimp only
  split_ifs with known
  · obtain ⟨rfl, rfl⟩ := known
    exact ⟨v, rfl, GoMap.puts_self found, rfl, fun _ => rfl⟩
  · refine ⟨_, rfl, GoMap.puts_insert _ _ _, rfl, fun unchanged => ?_⟩
    exact absurd unchanged (by simp)

theorem setDecision_spec (expectedRevision generation : UInt64)
    (action : Domain.Decision) (policyID reason : String) :
    s.setDecision id expectedRevision generation action policyID reason = (s, .error .staleDecision) ∧
        (expectedRevision ≠ 0 ∧ v.revision ≠ expectedRevision ∨ v.revoked = true ∨
          generation < v.policyGeneration) ∨
      s.setDecision id expectedRevision generation action policyID reason =
        (s.putSession id (decidedSession v generation action policyID reason),
          .ok (decidedSession v generation action policyID reason)) := by
  unfold setDecision
  rw [found]
  dsimp only
  split_ifs with stale
  · exact .inl ⟨rfl, stale⟩
  · exact .inr rfl

theorem markEvaluationUnavailable_spec (generation : UInt64) (reason : String) :
    ∃ w, GoMap.Puts s.byID (s.markEvaluationUnavailable id generation reason).1.byID id w ∧
      SameFlow v w ∧ w.sourceZone = v.sourceZone ∧ w.destinationZone = v.destinationZone ∧
      w.cacheState = .notEvaluated := by
  unfold markEvaluationUnavailable
  rw [found]
  dsimp only
  split_ifs with known
  · exact ⟨v, GoMap.puts_self found, .refl v, rfl, rfl, known.1⟩
  · exact ⟨_, GoMap.puts_insert _ _ _, ⟨rfl, rfl, rfl, rfl, rfl⟩, rfl, rfl, rfl⟩

theorem invalidate_spec (generation : UInt64) (reason : String) (now : Time) :
    s.invalidate id generation reason now =
      (s.countInvalidated.putSession id (invalidateSession v generation reason now),
        .ok (invalidateSession v generation reason now)) := by
  simp [invalidate, found]

end

theorem invalidateSession_uncached (v : RuntimeSession) (generation : UInt64) (reason : String) (now : Time) :
    (invalidateSession v generation reason now).cacheState ≠ .cached := by
  simp [invalidateSession]

end

/-! ## Deciding one session -/

structure Decided (r after : Runtime) (id : String) (v w : RuntimeSession) : Prop where
  wrote : Wrote r after id w
  flow : SameFlow v w
  sourceZone : w.sourceZone = v.sourceZone
  destinationZone : w.destinationZone = v.destinationZone

theorem decided_self {r : Runtime} {id : String} {v : RuntimeSession}
    (found : r.store.byID.lookup id = some v) : Decided r r id v v :=
  ⟨⟨.refl r, GoMap.puts_self found⟩, .refl v, rfl, rfl⟩

theorem decided_put (r : Runtime) (id : String) (v : RuntimeSession) (generation : UInt64)
    (action : Domain.Decision) (policyID reason : String) :
    Decided r
      (r.setStore (r.store.putSession id (decidedSession v generation action policyID reason))) id v
      (decidedSession v generation action policyID reason) :=
  ⟨⟨.setStore _ _, GoMap.puts_insert _ _ _⟩, ⟨rfl, rfl, rfl, rfl, rfl⟩, rfl, rfl⟩

theorem Decided.setDegraded {r after : Runtime} {id : String} {v w : RuntimeSession}
    (decided : Decided r after id v w) : Decided r after.setDegraded id v w :=
  { decided with wrote := ⟨⟨decided.wrote.context.program, decided.wrote.context.generation,
      decided.wrote.context.blocks, decided.wrote.context.revoked⟩, decided.wrote.puts⟩ }

section
variable [CaseMap] {r : Runtime} {id : String} {v : RuntimeSession}

def Pending (r : Runtime) (id : String) (v : RuntimeSession) : Prop :=
  Answerable r v → r.revoked.lookup id = none ∧ (r.degraded = false → DecidedBy r.program v)

theorem Settled.pending (settled : Settled r id v) : Pending r id v :=
  fun answerable => ⟨(settled answerable).1, fun _ => (settled answerable).2⟩

theorem evaluateOnce_spec (found : r.store.byID.lookup id = some v) (pending : Pending r id v) :
    ∃ w, Decided r (r.evaluateOnce id).1 id v w ∧ Settled r id w := by
  unfold Runtime.evaluateOnce
  rw [found]
  dsimp only
  split_ifs with blocked tabled cached
  · rcases setDecision_spec found 0 r.generation .drop "" "temporary block overrides cached allow" with
      ⟨refused, _⟩ | put
    · rw [refused]
      exact ⟨v, decided_self found, settled_of_blocked blocked⟩
    · rw [put]
      exact ⟨_, decided_put _ _ _ _ _ _ _, settled_of_blocked blocked⟩
  · refine ⟨v, decided_self found, fun answerable => ?_⟩
    rw [(pending answerable).1] at tabled
    cases tabled
  · refine ⟨v, decided_self found, fun answerable => ⟨(pending answerable).1, ?_⟩⟩
    exact (pending answerable).2 (by simpa using cached.2.2.1)
  · rcases setDecision_spec found v.revision r.generation (r.program.evaluate (sessionView v)).action
      (r.program.evaluate (sessionView v)).policyID (r.program.evaluate (sessionView v)).reason with
      ⟨refused, stale⟩ | put
    · -- the revision is the session's own, so only a revocation or a later generation refuses the decision
      rw [refused]
      refine ⟨v, decided_self found, fun answerable => ?_⟩
      rcases stale with ⟨_, differs⟩ | revoked | later
      · exact absurd rfl differs
      · rw [answerable.1] at revoked
        cases revoked
      · rw [answerable.2.2.1] at later
        exact absurd later (UInt64.lt_irrefl _)
    · rw [put]
      refine ⟨_, decided_put _ _ _ _ _ _ _, fun _ => ⟨by simpa using tabled, rfl, rfl⟩⟩

theorem evaluateOnce_stale (stale : (r.evaluateOnce id).2.2) : (r.evaluateOnce id).1 = r := by
  unfold Runtime.evaluateOnce at stale ⊢
  cases found : r.store.byID.lookup id with
  | none => rfl
  | some v =>
    rw [found] at stale
    dsimp only at stale ⊢
    split_ifs at stale ⊢
    rcases setDecision_spec found v.revision r.generation (r.program.evaluate (sessionView v)).action
      (r.program.evaluate (sessionView v)).policyID (r.program.evaluate (sessionView v)).reason with
      ⟨refused, _⟩ | put
    · rw [refused]
      rfl
    · rw [put] at stale
      cases stale

theorem evaluate_eq_once (r : Runtime) (id : String) : (r.evaluate id).1 = (r.evaluateOnce id).1 := by
  have retry : ∀ retries, (r.evaluateRetry id retries).1 = (r.evaluateOnce id).1 := by
    intro retries
    induction retries with
    | zero => rfl
    | succ retries ih =>
      unfold Runtime.evaluateRetry
      dsimp only
      split_ifs with stale
      · rw [evaluateOnce_stale stale, ih, evaluateOnce_stale stale]
      · rfl
  exact retry 2

theorem evaluate_spec (found : r.store.byID.lookup id = some v) (pending : Pending r id v) :
    ∃ w, Decided r (r.evaluate id).1 id v w ∧ Settled r id w := by
  rw [evaluate_eq_once]
  exact evaluateOnce_spec found pending

theorem evaluate_missing (missing : r.store.byID.lookup id = none) : (r.evaluate id).1 = r := by
  rw [evaluate_eq_once]
  simp [Runtime.evaluateOnce, missing]

theorem evaluateObserved_spec {value : RuntimeSession} (found : r.store.byID.lookup value.sessionID = some v)
    (pending : isLocal value = false → Pending r value.sessionID v) :
    ∃ w, Decided r (r.evaluateObserved value) value.sessionID v w ∧ Settled r value.sessionID w := by
  unfold Runtime.evaluateObserved
  split_ifs with isLocal
  · obtain ⟨w, puts, flow, source, destination, uncached⟩ := markEvaluationUnavailable_spec found r.generation
      "local traffic is outside the M2 forward-policy path"
    refine ⟨w, ⟨⟨.setStore _ _, puts⟩, flow, source, destination⟩, settled_of_uncached ?_⟩
    rw [uncached]
    decide
  · obtain ⟨w, decided, settled⟩ := evaluate_spec found (pending (by simpa using isLocal))
    refine ⟨w, ?_, settled⟩
    dsimp only
    split
    · exact decided
    · exact decided
    · exact decided
    · exact decided.setDegraded

theorem Decided.good {after : Runtime} {w : RuntimeSession} (decided : Decided r after id v w)
    (keyed : v.sessionID = id)
    (zoned : v.revoked = false → (v.sourceZone, v.destinationZone) = inferSessionZones r.program v)
    (settled : Settled r id w) : Good r id w := by
  refine ⟨decided.flow.sessionID.trans keyed, fun live => ?_, settled⟩
  rw [decided.sourceZone, decided.destinationZone, decided.flow.inferSessionZones]
  exact zoned (decided.flow.revoked ▸ live)

theorem Coherent.evaluate (coherent : Coherent r) (id : String) : Coherent (r.evaluate id).1 := by
  cases found : r.store.byID.lookup id with
  | none =>
    rw [evaluate_missing found]
    exact coherent
  | some v =>
    have good := coherent id v found
    obtain ⟨w, decided, settled⟩ := evaluate_spec found good.settled.pending
    exact coherent.wrote decided.wrote (decided.good good.keyed good.zoned settled)

end

/-! ## Sweeps over all sessions -/

theorem mem_listSessions {s : RuntimeStore} {v : RuntimeSession} :
    v ∈ listSessions s ↔ ∃ id, s.byID.lookup id = some v := by
  rw [listSessions, List.mem_insertionSort, GoMap.mem_values]

section
variable [CaseMap] {r : Runtime} {current : RuntimeSession}

variable {base : Runtime} {v : RuntimeSession} {reason id indicator : String} {clock : Time}

/-- A sweep visits snapshots of live sessions and rewrites those it hits, each into a good one. Then every session
that was good before or is hit by the sweep is good after it. `kin` is what a snapshot says of the live session. -/
theorem sweep_good {visit : Runtime → RuntimeSession → Runtime} (hits : RuntimeSession → Prop)
    (kin : RuntimeSession → RuntimeSession → Prop)
    (hit : ∀ r current v, SameContext base r → hits current →
      r.store.byID.lookup current.sessionID = some v → kin current v →
      ∃ w, Wrote r (visit r current) current.sessionID w ∧ (∀ other, kin other v → kin other w) ∧
        Good base current.sessionID w)
    (miss : ∀ r current, ¬ hits current → visit r current = r) :
    ∀ (snapshots : List RuntimeSession) (r : Runtime), SameContext base r →
      (∀ current ∈ snapshots, ∃ v, r.store.byID.lookup current.sessionID = some v ∧ kin current v) →
      (r.store.byID.All fun id v =>
        Good base id v ∨ ∃ current ∈ snapshots, hits current ∧ current.sessionID = id) →
      Coherent (snapshots.foldl visit r) := by
  intro snapshots
  induction snapshots with
  | nil =>
    intro r context _ good
    exact good.imp fun id v either => context.good.mpr (by simpa using either)
  | cons current rest ih =>
    intro r context live good
    rw [List.foldl_cons]
    by_cases hitting : hits current
    · obtain ⟨v, found, related⟩ := live current List.mem_cons_self
      obtain ⟨w, wrote, kept, goodNow⟩ := hit r current v context hitting found related
      refine ih (visit r current) (context.trans wrote.context) ?_ ?_
      · intro other member
        obtain ⟨u, foundOther, relatedOther⟩ := live other (List.mem_cons_of_mem _ member)
        by_cases same : other.sessionID = current.sessionID
        · rw [same, found] at foundOther
          cases foundOther
          exact ⟨w, by rw [same]; exact wrote.puts.here, kept other relatedOther⟩
        · exact ⟨u, by rw [wrote.puts.elsewhere _ same]; exact foundOther, relatedOther⟩
      · intro id u foundAfter
        by_cases same : id = current.sessionID
        · subst same
          rw [wrote.puts.here] at foundAfter
          cases foundAfter
          exact .inl goodNow
        · rw [wrote.puts.elsewhere id same] at foundAfter
          rcases good id u foundAfter with good | ⟨other, member, hitsOther, named⟩
          · exact .inl good
          · rcases List.mem_cons.mp member with rfl | member
            · exact absurd named.symm same
            · exact .inr ⟨other, member, hitsOther, named⟩
    · rw [miss r current hitting]
      refine ih r context (fun other member => live other (List.mem_cons_of_mem _ member)) ?_
      refine good.imp fun id u either => either.imp_right ?_
      rintro ⟨other, member, hitsOther, named⟩
      rcases List.mem_cons.mp member with rfl | member
      · exact absurd hitsOther hitting
      · exact ⟨other, member, hitsOther, named⟩

/-! ### Activation -/

theorem good_of_invalidated {w : RuntimeSession} (keyed : v.sessionID = id) (flow : SameFlow v w)
    (zoned : v.revoked = false → (w.sourceZone, w.destinationZone) = inferSessionZones base.program v)
    (uncached : w.cacheState ≠ .cached) : Good base id w := by
  refine ⟨flow.sessionID.trans keyed, fun live => ?_, settled_of_uncached uncached⟩
  rw [flow.inferSessionZones]
  exact zoned (flow.revoked ▸ live)

theorem activateOne_hit {program : Program} {generation : UInt64} (context : SameContext base r)
    (inForce : base.program = { program with generation := generation }) (live : current.revoked = false)
    (found : r.store.byID.lookup current.sessionID = some v) (flow : SameFlow current v) :
    ∃ w, Wrote r (Runtime.activateOne program generation reason clock r current) current.sessionID w ∧
      SameFlow v w ∧ Good base current.sessionID w := by
  obtain ⟨zoned, outcome, puts, sameCore, _⟩ := setZones_spec found (inferSessionZones program current).1
    (inferSessionZones program current).2
  simp only [core, Core.mk.injEq] at sameCore
  obtain ⟨zonedID, original, _, translated, nat, source, destination, _, _, _, _, _, revoked, _⟩ := sameCore
  have zonedFlow : SameFlow v zoned := ⟨zonedID, original, translated, nat, revoked⟩
  have key : zoned.sessionID = current.sessionID := zonedID.trans flow.sessionID
  have invalidated := invalidate_spec (by rw [key]; exact puts.here :
    (r.store.setZones current.sessionID (inferSessionZones program current).1
      (inferSessionZones program current).2).1.byID.lookup zoned.sessionID = some zoned) generation reason clock
  unfold Runtime.activateOne
  simp only [live, Bool.false_eq_true, if_false, outcome, invalidated]
  rw [key]
  have uncached := invalidateSession_uncached zoned generation reason clock
  set stale := invalidateSession zoned generation reason clock with staleDef
  have staleFlow : SameFlow zoned stale := ⟨rfl, rfl, rfl, rfl, rfl⟩
  set middle := r.setStore _ with middleDef
  have wroteStale : Wrote r middle current.sessionID stale :=
    ⟨.setStore _ _, puts.trans (GoMap.puts_insert _ _ _)⟩
  have zones : (stale.sourceZone, stale.destinationZone) = inferSessionZones base.program v := by
    rw [inForce, inferSessionZones_generation, flow.inferSessionZones]
    exact Prod.ext source destination
  have keyed : v.sessionID = current.sessionID := flow.sessionID
  split_ifs with localSession
  · have staleKey : stale.sessionID = current.sessionID := key
    have found : middle.store.byID.lookup stale.sessionID = some stale := by
      rw [staleKey]
      exact wroteStale.puts.here
    obtain ⟨w, decided, settled⟩ := evaluateObserved_spec found fun _ => (settled_of_uncached uncached).pending
    rw [staleKey] at decided settled
    have wholeFlow := (zonedFlow.trans staleFlow).trans decided.flow
    refine ⟨w, wroteStale.trans decided.wrote, wholeFlow, wholeFlow.sessionID.trans keyed, fun _ => ?_,
      (context.trans wroteStale.context).settled.mp settled⟩
    rw [decided.sourceZone, decided.destinationZone, wholeFlow.inferSessionZones]
    exact zones
  · exact ⟨stale, wroteStale, zonedFlow.trans staleFlow,
      good_of_invalidated keyed (zonedFlow.trans staleFlow) (fun _ => zones) uncached⟩

theorem Coherent.listed (coherent : Coherent r)
    (listed : current ∈ listSessions r.store) : r.store.byID.lookup current.sessionID = some current := by
  obtain ⟨id, found⟩ := mem_listSessions.mp listed
  rw [(coherent id current found).keyed]
  exact found

theorem Coherent.activate (coherent : Coherent r) (program : Program) (generation : UInt64) (reason : String)
    (clock : Time) : Coherent (r.activate program generation reason clock).1 := by
  unfold Runtime.activate
  split_ifs
  · exact coherent
  · exact coherent
  · dsimp only
    refine sweep_good (fun current => current.revoked = false) SameFlow
      (fun r current v context live found flow => ?_) (fun r current revoked => ?_) _ _ (.refl _) ?_ ?_
    · obtain ⟨w, wrote, kept, good⟩ := activateOne_hit context rfl live found flow
      exact ⟨w, wrote, fun other related => related.trans kept, good⟩
    · simp [Runtime.activateOne, eq_true_of_ne_false revoked]
    · intro current listed
      exact ⟨current, coherent.listed listed, .refl current⟩
    · intro id v found
      have good := coherent id v found
      cases revoked : v.revoked with
      | false => exact .inr ⟨v, mem_listSessions.mpr ⟨id, found⟩, revoked, good.keyed⟩
      | true =>
        refine .inl ⟨good.keyed, fun live => ?_, settled_of_revoked revoked⟩
        rw [revoked] at live
        cases live

/-! ### Temporary blocks -/

structure Kin (program : Program) (current v : RuntimeSession) : Prop where
  flow : SameFlow current v
  zoned : v.revoked = false → (v.sourceZone, v.destinationZone) = inferSessionZones program v

theorem reevaluateOne_hit (context : SameContext base r)
    (matching : equalFold current.originalTuple.srcIP.string indicator)
    (found : r.store.byID.lookup current.sessionID = some v) (kin : Kin base.program current v) :
    ∃ w, Wrote r (Runtime.reevaluateOne indicator reason clock r current) current.sessionID w ∧
      (∀ other, Kin base.program other v → Kin base.program other w) ∧ Good base current.sessionID w := by
  unfold Runtime.reevaluateOne Runtime.invalidate
  simp only [matching, if_true, invalidate_spec found]
  have uncached := invalidateSession_uncached v r.generation reason clock
  set stale := invalidateSession v r.generation reason clock
  set middle := r.setStore _ with middleDef
  have wroteStale : Wrote r middle current.sessionID stale := ⟨.setStore _ _, GoMap.puts_insert _ _ _⟩
  obtain ⟨w, decided, settled⟩ := evaluateObserved_spec (r := middle) (v := stale) wroteStale.puts.here
    fun _ => (settled_of_uncached uncached).pending
  have staleFlow : SameFlow v stale := ⟨rfl, rfl, rfl, rfl, rfl⟩
  have good := decided.good (staleFlow.sessionID.trans kin.flow.sessionID) (fun live => by
    rw [wroteStale.context.program, context.program]
    exact kin.zoned live) settled
  have baseGood := (context.trans wroteStale.context).good.mp good
  exact ⟨w, wroteStale.trans decided.wrote,
    fun other related => ⟨(related.flow.trans staleFlow).trans decided.flow, baseGood.zoned⟩, baseGood⟩

theorem reevaluate_sweep {snapshots : List RuntimeSession}
    (listed : ∀ current ∈ snapshots, r.store.byID.lookup current.sessionID = some current)
    (zoned : r.store.byID.All fun id v => v.sessionID = id ∧
      (v.revoked = false → (v.sourceZone, v.destinationZone) = inferSessionZones r.program v))
    (settled : r.store.byID.All fun id v => Settled r id v ∨
      v ∈ snapshots ∧ equalFold v.originalTuple.srcIP.string indicator = true) :
    Coherent (snapshots.foldl (Runtime.reevaluateOne indicator reason clock) r) := by
  refine sweep_good (fun current => equalFold current.originalTuple.srcIP.string indicator = true) _
    (fun r current v context matching found kin => reevaluateOne_hit context matching found kin)
    (fun r current differs => ?_) snapshots r (.refl r) ?_ ?_
  · simp [Runtime.reevaluateOne, differs]
  · intro current member
    exact ⟨current, listed current member, .refl current, (zoned _ _ (listed current member)).2⟩
  · intro id v found
    obtain ⟨keyed, zones⟩ := zoned id v found
    rcases settled id v found with settled | ⟨member, matching⟩
    · exact .inl ⟨keyed, zones, settled⟩
    · exact .inr ⟨v, member, matching, keyed⟩

theorem Settled.withBlocks (settled : Settled r id v)
    (blocks : GoMap String TemporaryBlock)
    (blocked : r.isBlocked v = true → (Engine.withBlocks r blocks).isBlocked v = true) :
    Settled (Engine.withBlocks r blocks) id v := by
  rintro ⟨live, cached, current, free⟩
  refine settled ⟨live, cached, current, ?_⟩
  by_contra stillBlocked
  rw [blocked (eq_true_of_ne_false stillBlocked)] at free
  cases free

theorem Coherent.addTemporaryBlock (coherent : Coherent r) (block : TemporaryBlock)
    (guardFailure : Option String) (clock : Time)
    (unblocked : guardFailure.isSome → ∀ indicator, Runtime.blockIndicator block.indicator = some indicator →
      r.blocks.lookup indicator = none) :
    Coherent (r.addTemporaryBlock block guardFailure clock).1 := by
  unfold Runtime.addTemporaryBlock
  split
  · exact coherent
  · cases named : Runtime.blockIndicator block.indicator with
    | none => exact coherent
    | some indicator =>
      dsimp only
      generalize (if block.expiresAt = 0 then clock + 300 * second else block.expiresAt) = expiresAt
      split
      · exact coherent
      · split
        · exact coherent
        · cases guardFailure with
          | some failure =>
            -- the entry is new, so taking it back leaves the blocks of before
            refine coherent.imp fun id v good => ⟨good.keyed, good.zoned, ?_⟩
            refine good.settled.withBlocks ((r.blocks.insert indicator _).erase indicator) ?_
            intro blocked
            have differs : v.originalTuple.srcIP.string ≠ indicator := by
              intro same
              rw [Runtime.isBlocked, same, unblocked rfl indicator named] at blocked
              cases blocked
            exact isBlocked_erase (r := withBlocks r _) differs (isBlocked_insert blocked)
          | none =>
            refine reevaluate_sweep (fun current listed => coherent.listed listed) ?_ ?_
            · exact coherent.imp fun id v good => ⟨good.keyed, good.zoned⟩
            · exact coherent.imp fun id v good => .inl (good.settled.withBlocks _ isBlocked_insert)

theorem Coherent.removeTemporaryBlock (coherent : Coherent r) (indicator : String)
    (guardFailure : Option String) (clock : Time) (order : List String) :
    Coherent (r.removeTemporaryBlock indicator guardFailure clock order).1 := by
  unfold Runtime.removeTemporaryBlock
  generalize r.blockKey indicator order = key
  cases guardFailure with
  | some failure => exact coherent
  | none =>
    dsimp only [Runtime.reevaluateSource]
    refine reevaluate_sweep (fun current listed => coherent.listed (List.mem_filter.mp listed).1) ?_ ?_
    · exact coherent.imp fun id v good => ⟨good.keyed, good.zoned⟩
    · intro id v found
      cases revoked : v.revoked with
      | true => exact .inl (settled_of_revoked revoked)
      | false =>
        by_cases same : v.originalTuple.srcIP.string = key
        · refine .inr ⟨List.mem_filter.mpr ⟨mem_listSessions.mpr ⟨id, found⟩, by simp [revoked]⟩, ?_⟩
          simp [same, equalFold]
        · exact .inl ((coherent id v found).settled.withBlocks _ (isBlocked_erase same))

/-! ### Revocation -/

theorem Coherent.revoke (coherent : Coherent r) (id reason : String) (guardFailure : Option String)
    (victim : String) (clock : Time) : Coherent (r.revoke id reason guardFailure victim clock).1 := by
  unfold Runtime.revoke
  cases found : r.store.byID.lookup id with
  | none => exact coherent
  | some v =>
    cases guardFailure with
    | some failure => exact coherent
    | none =>
      dsimp only
      generalize (if r.maxRevoked ≤ 0 then 10000 else r.maxRevoked) = limit
      intro other u foundAfter
      simp only [markRevoked, found, byID_putSession,
        byID_countInvalidated] at foundAfter
      by_cases same : other = id
      · subst same
        rw [AList.lookup_insert] at foundAfter
        cases foundAfter
        refine ⟨(coherent other v found).keyed, fun live => ?_, settled_of_revoked rfl⟩
        cases live
      · rw [AList.lookup_insert_ne same] at foundAfter
        have good := coherent other u foundAfter
        refine ⟨good.keyed, good.zoned, fun answerable => ?_⟩
        obtain ⟨untabled, decided⟩ := good.settled answerable
        refine ⟨?_, decided⟩
        dsimp only
        rw [AList.lookup_insert_ne same]
        -- dropping an entry of a full table frees no session that was free before
        split_ifs
        · by_cases dropped : other = victim
          · rw [dropped, AList.lookup_erase]
          · rwa [AList.lookup_erase_ne dropped]
        · exact untabled

end

/-! ## Records -/

section
variable {r : Runtime} {id : String} {v w : RuntimeSession}

section
variable (same : core v = core w)
include same

theorem inferSessionZones_congr (program : Program) :
    inferSessionZones program v = inferSessionZones program w := by
  simp only [core, Core.mk.injEq] at same
  have flow : SameFlow w v := by constructor <;> simp [same]
  exact flow.inferSessionZones program

theorem isLocal_congr : isLocal v = isLocal w := by
  simp only [core, Core.mk.injEq] at same
  simp [isLocal, same]

theorem sessionView_congr : sessionView v = sessionView w := by
  simp only [core, Core.mk.injEq] at same
  simp [sessionView, policyTupleForSession, same]

theorem answerable_congr : Answerable r v ↔ Answerable r w := by
  simp only [core, Core.mk.injEq] at same
  obtain ⟨_, original, _, _, _, _, _, _, generation, _, cached, _, revoked, _⟩ := same
  rw [Answerable, Answerable, Runtime.isBlocked, Runtime.isBlocked, original, generation, cached, revoked]

theorem decidedBy_congr [CaseMap] (program : Program) : DecidedBy program v ↔ DecidedBy program w := by
  rw [DecidedBy, DecidedBy, sessionView_congr same]
  simp only [core, Core.mk.injEq] at same
  simp [same]

end

theorem withReply_standing (record : Record) (v : RuntimeSession) :
    (withReply record v).sessionID = v.sessionID ∧ (withReply record v).decision = v.decision ∧
      (withReply record v).matchedPolicyID = v.matchedPolicyID ∧
      (Answerable r (withReply record v) ↔ Answerable r v) := by
  unfold withReply
  split
  · split_ifs
    · exact ⟨rfl, rfl, rfl, .rfl⟩
    · exact ⟨rfl, rfl, rfl, .rfl⟩
  · exact ⟨rfl, rfl, rfl, .rfl⟩

structure Enriched (r after : Runtime) (id : String) (v w : RuntimeSession) : Prop where
  wrote : Wrote r after id w
  keyed : w.sessionID = id
  same : core w = { core v with
    sourceZone := (inferSessionZones r.program v).1
    destinationZone := (inferSessionZones r.program v).2 }
  unchanged : w.revision = v.revision → core w = core v

theorem enriched_setZones {store : RuntimeStore} (put : store.byID = r.store.byID.insert id v)
    (keyed : v.sessionID = id) :
    ∃ w, (store.setZones v.sessionID (inferSessionZones r.program v).1 (inferSessionZones r.program v).2).2 =
      .ok w ∧ Enriched r (r.setStore (store.setZones v.sessionID (inferSessionZones r.program v).1
        (inferSessionZones r.program v).2).1) id v w := by
  rw [keyed]
  have found : store.byID.lookup id = some v := by
    rw [put, AList.lookup_insert]
  obtain ⟨w, outcome, puts, same, unchanged⟩ := setZones_spec found (inferSessionZones r.program v).1
    (inferSessionZones r.program v).2
  rw [put] at puts
  have sameID : w.sessionID = v.sessionID := congrArg Core.sessionID same
  exact ⟨w, outcome, ⟨.setStore _ _, (GoMap.puts_insert _ _ _).trans puts⟩, sameID.trans keyed, same, unchanged⟩

theorem Enriched.zoned {after : Runtime} (enriched : Enriched r after id v w) :
    (w.sourceZone, w.destinationZone) = inferSessionZones r.program w := by
  have same := enriched.same
  simp only [core, Core.mk.injEq] at same
  have flow : SameFlow v w := by constructor <;> simp [same]
  rw [flow.inferSessionZones]
  exact Prod.ext (by simp [same]) (by simp [same])

theorem core_observedSession {record : Record} {existing : RuntimeSession} {after : Runtime}
    (enriched : Enriched r after id v w)
    (same : core v = core (withReply (completeRecord record) existing)) :
    core w = core (observedSession r.program record existing) := by
  rw [enriched.same, inferSessionZones_congr same, same]
  rfl

end

section
variable [CaseMap] {r after : Runtime} {id : String} {v w : RuntimeSession}

theorem Enriched.evaluateObserved (enriched : Enriched r after id v w) (coherent : Coherent r)
    (pending : isLocal w = false → Pending after id w) : Coherent (after.evaluateObserved w) := by
  have key := enriched.keyed
  have found : after.store.byID.lookup w.sessionID = some w := by
    rw [key]
    exact enriched.wrote.puts.here
  obtain ⟨u, decided, settled⟩ := evaluateObserved_spec found (by rwa [key])
  rw [key] at decided settled
  have zoned : (w.sourceZone, w.destinationZone) = inferSessionZones after.program w := by
    rw [enriched.wrote.context.program]
    exact enriched.zoned
  have good := decided.good key (fun _ => zoned) settled
  exact coherent.wrote (enriched.wrote.trans decided.wrote) (enriched.wrote.context.good.mp good)

theorem Enriched.unevaluated (enriched : Enriched r after id v w) (coherent : Coherent r)
    {existing : RuntimeSession} (found : r.store.byID.lookup id = some existing)
    (same : core w = core existing) : Coherent after := by
  refine coherent.wrote enriched.wrote ⟨enriched.keyed, fun _ => enriched.zoned, fun answerable => ?_⟩
  obtain ⟨untabled, decided⟩ := (coherent id existing found).settled ((answerable_congr same).mp answerable)
  exact ⟨untabled, (decidedBy_congr same _).mpr decided⟩

theorem pending_of_keepsDecision {record : Record} {existing seen : RuntimeSession}
    (good : Good r id existing) (sameSeen : core seen = core (observedSession r.program record existing))
    (keeps : r.degraded = false → Answerable r existing → KeepsDecision r.program record existing)
    (notLocal : isLocal seen = false) : Pending r id seen := by
  obtain ⟨_, decision, policy, answers⟩ :=
    withReply_standing (r := r) (completeRecord record) existing
  intro answerable
  have before : Answerable r existing := answers.mp ((answerable_congr sameSeen).mp answerable)
  obtain ⟨untabled, decided⟩ := good.settled before
  refine ⟨untabled, fun healthy => ?_⟩
  rcases keeps healthy before with isLocal | ⟨sameAction, samePolicy⟩
  · rw [isLocal_congr sameSeen, isLocal] at notLocal
    cases notLocal
  · rw [decidedBy_congr sameSeen]
    refine ⟨?_, ?_⟩
    · rw [sameAction]
      exact decision.trans decided.1
    · rw [samePolicy]
      exact policy.trans decided.2

theorem Coherent.applyRecord [Stdlib] (coherent : Coherent r) (record : Record) (now clock : Time)
    (publishUpdate : Bool) (keeps : KeepsCache r (.applyRecord record now clock publishUpdate)) :
    Coherent (r.applyRecord record now clock publishUpdate) := by
  have applied := applied_applyObserved r.store record now clock
  unfold Runtime.applyRecord
  generalize r.store.applyObserved record now clock = result at applied ⊢
  cases applied with
  | @refused store failure same =>
    cases failure with
    | staleEvent => exact coherent.sameSessions ⟨rfl, rfl, rfl, rfl⟩ same
    | _ =>
      have context : SameContext r (r.setStore store).setDegraded := ⟨rfl, rfl, rfl, rfl⟩
      exact coherent.sameSessions context same
  | @merged store id existing v changed target found put same unchanged =>
    have good := coherent id existing found
    have keyed : v.sessionID = id := by
      have sameID : v.sessionID = _ := congrArg Core.sessionID same
      exact (sameID.trans (withReply_standing (r := r) _ existing).1).trans good.keyed
    obtain ⟨w, outcome, enriched⟩ := enriched_setZones put keyed
    dsimp only
    rw [setStore_program, setStore_store, outcome]
    unfold Runtime.decideObserved
    dsimp only
    split
    · refine enriched.evaluateObserved coherent fun notLocal => ?_
      exact pending_of_keepsDecision (r := r) good (core_observedSession enriched same)
        (keeps id existing target) notLocal
    · rename_i untouched
      simp only [Bool.false_eq_true, false_or, Bool.or_eq_true, decide_eq_true_eq, not_or, ne_eq,
        Decidable.not_not, Bool.not_eq_true] at untouched
      exact enriched.unevaluated coherent found
        ((enriched.unchanged untouched.1.2).trans (unchanged untouched.1.1))
  | @created store id v time put fresh =>
    have keyed : v.sessionID = id := congrArg Core.sessionID fresh
    obtain ⟨w, outcome, enriched⟩ := enriched_setZones put keyed
    dsimp only
    rw [setStore_program, setStore_store, outcome]
    unfold Runtime.decideObserved
    rw [if_pos (.inl rfl)]
    refine enriched.evaluateObserved coherent fun _ => (settled_of_uncached ?_).pending
    have undecided : w.cacheState = .notEvaluated := by
      rw [show w.cacheState = (core w).cacheState from rfl, enriched.same, fresh]
      rfl
    rw [undecided]
    decide

end

section
variable [CaseMap] [Stdlib] {r : Runtime}

theorem Coherent.exec (coherent : Coherent r) (op : RuntimeOp) (keeps : KeepsCache r op) :
    Coherent (r.exec op) := by
  cases op with
  | applyRecord record now clock publishUpdate =>
    exact coherent.applyRecord record now clock publishUpdate keeps
  | activate program generation reason clock => exact coherent.activate program generation reason clock
  | evaluate id => exact coherent.evaluate id
  | addTemporaryBlock block guardFailure clock =>
    refine coherent.addTemporaryBlock block guardFailure clock fun failed => ?_
    cases guardFailure with
    | none => cases failed
    | some failure => exact keeps
  | removeTemporaryBlock indicator guardFailure clock order =>
    exact coherent.removeTemporaryBlock indicator guardFailure clock order
  | revoke id reason guardFailure victim clock => exact coherent.revoke id reason guardFailure victim clock

theorem cacheCoherent_of_keepsCache (reached : Reachable NewRuntime KeepsCache Runtime.exec r) :
    CacheCoherent r := by
  have coherent : Coherent r := by
    refine reached.invariant ?_ fun state op coherent keeps => coherent.exec op keeps
    rintro _ ⟨program, generation, limits, rfl⟩
    exact GoMap.all_empty
  exact fun id v found _ answerable => ((coherent id v found).settled answerable).2

end

/-! ## A translation that is seen late -/

def publishedConfig : Config :=
  { defaults with
    interfaces := [ethernet "eth0" "wan" "203.0.113.1/24", ethernet "eth1" "dmz" "10.0.1.1/24"]
    zones := [{ id := "wan" }, { id := "dmz" }]
    routes :=
      [{ id := "default", destinationCIDR := "0.0.0.0/0", gateway := "203.0.113.254", interfaceID := "eth0" }]
    policies :=
      [{ id := "allow-web", priority := 10, sourceZones := ["wan"], destinationZones := ["dmz"]
         services := ["tcp:80"], action := .allow }] }

def publishedProgram [CaseMap] : Program :=
  match compile publishedConfig 1 with
  | .ok program => program
  | .error _ => { rules := [], defaultDeny := true, generation := 1 }

def visitRecord : Record where
  identity := { networkNS := "default", family := .ipv4, id := 7 }
  originalTuple :=
    { family := .ipv4, srcIP := .v4 0xC6336407#32, srcPort := 40000, dstIP := .v4 0xCB00710A#32, dstPort := 80
      protocol := 6 }
  presence := { originalTuple := true, id := true }

def answeredRecord (server : BitVec 32) : Record :=
  { visitRecord with
    replyTuple := some
      { family := .ipv4, srcIP := .v4 server, srcPort := 80, dstIP := .v4 0xC6336407#32, dstPort := 40000
        protocol := 6 }
    presence := { originalTuple := true, id := true, replyTuple := true } }

@[reducible] def visitStdlib : Stdlib :=
  sumTable (8 ∈ ·) 0x2ce0afc82f8af772a383af9e9c6f86788740010b1ca32c7d23d5de3dcc2fdfd0
    0xce9fa99ca6632c178ae50e73cf17951d6bfee49d7c767385c92ed67acfae5b58 "1970-01-01T00:00:00Z"

instance (r : Runtime) (v : RuntimeSession) : Decidable (Answerable r v) :=
  inferInstanceAs (Decidable (_ ∧ _ ∧ _ ∧ _))

instance [CaseMap] (program : Program) (record : Record) (v : RuntimeSession) :
    Decidable (KeepsDecision program record v) :=
  inferInstanceAs (Decidable (_ ∨ _ ∧ _))

section
attribute [local instance] asciiCaseMap visitStdlib

def publishedRuntime : Runtime :=
  newRuntime publishedProgram 1 defaultRuntimeLimits

def visitedRuntime : Runtime :=
  publishedRuntime.exec (.applyRecord visitRecord 1 1 true)

def answeredRuntime (server : BitVec 32) : Runtime :=
  visitedRuntime.exec (.applyRecord (answeredRecord server) 2 2 true)

theorem visitedRuntime_reached {admits : Runtime → RuntimeOp → Prop}
    (admitted : admits publishedRuntime (.applyRecord visitRecord 1 1 true)) :
    Reachable NewRuntime admits Runtime.exec visitedRuntime :=
  .next _ (.start ⟨publishedProgram, 1, defaultRuntimeLimits, rfl⟩) admitted

theorem cacheCoherent_of_keepsCache_visited :
    CacheCoherent (answeredRuntime 0xCB00710A#32) ∧ ∃ v ∈ (answeredRuntime 0xCB00710A#32).store.byID.values,
      isLocal v = false ∧ Answerable (answeredRuntime 0xCB00710A#32) v ∧ v.replyTuple.isSome ∧
        v.decision = .drop := by
  refine ⟨cacheCoherent_of_keepsCache (.next _ (visitedRuntime_reached fun id v target => ?_)
    fun id v target _ _ => ?_), by decide +kernel⟩
  · cases target
  · have keeps : ∀ found ∈ visitedRuntime.store.mergeTarget (answeredRecord 0xCB00710A#32),
        KeepsDecision visitedRuntime.program (answeredRecord 0xCB00710A#32) found.2 := by decide +kernel
    exact keeps (id, v) target

theorem translated_decision_stale :
    Reachable NewRuntime (fun _ _ => True) Runtime.exec (answeredRuntime 0x0A00010A#32) ∧
      ¬ CacheCoherent (answeredRuntime 0x0A00010A#32) := by
  refine ⟨.next _ (visitedRuntime_reached trivial) trivial, fun coherent => ?_⟩
  have stale : ∃ v ∈ (answeredRuntime 0x0A00010A#32).store.byID.values, isLocal v = false ∧
      Answerable (answeredRuntime 0x0A00010A#32) v ∧
      v.decision ≠ ((answeredRuntime 0x0A00010A#32).program.evaluate (sessionView v)).action := by
    decide +kernel
  obtain ⟨v, live, notLocal, answerable, differs⟩ := stale
  obtain ⟨id, found⟩ := GoMap.mem_values.mp live
  exact differs (coherent id v found notLocal answerable).1

end

end Ngfw.Engine

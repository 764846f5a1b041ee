import Ngfw.Lib.Run
import Ngfw.Engine.GateRuntime

/-!
# One proxy owns the gate

The engine compares a heartbeat with the last one only if both report on the same generation, engine and preparation,
and it compares with no other. The runs below grant it how its sections are scheduled and what the proxies send; that
a stored heartbeat is on what is current then follows from the descriptor it was checked against.
-/

namespace Ngfw.Engine
open Lib Lib.Text Domain Config
open GateSection (exec)

def reportKey (beat : RequestGateHeartbeat) : GateKey :=
  ⟨beat.generation, beat.preparationID⟩

def SameReport (one other : RequestGateHeartbeat) : Prop :=
  one.generation = other.generation ∧ one.engineInstanceID = other.engineInstanceID ∧
    one.preparationID = other.preparationID

structure Succeeds (later earlier : StoredHeartbeat) : Prop where
  owner : later.beat.proxyInstanceID ≠ earlier.beat.proxyInstanceID → earlier.time + gateHeartbeatTTL ≤ later.time
  sequence : later.beat.proxyInstanceID = earlier.beat.proxyInstanceID → earlier.beat.sequence < later.beat.sequence

namespace GateHealth

structure OneOwner (s : GateHealth) : Prop where
  succeeds : s.stored.Pairwise Succeeds
  current : ∀ front later earlier back, s.stored = front ++ later :: earlier :: back →
    reportKey earlier.beat = later.current → reportKey later.beat = later.current

structure New (s : GateHealth) (engine : Except String String) : Prop where
  running : s.engineInstance = engine
  unprepared : s.preparation = none
  silent : s.heartbeatAt = none
  empty : s.stored = []

def Holds (s : GateHealth) (beat : RequestGateHeartbeat) : Prop :=
  s.heartbeat.proxyInstanceID = beat.proxyInstanceID ∧ reportKey s.heartbeat = s.current

/-- What a proxy keeps to when it sends a heartbeat: unless it holds the gate, its number is above all it has sent; and
where the last heartbeat is not on what is current, it is the proxy's own or has expired. -/
def Expects (s : GateHealth) (beat : RequestGateHeartbeat) : Prop :=
  (s.Holds beat ∨ ∀ earlier ∈ s.sent, earlier.proxyInstanceID = beat.proxyInstanceID →
    earlier.sequence < beat.sequence) ∧
  (reportKey s.heartbeat = s.current ∨ s.heartbeat.proxyInstanceID = beat.proxyInstanceID ∨ ¬s.fresh s.clock)

instance (s : GateHealth) (beat : RequestGateHeartbeat) : Decidable (s.Expects beat) :=
  inferInstanceAs (Decidable (((_ ∧ _) ∨ _) ∧ _))

/-- What is left of this when the heartbeat takes the lock with the time `now`. -/
structure InFlight (s : GateHealth) (beat : RequestGateHeartbeat) (now : Time) : Prop where
  sent : beat ∈ s.sent
  owner : reportKey s.heartbeat = s.current ∨ s.heartbeat.proxyInstanceID = beat.proxyInstanceID ∨
    ∀ time ∈ s.heartbeatAt, time + gateHeartbeatTTL ≤ now
  number : s.Holds beat ∨ ∀ earlier ∈ s.stored, earlier.beat.proxyInstanceID = beat.proxyInstanceID →
    earlier.beat.sequence < beat.sequence

structure Checked (s : GateHealth) (engine : Except String String) (beat : RequestGateHeartbeat) : Prop where
  current : reportKey beat = s.current
  engine : engine = .ok beat.engineInstanceID

structure Owned (s : GateHealth) (engine : Except String String) : Prop extends OneOwner s where
  running : s.engineInstance = engine
  recorded : ∀ last ∈ s.stored.head?, s.heartbeat = last.beat ∧ s.heartbeatAt = some last.time
  timed : s.stored.Pairwise fun later earlier => earlier.time ≤ later.time
  past : ∀ time ∈ s.heartbeatAt, time ≤ s.clock
  sent : ∀ entry ∈ s.stored, entry.beat ∈ s.sent
  compared : ∀ time ∈ s.heartbeatAt, engine = .ok s.heartbeat.engineInstanceID
  descriptor : ∀ descriptor ∈ s.preparation, engine = .ok descriptor.engineInstanceID

def gate (s : GateHealth) : GateHealth :=
  { s with running := ({}, 0), interceptionReady := fun _ => false, activationArtifacts := fun _ => {}, replies := [] }

def put (s : GateHealth) (beat : RequestGateHeartbeat) (now : Time) : GateHealth :=
  { s with heartbeat := beat, heartbeatAt := some now, stored := ⟨beat, now, s.current⟩ :: s.stored }

structure Compared (s : GateHealth) (beat : RequestGateHeartbeat) (now : Time) : Prop where
  counted : SameReport s.heartbeat beat → s.heartbeat.proxyInstanceID = beat.proxyInstanceID →
    s.heartbeat.sequence < beat.sequence
  waited : SameReport s.heartbeat beat → s.heartbeat.proxyInstanceID ≠ beat.proxyInstanceID → ¬s.fresh now

theorem storeHeartbeat_gate (s : GateHealth) (beat : RequestGateHeartbeat) (runtime : RequestGateRuntime)
    (now : Time) : (s.storeHeartbeat beat runtime now).gate = s.gate ∨
      (s.storeHeartbeat beat runtime now).gate = s.gate.put beat now ∧ s.Compared beat now := by
  unfold storeHeartbeat
  dsimp only
  split_ifs with counted owned
  · exact .inl rfl
  · exact .inl rfl
  · refine .inr ⟨rfl, fun same own => ?_, fun same foreign isFresh => owned ⟨same, foreign, isFresh⟩⟩
    exact UInt64.not_le.mp fun old => counted ⟨same, own, old⟩

variable {s : GateHealth} {engine : Except String String} {beat other : RequestGateHeartbeat} {now read : Time}

theorem not_fresh : ¬s.fresh now ↔ ∀ time ∈ s.heartbeatAt, time + gateHeartbeatTTL ≤ now := by
  unfold fresh
  cases s.heartbeatAt with
  | none => simp
  | some time =>
    simp only [Option.any_some, decide_eq_true_iff, Int.not_lt, Option.mem_some_iff, forall_eq']
    exact ⟨Int.add_le_of_le_sub_left, Int.le_sub_left_of_add_le⟩

theorem New.owned (new : s.New engine) : s.gate.Owned engine := by
  obtain ⟨running, unprepared, silent, empty⟩ := new
  refine ⟨⟨?_, ?_⟩, running, ?_, ?_, ?_, ?_, ?_, ?_⟩ <;> simp [gate, *]

theorem Owned.older (owned : s.Owned engine) {last earlier : StoredHeartbeat} (newest : last ∈ s.stored.head?)
    (among : earlier ∈ s.stored) : earlier = last ∨ Succeeds last earlier ∧ earlier.time ≤ last.time := by
  obtain ⟨rest, split⟩ := List.head?_eq_some_iff.mp newest
  have succeeds := owned.succeeds
  have timed := owned.timed
  rw [split] at among succeeds timed
  rcases List.mem_cons.mp among with rfl | older
  · exact .inl rfl
  · exact .inr ⟨(List.pairwise_cons.mp succeeds).1 earlier older, (List.pairwise_cons.mp timed).1 earlier older⟩

theorem Owned.sameReport (owned : s.Owned engine) (checked : s.Checked engine beat) {time : Time}
    (given : time ∈ s.heartbeatAt) (onCurrent : reportKey s.heartbeat = s.current) : SameReport s.heartbeat beat := by
  obtain ⟨generation, preparation⟩ := GateKey.mk.inj (onCurrent.trans checked.current.symm)
  exact ⟨generation, Except.ok.inj ((owned.compared time given).symm.trans checked.engine), preparation⟩

theorem InFlight.later (flight : s.InFlight beat now) (clock : now ≤ read) : s.InFlight beat read :=
  ⟨flight.sent, flight.owner.imp_right (.imp_right fun expired time given => (expired time given).trans clock),
    flight.number⟩

/-- A heartbeat under way outlasts one that is stored, unless another instance takes the gate from its own. -/
theorem InFlight.put (flight : s.InFlight other read) (owned : s.Owned engine) (checked : s.Checked engine beat)
    (compared : s.Compared beat now)
    (replaces : s.heartbeat.proxyInstanceID = beat.proxyInstanceID ∨ s.fresh now ∨
      other.proxyInstanceID ≠ s.heartbeat.proxyInstanceID) : (s.put beat now).InFlight other read := by
  refine ⟨flight.sent, .inl checked.current, ?_⟩
  by_cases own : beat.proxyInstanceID = other.proxyInstanceID
  · exact .inl ⟨own, checked.current⟩
  refine .inr (List.forall_mem_cons.mpr ⟨fun same => absurd same own, ?_⟩)
  refine flight.number.resolve_left fun ⟨holder, current⟩ => ?_
  have foreign : s.heartbeat.proxyInstanceID ≠ beat.proxyInstanceID := fun same => own (same.symm.trans holder)
  rcases replaces with same | isFresh | another
  · exact foreign same
  · have refused : ∀ time ∈ s.heartbeatAt, ¬s.fresh now := fun time given =>
      compared.waited (owned.sameReport checked given current) foreign
    exact not_fresh.mpr (fun time given => absurd isFresh (refused time given)) isFresh
  · exact another holder.symm

theorem Owned.succeeded (owned : s.Owned engine) (flight : s.InFlight beat now) (checked : s.Checked engine beat)
    (inOrder : s.heartbeat.proxyInstanceID = beat.proxyInstanceID → ∀ time ∈ s.heartbeatAt, time ≤ now)
    (compared : s.Compared beat now) {earlier : StoredHeartbeat} (among : earlier ∈ s.stored) :
    Succeeds ⟨beat, now, s.current⟩ earlier ∧ earlier.time ≤ now := by
  obtain ⟨last, newest⟩ : ∃ last, last ∈ s.stored.head? :=
    Option.isSome_iff_exists.mp (List.isSome_head?.mpr (List.ne_nil_of_mem among))
  obtain ⟨recorded, given⟩ := owned.recorded last newest
  have expired : last.beat.proxyInstanceID ≠ beat.proxyInstanceID → last.time + gateHeartbeatTTL ≤ now := by
    rw [← recorded]
    intro foreign
    rcases flight.owner with onCurrent | own | old
    · exact not_fresh.mp (compared.waited (owned.sameReport checked given onCurrent) foreign) last.time given
    · exact absurd own foreign
    · exact old last.time given
  have notBefore : last.time ≤ now := by
    by_cases own : last.beat.proxyInstanceID = beat.proxyInstanceID
    · exact inOrder (recorded ▸ own) last.time given
    · have positive : last.time ≤ last.time + gateHeartbeatTTL := Int.le_add_of_nonneg_right (by decide)
      exact positive.trans (expired own)
  have numbered : ∀ entry ∈ s.stored, entry.beat.proxyInstanceID = beat.proxyInstanceID →
      entry.beat.sequence < beat.sequence := by
    rcases flight.number with ⟨holder, onCurrent⟩ | numbered
    · intro entry member own
      have next := compared.counted (owned.sameReport checked given onCurrent) holder
      rw [recorded] at next holder
      rcases owned.older newest member with rfl | ⟨succeeds, _⟩
      · exact next
      · exact UInt64.lt_trans (succeeds.sequence (holder.trans own.symm)) next
    · exact numbered
  rcases owned.older newest among with rfl | ⟨succeeds, older⟩
  · exact ⟨⟨fun foreign => expired foreign.symm, fun own => numbered _ among own.symm⟩, notBefore⟩
  · refine ⟨⟨fun foreign => ?_, fun own => numbered earlier among own.symm⟩, older.trans notBefore⟩
    by_cases own : last.beat.proxyInstanceID = beat.proxyInstanceID
    · exact (succeeds.owner (own.trans_ne foreign)).trans notBefore
    · exact (Int.add_le_add_right older _).trans (expired own)

theorem Owned.put (owned : s.Owned engine) (flight : s.InFlight beat now) (checked : s.Checked engine beat)
    (past : now ≤ s.clock)
    (inOrder : s.heartbeat.proxyInstanceID = beat.proxyInstanceID → ∀ time ∈ s.heartbeatAt, time ≤ now)
    (compared : s.Compared beat now) : (s.put beat now).Owned engine := by
  have against := fun earlier (among : earlier ∈ s.stored) =>
    owned.succeeded flight checked inOrder compared among
  refine ⟨⟨?_, ?_⟩, owned.running, ?_, ?_, ?_, ?_, ?_, owned.descriptor⟩
  · exact List.pairwise_cons.mpr ⟨fun earlier among => (against earlier among).1, owned.succeeds⟩
  · intro front later earlier back split reported
    cases front with
    | nil =>
      obtain ⟨rfl, _⟩ := List.cons.inj split
      exact checked.current
    | cons first front => exact owned.current front later earlier back (List.cons.inj split).2 reported
  · rintro _ ⟨⟩
    exact ⟨rfl, rfl⟩
  · exact List.pairwise_cons.mpr ⟨fun earlier among => (against earlier among).2, owned.timed⟩
  · rintro _ ⟨⟩
    exact past
  · exact List.forall_mem_cons.mpr ⟨flight.sent, owned.sent⟩
  · exact fun _ _ => checked.engine

end GateHealth

/-! ## Sections under way -/

namespace GateSection
variable {s : GateHealth} {engine : Except String String} {beat : RequestGateHeartbeat}
  {step later : GateSection} {input : GateInput}

def heartbeat? : GateSection → Option RequestGateHeartbeat
  | .attempt beat .. | .runningConfig beat .. | .confirm beat .. | .interception beat .. | .artifacts beat ..
  | .reconfirm beat .. | .gateTime beat _ | .store beat .. => some beat
  | .prepared _ | .prepare _ | .poll _ | .complete | .activate _ | .commit .. | .kernel .. | .elapse _ => none

def lock? : GateSection → Option (RequestGateHeartbeat × Time)
  | .store beat _ now => some (beat, now)
  | _ => none

def switches : GateSection → Bool
  | .prepare _ | .complete | .activate _ => true
  | _ => false

def begins? : GateSection → Option RequestGateHeartbeat
  | .prepared beat => some beat
  | _ => none

def Fits (s : GateHealth) (engine : Except String String) : GateSection → Prop
  | .attempt beat id _ | .runningConfig beat id _ _ | .confirm beat id _ _ _ =>
    s.InFlight beat s.clock ∧ s.preparation = none ∧ engine = .ok id
  | .interception beat runtime _ | .artifacts beat runtime _ | .reconfirm beat runtime _ =>
    s.InFlight beat s.clock ∧ s.preparation = none ∧ engine = .ok runtime.engineInstanceID ∧
      runtime.preparationID = ""
  | .gateTime beat _ => s.InFlight beat s.clock ∧ s.Checked engine beat
  | .store beat _ now => s.InFlight beat now ∧ s.Checked engine beat ∧ now ≤ s.clock ∧
    (s.heartbeat.proxyInstanceID = beat.proxyInstanceID → ∀ time ∈ s.heartbeatAt, time ≤ now)
  | .prepare descriptor => engine = .ok descriptor.engineInstanceID
  | _ => True

/-- What is known of a section outlasts a change that keeps what is current and each heartbeat under way. -/
theorem Fits.mono {after : GateHealth} (fits : step.Fits s engine)
    (kept : ∀ beat ∈ step.heartbeat?, after.current = s.current ∧ after.preparation = s.preparation ∧
      s.clock ≤ after.clock ∧ ∀ now, s.InFlight beat now → after.InFlight beat now)
    (inOrder : ∀ lock ∈ step.lock?,
      (s.heartbeat.proxyInstanceID = lock.1.proxyInstanceID → ∀ time ∈ s.heartbeatAt, time ≤ lock.2) →
      after.heartbeat.proxyInstanceID = lock.1.proxyInstanceID → ∀ time ∈ after.heartbeatAt, time ≤ lock.2) :
    step.Fits after engine := by
  cases step with
  | attempt beat | runningConfig beat | confirm beat | interception beat | artifacts beat | reconfirm beat =>
    obtain ⟨-, preparation, clock, flight⟩ := kept beat rfl
    exact ⟨(flight _ fits.1).later clock, preparation.trans fits.2.1, fits.2.2⟩
  | gateTime beat =>
    obtain ⟨current, -, clock, flight⟩ := kept beat rfl
    exact ⟨(flight _ fits.1).later clock, current ▸ fits.2.current, fits.2.engine⟩
  | store beat runtime now =>
    obtain ⟨known, checked, past, ordered⟩ := fits
    obtain ⟨current, -, clock, flight⟩ := kept beat rfl
    exact ⟨flight _ known, ⟨current ▸ checked.current, checked.engine⟩, past.trans clock,
      inOrder _ rfl ordered⟩
  | prepare => exact fits
  | prepared | poll | complete | activate | commit | kernel | elapse => trivial

theorem checked_fits {runtime : RequestGateRuntime} (flight : s.gate.InFlight beat s.clock)
    (described : s.current = ⟨runtime.configGeneration, runtime.preparationID⟩)
    (running : engine = .ok runtime.engineInstanceID) : (checked s beat runtime).1.gate = s.gate ∧
      ∀ later ∈ (checked s beat runtime).2, later.Fits s.gate engine := by
  unfold checked
  split_ifs with reports fits
  · exact ⟨rfl, List.forall_mem_nil _⟩
  · exact ⟨rfl, List.forall_mem_nil _⟩
  · rw [Bool.not_eq_true', Bool.not_eq_false] at reports
    obtain ⟨id, generation, preparation⟩ := of_decide_eq_true reports
    have current : reportKey beat = s.current := by rw [reportKey, generation, preparation, described]
    exact ⟨rfl, List.forall_mem_singleton.mpr ⟨flight, current, id ▸ running⟩⟩

theorem again_fits {id : String} (remaining : Nat)
    (fits : s.gate.InFlight beat s.clock ∧ s.preparation = none ∧ engine = .ok id) :
    (again s beat id remaining).1.gate = s.gate ∧
      ∀ later ∈ (again s beat id remaining).2, later.Fits s.gate engine := by
  cases remaining with
  | zero => exact ⟨rfl, List.forall_mem_nil _⟩
  | succ remaining => exact ⟨rfl, List.forall_mem_singleton.mpr fits⟩

end GateSection

theorem GateEntry.sections_fits {s : GateHealth} {engine : Except String String} {entry : GateEntry}
    {step : GateSection} (enters : step ∈ entry.sections engine) : step.Fits s engine := by
  cases entry with
  | syncProxy beat =>
    simp only [sections] at enters
    split_ifs at enters
    · obtain rfl := List.mem_singleton.mp enters
      trivial
    · cases enters
  | prepareGateRuntime value generation nonce =>
    simp only [sections] at enters
    split_ifs at enters
    · obtain rfl := List.mem_singleton.mp enters
      trivial
    · split at enters
      · obtain rfl := List.mem_singleton.mp enters
        rfl
      · cases enters
  | completeGatePreparation | activate | commit | kernel | elapse =>
    obtain rfl := List.mem_singleton.mp enters
    trivial

/-! ## Runs -/

namespace GateThreads

/-- What a run grants the engine. The proxies: a heartbeat is one the engine expects when it begins to read a
descriptor. The schedule: what is current does not switch between that and the lock; two heartbeats of one instance
take the lock in the order in which they read the clock; and no instance takes over from one with a heartbeat on the
way. -/
def Undisturbed (t : GateThreads) (step : GateSection) : Prop :=
  (∀ beat ∈ step.begins?, t.state.Expects beat) ∧
  (step.switches → ∀ other ∈ t.pending, other.heartbeat? = none) ∧
  ∀ lock ∈ step.lock?,
    (∀ other ∈ t.pending, ∀ waiting ∈ other.lock?, waiting.1.proxyInstanceID = lock.1.proxyInstanceID →
      lock.2 ≤ waiting.2) ∧
    (t.state.heartbeat.proxyInstanceID = lock.1.proxyInstanceID ∨ t.state.fresh lock.2 ∨
      ∀ other ∈ t.pending, ∀ beat ∈ other.heartbeat?,
        beat.proxyInstanceID ≠ t.state.heartbeat.proxyInstanceID)

instance (t : GateThreads) (step : GateSection) : Decidable (t.Undisturbed step) :=
  inferInstanceAs (Decidable (_ ∧ (_ → _) ∧ _))

def Admits (t : GateThreads) : GateMove → Prop
  | .start _ => True
  | .run index _ => ∀ step ∈ t.next index, t.Undisturbed step

instance (t : GateThreads) : DecidablePred t.Admits
  | .start _ => .isTrue trivial
  | .run index _ => inferInstanceAs (Decidable (∀ step ∈ t.next index, t.Undisturbed step))

structure Orderly (engine : Except String String) (state : GateHealth) (pending : List GateSection) : Prop where
  owned : state.gate.Owned engine
  fits : ∀ step ∈ pending, step.Fits state.gate engine

structure Keeps (engine : Except String String) (result : GateHealth × List GateSection)
    (pending : List GateSection) : Prop extends Orderly engine result.1 pending where
  follows : ∀ later ∈ result.2, later.Fits result.1.gate engine

variable {engine : Except String String} {t : GateThreads} {s : GateHealth} {pending : List GateSection}
  {result : GateHealth × List GateSection}

section
variable (orderly : Orderly engine s pending)
include orderly

theorem Orderly.still (kept : result.1.gate = s.gate ∧ ∀ later ∈ result.2, later.Fits s.gate engine) :
    Keeps engine result pending where
  owned := kept.1 ▸ orderly.owned
  follows := kept.1 ▸ kept.2
  fits := kept.1 ▸ orderly.fits

theorem Orderly.change {after : GateHealth} (owned : after.gate.Owned engine)
    (heartbeat : after.heartbeat = s.heartbeat) (time : after.heartbeatAt = s.heartbeatAt)
    (kept : ∀ other ∈ pending, ∀ beat ∈ other.heartbeat?, after.current = s.current ∧
      after.preparation = s.preparation ∧ s.clock ≤ after.clock ∧
      ∀ now, s.gate.InFlight beat now → after.gate.InFlight beat now) : Orderly engine after pending := by
  refine ⟨owned, fun other waits => (orderly.fits other waits).mono (kept other waits) fun lock _ ordered => ?_⟩
  change after.heartbeat.proxyInstanceID = _ → ∀ time ∈ after.heartbeatAt, _
  rwa [heartbeat, time]

theorem Orderly.send (beat : RequestGateHeartbeat) : Orderly engine (s.send beat) pending := by
  have sent := fun entry stored => List.mem_cons_of_mem beat (orderly.owned.sent entry stored)
  refine orderly.change { orderly.owned with sent } rfl rfl fun _ _ _ _ => ⟨rfl, rfl, Int.le_refl _, ?_⟩
  exact fun _ flight => ⟨List.mem_cons_of_mem _ flight.sent, flight.owner, flight.number⟩

theorem Orderly.switch (idle : ∀ other ∈ pending, other.heartbeat? = none)
    (generation : UInt64) {preparation : Option RequestGateRuntime}
    (described : ∀ descriptor ∈ preparation, engine = .ok descriptor.engineInstanceID) :
    Orderly engine { s with generation, preparation } pending := by
  refine orderly.change { orderly.owned with descriptor := described } rfl rfl fun other waits beat own => ?_
  simp [idle other waits] at own

end

theorem Orderly.store {beat : RequestGateHeartbeat} {runtime : RequestGateRuntime} {now : Time}
    (orderly : Orderly engine t.state t.pending) (waits : .store beat runtime now ∈ t.pending)
    (undisturbed : t.Undisturbed (.store beat runtime now)) :
    Orderly engine (t.state.storeHeartbeat beat runtime now) t.pending := by
  obtain ⟨flight, checked, past, ordered⟩ := orderly.fits _ waits
  obtain ⟨inOrder, replaces⟩ := undisturbed.2.2 _ rfl
  rcases t.state.storeHeartbeat_gate beat runtime now with same | ⟨put, counted, waited⟩
  · exact ⟨same ▸ orderly.owned, same ▸ orderly.fits⟩
  have compared : t.state.gate.Compared beat now := ⟨counted, waited⟩
  refine ⟨put ▸ orderly.owned.put flight checked past ordered compared, fun other waiting => ?_⟩
  rw [put]
  refine (orderly.fits other waiting).mono (fun beat own => ⟨rfl, rfl, Int.le_refl _, fun read known => ?_⟩) ?_
  · exact known.put orderly.owned checked compared (replaces.imp_right (.imp_right fun free =>
      free other waiting beat own))
  · rintro lock held - own _ ⟨⟩
    exact inOrder other waiting lock held own.symm

theorem Orderly.steps [CaseMap] {first : GateSection} {input : GateInput}
    (orderly : Orderly engine t.state t.pending) (waits : first ∈ t.pending) (undisturbed : t.Undisturbed first) :
    Keeps engine (first.exec input t.state) t.pending := by
  have fits := orderly.fits first waits
  have ends : ∀ later ∈ ([] : List GateSection), later.Fits t.state.gate engine := List.forall_mem_nil _
  have next : ∀ {later : GateSection}, later.Fits t.state.gate engine →
      ∀ step ∈ [later], step.Fits t.state.gate engine := List.forall_mem_singleton.mpr
  cases first with
  | prepared beat =>
    have sends := orderly.send beat
    obtain ⟨numbered, waited⟩ := undisturbed.1 beat rfl
    have flight : (t.state.send beat).gate.InFlight beat (t.state.send beat).clock :=
      ⟨List.mem_cons_self, waited.imp_right (.imp_right GateHealth.not_fresh.mp),
        numbered.imp_right fun above entry stored => above _ (orderly.owned.sent entry stored)⟩
    simp only [exec]
    split
    · rename_i descriptor preparing
      split
      · exact sends.still ⟨rfl, List.forall_mem_nil _⟩
      · have described : (t.state.send beat).current =
          ⟨descriptor.configGeneration, descriptor.preparationID⟩ := by
          rw [GateHealth.current, preparing]
        exact sends.still (GateSection.checked_fits flight described (orderly.owned.descriptor _ preparing))
    · rename_i unprepared
      split
      · exact sends.still ⟨rfl, List.forall_mem_nil _⟩
      · rename_i running
        have known := orderly.owned.running.symm.trans running
        exact sends.still ⟨rfl, List.forall_mem_singleton.mpr ⟨flight, unprepared, known⟩⟩
  | attempt beat id remaining =>
    simp only [exec]
    split
    · exact orderly.still ⟨rfl, ends⟩
    · exact orderly.still ⟨rfl, next fits⟩
  | runningConfig beat id generation remaining =>
    simp only [exec]
    split_ifs
    · exact orderly.still (GateSection.again_fits remaining fits)
    · exact orderly.still ⟨rfl, next fits⟩
  | confirm beat id generation value remaining =>
    simp only [exec]
    split_ifs
    · exact orderly.still (GateSection.again_fits remaining fits)
    · exact orderly.still ⟨rfl, ends⟩
    · exact orderly.still ⟨rfl, next ⟨fits.1, fits.2.1, fits.2.2, rfl⟩⟩
  | interception beat runtime remaining =>
    refine orderly.still ⟨rfl, next ?_⟩
    dsimp only
    split <;> exact fits
  | artifacts beat runtime remaining => exact orderly.still ⟨rfl, next fits⟩
  | reconfirm beat runtime remaining =>
    obtain ⟨flight, unprepared, running, described⟩ := fits
    simp only [exec]
    split_ifs with same
    · have current : t.state.current = ⟨runtime.configGeneration, runtime.preparationID⟩ := by
        rw [GateHealth.current, show t.state.preparation = none from unprepared, same, described]
      exact orderly.still (GateSection.checked_fits flight current running)
    · exact orderly.still (GateSection.again_fits remaining ⟨flight, unprepared, running⟩)
  | gateTime beat runtime =>
    exact orderly.still ⟨rfl, next ⟨fits.1, fits.2, Int.le_refl _, fun _ => orderly.owned.past⟩⟩
  | store beat runtime now => exact ⟨orderly.store waits undisturbed, List.forall_mem_nil _⟩
  | prepare descriptor =>
    refine ⟨orderly.switch (undisturbed.2.1 rfl) _ ?_, List.forall_mem_singleton.mpr trivial⟩
    rintro _ ⟨⟩
    exact fits
  | poll descriptor =>
    simp only [exec]
    split
    · exact orderly.still ⟨rfl, next trivial⟩
    · exact orderly.still ⟨rfl, ends⟩
    · refine orderly.still ⟨rfl, next ?_⟩
      split <;> trivial
  | complete => exact ⟨orderly.switch (undisturbed.2.1 rfl) _ (by simp), List.forall_mem_nil _⟩
  | activate generation =>
    exact ⟨orderly.switch (undisturbed.2.1 rfl) generation orderly.owned.descriptor, List.forall_mem_nil _⟩
  | commit | kernel => exact orderly.still ⟨rfl, ends⟩
  | elapse time =>
    have later : t.state.clock ≤ t.state.clock + time := Int.le_add_of_nonneg_right (Int.natCast_nonneg time)
    have past := fun read given => (orderly.owned.past read given).trans later
    exact ⟨orderly.change { orderly.owned with past } rfl rfl fun _ _ _ _ => ⟨rfl, rfl, later, fun _ flight =>
      ⟨flight.sent, flight.owner, flight.number⟩⟩, List.forall_mem_nil _⟩

def Sound (engine : Except String String) (t : GateThreads) : Prop :=
  Orderly engine t.state t.pending

theorem Sound.step [CaseMap] {move : GateMove} (sound : t.Sound engine) (admitted : t.Admits move) :
    (t.step engine move).Sound engine := by
  refine Threads.invariant_step sound ?_ ?_
  · rintro entry rfl
    refine ⟨sound.owned, fun step waiting => ?_⟩
    rcases Threads.mem_pending_start.mp waiting with waited | enters
    · exact sound.fits step waited
    · exact GateEntry.sections_fits enters
  · rintro index input first after rfl next ran
    obtain ⟨⟨owned, fits⟩, follows⟩ := sound.steps ran.was (admitted first next)
    rw [← ran.state] at owned fits follows
    refine ⟨owned, fun step waiting => ?_⟩
    rcases ran.origin step waiting with produced | waited
    · exact follows step produced
    · exact fits step waited

end GateThreads

theorem one_live_owner [CaseMap] (engine : Except String String) {initial : GateHealth} (new : initial.New engine)
    {t : GateThreads} (reached : Reachable (· = ⟨initial, []⟩) GateThreads.Admits (GateThreads.step engine) t) :
    t.state.OneOwner := by
  have sound : t.Sound engine := by
    refine reached.invariant ?_ fun before move held admitted => held.step admitted
    rintro _ rfl
    exact ⟨new.owned, fun step waiting => absurd waiting List.not_mem_nil⟩
  exact ⟨sound.owned.succeeds, sound.owned.current⟩

section Runs
attribute [local instance] Text.asciiCaseMap

def engineID : String := "e0000000000000000000000000000000"

def firstProxy : String := "a0000000000000000000000000000000"

def secondProxy : String := "b0000000000000000000000000000000"

def beatOf (proxy : String) (generation sequence : UInt64) : RequestGateHeartbeat :=
  { proxyInstanceID := proxy, engineInstanceID := engineID, generation := generation, sequence := sequence }

def runsOf (index count : Nat) : List GateMove :=
  List.replicate count (.run index {})

def startHealth : GateHealth :=
  { engineInstance := .ok engineID, generation := 1, running := ({}, 1) }

/-- The first proxy reports on generations 1 and 2, with two heartbeats of one number; the second one is refused, and
takes over five seconds after the last heartbeat that was stored. -/
def handover : List GateMove :=
  .start (.syncProxy (beatOf firstProxy 1 1)) :: runsOf 0 8 ++
  .start (.activate 2) :: runsOf 1 1 ++ .start (.commit {} 2) :: runsOf 2 1 ++
  .start (.syncProxy (beatOf firstProxy 2 2)) :: runsOf 3 8 ++
  .start (.syncProxy (beatOf firstProxy 2 2)) :: .start (.syncProxy (beatOf secondProxy 2 1)) :: runsOf 5 8 ++
  runsOf 4 8 ++ .start (.elapse 5000000000) :: runsOf 6 1 ++
  .start (.syncProxy (beatOf secondProxy 2 2)) :: runsOf 7 8

theorem one_live_owner_handover :
    (handover.foldl (GateThreads.step (.ok engineID)) ⟨startHealth, []⟩).state.stored.map
        (fun entry => (entry.beat.proxyInstanceID, entry.beat.sequence)) =
      [(secondProxy, 2), (firstProxy, 2), (firstProxy, 1)] ∧
    (handover.foldl (GateThreads.step (.ok engineID)) ⟨startHealth, []⟩).state.OneOwner := by
  have begins : Reachable (· = ⟨startHealth, []⟩) GateThreads.Admits (GateThreads.step (.ok engineID))
      ⟨startHealth, []⟩ := .start rfl
  have allowed : Allowed GateThreads.Admits (GateThreads.step (.ok engineID)) ⟨startHealth, []⟩ handover := by
    decide +kernel
  have new : startHealth.New (.ok engineID) := ⟨rfl, rfl, rfl, rfl⟩
  exact ⟨by decide +kernel, one_live_owner (.ok engineID) new (begins.run allowed)⟩

/-- A heartbeat of the first proxy has been checked against generation 1 when the engine switches to generation 2 and
the second proxy reports on it; then the first one is stored over it, at the same time. -/
def overtaken : List GateMove :=
  .start (.syncProxy (beatOf firstProxy 1 1)) :: runsOf 0 7 ++
  .start (.activate 2) :: runsOf 1 1 ++ .start (.commit {} 2) :: runsOf 2 1 ++
  .start (.syncProxy (beatOf secondProxy 2 1)) :: runsOf 3 8 ++ runsOf 0 1

theorem stale_heartbeat_stored :
    (overtaken.foldl (GateThreads.step (.ok engineID)) ⟨startHealth, []⟩).state.stored =
        [⟨beatOf firstProxy 1 1, 0, ⟨2, ""⟩⟩, ⟨beatOf secondProxy 2 1, 0, ⟨2, ""⟩⟩] ∧
      ¬(overtaken.foldl (GateThreads.step (.ok engineID)) ⟨startHealth, []⟩).state.OneOwner := by
  have stored : (overtaken.foldl (GateThreads.step (.ok engineID)) ⟨startHealth, []⟩).state.stored =
      [⟨beatOf firstProxy 1 1, 0, ⟨2, ""⟩⟩, ⟨beatOf secondProxy 2 1, 0, ⟨2, ""⟩⟩] := rfl
  refine ⟨stored, fun owner => ?_⟩
  have replaced := owner.current [] _ _ [] stored rfl
  revert replaced
  decide

end Runs

end Ngfw.Engine

import Ngfw.Proof.Config.Validator
import Ngfw.Proof.Dataplane.CacheMark
import Ngfw.Proof.Dataplane.Forward

/-!
# Established packets under M2

M2 has no blanket accept for established packets. A packet without a mark of the current epoch is decided by the
policies, then by their reverse lines. The reverse lines ask for the state of the connection and not for the
direction of the packet, and all forward lines stand before them.
-/

namespace Ngfw.Dataplane
open Lib Lib.Text Lib.Netip Lib.Nft Domain Config Connectivity

def establishedPolicy [CaseMap] (c : Config) (p : Packet) : Option SecurityPolicy :=
  ((enabledPolicies c).find? (selects c · p)).or ((enabledPolicies c).find? (selects c · p.reverse))

theorem defaultOutcome_accept {c : Config} {mark : BitVec 32} :
    (defaultOutcome c mark).verdict = .accept ↔ c.defaultDeny = false := by
  unfold defaultOutcome
  cases c.defaultDeny <;> simp

section
variable [CaseMap] {c : Config} {options : M2CompileOptions} {ruleset : M2Ruleset} {p : Packet}

theorem m2_accepts_established (compiled : compileM2Ruleset c options = .ok ruleset)
    (established : p.ctState = .established) :
    (ruleset.policy.forward.run p).verdict = .accept ↔
      p.ctMark &&& ngfwMarkMask ∈ options.cacheValues ∨
      match establishedPolicy c p with
      | some policy => policy.action = .allow
      | none => c.defaultDeny = false := by
  rw [m2_run_established compiled established, establishedPolicy]
  by_cases hit : p.ctMark &&& ngfwMarkMask ∈ options.cacheValues
  · simp [hit]
  · rw [if_neg hit, or_iff_right hit]
    cases (enabledPolicies c).find? (selects c · p) with
    | some policy => exact actionVerdict_accept
    | none =>
      cases (enabledPolicies c).find? (selects c · p.reverse) with
      | some policy => exact actionVerdict_accept
      | none => exact defaultOutcome_accept

end

/-! ## Denied connections -/

structure DeniedConnection [CaseMap] (c : Config) (generation : UInt64) (options : M2CompileOptions)
    (p : Packet) : Prop where
  valid : validate c = []
  established : p.ctState = .established
  stale : (unpackCacheMark p.ctMark).epoch ≠ options.epoch
  denied : ∃ sourceZone destinationZone, OnZone c p.iifname sourceZone ∧ OnZone c p.oifname destinationZone ∧
    ∃ program, compile c generation = .ok program ∧
      (program.evaluate (packetView p sourceZone destinationZone)).action ∈ [.drop, .reject]

/-- No rule for the mark zero covers the packet, and the first policy that selects it, or else the first that
selects its reverse, is not an ALLOW. -/
def DeniesEstablished [CaseMap] (c : Config) (options : M2CompileOptions) (p : Packet) : Prop :=
  ¬ (p.ctMark &&& ngfwMarkMask = 0 ∧ options.ZeroRule) ∧
    match establishedPolicy c p with
    | some policy => policy.action ≠ .allow
    | none => c.defaultDeny = true

theorem denied_not_accepted_iff [CaseMap] {c : Config} {generation : UInt64} {options : M2CompileOptions}
    {ruleset : M2Ruleset} {p : Packet} (connection : DeniedConnection c generation options p)
    (compiled : compileM2Ruleset c options = .ok ruleset) :
    (ruleset.policy.forward.run p).verdict ≠ .accept ↔ DeniesEstablished c options p := by
  have accepts := m2_accepts_established compiled connection.established
  rw [M2CompileOptions.stale_mem_cacheValues connection.stale] at accepts
  rw [ne_eq, accepts, not_or, DeniesEstablished]
  refine and_congr_right fun _ => ?_
  cases establishedPolicy c p with
  | some policy => rfl
  | none => simp

def browsingConfig : Config :=
  { defaults with
    interfaces := [ethernet "eth0" "lan" "192.168.1.1/24", ethernet "eth1" "wan" "203.0.113.1/24"]
    zones := [{ id := "lan" }, { id := "wan" }]
    policies :=
      [{ id := "browse", priority := 10, sourceZones := ["lan"], destinationZones := ["wan"]
         services := ["tcp:443"], action := .allow }] }

def browsingOptions : M2CompileOptions where
  epoch := 2
  zoneSlots := (AList.insert "lan" 1 ∅).insert "wan" 2
  cacheEnabled := true

def probePacket (sport : UInt16) : Packet :=
  { iifname := "eth1", oifname := "eth0", saddr := .v4 0xC6336407#32, daddr := .v4 0xC0A8010A#32, l4proto := 6
    sport, dport := 50000, ctState := .established, ctMark := 0x00108100#32 }

section
attribute [local instance] asciiCaseMap

theorem denied_accepted_by_reverse :
    DeniedConnection browsingConfig 1 browsingOptions (probePacket 443) ∧
      ∃ ruleset, compileM2Ruleset browsingConfig browsingOptions = .ok ruleset ∧
        (ruleset.policy.forward.run (probePacket 443)).verdict = .accept :=
  ⟨{ valid := by decide +kernel
     established := rfl
     stale := by decide
     denied := ⟨"wan", "lan", by decide +kernel⟩ },
   by decide +kernel⟩

theorem denied_not_accepted_probe :
    ∃ ruleset, compileM2Ruleset browsingConfig browsingOptions = .ok ruleset ∧
      (ruleset.policy.forward.run (probePacket 8443)).verdict ≠ .accept := by
  have connection : DeniedConnection browsingConfig 1 browsingOptions (probePacket 8443) :=
    { valid := by decide +kernel
      established := rfl
      stale := by decide
      denied := ⟨"wan", "lan", by decide +kernel⟩ }
  obtain ⟨ruleset, compiled, _⟩ :
      ∃ ruleset, compileM2Ruleset browsingConfig browsingOptions = .ok ruleset ∧ True := by decide +kernel
  have denies : DeniesEstablished browsingConfig browsingOptions (probePacket 8443) := by
    refine ⟨fun zero => absurd zero.1 (by decide), ?_⟩
    have undecided : establishedPolicy browsingConfig (probePacket 8443) = none := by decide +kernel
    rw [undecided]
    rfl
  exact ⟨ruleset, compiled, (denied_not_accepted_iff connection compiled).mpr denies⟩

end

/-! ## Replies of accepted connections -/

def replyPacket (ruleset : M2Ruleset) (p : Packet) : Packet :=
  { p.reverse with ctState := .established, ctMark := (ruleset.policy.forward.run p).ctMark }

structure AcceptedConnection [CaseMap] (c : Config) (options : M2CompileOptions) (ruleset : M2Ruleset)
    (p : Packet) : Prop where
  valid : validate c = []
  compiled : compileM2Ruleset c options = .ok ruleset
  new : p.ctState = .new
  accepted : (ruleset.policy.forward.run p).verdict = .accept

/-- The policy that accepts the packet records its zone pair, or the packet already has the mark of a cache rule,
or no policy but an ALLOW is the first to select the reply as a packet of its own. -/
def ReplySurvives [CaseMap] (c : Config) (options : M2CompileOptions) (p : Packet) : Prop :=
  (options.cacheInUse = true ∧ ∃ policy, (enabledPolicies c).find? (selects c · p) = some policy ∧
    (options.policyMark policy).isSome) ∨
  p.ctMark &&& ngfwMarkMask ∈ options.cacheValues ∨
  ∀ policy, (enabledPolicies c).find? (selects c · p.reverse) = some policy → policy.action = .allow

section
variable [CaseMap] {c : Config} {options : M2CompileOptions} {ruleset : M2Ruleset} {p : Packet}

theorem markByPolicy_lookup (valid : validate c = []) (used : options.cacheInUse) {policy : SecurityPolicy}
    (member : policy ∈ c.policies) : (options.markByPolicy c).lookup policy.id = options.policyMark policy := by
  rw [M2CompileOptions.markByPolicy, if_pos used]
  exact GoMap.lookup_collect_of_unique (policyIDs_nodup valid) member

theorem recordedMark_mem (valid : validate c = []) {policy : SecurityPolicy} (member : policy ∈ c.policies)
    (allowed : policy.action = .allow) (mark : BitVec 32) :
    recordedMark (options.markByPolicy c) policy mark &&& ngfwMarkMask ∈ options.cacheValues ↔
      (options.cacheInUse = true ∧ (options.policyMark policy).isSome) ∨
        mark &&& ngfwMarkMask ∈ options.cacheValues := by
  rw [recordedMark, allowed]
  cases used : options.cacheInUse with
  | false =>
    have unmarked : (options.markByPolicy c).lookup policy.id = none := by
      simp [M2CompileOptions.markByPolicy, used]
    simp [unmarked]
  | true =>
    rw [markByPolicy_lookup valid used member]
    cases recorded : options.policyMark policy with
    | none => simp
    | some value =>
      obtain ⟨whole, cached⟩ := M2CompileOptions.policyMark_mem_cacheValues used recorded
      simp [recorded_mask whole, cached]

theorem replyMark_mem (connection : AcceptedConnection c options ruleset p) :
    (replyPacket ruleset p).ctMark &&& ngfwMarkMask ∈ options.cacheValues ↔
      (options.cacheInUse = true ∧ ∃ policy, (enabledPolicies c).find? (selects c · p) = some policy ∧
        (options.policyMark policy).isSome) ∨ p.ctMark &&& ngfwMarkMask ∈ options.cacheValues := by
  have accepted := connection.accepted
  rw [replyPacket]
  rw [m2_run_new connection.compiled connection.new] at accepted ⊢
  cases first : (enabledPolicies c).find? (selects c · p) with
  | none =>
    have unchanged : (defaultOutcome c p.ctMark).ctMark = p.ctMark := by
      unfold defaultOutcome
      split_ifs <;> rfl
    simp [unchanged]
  | some policy =>
    have member := (mem_enabledPolicies.mp (List.mem_of_find?_eq_some first)).1
    have allowed : policy.action = .allow := by
      rw [first] at accepted
      exact actionVerdict_accept.mp accepted
    simpa [policyOutcome] using recordedMark_mem connection.valid member allowed p.ctMark

theorem establishedPolicy_reply (connection : AcceptedConnection c options ruleset p) :
    (match establishedPolicy c (replyPacket ruleset p) with
      | some policy => policy.action = .allow
      | none => c.defaultDeny = false) ↔
    ∀ policy, (enabledPolicies c).find? (selects c · p.reverse) = some policy → policy.action = .allow := by
  have accepted := connection.accepted
  rw [m2_run_new connection.compiled connection.new] at accepted
  have direct : (selects c · (replyPacket ruleset p)) = (selects c · p.reverse) := rfl
  have back : (selects c · (replyPacket ruleset p).reverse) = (selects c · p) := rfl
  rw [establishedPolicy, direct, back]
  cases (enabledPolicies c).find? (selects c · p.reverse) with
  | some policy => simp
  | none =>
    rw [Option.none_or]
    cases first : (enabledPolicies c).find? (selects c · p) with
    | some policy =>
      rw [first] at accepted
      simpa using actionVerdict_accept.mp accepted
    | none =>
      rw [first] at accepted
      simpa using defaultOutcome_accept.mp accepted

theorem reply_accepted_iff (connection : AcceptedConnection c options ruleset p) :
    (ruleset.policy.forward.run (replyPacket ruleset p)).verdict = .accept ↔ ReplySurvives c options p := by
  rw [m2_accepts_established connection.compiled rfl, replyMark_mem connection, establishedPolicy_reply connection,
    ReplySurvives, or_assoc]

end

def closedConfig : Config :=
  { browsingConfig with
    policies := browsingConfig.policies ++
      [{ id := "deny-inbound", priority := 20, sourceZones := ["wan"], destinationZones := ["lan"]
         action := .drop }] }

def browsingPacket : Packet :=
  { iifname := "eth0", oifname := "eth1", saddr := .v4 0xC0A8010A#32, daddr := .v4 0xC6336407#32, l4proto := 6
    sport := 50000, dport := 443, ctState := .new }

section
attribute [local instance] asciiCaseMap

theorem reply_dropped_without_cache :
    ∃ ruleset, AcceptedConnection closedConfig {} ruleset browsingPacket ∧
      (ruleset.policy.forward.run (replyPacket ruleset browsingPacket)).verdict = .drop := by
  obtain ⟨ruleset, compiled, accepted, dropped⟩ :
      ∃ ruleset, compileM2Ruleset closedConfig {} = .ok ruleset ∧
        (ruleset.policy.forward.run browsingPacket).verdict = .accept ∧
        (ruleset.policy.forward.run (replyPacket ruleset browsingPacket)).verdict = .drop := by decide +kernel
  exact ⟨ruleset, ⟨by decide +kernel, compiled, rfl, accepted⟩, dropped⟩

theorem reply_accepted_browsing :
    ∃ ruleset, AcceptedConnection closedConfig browsingOptions ruleset browsingPacket ∧
      (ruleset.policy.forward.run (replyPacket ruleset browsingPacket)).verdict = .accept := by
  obtain ⟨ruleset, compiled, accepted⟩ :
      ∃ ruleset, compileM2Ruleset closedConfig browsingOptions = .ok ruleset ∧
        (ruleset.policy.forward.run browsingPacket).verdict = .accept := by decide +kernel
  have connection : AcceptedConnection closedConfig browsingOptions ruleset browsingPacket :=
    ⟨by decide +kernel, compiled, rfl, accepted⟩
  have recorded : ReplySurvives closedConfig browsingOptions browsingPacket := by
    refine .inl ⟨by decide, ?_⟩
    exact ⟨browsingConfig.policies.head (by decide), by decide +kernel, by decide +kernel⟩
  exact ⟨ruleset, connection, (reply_accepted_iff connection).mpr recorded⟩

end

end Ngfw.Dataplane

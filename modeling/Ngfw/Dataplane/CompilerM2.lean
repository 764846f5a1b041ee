import Ngfw.Dataplane.Compiler

/-!
# The M2 ruleset

M2 takes the M1 table, puts cache rules in the place of the blanket accept of established connections, adds a
reverse line for each policy line, and lets an ALLOW record its zone pair and epoch in the conntrack mark.
-/

namespace Ngfw.Dataplane
open Lib Lib.Text Lib.Netip Lib.Nft Domain Config Connectivity

structure CacheMark where
  epoch : UInt16
  sourceZoneSlot : UInt8
  destinationZoneSlot : UInt8
  deriving DecidableEq

def ngfwMarkMask : BitVec 32 := 0xffffff00#32

def packCacheMark (mark : CacheMark) : Except String (BitVec 32) :=
  if mark.epoch = 0 ∨ 4095 < mark.epoch then .error "epoch must be 1..4095"
  else if mark.sourceZoneSlot = 0 ∨ 63 < mark.sourceZoneSlot ∨ mark.destinationZoneSlot = 0 ∨
      63 < mark.destinationZoneSlot then .error "zone slots must be 1..63"
  else .ok (BitVec.ofNat 32 mark.epoch.toNat <<< 20 ||| BitVec.ofNat 32 mark.sourceZoneSlot.toNat <<< 14 |||
    BitVec.ofNat 32 mark.destinationZoneSlot.toNat <<< 8)

def unpackCacheMark (value : BitVec 32) : CacheMark :=
  { epoch := UInt16.ofNat ((value &&& 0xfff00000#32) >>> 20).toNat
    sourceZoneSlot := UInt8.ofNat ((value &&& 0x000fc000#32) >>> 14).toNat
    destinationZoneSlot := UInt8.ofNat ((value &&& 0x00003f00#32) >>> 8).toNat }

structure M2CompileOptions where
  epoch : UInt16 := 0
  zoneSlots : GoMap String UInt8 := ∅
  cacheEnabled : Bool := false

namespace M2CompileOptions

def cacheInUse (options : M2CompileOptions) : Bool :=
  options.cacheEnabled ∧ 0 < options.epoch ∧ !options.zoneSlots.keys.isEmpty

def slots (options : M2CompileOptions) : List UInt8 :=
  (options.zoneSlots.values.filter (0 < ·)).insertionSort (· ≤ ·)

def cacheValue (options : M2CompileOptions) (source destination : UInt8) : BitVec 32 :=
  (packCacheMark ⟨options.epoch, source, destination⟩).toOption.getD 0

def cacheValues (options : M2CompileOptions) : List (BitVec 32) :=
  if options.cacheInUse then
    options.slots.flatMap fun source => options.slots.map fun destination => options.cacheValue source destination
  else []

def policyMark (options : M2CompileOptions) (policy : SecurityPolicy) : Option (BitVec 32) :=
  if !policy.enabled ∨ policy.action ≠ .allow then none
  else match policy.sourceZones, policy.destinationZones with
    | [sourceZone], [destinationZone] =>
      match options.zoneSlots.lookup sourceZone, options.zoneSlots.lookup destinationZone with
      | some source, some destination =>
        if source = 0 ∨ destination = 0 then none
        else (packCacheMark ⟨options.epoch, source, destination⟩).toOption
      | _, _ => none
    | _, _ => none

def markByPolicy (options : M2CompileOptions) (c : Config) : GoMap String (BitVec 32) :=
  if options.cacheInUse then GoMap.collect SecurityPolicy.id options.policyMark c.policies else ∅

end M2CompileOptions

def cacheRule (value : BitVec 32) : RuleLine :=
  { conditions := [.ctState [.established], .ctMark ngfwMarkMask value], verdict := some .accept }

def defaultAllow : RuleLine :=
  { conditions := [], counter := true, verdict := some .accept, comment := some .defaultAllow }

def renderReversePolicyRules [CaseMap] (c : Config) (policy : SecurityPolicy) :
    Except String (List RuleLine) := do
  let base ← baseMatches c policy.destinationZones policy.sourceZones policy.destinationAddresses
    policy.sourceAddresses ("policy " ++ policy.id ++ " reverse destination addresses: ")
    ("policy " ++ policy.id ++ " reverse source addresses: ")
  let action ← labelled ("policy " ++ policy.id ++ ": ") (policyAction policy.action)
  let services ← labelled ("policy " ++ policy.id ++ ": ")
    (serviceMatches reverseServiceExpression policy.services)
  return services.map fun service =>
    policyLine ([.ctState [.established, .related]] ++ base ++ service) action (.policyReverse policy.id)

def replaceEstablished (cacheRules : List RuleLine) : List RuleLine → List RuleLine
  | [] => []
  | line :: rest =>
    if line = establishedAccept then cacheRules ++ rest else line :: replaceEstablished cacheRules rest

def markLine (marks : GoMap String (BitVec 32)) (line : RuleLine) : RuleLine :=
  let marked (id : String) : RuleLine := match marks.lookup id with
    | some value => { line with setMark := some (0x000000ff#32, value) }
    | none => line
  match line.verdict, line.comment with
  | some .accept, some (.policy id) => marked id
  | some .accept, some (.policyReverse id) => marked id
  | _, _ => line

structure M2Ruleset where
  forwardGuard : List RuleLine
  policy : Ruleset
  deriving DecidableEq

def forwardGuard : List RuleLine :=
  [{ conditions := [.inSet "ct id" "revoked_ctids"], verdict := some .drop },
   { conditions := [.inSet "ip saddr" "source_blocks"], verdict := some .drop },
   { conditions := [.inSet "ip daddr" "source_blocks"], verdict := some .drop }]

def compileM2Ruleset [CaseMap] (c : Config) (options : M2CompileOptions) : Except String M2Ruleset := do
  let ruleset ← compileRuleset c
  if establishedAccept ∉ ruleset.forward.lines then
    .error "M1 compiler did not expose established rule"
  else
    let reverseLines ← policyLines (renderReversePolicyRules c) (enabledPolicies c)
    let tail := reverseLines ++ if c.defaultDeny then [] else [defaultAllow]
    let lines := replaceEstablished (options.cacheValues.map cacheRule) ruleset.forward.lines ++ tail
    return { forwardGuard
             policy := { ruleset with
              -- default allow is the last line; the chain itself stays fail-closed
              forward := { policy := .drop, lines := lines.map (markLine (options.markByPolicy c)) } } }

end Ngfw.Dataplane

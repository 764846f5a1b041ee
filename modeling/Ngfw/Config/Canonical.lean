import Ngfw.Domain.Config
import Ngfw.Domain.Service

/-!
# Canonical policies

The keys under which two policies or two TLS exclusions count as one, and the checks for a policy or an exclusion
that an earlier one covers. A key that the source encodes as JSON text is the record behind the text.
-/

namespace Ngfw.Config
open Lib Lib.Text Lib.Netip Domain

/-! ## TLS exclusions -/

variable [CaseMap]

def canonicalTLSDomain (raw : String) : Except String String :=
  let value := toLower (trimEnd "." raw)
  let wildcard := hasPrefix "*." value
  let value := if wildcard then trimStart "*." value else value
  if value = "" ∨ 253 < byteLength value.toList ∨ !contains '.' value then .error "invalid DNS name"
  else
    let labels := splitOn '.' value.toList
    let badLabel (label : List Char) : Bool :=
      label.length = 0 ∨ 63 < byteLength label ∨ label.head? = some '-' ∨ label.getLast? = some '-'
    let badCharacter (c : Char) : Bool := !(c.isLower || c.isDigit || c == '-')
    match labels.find? fun label => badLabel label || label.any badCharacter with
    | some label => .error (if badLabel label then "invalid DNS label" else "non-ASCII or invalid DNS character")
    | none => .ok (if wildcard then "*." ++ value else value)

structure TLSExclusionSelectors where
  domains : List String
  cidrs : List String
  ports : List Int
  deriving DecidableEq

def canonicalTLSExclusion (exclusion : TLSExclusion) : Except String TLSExclusionSelectors := do
  let domains ← exclusion.domains.mapM fun raw => match canonicalTLSDomain raw with
    | .ok value => .ok value
    | .error failure => .error ("domain " ++ quote raw ++ ": " ++ failure)
  let cidrs ← exclusion.destinationCIDRs.mapM fun raw => match parsePrefix raw.toList with
    | some pfx => .ok pfx.masked.string
    | none => .error ("CIDR " ++ quote raw)
  match exclusion.ports.find? fun port => port < 1 ∨ 65535 < port with
  | some port => .error ("invalid port " ++ toString port)
  | none => .ok ⟨uniqueSorted domains, uniqueSorted cidrs, exclusion.ports.dedup.insertionSort (· ≤ ·)⟩

def tlsDomainCovers (earlier later : String) : Bool :=
  if earlier = later then true
  else if !hasPrefix "*." earlier then false
  else hasSuffix ("." ++ trimStart "*." earlier) (trimStart "*." later)

def tlsDomainMatchesCanonical (pattern host : String) : Bool :=
  match canonicalTLSDomain host with
  | .error _ => false
  | .ok canonical => !hasPrefix "*." canonical && tlsDomainCovers pattern canonical

def groupCovers {Value : Type} (covers : Value → Value → Bool) (earlier later : List Value) : Bool :=
  earlier.isEmpty || (!later.isEmpty && later.all fun wanted => earlier.any fun candidate => covers candidate wanted)

def prefixCovers (candidate wanted : Prefix) : Bool :=
  candidate.addr.bitLen == wanted.addr.bitLen && candidate.bits ≤ wanted.bits && candidate.contains wanted.addr

def tlsCIDRCovers (candidate wanted : String) : Bool :=
  match parsePrefix candidate.toList, parsePrefix wanted.toList with
  | some candidate, some wanted => prefixCovers candidate wanted
  | _, _ => false

def tlsExclusionCovers (earlier later : TLSExclusionSelectors) : Bool :=
  groupCovers tlsDomainCovers earlier.domains later.domains &&
    groupCovers tlsCIDRCovers earlier.cidrs later.cidrs &&
    groupCovers (fun candidate wanted => candidate == wanted) earlier.ports later.ports

def enabledExclusions (c : Config) : List TLSExclusion :=
  c.tlsExclusions.filter (·.enabled)

def tlsExclusionEffectiveKey (c : Config) : Except String (List TLSExclusionSelectors) :=
  if !usesM4 c then .ok []
  else (enabledExclusions c).mapM fun exclusion => match canonicalTLSExclusion exclusion with
    | .ok selectors => .ok selectors
    | .error failure => .error ("tls_exclusion " ++ exclusion.id ++ ": " ++ failure)

def tlsExclusionErrors (before : List TLSExclusion) (exclusion : TLSExclusion) : List String :=
  let duplicate :=
    if before.any (·.id == exclusion.id) then ["duplicate tls_exclusion ID " ++ exclusion.id] else []
  let shadowed := match exclusion.enabled, canonicalTLSExclusion exclusion with
    | true, .ok selector =>
      let earlier := (before.filter (·.enabled)).filterMap fun previous =>
        ((canonicalTLSExclusion previous).toOption).map (previous.id, ·)
      match earlier.find? fun previous => tlsExclusionCovers previous.2 selector with
      | some previous =>
        let kind := if previous.2 = selector then "an exact duplicate of" else "shadowed by"
        ["tls_exclusion " ++ exclusion.id ++ " is " ++ kind ++ " preceding tls_exclusion " ++ previous.1]
      | none => []
    | _, _ => []
  duplicate ++ shadowed

def withEarlier {Value : Type} (check : List Value → Value → List String) :
    List Value → List Value → List String
  | _, [] => []
  | before, value :: rest => check before value ++ withEarlier check (before ++ [value]) rest

def tlsExclusionSemanticErrors (c : Config) : List String :=
  if !usesM4 c then [] else withEarlier tlsExclusionErrors [] c.tlsExclusions

/-! ## Policies that count as one -/

structure ProfileKey where
  idsIPSEnabled : Bool
  tlsMode : TLSMode
  inspection : Option InspectionProfile
  requestGate : Option RequestGateProfile := none
  exclusions : List TLSExclusionSelectors := []
  deriving DecidableEq

structure PolicyKey where
  enabled : Bool
  sourceZones : List String
  destinationZones : List String
  sourceAddresses : List String
  destinationAddresses : List String
  services : List String
  applications : List String
  applicationMatchMode : String
  securityProfileID : String
  profileSemantics : Option ProfileKey
  minimumRisk : Option Int
  maximumRisk : Option Int
  action : String
  scope : String
  deriving DecidableEq

def canonicalStrings (values : List String) : List String :=
  uniqueSorted ((values.map fun value => toLower (trimSpace value)).filter (· ≠ ""))

def canonicalAddress (raw : String) : String :=
  let value := trimSpace raw
  match parsePrefix value.toList with
  | some pfx => pfx.masked.string
  | none => match parseAddr value.toList with
    | some addr => (Prefix.single addr).string
    | none => value

def canonicalAddresses (values : List String) : List String :=
  uniqueSorted ((values.map canonicalAddress).filter (· ≠ ""))

def canonicalScope (value : String) : String :=
  let value := toUpper (trimSpace value)
  if value = "" then "SESSION" else value

def serviceBefore (a b : ServiceSelector) : Bool :=
  let first (s : ServiceSelector) : Nat := (s.ports.map PortRange.first).getD 0
  let last (s : ServiceSelector) : Nat := (s.ports.map PortRange.last).getD 0
  a.protocol.name < b.protocol.name ∨ a.protocol.name = b.protocol.name ∧
    (first a < first b ∨ first a = first b ∧ last a ≤ last b)

def parseServices : List String → Except String (List ServiceSelector)
  | [] => .ok []
  | raw :: rest =>
    if trimSpace raw = "" then .error "invalid empty service selector"
    else match parseServiceSelector raw with
      | .error failure => .error failure
      | .ok selector => (parseServices rest).map (selector :: ·)

def canonicalServiceList (values : List String) : Except String (List String) :=
  (parseServices values).map fun selectors =>
    (selectors.dedup.insertionSort fun a b => serviceBefore a b).map ServiceSelector.canonical

def profileEffectiveKey (profile : SecurityProfile) (exclusions : Option (List TLSExclusionSelectors)) :
    ProfileKey :=
  let key : ProfileKey :=
    { idsIPSEnabled := profile.idsIPSEnabled, tlsMode := profile.tlsMode, inspection := profile.inspection }
  match exclusions with
  | some exclusions => { key with requestGate := profile.requestGate, exclusions := exclusions }
  | none => key

def profileSemantics (c : Config) (profile : SecurityProfile) : Except String ProfileKey :=
  if usesM4 c ∧ profile.requestGate.any (·.enabled) then
    (tlsExclusionEffectiveKey c).map fun exclusions => profileEffectiveKey profile (some exclusions)
  else .ok (profileEffectiveKey profile none)

def effectivePolicyKey (c : Config) (policy : SecurityPolicy) : Except String PolicyKey :=
  match canonicalServiceList policy.services with
  | .error failure => .error ("policy " ++ policy.id ++ " service: " ++ failure)
  | .ok services =>
    let key : PolicyKey :=
      { enabled := policy.enabled
        sourceZones := canonicalStrings policy.sourceZones
        destinationZones := canonicalStrings policy.destinationZones
        sourceAddresses := canonicalAddresses policy.sourceAddresses
        destinationAddresses := canonicalAddresses policy.destinationAddresses
        services := services
        applications := canonicalStrings policy.applications
        applicationMatchMode := toUpper (trimSpace policy.applicationMatchMode)
        securityProfileID := trimSpace policy.securityProfileID
        profileSemantics := none
        minimumRisk := policy.minimumRisk
        maximumRisk := policy.maximumRisk
        action := toUpper (trimSpace policy.action.text)
        scope := canonicalScope policy.scope }
    let profile := if policy.securityProfileID = "" then none
      else c.profiles.find? (·.id == policy.securityProfileID)
    match profile with
    | none => .ok key
    | some profile => (profileSemantics c profile).map fun semantics =>
      { key with profileSemantics := some semantics, securityProfileID := "" }

def duplicateError (c : Config) (before : List SecurityPolicy) (policy : SecurityPolicy) : List String :=
  match (effectivePolicyKey c policy).toOption with
  | none => []
  | some key => match before.find? fun prior => (effectivePolicyKey c prior).toOption = some key with
    | some prior =>
      ["policy " ++ policy.id ++ " is an exact duplicate of effective policy " ++ prior.id ++ " (priority " ++
        toString prior.priority ++ ")"]
    | none => []

def exactDuplicatePolicyErrorsForConfig (c : Config) : List String :=
  withEarlier (duplicateError c) [] (c.policies.insertionSort fun a b =>
    a.priority < b.priority ∨ a.priority = b.priority ∧ a.id ≤ b.id)

/-! ## Policies that an earlier one covers -/

def isL3L4FirstMatchPolicy (policy : SecurityPolicy) : Bool :=
  policy.enabled &&
    (policy.scope = "" || equalFold (trimSpace policy.scope) "SESSION") &&
    (policy.action = .allow ∨ policy.action = .drop ∨ policy.action = .reject) &&
    policy.minimumRisk.isNone && policy.maximumRisk.isNone &&
    (policy.applications.isEmpty || policy.action = .allow) &&
    (policy.applicationMatchMode = "" || equalFold policy.applicationMatchMode "RESTRICT_L3_ALLOW")

def selectorsCover (covers : String → String → Bool) (earlier later : List String) : Bool :=
  if later.isEmpty then earlier.isEmpty
  else earlier.isEmpty || later.all fun wanted => earlier.any fun candidate => covers candidate wanted

def stringSelectorsCover : List String → List String → Bool :=
  selectorsCover fun candidate wanted => equalFold (trimSpace candidate) (trimSpace wanted)

def selectorPrefix (raw : String) : Option Prefix :=
  let raw := trimList raw.toList
  match parsePrefix raw with
  | some pfx => some pfx.masked
  | none => (parseAddr raw).map Prefix.single

def parsedSelectorsCover {Value : Type} (parse : String → Option Value) (covers : Value → Value → Bool)
    (earlier later : List String) : Bool :=
  if later.isEmpty then earlier.isEmpty
  else earlier.isEmpty || match earlier.mapM parse, later.mapM parse with
    | some prior, some wanted => wanted.all fun value => prior.any fun candidate => covers candidate value
    | _, _ => false

def addressSelectorsCover : List String → List String → Bool :=
  parsedSelectorsCover selectorPrefix prefixCovers

def serviceCovers (candidate wanted : ServiceSelector) : Bool :=
  candidate.protocol == wanted.protocol && match candidate.ports, wanted.ports with
    | none, _ => true
    | some range, some inner => range.first ≤ inner.first ∧ inner.last ≤ range.last
    | some _, none => false

def serviceSelectorsCover : List String → List String → Bool :=
  parsedSelectorsCover (fun raw => (parseServiceSelector raw).toOption) serviceCovers

def policyMatchCovers (earlier later : SecurityPolicy) : Bool :=
  stringSelectorsCover earlier.sourceZones later.sourceZones &&
    stringSelectorsCover earlier.destinationZones later.destinationZones &&
    addressSelectorsCover earlier.sourceAddresses later.sourceAddresses &&
    addressSelectorsCover earlier.destinationAddresses later.destinationAddresses &&
    serviceSelectorsCover earlier.services later.services

def unreachableError (before : List SecurityPolicy) (later : SecurityPolicy) : List String :=
  if !isL3L4FirstMatchPolicy later then []
  else
    let covering (earlier : SecurityPolicy) : Bool :=
      earlier.priority < later.priority && isL3L4FirstMatchPolicy earlier && policyMatchCovers earlier later
    match before.find? covering with
    | some earlier =>
      ["policy " ++ later.id ++ " is unreachable: higher-priority policy " ++ earlier.id ++ " (priority " ++
        toString earlier.priority ++ ") already matches all of its traffic"]
    | none => []

def m3UnreachablePolicyErrors (c : Config) : List String :=
  withEarlier unreachableError [] (c.policies.insertionSort fun a b => a.priority ≤ b.priority)

end Ngfw.Config

import Ngfw.Lib.Netip

namespace Ngfw.Domain
open Lib Lib.Text Lib.Netip

inductive IPFamily
  | unknown
  | ipv4
  | ipv6
  deriving DecidableEq

namespace IPFamily

def string : IPFamily → String
  | unknown => "unknown"
  | ipv4 => "ipv4"
  | ipv6 => "ipv6"

def number : IPFamily → UInt8
  | unknown => 0
  | ipv4 => 4
  | ipv6 => 6

end IPFamily

structure Tuple where
  family : IPFamily := .unknown
  srcIP : Addr := .zero
  srcPort : UInt16 := 0
  dstIP : Addr := .zero
  dstPort : UInt16 := 0
  protocol : UInt8 := 0
  icmpType : UInt8 := 0
  icmpCode : UInt8 := 0
  icmpID : UInt16 := 0
  deriving DecidableEq

namespace Tuple

def valid (t : Tuple) : Bool :=
  if t.srcIP = .zero ∨ t.dstIP = .zero ∨ t.protocol = 0 then false
  else if t.family = .ipv4 ∧ (!t.srcIP.is4 ∨ !t.dstIP.is4) then false
  else if t.family = .ipv6 ∧ (!t.srcIP.is6 ∨ t.srcIP.is4 ∨ !t.dstIP.is6 ∨ t.dstIP.is4) then false
  else t.srcIP.bitLen == t.dstIP.bitLen

def reverse (t : Tuple) : Tuple :=
  { t with
    srcIP := t.dstIP, dstIP := t.srcIP, srcPort := t.dstPort, dstPort := t.srcPort
    icmpType :=
      -- echo request and reply swap, for ICMP and ICMPv6 alike
      if t.protocol = 1 ∨ t.protocol = 58 then
        if t.icmpType = 8 then 0
        else if t.icmpType = 0 then 8
        else if t.icmpType = 128 then 129
        else if t.icmpType = 129 then 128
        else t.icmpType
      else t.icmpType }

def string (t : Tuple) : String :=
  join "|" [t.family.string, t.srcIP.string, t.dstIP.string, decimal t.srcPort.toNat, decimal t.dstPort.toNat,
    decimal t.protocol.toNat, decimal t.icmpType.toNat, decimal t.icmpCode.toNat, decimal t.icmpID.toNat,
    decimal t.srcIP.bitLen]

end Tuple

/-- flow.Key: the scope keeps equal tuples of two namespaces or conntrack zones apart. -/
structure FlowKey where
  networkNamespace : String
  conntrackZone : UInt16
  tuple : Tuple
  deriving DecidableEq

/-- flow.Aliases: every valid tuple view of one conntrack record, without duplicates. -/
def aliases (networkNamespace : String) (conntrackZone : UInt16) (original : Tuple)
    (reply translated : Option Tuple) : List FlowKey :=
  let add (seen : List FlowKey) (t : Tuple) : List FlowKey :=
    let key : FlowKey := ⟨networkNamespace, conntrackZone, t⟩
    if !t.valid ∨ key ∈ seen then seen else seen ++ [key]
  let replies : List Tuple := match reply with
    | none => []
    | some t => [t, t.reverse]
  let translations : List Tuple := match translated with
    | none => []
    | some t =>
      -- the forward filter sees the source before SNAT and the destination after DNAT
      let policy := { original with dstIP := t.dstIP, dstPort := t.dstPort }
      [t, t.reverse, policy, policy.reverse]
  ([original, original.reverse] ++ replies ++ translations).foldl add []

end Ngfw.Domain

import Ngfw.Lib.Text

namespace Ngfw.Domain
open Lib Lib.Text

inductive ServiceProtocol
  | tcp
  | udp
  | icmp
  | icmpv6
  deriving DecidableEq

namespace ServiceProtocol

def name : ServiceProtocol → String
  | tcp => "tcp"
  | udp => "udp"
  | icmp => "icmp"
  | icmpv6 => "icmpv6"

def number : ServiceProtocol → UInt8
  | tcp => 6
  | udp => 17
  | icmp => 1
  | icmpv6 => 58

def hasPorts : ServiceProtocol → Bool
  | tcp => true
  | udp => true
  | _ => false

def ofName (name : String) : Option ServiceProtocol :=
  if name = "tcp" then some tcp
  else if name = "udp" then some udp
  else if name = "icmp" then some icmp
  else if name = "icmpv6" then some icmpv6
  else none

end ServiceProtocol

structure PortRange where
  first : Nat
  last : Nat
  positive : 1 ≤ first
  ordered : first ≤ last
  bounded : last ≤ 65535
  deriving DecidableEq

namespace PortRange

def contains (range : PortRange) (port : UInt16) : Bool :=
  range.first ≤ port.toNat ∧ port.toNat ≤ range.last

end PortRange

structure ServiceSelector where
  protocol : ServiceProtocol
  ports : Option PortRange
  deriving DecidableEq

namespace ServiceSelector

def canonical (selector : ServiceSelector) : String :=
  match selector.ports with
  | none => selector.protocol.name
  | some range =>
    if range.first = range.last then selector.protocol.name ++ ":" ++ decimal range.first
    else selector.protocol.name ++ ":" ++ decimal range.first ++ "-" ++ decimal range.last

end ServiceSelector

def parsePort (least : Int) (text : List Char) : Option Nat :=
  match atoi (trimList text) with
  | none => none
  | some port => if least ≤ port ∧ port ≤ 65535 then some port.toNat else none

def makePortRange (first last : Nat) : Option PortRange :=
  if valid : 1 ≤ first ∧ first ≤ last ∧ last ≤ 65535 then
    some ⟨first, last, valid.1, valid.2.1, valid.2.2⟩
  else none

def parsePortRange (text : List Char) : Option PortRange :=
  match splitOn '-' (trimList text) with
  | [port] => (parsePort 1 port).bind fun first => makePortRange first first
  | [low, high] =>
    (parsePort 1 low).bind fun first => (parsePort first high).bind fun last => makePortRange first last
  | _ => none

def parseServiceSelector [CaseMap] (raw : String) : Except String ServiceSelector :=
  let invalid : Except String ServiceSelector := .error ("invalid service " ++ quote raw ++
    "; expected tcp:80, udp:53, tcp:1-65535, icmp, or icmpv6")
  let protocolOf (text : List Char) : Option ServiceProtocol :=
    ServiceProtocol.ofName (toLower (String.ofList (trimList text)))
  match splitOn ':' (trimList raw.toList) with
  | [protocol] => match protocolOf protocol with
    | some protocol => if protocol.hasPorts then invalid else .ok ⟨protocol, none⟩
    | none => invalid
  | [protocol, ports] => match protocolOf protocol with
    | some protocol =>
      if protocol.hasPorts then match parsePortRange ports with
        | some range => .ok ⟨protocol, some range⟩
        | none => invalid
      else invalid
    | none => invalid
  | _ => invalid

end Ngfw.Domain

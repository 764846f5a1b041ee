import Ngfw.Inspection.HttpGate
import Ngfw.Lib.HttpMessage
import Ngfw.Lib.Packet

/-!
# The captured request

The request inspector sees a request as the HTTP/1.1 message that the capture builder writes for it, in the packets of
one TCP conversation.
-/

namespace Ngfw.Inspection

open Lib Domain

structure FlowTuple where
  clientIP : Netip.Addr
  clientPort : UInt16
  serverIP : Netip.Addr
  serverPort : UInt16
  deriving DecidableEq

def addrFrom4 (a b c d : UInt8) : Netip.Addr :=
  .v4 (BitVec.ofNat 32 (((a.toNat * 256 + b.toNat) * 256 + c.toNat) * 256 + d.toNat))

def syntheticTuple (flowID : UInt32) : FlowTuple where
  clientIP := addrFrom4 198 ((18 : UInt8) ||| (flowID >>> 31).toUInt8) (flowID >>> 23).toUInt8 (flowID >>> 15).toUInt8
  clientPort := (1024 + (flowID &&& 0x7fff)).toUInt16
  serverIP := addrFrom4 192 168 0 10
  serverPort := 80

inductive PcapError
  | invalidRequest
  | captureLimit
  deriving DecidableEq

structure SemanticRequest where
  requestLine : String
  fields : List (String × String)
  body : List UInt8
  deriving DecidableEq

def token (value : String) : Bool :=
  value ≠ "" ∧ value.toList.all Http.isTokenChar

def singleLine (value : String) : Bool :=
  value.toList.all fun c => 0x20 ≤ c.toNat && c.toNat != 0x7f

def ascii (value : String) : Bool :=
  value.toList.all fun c => c.toNat < 0x80

def validHost (host : String) : Bool :=
  host ≠ "" ∧ byteCount host ≤ 255 ∧ singleLine host ∧ ascii host ∧
    ¬ host.toList.any fun c => " /?#@\\".toList.contains c

def lineBytes (line : String × String) : Int :=
  byteCount line.1 + byteCount line.2 + 4

def wireBytes (requestLine : String) (fields : List (String × String)) : Int :=
  byteCount requestLine + 2 + (fields.map lineBytes).sum

def writeValues (requestLine key : String) :
    List String → List (String × String) → Except PcapError (List (String × String))
  | [], fields => .ok fields
  | value :: rest, fields =>
    if ¬ singleLine value then .error .invalidRequest
    else if byteCount value > 65536 ∨
        wireBytes requestLine fields + byteCount key + byteCount value + 4 > 65536 then .error .captureLimit
    else writeValues requestLine key rest (fields ++ [(Http.canonicalHeaderKey key, value)])

variable [CaseMap]

def excludedHeader (key : String) : Bool :=
  let key := Text.toLower key
  key ∈ ["host", "content-length", "content-encoding", "transfer-encoding", "connection", "proxy-connection",
      "keep-alive", "te", "trailer", "upgrade", "authorization", "proxy-authorization", "cookie", "set-cookie",
      "x-api-key"] ∨
    Text.containsText "token" key ∨ Text.containsText "secret" key ∨ Text.containsText "password" key

def writeFields (requestLine : String) (headers : Header) :
    List String → List (String × String) → Except PcapError (List (String × String))
  | [], fields => .ok fields
  | key :: rest, fields =>
    if excludedHeader key then writeFields requestLine headers rest fields
    else match writeValues requestLine key ((headers.fields.lookup key).getD []) fields with
      | .error failure => .error failure
      | .ok fields => writeFields requestLine headers rest fields

def sortedKeys (headers : Header) : List String :=
  headers.fields.keys.insertionSort fun left right =>
    Text.toLower left < Text.toLower right ∨ Text.toLower left = Text.toLower right ∧ left ≤ right

def semanticRequest (request : GateHTTPRequest) : Except PcapError SemanticRequest :=
  if byteCount request.method > 64 ∨ ¬ token request.method ∨ ¬ validHost request.host ∨
      request.body.length > 4194304 ∨ request.headers.fields.keys.length > 256 then .error .invalidRequest
  else
    let path := if request.path = "" then "/" else request.path
    if byteCount path + byteCount request.rawQuery + 1 > 16384 then .error .captureLimit
    else if ¬ Text.hasPrefix "/" path ∨ ¬ singleLine path ∨ ¬ singleLine request.rawQuery then
      .error .invalidRequest
    else
      let uri := if request.rawQuery ≠ "" then path ++ "?" ++ request.rawQuery else path
      if ¬ ascii uri then .error .invalidRequest
      else
        let requestLine := request.method ++ " " ++ uri ++ " HTTP/1.1"
        if request.headers.fields.keys.any fun key => byteCount key > 256 || !token key then
          .error .invalidRequest
        else match writeFields requestLine request.headers (sortedKeys request.headers) [("Host", request.host)] with
          | .error failure => .error failure
          | .ok fields =>
            let fields := fields ++
              [("Content-Length", Text.decimal request.body.length), ("Connection", "close")]
            if wireBytes requestLine fields + 2 > 65536 then .error .captureLimit
            else .ok { requestLine, fields, body := request.body }

/-! ## The conversation -/

open HttpMessage Packet

def SemanticRequest.bytes (message : SemanticRequest) : List UInt8 :=
  render (textBytes message.requestLine) (message.fields.map fun field => (textBytes field.1, textBytes field.2))
    message.body

def as4 : Netip.Addr → List UInt8
  | .v4 bits => be32 bits.toNat
  | _ => [0, 0, 0, 0]

def ethernetHeader (fromClient : Bool) : List UInt8 :=
  let destinationMAC : List UInt8 := [2, 0, 0, 0, 0, if fromClient then 2 else 1]
  let sourceMAC : List UInt8 := [2, 0, 0, 0, 0, if fromClient then 1 else 2]
  destinationMAC ++ sourceMAC ++ be16 0x0800

def ipHeader (source destination : List UInt8) (length : Nat) (identifier checksum : UInt16) : List UInt8 :=
  [0x45, 0] ++ be16 length ++ be16 identifier.toNat ++ be16 0x4000 ++ [64, 6] ++ be16 checksum.toNat ++ source ++
    destination

def tcpHeader (sourcePort destinationPort : UInt16) (seq ack : UInt32) (flags : UInt8) (checksum : UInt16) :
    List UInt8 :=
  be16 sourcePort.toNat ++ be16 destinationPort.toNat ++ be32 seq.toNat ++ be32 ack.toNat ++ [0x50, flags] ++
    be16 64240 ++ be16 checksum.toNat ++ [0, 0]

def pseudoHeader (source destination : List UInt8) (length : Nat) : List UInt8 :=
  source ++ destination ++ [0, 6] ++ be16 length

structure Endpoint where
  address : List UInt8
  port : UInt16
  deriving DecidableEq

def assemble (ethernet : List UInt8) (source destination : Endpoint) (identifier : UInt16) (seq ack : UInt32)
    (flags : UInt8) (payload : List UInt8) : List UInt8 :=
  let ip := ipHeader source.address destination.address (40 + payload.length) identifier
  let tcp (checksum : UInt16) := tcpHeader source.port destination.port seq ack flags checksum ++ payload
  let pseudo := pseudoHeader source.address destination.address (20 + payload.length)
  ethernet ++ ip (checksum (ip 0)) ++ tcp (checksum (pseudo ++ tcp 0))

def makePacket (fromClient : Bool) (flowID : UInt32) (identifier : UInt16) (seq ack : UInt32) (flags : UInt8)
    (payload : List UInt8) : List UInt8 :=
  let flow := syntheticTuple flowID
  let client : Endpoint := ⟨as4 flow.clientIP, flow.clientPort⟩
  let server : Endpoint := ⟨as4 flow.serverIP, 80⟩
  if fromClient then assemble (ethernetHeader true) client server identifier seq ack flags payload
  else assemble (ethernetHeader false) server client identifier seq ack flags payload

def maxCaptureBytes : Nat := 6291456

def segmentBytes : Nat := 1200

structure Segment where
  fromClient : Bool
  flags : UInt8
  data : List UInt8 := []
  deriving DecidableEq

def Segment.advance (segment : Segment) : UInt32 :=
  UInt32.ofNat segment.data.length + if segment.flags &&& 0x03 ≠ 0 then 1 else 0

structure Capture where
  bytes : List UInt8
  clientSeq : UInt32
  serverSeq : UInt32
  packetNumber : UInt32

def Capture.start : Capture where
  bytes := le32 0xa1b2c3d4 ++ le16 2 ++ le16 4 ++ le32 0 ++ le32 0 ++ le32 65535 ++ le32 1
  clientSeq := 1000
  serverSeq := 5000
  packetNumber := 0

def Capture.packet (capture : Capture) (flowID : UInt32) (segment : Segment) : List UInt8 :=
  makePacket segment.fromClient flowID (capture.packetNumber + 1).toUInt16
    (if segment.fromClient then capture.clientSeq else capture.serverSeq)
    (if segment.fromClient then capture.serverSeq else capture.clientSeq) segment.flags segment.data

def Capture.write (flowID : UInt32) (capture : Capture) (segment : Segment) : Except PcapError Capture :=
  if segment.data.length > segmentBytes then .error .captureLimit
  else
    let packet := capture.packet flowID segment
    let number := capture.packetNumber.toNat
    if capture.bytes.length + 16 + packet.length > maxCaptureBytes then .error .captureLimit
    else .ok
      { bytes := capture.bytes ++ (le32 (1 + number / 1000) ++ le32 (number % 1000 * 1000) ++ le32 packet.length ++
          le32 packet.length) ++ packet
        packetNumber := capture.packetNumber + 1
        clientSeq := if segment.fromClient then capture.clientSeq + segment.advance else capture.clientSeq
        serverSeq := if segment.fromClient then capture.serverSeq else capture.serverSeq + segment.advance }

def response : List UInt8 :=
  textBytes "HTTP/1.1 204 No Content\r\nContent-Length: 0\r\nConnection: close\r\n\r\n"

def pieces (payload : List UInt8) : List (List UInt8) :=
  if payload.length = 0 then []
  else payload.take segmentBytes :: pieces (payload.drop segmentBytes)
termination_by payload.length
decreasing_by
  rw [List.length_drop, segmentBytes]
  omega

def conversation (payload : List UInt8) : List Segment :=
  [⟨true, 0x02, []⟩, ⟨false, 0x12, []⟩, ⟨true, 0x10, []⟩] ++
    (pieces payload).map (fun piece => ⟨true, 0x18, piece⟩) ++
    [⟨false, 0x10, []⟩, ⟨false, 0x18, response⟩, ⟨true, 0x10, []⟩, ⟨true, 0x11, []⟩,
      ⟨false, 0x10, []⟩, ⟨false, 0x11, []⟩, ⟨true, 0x10, []⟩]

def build (request : GateHTTPRequest) (flowID : UInt32) : Except PcapError (List UInt8) :=
  match semanticRequest request with
  | .error failure => .error failure
  | .ok message => ((conversation message.bytes).foldlM (Capture.write flowID) Capture.start).map (·.bytes)

end Ngfw.Inspection

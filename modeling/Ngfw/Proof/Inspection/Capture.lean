import Ngfw.Inspection.RequestPcap

/-! # The packets of a capture -/

namespace Ngfw.Inspection
open Lib Lib.Packet

/-! ## Reading packets -/

inductive Records : List UInt8 → List (List UInt8) → Prop
  | nil : Records [] []
  | cons {time packet rest : List UInt8} {packets : List (List UInt8)} (timed : time.length = 8)
      (others : Records rest packets) :
      Records (time ++ le32 packet.length ++ le32 packet.length ++ packet ++ rest) (packet :: packets)

def field (packet : List UInt8) (offset width : Nat) : List UInt8 :=
  (packet.drop offset).take width

def sourceOf (packet : List UInt8) : Endpoint :=
  ⟨field packet 26 4, UInt16.ofNat (beValue (field packet 34 2))⟩

def destinationOf (packet : List UInt8) : Endpoint :=
  ⟨field packet 30 4, UInt16.ofNat (beValue (field packet 36 2))⟩

def sequenceOf (packet : List UInt8) : UInt32 :=
  UInt32.ofNat (beValue (field packet 38 4))

def payloadOf (packet : List UInt8) : List UInt8 :=
  packet.drop 54

def flagsOf (packet : List UInt8) : UInt8 :=
  packet.getD 47 0

def sequenceAfter (packet : List UInt8) : UInt32 :=
  sequenceOf packet + (UInt32.ofNat (payloadOf packet).length + if flagsOf packet &&& 0x03 ≠ 0 then 1 else 0)

def Contiguous : UInt32 → List (List UInt8) → Prop
  | _, [] => True
  | next, packet :: packets => sequenceOf packet = next ∧ Contiguous (sequenceAfter packet) packets

def clientEnd (flowID : UInt32) : Endpoint :=
  ⟨as4 (syntheticTuple flowID).clientIP, (syntheticTuple flowID).clientPort⟩

def serverEnd (flowID : UInt32) : Endpoint :=
  ⟨as4 (syntheticTuple flowID).serverIP, (syntheticTuple flowID).serverPort⟩

structure Sound (packet : List UInt8) : Prop where
  etherType : field packet 12 2 = be16 0x0800
  header : field packet 14 1 = [0x45] ∧ field packet 23 1 = [6] ∧ field packet 46 1 = [0x50]
  length : beValue (field packet 16 2) + 14 = packet.length
  ipChecksum : checksum (field packet 14 20) = 0
  tcpChecksum : checksum (pseudoHeader (sourceOf packet).address (destinationOf packet).address (packet.length - 34) ++
    packet.drop 34) = 0

def fromClient (flowID : UInt32) (packet : List UInt8) : Bool :=
  sourceOf packet = clientEnd flowID ∧ destinationOf packet = serverEnd flowID

def fromServer (flowID : UInt32) (packet : List UInt8) : Bool :=
  sourceOf packet = serverEnd flowID ∧ destinationOf packet = clientEnd flowID

structure Exchange (flowID client server : UInt32) (packets : List (List UInt8)) : Prop where
  sound : ∀ packet ∈ packets, Sound packet
  onTuple : ∀ packet ∈ packets, fromClient flowID packet = true ∨ fromServer flowID packet = true
  clientSide : Contiguous client (packets.filter (fromClient flowID))
  serverSide : Contiguous server (packets.filter (fromServer flowID))

/-! ## One packet -/

theorem checksum_ipHeader {source destination : List UInt8} (sourceLength : source.length = 4)
    (destinationLength : destination.length = 4) (length : Nat) (identifier : UInt16) :
    checksum (ipHeader source destination length identifier
      (checksum (ipHeader source destination length identifier 0))) = 0 := by
  let before : List UInt8 := [0x45, 0] ++ be16 length ++ be16 identifier.toNat ++ be16 0x4000 ++ [64, 6]
  have split : ∀ field : UInt16, ipHeader source destination length identifier field =
      before ++ be16 field.toNat ++ (source ++ destination) := by
    intro field
    simp only [ipHeader, before, List.append_assoc]
  have fixed : before.length = 10 := rfl
  rw [split, split 0]
  apply checksum_verifies
  · rw [fixed]
  · rw [fixed, List.length_append, sourceLength, destinationLength]
    decide

theorem checksum_tcpSegment {pseudo : List UInt8} (pseudoLength : pseudo.length = 12)
    (sourcePort destinationPort : UInt16)
    (seq ack : UInt32) (flags : UInt8) {payload : List UInt8} (short : payload.length ≤ segmentBytes) :
    checksum (pseudo ++ (tcpHeader sourcePort destinationPort seq ack flags
      (checksum (pseudo ++ (tcpHeader sourcePort destinationPort seq ack flags 0 ++ payload))) ++ payload)) = 0 := by
  let before : List UInt8 := be16 sourcePort.toNat ++ be16 destinationPort.toNat ++ be32 seq.toNat ++ be32 ack.toNat ++
    [0x50, flags] ++ be16 64240
  have split : ∀ field : UInt16, pseudo ++ (tcpHeader sourcePort destinationPort seq ack flags field ++ payload) =
      (pseudo ++ before) ++ be16 field.toNat ++ ([0, 0] ++ payload) := by
    intro field
    simp only [tcpHeader, before, List.append_assoc]
  have fixed : before.length = 16 := rfl
  rw [split, split 0]
  apply checksum_verifies
  · rw [List.length_append, pseudoLength, fixed]
  · unfold segmentBytes at short
    simp only [List.length_append, pseudoLength, fixed, List.length_cons, List.length_nil]
    omega

structure PacketHead where
  fromClient : Bool
  source : Nat
  destination : Nat
  sourcePort : UInt16
  destinationPort : UInt16
  identifier : UInt16
  seq : UInt32
  ack : UInt32
  flags : UInt8

abbrev PacketHead.packet (head : PacketHead) (payload : List UInt8) : List UInt8 :=
  assemble (ethernetHeader head.fromClient) ⟨be32 head.source, head.sourcePort⟩
    ⟨be32 head.destination, head.destinationPort⟩ head.identifier head.seq head.ack head.flags payload

namespace PacketHead
variable (head : PacketHead) (payload : List UInt8)

theorem length_packet : (head.packet payload).length = 54 + payload.length :=
  Nat.add_comm payload.length 54

theorem sourceOf_packet : sourceOf (head.packet payload) = ⟨be32 head.source, head.sourcePort⟩ := by
  have port : field (head.packet payload) 34 2 = be16 head.sourcePort.toNat := rfl
  have address : field (head.packet payload) 26 4 = be32 head.source := rfl
  rw [sourceOf, port, address, beValue_be16 head.sourcePort.toNat_lt, UInt16.ofNat_toNat]

theorem destinationOf_packet :
    destinationOf (head.packet payload) = ⟨be32 head.destination, head.destinationPort⟩ := by
  have port : field (head.packet payload) 36 2 = be16 head.destinationPort.toNat := rfl
  have address : field (head.packet payload) 30 4 = be32 head.destination := rfl
  rw [destinationOf, port, address, beValue_be16 head.destinationPort.toNat_lt, UInt16.ofNat_toNat]

theorem sequenceOf_packet : sequenceOf (head.packet payload) = head.seq := by
  have bytes : field (head.packet payload) 38 4 = be32 head.seq.toNat := rfl
  rw [sequenceOf, bytes, beValue_be32 head.seq.toNat_lt, UInt32.ofNat_toNat]

theorem sequenceAfter_packet : sequenceAfter (head.packet payload) =
    head.seq + (UInt32.ofNat payload.length + if head.flags &&& 0x03 ≠ 0 then 1 else 0) := by
  rw [sequenceAfter, sequenceOf_packet]
  rfl

theorem sound_packet (short : payload.length ≤ segmentBytes) : Sound (head.packet payload) where
  etherType := rfl
  header := ⟨rfl, rfl, rfl⟩
  length := by
    have bytes : field (head.packet payload) 16 2 = be16 (40 + payload.length) := rfl
    unfold segmentBytes at short
    rw [bytes, beValue_be16 (by omega), length_packet]
    omega
  ipChecksum := by
    have bytes : field (head.packet payload) 14 20 =
        ipHeader (be32 head.source) (be32 head.destination) (40 + payload.length) head.identifier
          (checksum (ipHeader (be32 head.source) (be32 head.destination) (40 + payload.length) head.identifier 0)) :=
            rfl
    rw [bytes]
    exact checksum_ipHeader rfl rfl _ _
  tcpChecksum := by
    have bytes : (head.packet payload).drop 34 =
        tcpHeader head.sourcePort head.destinationPort head.seq head.ack head.flags
          (checksum (pseudoHeader (be32 head.source) (be32 head.destination) (20 + payload.length) ++
            (tcpHeader head.sourcePort head.destinationPort head.seq head.ack head.flags 0 ++ payload))) ++
              payload := rfl
    have length : 54 + payload.length - 34 = 20 + payload.length := by omega
    rw [length_packet, length, sourceOf_packet, destinationOf_packet, bytes]
    exact checksum_tcpSegment rfl _ _ _ _ _ short

end PacketHead

/-! ## The tuple -/

variable (capture : Capture) (payload : List UInt8) (flowID : UInt32) (segment : Segment)

theorem toNat_clientPort : (syntheticTuple flowID).clientPort.toNat = 1024 + flowID.toNat % 32768 := by
  have low : (flowID &&& 0x7fff).toNat = flowID.toNat % 32768 := by
    rw [UInt32.toNat_and]
    exact Nat.and_two_pow_sub_one_eq_mod flowID.toNat 15
  have small := Nat.mod_lt flowID.toNat (show 0 < 32768 by decide)
  simp only [syntheticTuple, UInt32.toNat_toUInt16, UInt32.toNat_add, low, UInt32.reduceToNat]
  omega

theorem toNat_secondOctet : ((18 : UInt8) ||| (flowID >>> 31).toUInt8).toNat = 18 + flowID.toNat / 2147483648 := by
  have bounded := flowID.toNat_lt
  have bit : (flowID >>> 31).toUInt8.toNat = flowID.toNat / 2147483648 := by
    simp [Nat.shiftRight_eq_div_pow]
    omega
  have top : flowID.toNat / 2147483648 = 0 ∨ flowID.toNat / 2147483648 = 1 := by omega
  rw [UInt8.toNat_or, bit]
  rcases top with zero | one
  · rw [zero]
    rfl
  · rw [one]
    rfl

theorem clientIP_eq : (syntheticTuple flowID).clientIP = .v4 (BitVec.ofNat 32
    (((198 * 256 + (18 + flowID.toNat / 2147483648)) * 256 + flowID.toNat / 8388608 % 256) * 256 +
      flowID.toNat / 32768 % 256)) := by
  have third : (flowID >>> 23).toUInt8.toNat = flowID.toNat / 8388608 % 256 := by simp [Nat.shiftRight_eq_div_pow]
  have fourth : (flowID >>> 15).toUInt8.toNat = flowID.toNat / 32768 % 256 := by simp [Nat.shiftRight_eq_div_pow]
  simp only [syntheticTuple, addrFrom4, toNat_secondOctet, third, fourth]
  rfl

theorem syntheticTuple_injective : Function.Injective syntheticTuple := by
  intro a b same
  have ports := congrArg (fun tuple => tuple.clientPort.toNat) same
  have addresses := congrArg FlowTuple.clientIP same
  rw [toNat_clientPort, toNat_clientPort] at ports
  rw [clientIP_eq, clientIP_eq, Netip.Addr.v4.injEq] at addresses
  have numbers := congrArg BitVec.toNat addresses
  rw [BitVec.toNat_ofNat, BitVec.toNat_ofNat] at numbers
  have boundA := a.toNat_lt
  have boundB := b.toNat_lt
  rw [← UInt32.toNat_inj]
  omega

theorem clientEnd_ne_serverEnd : clientEnd flowID ≠ serverEnd flowID := by
  intro same
  have ports := congrArg (fun place => place.port.toNat) same
  have low : (serverEnd flowID).port.toNat = 80 := rfl
  dsimp only [clientEnd] at ports
  rw [toNat_clientPort, low] at ports
  omega

/-! ## Writing -/

def addressNumber : Netip.Addr → Nat
  | .v4 bits => bits.toNat
  | _ => 0

def Capture.head (capture : Capture) (flowID : UInt32) (segment : Segment) : PacketHead :=
  let flow := syntheticTuple flowID
  let client := addressNumber flow.clientIP
  let server := addressNumber flow.serverIP
  let identifier := (capture.packetNumber + 1).toUInt16
  if segment.fromClient then
    ⟨true, client, server, flow.clientPort, 80, identifier, capture.clientSeq, capture.serverSeq, segment.flags⟩
  else ⟨false, server, client, 80, flow.clientPort, identifier, capture.serverSeq, capture.clientSeq, segment.flags⟩

theorem Capture.packet_eq : capture.packet flowID segment = (capture.head flowID segment).packet segment.data := by
  obtain ⟨fromClient, flags, data⟩ := segment
  cases fromClient <;> rfl

theorem Capture.sides :
    fromClient flowID (capture.packet flowID segment) = segment.fromClient ∧
      fromServer flowID (capture.packet flowID segment) = !segment.fromClient := by
  have apart := clientEnd_ne_serverEnd flowID
  rw [capture.packet_eq, Inspection.fromClient, Inspection.fromServer, PacketHead.sourceOf_packet,
    PacketHead.destinationOf_packet]
  obtain ⟨sender, flags, data⟩ := segment
  cases sender with
  | true =>
    have source : (⟨be32 (addressNumber (syntheticTuple flowID).clientIP), (syntheticTuple flowID).clientPort⟩ :
      Endpoint) = clientEnd flowID := rfl
    have destination : (⟨be32 (addressNumber (syntheticTuple flowID).serverIP), 80⟩ : Endpoint) =
      serverEnd flowID := rfl
    simp only [Capture.head, if_true, source, destination]
    simp [apart]
  | false =>
    have destination : (⟨be32 (addressNumber (syntheticTuple flowID).clientIP),
      (syntheticTuple flowID).clientPort⟩ : Endpoint) = clientEnd flowID := rfl
    have source : (⟨be32 (addressNumber (syntheticTuple flowID).serverIP), 80⟩ : Endpoint) = serverEnd flowID := rfl
    simp only [Capture.head, Bool.false_eq_true, if_false, source, destination]
    simp [apart.symm]

theorem Capture.sequence :
    sequenceOf (capture.packet flowID segment) =
      (if segment.fromClient then capture.clientSeq else capture.serverSeq) ∧
    sequenceAfter (capture.packet flowID segment) =
      (if segment.fromClient then capture.clientSeq else capture.serverSeq) + segment.advance := by
  rw [capture.packet_eq, PacketHead.sequenceOf_packet, PacketHead.sequenceAfter_packet]
  obtain ⟨sender, flags, data⟩ := segment
  cases sender <;> exact ⟨rfl, rfl⟩

section
variable {flowID : UInt32} {capture next : Capture} {segment : Segment} {segments : List Segment}

theorem Capture.write_ok (written : capture.write flowID segment = .ok next) :
    segment.data.length ≤ segmentBytes ∧
    next.clientSeq = (if segment.fromClient then capture.clientSeq + segment.advance else capture.clientSeq) ∧
    next.serverSeq = (if segment.fromClient then capture.serverSeq else capture.serverSeq + segment.advance) ∧
    ∃ time, time.length = 8 ∧ next.bytes = capture.bytes ++ (time ++ le32 (capture.packet flowID segment).length ++
      le32 (capture.packet flowID segment).length ++ capture.packet flowID segment) := by
  unfold Capture.write at written
  split at written
  · cases written
  · rename_i fits
    dsimp only at written
    split at written
    · cases written
    · cases written
      refine ⟨Nat.le_of_not_lt fits, rfl, rfl, le32 (1 + capture.packetNumber.toNat / 1000) ++
        le32 (capture.packetNumber.toNat % 1000 * 1000), rfl, ?_⟩
      simp only [List.append_assoc]

theorem Capture.write_exchange (written : capture.write flowID segment = .ok next) {packets : List (List UInt8)}
    (later : Exchange flowID next.clientSeq next.serverSeq packets) :
    Exchange flowID capture.clientSeq capture.serverSeq (capture.packet flowID segment :: packets) := by
  obtain ⟨short, client, server, -⟩ := Capture.write_ok written
  obtain ⟨fromClient, fromServer⟩ := capture.sides flowID segment
  obtain ⟨starts, ends⟩ := capture.sequence flowID segment
  refine ⟨List.forall_mem_cons.mpr ⟨?_, later.sound⟩, List.forall_mem_cons.mpr ⟨?_, later.onTuple⟩, ?_, ?_⟩
  · rw [capture.packet_eq]
    exact PacketHead.sound_packet _ _ short
  · rw [fromClient, fromServer]
    cases segment.fromClient <;> simp
  · rw [List.filter_cons, fromClient]
    cases sender : segment.fromClient with
    | true =>
      simp only [sender, if_true] at starts ends client
      refine ⟨starts, ?_⟩
      rw [ends, ← client]
      exact later.clientSide
    | false =>
      simp only [sender, Bool.false_eq_true, if_false] at client
      simp only [Bool.false_eq_true, if_false, ← client]
      exact later.clientSide
  · rw [List.filter_cons, fromServer]
    cases sender : segment.fromClient with
    | true =>
      simp only [sender, if_true] at server
      simp only [Bool.not_true, Bool.false_eq_true, if_false, ← server]
      exact later.serverSide
    | false =>
      simp only [sender, Bool.false_eq_true, if_false] at starts ends server
      refine ⟨starts, ?_⟩
      rw [ends, ← server]
      exact later.serverSide

theorem Capture.writeAll_ok (written : segments.foldlM (Capture.write flowID) capture = .ok next) :
    ∃ added packets, next.bytes = capture.bytes ++ added ∧ Records added packets ∧
      Exchange flowID capture.clientSeq capture.serverSeq packets ∧
      (packets.filter (fromClient flowID)).flatMap payloadOf = (segments.filter (·.fromClient)).flatMap (·.data) := by
  induction segments generalizing capture with
  | nil =>
    cases written
    exact ⟨[], [], (List.append_nil _).symm, .nil, ⟨by simp, by simp, trivial, trivial⟩, rfl⟩
  | cons segment segments ih =>
    rw [List.foldlM_cons] at written
    obtain ⟨middle, writtenOne, writtenRest⟩ := bind_ok.mp written
    obtain ⟨added, packets, bytes, records, exchange, payload⟩ := ih writtenRest
    obtain ⟨-, -, -, time, timed, middleBytes⟩ := Capture.write_ok writtenOne
    refine ⟨_, capture.packet flowID segment :: packets, ?_, .cons timed records,
      Capture.write_exchange writtenOne exchange, ?_⟩
    · rw [bytes, middleBytes]
      simp only [List.append_assoc]
    · have own : payloadOf (capture.packet flowID segment) = segment.data := by
        rw [capture.packet_eq]
        rfl
      rw [List.filter_cons, List.filter_cons, (capture.sides flowID segment).1]
      cases segment.fromClient with
      | true => simp only [if_true, List.flatMap_cons, own, payload]
      | false => simpa using payload

theorem Capture.writeAll_succeeds (short : ∀ segment ∈ segments, segment.data.length ≤ segmentBytes)
    (room : capture.bytes.length + (segments.map fun segment => 70 + segment.data.length).sum ≤ maxCaptureBytes) :
    ∃ final, segments.foldlM (Capture.write flowID) capture = .ok final := by
  induction segments generalizing capture with
  | nil => exact ⟨capture, rfl⟩
  | cons segment segments ih =>
    rw [List.map_cons, List.sum_cons] at room
    have fits : ¬ segment.data.length > segmentBytes := Nat.not_lt.mpr (short segment List.mem_cons_self)
    have length : (capture.packet flowID segment).length = 54 + segment.data.length := by
      rw [capture.packet_eq]
      exact PacketHead.length_packet _ _
    have inside : ¬ capture.bytes.length + 16 + (capture.packet flowID segment).length > maxCaptureBytes := by
      rw [length]
      omega
    obtain ⟨middle, written⟩ : ∃ middle, capture.write flowID segment = .ok middle := by
      rw [Capture.write, if_neg fits]
      exact ⟨_, if_neg inside⟩
    obtain ⟨-, -, -, time, timed, bytes⟩ := Capture.write_ok written
    have longer : middle.bytes.length = capture.bytes.length + (70 + segment.data.length) := by
      rw [bytes]
      simp only [List.length_append, timed, length, le32, be32, List.length_reverse, List.length_cons, List.length_nil]
      omega
    obtain ⟨final, rest⟩ := ih (fun other member => short other (List.mem_cons_of_mem _ member))
      (by rw [longer]; omega)
    refine ⟨final, ?_⟩
    rw [List.foldlM_cons, written]
    exact rest

end

/-! ## The whole conversation -/

theorem flatten_pieces : (pieces payload).flatten = payload := by
  induction payload using pieces.induct with
  | case1 payload empty =>
    rw [pieces, if_pos empty, List.eq_nil_of_length_eq_zero empty]
    rfl
  | case2 payload more ih =>
    rw [pieces, if_neg more, List.flatten_cons, ih, List.take_append_drop]

theorem length_le_of_mem_pieces {payload piece : List UInt8} (member : piece ∈ pieces payload) :
    piece.length ≤ segmentBytes := by
  induction payload using pieces.induct with
  | case1 payload empty =>
    rw [pieces, if_pos empty] at member
    cases member
  | case2 payload more ih =>
    rw [pieces, if_neg more] at member
    rcases List.mem_cons.mp member with rfl | later
    · exact List.length_take_le _ _
    · exact ih later

theorem length_pieces_le : (pieces payload).length ≤ (payload.length + 1199) / 1200 := by
  induction payload using pieces.induct with
  | case1 payload empty =>
    rw [pieces, if_pos empty]
    exact Nat.zero_le _
  | case2 payload more ih =>
    rw [pieces, if_neg more, List.length_cons]
    rw [List.length_drop] at ih
    simp only [segmentBytes] at ih ⊢
    omega

theorem sum_packets (pieces : List (List UInt8)) :
    (pieces.map fun piece => 70 + piece.length).sum = 70 * pieces.length + pieces.flatten.length := by
  induction pieces with
  | nil => rfl
  | cons piece pieces ih =>
    simp only [List.map_cons, List.sum_cons, ih, List.length_cons, List.flatten_cons, List.length_append]
    omega

theorem conversation_short {payload : List UInt8} :
    ∀ segment ∈ conversation payload, segment.data.length ≤ segmentBytes := by
  have answer : response.length ≤ segmentBytes := by decide
  intro segment member
  simp only [conversation, List.mem_append, List.mem_cons, List.not_mem_nil, or_false, List.mem_map] at member
  rcases member with ((rfl | rfl | rfl) | ⟨piece, inside, rfl⟩) | rfl | rfl | rfl | rfl | rfl | rfl | rfl
  case inl.inr => exact length_le_of_mem_pieces inside
  case inr.inr.inl => exact answer
  all_goals exact Nat.zero_le _

theorem conversation_size :
    ((conversation payload).map fun segment => 70 + segment.data.length).sum ≤
      765 + 70 * ((payload.length + 1199) / 1200) + payload.length := by
  have answer : response.length = 65 := by decide
  have middle := sum_packets (pieces payload)
  rw [flatten_pieces] at middle
  have count := length_pieces_le payload
  simp only [conversation, List.map_append, List.sum_append, List.map_map, Function.comp_def,
    List.map_cons, List.map_nil, List.sum_cons, List.sum_nil, middle, answer, List.length_nil]
  omega

theorem conversation_payload : ((conversation payload).filter (·.fromClient)).flatMap (·.data) = payload := by
  have pushed : ((pieces payload).map fun piece => (⟨true, 0x18, piece⟩ : Segment)).filter (·.fromClient) =
      (pieces payload).map fun piece => ⟨true, 0x18, piece⟩ := by
    rw [List.filter_eq_self]
    simp
  simp only [conversation, List.filter_append, pushed, List.flatMap_append]
  simp [List.flatMap_map, List.flatMap_id', flatten_pieces]

end Ngfw.Inspection

import Sponge.Ipv4Codec
import Sponge.TcpCodec

/-! The adapter that carries TCP segments in IPv4 datagrams (`util/address.cc`, `fd_adapter.hh`,
`tcp_over_ip.cc`). The conversions between numeric and printed addresses belong to the C library and are
parameters. -/

namespace Sponge

/-- A socket address: the numeric address if its family is IPv4, and the port. -/
structure Address where
  ipv4 : Option UInt32
  port : UInt16 := 0
  deriving DecidableEq, Repr

namespace Address

def ipv4Numeric (address : Address) : Except String UInt32 :=
  match address.ipv4 with
  | some ip => .ok ip
  | none => .error "ipv4_numeric called on non-IPV4 address"

def fromIpv4Numeric (ip : UInt32) : Address := { ipv4 := some ip }

/-- The constructor from a dotted quad and a port. -/
def ofIp (getaddrinfo : String → Option UInt32) (ip : String) (port : UInt16) : Except String Address :=
  match getaddrinfo ip with
  | some numeric => .ok ⟨some numeric, port⟩
  | none => .error ("getaddrinfo(" ++ ip ++ ", " ++ toString port ++ ")")

end Address

structure FdAdapterConfig where
  source : Address
  destination : Address
  deriving DecidableEq, Repr

structure TCPOverIPv4Adapter where
  config : FdAdapterConfig
  listening : Bool := false
  deriving DecidableEq, Repr

namespace TCPOverIPv4Adapter

def protoTCP : UInt8 := 6

/-- An adapter that does not listen wants its own address and its peer's. -/
def addressed (a : TCPOverIPv4Adapter) (header : IPv4Header) : Except String Bool :=
  if a.listening then .ok true
  else do
    if header.dst ≠ (← a.config.source.ipv4Numeric) then return false
    if header.src ≠ (← a.config.destination.ipv4Numeric) then return false
    return true

section Library

variable (inetNtoa : UInt32 → String) (getaddrinfo : String → Option UInt32)

/-- A listening adapter takes the addresses of a connection request and stops listening. -/
def adopt (a : TCPOverIPv4Adapter) (header : IPv4Header) (segment : TCPSegment) :
    Except String (Option TCPOverIPv4Adapter) :=
  if a.listening then
    if segment.header.syn && !segment.header.rst then do
      let source ← Address.ofIp getaddrinfo (inetNtoa header.dst) a.config.source.port
      let destination ← Address.ofIp getaddrinfo (inetNtoa header.src) segment.header.sport
      return some ⟨⟨source, destination⟩, false⟩
    else .ok none
  else .ok (some a)

/-- The segment for this connection, if the datagram holds one, and the adapter afterwards. -/
def unwrapTcpInIp (a : TCPOverIPv4Adapter) (ipDgram : InternetDatagram) :
    Except String (Option TCPSegment × TCPOverIPv4Adapter) := do
  if !(← a.addressed ipDgram.header) then return (none, a)
  if ipDgram.header.proto ≠ protoTCP then return (none, a)
  let buffer ← ipDgram.payload.toBuffer
  let (result, tcpSeg) := TCPSegment.parse {} buffer ipDgram.header.pseudoCksum
  if result ≠ .noError then return (none, a)
  if tcpSeg.header.dport ≠ a.config.source.port then return (none, a)
  match ← a.adopt inetNtoa getaddrinfo ipDgram.header tcpSeg with
  | none => return (none, a)
  | some a =>
      if tcpSeg.header.sport ≠ a.config.destination.port then return (none, a)
      return (some tcpSeg, a)

end Library

def setPorts (a : TCPOverIPv4Adapter) (seg : TCPSegment) : TCPSegment :=
  { seg with
    header := { seg.header with sport := a.config.source.port, dport := a.config.destination.port } }

def carrier (src dst : UInt32) (seg : TCPSegment) : IPv4Header :=
  let header : IPv4Header := { src, dst }
  { header with
    len := UInt16.ofNat (header.hlen.toNat * 4 + seg.header.doff.toNat * 4 + seg.payload.length) }

/-- The datagram and the segment with its port numbers set. -/
def wrapTcpInIp (a : TCPOverIPv4Adapter) (seg : TCPSegment) : Except String (InternetDatagram × TCPSegment) :=
  do
  let seg := a.setPorts seg
  let src ← a.config.source.ipv4Numeric
  let dst ← a.config.destination.ipv4Numeric
  let header := carrier src dst seg
  let payload ← seg.serialize header.pseudoCksum
  return (⟨header, payload⟩, seg)

end TCPOverIPv4Adapter

theorem IPv4Header.pseudoCksum_lt (h : IPv4Header) : h.pseudoCksum.toNat < 2 ^ 20 := by
  have high : ∀ ip : UInt32, (ip >>> 16).toNat < 2 ^ 16 := by
    intro ip
    have bound := ip.toNat_lt
    rw [UInt32.toNat_shiftRight, Nat.shiftRight_eq_div_pow]
    exact Nat.div_lt_of_lt_mul bound
  have low : ∀ ip : UInt32, (ip &&& 0xffff).toNat < 2 ^ 16 := by
    intro ip
    rw [UInt32.toNat_and]
    exact lt_of_le_of_lt Nat.and_le_right (by decide)
  have srcHigh := high h.src
  have srcLow := low h.src
  have dstHigh := high h.dst
  have dstLow := low h.dst
  have proto := h.proto.toNat_lt
  have payload := h.payloadLength.toNat_lt
  simp only [pseudoCksum, UInt32.toNat_add, UInt8.toNat_toUInt32, UInt16.toNat_toUInt32]
  omega

namespace TCPOverIPv4Adapter

theorem wrap_eq (a : TCPOverIPv4Adapter) {src dst : UInt32} (source : a.config.source.ipv4 = some src)
    (destination : a.config.destination.ipv4 = some dst) {seg : TCPSegment} {payload : BufferList}
    (written : (a.setPorts seg).serialize (carrier src dst seg).pseudoCksum = .ok payload) :
    a.wrapTcpInIp seg = .ok (⟨carrier src dst seg, payload⟩, a.setPorts seg) := by
  have srcNumeric : a.config.source.ipv4Numeric = .ok src := by rw [Address.ipv4Numeric, source]
  have dstNumeric : a.config.destination.ipv4Numeric = .ok dst := by
    rw [Address.ipv4Numeric, destination]
  have same : carrier src dst (a.setPorts seg) = carrier src dst seg := rfl
  simp only [wrapTcpInIp, srcNumeric, dstNumeric, ok_bind, same, written]
  rfl

theorem carrier_wellFormed {src dst : UInt32} {seg : TCPSegment} {payload : BufferList}
    (size : 20 + 4 * seg.header.doff.toNat + seg.payload.length ≤ 65535)
    (total : payload.size = 4 * seg.header.doff.toNat + seg.payload.length) :
    IPv4Datagram.WellFormed ⟨carrier src dst seg, payload⟩ where
  version := rfl
  long := show (5 : UInt8) ≤ 5 by decide
  short := show (5 : UInt8) ≤ 15 by decide
  offset := show (0 : UInt16) < 0x2000 by decide
  len := by
    have five : (carrier src dst seg).hlen.toNat = 5 := rfl
    have field : (carrier src dst seg).len.toNat =
        5 * 4 + seg.header.doff.toNat * 4 + seg.payload.length :=
      UInt16.toNat_ofNat_of_lt'
        (show 5 * 4 + seg.header.doff.toNat * 4 + seg.payload.length < 65536 by omega)
    rw [field, five, total]
    omega

/-- The receiver is set up for the sender: its peer, or listening on the port for a connection request. -/
def Expects (receiver sender : TCPOverIPv4Adapter) (seg : TCPSegment) : Prop :=
  (receiver.listening = false ∧
      receiver.config = ⟨sender.config.destination, sender.config.source⟩) ∨
    (receiver.listening = true ∧ receiver.config.source.port = sender.config.destination.port ∧
      seg.header.syn = true ∧ seg.header.rst = false)

theorem unwrap_expected {inetNtoa : UInt32 → String} {getaddrinfo : String → Option UInt32}
    (numeric : ∀ ip, getaddrinfo (inetNtoa ip) = some ip) {sender receiver : TCPOverIPv4Adapter}
    {src dst : UInt32} (source : sender.config.source.ipv4 = some src)
    (destination : sender.config.destination.ipv4 = some dst) {seg : TCPSegment}
    (expects : receiver.Expects sender seg) {header : IPv4Header} (sent : header.src = src)
    (arrives : header.dst = dst) (proto : header.proto = protoTCP) {buffer : Buffer} {parsed : TCPSegment}
    (accepted : TCPSegment.parse {} buffer header.pseudoCksum = (.noError, parsed))
    (sport : parsed.header.sport = sender.config.source.port)
    (dport : parsed.header.dport = sender.config.destination.port)
    (syn : parsed.header.syn = seg.header.syn) (rst : parsed.header.rst = seg.header.rst) :
    receiver.unwrapTcpInIp inetNtoa getaddrinfo ⟨header, .ofBuffer buffer⟩ =
      .ok (some parsed, ⟨⟨sender.config.destination, sender.config.source⟩, false⟩) := by
  obtain ⟨⟨senderSource, senderDestination⟩, senderListening⟩ := sender
  obtain ⟨sourceIp, sourcePort⟩ := senderSource
  obtain ⟨destinationIp, destinationPort⟩ := senderDestination
  dsimp only at source destination sport dport
  subst source destination sent arrives sport dport
  rcases expects with ⟨quiet, mirrored⟩ | ⟨listens, port, request, noReset⟩
  · obtain ⟨config, listening⟩ := receiver
    dsimp only at quiet mirrored
    subst quiet mirrored
    simp [unwrapTcpInIp, addressed, adopt, Address.ipv4Numeric, proto, accepted]
    rfl
  · rw [request] at syn
    rw [noReset] at rst
    obtain ⟨config, listening⟩ := receiver
    dsimp only at listens port
    subst listens
    simp [unwrapTcpInIp, addressed, adopt, Address.ofIp, numeric, proto, accepted, port, syn, rst]
    rfl

/-- A segment that fits a datagram goes from one adapter through the bytes of an IPv4 datagram to the other
one unchanged, except for the ports of the sender's configuration and the checksum. The receiver is then
the mirror image of the sender. -/
theorem segment_survives_encapsulation {inetNtoa : UInt32 → String}
    {getaddrinfo : String → Option UInt32} (numeric : ∀ ip, getaddrinfo (inetNtoa ip) = some ip)
    {sender receiver : TCPOverIPv4Adapter} {src dst : UInt32}
    (source : sender.config.source.ipv4 = some src)
    (destination : sender.config.destination.ipv4 = some dst) {seg : TCPSegment}
    (long : 5 ≤ seg.header.doff) (short : seg.header.doff ≤ 15)
    (size : 20 + 4 * seg.header.doff.toNat + seg.payload.length ≤ 65535)
    (expects : receiver.Expects sender seg) :
    ∃ datagram out parsed cksum,
      sender.wrapTcpInIp seg = .ok (datagram, sender.setPorts seg) ∧ datagram.serialize = .ok out ∧
      IPv4Datagram.parse {} out.concatenate = (.noError, parsed) ∧
      receiver.unwrapTcpInIp inetNtoa getaddrinfo parsed =
        .ok (some { seg with header := { seg.header with
              sport := sender.config.source.port
              dport := sender.config.destination.port
              cksum := cksum } },
          ⟨⟨sender.config.destination, sender.config.source⟩, false⟩) := by
  obtain ⟨payload, written, total, reads⟩ := TCPSegment.parse_serialize (s := sender.setPorts seg)
    long short (show 4 * seg.header.doff.toNat + seg.payload.length ≤ 65535 by omega)
    (carrier src dst seg).pseudoCksum_lt {}
  have formed : IPv4Datagram.WellFormed ⟨carrier src dst seg, payload⟩ := carrier_wellFormed size total
  obtain ⟨out, serialized, parsed, _⟩ := IPv4Datagram.parse_serialize formed {}
  -- from here on only the places of the two checksums matter, not their values
  obtain ⟨cksum, filled⟩ : ∃ cksum, (sender.setPorts seg).sealed (carrier src dst seg).pseudoCksum =
      (sender.setPorts seg).header.setCksum cksum := ⟨_, rfl⟩
  obtain ⟨ipCksum, ipFilled⟩ : ∃ ipCksum, IPv4Datagram.sealed ⟨carrier src dst seg, payload⟩ =
      (carrier src dst seg).setCksum ipCksum := ⟨_, rfl⟩
  rw [filled] at reads
  rw [ipFilled] at parsed
  exact ⟨_, out, _, cksum, wrap_eq sender source destination written, serialized, parsed,
    unwrap_expected numeric source destination expects rfl rfl rfl reads rfl rfl rfl rfl⟩

def printed (ip : UInt32) : String :=
  String.ofList (List.intercalate ['.'] ((NetUnparser.u32 ip).map fun byte => Nat.toDigits 10 byte.toNat))

def scannedByte (digits : List Char) : Option Byte :=
  if digits.isEmpty || !digits.all Char.isDigit then none
  else
    let value := digits.foldl (fun value char => 10 * value + (char.toNat - '0'.toNat)) 0
    if value < 256 then some (UInt8.ofNat value) else none

/-- Four decimal numbers below 256 with dots between them; anything else is not an address. -/
def scanned (text : String) : Option UInt32 :=
  match (text.toList.splitOn '.').mapM scannedByte with
  | some [first, second, third, fourth] =>
      some (UInt32.ofNat (BigEndian.decode [first, second, third, fourth]))
  | _ => none

theorem scannedByte_digits (byte : Byte) : scannedByte (Nat.toDigits 10 byte.toNat) = some byte := by
  have all : ∀ value : Fin 256, scannedByte (Nat.toDigits 10 value) = some (UInt8.ofNat value) := by
    decide +kernel
  rw [all ⟨byte.toNat, byte.toNat_lt⟩, UInt8.ofNat_toNat]

theorem digits_undotted (byte : Byte) : '.' ∉ Nat.toDigits 10 byte.toNat := by
  have all : ∀ value : Fin 256, '.' ∉ Nat.toDigits 10 value := by decide +kernel
  exact all ⟨byte.toNat, byte.toNat_lt⟩

theorem scanned_printed (ip : UInt32) : scanned (printed ip) = some ip := by
  have small : ip.toNat < 256 ^ 4 := ip.toNat_lt
  have decoded : BigEndian.decode (NetUnparser.u32 ip) = ip.toNat := by
    rw [NetUnparser.u32, BigEndian.decode_encode, Nat.mod_eq_of_lt small]
  have four : (NetUnparser.u32 ip).length = 4 := BigEndian.encode_length 4 ip.toNat
  unfold scanned printed
  generalize NetUnparser.u32 ip = bytes at decoded four
  obtain ⟨first, second, third, fourth, rfl⟩ := List.length_eq_four.mp four
  have undotted : ∀ digits ∈ [first, second, third, fourth].map (fun byte => Nat.toDigits 10 byte.toNat),
      '.' ∉ digits := List.forall_mem_map.mpr fun byte _ => digits_undotted byte
  rw [String.toList_ofList, List.splitOn_intercalate '.' undotted (List.cons_ne_nil _ _)]
  simp only [List.map_cons, List.map_nil, List.mapM_cons, List.mapM_nil, scannedByte_digits]
  change some (UInt32.ofNat (BigEndian.decode [first, second, third, fourth])) = some ip
  rw [decoded, UInt32.ofNat_toNat]

example : printed 0x0a00010c = "10.0.1.12" ∧ scanned "10.0.1" = none ∧ scanned "10.0.1.256" = none := by
  decide +kernel

def client : TCPOverIPv4Adapter := ⟨⟨⟨some 0x0a000001, 40000⟩, ⟨some 0x0a000002, 80⟩⟩, false⟩

def server : TCPOverIPv4Adapter := ⟨⟨⟨some 0, 80⟩, ⟨some 0, 0⟩⟩, true⟩

def request : TCPSegment := { header := { syn := true, doff := 7, seqno := ⟨17⟩, win := 512 }, payload := [1] }

theorem request_arrives :
    ∃ datagram out parsed cksum,
      client.wrapTcpInIp request = .ok (datagram, client.setPorts request) ∧
      datagram.serialize = .ok out ∧ IPv4Datagram.parse {} out.concatenate = (.noError, parsed) ∧
      server.unwrapTcpInIp printed scanned parsed =
        .ok (some { request with header := { request.header with
              sport := 40000
              dport := 80
              cksum := cksum } }, ⟨⟨client.config.destination, client.config.source⟩, false⟩) :=
  segment_survives_encapsulation scanned_printed rfl rfl (by decide) (by decide) (by decide)
    (.inr ⟨rfl, rfl, rfl, rfl⟩)

end TCPOverIPv4Adapter
end Sponge

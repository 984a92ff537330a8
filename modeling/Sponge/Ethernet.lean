import Sponge.NetParser

/-! Ethernet frames and ARP messages (`ethernet_header.cc`, `ethernet_frame.cc`, `arp_message.cc`). -/

namespace Sponge

abbrev EthernetAddress := Vector Byte 6

namespace EthernetAddress

def broadcast : EthernetAddress := #v[0xff, 0xff, 0xff, 0xff, 0xff, 0xff]

def zero : EthernetAddress := #v[0, 0, 0, 0, 0, 0]

def read : StateM NetParser EthernetAddress := do
  let a ← NetParser.u8
  let b ← NetParser.u8
  let c ← NetParser.u8
  let d ← NetParser.u8
  let e ← NetParser.u8
  let f ← NetParser.u8
  return #v[a, b, c, d, e, f]

def bytes (address : EthernetAddress) : List Byte := address.toList.flatMap NetUnparser.u8

theorem bytes_eq (address : EthernetAddress) : address.bytes = address.toList := by
  have single : NetUnparser.u8 = fun val => [val] := funext NetUnparser.u8_eq
  rw [bytes, single, List.flatMap_singleton']

@[simp] theorem bytes_length (address : EthernetAddress) : address.bytes.length = 6 := by
  rw [bytes_eq, Vector.length_toList]

theorem exists_bytes (address : EthernetAddress) :
    ∃ a b c d e f, address = #v[a, b, c, d, e, f] := by
  obtain ⟨⟨list⟩, length⟩ := address
  match list, length with
  | [a, b, c, d, e, f], _ => exact ⟨a, b, c, d, e, f, rfl⟩

theorem read_run (address : EthernetAddress) (rest : Buffer) :
    read.run ⟨address.bytes ++ rest, .noError⟩ = pure (address, ⟨rest, .noError⟩) := by
  obtain ⟨a, b, c, d, e, f, rfl⟩ := exists_bytes address
  have split : bytes #v[a, b, c, d, e, f] ++ rest =
      NetUnparser.u8 a ++ (NetUnparser.u8 b ++ (NetUnparser.u8 c ++ (NetUnparser.u8 d ++
        (NetUnparser.u8 e ++ (NetUnparser.u8 f ++ rest))))) := by
    simp [bytes_eq]
  rw [split]
  simp only [read, StateT.run_bind, NetParser.u8_run, pure_bind, StateT.run_pure]

theorem exists_address (bytes : List Byte) (long : 6 ≤ bytes.length) :
    ∃ (address : EthernetAddress) (rest : List Byte), bytes = address.bytes ++ rest ∧
      rest.length = bytes.length - 6 := by
  match bytes, long with
  | a :: b :: c :: d :: e :: f :: rest, _ => exact ⟨#v[a, b, c, d, e, f], rest, by simp [bytes_eq], rfl⟩

end EthernetAddress

structure EthernetHeader where
  dst : EthernetAddress := .zero
  src : EthernetAddress := .zero
  type : UInt16 := 0
  deriving DecidableEq, Repr

namespace EthernetHeader

def length : Nat := 14

def typeIPv4 : UInt16 := 0x800

def typeARP : UInt16 := 0x806

def parse (h : EthernetHeader) : StateM NetParser (ParseResult × EthernetHeader) := do
  if (← get).buffer.length < length then return (.packetTooShort, h)
  let dst ← EthernetAddress.read
  let src ← EthernetAddress.read
  let type ← NetParser.u16
  return ((← get).error, ⟨dst, src, type⟩)

def serialize (h : EthernetHeader) : List Byte :=
  h.dst.bytes ++ (h.src.bytes ++ NetUnparser.u16 h.type)

theorem parse_short (h : EthernetHeader) {buffer : Buffer} (short : buffer.length < 14) :
    h.parse.run ⟨buffer, .noError⟩ = pure ((.packetTooShort, h), ⟨buffer, .noError⟩) := by
  simp [parse, length, short]

theorem parse_run (fresh h : EthernetHeader) (rest : Buffer) :
    fresh.parse.run ⟨h.serialize ++ rest, .noError⟩ = pure ((.noError, h), ⟨rest, .noError⟩) := by
  have long : ¬ (h.serialize ++ rest).length < length := by
    simp [serialize, length]
    omega
  simp only [parse, StateT.run_bind, StateT.run_get, pure_bind]
  rw [if_neg long]
  simp only [serialize, List.append_assoc, StateT.run_bind, EthernetAddress.read_run, NetParser.u16_run,
    pure_bind, StateT.run_get, StateT.run_pure]

theorem exists_header {bytes : List Byte} (long : 14 ≤ bytes.length) :
    ∃ (h : EthernetHeader) (rest : List Byte), bytes = h.serialize ++ rest := by
  obtain ⟨dst, rest, rfl, length⟩ := EthernetAddress.exists_address bytes (by omega)
  obtain ⟨src, rest, rfl, length⟩ := EthernetAddress.exists_address rest (by omega)
  obtain ⟨type, rest, rfl, length⟩ := NetUnparser.exists_u16 rest (by omega)
  exact ⟨⟨dst, src, type⟩, rest, by simp only [serialize, List.append_assoc]⟩

end EthernetHeader

structure EthernetFrame where
  header : EthernetHeader := {}
  payload : BufferList := {}
  deriving DecidableEq, Repr

namespace EthernetFrame

/-- What the header parser returns is not looked at; only the error that the parser recorded is. -/
def parse (frame : EthernetFrame) (buffer : Buffer) : ParseResult × EthernetFrame :=
  let ((_, header), p) := (frame.header.parse.run ⟨buffer, .noError⟩).run
  (p.error, ⟨header, .ofBuffer p.buffer⟩)

def serialize (frame : EthernetFrame) : BufferList :=
  (BufferList.append {} (.ofBuffer frame.header.serialize)).append frame.payload

end EthernetFrame

structure ARPMessage where
  hardwareType : UInt16 := 1
  protocolType : UInt16 := EthernetHeader.typeIPv4
  hardwareAddressSize : UInt8 := 6
  protocolAddressSize : UInt8 := 4
  opcode : UInt16 := 0
  senderEthernetAddress : EthernetAddress := .zero
  senderIpAddress : UInt32 := 0
  targetEthernetAddress : EthernetAddress := .zero
  targetIpAddress : UInt32 := 0
  deriving DecidableEq, Repr

namespace ARPMessage

def length : Nat := 28

def typeEthernet : UInt16 := 1

def opcodeRequest : UInt16 := 1

def opcodeReply : UInt16 := 2

def supported (m : ARPMessage) : Bool :=
  m.hardwareType == typeEthernet && m.protocolType == EthernetHeader.typeIPv4 &&
    m.hardwareAddressSize == 6 && m.protocolAddressSize == 4 &&
    (m.opcode == opcodeRequest || m.opcode == opcodeReply)

def parseFrom (m : ARPMessage) : StateM NetParser (ParseResult × ARPMessage) := do
  if (← get).buffer.length < length then return (.packetTooShort, m)
  let hardwareType ← NetParser.u16
  let protocolType ← NetParser.u16
  let hardwareAddressSize ← NetParser.u8
  let protocolAddressSize ← NetParser.u8
  let opcode ← NetParser.u16
  let m := { m with hardwareType, protocolType, hardwareAddressSize, protocolAddressSize, opcode }
  if !m.supported then return (.unsupported, m)
  let senderEthernetAddress ← EthernetAddress.read
  let senderIpAddress ← NetParser.u32
  let targetEthernetAddress ← EthernetAddress.read
  let targetIpAddress ← NetParser.u32
  return ((← get).error,
    { m with senderEthernetAddress, senderIpAddress, targetEthernetAddress, targetIpAddress })

def parse (m : ARPMessage) (buffer : Buffer) : ParseResult × ARPMessage :=
  (m.parseFrom.run ⟨buffer, .noError⟩).run.1

def serialize (m : ARPMessage) : Except String (List Byte) :=
  if !m.supported then
    .error "ARPMessage::serialize(): unsupported field combination (must be Ethernet/IP, and request or reply)"
  else
    .ok (NetUnparser.u16 m.hardwareType ++ (NetUnparser.u16 m.protocolType ++
      (NetUnparser.u8 m.hardwareAddressSize ++ (NetUnparser.u8 m.protocolAddressSize ++
        (NetUnparser.u16 m.opcode ++ (m.senderEthernetAddress.bytes ++
          (NetUnparser.u32 m.senderIpAddress ++ (m.targetEthernetAddress.bytes ++
            NetUnparser.u32 m.targetIpAddress))))))))

theorem serialize_supported {m : ARPMessage} {bytes : List Byte} (written : m.serialize = .ok bytes) :
    m.supported = true := by
  unfold serialize at written
  split at written
  · cases written
  · rename_i accepted
    simpa using accepted

theorem parseFrom_run (fresh : ARPMessage) {m : ARPMessage} {bytes : List Byte}
    (written : m.serialize = .ok bytes) (rest : Buffer) :
    fresh.parseFrom.run ⟨bytes ++ rest, .noError⟩ = pure ((.noError, m), ⟨rest, .noError⟩) := by
  have accepted := serialize_supported written
  simp only [serialize, accepted, Bool.not_true, Bool.false_eq_true, if_false] at written
  cases written
  have long : ∀ message : Buffer, message.length = 28 → ¬ (message ++ rest).length < length := by
    intro message size
    simp only [List.length_append, size, length]
    omega
  simp only [parseFrom, StateT.run_bind, StateT.run_get, pure_bind]
  rw [if_neg (long _ (by simp))]
  simp only [List.append_assoc, StateT.run_bind, NetParser.u16_run, NetParser.u8_run, pure_bind]
  -- the fields read so far are those of `m`, which is supported
  have fields : supported { fresh with
      hardwareType := m.hardwareType
      protocolType := m.protocolType
      hardwareAddressSize := m.hardwareAddressSize
      protocolAddressSize := m.protocolAddressSize
      opcode := m.opcode } = true := accepted
  simp only [fields, Bool.not_true, Bool.false_eq_true, if_false, StateT.run_bind, EthernetAddress.read_run,
    NetParser.u32_run, pure_bind, StateT.run_get, StateT.run_pure]

theorem parse_serialize (fresh : ARPMessage) {m : ARPMessage} {bytes : List Byte}
    (written : m.serialize = .ok bytes) : fresh.parse bytes = (.noError, m) := by
  have read := parseFrom_run fresh written []
  rw [List.append_nil] at read
  rw [parse, read]
  rfl

end ARPMessage
end Sponge

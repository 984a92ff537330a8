import Sponge.InternetChecksum
import Sponge.TcpSegment

/-! TCP headers and segments on the wire (`tcp_header.cc`, `tcp_segment.cc`). -/

namespace Sponge

structure TCPWords where
  sport : UInt16
  dport : UInt16
  seqno : UInt32
  ackno : UInt32
  doffByte : UInt8
  flB : UInt8
  win : UInt16
  cksum : UInt16
  uptr : UInt16
  deriving DecidableEq, Repr

namespace TCPWords

def bytes (w : TCPWords) : List Byte :=
  NetUnparser.u16 w.sport ++ (NetUnparser.u16 w.dport ++ (NetUnparser.u32 w.seqno ++
    (NetUnparser.u32 w.ackno ++ (NetUnparser.u8 w.doffByte ++ (NetUnparser.u8 w.flB ++
      (NetUnparser.u16 w.win ++ (NetUnparser.u16 w.cksum ++ NetUnparser.u16 w.uptr)))))))

def read : StateM NetParser TCPWords := do
  let sport ← NetParser.u16
  let dport ← NetParser.u16
  let seqno ← NetParser.u32
  let ackno ← NetParser.u32
  let doffByte ← NetParser.u8
  let flB ← NetParser.u8
  let win ← NetParser.u16
  let cksum ← NetParser.u16
  let uptr ← NetParser.u16
  return ⟨sport, dport, seqno, ackno, doffByte, flB, win, cksum, uptr⟩

def header (w : TCPWords) : TCPHeader where
  sport := w.sport
  dport := w.dport
  seqno := ⟨w.seqno⟩
  ackno := ⟨w.ackno⟩
  doff := w.doffByte >>> 4
  urg := w.flB &&& 0b00100000 != 0
  ack := w.flB &&& 0b00010000 != 0
  psh := w.flB &&& 0b00001000 != 0
  rst := w.flB &&& 0b00000100 != 0
  syn := w.flB &&& 0b00000010 != 0
  fin := w.flB &&& 0b00000001 != 0
  win := w.win
  cksum := w.cksum
  uptr := w.uptr

@[simp] theorem bytes_length (w : TCPWords) : w.bytes.length = 20 := by
  simp only [bytes, List.length_append, NetUnparser.u8_length, NetUnparser.u16_length,
    NetUnparser.u32_length]

theorem read_run (w : TCPWords) (rest : Buffer) :
    read.run ⟨w.bytes ++ rest, .noError⟩ = pure (w, ⟨rest, .noError⟩) := by
  simp only [read, bytes, List.append_assoc, StateT.run_bind, NetParser.u8_run, NetParser.u16_run,
    NetParser.u32_run, pure_bind, StateT.run_pure]

theorem exists_words {bytes : List Byte} (long : 20 ≤ bytes.length) :
    ∃ (w : TCPWords) (rest : List Byte), bytes = w.bytes ++ rest := by
  obtain ⟨sport, rest, rfl, length⟩ := NetUnparser.exists_u16 bytes (by omega)
  obtain ⟨dport, rest, rfl, length⟩ := NetUnparser.exists_u16 rest (by omega)
  obtain ⟨seqno, rest, rfl, length⟩ := NetUnparser.exists_u32 rest (by omega)
  obtain ⟨ackno, rest, rfl, length⟩ := NetUnparser.exists_u32 rest (by omega)
  obtain ⟨doffByte, rest, rfl, length⟩ := NetUnparser.exists_u8 rest (by omega)
  obtain ⟨flB, rest, rfl, length⟩ := NetUnparser.exists_u8 rest (by omega)
  obtain ⟨win, rest, rfl, length⟩ := NetUnparser.exists_u16 rest (by omega)
  obtain ⟨cksum, rest, rfl, length⟩ := NetUnparser.exists_u16 rest (by omega)
  obtain ⟨uptr, rest, rfl, length⟩ := NetUnparser.exists_u16 rest (by omega)
  exact ⟨⟨sport, dport, seqno, ackno, doffByte, flB, win, cksum, uptr⟩, rest, by
    simp only [TCPWords.bytes, List.append_assoc]⟩

theorem read_needs : NetParser.Needs 20 read := by
  have sum : NetParser.Needs (2 + (2 + (4 + (4 + (1 + (1 + (2 + (2 + (2 + 0))))))))) read := by
    refine NetParser.needs_bind NetParser.needs_u16 fun _ => ?_
    refine NetParser.needs_bind NetParser.needs_u16 fun _ => ?_
    refine NetParser.needs_bind NetParser.needs_u32 fun _ => ?_
    refine NetParser.needs_bind NetParser.needs_u32 fun _ => ?_
    refine NetParser.needs_bind NetParser.needs_u8 fun _ => ?_
    refine NetParser.needs_bind NetParser.needs_u8 fun _ => ?_
    refine NetParser.needs_bind NetParser.needs_u16 fun _ => ?_
    refine NetParser.needs_bind NetParser.needs_u16 fun _ => ?_
    refine NetParser.needs_bind NetParser.needs_u16 fun _ => ?_
    exact NetParser.needs_pure _
  exact sum

end TCPWords

namespace TCPHeader

def length : Nat := 20

def words (h : TCPHeader) : TCPWords where
  sport := h.sport
  dport := h.dport
  seqno := h.seqno.rawValue
  ackno := h.ackno.rawValue
  doffByte := h.doff <<< 4
  flB := (if h.urg then 0b00100000 else 0) ||| (if h.ack then 0b00010000 else 0) |||
    (if h.psh then 0b00001000 else 0) ||| (if h.rst then 0b00000100 else 0) |||
    (if h.syn then 0b00000010 else 0) ||| (if h.fin then 0b00000001 else 0)
  win := h.win
  cksum := h.cksum
  uptr := h.uptr

/-- Every field of the header is overwritten. -/
def parse : StateM NetParser (ParseResult × TCPHeader) := do
  let h := (← TCPWords.read).header
  if h.doff < 5 then return (.headerTooShort, h)
  NetParser.removePrefix (h.doff.toNat * 4 - length)
  let p ← get
  if p.error ≠ .noError then return (p.error, h)
  return (.noError, h)

/-- The checksum field is written as it is. -/
def serialize (h : TCPHeader) : Except String (List Byte) :=
  if h.doff < 5 then .error "TCP header too short"
  else .ok (NetUnparser.resize h.words.bytes (4 * h.doff.toNat))

def setCksum (h : TCPHeader) (cksum : UInt16) : TCPHeader := { h with cksum := cksum }

end TCPHeader

namespace TCPSegment

/-- What the header parser returns is not looked at; only the error that the parser recorded is. -/
def parse (s : TCPSegment) (buffer : Buffer) (datagramLayerChecksum : UInt32) :
    ParseResult × TCPSegment :=
  let check := InternetChecksum.add ⟨datagramLayerChecksum, false⟩ buffer
  if check.value ≠ 0 then (.badChecksum, s)
  else
    let ((_, header), p) := (TCPHeader.parse.run ⟨buffer, .noError⟩).run
    (p.error, ⟨header, p.buffer⟩)

def serialize (s : TCPSegment) (datagramLayerChecksum : UInt32) : Except String BufferList := do
  let check := InternetChecksum.mk datagramLayerChecksum false
  let check := check.add (← (s.header.setCksum 0).serialize)
  let check := check.add s.payload
  let ret := BufferList.append {} (.ofBuffer (← (s.header.setCksum check.value).serialize))
  return ret.append (.ofBuffer s.payload)

end TCPSegment

namespace TCPHeader

theorem parse_needs : NetParser.Needs 20 parse := by
  refine NetParser.needs_tail TCPWords.read_needs fun w => ?_
  dsimp only
  split
  · exact NetParser.needs_pure _
  · refine NetParser.needs_tail (NetParser.needs_zero (NetParser.needs_removePrefix _)) fun _ => ?_
    refine NetParser.needs_tail NetParser.needs_get fun p => ?_
    split
    · exact NetParser.needs_pure _
    · exact NetParser.needs_pure _

theorem parse_run (w : TCPWords) (rest : Buffer) :
    parse.run ⟨w.bytes ++ rest, .noError⟩ = pure (
      if w.header.doff < 5 then ((.headerTooShort, w.header), ⟨rest, .noError⟩)
      else if 4 * w.header.doff.toNat - 20 ≤ rest.length then
        ((.noError, w.header), ⟨rest.drop (4 * w.header.doff.toNat - 20), .noError⟩)
      else ((.packetTooShort, w.header), ⟨rest, .packetTooShort⟩)) := by
  have skip : w.header.doff.toNat * 4 - length = 4 * w.header.doff.toNat - 20 := by
    rw [length, Nat.mul_comm]
  simp only [parse, StateT.run_bind, TCPWords.read_run, pure_bind, skip]
  by_cases short : w.header.doff < 5
  · rw [if_pos short, if_pos short]
    rfl
  rw [if_neg short, if_neg short]
  simp only [StateT.run_bind, NetParser.removePrefix_run, pure_bind, StateT.run_get]
  by_cases enough : 4 * w.header.doff.toNat - 20 ≤ rest.length
  · simp only [enough, if_true]
    rfl
  · simp only [enough, if_false]
    rfl

end TCPHeader
end Sponge

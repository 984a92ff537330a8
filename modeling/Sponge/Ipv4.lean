import Sponge.InternetChecksum

/-! IPv4 headers and datagrams (`ipv4_header.hh`, `ipv4_header.cc`, `ipv4_datagram.hh`, `ipv4_datagram.cc`).
The words of the format stand between the fields and the bytes. -/

namespace Sponge

structure IPv4Header where
  ver : UInt8 := 4
  hlen : UInt8 := 5
  tos : UInt8 := 0
  len : UInt16 := 0
  id : UInt16 := 0
  df : Bool := true
  mf : Bool := false
  offset : UInt16 := 0
  ttl : UInt8 := 128
  proto : UInt8 := 6
  cksum : UInt16 := 0
  src : UInt32 := 0
  dst : UInt32 := 0
  deriving DecidableEq, Repr

structure IPv4Words where
  firstByte : UInt8
  tos : UInt8
  len : UInt16
  id : UInt16
  foVal : UInt16
  ttl : UInt8
  proto : UInt8
  cksum : UInt16
  src : UInt32
  dst : UInt32
  deriving DecidableEq, Repr

namespace IPv4Words

def bytes (w : IPv4Words) : List Byte :=
  NetUnparser.u8 w.firstByte ++ (NetUnparser.u8 w.tos ++ (NetUnparser.u16 w.len ++
    (NetUnparser.u16 w.id ++ (NetUnparser.u16 w.foVal ++ (NetUnparser.u8 w.ttl ++
      (NetUnparser.u8 w.proto ++ (NetUnparser.u16 w.cksum ++ (NetUnparser.u32 w.src ++
        NetUnparser.u32 w.dst))))))))

def read : StateM NetParser IPv4Words := do
  let firstByte ← NetParser.u8
  let tos ← NetParser.u8
  let len ← NetParser.u16
  let id ← NetParser.u16
  let foVal ← NetParser.u16
  let ttl ← NetParser.u8
  let proto ← NetParser.u8
  let cksum ← NetParser.u16
  let src ← NetParser.u32
  let dst ← NetParser.u32
  return ⟨firstByte, tos, len, id, foVal, ttl, proto, cksum, src, dst⟩

def header (w : IPv4Words) : IPv4Header where
  ver := w.firstByte >>> 4
  hlen := w.firstByte &&& 0x0f
  tos := w.tos
  len := w.len
  id := w.id
  df := w.foVal &&& 0x4000 != 0
  mf := w.foVal &&& 0x2000 != 0
  offset := w.foVal &&& 0x1fff
  ttl := w.ttl
  proto := w.proto
  cksum := w.cksum
  src := w.src
  dst := w.dst

@[simp] theorem bytes_length (w : IPv4Words) : w.bytes.length = 20 := by
  simp only [bytes, List.length_append, NetUnparser.u8_length, NetUnparser.u16_length,
    NetUnparser.u32_length]

theorem read_run (w : IPv4Words) (rest : Buffer) :
    read.run ⟨w.bytes ++ rest, .noError⟩ = pure (w, ⟨rest, .noError⟩) := by
  simp only [read, bytes, List.append_assoc, StateT.run_bind, NetParser.u8_run, NetParser.u16_run,
    NetParser.u32_run, pure_bind, StateT.run_pure]

theorem exists_words {bytes : List Byte} (long : 20 ≤ bytes.length) :
    ∃ (w : IPv4Words) (rest : List Byte), bytes = w.bytes ++ rest := by
  obtain ⟨firstByte, rest, rfl, length⟩ := NetUnparser.exists_u8 bytes (by omega)
  obtain ⟨tos, rest, rfl, length⟩ := NetUnparser.exists_u8 rest (by omega)
  obtain ⟨len, rest, rfl, length⟩ := NetUnparser.exists_u16 rest (by omega)
  obtain ⟨id, rest, rfl, length⟩ := NetUnparser.exists_u16 rest (by omega)
  obtain ⟨foVal, rest, rfl, length⟩ := NetUnparser.exists_u16 rest (by omega)
  obtain ⟨ttl, rest, rfl, length⟩ := NetUnparser.exists_u8 rest (by omega)
  obtain ⟨proto, rest, rfl, length⟩ := NetUnparser.exists_u8 rest (by omega)
  obtain ⟨cksum, rest, rfl, length⟩ := NetUnparser.exists_u16 rest (by omega)
  obtain ⟨src, rest, rfl, length⟩ := NetUnparser.exists_u32 rest (by omega)
  obtain ⟨dst, rest, rfl, length⟩ := NetUnparser.exists_u32 rest (by omega)
  exact ⟨⟨firstByte, tos, len, id, foVal, ttl, proto, cksum, src, dst⟩, rest, by
    simp only [IPv4Words.bytes, List.append_assoc]⟩

end IPv4Words

namespace IPv4Header

def length : Nat := 20

def words (h : IPv4Header) : IPv4Words where
  firstByte := (h.ver <<< 4) ||| (h.hlen &&& 0xf)
  tos := h.tos
  len := h.len
  id := h.id
  foVal := (if h.df then 0x4000 else 0) ||| (if h.mf then 0x2000 else 0) ||| (h.offset &&& 0x1fff)
  ttl := h.ttl
  proto := h.proto
  cksum := h.cksum
  src := h.src
  dst := h.dst

def parse (h : IPv4Header) : StateM NetParser (ParseResult × IPv4Header) := do
  let original := (← get).buffer
  let dataSize := original.length
  if dataSize < length then return (.packetTooShort, h)
  -- every field is overwritten
  let h := (← IPv4Words.read).header
  if dataSize < 4 * h.hlen.toNat then return (.packetTooShort, h)
  if h.ver ≠ 4 then return (.wrongIPVersion, h)
  if h.hlen < 5 then return (.headerTooShort, h)
  if dataSize ≠ h.len.toNat then return (.truncatedPacket, h)
  NetParser.removePrefix (h.hlen.toNat * 4 - length)
  let p ← get
  if p.error ≠ .noError then return (p.error, h)
  let check := InternetChecksum.add {} (original.take (4 * h.hlen.toNat))
  if check.value ≠ 0 then return (.badChecksum, h)
  return (.noError, h)

/-- The checksum field is written as it is. -/
def serialize (h : IPv4Header) : Except String (List Byte) :=
  if h.ver ≠ 4 then .error "wrong IP version"
  else if 4 * h.hlen.toNat < length then .error "IP header too short"
  else .ok (NetUnparser.resize h.words.bytes (4 * h.hlen.toNat))

def setCksum (h : IPv4Header) (cksum : UInt16) : IPv4Header := { h with cksum := cksum }

def payloadLength (h : IPv4Header) : UInt16 := h.len - UInt16.ofNat (4 * h.hlen.toNat)

def pseudoCksum (h : IPv4Header) : UInt32 :=
  let pcksum := (h.src >>> 16) + (h.src &&& 0xffff)
  let pcksum := pcksum + ((h.dst >>> 16) + (h.dst &&& 0xffff))
  let pcksum := pcksum + h.proto.toUInt32
  pcksum + h.payloadLength.toUInt32

end IPv4Header

structure IPv4Datagram where
  header : IPv4Header := {}
  payload : BufferList := {}
  deriving DecidableEq, Repr

namespace IPv4Datagram

/-- What the header parser returns is not looked at; only the error that the parser recorded is. -/
def parse (d : IPv4Datagram) (buffer : Buffer) : ParseResult × IPv4Datagram :=
  let ((_, header), p) := (d.header.parse.run ⟨buffer, .noError⟩).run
  let payload := BufferList.ofBuffer p.buffer
  let d := ⟨header, payload⟩
  if payload.size ≠ header.payloadLength.toNat then (.packetTooShort, d) else (p.error, d)

def serialize (d : IPv4Datagram) : Except String BufferList :=
  if d.payload.size ≠ d.header.payloadLength.toNat then
    .error "IPv4Datagram::serialize: payload is wrong size"
  else do
    let headerZeroChecksum ← (d.header.setCksum 0).serialize
    let check := InternetChecksum.add {} headerZeroChecksum
    let ret := BufferList.append {} (.ofBuffer (← (d.header.setCksum check.value).serialize))
    return ret.append d.payload

end IPv4Datagram

abbrev InternetDatagram := IPv4Datagram

namespace IPv4Header

/-- The checks on the fields that the parser makes before the checksum. -/
def Sized (h : IPv4Header) (dataSize : Nat) : Prop :=
  4 * h.hlen.toNat ≤ dataSize ∧ h.ver = 4 ∧ 5 ≤ h.hlen ∧ dataSize = h.len.toNat

instance (h : IPv4Header) (dataSize : Nat) : Decidable (h.Sized dataSize) :=
  inferInstanceAs (Decidable (_ ∧ _))

theorem parse_short (h : IPv4Header) {buffer : Buffer} (short : buffer.length < 20) :
    h.parse.run ⟨buffer, .noError⟩ = pure ((.packetTooShort, h), ⟨buffer, .noError⟩) := by
  simp [parse, length, short]

theorem parse_misfit (h : IPv4Header) (w : IPv4Words) (rest : Buffer)
    (misfit : ¬ w.header.Sized (20 + rest.length)) :
    ∃ error ≠ ParseResult.noError,
      h.parse.run ⟨w.bytes ++ rest, .noError⟩ = pure ((error, w.header), ⟨rest, .noError⟩) := by
  have long : ¬ (w.bytes ++ rest).length < length := by simp [length]
  have size : (w.bytes ++ rest).length = 20 + rest.length := by simp
  simp only [parse, StateT.run_bind, StateT.run_get, pure_bind]
  rw [if_neg long]
  simp only [StateT.run_bind, IPv4Words.read_run, pure_bind, size]
  by_cases cut : 20 + rest.length < 4 * w.header.hlen.toNat
  · exact ⟨.packetTooShort, by decide, by rw [if_pos cut]; rfl⟩
  rw [if_neg cut]
  by_cases version : w.header.ver ≠ 4
  · exact ⟨.wrongIPVersion, by decide, by rw [if_pos version]; rfl⟩
  rw [if_neg version]
  by_cases short : w.header.hlen < 5
  · exact ⟨.headerTooShort, by decide, by rw [if_pos short]; rfl⟩
  rw [if_neg short]
  by_cases truncated : 20 + rest.length ≠ w.header.len.toNat
  · exact ⟨.truncatedPacket, by decide, by rw [if_pos truncated]; rfl⟩
  · exact (misfit ⟨Nat.not_lt.mp cut, not_not.mp version, UInt8.not_lt.mp short,
      not_not.mp truncated⟩).elim

theorem parse_sized (h : IPv4Header) (w : IPv4Words) (rest : Buffer)
    (sized : w.header.Sized (20 + rest.length)) :
    h.parse.run ⟨w.bytes ++ rest, .noError⟩ =
      pure ((if (InternetChecksum.add {} ((w.bytes ++ rest).take (4 * w.header.hlen.toNat))).value = 0
          then .noError else .badChecksum, w.header),
        ⟨rest.drop (4 * w.header.hlen.toNat - 20), .noError⟩) := by
  have long : ¬ (w.bytes ++ rest).length < length := by simp [length]
  have size : (w.bytes ++ rest).length = 20 + rest.length := by simp
  obtain ⟨fits, version, enough, whole⟩ := sized
  have skip : w.header.hlen.toNat * 4 - length = 4 * w.header.hlen.toNat - 20 := by
    rw [length, Nat.mul_comm]
  have options : 4 * w.header.hlen.toNat - 20 ≤ rest.length := by omega
  simp only [parse, StateT.run_bind, StateT.run_get, pure_bind]
  rw [if_neg long]
  simp only [StateT.run_bind, IPv4Words.read_run, pure_bind, size]
  rw [if_neg (Nat.not_lt.mpr fits), if_neg (not_not.mpr version), if_neg (UInt8.not_lt.mpr enough),
    if_neg (not_not.mpr whole), skip]
  simp only [StateT.run_bind, NetParser.removePrefix_run, options, if_true, pure_bind, StateT.run_get,
    ne_eq, not_true_eq_false, if_false]
  split
  case isTrue => rfl
  case isFalse good => rw [if_pos (not_not.mp good)]; rfl

theorem payloadLength_toNat {h : IPv4Header} (fits : 4 * h.hlen.toNat ≤ h.len.toNat) :
    h.payloadLength.toNat = h.len.toNat - 4 * h.hlen.toNat := by
  have small : 4 * h.hlen.toNat < UInt16.size := lt_of_le_of_lt fits h.len.toNat_lt
  have le : UInt16.ofNat (4 * h.hlen.toNat) ≤ h.len := by
    rw [UInt16.le_iff_toNat_le, UInt16.toNat_ofNat_of_lt' small]
    exact fits
  rw [payloadLength, UInt16.toNat_sub_of_le _ _ le, UInt16.toNat_ofNat_of_lt' small]

end IPv4Header

namespace IPv4Datagram

theorem parse_accepted {d out : IPv4Datagram} {buffer : Buffer} (parsed : d.parse buffer = (.noError, out)) :
    out.payload.size = out.header.payloadLength.toNat := by
  simp only [parse] at parsed
  split at parsed <;> rename_i size
  · cases congrArg Prod.fst parsed
  · obtain rfl : _ = out := congrArg Prod.snd parsed
    exact not_not.mp size

theorem parse_short (d : IPv4Datagram) {buffer : Buffer} (short : buffer.length < 20) :
    d.parse buffer =
      (if buffer.length ≠ d.header.payloadLength.toNat then .packetTooShort else .noError,
        ⟨d.header, .ofBuffer buffer⟩) := by
  simp only [parse, IPv4Header.parse_short _ short, Id.run_pure, BufferList.ofBuffer_size]
  split <;> rfl

theorem parse_misfit (d : IPv4Datagram) (w : IPv4Words) (rest : Buffer)
    (misfit : ¬ w.header.Sized (20 + rest.length)) :
    d.parse (w.bytes ++ rest) =
      (if rest.length ≠ w.header.payloadLength.toNat then .packetTooShort else .noError,
        ⟨w.header, .ofBuffer rest⟩) := by
  obtain ⟨error, _, run⟩ := IPv4Header.parse_misfit d.header w rest misfit
  simp only [parse, run, Id.run_pure, BufferList.ofBuffer_size]
  split <;> rfl

theorem parse_sized (d : IPv4Datagram) (w : IPv4Words) (rest : Buffer)
    (sized : w.header.Sized (20 + rest.length)) :
    d.parse (w.bytes ++ rest) =
      (.noError, ⟨w.header, .ofBuffer (rest.drop (4 * w.header.hlen.toNat - 20))⟩) := by
  have length : (rest.drop (4 * w.header.hlen.toNat - 20)).length = w.header.payloadLength.toNat := by
    obtain ⟨fits, _, enough, whole⟩ := sized
    have options : 5 ≤ w.header.hlen.toNat := UInt8.le_iff_toNat_le.mp enough
    rw [List.length_drop, IPv4Header.payloadLength_toNat (by omega)]
    omega
  simp only [parse, IPv4Header.parse_sized _ w rest sized, Id.run_pure, BufferList.ofBuffer_size, length,
    ne_eq, not_true_eq_false, if_false]

end IPv4Datagram
end Sponge

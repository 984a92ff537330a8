import Sponge.Ipv4

/-! Datagrams survive the wire: what `serialize` writes, `parse` reads back with a checksum that verifies. -/

namespace Sponge

open OnesComplement

theorem IPv4Words.bytes_split (w : IPv4Words) :
    ∃ front back, front.length = 10 ∧ ∀ cksum, IPv4Words.bytes { w with cksum := cksum } =
      front ++ (NetUnparser.u16 cksum ++ back) := by
  refine ⟨NetUnparser.u8 w.firstByte ++ NetUnparser.u8 w.tos ++ NetUnparser.u16 w.len ++
    NetUnparser.u16 w.id ++ NetUnparser.u16 w.foVal ++ NetUnparser.u8 w.ttl ++ NetUnparser.u8 w.proto,
    NetUnparser.u32 w.src ++ NetUnparser.u32 w.dst, ?_, ?_⟩
  · simp only [List.length_append, NetUnparser.u8_length, NetUnparser.u16_length]
  · intro cksum
    simp only [bytes, List.append_assoc]

namespace IPv4Header

theorem or_and_distrib (x y mask : UInt16) : (x ||| y) &&& mask = (x &&& mask) ||| (y &&& mask) :=
  UInt16.toNat_inj.mp (by simp only [UInt16.toNat_and, UInt16.toNat_or, Nat.and_or_distrib_right])

theorem firstByte_ver : ∀ hlen : BitVec 8, ((4#8 <<< 4#8) ||| (hlen &&& 0xf#8)) >>> 4#8 = 4#8 := by
  decide

theorem firstByte_hlen : ∀ hlen : BitVec 8, hlen ≤ 15#8 →
    ((4#8 <<< 4#8) ||| (hlen &&& 0xf#8)) &&& 0x0f#8 = hlen := by
  decide

theorem foVal_flags : ∀ df mf : Bool,
    let flags : UInt16 := (if df then 0x4000 else 0) ||| (if mf then 0x2000 else 0)
    (flags &&& 0x4000 != 0) = df ∧ (flags &&& 0x2000 != 0) = mf ∧ flags &&& 0x1fff = 0 := by
  decide

theorem words_header {h : IPv4Header} (version : h.ver = 4) (short : h.hlen ≤ 15)
    (small : h.offset < 0x2000) : h.words.header = h := by
  obtain ⟨ver, hlen, tos, len, id, df, mf, offset, ttl, proto, cksum, src, dst⟩ := h
  dsimp only at version short small
  subst version
  have flags := foVal_flags df mf
  have low : offset &&& 0x1fff = offset := by
    rw [← UInt16.toNat_inj, UInt16.toNat_and]
    exact (Nat.and_two_pow_sub_one_eq_mod offset.toNat 13).trans
      (Nat.mod_eq_of_lt (UInt16.lt_iff_toNat_lt.mp small))
  simp only [words, IPv4Words.header, mk.injEq, true_and, and_true]
  refine ⟨UInt8.eq_of_toBitVec_eq (firstByte_ver hlen.toBitVec),
    UInt8.eq_of_toBitVec_eq (firstByte_hlen hlen.toBitVec short), ?_, ?_, ?_⟩
  · have mask : (0x1fff : UInt16) &&& 0x4000 = 0 := by decide
    rw [or_and_distrib, UInt16.and_assoc, mask, UInt16.and_zero, UInt16.or_zero]
    exact flags.1
  · have mask : (0x1fff : UInt16) &&& 0x2000 = 0 := by decide
    rw [or_and_distrib, UInt16.and_assoc, mask, UInt16.and_zero, UInt16.or_zero]
    exact flags.2.1
  · rw [or_and_distrib, flags.2.2, UInt16.zero_or, UInt16.and_assoc, UInt16.and_self, low]

def padded (h : IPv4Header) : List Byte :=
  h.words.bytes ++ List.replicate (4 * h.hlen.toNat - 20) 0

def Writable (h : IPv4Header) : Prop := h.ver = 4 ∧ 20 ≤ 4 * h.hlen.toNat

instance (h : IPv4Header) : Decidable h.Writable := inferInstanceAs (Decidable (_ ∧ _))

theorem serialize_writable {h : IPv4Header} (writable : h.Writable) : h.serialize = .ok h.padded := by
  obtain ⟨version, long⟩ := writable
  have enough : ¬ 4 * h.hlen.toNat < length := Nat.not_lt.mpr long
  have whole : h.words.bytes.take (4 * h.hlen.toNat) = h.words.bytes :=
    List.take_of_length_le (by simpa using long)
  simp [serialize, version, enough, NetUnparser.resize, whole, padded]

theorem serialize_throws {h : IPv4Header} (unwritable : ¬ h.Writable) :
    ∃ message, h.serialize = .error message := by
  by_cases version : h.ver = 4
  · have short : 4 * h.hlen.toNat < length := by
      rw [length]
      by_contra long
      exact unwritable ⟨version, Nat.not_lt.mp long⟩
    exact ⟨"IP header too short", by simp [serialize, version, short]⟩
  · exact ⟨"wrong IP version", by simp [serialize, version]⟩

@[simp] theorem padded_length {h : IPv4Header} (writable : h.Writable) :
    h.padded.length = 4 * h.hlen.toNat := by
  have long := writable.2
  simp only [padded, List.length_append, IPv4Words.bytes_length, List.length_replicate]
  omega

theorem wordSum_padded (h : IPv4Header) (cksum : UInt16) :
    wordSum false (h.setCksum cksum).padded = wordSum false (h.setCksum 0).padded + cksum.toNat := by
  obtain ⟨front, back, length, split⟩ := h.words.bytes_split
  exact wordSum_filled (by omega) split _ cksum

end IPv4Header

namespace IPv4Datagram

/-- The header that goes on the wire, with its checksum computed. -/
def sealed (d : IPv4Datagram) : IPv4Header :=
  d.header.setCksum (InternetChecksum.add {} (d.header.setCksum 0).padded).value

def Serializable (d : IPv4Datagram) : Prop :=
  d.payload.size = d.header.payloadLength.toNat ∧ d.header.Writable

instance (d : IPv4Datagram) : Decidable d.Serializable := inferInstanceAs (Decidable (_ ∧ _))

theorem serialize_serializable {d : IPv4Datagram} (serializable : d.Serializable) :
    d.serialize = .ok ((BufferList.ofBuffer d.sealed.padded).append d.payload) := by
  obtain ⟨size, writable⟩ := serializable
  have written : ∀ cksum, (d.header.setCksum cksum).serialize = .ok (d.header.setCksum cksum).padded :=
    fun _ => IPv4Header.serialize_writable writable
  rw [serialize, if_neg (not_not.mpr size)]
  simp only [written]
  rfl

theorem serialize_throws {d : IPv4Datagram} (unserializable : ¬ d.Serializable) :
    ∃ message, d.serialize = .error message := by
  by_cases size : d.payload.size = d.header.payloadLength.toNat
  · have unwritable : ¬ (d.header.setCksum 0).Writable := fun writable => unserializable ⟨size, writable⟩
    obtain ⟨message, thrown⟩ := IPv4Header.serialize_throws unwritable
    rw [serialize, if_neg (not_not.mpr size), thrown]
    exact ⟨message, rfl⟩
  · exact ⟨_, if_pos size⟩

/-- The fields fit their bits and the length field counts the whole datagram. -/
structure WellFormed (d : IPv4Datagram) : Prop where
  version : d.header.ver = 4
  long : 5 ≤ d.header.hlen
  short : d.header.hlen ≤ 15
  offset : d.header.offset < 0x2000
  len : d.header.len.toNat = 4 * d.header.hlen.toNat + d.payload.size

theorem WellFormed.serializable {d : IPv4Datagram} (formed : d.WellFormed) : d.Serializable := by
  have long : 5 ≤ d.header.hlen.toNat := UInt8.le_iff_toNat_le.mp formed.long
  have len := formed.len
  refine ⟨?_, formed.version, by omega⟩
  rw [IPv4Header.payloadLength_toNat (by omega)]
  omega

theorem sealed_verifies {d : IPv4Datagram} (formed : d.WellFormed) :
    (InternetChecksum.add {} d.sealed.padded).value = 0 := by
  have short : d.header.hlen.toNat ≤ 15 := UInt8.le_iff_toNat_le.mp formed.short
  have length : d.sealed.padded.length = 4 * d.header.hlen.toNat :=
    IPv4Header.padded_length formed.serializable.2
  have bound := wordSum_le false d.sealed.padded
  apply InternetChecksum.add_verifies 0 (IPv4Header.wordSum_padded d.header _)
  rw [UInt32.toNat_zero]
  exact show 0 + wordSum false d.sealed.padded < 2 ^ 32 by omega

theorem parse_serialize {d : IPv4Datagram} (formed : d.WellFormed) (fresh : IPv4Datagram) :
    ∃ out, d.serialize = .ok out ∧
      fresh.parse out.concatenate = (.noError, ⟨d.sealed, .ofBuffer d.payload.concatenate⟩) ∧
      fresh.header.parse.run ⟨out.concatenate, .noError⟩ =
        pure ((.noError, d.sealed), ⟨d.payload.concatenate, .noError⟩) := by
  refine ⟨_, serialize_serializable formed.serializable, ?_⟩
  have long : 5 ≤ d.header.hlen.toNat := UInt8.le_iff_toNat_le.mp formed.long
  have fields : d.sealed.words.header = d.sealed :=
    IPv4Header.words_header formed.version formed.short formed.offset
  have bytes : ((BufferList.ofBuffer d.sealed.padded).append d.payload).concatenate =
      d.sealed.words.bytes ++
        (List.replicate (4 * d.header.hlen.toNat - 20) 0 ++ d.payload.concatenate) := by
    rw [BufferList.append_concatenate, BufferList.ofBuffer_concatenate, IPv4Header.padded,
      List.append_assoc]
    rfl
  have hlen : d.sealed.words.header.hlen = d.header.hlen := by rw [fields]; rfl
  have sized : d.sealed.words.header.Sized
      (20 + (List.replicate (4 * d.header.hlen.toNat - 20) (0 : Byte) ++
        d.payload.concatenate).length) := by
    have len := formed.len
    rw [BufferList.size_eq] at len
    have total : (List.replicate (4 * d.header.hlen.toNat - 20) (0 : Byte) ++
        d.payload.concatenate).length = 4 * d.header.hlen.toNat - 20 + d.payload.concatenate.length := by
      simp
    rw [fields, total]
    exact ⟨show 4 * d.header.hlen.toNat ≤ _ by omega, formed.version, formed.long,
      show _ = d.header.len.toNat by omega⟩
  have options : (List.replicate (4 * d.header.hlen.toNat - 20) (0 : Byte) ++
      d.payload.concatenate).drop (4 * d.header.hlen.toNat - 20) = d.payload.concatenate := by
    exact List.drop_left' List.length_replicate
  have front : (d.sealed.words.bytes ++ (List.replicate (4 * d.header.hlen.toNat - 20) (0 : Byte) ++
      d.payload.concatenate)).take (4 * d.header.hlen.toNat) = d.sealed.padded := by
    have length : d.sealed.padded.length = 4 * d.header.hlen.toNat :=
      IPv4Header.padded_length formed.serializable.2
    rw [← List.append_assoc]
    exact List.take_left' length
  refine ⟨?_, ?_⟩
  · rw [bytes, parse_sized _ _ _ sized, hlen, options, fields]
  · rw [bytes, IPv4Header.parse_sized _ _ _ sized, hlen, front, sealed_verifies formed, options, fields]
    rfl

end IPv4Datagram
end Sponge

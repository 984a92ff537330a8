import Sponge.TcpWire

/-! Segments survive the wire: what `serialize` writes, `parse` accepts and reads back. -/

namespace Sponge

open OnesComplement

theorem TCPWords.bytes_split (w : TCPWords) :
    ∃ front back, front.length = 16 ∧ ∀ cksum, TCPWords.bytes { w with cksum := cksum } =
      front ++ (NetUnparser.u16 cksum ++ back) := by
  refine ⟨NetUnparser.u16 w.sport ++ NetUnparser.u16 w.dport ++ NetUnparser.u32 w.seqno ++
    NetUnparser.u32 w.ackno ++ NetUnparser.u8 w.doffByte ++ NetUnparser.u8 w.flB ++
    NetUnparser.u16 w.win, NetUnparser.u16 w.uptr, ?_, ?_⟩
  · simp only [List.length_append, NetUnparser.u8_length, NetUnparser.u16_length, NetUnparser.u32_length]
  · intro cksum
    simp only [bytes, List.append_assoc]

namespace TCPHeader

theorem doffByte_doff : ∀ doff : BitVec 8, doff ≤ 15#8 → (doff <<< 4#8) >>> 4#8 = doff := by
  decide

theorem flB_flags : ∀ urg ack psh rst syn fin : Bool,
    let flB : UInt8 := (if urg then 0b00100000 else 0) ||| (if ack then 0b00010000 else 0) |||
      (if psh then 0b00001000 else 0) ||| (if rst then 0b00000100 else 0) |||
      (if syn then 0b00000010 else 0) ||| (if fin then 0b00000001 else 0)
    (flB &&& 0b00100000 != 0) = urg ∧ (flB &&& 0b00010000 != 0) = ack ∧
      (flB &&& 0b00001000 != 0) = psh ∧ (flB &&& 0b00000100 != 0) = rst ∧
      (flB &&& 0b00000010 != 0) = syn ∧ (flB &&& 0b00000001 != 0) = fin := by
  decide

theorem words_header {h : TCPHeader} (short : h.doff ≤ 15) : h.words.header = h := by
  obtain ⟨sport, dport, ⟨seqno⟩, ⟨ackno⟩, doff, urg, ack, psh, rst, syn, fin, win, cksum, uptr⟩ := h
  simp only [words, TCPWords.header, mk.injEq, true_and, and_true]
  exact ⟨UInt8.eq_of_toBitVec_eq (doffByte_doff doff.toBitVec short),
    flB_flags urg ack psh rst syn fin⟩

def padded (h : TCPHeader) : List Byte :=
  h.words.bytes ++ List.replicate (4 * h.doff.toNat - 20) 0

theorem serialize_long {h : TCPHeader} (long : 5 ≤ h.doff) : h.serialize = .ok h.padded := by
  have size : 5 ≤ h.doff.toNat := UInt8.le_iff_toNat_le.mp long
  have whole : h.words.bytes.take (4 * h.doff.toNat) = h.words.bytes :=
    List.take_of_length_le (by rw [TCPWords.bytes_length]; omega)
  rw [serialize, if_neg (UInt8.not_lt.mpr long), NetUnparser.resize, whole, TCPWords.bytes_length]
  rfl

theorem padded_length {h : TCPHeader} (long : 5 ≤ h.doff) : h.padded.length = 4 * h.doff.toNat := by
  have size : 5 ≤ h.doff.toNat := UInt8.le_iff_toNat_le.mp long
  rw [padded, List.length_append, TCPWords.bytes_length, List.length_replicate]
  omega

theorem wordSum_padded (h : TCPHeader) (cksum : UInt16) :
    wordSum false (h.setCksum cksum).padded = wordSum false (h.setCksum 0).padded + cksum.toNat := by
  obtain ⟨front, back, length, split⟩ := h.words.bytes_split
  exact wordSum_filled (by omega) split _ cksum

end TCPHeader

namespace TCPSegment

/-- The header that goes on the wire, with its checksum computed. -/
def sealed (s : TCPSegment) (datagramLayerChecksum : UInt32) : TCPHeader :=
  s.header.setCksum
    (InternetChecksum.add ⟨datagramLayerChecksum, false⟩ ((s.header.setCksum 0).padded ++ s.payload)).value

theorem serialize_long {s : TCPSegment} (long : 5 ≤ s.header.doff) (seed : UInt32) :
    s.serialize seed = .ok ((BufferList.ofBuffer (s.sealed seed).padded).append (.ofBuffer s.payload)) := by
  have written : ∀ cksum, (s.header.setCksum cksum).serialize = .ok (s.header.setCksum cksum).padded :=
    fun _ => TCPHeader.serialize_long long
  simp only [serialize, written, sealed, InternetChecksum.add_append]
  rfl

theorem parse_serialize {s : TCPSegment} (long : 5 ≤ s.header.doff) (short : s.header.doff ≤ 15)
    (size : 4 * s.header.doff.toNat + s.payload.length ≤ 65535) {seed : UInt32}
    (small : seed.toNat < 2 ^ 20) (fresh : TCPSegment) :
    ∃ out, s.serialize seed = .ok out ∧ out.size = 4 * s.header.doff.toNat + s.payload.length ∧
      fresh.parse out.concatenate seed = (.noError, ⟨s.sealed seed, s.payload⟩) := by
  have even : ∀ cksum, (s.header.setCksum cksum).padded.length = 4 * s.header.doff.toNat :=
    fun _ => TCPHeader.padded_length long
  have bytes : ((BufferList.ofBuffer (s.sealed seed).padded).append
      (.ofBuffer s.payload)).concatenate = (s.sealed seed).padded ++ s.payload := by simp
  have length : ((s.sealed seed).padded ++ s.payload).length =
      4 * s.header.doff.toNat + s.payload.length := by
    rw [List.length_append, sealed, even]
  refine ⟨_, serialize_long long seed, by rw [BufferList.size_eq, bytes, length], ?_⟩
  have verified : (InternetChecksum.add ⟨seed, false⟩ ((s.sealed seed).padded ++ s.payload)).value = 0 := by
    have bound := wordSum_le false ((s.sealed seed).padded ++ s.payload)
    rw [length] at bound
    have filled : wordSum false ((s.sealed seed).padded ++ s.payload) =
        wordSum false ((s.header.setCksum 0).padded ++ s.payload) + (InternetChecksum.add ⟨seed, false⟩
          ((s.header.setCksum 0).padded ++ s.payload)).value.toNat := by
      rw [wordSum_append_even _ (by rw [sealed, even]; omega), wordSum_append_even _ (by rw [even]; omega),
        sealed, TCPHeader.wordSum_padded]
      omega
    exact InternetChecksum.add_verifies seed filled (by omega)
  have fields : (s.sealed seed).words.header = s.sealed seed := TCPHeader.words_header short
  have doff : (s.sealed seed).doff = s.header.doff := rfl
  have split : (s.sealed seed).padded ++ s.payload = (s.sealed seed).words.bytes ++
      (List.replicate (4 * s.header.doff.toNat - 20) 0 ++ s.payload) := by
    rw [TCPHeader.padded, List.append_assoc, doff]
  have options : 4 * s.header.doff.toNat - 20 ≤
      (List.replicate (4 * s.header.doff.toNat - 20) (0 : Byte) ++ s.payload).length := by simp
  have rest : (List.replicate (4 * s.header.doff.toNat - 20) (0 : Byte) ++
      s.payload).drop (4 * s.header.doff.toNat - 20) = s.payload := by
    exact List.drop_left' List.length_replicate
  have header := TCPHeader.parse_run (s.sealed seed).words
    (List.replicate (4 * s.header.doff.toNat - 20) 0 ++ s.payload)
  rw [fields, doff, if_neg (UInt8.not_lt.mpr long), if_pos options, rest] at header
  rw [bytes, parse, if_neg (not_not.mpr verified), split, header]
  rfl

end TCPSegment
end Sponge

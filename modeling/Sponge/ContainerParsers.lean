import Sponge.Ethernet
import Sponge.Ipv4
import Sponge.TcpWire

/-! Frames, datagrams and segments pass on only the errors that the parser has recorded. A header parser
that returns an error without recording it is not heard. -/

namespace Sponge.ContainerParsers

def headerResult {α : Type} (parse : StateM NetParser (ParseResult × α)) (b : Buffer) : ParseResult :=
  (parse.run ⟨b, .noError⟩).run.1.1

def version (b : Buffer) : UInt8 := b.headD 0 >>> 4

def hlen (b : Buffer) : UInt8 := b.headD 0 &&& 0x0f

def len (b : Buffer) : UInt16 := UInt16.ofNat (BigEndian.decode ((b.drop 2).take 2))

def doff (b : Buffer) : UInt8 := (b.drop 12).headD 0 >>> 4

def HeaderSum (b : Buffer) : Prop := (InternetChecksum.add {} (b.take (4 * (hlen b).toNat))).value = 0

def SegmentSum (b : Buffer) (seed : UInt32) : Prop := (InternetChecksum.add ⟨seed, false⟩ b).value = 0

/-- Freshly constructed containers accept a byte string only if their header parsers do. -/
structure HeadersRespected (b : Buffer) (seed : UInt32) : Prop where
  ethernet : (EthernetFrame.parse {} b).1 = .noError →
    headerResult (EthernetHeader.parse {}) b = .noError ∧ 14 ≤ b.length
  ipv4 : (IPv4Datagram.parse {} b).1 = .noError →
    headerResult (IPv4Header.parse {}) b = .noError ∧ version b = 4 ∧ 5 ≤ hlen b ∧
      (len b).toNat = b.length ∧ HeaderSum b
  tcp : (TCPSegment.parse {} b seed).1 = .noError →
    SegmentSum b seed ∧ headerResult TCPHeader.parse b = .noError ∧ 20 ≤ b.length ∧ 5 ≤ doff b ∧
      4 * (doff b).toNat ≤ b.length

def FieldsFit (b : Buffer) : Prop :=
  4 * (hlen b).toNat ≤ b.length ∧ version b = 4 ∧ 5 ≤ hlen b ∧ b.length = (len b).toNat

instance (b : Buffer) : Decidable (HeaderSum b) := inferInstanceAs (Decidable (_ = _))

instance (b : Buffer) (seed : UInt32) : Decidable (SegmentSum b seed) :=
  inferInstanceAs (Decidable (_ = _))

instance (b : Buffer) : Decidable (FieldsFit b) := inferInstanceAs (Decidable (_ ∧ _))

/-- None of the faults that a header parser finds and does not record: a short frame; a datagram with a bad
header checksum, or with bad fields whose length still matches the bytes after the twentieth; a segment
with a bad data offset. -/
structure NoHiddenFault (b : Buffer) (seed : UInt32) : Prop where
  ethernet : 14 ≤ b.length
  ipv4 : 20 ≤ b.length →
    if FieldsFit b then HeaderSum b
    else b.length - 20 ≠ (len b - UInt16.ofNat (4 * (hlen b).toNat)).toNat
  tcp : 20 ≤ b.length → SegmentSum b seed → 5 ≤ doff b

theorem frame_accepted (b : Buffer) : (EthernetFrame.parse {} b).1 = .noError := by
  by_cases long : 14 ≤ b.length
  · obtain ⟨h, rest, rfl⟩ := EthernetHeader.exists_header long
    simp only [EthernetFrame.parse, EthernetHeader.parse_run, Id.run_pure]
  · simp only [EthernetFrame.parse, EthernetHeader.parse_short _ (Nat.lt_of_not_le long), Id.run_pure]

theorem ethernet_iff (b : Buffer) :
    ((EthernetFrame.parse {} b).1 = .noError →
      headerResult (EthernetHeader.parse {}) b = .noError ∧ 14 ≤ b.length) ↔ 14 ≤ b.length := by
  refine ⟨fun respected => (respected (frame_accepted b)).2, fun long _ => ⟨?_, long⟩⟩
  obtain ⟨h, rest, rfl⟩ := EthernetHeader.exists_header long
  simp only [headerResult, EthernetHeader.parse_run, Id.run_pure]

section Words

variable (w : IPv4Words) (rest : Buffer)

theorem version_words : version (w.bytes ++ rest) = w.header.ver := by
  simp [version, IPv4Words.bytes, IPv4Words.header]

theorem hlen_words : hlen (w.bytes ++ rest) = w.header.hlen := by
  simp [hlen, IPv4Words.bytes, IPv4Words.header]

theorem len_words : len (w.bytes ++ rest) = w.header.len := by
  have field : ((w.bytes ++ rest).drop 2).take 2 = NetUnparser.u16 w.len := by
    simp [IPv4Words.bytes]
  have small : w.len.toNat < 256 ^ 2 := w.len.toNat_lt
  rw [len, field, NetUnparser.u16, BigEndian.decode_encode, Nat.mod_eq_of_lt small, UInt16.ofNat_toNat]
  rfl

theorem fieldsFit_words : FieldsFit (w.bytes ++ rest) ↔ w.header.Sized (20 + rest.length) := by
  have size : (w.bytes ++ rest).length = 20 + rest.length := by simp
  rw [FieldsFit, version_words, hlen_words, len_words, size]
  rfl

end Words

theorem doff_words (w : TCPWords) (rest : Buffer) : doff (w.bytes ++ rest) = w.header.doff := by
  have split : w.bytes ++ rest = (NetUnparser.u16 w.sport ++ NetUnparser.u16 w.dport ++
      NetUnparser.u32 w.seqno ++ NetUnparser.u32 w.ackno) ++ (NetUnparser.u8 w.doffByte ++
        (NetUnparser.u8 w.flB ++ (NetUnparser.u16 w.win ++ (NetUnparser.u16 w.cksum ++
          (NetUnparser.u16 w.uptr ++ rest))))) := by
    simp only [TCPWords.bytes, List.append_assoc]
  rw [doff, split, List.drop_left' (by simp), NetUnparser.u8_eq]
  rfl

theorem ipv4_iff (b : Buffer) :
    ((IPv4Datagram.parse {} b).1 = .noError →
      headerResult (IPv4Header.parse {}) b = .noError ∧ version b = 4 ∧ 5 ≤ hlen b ∧
        (len b).toNat = b.length ∧ HeaderSum b) ↔
      (20 ≤ b.length →
        if FieldsFit b then HeaderSum b
        else b.length - 20 ≠ (len b - UInt16.ofNat (4 * (hlen b).toNat)).toNat) := by
  by_cases long : 20 ≤ b.length
  · obtain ⟨w, rest, rfl⟩ := IPv4Words.exists_words long
    have size : (w.bytes ++ rest).length = 20 + rest.length := by simp
    by_cases sized : w.header.Sized (20 + rest.length)
    · have accepted : (IPv4Datagram.parse {} (w.bytes ++ rest)).1 = .noError := by
        rw [IPv4Datagram.parse_sized {} w rest sized]
      have fit := (fieldsFit_words w rest).mpr sized
      rw [if_pos fit]
      refine ⟨fun respected _ => (respected accepted).2.2.2.2, fun sum _ => ?_⟩
      refine ⟨?_, fit.2.1, fit.2.2.1, fit.2.2.2.symm, sum long⟩
      have verified : (InternetChecksum.add {}
          ((w.bytes ++ rest).take (4 * w.header.hlen.toNat))).value = 0 := by
        rw [← hlen_words w rest]
        exact sum long
      simp only [headerResult, IPv4Header.parse_sized {} w rest sized, verified, if_true, Id.run_pure]
    · obtain ⟨error, failed, run⟩ := IPv4Header.parse_misfit {} w rest sized
      have parsed : (IPv4Datagram.parse {} (w.bytes ++ rest)).1 =
          if rest.length ≠ w.header.payloadLength.toNat then .packetTooShort else .noError := by
        rw [IPv4Datagram.parse_misfit {} w rest sized]
      have payload : (len (w.bytes ++ rest) - UInt16.ofNat (4 * (hlen (w.bytes ++ rest)).toNat)).toNat =
          w.header.payloadLength.toNat := by
        rw [len_words, hlen_words]
        rfl
      have tail : (w.bytes ++ rest).length - 20 = rest.length := by omega
      rw [if_neg fun fit => sized ((fieldsFit_words w rest).mp fit), payload, tail]
      refine ⟨fun respected _ same => ?_, fun differs accepted => ?_⟩
      · have header := (respected (by rw [parsed, if_neg (not_not.mpr same)])).1
        simp only [headerResult, run, Id.run_pure] at header
        exact failed header
      · rw [parsed, if_pos (differs long)] at accepted
        cases accepted
  · -- the length fields of a fresh header do not fit a short payload
    have differs : b.length ≠ ({} : IPv4Datagram).header.payloadLength.toNat := by
      have fresh : ({} : IPv4Datagram).header.payloadLength.toNat = 65516 := by decide
      omega
    refine ⟨fun _ enough => (long enough).elim, fun _ accepted => ?_⟩
    rw [IPv4Datagram.parse_short {} (Nat.lt_of_not_le long), if_pos differs] at accepted
    cases accepted

theorem tcp_iff (b : Buffer) (seed : UInt32) :
    ((TCPSegment.parse {} b seed).1 = .noError →
      SegmentSum b seed ∧ headerResult TCPHeader.parse b = .noError ∧ 20 ≤ b.length ∧ 5 ≤ doff b ∧
        4 * (doff b).toNat ≤ b.length) ↔
      (20 ≤ b.length → SegmentSum b seed → 5 ≤ doff b) := by
  by_cases sum : SegmentSum b seed
  · have verified : ¬ (InternetChecksum.add ⟨seed, false⟩ b).value ≠ 0 := not_not.mpr sum
    have parsed : (TCPSegment.parse {} b seed).1 = (TCPHeader.parse.run ⟨b, .noError⟩).run.2.error := by
      rw [TCPSegment.parse, if_neg verified]
    rw [parsed]
    by_cases long : 20 ≤ b.length
    · obtain ⟨w, rest, rfl⟩ := TCPWords.exists_words long
      have run := TCPHeader.parse_run w rest
      have size : (w.bytes ++ rest).length = 20 + rest.length := by simp
      rw [headerResult, doff_words, run]
      by_cases short : w.header.doff < 5
      · rw [if_pos short]
        refine ⟨fun respected => ?_, fun enough => ?_⟩
        · have found : ParseResult.headerTooShort = .noError := (respected rfl).2.1
          cases found
        · exact absurd (enough long sum) (UInt8.not_le.mpr short)
      · have enough : 5 ≤ w.header.doff := UInt8.not_lt.mp short
        have words : 5 ≤ w.header.doff.toNat := UInt8.le_iff_toNat_le.mp enough
        rw [if_neg short]
        refine ⟨fun _ _ _ => enough, fun _ accepted => ?_⟩
        split at accepted
        case isTrue fits =>
          rw [if_pos fits]
          exact ⟨sum, rfl, long, enough, by omega⟩
        case isFalse => cases accepted
    · refine ⟨fun _ enough => (long enough).elim, fun _ accepted => ?_⟩
      have needed := (TCPHeader.parse_needs ⟨b, .noError⟩ accepted).2
      exact (long (le_trans (Nat.le_add_left _ _) needed)).elim
  · refine ⟨fun _ _ verified => (sum verified).elim, fun _ accepted => ?_⟩
    have failed : (InternetChecksum.add ⟨seed, false⟩ b).value ≠ 0 := sum
    rw [TCPSegment.parse, if_pos failed] at accepted
    cases accepted

/-- The containers report what their header parsers find exactly on the byte strings without one of the
faults that are returned but not recorded. -/
theorem headers_respected_iff (b : Buffer) (seed : UInt32) :
    HeadersRespected b seed ↔ NoHiddenFault b seed := by
  constructor
  · intro respected
    exact ⟨(ethernet_iff b).mp respected.ethernet, (ipv4_iff b).mp respected.ipv4,
      (tcp_iff b seed).mp respected.tcp⟩
  · intro faultless
    exact ⟨(ethernet_iff b).mpr faultless.ethernet, (ipv4_iff b).mpr faultless.ipv4,
      (tcp_iff b seed).mpr faultless.tcp⟩

/-- Twenty zero bytes pass as a datagram and, with a seed that makes the checksum verify, as a segment; no
bytes at all pass as a frame. -/
theorem zero_bytes_accepted :
    (¬ HeadersRespected (List.replicate 20 0) 0xffff ∧
        (IPv4Datagram.parse {} (List.replicate 20 0)).1 = .noError ∧
        headerResult (IPv4Header.parse {}) (List.replicate 20 0) = .wrongIPVersion ∧
        (TCPSegment.parse {} (List.replicate 20 0) 0xffff).1 = .noError ∧
        headerResult TCPHeader.parse (List.replicate 20 0) = .headerTooShort) ∧
      ¬ HeadersRespected [] 0 ∧ (EthernetFrame.parse {} []).1 = .noError ∧
      headerResult (EthernetHeader.parse {}) [] = .packetTooShort := by
  have version : (IPv4Datagram.parse {} (List.replicate 20 0)).1 = .noError ∧
      headerResult (IPv4Header.parse {}) (List.replicate 20 0) = .wrongIPVersion := by decide +kernel
  have offset : (TCPSegment.parse {} (List.replicate 20 0) 0xffff).1 = .noError ∧
      headerResult TCPHeader.parse (List.replicate 20 0) = .headerTooShort := by decide +kernel
  have short : (EthernetFrame.parse {} []).1 = .noError ∧
      headerResult (EthernetHeader.parse {}) [] = .packetTooShort := by decide +kernel
  refine ⟨⟨fun respected => ?_, version.1, version.2, offset⟩, fun respected => ?_, short⟩
  · exact absurd (version.2.symm.trans (respected.ipv4 version.1).1) (by decide)
  · exact absurd (respected.ethernet short.1).2 (by decide)

end Sponge.ContainerParsers

import Sponge.Ipv4Acceptance
import Sponge.Ipv4Codec
import Sponge.TcpCodec

/-! The codecs of the wire formats undo each other, in both directions where the format leaves no choice. -/

namespace Sponge.WireRoundTrips

open ContainerParsers Ipv4Acceptance OnesComplement

/-! ### TCP segments -/

/-- A segment that is written and parsed again comes back, with its checksum computed. -/
theorem segment_round_trip {s : TCPSegment} (long : 5 ≤ s.header.doff) (short : s.header.doff ≤ 15)
    {seed : UInt32} (small : seed.toNat < 2 ^ 20)
    (size : 4 * s.header.doff.toNat + s.payload.length ≤ 65535) (fresh : TCPSegment) :
    ∃ out, s.serialize seed = .ok out ∧ out.size = 4 * s.header.doff.toNat + s.payload.length ∧
      fresh.parse out.concatenate seed =
        (.noError, ⟨{ s.header with cksum := (InternetChecksum.add ⟨seed, false⟩
          ((s.header.setCksum 0).padded ++ s.payload)).value }, s.payload⟩) := by
  obtain ⟨out, written, length, parsed⟩ := TCPSegment.parse_serialize long short size small fresh
  exact ⟨out, written, length, parsed⟩

theorem syn_round_trip :
    ∃ out, TCPSegment.serialize ⟨{ doff := 6, syn := true }, [1, 2, 3]⟩ 0x8001 = .ok out ∧ out.size = 27 ∧
      (TCPSegment.parse {} out.concatenate 0x8001).1 = .noError := by
  obtain ⟨out, written, size, parsed⟩ := @segment_round_trip ⟨{ doff := 6, syn := true }, [1, 2, 3]⟩
    (by decide) (by decide) 0x8001 (by decide) (by decide) {}
  exact ⟨out, written, size, by rw [parsed]⟩

/-! ### IPv4 datagrams -/

theorem firstByte_packed : ∀ byte : BitVec 8,
    ((byte >>> 4#8) <<< 4#8) ||| ((byte &&& 0x0f#8) &&& 0xf#8) = byte := by
  decide

theorem bit_packed (val mask : UInt16) (bit : Nat) (single : mask.toNat = 2 ^ bit) :
    (if val &&& mask != 0 then mask else 0) = val &&& mask := by
  rw [and_bit val mask bit single]
  have masked : (val &&& mask).toNat = (val.toNat.testBit bit).toNat * 2 ^ bit := by
    rw [UInt16.toNat_and, single, Nat.and_two_pow]
  rw [← UInt16.toNat_inj, masked]
  cases val.toNat.testBit bit with
  | false => simp
  | true => simp [single]

theorem foVal_packed {val : UInt16} (reserved : val &&& 0x8000 = 0) :
    (if val &&& 0x4000 != 0 then 0x4000 else 0) ||| (if val &&& 0x2000 != 0 then 0x2000 else 0) |||
      ((val &&& 0x1fff) &&& 0x1fff) = val := by
  have distrib : ∀ a b : UInt16, val &&& (a ||| b) = (val &&& a) ||| (val &&& b) := by
    intro a b
    apply UInt16.toNat_inj.mp
    simp only [UInt16.toNat_and, UInt16.toNat_or, Nat.and_or_distrib_left]
  have ones : (0x8000 ||| (0x4000 ||| (0x2000 ||| 0x1fff)) : UInt16) = -1 := by decide
  calc (if val &&& 0x4000 != 0 then 0x4000 else 0) ||| (if val &&& 0x2000 != 0 then 0x2000 else 0) |||
        ((val &&& 0x1fff) &&& 0x1fff)
      = (val &&& 0x4000) ||| (val &&& 0x2000) ||| (val &&& 0x1fff) := by
        rw [bit_packed val 0x4000 14 rfl, bit_packed val 0x2000 13 rfl, UInt16.and_assoc, UInt16.and_self]
    _ = val &&& (0x8000 ||| (0x4000 ||| (0x2000 ||| 0x1fff))) := by
        rw [distrib, distrib, distrib, reserved, UInt16.zero_or, UInt16.or_assoc]
    _ = val := by rw [ones, UInt16.and_neg_one]

theorem header_words {w : IPv4Words} (reserved : w.foVal &&& 0x8000 = 0) : w.header.words = w := by
  obtain ⟨firstByte, tos, len, id, foVal, ttl, proto, cksum, src, dst⟩ := w
  simp only [IPv4Words.header, IPv4Header.words, IPv4Words.mk.injEq, true_and, and_true]
  exact ⟨UInt8.eq_of_toBitVec_eq (firstByte_packed firstByte.toBitVec), foVal_packed reserved⟩

theorem foVal_word (w : IPv4Words) (rest : Buffer) : u16At (w.bytes ++ rest) 6 = w.foVal := by
  have split : w.bytes ++ rest = (NetUnparser.u8 w.firstByte ++ NetUnparser.u8 w.tos ++
      NetUnparser.u16 w.len ++ NetUnparser.u16 w.id) ++ (NetUnparser.u16 w.foVal ++
        (NetUnparser.u8 w.ttl ++ (NetUnparser.u8 w.proto ++ (NetUnparser.u16 w.cksum ++
          (NetUnparser.u32 w.src ++ (NetUnparser.u32 w.dst ++ rest)))))) := by
    simp only [IPv4Words.bytes, List.append_assoc]
  exact u16At_split split (by simp)

section Accepted

variable {w : IPv4Words} (plain : w.header.hlen = 5)
  (reserved : w.foVal &&& 0x8000 = 0)
include plain reserved

theorem padded_bytes (cksum : UInt16) : (w.header.setCksum cksum).padded = IPv4Words.bytes { w with cksum } := by
  have words : (w.header.setCksum cksum).words = { w with cksum } := @header_words { w with cksum } reserved
  have hlen : (w.header.setCksum cksum).hlen = 5 := plain
  rw [IPv4Header.padded, words, hlen]
  exact List.append_nil _

theorem cksum_computed (version : w.header.ver = 4) (sum : onesSum w.bytes = 0xffff)
    (other : w.cksum ≠ 0xffff) :
    (InternetChecksum.add {} (w.header.setCksum 0).padded).value = w.cksum := by
  have filled := IPv4Header.wordSum_padded w.header w.cksum
  rw [padded_bytes plain reserved w.cksum] at filled
  rw [onesSum_eq, show w.bytes = IPv4Words.bytes { w with cksum := w.cksum } from rfl, filled] at sum
  have length : (w.header.setCksum 0).padded.length = 20 := by
    rw [padded_bytes plain reserved, IPv4Words.bytes_length]
  have bound := wordSum_le false (w.header.setCksum 0).padded
  have positive : 0 < wordSum false (w.header.setCksum 0).padded := by
    -- the first byte holds the version
    have first : 0 < w.firstByte.toNat := by
      rw [Nat.pos_iff_ne_zero]
      intro zero
      have empty : w.firstByte = 0 := UInt8.toNat_inj.mp zero
      rw [IPv4Words.header, empty] at version
      cases version
    rw [padded_bytes plain reserved, IPv4Words.bytes, NetUnparser.u8_eq, List.singleton_append, wordSum]
    simp only [Bool.false_eq_true, if_false]
    omega
  have small : w.cksum.toNat < 0xffff := by
    have bound : w.cksum.toNat < 2 ^ 16 := w.cksum.toNat_lt
    have differs : w.cksum.toNat ≠ 0xffff := fun ones => other (UInt16.toNat_inj.mp ones)
    omega
  have added : (InternetChecksum.add {} (w.header.setCksum 0).padded).sum.toNat =
      (0 + wordSum false (w.header.setCksum 0).padded) % 2 ^ 32 := InternetChecksum.add_sum {} _
  rw [Nat.zero_add, Nat.mod_eq_of_lt (by omega)] at added
  rw [← UInt16.toNat_inj, InternetChecksum.value_toNat, added]
  exact (complement_unique positive small sum).symm

end Accepted

theorem serialize_parse {h : IPv4Header} {b : Buffer} (accepted : headerResult h.parse b = .noError)
    (plain : hlen b = 5) (reserved : u16At b 6 &&& 0x8000 = 0) (other : u16At b 10 ≠ 0xffff)
    (fresh : IPv4Datagram) :
    ∃ d out, fresh.parse b = (.noError, d) ∧ d.serialize = .ok out ∧ out.concatenate = b := by
  obtain ⟨result, parsed, left, run, _, acceptable, _⟩ := parse_outcome h b
  rw [headerResult, run] at accepted
  have good := acceptable.mp accepted
  obtain ⟨w, rest, rfl⟩ := IPv4Words.exists_words good.long
  have sized := (fieldsFit_words w rest).mp ((acceptable_iff good.long).mp good).1
  have cksum : u16At (w.bytes ++ rest) 10 = w.cksum := congrArg IPv4Header.cksum (fieldsAt_words w rest)
  rw [foVal_word] at reserved
  rw [cksum] at other
  rw [hlen_words] at plain
  have words : 4 * w.header.hlen.toNat = 20 := by rw [plain]; rfl
  have parsed := IPv4Datagram.parse_sized fresh w rest sized
  rw [words, Nat.sub_self, List.drop_zero] at parsed
  have serializable : IPv4Datagram.Serializable ⟨w.header, .ofBuffer rest⟩ :=
    ⟨IPv4Datagram.parse_accepted parsed, sized.2.1, words.ge⟩
  have sum : onesSum w.bytes = 0xffff := by
    have ones := good.sumOnes
    rwa [hlen_words, words, List.take_left' w.bytes_length] at ones
  refine ⟨_, _, parsed, IPv4Datagram.serialize_serializable serializable, ?_⟩
  rw [BufferList.append_concatenate, BufferList.ofBuffer_concatenate, BufferList.ofBuffer_concatenate,
    IPv4Datagram.sealed, cksum_computed plain reserved sized.2.1 sum other, padded_bytes plain reserved]

/-- Datagrams survive the wire with their checksum computed; and an accepted header that leaves no choice
comes back byte for byte. -/
theorem datagram_round_trip :
    (∀ d fresh : IPv4Datagram, d.WellFormed → ∃ out, d.serialize = .ok out ∧
        fresh.parse out.concatenate =
          (.noError, ⟨{ d.header with
            cksum := (InternetChecksum.add {} (d.header.setCksum 0).padded).value },
            .ofBuffer d.payload.concatenate⟩) ∧
        headerResult fresh.header.parse out.concatenate = .noError) ∧
      ∀ (b : Buffer) (h : IPv4Header) (fresh : IPv4Datagram), 20 ≤ b.length →
        headerResult h.parse b = .noError → hlen b = 5 → u16At b 6 &&& 0x8000 = 0 → u16At b 10 ≠ 0xffff →
        ∃ d out, fresh.parse b = (.noError, d) ∧ d.serialize = .ok out ∧ out.concatenate = b := by
  refine ⟨?_, fun b h fresh _ accepted plain reserved other =>
    serialize_parse accepted plain reserved other fresh⟩
  intro d fresh formed
  obtain ⟨out, written, parsed, header⟩ := IPv4Datagram.parse_serialize formed fresh
  exact ⟨out, written, parsed, by rw [headerResult, header]; rfl⟩

theorem loopback_round_trip :
    (∃ out, IPv4Datagram.serialize ⟨{ hlen := 6, len := 25 }, .ofBuffer [7]⟩ = .ok out ∧
        headerResult (IPv4Header.parse {}) out.concatenate = .noError) ∧
      ∃ d out, IPv4Datagram.parse {} loopbackHeader = (.noError, d) ∧ d.serialize = .ok out ∧
        out.concatenate = loopbackHeader := by
  obtain ⟨forth, back⟩ := datagram_round_trip
  have formed : IPv4Datagram.WellFormed ⟨{ hlen := 6, len := 25 }, .ofBuffer [7]⟩ :=
    ⟨rfl, by decide, by decide, by decide, rfl⟩
  obtain ⟨out, written, _, header⟩ := forth _ {} formed
  have accepted : headerResult (IPv4Header.parse {}) loopbackHeader = .noError := by decide +kernel
  exact ⟨⟨out, written, header⟩, back loopbackHeader {} {} (by decide) accepted (by decide) (by decide)
    (by decide)⟩

/-! ### Ethernet frames and ARP messages -/

def arpBytes (m : ARPMessage) : List Byte :=
  NetUnparser.u16 m.hardwareType ++ (NetUnparser.u16 m.protocolType ++
    (NetUnparser.u8 m.hardwareAddressSize ++ (NetUnparser.u8 m.protocolAddressSize ++
      (NetUnparser.u16 m.opcode ++ (m.senderEthernetAddress.bytes ++
        (NetUnparser.u32 m.senderIpAddress ++ (m.targetEthernetAddress.bytes ++
          NetUnparser.u32 m.targetIpAddress)))))))

@[simp] theorem arpBytes_length (m : ARPMessage) : (arpBytes m).length = 28 := by
  simp [arpBytes]

theorem arp_written {m : ARPMessage} (accepted : m.supported = true) : m.serialize = .ok (arpBytes m) := by
  rw [ARPMessage.serialize, accepted]
  rfl

theorem exists_arpBytes {b : Buffer} (long : 28 ≤ b.length) : ∃ m rest, b = arpBytes m ++ rest := by
  obtain ⟨hardwareType, rest, rfl, length⟩ := NetUnparser.exists_u16 b (by omega)
  obtain ⟨protocolType, rest, rfl, length⟩ := NetUnparser.exists_u16 rest (by omega)
  obtain ⟨hardwareAddressSize, rest, rfl, length⟩ := NetUnparser.exists_u8 rest (by omega)
  obtain ⟨protocolAddressSize, rest, rfl, length⟩ := NetUnparser.exists_u8 rest (by omega)
  obtain ⟨opcode, rest, rfl, length⟩ := NetUnparser.exists_u16 rest (by omega)
  obtain ⟨senderEthernetAddress, rest, rfl, length⟩ := EthernetAddress.exists_address rest (by omega)
  obtain ⟨senderIpAddress, rest, rfl, length⟩ := NetUnparser.exists_u32 rest (by omega)
  obtain ⟨targetEthernetAddress, rest, rfl, length⟩ := EthernetAddress.exists_address rest (by omega)
  obtain ⟨targetIpAddress, rest, rfl, length⟩ := NetUnparser.exists_u32 rest (by omega)
  exact ⟨⟨hardwareType, protocolType, hardwareAddressSize, protocolAddressSize, opcode,
    senderEthernetAddress, senderIpAddress, targetEthernetAddress, targetIpAddress⟩, rest, by
      simp only [arpBytes, List.append_assoc]⟩

theorem arp_refused {m : ARPMessage} (refused : m.supported = false) (fresh : ARPMessage) (rest : Buffer) :
    (fresh.parse (arpBytes m ++ rest)).1 = .unsupported := by
  have long : ¬ (arpBytes m ++ rest).length < ARPMessage.length := by
    rw [List.length_append, arpBytes_length, ARPMessage.length]
    omega
  have fields : ARPMessage.supported { fresh with
      hardwareType := m.hardwareType
      protocolType := m.protocolType
      hardwareAddressSize := m.hardwareAddressSize
      protocolAddressSize := m.protocolAddressSize
      opcode := m.opcode } = false := refused
  simp only [ARPMessage.parse, ARPMessage.parseFrom, StateT.run_bind, StateT.run_get, pure_bind]
  rw [if_neg long]
  simp only [arpBytes, List.append_assoc, StateT.run_bind, NetParser.u16_run, NetParser.u8_run, pure_bind,
    fields, Bool.not_false, if_true, StateT.run_pure, Id.run_pure]

theorem arp_accepted {fresh m : ARPMessage} {b : Buffer} (parsed : fresh.parse b = (.noError, m)) :
    m.serialize = .ok (b.take 28) := by
  by_cases long : 28 ≤ b.length
  case neg =>
    have short : b.length < ARPMessage.length := Nat.lt_of_not_le long
    simp [ARPMessage.parse, ARPMessage.parseFrom, short] at parsed
  obtain ⟨held, rest, rfl⟩ := exists_arpBytes long
  cases accepted : held.supported with
  | false =>
      have refused := arp_refused accepted fresh rest
      rw [parsed] at refused
      cases refused
  | true =>
      have written := arp_written accepted
      rw [ARPMessage.parse, ARPMessage.parseFrom_run fresh written rest] at parsed
      obtain rfl : held = m := congrArg Prod.snd parsed
      rw [written, List.take_left' (arpBytes_length held)]

/-- ARP messages and Ethernet frames are written and read without loss, and bytes that were read are
written back. -/
theorem arp_ethernet_inverse :
    (∀ m : ARPMessage, m.supported = true → ∃ bytes, m.serialize = .ok bytes ∧ bytes.length = 28 ∧
        ∀ (fresh : ARPMessage) (rest : Buffer), fresh.parse (bytes ++ rest) = (.noError, m)) ∧
      (∀ (fresh m : ARPMessage) (b : Buffer), fresh.parse b = (.noError, m) → m.serialize = .ok (b.take 28)) ∧
      (∀ f fresh : EthernetFrame, fresh.parse f.serialize.concatenate =
        (.noError, ⟨f.header, .ofBuffer f.payload.concatenate⟩)) ∧
      ∀ (b : Buffer) (fresh : EthernetFrame), 14 ≤ b.length →
        (fresh.parse b).2.serialize.concatenate = b := by
  have written : ∀ f : EthernetFrame, f.serialize.concatenate = f.header.serialize ++ f.payload.concatenate := by
    intro f
    simp [EthernetFrame.serialize, BufferList.concatenate_eq, BufferList.append, BufferList.ofBuffer]
  refine ⟨?_, fun fresh m b => arp_accepted, ?_, ?_⟩
  · intro m accepted
    refine ⟨arpBytes m, arp_written accepted, arpBytes_length m, ?_⟩
    intro fresh rest
    rw [ARPMessage.parse, ARPMessage.parseFrom_run fresh (arp_written accepted) rest]
    rfl
  · intro f fresh
    rw [written, EthernetFrame.parse, EthernetHeader.parse_run]
    rfl
  · intro b fresh long
    obtain ⟨h, rest, rfl⟩ := EthernetHeader.exists_header long
    rw [EthernetFrame.parse, EthernetHeader.parse_run]
    exact (written ⟨h, .ofBuffer rest⟩).trans (by rw [BufferList.ofBuffer_concatenate])

theorem request_inverse :
    (∃ bytes, ARPMessage.serialize { opcode := 1 } = .ok bytes ∧ bytes.length = 28 ∧
        ARPMessage.parse { opcode := 2 } bytes = (.noError, { opcode := 1 })) ∧
      (EthernetFrame.parse {} (List.replicate 15 7)).2.serialize.concatenate = List.replicate 15 7 := by
  obtain ⟨forth, _, _, frames⟩ := arp_ethernet_inverse
  obtain ⟨bytes, written, length, parsed⟩ := forth { opcode := 1 } (by decide)
  have whole := parsed { opcode := 2 } []
  rw [List.append_nil] at whole
  exact ⟨⟨bytes, written, length, whole⟩, frames (List.replicate 15 7) {} (by decide)⟩

end Sponge.WireRoundTrips

import Mathlib.Data.Nat.Bitwise
import Sponge.ContainerParsers

/-! Which byte strings `IPv4Header::parse` accepts, what it reads from them and that it stays within them. -/

namespace Sponge.Ipv4Acceptance

open ContainerParsers OnesComplement

/-! ### Fields at their places -/

def byteAt (b : Buffer) (place : Nat) : UInt8 := (b.drop place).headD 0

def u16At (b : Buffer) (place : Nat) : UInt16 := UInt16.ofNat (BigEndian.decode ((b.drop place).take 2))

def u32At (b : Buffer) (place : Nat) : UInt32 := UInt32.ofNat (BigEndian.decode ((b.drop place).take 4))

/-- The header fields at the places that RFC 791 gives them. -/
def fieldsAt (b : Buffer) : IPv4Header where
  ver := byteAt b 0 >>> 4
  hlen := byteAt b 0 &&& 0x0f
  tos := byteAt b 1
  len := u16At b 2
  id := u16At b 4
  df := (u16At b 6).toNat.testBit 14
  mf := (u16At b 6).toNat.testBit 13
  offset := UInt16.ofNat ((u16At b 6).toNat % 2 ^ 13)
  ttl := byteAt b 8
  proto := byteAt b 9
  cksum := u16At b 10
  src := u32At b 12
  dst := u32At b 16

section Places

variable {b front back : Buffer} {place : Nat}

theorem byteAt_split {val : UInt8} (split : b = front ++ (NetUnparser.u8 val ++ back))
    (length : front.length = place) : byteAt b place = val := by
  rw [byteAt, split, List.drop_left' length, NetUnparser.u8_eq]
  rfl

theorem u16At_split {val : UInt16} (split : b = front ++ (NetUnparser.u16 val ++ back))
    (length : front.length = place) : u16At b place = val := by
  have small : val.toNat < 256 ^ 2 := val.toNat_lt
  rw [u16At, split, List.drop_left' length, List.take_left' (by simp), NetUnparser.u16,
    BigEndian.decode_encode, Nat.mod_eq_of_lt small, UInt16.ofNat_toNat]

theorem u32At_split {val : UInt32} (split : b = front ++ (NetUnparser.u32 val ++ back))
    (length : front.length = place) : u32At b place = val := by
  have small : val.toNat < 256 ^ 4 := val.toNat_lt
  rw [u32At, split, List.drop_left' length, List.take_left' (by simp), NetUnparser.u32,
    BigEndian.decode_encode, Nat.mod_eq_of_lt small, UInt32.ofNat_toNat]

end Places

theorem and_bit (val mask : UInt16) (bit : Nat) (single : mask.toNat = 2 ^ bit) :
    (val &&& mask != 0) = val.toNat.testBit bit := by
  have masked : (val &&& mask).toNat = (val.toNat.testBit bit).toNat * 2 ^ bit := by
    rw [UInt16.toNat_and, single, Nat.and_two_pow]
  cases set : val.toNat.testBit bit with
  | false =>
      rw [set, Bool.toNat_false, Nat.zero_mul] at masked
      rw [UInt16.toNat_inj.mp (masked.trans UInt16.toNat_zero.symm)]
      rfl
  | true =>
      rw [set, Bool.toNat_true, Nat.one_mul] at masked
      rw [bne_iff_ne]
      intro zero
      rw [zero, UInt16.toNat_zero] at masked
      exact absurd masked.symm (Nat.two_pow_pos bit).ne'

theorem and_offset (val : UInt16) : val &&& 0x1fff = UInt16.ofNat (val.toNat % 2 ^ 13) := by
  have small : val.toNat % 2 ^ 13 < UInt16.size :=
    (Nat.mod_lt _ (by decide)).trans (show 2 ^ 13 < UInt16.size by decide)
  rw [← UInt16.toNat_inj, UInt16.toNat_and, UInt16.toNat_ofNat_of_lt' small]
  exact Nat.and_two_pow_sub_one_eq_mod val.toNat 13

theorem fieldsAt_words (w : IPv4Words) (rest : Buffer) : fieldsAt (w.bytes ++ rest) = w.header := by
  obtain ⟨b, whole⟩ : ∃ b, b = w.bytes ++ rest := ⟨_, rfl⟩
  -- one field after the other moves to the front
  have first : b = [] ++ (NetUnparser.u8 w.firstByte ++ (NetUnparser.u8 w.tos ++ (NetUnparser.u16 w.len ++
      (NetUnparser.u16 w.id ++ (NetUnparser.u16 w.foVal ++ (NetUnparser.u8 w.ttl ++
        (NetUnparser.u8 w.proto ++ (NetUnparser.u16 w.cksum ++ (NetUnparser.u32 w.src ++
          (NetUnparser.u32 w.dst ++ rest)))))))))) := by
    rw [whole]
    simp only [IPv4Words.bytes, List.append_assoc, List.nil_append]
  have tos := first.trans (List.append_assoc _ _ _).symm
  have len := tos.trans (List.append_assoc _ _ _).symm
  have id := len.trans (List.append_assoc _ _ _).symm
  have foVal := id.trans (List.append_assoc _ _ _).symm
  have ttl := foVal.trans (List.append_assoc _ _ _).symm
  have proto := ttl.trans (List.append_assoc _ _ _).symm
  have cksum := proto.trans (List.append_assoc _ _ _).symm
  have src := cksum.trans (List.append_assoc _ _ _).symm
  have dst := src.trans (List.append_assoc _ _ _).symm
  rw [← whole, fieldsAt, byteAt_split first (by simp), byteAt_split tos (by simp), u16At_split len (by simp),
    u16At_split id (by simp), u16At_split foVal (by simp), byteAt_split ttl (by simp),
    byteAt_split proto (by simp), u16At_split cksum (by simp), u32At_split src (by simp),
    u32At_split dst (by simp)]
  rw [← and_bit w.foVal 0x4000 14 rfl, ← and_bit w.foVal 0x2000 13 rfl, ← and_offset]
  rfl

/-! ### The parser with every access tested

The accesses by index and the skips fail here when they leave the buffer, and so does the subtraction
when it wraps around. -/

def readBytes (b : Buffer) (n : Nat) : Option (List Byte) := (List.range n).mapM fun i => b[i]?

def skipBytes (b : Buffer) (n : Nat) : Option Buffer := if n ≤ b.length then some (b.drop n) else none

def parseIntChecked (len : Nat) : StateT NetParser Option Nat := fun p => do
  let p := p.checkSize len
  if p.error ≠ .noError then return (0, p)
  let bytes ← readBytes p.buffer len
  return (BigEndian.decode bytes, { p with buffer := ← skipBytes p.buffer len })

def removePrefixChecked (n : Nat) : StateT NetParser Option Unit := fun p => do
  let p := p.checkSize n
  if p.error ≠ .noError then return ((), p)
  return ((), { p with buffer := ← skipBytes p.buffer n })

def u32Checked : StateT NetParser Option UInt32 := UInt32.ofNat <$> parseIntChecked 4

def u16Checked : StateT NetParser Option UInt16 := UInt16.ofNat <$> parseIntChecked 2

def u8Checked : StateT NetParser Option UInt8 := UInt8.ofNat <$> parseIntChecked 1

def readChecked : StateT NetParser Option IPv4Words := do
  let firstByte ← u8Checked
  let tos ← u8Checked
  let len ← u16Checked
  let id ← u16Checked
  let foVal ← u16Checked
  let ttl ← u8Checked
  let proto ← u8Checked
  let cksum ← u16Checked
  let src ← u32Checked
  let dst ← u32Checked
  return ⟨firstByte, tos, len, id, foVal, ttl, proto, cksum, src, dst⟩

def parseChecked (h : IPv4Header) : StateT NetParser Option (ParseResult × IPv4Header) := do
  let original := (← get).buffer
  let dataSize := original.length
  if dataSize < IPv4Header.length then return (.packetTooShort, h)
  let h := (← readChecked).header
  if dataSize < 4 * h.hlen.toNat then return (.packetTooShort, h)
  if h.ver ≠ 4 then return (.wrongIPVersion, h)
  if h.hlen < 5 then return (.headerTooShort, h)
  if dataSize ≠ h.len.toNat then return (.truncatedPacket, h)
  let skipped ← if IPv4Header.length ≤ h.hlen.toNat * 4 then pure (h.hlen.toNat * 4 - IPv4Header.length)
    else failure
  removePrefixChecked skipped
  let p ← get
  if p.error ≠ .noError then return (p.error, h)
  let bytes ← (readBytes original (4 * h.hlen.toNat) : Option (List Byte))
  let check := InternetChecksum.add {} bytes
  if check.value ≠ 0 then return (.badChecksum, h)
  return (.noError, h)

/-- The tests of a checked computation never fail, and otherwise it does the same. -/
def Erases {α : Type} (checked : StateT NetParser Option α) (m : StateM NetParser α) : Prop :=
  ∀ p, checked.run p = some (m.run p).run

section Erasure

variable {α β : Type}

theorem erases_pure (value : α) : Erases (pure value) (pure value) := fun _ => rfl

theorem erases_get : Erases get get := fun _ => rfl

theorem erases_map {checked : StateT NetParser Option α} {m : StateM NetParser α} (f : α → β)
    (erases : Erases checked m) : Erases (f <$> checked) (f <$> m) := by
  intro p
  rw [StateT.run_map, StateT.run_map, erases p]
  rfl

theorem erases_bind {checked : StateT NetParser Option α} {m : StateM NetParser α}
    {next : α → StateT NetParser Option β} {after : α → StateM NetParser β}
    (front : Erases checked m) (back : ∀ value, Erases (next value) (after value)) :
    Erases (checked >>= next) (m >>= after) := by
  intro p
  rw [StateT.run_bind, StateT.run_bind, front p]
  exact back _ _

theorem erases_ite {P : Prop} [Decidable P] {checked other : StateT NetParser Option α}
    {m n : StateM NetParser α} (yes : P → Erases checked m) (no : ¬ P → Erases other n) :
    Erases (if P then checked else other) (if P then m else n) := by
  split
  case isTrue holds => exact yes holds
  case isFalse fails => exact no fails

theorem readBytes_eq {b : Buffer} {n : Nat} (within : n ≤ b.length) : readBytes b n = some (b.take n) := by
  induction n with
  | zero => rfl
  | succ n ih =>
      have earlier := ih (Nat.le_of_succ_le within)
      rw [readBytes] at earlier ⊢
      rw [List.range_succ, List.mapM_append, earlier, List.take_add_one, List.getElem?_eq_getElem within]
      simp [List.getElem?_eq_getElem (show n < b.length from within)]

theorem skipBytes_eq {b : Buffer} {n : Nat} (within : n ≤ b.length) : skipBytes b n = some (b.drop n) :=
  if_pos within

theorem erases_parseInt (len : Nat) : Erases (parseIntChecked len) (NetParser.parseInt len) := by
  intro p
  simp only [parseIntChecked, NetParser.parseInt, StateT.run]
  split
  case isTrue => rfl
  case isFalse good =>
    obtain ⟨_, enough, same⟩ := NetParser.checkSize_clean (not_not.mp good)
    rw [same, readBytes_eq enough, skipBytes_eq enough]
    rfl

theorem erases_removePrefix (n : Nat) : Erases (removePrefixChecked n) (NetParser.removePrefix n) := by
  intro p
  simp only [removePrefixChecked, NetParser.removePrefix, StateT.run]
  split
  case isTrue => rfl
  case isFalse good =>
    obtain ⟨_, enough, same⟩ := NetParser.checkSize_clean (not_not.mp good)
    rw [same, skipBytes_eq enough]
    rfl

end Erasure

theorem erases_read : Erases readChecked IPv4Words.read := by
  have u8 := erases_map UInt8.ofNat (erases_parseInt 1)
  have u16 := erases_map UInt16.ofNat (erases_parseInt 2)
  have u32 := erases_map UInt32.ofNat (erases_parseInt 4)
  apply erases_bind u8; intro firstByte
  apply erases_bind u8; intro tos
  apply erases_bind u16; intro len
  apply erases_bind u16; intro id
  apply erases_bind u16; intro foVal
  apply erases_bind u8; intro ttl
  apply erases_bind u8; intro proto
  apply erases_bind u16; intro cksum
  apply erases_bind u32; intro src
  apply erases_bind u32; intro dst
  exact erases_pure _

theorem erases_parse (h : IPv4Header) : Erases (parseChecked h) h.parse := by
  apply erases_bind erases_get
  intro start
  refine erases_ite (fun _ => erases_pure _) ?_
  intro _
  apply erases_bind erases_read
  intro w
  refine erases_ite (fun _ => erases_pure _) ?_
  intro fits
  refine erases_ite (fun _ => erases_pure _) ?_
  intro _
  refine erases_ite (fun _ => erases_pure _) ?_
  intro long
  refine erases_ite (fun _ => erases_pure _) ?_
  intro _
  have words : 5 ≤ w.header.hlen.toNat := UInt8.le_iff_toNat_le.mp (UInt8.not_lt.mp long)
  have noWrap : IPv4Header.length ≤ w.header.hlen.toNat * 4 := by
    rw [IPv4Header.length]
    omega
  rw [if_pos noWrap, pure_bind]
  apply erases_bind (erases_removePrefix _)
  intro _
  apply erases_bind erases_get
  intro p
  refine erases_ite (fun _ => erases_pure _) ?_
  intro _
  rw [readBytes_eq (Nat.not_lt.mp fits)]
  exact erases_ite (fun _ => erases_pure _) (fun _ => erases_pure _)

/-! ### Acceptance -/

/-- A header that the parser is to accept. -/
structure Acceptable (b : Buffer) : Prop where
  long : 20 ≤ b.length
  versionFour : version b = 4
  wholeHeader : 5 ≤ hlen b
  optionsPresent : 4 * (hlen b).toNat ≤ b.length
  lenExact : (len b).toNat = b.length
  sumOnes : onesSum (b.take (4 * (hlen b).toNat)) = 0xffff

theorem hlen_le (b : Buffer) : (hlen b).toNat ≤ 15 := by
  rw [hlen, UInt8.toNat_and]
  exact Nat.and_le_right

theorem headerSum_iff (b : Buffer) :
    HeaderSum b ↔ onesSum (b.take (4 * (hlen b).toNat)) = 0xffff := by
  have bound := wordSum_le false (b.take (4 * (hlen b).toNat))
  have short := hlen_le b
  have taken : (b.take (4 * (hlen b).toNat)).length ≤ 4 * (hlen b).toNat := List.length_take_le _ _
  have small : ({} : InternetChecksum).sum.toNat + wordSum false (b.take (4 * (hlen b).toNat)) < 2 ^ 32 := by
    have zero : ({} : InternetChecksum).sum.toNat = 0 := rfl
    omega
  rw [HeaderSum, InternetChecksum.value_eq_zero_iff, InternetChecksum.add_sum, Nat.mod_eq_of_lt small,
    onesSum_eq]
  exact Iff.of_eq (congrArg (fun sum => fold sum = 0xffff) (Nat.zero_add _))

theorem acceptable_iff {b : Buffer} (long : 20 ≤ b.length) : Acceptable b ↔ FieldsFit b ∧ HeaderSum b := by
  rw [headerSum_iff]
  constructor
  · rintro ⟨_, version, hlen, options, len, sum⟩
    exact ⟨⟨options, version, hlen, len.symm⟩, sum⟩
  · rintro ⟨⟨options, version, hlen, len⟩, sum⟩
    exact ⟨long, version, hlen, options, len.symm, sum⟩

theorem parse_outcome (h : IPv4Header) (b : Buffer) :
    ∃ result parsed rest, h.parse.run ⟨b, .noError⟩ = pure ((result, parsed), ⟨rest, .noError⟩) ∧
      rest <:+ b ∧ (result = .noError ↔ Acceptable b) ∧
      (Acceptable b → parsed = fieldsAt b ∧ rest = b.drop (4 * (hlen b).toNat)) := by
  by_cases long : 20 ≤ b.length
  case neg =>
    have unacceptable : ¬ Acceptable b := fun acceptable => long acceptable.long
    exact ⟨_, _, _, IPv4Header.parse_short h (Nat.lt_of_not_le long), List.suffix_rfl,
      iff_of_false (by decide) unacceptable, fun acceptable => absurd acceptable unacceptable⟩
  rw [acceptable_iff long]
  obtain ⟨w, rest, rfl⟩ := IPv4Words.exists_words long
  by_cases sized : w.header.Sized (20 + rest.length)
  · have fit := (fieldsFit_words w rest).mpr sized
    have hlen := hlen_words w rest
    refine ⟨_, _, _, IPv4Header.parse_sized h w rest sized, ?_, ?_, ?_⟩
    · exact (List.drop_suffix _ _).trans (List.suffix_append _ _)
    · rw [HeaderSum, hlen, and_iff_right fit]
      split
      case isTrue verified => exact iff_of_true rfl verified
      case isFalse fails => exact iff_of_false (by decide) fails
    · intro _
      have words : 5 ≤ w.header.hlen.toNat := UInt8.le_iff_toNat_le.mp sized.2.2.1
      have split : 4 * w.header.hlen.toNat = w.bytes.length + (4 * w.header.hlen.toNat - 20) := by
        rw [IPv4Words.bytes_length]
        omega
      refine ⟨(fieldsAt_words w rest).symm, ?_⟩
      rw [hlen, split, List.drop_length_add_append]
      simp
  · obtain ⟨error, failed, run⟩ := IPv4Header.parse_misfit h w rest sized
    have unfit : ¬ FieldsFit (w.bytes ++ rest) := fun fit => sized ((fieldsFit_words w rest).mp fit)
    exact ⟨_, _, _, run, List.suffix_append _ _, iff_of_false failed (fun fit => unfit fit.1),
      fun fit => absurd fit.1 unfit⟩

/-- The header parser accepts exactly the headers that are well formed. It then returns the fields at their
places and leaves what follows the header. It never asks the buffer for more than there is, and what it
leaves is always a part of it. -/
theorem header_accepted_iff (h : IPv4Header) (b : Buffer) :
    let outcome := (h.parse.run ⟨b, .noError⟩).run
    (outcome.1.1 = .noError ↔ Acceptable b) ∧
      (outcome.1.1 = .noError →
        outcome.1.2 = fieldsAt b ∧ outcome.2 = ⟨b.drop (4 * (hlen b).toNat), .noError⟩) ∧
      outcome.2.error = .noError ∧ outcome.2.buffer <:+ b ∧
      (parseChecked h).run ⟨b, .noError⟩ = some outcome := by
  obtain ⟨result, parsed, rest, run, suffix, accepted, outcome⟩ := parse_outcome h b
  have tested := erases_parse h ⟨b, .noError⟩
  rw [run, Id.run_pure] at tested ⊢
  refine ⟨accepted, ?_, rfl, suffix, tested⟩
  intro good
  obtain ⟨fields, left⟩ := outcome (accepted.mp good)
  exact ⟨fields, by rw [left]⟩

def loopbackHeader : Buffer :=
  [0x45, 0, 0, 20, 0, 0, 0x40, 0, 64, 6, 0x3c, 0xe2, 127, 0, 0, 1, 127, 0, 0, 1]

theorem loopback_acceptable : Acceptable loopbackHeader :=
  ⟨by decide, by decide, by decide, by decide, by decide, by decide +kernel⟩

theorem loopback_accepted :
    let outcome := ((IPv4Header.parse {}).run ⟨loopbackHeader, .noError⟩).run
    outcome.1 = (.noError, fieldsAt loopbackHeader) ∧ outcome.2.buffer = [] := by
  obtain ⟨accepted, parsed, _⟩ := header_accepted_iff {} loopbackHeader
  have good := accepted.mpr loopback_acceptable
  obtain ⟨fields, left⟩ := parsed good
  exact ⟨Prod.ext good fields, by rw [left]; decide⟩

end Sponge.Ipv4Acceptance

import Sponge.SocketLink
import Sponge.TcpOverIpFilter

/-! TCP over IPv4 over a packet device (`util/tun.hh`, `tuntap_adapter.hh`). Here the device is a tunnel, which
takes IPv4 datagrams. -/

namespace Sponge

open FileDescriptor FDWrapper Storage Sponge.Action

/-! ### Packet devices -/

/-- The descriptor of a packet device, and the packets that the kernel has taken from it. -/
structure TunTapFD where
  descriptor : FDWrapper := {}
  packets : List (List Byte) := []
  deriving DecidableEq, Repr

/-- A packet device takes a packet as a whole, or refuses it. -/
def SystemCalls.Packets {Kernel Fd : Type} (sys : SystemCalls Kernel Fd) (fd : Fd) : Prop :=
  ∀ kernel iovecs, (sys.writev fd kernel iovecs).1.returned = -1 ∧ (sys.writev fd kernel iovecs).1.errno ≠ 0 ∨
    (sys.writev fd kernel iovecs).1.returned = iovecs.flatten.length

namespace TunTapFD

variable {Kernel Fd : Type}

/-- `writev`, with a record of the packets. -/
def logged (writev : Writev Kernel) : Writev (Kernel × List (List Byte)) := fun (kernel, packets) iovecs =>
  let call := writev kernel iovecs
  (call.1, call.2,
    if 0 < call.1.returned then packets ++ [iovecs.flatten.take call.1.returned.toNat] else packets)

def device : Focus (Kernel × TunTapFD) (Kernel × FDWrapper) where
  get state := (state.1, state.2.descriptor)
  set part state := (part.1, { state.2 with descriptor := part.2 })

section Definitions

variable (sys : SystemCalls Kernel Fd) (fd : Fd)

def read : Action (Kernel × TunTapFD) Thrown (List Byte) := (FDWrapper.read sys fd (2 ^ 64 - 1)).within device

def write (packet : List Byte) : Action (Kernel × TunTapFD) Thrown Unit := fun (kernel, tap) =>
  let (result, written) := FileDescriptor.write (logged (sys.writev fd)) (.ofString packet) true
    ⟨(kernel, tap.packets), tap.descriptor.handed, tap.descriptor.writeCount⟩
  (result.map fun _ => (), written.world.1,
    { descriptor := { tap.descriptor with handed := written.handed, writeCount := written.writeCount }
      packets := written.world.2 })

end Definitions

variable {sys : SystemCalls Kernel Fd} {fd : Fd} {kernel : Kernel} {tap : TunTapFD}

theorem round_refused {writev : Writev Kernel} {packet : List Byte} {d : Descriptor (Kernel × List (List Byte))}
    (failed : (writev d.world.1 [packet]).1.returned = -1) (errno : (writev d.world.1 [packet]).1.errno ≠ 0) :
    (FileDescriptor.round (logged writev) (.ofString packet) d).1 =
        .error (.unixError "writev" (writev d.world.1 [packet]).1.errno) ∧
      (FileDescriptor.round (logged writev) (.ofString packet) d).2.world.2 = d.world.2 := by
  have answer : (logged writev d.world (BufferViewList.ofString packet).asIovecs).1 =
    (writev d.world.1 [packet]).1 := rfl
  have negative : ¬ (toInt (-1) ≥ 0 ∨ (writev d.world.1 [packet]).1.errno = 0) := by
    rw [not_or]
    exact ⟨by decide, errno⟩
  simp only [FileDescriptor.round, answer, failed, systemCall, if_neg negative, true_and]
  change (if 0 < (writev d.world.1 [packet]).1.returned then _ else d.world.2) = _
  rw [failed]
  rfl

theorem round_taken {writev : Writev Kernel} {packet : List Byte} {d : Descriptor (Kernel × List (List Byte))}
    (taken : (writev d.world.1 [packet]).1.returned = packet.length)
    (limited : (writev d.world.1 [packet]).1.returned ≤ 0x7ffff000) :
    ∃ n rest, (FileDescriptor.round (logged writev) (.ofString packet) d).1 = .ok (n, rest) ∧ rest.size = 0 ∧
      ((FileDescriptor.round (logged writev) (.ofString packet) d).2.world.2 = d.world.2 ∨
        (FileDescriptor.round (logged writev) (.ofString packet) d).2.world.2 = d.world.2 ++ [packet]) := by
  have size : (BufferViewList.ofString packet).size = packet.length := by
    rw [BufferViewList.size_eq, ofString_contents]
  have answer : (logged writev d.world (BufferViewList.ofString packet).asIovecs).1 =
    (writev d.world.1 [packet]).1 := rfl
  obtain ⟨rest, ran, left⟩ := round_of_bounds (.ofString packet) d
    (show 0 ≤ (logged writev d.world _).1.returned by rw [answer]; omega) (by rw [answer]; omega)
    (by rw [answer, size]; omega) (by rw [answer, size]; omega)
  have done : rest.size = 0 := by
    rw [BufferViewList.size_eq, left, ofString_contents, answer, taken, Int.toNat_natCast, List.drop_length]
    rfl
  refine ⟨_, rest, congrArg Prod.fst ran, done, ?_⟩
  have record : (FileDescriptor.round (logged writev) (.ofString packet) d).2.world.2 =
      if 0 < (writev d.world.1 [packet]).1.returned then
        d.world.2 ++ [[packet].flatten.take (writev d.world.1 [packet]).1.returned.toNat]
      else d.world.2 := by
    rw [ran]
    rfl
  rw [record, taken, List.flatten_singleton, Int.toNat_natCast, List.take_length]
  split
  · exact .inr rfl
  · exact .inl rfl

structure Wrote (packet : List Byte) (tap later : TunTapFD) : Prop where
  packets : later.packets = tap.packets ∨ later.packets = tap.packets ++ [packet]
  ages : Ages tap.descriptor later.descriptor
  readCount : later.descriptor.readCount = tap.descriptor.readCount

theorem write_wrote (lawful : sys.Lawful) (whole : sys.Packets fd) (packet : List Byte) (kernel : Kernel)
    (tap : TunTapFD) : Wrote packet tap (write sys fd packet (kernel, tap)).2.2 := by
  refine ⟨?_, ⟨id, id⟩, rfl⟩
  have state : (write sys fd packet (kernel, tap)).2.2.packets =
      (writeLoop (logged (sys.writev fd)) true (.ofString packet) 0
        ⟨(kernel, tap.packets), tap.descriptor.handed, tap.descriptor.writeCount⟩).2.world.2 := rfl
  rw [state]
  rcases whole kernel [packet] with ⟨failed, errno⟩ | taken
  · obtain ⟨thrown, same⟩ := round_refused (d := ⟨(kernel, tap.packets), tap.descriptor.handed,
      tap.descriptor.writeCount⟩) failed errno
    rw [writeLoop_error thrown]
    exact .inl same
  · rw [List.flatten_singleton] at taken
    have limited : (sys.writev fd kernel [packet]).1.returned ≤ 0x7ffff000 := by
      rcases lawful.writev fd kernel [packet] with ⟨failed, _⟩ | ⟨_, _, limited⟩
      · omega
      · exact limited
    obtain ⟨n, rest, ran, done, record⟩ := round_taken (d := ⟨(kernel, tap.packets), tap.descriptor.handed,
      tap.descriptor.writeCount⟩) taken limited
    rw [writeLoop_ok ran, if_neg (not_not.mpr done)]
    exact record

theorem read_answer {d : FDWrapper} {packet : List Byte}
    (returned : (FDWrapper.read sys fd (2 ^ 64 - 1) (kernel, d)).1 = .ok packet) :
    ∃ after, sys.read fd bufferSize kernel = (.ok packet, after) := by
  have size : min bufferSize (2 ^ 64 - 1) = bufferSize := by decide
  unfold FDWrapper.read at returned
  simp only [size] at returned
  split at returned
  case h_1 => cases returned
  case h_2 bytes after answer =>
    split at returned
    · cases returned
    · cases returned
      exact ⟨after, answer⟩

structure Reads (sys : SystemCalls Kernel Fd) (fd : Fd) (kernel : Kernel) (tap : TunTapFD)
    (result : Except Thrown (List Byte)) (later : TunTapFD) : Prop where
  packets : later.packets = tap.packets
  ages : Ages tap.descriptor later.descriptor
  answer : ∀ packet, result = .ok packet → tap.descriptor.readCount < later.descriptor.readCount ∧
    ∃ after, sys.read fd bufferSize kernel = (.ok packet, after)

theorem read_reads (lawful : sys.Lawful) (kernel : Kernel) (tap : TunTapFD) :
    Reads sys fd kernel tap (read sys fd (kernel, tap)).1 (read sys fd (kernel, tap)).2.2 := by
  have got : Got _ tap.descriptor (FDWrapper.read sys fd _ (kernel, tap.descriptor)).1 _ :=
    read_got lawful (2 ^ 64 - 1)
  have answered : ∀ packet, (FDWrapper.read sys fd _ (kernel, tap.descriptor)).1 = .ok packet → _ :=
    fun _ => read_answer
  change Reads sys fd kernel tap (FDWrapper.read sys fd (2 ^ 64 - 1) (kernel, tap.descriptor)).1
    { tap with descriptor := (FDWrapper.read sys fd (2 ^ 64 - 1) (kernel, tap.descriptor)).2.2 }
  generalize (FDWrapper.read sys fd (2 ^ 64 - 1) (kernel, tap.descriptor)).1 = result,
    (FDWrapper.read sys fd (2 ^ 64 - 1) (kernel, tap.descriptor)).2.2 = later at got answered ⊢
  cases got with
  | failed errno =>
      refine ⟨rfl, .refl _, ?_⟩
      intro packet returned
      cases returned
  | bytes bytes fits =>
      refine ⟨rfl, ⟨fun over_ => ?_, id⟩, fun packet returned => ⟨Nat.lt_succ_self _, answered packet returned⟩⟩
      rw [show tap.descriptor.eof = true from over_, Bool.true_or]

theorem reads_of (lawful : sys.Lawful) {result : Except Thrown (List Byte)} {after : Kernel × TunTapFD}
    (ran : read sys fd (kernel, tap) = (result, after)) : Reads sys fd kernel tap result after.2 := by
  have reads : Reads sys fd kernel tap _ _ := read_reads lawful kernel tap
  rw [ran] at reads
  exact reads

end TunTapFD

/-! ### Segments in datagrams -/

/-- A function that reports an error as a text throws it. -/
def orThrow {State Value : Type} (result : Except String Value) : Action State Thrown Value :=
  fun state => (result.mapError .runtimeError, state)

theorem orThrow_meets {State Value : Type} {P : State → Prop} (result : Except String Value) :
    Meets P (orThrow result) (fun value state => P state ∧ result = .ok value) (fun _ state => P state) := by
  cases result with
  | error what =>
      constructor
      · rintro state value after _ ⟨⟩
      · rintro state thrown after holds ⟨⟩
        exact holds
  | ok value =>
      constructor
      · rintro state other after holds ⟨⟩
        exact ⟨holds, rfl⟩
      · rintro state thrown after _ ⟨⟩

theorem mapError_ok {Value : Type} {result : Except String Value} {value : Value}
    (returned : result.mapError Thrown.runtimeError = .ok value) : result = .ok value := by
  cases result with
  | error what => cases returned
  | ok other =>
      cases returned
      rfl

namespace TCPOverIPv4Adapter

def unwrap (inetNtoa : UInt32 → String) (getaddrinfo : String → Option UInt32) (ipDgram : InternetDatagram) :
    Action TCPOverIPv4Adapter Thrown (Option TCPSegment) := fun a =>
  match a.unwrapTcpInIp inetNtoa getaddrinfo ipDgram with
  | .error what => (.error (.runtimeError what), a)
  | .ok (found, a) => (.ok found, a)

def wrap (seg : TCPSegment) : Action TCPOverIPv4Adapter Thrown InternetDatagram := fun a =>
  match a.wrapTcpInIp seg with
  | .error what => (.error (.runtimeError what), a)
  | .ok (dgram, _) => (.ok dgram, a)

end TCPOverIPv4Adapter

namespace Encapsulation

open TCPOverIPv4Adapter NetworkAcks SocketLink

variable {inetNtoa : UInt32 → String} {getaddrinfo : String → Option UInt32} {segments : List TCPSegment}

/-- The datagram wraps one of the segments. -/
def Wraps (segments : List TCPSegment) (dgram : InternetDatagram) : Prop :=
  ∃ seg ∈ segments, ∃ (a : TCPOverIPv4Adapter) (out : TCPSegment), a.wrapTcpInIp seg = .ok (dgram, out)

theorem wrap_shape {a : TCPOverIPv4Adapter} {seg out : TCPSegment} {dgram : InternetDatagram}
    (wrapped : a.wrapTcpInIp seg = .ok (dgram, out)) :
    ∃ src dst payload, dgram = ⟨carrier src dst (a.setPorts seg), payload⟩ ∧
      (a.setPorts seg).serialize (carrier src dst (a.setPorts seg)).pseudoCksum = .ok payload := by
  obtain ⟨src, _, rest⟩ := of_bind_ok wrapped
  obtain ⟨dst, _, rest⟩ := of_bind_ok rest
  obtain ⟨payload, serialized, packed⟩ := of_bind_ok rest
  cases packed
  exact ⟨src, dst, payload, rfl, serialized⟩

theorem wraps_copies (numeric : ∀ ip, getaddrinfo (inetNtoa ip) = some ip)
    (plain : ∀ sent ∈ segments, Plain sent) {dgram : InternetDatagram} (wraps : Wraps segments dgram)
    {out : BufferList} (serialized : dgram.serialize = .ok out) {parsed : InternetDatagram}
    (reads : IPv4Datagram.parse {} out.concatenate = (.noError, parsed)) {a b : TCPOverIPv4Adapter}
    {found : TCPSegment} (unwrapped : a.unwrapTcpInIp inetNtoa getaddrinfo parsed = .ok (some found, b)) :
    ∃ sent ∈ segments, Copies sent found := by
  obtain ⟨seg, member, sender, _, wrapped⟩ := wraps
  obtain ⟨src, dst, payload, rfl, packed⟩ := wrap_shape wrapped
  obtain ⟨doff, bounded⟩ := plain seg member
  have header : (sender.setPorts seg).header.doff = 5 := doff
  have words : (sender.setPorts seg).header.doff.toNat = 5 := by rw [header]; rfl
  have size : (sender.setPorts seg).payload.length ≤ 1000 := bounded
  obtain ⟨written, again, total, segmentReads⟩ := TCPSegment.parse_serialize (s := sender.setPorts seg)
    (by rw [header]; decide) (by rw [header]; decide) (by omega)
    (carrier src dst (sender.setPorts seg)).pseudoCksum_lt {}
  cases packed.symm.trans again
  have formed : IPv4Datagram.WellFormed ⟨carrier src dst (sender.setPorts seg), payload⟩ :=
    carrier_wellFormed (by omega) total
  obtain ⟨bytes, alike, datagramReads, _⟩ := IPv4Datagram.parse_serialize formed {}
  cases serialized.symm.trans alike
  -- from here on only the places of the two checksums matter, not their values
  obtain ⟨cksum, filled⟩ : ∃ cksum, (sender.setPorts seg).sealed
      (carrier src dst (sender.setPorts seg)).pseudoCksum = (sender.setPorts seg).header.setCksum cksum := ⟨_, rfl⟩
  obtain ⟨ipCksum, ipFilled⟩ : ∃ ipCksum, IPv4Datagram.sealed ⟨carrier src dst (sender.setPorts seg), payload⟩ =
      (carrier src dst (sender.setPorts seg)).setCksum ipCksum := ⟨_, rfl⟩
  rw [filled] at segmentReads
  rw [datagramReads, ipFilled] at reads
  cases reads
  have outcome := TcpOverIpFilter.unwrap_unwrapped numeric a
    ((carrier src dst (sender.setPorts seg)).setCksum ipCksum) payload.concatenate
  rw [unwrapped] at outcome
  cases outcome with
  | taken belongs request same =>
      cases segmentReads.symm.trans belongs.parsed
      exact ⟨seg, member, ⟨rfl, rfl, rfl, rfl⟩, rfl, rfl⟩

theorem Wraps.more {others : List TCPSegment} (included : segments ⊆ others) {dgram : InternetDatagram}
    (wraps : Wraps segments dgram) : Wraps others dgram :=
  wraps.imp fun _ wrapped => ⟨included wrapped.1, wrapped.2⟩

theorem wrap_wraps {World : Type} {focus : Focus World TCPOverIPv4Adapter}
    (back : ∀ world, focus.set (focus.get world) world = world) {P : World → Prop} (seg : TCPSegment) :
    Meets P ((TCPOverIPv4Adapter.wrap seg).within focus)
      (fun dgram world => P world ∧ Wraps [seg] dgram) (fun _ world => P world) := by
  have shape : ∀ a : TCPOverIPv4Adapter, (TCPOverIPv4Adapter.wrap seg a).2 = a ∧
      ∀ dgram, (TCPOverIPv4Adapter.wrap seg a).1 = .ok dgram → Wraps [seg] dgram := by
    intro a
    unfold TCPOverIPv4Adapter.wrap
    split
    case h_1 => exact ⟨rfl, fun _ returned => by cases returned⟩
    case h_2 dgram out made =>
      refine ⟨rfl, ?_⟩
      intro other returned
      cases returned
      exact ⟨seg, List.mem_singleton_self seg, a, out, made⟩
  refine .within ?_ ?_
  · intro world dgram part holds ran
    obtain ⟨same, fine⟩ := shape (focus.get world)
    rw [ran] at same fine
    rw [show part = focus.get world from same, back]
    exact ⟨holds, fine dgram rfl⟩
  · intro world thrown part holds ran
    obtain ⟨same, _⟩ := shape (focus.get world)
    rw [ran] at same
    rw [show part = focus.get world from same, back]
    exact holds

def Parsed (segments : List TCPSegment) (dgram : InternetDatagram) : Prop :=
  ∃ wrapped out, Wraps segments wrapped ∧ wrapped.serialize = .ok out ∧
    IPv4Datagram.parse {} out.concatenate = (.noError, dgram)

theorem unwrap_copies (numeric : ∀ ip, getaddrinfo (inetNtoa ip) = some ip)
    (plain : ∀ sent ∈ segments, Plain sent) {dgram : InternetDatagram} (parsed : Parsed segments dgram)
    {a : TCPOverIPv4Adapter} {seg : TCPSegment}
    (unwrapped : (TCPOverIPv4Adapter.unwrap inetNtoa getaddrinfo dgram a).1 = .ok (some seg)) :
    ∃ sent ∈ segments, Copies sent seg := by
  obtain ⟨wrapped, out, wraps, serialized, reads⟩ := parsed
  unfold TCPOverIPv4Adapter.unwrap at unwrapped
  split at unwrapped
  case h_1 => cases unwrapped
  case h_2 found later taken =>
    cases unwrapped
    exact wraps_copies numeric plain wraps serialized reads taken

end Encapsulation

/-! ### The tunnel -/

structure TCPOverIPv4OverTunFdAdapter where
  tun : TunTapFD := {}
  ip : TCPOverIPv4Adapter
  deriving DecidableEq, Repr

namespace TCPOverIPv4OverTunFdAdapter

section Definitions

variable {Kernel Fd : Type} (sys : SystemCalls Kernel Fd) (fd : Fd) (inetNtoa : UInt32 → String)
  (getaddrinfo : String → Option UInt32)

def tunPart : Focus (Kernel × TCPOverIPv4OverTunFdAdapter) (Kernel × TunTapFD) where
  get state := (state.1, state.2.tun)
  set part state := (part.1, { state.2 with tun := part.2 })

def ipPart : Focus (Kernel × TCPOverIPv4OverTunFdAdapter) TCPOverIPv4Adapter where
  get state := state.2.ip
  set part state := (state.1, { state.2 with ip := part })

def handle (packet : List Byte) : Action (Kernel × TCPOverIPv4OverTunFdAdapter) Thrown (Option TCPSegment) :=
  match IPv4Datagram.parse {} packet with
  | (.noError, ipDgram) => (TCPOverIPv4Adapter.unwrap inetNtoa getaddrinfo ipDgram).within ipPart
  | _ => pure none

def read : Action (Kernel × TCPOverIPv4OverTunFdAdapter) Thrown (Option TCPSegment) := do
  handle inetNtoa getaddrinfo (← (TunTapFD.read sys fd).within tunPart)

def write (seg : TCPSegment) : Action (Kernel × TCPOverIPv4OverTunFdAdapter) Thrown Unit := do
  let ipDgram ← (TCPOverIPv4Adapter.wrap seg).within ipPart
  let packet ← orThrow ipDgram.serialize
  (TunTapFD.write sys fd packet.concatenate).within tunPart

def adapter : DatagramAdapter Kernel TCPOverIPv4OverTunFdAdapter where
  descriptor a := a.tun.descriptor
  read := read sys fd inetNtoa getaddrinfo
  write := write sys fd
  tick _ := pure ()

end Definitions

variable {Kernel Fd : Type} {sys : SystemCalls Kernel Fd} {fd : Fd} {inetNtoa : UInt32 → String}
  {getaddrinfo : String → Option UInt32} {P : TunTapFD → Prop}

theorem handle_keeps (packet : List Byte) :
    Keeps (fun state : Kernel × _ => P state.2.tun) (handle inetNtoa getaddrinfo packet) := by
  unfold handle
  split
  · exact .within fun _ holds => holds
  · exact .pure fun _ holds => holds

theorem read_keeps (received : ∀ kernel tun, P tun → P (TunTapFD.read sys fd (kernel, tun)).2.2) :
    Keeps (fun state : Kernel × _ => P state.2.tun) (read sys fd inetNtoa getaddrinfo) :=
  .bind (.within fun _ holds => received _ _ holds) handle_keeps

theorem write_keeps (lawful : sys.Lawful) (whole : sys.Packets fd) (seg : TCPSegment)
    (sent : ∀ {tun later dgram out}, Encapsulation.Wraps [seg] dgram → dgram.serialize = .ok out →
      TunTapFD.Wrote out.concatenate tun later → P tun → P later) :
    Keeps (fun state : Kernel × _ => P state.2.tun) (write sys fd seg) :=
  Meets.bind (Encapsulation.wrap_wraps (fun _ => rfl) seg) fun _ => .given fun wraps =>
    Meets.bind (orThrow_meets _) fun _ => .given fun serialized =>
      Keeps.within fun _ holds => sent wraps serialized (TunTapFD.write_wrote lawful whole _ _ _) holds

theorem adapter_lawful (lawful : sys.Lawful) (whole : sys.Packets fd) :
    (adapter sys fd inetNtoa getaddrinfo).Lawful where
  read kernel a found after returned := by
    have counted : Meets (fun state => state = (kernel, a)) (read sys fd inetNtoa getaddrinfo)
        (fun _ state => a.tun.descriptor.readCount < state.2.tun.descriptor.readCount) (fun _ _ => True) := by
      refine .bind (Q := fun _ state => a.tun.descriptor.readCount < state.2.tun.descriptor.readCount)
        (.within ?_ fun _ _ _ _ _ => trivial) fun packet =>
          (handle_keeps (P := fun tun => a.tun.descriptor.readCount < tun.descriptor.readCount) packet).imp
            (fun _ => id) (fun _ _ => id) fun _ _ _ => trivial
      rintro state packet part rfl ran
      exact ((TunTapFD.reads_of lawful ran).answer packet rfl).1
    exact counted.returns rfl returned
  readAges before :=
    (read_keeps (P := fun tun => Ages before.2.tun.descriptor tun.descriptor)
      fun kernel tun holds => Ages.trans holds (TunTapFD.read_reads lawful kernel tun).ages).after (.refl _)
  writeAges seg before :=
    (write_keeps (P := fun tun => Ages before.2.tun.descriptor tun.descriptor) lawful whole seg
      fun _ _ wrote holds => Ages.trans holds wrote.ages).after (.refl _)
  tickAges _ _ := .refl _

end TCPOverIPv4OverTunFdAdapter

/-! ### Two sockets over a tunnel -/

namespace TunPair

open TCPOverIPv4OverTunFdAdapter Encapsulation LossyFdAdapter Network NetworkAcks SocketPair SocketLink SpongeSocket
  Transition

section Link

variable {Kernel Fd : Type} {sys : SystemCalls Kernel Fd} {fd : Fd} {inetNtoa : UInt32 → String}
  {getaddrinfo : String → Option UInt32} {segments : List TCPSegment}

def Carries (segments : List TCPSegment) (packet : List Byte) : Prop :=
  ∃ dgram out, Wraps segments dgram ∧ dgram.serialize = .ok out ∧ packet = out.concatenate

/-- All that is on the wire wraps one of the segments. -/
def Conveys (segments : List TCPSegment) (tun : TunTapFD) : Prop := ∀ packet ∈ tun.packets, Carries segments packet

theorem Conveys.more {others : List TCPSegment} (included : segments ⊆ others) {tun : TunTapFD}
    (conveys : Conveys segments tun) : Conveys others tun := by
  intro packet member
  obtain ⟨dgram, out, wraps, packed⟩ := conveys packet member
  exact ⟨dgram, out, wraps.more included, packed⟩

theorem read_conveys (lawful : sys.Lawful) :
    Keeps (fun state : Kernel × _ => Conveys segments state.2.tun) (read sys fd inetNtoa getaddrinfo) := by
  refine read_keeps ?_
  intro kernel tun conveys
  unfold Conveys
  rw [(TunTapFD.read_reads lawful kernel tun).packets]
  exact conveys

theorem write_conveys (lawful : sys.Lawful) (whole : sys.Packets fd) {seg : TCPSegment} (member : seg ∈ segments) :
    Keeps (fun state : Kernel × _ => Conveys segments state.2.tun) (write sys fd seg) := by
  refine write_keeps lawful whole seg ?_
  intro tun later dgram out wraps serialized wrote conveys
  unfold Conveys
  rcases wrote.packets with same | added
  · rw [same]
    exact conveys
  · rw [added]
    exact List.forall_mem_append.mpr ⟨conveys, List.forall_mem_singleton.mpr
      ⟨dgram, out, wraps.more (List.cons_subset.mpr ⟨member, List.nil_subset _⟩), serialized, rfl⟩⟩

/-- A packet that was written by the peer, or one that is no datagram. -/
def FromWire (peer : TunTapFD) (packet : List Byte) : Prop :=
  packet ∈ peer.packets ∨ (IPv4Datagram.parse {} packet).1 ≠ .noError

theorem handle_copies (numeric : ∀ ip, getaddrinfo (inetNtoa ip) = some ip)
    (plain : ∀ sent ∈ segments, Plain sent) {peer : TunTapFD} (conveys : Conveys segments peer)
    (packet : List Byte) :
    Meets (fun _ : Kernel × _ => FromWire peer packet) (handle inetNtoa getaddrinfo packet)
      (fun found _ => ∀ seg, found = some seg → ∃ sent ∈ segments, Copies sent seg) (fun _ _ => True) := by
  unfold handle
  split
  case h_1 ipDgram parsed =>
    refine .within ?_ fun _ _ _ _ _ => trivial
    rintro state _ part fromWire ran seg rfl
    rcases fromWire with member | other
    · obtain ⟨dgram, out, wraps, serialized, rfl⟩ := conveys packet member
      exact unwrap_copies numeric plain ⟨dgram, out, wraps, serialized, parsed⟩ (congrArg Prod.fst ran)
    · exact (other (congrArg Prod.fst parsed)).elim
  case h_2 =>
    refine .pure fun _ _ seg absent => ?_
    cases absent

theorem read_copies (lawful : sys.Lawful) (numeric : ∀ ip, getaddrinfo (inetNtoa ip) = some ip)
    (plain : ∀ sent ∈ segments, Plain sent) {peer : TunTapFD} (conveys : Conveys segments peer)
    {before : Kernel × TCPOverIPv4OverTunFdAdapter}
    (finds : ∀ packet after, sys.read fd bufferSize before.1 = (.ok packet, after) → FromWire peer packet)
    {seg : TCPSegment} (returned : (read sys fd inetNtoa getaddrinfo before).1 = .ok (some seg)) :
    ∃ sent ∈ segments, Copies sent seg := by
  have meets : Meets (fun state => state = before) (read sys fd inetNtoa getaddrinfo)
      (fun found _ => ∀ seg, found = some seg → ∃ sent ∈ segments, Copies sent seg) (fun _ _ => True) := by
    refine .bind (.within ?_ fun _ _ _ _ _ => trivial) (handle_copies numeric plain conveys)
    rintro state packet part rfl ran
    obtain ⟨after, answer⟩ := ((TunTapFD.reads_of lawful ran).answer packet rfl).2
    exact finds packet after answer
  exact meets.returns rfl (Prod.ext returned rfl) seg rfl

end Link

section Sockets

variable {Kernel Generator : Type} (env : Side → Environment Kernel) (inetNtoa : UInt32 → String)
  (getaddrinfo : String → Option UInt32)

abbrev tunnel (side : Side) : DatagramAdapter Kernel TCPOverIPv4OverTunFdAdapter :=
  adapter (env side).toSystemCalls .datagrams inetNtoa getaddrinfo

variable {env inetNtoa getaddrinfo}

/-- Two tunnels with one wire between them. -/
def tunLink (lawful : ∀ side, (env side).toSystemCalls.Lawful)
    (whole : ∀ side, (env side).toSystemCalls.Packets .datagrams)
    (numeric : ∀ ip, getaddrinfo (inetNtoa ip) = some ip) : Link (tunnel env inetNtoa getaddrinfo) where
  Sends _ a segments := Conveys segments a.tun
  Finds side before peer := ∀ packet after,
    (env side).toSystemCalls.read .datagrams bufferSize before.1 = (.ok packet, after) → FromWire peer.tun packet
  more included conveys := conveys.more included
  read {side _ _ _} _ conveys := (read_conveys (lawful side)).after conveys
  write {side _ _ _} member conveys := (write_conveys (lawful side) (whole side) member).after conveys
  tick _ conveys := conveys
  conveyed {side _ _ _ _ _} plain conveys _ finds returned :=
    read_copies (lawful side) numeric plain conveys finds returned

abbrev lossyTunnel (random : Generator → UInt32 × Generator) (env : Side → Environment Kernel)
    (inetNtoa : UInt32 → String) (getaddrinfo : String → Option UInt32) (side : Side) :
    DatagramAdapter Kernel (LossyFdAdapter Generator TCPOverIPv4OverTunFdAdapter) :=
  lossy random (tunnel env inetNtoa getaddrinfo side)

def Arrives (env : Side → Environment Kernel)
    (sockets : Sockets Kernel (LossyFdAdapter Generator TCPOverIPv4OverTunFdAdapter)) (side : Side) : Prop :=
  ∀ packet after,
    (env side).toSystemCalls.read .datagrams bufferSize (sockets side).world.kernel = (.ok packet, after) →
      FromWire (sockets side.other).world.datagramAdapter.adapter.tun packet

/-- Two sockets over tunnels lose no byte, also when their adapters lose segments at random. -/
theorem tun_conserves_bytes (lawful : ∀ side, (env side).toSystemCalls.Lawful)
    (whole : ∀ side, (env side).toSystemCalls.Packets .datagrams)
    (numeric : ∀ ip, getaddrinfo (inetNtoa ip) = some ip) (random : Generator → UInt32 × Generator)
    {opening : Side → Opening} {kernel : Side → Kernel}
    {state : Side → LossyFdAdapter Generator TCPOverIPv4OverTunFdAdapter}
    (silent : ∀ side, (state side).adapter.tun.packets = []) {cfg : Side → TCPConfig}
    {randomIsn : Side → WrappingInt32}
    {sockets : Sockets Kernel (LossyFdAdapter Generator TCPOverIPv4OverTunFdAdapter)}
    (reached : Reachable (SocketPair.step env (lossyTunnel random env inetNtoa getaddrinfo))
      (AllowedIf env (lossyTunnel random env inetNtoa getaddrinfo) (Arrives env))
      (SocketPair.start opening kernel state cfg randomIsn) sockets) (side : Side) :
    Conserved (sockets side).world (sockets side.other).world := by
  refine link_conserved lawful (fun side => lossy_lawful random (adapter_lawful (lawful side) (whole side)))
    (lossyLink random (tunLink lawful whole numeric)) ?_ reached side
  intro side
  change Conveys [] (state side).adapter.tun
  unfold Conveys
  rw [silent side]
  exact List.forall_mem_nil _

end Sockets

/-! ### A lossy tunnel -/

def packetwise : Environment (Script (List Byte)) where
  read
    | .threadData, size, kernel =>
        (.ok (kernel.typed.take size), { kernel with typed := kernel.typed.drop size })
    | .datagrams, size, kernel =>
        match kernel.answers with
        | [] => (.error 11, kernel)
        | packet :: rest => (.ok (packet.take size), { kernel with answers := rest })
  writev _ kernel iovecs :=
    (if iovecs.flatten.length ≤ 0x7ffff000 then ⟨iovecs.flatten.length, 0⟩ else ⟨-1, 90⟩, kernel)
  shutdown _ _ kernel := (.ok (), kernel)
  close _ kernel := (.ok (), kernel)
  poll pollfds _ kernel := (.ok (pollfds.length, pollfds.map PollFd.events), kernel)
  timestampMs _ := 0
  abort _ := false

theorem packetwise_lawful : packetwise.toSystemCalls.Lawful where
  read fd size kernel bytes after answer := by
    cases fd with
    | threadData =>
        cases answer
        exact List.length_take_le _ _
    | datagrams =>
        simp only [packetwise] at answer
        split at answer
        · cases answer
        · cases answer
          exact List.length_take_le _ _
  writev fd kernel iovecs := by
    simp only [packetwise]
    split
    · right
      dsimp only
      omega
    · left
      decide

theorem packetwise_packets : packetwise.toSystemCalls.Packets .datagrams := by
  intro kernel iovecs
  simp only [packetwise]
  split
  · exact .inr rfl
  · left
    decide

def setUp : Side → TCPOverIPv4Adapter
  | .left => TCPOverIPv4Adapter.client
  | .right => TCPOverIPv4Adapter.server

def datagram (side : Side) (seg : TCPSegment) : Option BufferList :=
  let sender : TCPOverIPv4Adapter := match side with
    | .left => .client
    | .right => ⟨⟨TCPOverIPv4Adapter.client.config.destination, TCPOverIPv4Adapter.client.config.source⟩, false⟩
  match sender.wrapTcpInIp seg with
  | .error _ => none
  | .ok (dgram, _) => dgram.serialize.toOption

def packet (side : Side) (seg : TCPSegment) : List Byte := ((datagram side seg).map BufferList.concatenate).getD []

def leftTun : Script (List Byte) where
  typed := [1, 2, 3]
  answers :=
    [packet .right
      { header := { seqno := ⟨9⟩, ackno := ⟨6⟩, syn := true, ack := true, win := 8 }, payload := [] }]

def rightTun : Script (List Byte) where
  typed := []
  answers :=
    [packet .left { header := { seqno := ⟨5⟩, syn := true, win := 8 }, payload := [] },
      packet .left { header := { seqno := ⟨5⟩, syn := true, win := 8 }, payload := [] },
      packet .left { header := { seqno := ⟨6⟩, ackno := ⟨10⟩, ack := true, win := 8 }, payload := [1, 2, 3] }]

abbrev Tunnels := Sockets (Script (List Byte)) (LossyFdAdapter UInt32 TCPOverIPv4OverTunFdAdapter)

def nextRandom (state : UInt32) : UInt32 × UInt32 := (state, state + 1)

def tunStart : Tunnels :=
  SocketPair.start (fun | .left => .connect | .right => .listenAndAccept)
    (fun | .left => leftTun | .right => rightTun)
    (fun side => ⟨0, match side with | .left => 0 | .right => 1, 0, { ip := setUp side }⟩)
    (fun _ => tinyConfig) (fun | .left => ⟨5⟩ | .right => ⟨9⟩)

abbrev lossyTunnels : Side → DatagramAdapter (Script (List Byte)) (LossyFdAdapter UInt32 TCPOverIPv4OverTunFdAdapter) :=
  lossyTunnel nextRandom (fun _ => packetwise) TCPOverIPv4Adapter.printed TCPOverIPv4Adapter.scanned

abbrev tunStep : Tunnels → Side × Flow → Tunnels := callStep (fun _ => packetwise) lossyTunnels

def tunCalls : List (Side × Flow) :=
  [(.left, .toDatagrams), (.right, .fromDatagrams), (.right, .fromDatagrams), (.right, .toDatagrams),
    (.left, .fromDatagrams), (.left, .fromOwner), (.left, .toDatagrams), (.right, .fromDatagrams),
    (.right, .toOwner)]

def Delivered (sockets : Tunnels) (side : Side) : Prop :=
  ∀ packet ∈ (sockets side).world.kernel.answers.head?,
    packet.take bufferSize ∈ (sockets side.other).world.datagramAdapter.adapter.tun.packets

instance (sockets : Tunnels) (side : Side) : Decidable (Delivered sockets side) :=
  inferInstanceAs (Decidable (∀ packet ∈ (sockets side).world.kernel.answers.head?,
    packet.take bufferSize ∈ (sockets side.other).world.datagramAdapter.adapter.tun.packets))

theorem packetwise_read {kernel after : Script (List Byte)} {size : Nat} {bytes : List Byte}
    (answer : packetwise.toSystemCalls.read .datagrams size kernel = (.ok bytes, after)) :
    ∃ packet ∈ kernel.answers.head?, bytes = packet.take size := by
  simp only [packetwise] at answer
  split at answer
  case h_1 => cases answer
  case h_2 packet _ next =>
    cases answer
    refine ⟨packet, ?_, rfl⟩
    rw [next]
    rfl

theorem delivered_arrives (sockets : Tunnels) (side : Side) (delivered : Delivered sockets side) :
    Arrives (fun _ => packetwise) sockets side := by
  intro bytes after answer
  obtain ⟨packet, next, rfl⟩ := packetwise_read answer
  exact .inl (delivered packet next)

theorem lost_request_repeated :
    (tunCalls.foldl tunStep tunStart .right).world.threadData.handed = [1, 2, 3] ∧
      Conserved (tunCalls.foldl tunStep tunStart .left).world
        (tunCalls.foldl tunStep tunStart Side.left.other).world := by
  refine ⟨by decide +kernel, ?_⟩
  have reached := calls_reachable delivered_arrives (reachable_run tunCalls
    (show AllowedRun tunStep (Called (fun _ => packetwise) lossyTunnels Delivered) tunStart tunCalls by
      decide +kernel))
  unfold tunStart at reached ⊢
  exact tun_conserves_bytes (fun _ => packetwise_lawful) (fun _ => packetwise_packets)
    TCPOverIPv4Adapter.scanned_printed nextRandom (fun side => by cases side <;> rfl) reached .left

end TunPair
end Sponge

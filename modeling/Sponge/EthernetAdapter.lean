import Sponge.InterfaceEffects
import Sponge.TunAdapter

/-! TCP over IPv4 over Ethernet (`tuntap_adapter.hh`, `tuntap_adapter.cc`): a sponge socket behind a network
interface, which asks for the address of the next hop before it sends anything there. -/

namespace Sponge

open FileDescriptor FDWrapper Sponge.Action

structure TCPOverIPv4OverEthernetAdapter where
  tap : TunTapFD
  interface : NetworkInterface
  nextHop : Address
  ip : TCPOverIPv4Adapter

namespace TCPOverIPv4OverEthernetAdapter

section Definitions

variable {Kernel Fd : Type} (sys : SystemCalls Kernel Fd) (fd : Fd) (inetNtoa : UInt32 → String)
  (getaddrinfo : String → Option UInt32)

def tapPart : Focus (Kernel × TCPOverIPv4OverEthernetAdapter) (Kernel × TunTapFD) where
  get state := (state.1, state.2.tap)
  set part state := (part.1, { state.2 with tap := part.2 })

def ipPart : Focus (Kernel × TCPOverIPv4OverEthernetAdapter) TCPOverIPv4Adapter where
  get state := state.2.ip
  set part state := (state.1, { state.2 with ip := part })

def interfacePart : Focus (Kernel × TCPOverIPv4OverEthernetAdapter) NetworkInterface where
  get state := state.2.interface
  set part state := (state.1, { state.2 with interface := part })

def onInterface {Value : Type} (call : NetworkInterface → Except String Value × NetworkInterface) :
    Action (Kernel × TCPOverIPv4OverEthernetAdapter) Thrown Value :=
  Action.within interfacePart fun i => ((call i).1.mapError .runtimeError, (call i).2)

/-- The constructor, which writes an empty frame; the interface has the default configuration afterwards. -/
def create (ethAddress : EthernetAddress) (ipAddress nextHop : Address) (ip : TCPOverIPv4Adapter) :
    Action (Kernel × TunTapFD) Thrown TCPOverIPv4OverEthernetAdapter := do
  TunTapFD.write sys fd (EthernetFrame.serialize {}).concatenate
  gets fun state => { tap := state.2, interface := { ethernetAddress := ethAddress, ipAddress }, nextHop, ip }

def sendAll : List EthernetFrame → Action (Kernel × TCPOverIPv4OverEthernetAdapter) Thrown Unit
  | [] => pure ()
  | frame :: rest => do
      (TunTapFD.write sys fd frame.serialize.concatenate).within tapPart
      alter fun state =>
        (state.1, { state.2 with interface := { state.2.interface with framesOut := rest } })
      sendAll rest

def sendPending : Action (Kernel × TCPOverIPv4OverEthernetAdapter) Thrown Unit := do
  sendAll sys fd (← gets fun state => state.2.interface.framesOut)

def hand : Option InternetDatagram → Action (Kernel × TCPOverIPv4OverEthernetAdapter) Thrown (Option TCPSegment)
  | some ipDgram => (TCPOverIPv4Adapter.unwrap inetNtoa getaddrinfo ipDgram).within ipPart
  | none => pure none

def handle (packet : List Byte) : Action (Kernel × TCPOverIPv4OverEthernetAdapter) Thrown (Option TCPSegment) :=
  match EthernetFrame.parse {} packet with
  | (.noError, frame) => do
      let ipDgram ← onInterface fun i => i.recvFrame frame
      sendPending sys fd
      hand inetNtoa getaddrinfo ipDgram
  | _ => pure none

def read : Action (Kernel × TCPOverIPv4OverEthernetAdapter) Thrown (Option TCPSegment) := do
  handle sys fd inetNtoa getaddrinfo (← (TunTapFD.read sys fd).within tapPart)

def tick (msSinceLastTick : UInt64) : Action (Kernel × TCPOverIPv4OverEthernetAdapter) Thrown Unit := do
  onInterface fun i => i.tick msSinceLastTick.toNat
  sendPending sys fd

def write (seg : TCPSegment) : Action (Kernel × TCPOverIPv4OverEthernetAdapter) Thrown Unit := do
  let ipDgram ← (TCPOverIPv4Adapter.wrap seg).within ipPart
  let nextHop ← gets fun state => state.2.nextHop
  onInterface fun i => i.sendDatagram ipDgram nextHop
  sendPending sys fd

def adapter : DatagramAdapter Kernel TCPOverIPv4OverEthernetAdapter where
  descriptor a := a.tap.descriptor
  read := read sys fd inetNtoa getaddrinfo
  write := write sys fd
  tick := tick sys fd

end Definitions

/-! ### What the calls keep -/

variable {Kernel Fd : Type} {sys : SystemCalls Kernel Fd} {fd : Fd} {inetNtoa : UInt32 → String}
  {getaddrinfo : String → Option UInt32} {P : TCPOverIPv4OverEthernetAdapter → Prop}

/-- A property that survives sending the frames of the interface and a change of the addresses. -/
structure Stable (P : TCPOverIPv4OverEthernetAdapter → Prop) : Prop where
  sent : ∀ {a tap frame}, frame ∈ a.interface.framesOut →
    TunTapFD.Wrote frame.serialize.concatenate a.tap tap → P a → P { a with tap := tap }
  popped : ∀ {a frames}, frames ⊆ a.interface.framesOut → P a →
    P { a with interface := { a.interface with framesOut := frames } }
  addressed : ∀ {a ip}, P a → P { a with ip := ip }

theorem sendAll_keeps (lawful : sys.Lawful) (whole : sys.Packets fd) (stable : Stable P)
    (frames : List EthernetFrame) :
    Meets (fun state : Kernel × _ => P state.2 ∧ state.2.interface.framesOut = frames) (sendAll sys fd frames)
      (fun _ state => P state.2) (fun _ state => P state.2) := by
  induction frames with
  | nil => exact .pure fun _ holds => holds.1
  | cons frame rest ih =>
      have wrote : ∀ state : Kernel × TCPOverIPv4OverEthernetAdapter, P state.2 →
          state.2.interface.framesOut = frame :: rest →
          P { state.2 with tap :=
            (TunTapFD.write sys fd frame.serialize.concatenate (state.1, state.2.tap)).2.2 } := by
        intro state holds queue
        exact stable.sent (queue ▸ List.mem_cons_self) (TunTapFD.write_wrote lawful whole _ _ _) holds
      refine .bind (Q := fun _ state => P state.2 ∧ state.2.interface.framesOut = frame :: rest)
        (.within ?_ ?_) fun _ => .bind (.alter ?_) fun _ => ih
      · intro state _ part holds ran
        refine ⟨?_, holds.2⟩
        have later := wrote state holds.1 holds.2
        rw [show TunTapFD.write sys fd _ (state.1, state.2.tap) = _ from ran] at later
        exact later
      · intro state _ part holds ran
        have later := wrote state holds.1 holds.2
        rw [show TunTapFD.write sys fd _ (state.1, state.2.tap) = _ from ran] at later
        exact later
      · rintro state ⟨holds, queue⟩
        exact ⟨stable.popped (queue ▸ List.subset_cons_self _ _) holds, rfl⟩

theorem sendPending_keeps (lawful : sys.Lawful) (whole : sys.Packets fd) (stable : Stable P) :
    Keeps (fun state : Kernel × _ => P state.2) (sendPending sys fd) :=
  Meets.bind (.gets fun _ holds => ⟨holds, rfl⟩) fun frames => sendAll_keeps lawful whole stable frames

theorem onInterface_keeps {Value : Type} {call : NetworkInterface → Except String Value × NetworkInterface}
    (operated : ∀ {a}, P a → P { a with interface := (call a.interface).2 }) :
    Keeps (fun state : Kernel × _ => P state.2) (onInterface call) :=
  .within fun _ holds => operated holds

theorem hand_keeps (stable : Stable P) (ipDgram : Option InternetDatagram) :
    Keeps (fun state : Kernel × _ => P state.2) (hand inetNtoa getaddrinfo ipDgram) := by
  cases ipDgram with
  | none => exact .pure fun _ holds => holds
  | some ipDgram => exact .within fun state holds => stable.addressed holds

theorem handle_keeps (lawful : sys.Lawful) (whole : sys.Packets fd) (stable : Stable P)
    (operated : ∀ {a} frame, P a → P { a with interface := (a.interface.recvFrame frame).2 })
    (packet : List Byte) :
    Keeps (fun state : Kernel × _ => P state.2) (handle sys fd inetNtoa getaddrinfo packet) := by
  unfold handle
  split
  · exact .bind (onInterface_keeps (operated _)) fun ipDgram =>
      .bind (sendPending_keeps lawful whole stable) fun _ => hand_keeps stable ipDgram
  · exact .pure fun _ holds => holds

theorem tick_keeps (lawful : sys.Lawful) (whole : sys.Packets fd) (stable : Stable P) (ms : UInt64)
    (operated : ∀ {a}, P a → P { a with interface := (a.interface.tick ms.toNat).2 }) :
    Keeps (fun state : Kernel × _ => P state.2) (tick sys fd ms) :=
  .bind (onInterface_keeps operated) fun _ => sendPending_keeps lawful whole stable

theorem write_keeps (lawful : sys.Lawful) (whole : sys.Packets fd) (stable : Stable P) (seg : TCPSegment)
    (operated : ∀ {a dgram} (nextHop : Address), Encapsulation.Wraps [seg] dgram → P a →
      P { a with interface := (a.interface.sendDatagram dgram nextHop).2 }) :
    Keeps (fun state : Kernel × _ => P state.2) (write sys fd seg) := by
  refine Meets.bind (Encapsulation.wrap_wraps (fun _ => rfl) seg) fun dgram => .given fun wraps => ?_
  change Keeps (fun state : Kernel × _ => P state.2) _
  exact .bind (.gets _) fun nextHop =>
    .bind (onInterface_keeps (operated nextHop wraps)) fun _ => sendPending_keeps lawful whole stable

/-! ### The descriptor -/

theorem ages_stable (d : FDWrapper) : Stable fun a => Ages d a.tap.descriptor where
  sent _ wrote holds := holds.trans wrote.ages
  popped _ holds := holds
  addressed holds := holds

theorem counted_stable (n : Nat) : Stable fun a => n < a.tap.descriptor.readCount where
  sent _ wrote holds := by rw [wrote.readCount]; exact holds
  popped _ holds := holds
  addressed holds := holds

theorem adapter_lawful (lawful : sys.Lawful) (whole : sys.Packets fd) :
    (adapter sys fd inetNtoa getaddrinfo).Lawful where
  read kernel a found after returned := by
    have counted : Meets (fun state => state = (kernel, a)) (read sys fd inetNtoa getaddrinfo)
        (fun _ state => a.tap.descriptor.readCount < state.2.tap.descriptor.readCount) (fun _ _ => True) := by
      refine .bind (Q := fun _ state => a.tap.descriptor.readCount < state.2.tap.descriptor.readCount)
        (.within ?_ ?_) fun packet => ?_
      · rintro state packet part rfl ran
        exact ((TunTapFD.reads_of lawful ran).answer packet rfl).1
      · intro _ _ _ _ _
        trivial
      · exact (handle_keeps lawful whole (counted_stable _) (fun _ holds => holds) packet).imp (fun _ => id)
          (fun _ _ => id) fun _ _ _ => trivial
    exact counted.returns rfl returned
  readAges before := by
    have kept : Keeps (fun state => Ages before.2.tap.descriptor state.2.tap.descriptor)
        (read sys fd inetNtoa getaddrinfo) :=
      .bind (.within fun state holds => Ages.trans holds (TunTapFD.read_reads lawful state.1 state.2.tap).ages)
        fun packet => handle_keeps lawful whole (ages_stable _) (fun _ holds => holds) packet
    exact kept.after (.refl _)
  writeAges seg before :=
    (write_keeps lawful whole (ages_stable before.2.tap.descriptor) seg fun _ _ holds => holds).after (.refl _)
  tickAges ms before :=
    (tick_keeps lawful whole (ages_stable before.2.tap.descriptor) ms fun holds => holds).after (.refl _)

end TCPOverIPv4OverEthernetAdapter

/-! ### Two sockets on one Ethernet -/

namespace EthernetPair

open Encapsulation TCPOverIPv4OverEthernetAdapter InterfaceEffects Network NetworkAcks SocketPair SocketLink
  SpongeSocket Transition

section Link

variable {Kernel Fd : Type} {sys : SystemCalls Kernel Fd} {fd : Fd} {inetNtoa : UInt32 → String}
  {getaddrinfo : String → Option UInt32} {segments : List TCPSegment}

def Frames (segments : List TCPSegment) (packet : List Byte) : Prop :=
  ∃ frame, Framed (Wraps segments) frame ∧ packet = frame.serialize.concatenate

/-- All datagrams in the adapter and on the wire wrap one of the segments. -/
structure Conveys (segments : List TCPSegment) (a : TCPOverIPv4OverEthernetAdapter) : Prop where
  packets : ∀ packet ∈ a.tap.packets, Frames segments packet
  holding : Holding (Wraps segments) a.interface

theorem Conveys.more {others : List TCPSegment} (included : segments ⊆ others) {a : TCPOverIPv4OverEthernetAdapter}
    (conveys : Conveys segments a) : Conveys others a := by
  refine ⟨?_, conveys.holding.imp fun _ => Wraps.more included⟩
  intro packet member
  obtain ⟨frame, framed, rfl⟩ := conveys.packets packet member
  exact ⟨frame, Framed.imp (fun _ => Wraps.more included) framed, rfl⟩

theorem conveys_stable (segments : List TCPSegment) : Stable (Conveys segments) where
  sent {a tap frame} member wrote conveys := by
    refine ⟨?_, conveys.holding⟩
    change ∀ packet ∈ tap.packets, _
    rcases wrote.packets with same | added
    · rw [same]
      exact conveys.packets
    · rw [added]
      exact List.forall_mem_append.mpr ⟨conveys.packets,
        List.forall_mem_singleton.mpr ⟨frame, conveys.holding.framed frame member, rfl⟩⟩
  popped included conveys :=
    ⟨conveys.packets, fun frame member => conveys.holding.framed frame (included member), conveys.holding.waiting⟩
  addressed conveys := ⟨conveys.packets, conveys.holding⟩

theorem operate_conveys {a : TCPOverIPv4OverEthernetAdapter} (conveys : Conveys segments a)
    (op : NetworkInterface.Operation)
    (given : ∀ dgram nextHop, op = .sendDatagram dgram nextHop → Wraps segments dgram) :
    Conveys segments { a with interface := a.interface.operate op } :=
  ⟨conveys.packets, operate_holding conveys.holding op given⟩

theorem read_conveys (lawful : sys.Lawful) (whole : sys.Packets fd) :
    Keeps (fun state : Kernel × _ => Conveys segments state.2) (read sys fd inetNtoa getaddrinfo) := by
  refine .bind (.within ?_) fun packet => handle_keeps lawful whole (conveys_stable segments) ?_ packet
  · intro state conveys
    refine ⟨?_, conveys.holding⟩
    change ∀ packet ∈ (TunTapFD.read sys fd (state.1, state.2.tap)).2.2.packets, _
    rw [(TunTapFD.read_reads lawful state.1 state.2.tap).packets]
    exact conveys.packets
  · intro a frame conveys
    refine operate_conveys conveys (.recvFrame frame) ?_
    intro _ _ other
    cases other

theorem tick_conveys (lawful : sys.Lawful) (whole : sys.Packets fd) (ms : UInt64) :
    Keeps (fun state : Kernel × _ => Conveys segments state.2) (tick sys fd ms) := by
  refine tick_keeps lawful whole (conveys_stable segments) ms ?_
  intro a conveys
  refine operate_conveys conveys (.tick ms.toNat) ?_
  intro _ _ other
  cases other

theorem write_conveys (lawful : sys.Lawful) (whole : sys.Packets fd) {seg : TCPSegment} (member : seg ∈ segments) :
    Keeps (fun state : Kernel × _ => Conveys segments state.2) (write sys fd seg) := by
  refine write_keeps lawful whole (conveys_stable segments) seg ?_
  intro a dgram nextHop wraps conveys
  refine operate_conveys conveys (.sendDatagram dgram nextHop) ?_
  intro _ _ same
  cases same
  exact wraps.more (List.cons_subset.mpr ⟨member, List.nil_subset _⟩)

theorem frame_parse (frame : EthernetFrame) :
    EthernetFrame.parse {} frame.serialize.concatenate =
      (.noError, ⟨frame.header, .ofBuffer frame.payload.concatenate⟩) := by
  have bytes : frame.serialize.concatenate = frame.header.serialize ++ frame.payload.concatenate := by
    rw [EthernetFrame.serialize, BufferList.append_concatenate, BufferList.append_concatenate,
      BufferList.ofBuffer_concatenate]
    rfl
  have run := EthernetHeader.parse_run {} frame.header frame.payload.concatenate
  rw [bytes]
  unfold EthernetFrame.parse
  rw [run]
  rfl

/-- A frame that was written by the peer, or one that holds no datagram. -/
def FromWire (peer : TCPOverIPv4OverEthernetAdapter) (packet : List Byte) : Prop :=
  packet ∈ peer.tap.packets ∨
    ∀ frame, EthernetFrame.parse {} packet = (.noError, frame) → frame.header.type ≠ EthernetHeader.typeIPv4

theorem received_parsed {peer : TCPOverIPv4OverEthernetAdapter} (conveys : Conveys segments peer)
    {packet : List Byte} (fromWire : FromWire peer packet) {frame : EthernetFrame}
    (parsed : EthernetFrame.parse {} packet = (.noError, frame)) {i : NetworkInterface} {dgram : InternetDatagram}
    (received : (i.recvFrame frame).1 = .ok (some dgram)) : Parsed segments dgram := by
  obtain ⟨_, type, buffer, payload, reads⟩ := (i.recvFrame_received frame).datagram received
  rcases fromWire with member | other
  · obtain ⟨written, framed, rfl⟩ := conveys.packets packet member
    rw [frame_parse] at parsed
    cases parsed
    obtain ⟨wrapped, wraps, serialized⟩ := framed type
    cases payload
    exact ⟨wrapped, written.payload, wraps, serialized, reads⟩
  · exact (other frame parsed type).elim

theorem handle_copies (numeric : ∀ ip, getaddrinfo (inetNtoa ip) = some ip)
    (plain : ∀ sent ∈ segments, Plain sent) {peer : TCPOverIPv4OverEthernetAdapter} (conveys : Conveys segments peer)
    (packet : List Byte) :
    Meets (fun _ : Kernel × _ => FromWire peer packet) (handle sys fd inetNtoa getaddrinfo packet)
      (fun found _ => ∀ seg, found = some seg → ∃ sent ∈ segments, Copies sent seg) (fun _ _ => True) := by
  unfold handle
  split
  case h_2 =>
    refine .pure fun _ _ seg absent => ?_
    cases absent
  case h_1 frame parsed =>
    refine Meets.bind (Q := fun ipDgram _ => ∀ dgram, ipDgram = some dgram → Parsed segments dgram)
      (.within ?_ fun _ _ _ _ _ => trivial) fun ipDgram =>
        .bind (Q := fun _ _ => ∀ dgram, ipDgram = some dgram → Parsed segments dgram)
          ⟨fun holds _ => holds, fun _ _ => trivial⟩ fun _ => ?_
    · rintro state value part fromWire ran dgram rfl
      exact received_parsed conveys fromWire parsed (mapError_ok (congrArg Prod.fst ran))
    · cases ipDgram with
      | none =>
          refine .pure fun _ _ seg absent => ?_
          cases absent
      | some dgram =>
          refine .within ?_ fun _ _ _ _ _ => trivial
          rintro state _ part holds ran seg rfl
          exact unwrap_copies numeric plain (holds dgram rfl) (congrArg Prod.fst ran)

theorem read_copies (lawful : sys.Lawful) (numeric : ∀ ip, getaddrinfo (inetNtoa ip) = some ip)
    (plain : ∀ sent ∈ segments, Plain sent) {peer : TCPOverIPv4OverEthernetAdapter} (conveys : Conveys segments peer)
    {before : Kernel × TCPOverIPv4OverEthernetAdapter}
    (finds : ∀ packet after, sys.read fd bufferSize before.1 = (.ok packet, after) → FromWire peer packet)
    {seg : TCPSegment} (returned : (read sys fd inetNtoa getaddrinfo before).1 = .ok (some seg)) :
    ∃ sent ∈ segments, Copies sent seg := by
  have meets : Meets (fun state => state = before) (read sys fd inetNtoa getaddrinfo)
      (fun found _ => ∀ seg, found = some seg → ∃ sent ∈ segments, Copies sent seg) (fun _ _ => True) := by
    refine .bind (.within ?_ fun _ _ _ _ _ => trivial) (handle_copies numeric plain conveys)
    rintro state packet part rfl ran
    obtain ⟨after, answer⟩ := ((TunTapFD.reads_of lawful ran).answer packet rfl).2
    exact finds packet after answer
  exact meets.returns rfl (Prod.ext returned rfl) seg rfl

end Link

section Sockets

variable {Kernel : Type} (env : Side → Environment Kernel) (inetNtoa : UInt32 → String)
  (getaddrinfo : String → Option UInt32)

abbrev ethernet (side : Side) : DatagramAdapter Kernel TCPOverIPv4OverEthernetAdapter :=
  adapter (env side).toSystemCalls .datagrams inetNtoa getaddrinfo

variable {env inetNtoa getaddrinfo}

/-- Two network interfaces on one wire. -/
def ethernetLink (lawful : ∀ side, (env side).toSystemCalls.Lawful)
    (whole : ∀ side, (env side).toSystemCalls.Packets .datagrams)
    (numeric : ∀ ip, getaddrinfo (inetNtoa ip) = some ip) : Link (ethernet env inetNtoa getaddrinfo) where
  Sends _ a segments := Conveys segments a
  Finds side before peer := ∀ packet after,
    (env side).toSystemCalls.read .datagrams bufferSize before.1 = (.ok packet, after) → FromWire peer packet
  more included conveys := conveys.more included
  read {side _ _ _} _ conveys := (read_conveys (lawful side) (whole side)).after conveys
  write {side _ _ _} member conveys := (write_conveys (lawful side) (whole side) member).after conveys
  tick {side _ _} ms conveys := (tick_conveys (lawful side) (whole side) ms).after conveys
  conveyed {side _ _ _ _ _} plain conveys _ finds returned :=
    read_copies (lawful side) numeric plain conveys finds returned

def Arrives (env : Side → Environment Kernel) (sockets : Sockets Kernel TCPOverIPv4OverEthernetAdapter)
    (side : Side) : Prop :=
  ∀ packet after,
    (env side).toSystemCalls.read .datagrams bufferSize (sockets side).world.kernel = (.ok packet, after) →
      FromWire (sockets side.other).world.datagramAdapter packet

theorem create_conveys {sys : SystemCalls Kernel Port} (lawful : sys.Lawful) (whole : sys.Packets .datagrams)
    {ethAddress : EthernetAddress} {ipAddress nextHop : Address} {ip : TCPOverIPv4Adapter} {kernel : Kernel}
    {a : TCPOverIPv4OverEthernetAdapter}
    (created : (create sys .datagrams ethAddress ipAddress nextHop ip (kernel, {})).1 = .ok a) :
    Conveys [] a := by
  have dummy : Frames [] (EthernetFrame.serialize {}).concatenate := by
    refine ⟨{}, ?_, rfl⟩
    intro type
    cases type
  have wrote := TunTapFD.write_wrote lawful whole (EthernetFrame.serialize {}).concatenate kernel {}
  have meets : Meets (fun state : Kernel × TunTapFD => state = (kernel, {}))
      (create sys .datagrams ethAddress ipAddress nextHop ip) (fun made _ => Conveys [] made) (fun _ _ => True) := by
    refine .bind (Q := fun _ state => ∀ packet ∈ state.2.packets, Frames [] packet) ⟨?_, fun _ _ => trivial⟩
      fun _ => .gets ?_
    · rintro state _ after rfl ran
      rw [ran] at wrote
      rcases wrote.packets with same | added
      · rw [same]
        exact List.forall_mem_nil _
      · rw [added]
        exact List.forall_mem_singleton.mpr dummy
    · intro state packets
      exact ⟨packets, List.forall_mem_nil _, List.forall_mem_nil _⟩
  exact meets.returns rfl (Prod.ext created rfl)

/-- Two sockets on one Ethernet lose no byte: while their interfaces resolve each other's address, frames are
lost, repeated and reordered, and anyone sends ARP messages. -/
theorem ethernet_conserves_bytes (lawful : ∀ side, (env side).toSystemCalls.Lawful)
    (whole : ∀ side, (env side).toSystemCalls.Packets .datagrams)
    (numeric : ∀ ip, getaddrinfo (inetNtoa ip) = some ip) {ethAddress : Side → EthernetAddress}
    {ipAddress nextHop : Side → Address}
    {ip : Side → TCPOverIPv4Adapter} {first : Side → Kernel} {state : Side → TCPOverIPv4OverEthernetAdapter}
    (created : ∀ side, (create (env side).toSystemCalls .datagrams (ethAddress side) (ipAddress side) (nextHop side)
      (ip side) (first side, {})).1 = .ok (state side))
    {opening : Side → Opening} {kernel : Side → Kernel} {cfg : Side → TCPConfig} {randomIsn : Side → WrappingInt32}
    {sockets : Sockets Kernel TCPOverIPv4OverEthernetAdapter}
    (reached : Reachable (SocketPair.step env (ethernet env inetNtoa getaddrinfo))
      (AllowedIf env (ethernet env inetNtoa getaddrinfo) (Arrives env))
      (SocketPair.start opening kernel state cfg randomIsn) sockets) (side : Side) :
    Conserved (sockets side).world (sockets side.other).world :=
  link_conserved lawful (fun side => adapter_lawful (lawful side) (whole side))
    (ethernetLink lawful whole numeric) (fun side => create_conveys (lawful side) (whole side) (created side))
    reached side

end Sockets

/-! ### Two hosts that do not know each other yet -/

def mac : Side → EthernetAddress
  | .left => #v[2, 0, 0, 0, 0, 0x0a]
  | .right => #v[2, 0, 0, 0, 0, 0x0b]

def host : Side → Address
  | .left => ⟨some 0x0a000001, 0⟩
  | .right => ⟨some 0x0a000002, 0⟩

def opened (side : Side) : Except Thrown TCPOverIPv4OverEthernetAdapter :=
  (create TunPair.packetwise.toSystemCalls .datagrams (mac side) (host side) (host side.other) (TunPair.setUp side)
    (⟨[], [], false⟩, {})).1

def attached (side : Side) : TCPOverIPv4OverEthernetAdapter :=
  match opened side with
  | .ok a => a
  | .error _ => ⟨{}, { ethernetAddress := mac side, ipAddress := host side }, host side.other, TunPair.setUp side⟩

theorem opened_attached (side : Side) : opened side = .ok (attached side) := by
  have returned : (opened side).isOk = true := by cases side <;> decide +kernel
  unfold attached
  split
  case h_1 made => exact made
  case h_2 failed =>
    rw [failed] at returned
    cases returned

def arpPacket (side : Side) (opcode : UInt16) (dst target : EthernetAddress) : List Byte :=
  let message : ARPMessage := {
    opcode := opcode
    senderEthernetAddress := mac side
    senderIpAddress := (host side).ipv4.getD 0
    targetEthernetAddress := target
    targetIpAddress := (host side.other).ipv4.getD 0 }
  match message.serialize with
  | .ok payload =>
      (EthernetFrame.serialize ⟨⟨dst, mac side, EthernetHeader.typeARP⟩, .ofBuffer payload⟩).concatenate
  | .error _ => []

def dataPacket (side : Side) (seg : TCPSegment) : List Byte :=
  match TunPair.datagram side seg with
  | some payload =>
      (EthernetFrame.serialize ⟨⟨mac side.other, mac side, EthernetHeader.typeIPv4⟩, payload⟩).concatenate
  | none => []

def leftWire : Script (List Byte) where
  typed := [1, 2, 3]
  answers :=
    [arpPacket .right ARPMessage.opcodeReply (mac .left) (mac .left),
      dataPacket .right
        { header := { seqno := ⟨9⟩, ackno := ⟨6⟩, syn := true, ack := true, win := 8 }, payload := [] }]

def rightWire : Script (List Byte) where
  typed := []
  answers :=
    [arpPacket .left ARPMessage.opcodeRequest .broadcast .zero,
      dataPacket .left { header := { seqno := ⟨5⟩, syn := true, win := 8 }, payload := [] },
      dataPacket .left { header := { seqno := ⟨6⟩, ackno := ⟨10⟩, ack := true, win := 8 }, payload := [1, 2, 3] }]

abbrev Wire := Sockets (Script (List Byte)) TCPOverIPv4OverEthernetAdapter

def wireStart : Wire :=
  SocketPair.start (fun | .left => .connect | .right => .listenAndAccept)
    (fun | .left => leftWire | .right => rightWire) attached (fun _ => tinyConfig)
    (fun | .left => ⟨5⟩ | .right => ⟨9⟩)

abbrev wireStep : Wire → Side × Flow → Wire :=
  callStep (fun _ => TunPair.packetwise)
    (ethernet (fun _ => TunPair.packetwise) TCPOverIPv4Adapter.printed TCPOverIPv4Adapter.scanned)

def wireCalls : List (Side × Flow) :=
  [(.left, .toDatagrams), (.right, .fromDatagrams), (.left, .fromDatagrams), (.right, .fromDatagrams),
    (.right, .toDatagrams), (.left, .fromDatagrams), (.left, .fromOwner), (.left, .toDatagrams),
    (.right, .fromDatagrams), (.right, .toOwner)]

def Delivered (sockets : Wire) (side : Side) : Prop :=
  ∀ packet ∈ (sockets side).world.kernel.answers.head?,
    packet.take bufferSize ∈ (sockets side.other).world.datagramAdapter.tap.packets

instance (sockets : Wire) (side : Side) : Decidable (Delivered sockets side) :=
  inferInstanceAs (Decidable (∀ packet ∈ (sockets side).world.kernel.answers.head?,
    packet.take bufferSize ∈ (sockets side.other).world.datagramAdapter.tap.packets))

theorem delivered_arrives (sockets : Wire) (side : Side) (delivered : Delivered sockets side) :
    Arrives (fun _ => TunPair.packetwise) sockets side := by
  intro bytes after answer
  obtain ⟨packet, next, rfl⟩ := TunPair.packetwise_read answer
  exact .inl (delivered packet next)

theorem bytes_cross_ethernet :
    (wireCalls.foldl wireStep wireStart .right).world.threadData.handed = [1, 2, 3] ∧
      Conserved (wireCalls.foldl wireStep wireStart .left).world
        (wireCalls.foldl wireStep wireStart Side.left.other).world := by
  refine ⟨by decide +kernel, ?_⟩
  have reached := calls_reachable delivered_arrives (reachable_run wireCalls
    (show AllowedRun wireStep (Called (fun _ => TunPair.packetwise)
      (ethernet (fun _ => TunPair.packetwise) TCPOverIPv4Adapter.printed TCPOverIPv4Adapter.scanned) Delivered)
      wireStart wireCalls by decide +kernel))
  unfold wireStart at reached ⊢
  exact ethernet_conserves_bytes (fun _ => TunPair.packetwise_lawful) (fun _ => TunPair.packetwise_packets)
    TCPOverIPv4Adapter.scanned_printed opened_attached reached .left

end EthernetPair
end Sponge

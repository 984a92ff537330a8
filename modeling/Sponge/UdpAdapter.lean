import Sponge.SocketLink
import Sponge.TcpOverIp

/-! TCP over UDP (`fd_adapter.cc`, `util/socket.cc`): a sponge socket whose segments travel in the payload of
user datagrams. The adapter listens to its peer alone, and takes the first that asks for a connection for its
peer if it has none. -/

namespace Sponge

open FileDescriptor FDWrapper

/-- The system calls of a datagram socket. With `MSG_TRUNC`, `recvfrom` tells the length of a datagram that does
not fit the buffer, so the answer is the datagram. -/
structure DatagramCalls (Kernel : Type) where
  recvfrom : Action Kernel Int (Address × List Byte)
  sendmsg : Address → List Byte → Action Kernel Int Nat

/-- A datagram is sent as a whole, or not at all. -/
structure DatagramCalls.Lawful {Kernel : Type} (calls : DatagramCalls Kernel) : Prop where
  sendmsg : ∀ destination payload kernel bytesSent after,
    calls.sendmsg destination payload kernel = (.ok bytesSent, after) → bytesSent = payload.length

/-- The descriptor of a datagram socket, and what the kernel has taken from it. -/
structure UDPSocket where
  descriptor : FDWrapper := {}
  sent : List (Address × List Byte) := []
  deriving DecidableEq, Repr

namespace UDPSocket

variable {Kernel : Type} (calls : DatagramCalls Kernel)

def defaultMtu : Nat := 65536

def recv (mtu : Nat) : Action (Kernel × UDPSocket) Thrown (Address × List Byte) := fun (kernel, sock) =>
  match calls.recvfrom kernel with
  | (.error errno, kernel) => (.error (.unixError "recvfrom" errno), kernel, sock)
  | (.ok datagram, kernel) =>
      if datagram.2.length > mtu then
        (.error (.runtimeError "recvfrom (oversized datagram)"), kernel, sock)
      else (.ok datagram, kernel, { sock with descriptor := sock.descriptor.registerRead })

def sendto (destination : Address) (payload : List Byte) : Action (Kernel × UDPSocket) Thrown Unit :=
  fun (kernel, sock) =>
    match calls.sendmsg destination payload kernel with
    | (.error errno, kernel) => (.error (.unixError "sendmsg" errno), kernel, sock)
    | (.ok bytesSent, kernel) =>
        let sock := { sock with sent := sock.sent ++ [(destination, payload.take bytesSent)] }
        if bytesSent ≠ payload.length then
          (.error (.runtimeError "datagram payload too big for sendmsg()"), kernel, sock)
        else (.ok (), kernel, { sock with descriptor := sock.descriptor.registerWrite })

variable {calls} {mtu : Nat} {kernel : Kernel} {sock : UDPSocket}

inductive Received (calls : DatagramCalls Kernel) (kernel : Kernel) (sock : UDPSocket) :
    Except Thrown (Address × List Byte) × Kernel × UDPSocket → Prop
  | failed {thrown : Thrown} (after : Kernel) : Received calls kernel sock (.error thrown, after, sock)
  | datagram {datagram : Address × List Byte} {after : Kernel}
      (answer : calls.recvfrom kernel = (.ok datagram, after)) :
      Received calls kernel sock
        (.ok datagram, after, { sock with descriptor := sock.descriptor.registerRead })

theorem recv_received : Received calls kernel sock (recv calls mtu (kernel, sock)) := by
  unfold recv
  dsimp only
  split
  case h_1 => exact .failed _
  case h_2 answer =>
    split
    · exact .failed _
    · exact .datagram answer

inductive Sent (destination : Address) (payload : List Byte) (sock : UDPSocket) :
    Except Thrown Unit × Kernel × UDPSocket → Prop
  | failed {thrown : Thrown} (after : Kernel) : Sent destination payload sock (.error thrown, after, sock)
  | whole (after : Kernel) :
      Sent destination payload sock (.ok (), after, { sock with
        descriptor := sock.descriptor.registerWrite
        sent := sock.sent ++ [(destination, payload)] })

theorem sendto_sent (lawful : calls.Lawful) (destination : Address) (payload : List Byte) :
    Sent destination payload sock (sendto calls destination payload (kernel, sock)) := by
  unfold sendto
  dsimp only
  split
  case h_1 => exact .failed _
  case h_2 bytesSent after answer =>
    have all := lawful.sendmsg _ _ _ _ _ answer
    rw [if_neg (not_not.mpr all), all, List.take_length]
    exact .whole after

end UDPSocket

structure TCPOverUDPSocketAdapter where
  config : FdAdapterConfig
  listening : Bool := false
  sock : UDPSocket := {}
  deriving DecidableEq, Repr

namespace TCPOverUDPSocketAdapter

variable {Kernel : Type} (calls : DatagramCalls Kernel)

def filter (a : TCPOverUDPSocketAdapter) (datagram : Address × List Byte) :
    Option TCPSegment × TCPOverUDPSocketAdapter :=
  if !a.listening && datagram.1 != a.config.destination then (none, a)
  else
    match TCPSegment.parse {} datagram.2 0 with
    | (.noError, seg) =>
        if a.listening then
          if seg.header.syn && !seg.header.rst then
            (some seg, { a with
              config := { a.config with destination := datagram.1 }
              listening := false })
          else (none, a)
        else (some seg, a)
    | _ => (none, a)

def read : Action (Kernel × TCPOverUDPSocketAdapter) Thrown (Option TCPSegment) := fun (kernel, a) =>
  match UDPSocket.recv calls UDPSocket.defaultMtu (kernel, a.sock) with
  | (.error thrown, kernel, sock) => (.error thrown, kernel, { a with sock := sock })
  | (.ok datagram, kernel, sock) =>
      let (found, a) := ({ a with sock := sock } : TCPOverUDPSocketAdapter).filter datagram
      (.ok found, kernel, a)

def setPorts (a : TCPOverUDPSocketAdapter) (seg : TCPSegment) : TCPSegment :=
  { seg with header := { seg.header with sport := a.config.source.port, dport := a.config.destination.port } }

def write (seg : TCPSegment) : Action (Kernel × TCPOverUDPSocketAdapter) Thrown Unit := fun (kernel, a) =>
  match (a.setPorts seg).serialize 0 with
  | .error what => (.error (.runtimeError what), kernel, a)
  | .ok payload =>
      let (result, kernel, sock) := UDPSocket.sendto calls a.config.destination payload.concatenate (kernel, a.sock)
      (result, kernel, { a with sock := sock })

def adapter : DatagramAdapter Kernel TCPOverUDPSocketAdapter where
  descriptor a := a.sock.descriptor
  read := read calls
  write := write calls
  tick _ := fun part => (.ok (), part)

/-! ### What the adapter lets through -/

inductive Filtered (a : TCPOverUDPSocketAdapter) (datagram : Address × List Byte) :
    Option TCPSegment × TCPOverUDPSocketAdapter → Prop
  | dropped : Filtered a datagram (none, a)
  | taken {seg : TCPSegment} (parsed : TCPSegment.parse {} datagram.2 0 = (.noError, seg))
      (pinned : a.listening = false) (source : datagram.1 = a.config.destination) :
      Filtered a datagram (some seg, a)
  | adopted {seg : TCPSegment} (parsed : TCPSegment.parse {} datagram.2 0 = (.noError, seg))
      (listens : a.listening = true) (request : (seg.header.syn && !seg.header.rst) = true) :
      Filtered a datagram (some seg, { a with
        config := { a.config with destination := datagram.1 }
        listening := false })

theorem filter_filtered (a : TCPOverUDPSocketAdapter) (datagram : Address × List Byte) :
    Filtered a datagram (a.filter datagram) := by
  unfold filter
  split
  case isTrue => exact .dropped
  case isFalse passes =>
    split
    case h_1 seg parsed =>
      cases listens : a.listening with
      | true =>
          rw [if_pos rfl]
          split
          case isTrue request => exact .adopted parsed listens request
          case isFalse => exact .dropped
      | false =>
          rw [if_neg Bool.false_ne_true]
          refine .taken parsed listens ?_
          simpa [listens] using passes
    case h_2 => exact .dropped

def knocks (payload : List Byte) : Bool :=
  match TCPSegment.parse {} payload 0 with
  | (.noError, seg) => seg.header.syn && !seg.header.rst
  | _ => false

theorem knocks_parsed {payload : List Byte} {seg : TCPSegment}
    (parsed : TCPSegment.parse {} payload 0 = (.noError, seg)) :
    knocks payload = (seg.header.syn && !seg.header.rst) := by
  rw [knocks, parsed]

theorem filter_sock (a : TCPOverUDPSocketAdapter) (datagram : Address × List Byte) :
    (a.filter datagram).2.sock = a.sock := by
  have filtered := filter_filtered a datagram
  generalize a.filter datagram = outcome at filtered ⊢
  cases filtered <;> rfl

variable {calls}

inductive Read (calls : DatagramCalls Kernel) (kernel : Kernel) (a : TCPOverUDPSocketAdapter) :
    Except Thrown (Option TCPSegment) × Kernel × TCPOverUDPSocketAdapter → Prop
  | failed {thrown : Thrown} (after : Kernel) : Read calls kernel a (.error thrown, after, a)
  | filtered {datagram : Address × List Byte} {after : Kernel} {sock : UDPSocket}
      (answer : calls.recvfrom kernel = (.ok datagram, after))
      (registered : sock = { a.sock with descriptor := a.sock.descriptor.registerRead })
      {found : Option TCPSegment} {later : TCPOverUDPSocketAdapter}
      (filtered : Filtered { a with sock := sock } datagram (found, later)) (same : later.sock = sock) :
      Read calls kernel a (.ok found, after, later)

theorem read_read (kernel : Kernel) (a : TCPOverUDPSocketAdapter) : Read calls kernel a (read calls (kernel, a)) := by
  have received : UDPSocket.Received calls kernel a.sock
    (UDPSocket.recv calls UDPSocket.defaultMtu (kernel, a.sock)) := UDPSocket.recv_received
  unfold read
  dsimp only
  generalize UDPSocket.recv calls UDPSocket.defaultMtu (kernel, a.sock) = outcome at received ⊢
  cases received with
  | failed after => exact .failed after
  | datagram answer => exact .filtered answer rfl (filter_filtered _ _) (filter_sock _ _)

inductive Wrote (seg : TCPSegment) (a : TCPOverUDPSocketAdapter) :
    Except Thrown Unit × Kernel × TCPOverUDPSocketAdapter → Prop
  | failed {thrown : Thrown} (after : Kernel) : Wrote seg a (.error thrown, after, a)
  | sent {payload : BufferList} (serialized : (a.setPorts seg).serialize 0 = .ok payload) (after : Kernel) :
      Wrote seg a (.ok (), after, { a with sock := {
        descriptor := a.sock.descriptor.registerWrite
        sent := a.sock.sent ++ [(a.config.destination, payload.concatenate)] } })

theorem write_wrote (lawful : calls.Lawful) (seg : TCPSegment) (kernel : Kernel) (a : TCPOverUDPSocketAdapter) :
    Wrote seg a (write calls seg (kernel, a)) := by
  unfold write
  dsimp only
  split
  case h_1 => exact .failed kernel
  case h_2 payload serialized =>
    have sent : UDPSocket.Sent a.config.destination payload.concatenate a.sock
      (UDPSocket.sendto calls _ _ (kernel, a.sock)) := UDPSocket.sendto_sent lawful _ _
    generalize UDPSocket.sendto calls a.config.destination payload.concatenate (kernel, a.sock) = outcome
      at sent ⊢
    cases sent with
    | failed after => exact .failed after
    | whole after => exact .sent serialized after

theorem adapter_lawful (lawful : calls.Lawful) : (adapter calls).Lawful where
  read kernel a found after returned := by
    have ran : Read calls kernel a _ := read_read kernel a
    rw [show read calls (kernel, a) = _ from returned] at ran
    cases ran with
    | filtered answer registered filtered same =>
        change a.sock.descriptor.readCount < FDWrapper.readCount (UDPSocket.descriptor (TCPOverUDPSocketAdapter.sock _))
        rw [same, registered]
        exact Nat.lt_succ_self _
  readAges := by
    rintro ⟨kernel, a⟩
    have ran : Read calls kernel a _ := read_read kernel a
    change Ages a.sock.descriptor (read calls (kernel, a)).2.2.sock.descriptor
    generalize read calls (kernel, a) = outcome at ran ⊢
    cases ran with
    | failed after => exact .refl _
    | filtered answer registered filtered same =>
        rw [same, registered]
        exact .refl _
  writeAges := by
    rintro seg ⟨kernel, a⟩
    have ran := write_wrote lawful seg kernel a
    change Ages a.sock.descriptor (write calls seg (kernel, a)).2.2.sock.descriptor
    generalize write calls seg (kernel, a) = outcome at ran ⊢
    cases ran with
    | failed after => exact .refl _
    | sent serialized after => exact .refl _
  tickAges _ _ := .refl _

end TCPOverUDPSocketAdapter

/-! ### Two sockets over UDP -/

namespace UdpPair

open TCPOverUDPSocketAdapter Network NetworkAcks SocketPair SocketLink SpongeSocket Transition

/-- The payload of a datagram carries one of the segments. -/
def Carries (segments : List TCPSegment) (payload : List Byte) : Prop :=
  ∃ seg ∈ segments, ∃ (a : TCPOverUDPSocketAdapter) (out : BufferList),
    (a.setPorts seg).serialize 0 = .ok out ∧ payload = out.concatenate

theorem carries_copies {segments : List TCPSegment} {payload : List Byte} (plain : ∀ sent ∈ segments, Plain sent)
    (carries : Carries segments payload) {found : TCPSegment}
    (parsed : TCPSegment.parse {} payload 0 = (.noError, found)) : ∃ sent ∈ segments, Copies sent found := by
  obtain ⟨seg, member, a, out, serialized, rfl⟩ := carries
  obtain ⟨doff, bounded⟩ := plain seg member
  unfold maxPayloadSize at bounded
  have header : (a.setPorts seg).header.doff = 5 := doff
  have words : (a.setPorts seg).header.doff.toNat = 5 := by rw [header]; rfl
  have size : (a.setPorts seg).payload.length ≤ 1000 := bounded
  obtain ⟨written, again, _, reads⟩ := TCPSegment.parse_serialize (s := a.setPorts seg)
    (by rw [header]; decide) (by rw [header]; decide) (by omega) (show (0 : UInt32).toNat < 2 ^ 20 by decide) {}
  cases serialized.symm.trans again
  rw [reads] at parsed
  cases parsed
  exact ⟨seg, member, ⟨rfl, rfl, rfl, rfl⟩, rfl, rfl⟩

section Link

variable {Kernel : Type} (calls : Side → DatagramCalls Kernel) (address : Side → Address)

/-- What comes from the peer's address, the peer has sent; a stranger does not ask for a connection while the
adapter listens, and may send anything otherwise. -/
def FromPeer (side : Side) (before : Kernel × TCPOverUDPSocketAdapter) (peer : TCPOverUDPSocketAdapter) : Prop :=
  ∀ datagram after, (calls side).recvfrom before.1 = (.ok datagram, after) →
    (datagram.1 = address side.other → datagram.2 ∈ peer.sock.sent.map Prod.snd) ∧
      (before.2.listening = true → knocks datagram.2 = true → datagram.1 = address side.other)

/-- All that has been sent carries a segment, and the adapter listens or has its peer. -/
structure Sends (side : Side) (a : TCPOverUDPSocketAdapter) (segments : List TCPSegment) : Prop where
  sent : ∀ payload ∈ a.sock.sent.map Prod.snd, Carries segments payload
  pinned : a.listening = false → a.config.destination = address side.other

variable {calls address}

theorem read_sends {side : Side} {before : Kernel × TCPOverUDPSocketAdapter} {peer : TCPOverUDPSocketAdapter}
    {segments : List TCPSegment} (finds : FromPeer calls address side before peer)
    (sends : Sends address side before.2 segments) :
    Sends address side (read (calls side) before).2.2 segments := by
  obtain ⟨kernel, a⟩ := before
  have ran : Read (calls side) kernel a _ := read_read kernel a
  generalize read (calls side) (kernel, a) = outcome at ran ⊢
  cases ran with
  | failed after => exact sends
  | filtered answer registered filtered same =>
      subst registered
      refine ⟨?_, ?_⟩
      · rw [same]
        exact sends.sent
      · cases filtered with
        | dropped => exact sends.pinned
        | taken => exact sends.pinned
        | adopted parsed listens request =>
            intro _
            exact (finds _ _ answer).2 listens ((knocks_parsed parsed).trans request)

theorem write_sends {side : Side} (lawful : (calls side).Lawful) {before : Kernel × TCPOverUDPSocketAdapter}
    {segments : List TCPSegment} {seg : TCPSegment} (member : seg ∈ segments)
    (sends : Sends address side before.2 segments) :
    Sends address side (write (calls side) seg before).2.2 segments := by
  obtain ⟨kernel, a⟩ := before
  have ran := write_wrote lawful seg kernel a
  generalize write (calls side) seg (kernel, a) = outcome at ran ⊢
  cases ran with
  | failed after => exact sends
  | sent serialized after =>
      refine ⟨?_, sends.pinned⟩
      rw [List.map_append, List.map_singleton]
      exact List.forall_mem_append.mpr ⟨sends.sent,
        List.forall_mem_singleton.mpr ⟨seg, member, a, _, serialized, rfl⟩⟩

theorem read_conveyed {side : Side} {before : Kernel × TCPOverUDPSocketAdapter} {peer : TCPOverUDPSocketAdapter}
    {segments own : List TCPSegment} {found : TCPSegment} (plain : ∀ sent ∈ segments, Plain sent)
    (sends : Sends address side.other peer segments) (mine : Sends address side before.2 own)
    (finds : FromPeer calls address side before peer)
    (returned : (read (calls side) before).1 = .ok (some found)) : ∃ sent ∈ segments, Copies sent found := by
  obtain ⟨kernel, a⟩ := before
  have ran : Read (calls side) kernel a _ := read_read kernel a
  generalize read (calls side) (kernel, a) = outcome at ran returned
  cases ran with
  | failed after => cases returned
  | filtered answer registered filtered same =>
      obtain ⟨fromPeer, stranger⟩ := finds _ _ answer
      cases returned
      cases filtered with
      | taken parsed pinned source =>
          exact carries_copies plain (sends.sent _ (fromPeer (source.trans (mine.pinned pinned)))) parsed
      | adopted parsed listens request =>
          exact carries_copies plain
            (sends.sent _ (fromPeer (stranger listens ((knocks_parsed parsed).trans request)))) parsed

variable (address) in
def udpLink (lawful : ∀ side, (calls side).Lawful) : Link fun side => adapter (calls side) where
  Sends := Sends address
  Finds := FromPeer calls address
  more included sends :=
    ⟨fun payload member =>
      (sends.sent payload member).imp fun _ carried => ⟨included carried.1, carried.2⟩, sends.pinned⟩
  read := read_sends
  write {side} := write_sends (lawful side)
  tick _ sends := sends
  conveyed := read_conveyed

end Link

section Sockets

open LossyFdAdapter

variable {Kernel Generator : Type}

abbrev lossyUdp (random : Generator → UInt32 × Generator) (calls : Side → DatagramCalls Kernel) (side : Side) :
    DatagramAdapter Kernel (LossyFdAdapter Generator TCPOverUDPSocketAdapter) :=
  lossy random (adapter (calls side))

def Arrives (calls : Side → DatagramCalls Kernel) (address : Side → Address)
    (sockets : Sockets Kernel (LossyFdAdapter Generator TCPOverUDPSocketAdapter)) (side : Side) : Prop :=
  FromPeer calls address side ((sockets side).world.kernel, (sockets side).world.datagramAdapter.adapter)
    (sockets side.other).world.datagramAdapter.adapter

/-- Two sockets over UDP lose no byte and take none from a stranger: whatever the network loses, repeats,
reorders or lets strangers send, and whatever the adapters drop. -/
theorem udp_conserves_bytes {env : Side → Environment Kernel} (lawful : ∀ side, (env side).toSystemCalls.Lawful)
    {calls : Side → DatagramCalls Kernel} (whole : ∀ side, (calls side).Lawful)
    (random : Generator → UInt32 × Generator) {address : Side → Address} {opening : Side → Opening}
    {kernel : Side → Kernel} {state : Side → LossyFdAdapter Generator TCPOverUDPSocketAdapter}
    (silent : ∀ side, (state side).adapter.sock.sent = [])
    (configured : ∀ side, (state side).adapter.listening = false →
      (state side).adapter.config.destination = address side.other)
    {cfg : Side → TCPConfig} {randomIsn : Side → WrappingInt32}
    {sockets : Sockets Kernel (LossyFdAdapter Generator TCPOverUDPSocketAdapter)}
    (reached : Reachable (SocketPair.step env (lossyUdp random calls))
      (AllowedIf env (lossyUdp random calls) (Arrives calls address))
      (SocketPair.start opening kernel state cfg randomIsn) sockets) (side : Side) :
    Conserved (sockets side).world (sockets side.other).world := by
  refine link_conserved lawful (fun side => lossy_lawful random (adapter_lawful (whole side)))
    (lossyLink random (udpLink address whole)) ?_ reached side
  intro side
  refine ⟨?_, configured side⟩
  rw [silent side]
  exact List.forall_mem_nil _

end Sockets

/-! ### A stranger -/

def mailbox : DatagramCalls (Script (Address × List Byte)) where
  recvfrom kernel :=
    match kernel.answers with
    | [] => (.error 11, kernel)
    | datagram :: rest => (.ok datagram, { kernel with answers := rest })
  sendmsg _ payload kernel := (.ok payload.length, kernel)

theorem mailbox_lawful : mailbox.Lawful where
  sendmsg _ _ _ _ _ answer := by
    cases answer
    rfl

def hosts : Side → Address
  | .left => ⟨some 0x0a000001, 4000⟩
  | .right => ⟨some 0x0a000002, 80⟩

def stranger : Address := ⟨some 0x0a000003, 80⟩

def sockets : Side → LossyFdAdapter UInt32 TCPOverUDPSocketAdapter
  | .left => ⟨0, 0, 0, { config := ⟨hosts .left, hosts .right⟩ }⟩
  | .right => ⟨0, 1, 0, { config := ⟨hosts .right, ⟨some 0, 0⟩⟩, listening := true }⟩

def wire (side : Side) (seg : TCPSegment) : List Byte :=
  match ({ seg with header := { seg.header with
    sport := (hosts side).port
    dport := (hosts side.other).port } } : TCPSegment).serialize 0 with
  | .ok payload => payload.concatenate
  | .error _ => []

def connectionRequest : Address × List Byte :=
  (hosts .left, wire .left { header := { seqno := ⟨5⟩, syn := true, win := 8 }, payload := [] })

def leftMail : Script (Address × List Byte) where
  typed := [1, 2, 3]
  answers :=
    [(stranger, wire .right { header := { seqno := ⟨9⟩, rst := true }, payload := [] }),
      (hosts .right, wire .right
        { header := { seqno := ⟨9⟩, ackno := ⟨6⟩, syn := true, ack := true, win := 8 }, payload := [] })]

def rightMail : Script (Address × List Byte) where
  typed := []
  answers :=
    [connectionRequest, connectionRequest,
      (stranger, wire .left
        { header := { seqno := ⟨6⟩, ackno := ⟨10⟩, ack := true, win := 8 }, payload := [7, 7, 7] }),
      (hosts .left, wire .left
        { header := { seqno := ⟨6⟩, ackno := ⟨10⟩, ack := true, win := 8 }, payload := [1, 2, 3] })]

abbrev Mail := Sockets (Script (Address × List Byte)) (LossyFdAdapter UInt32 TCPOverUDPSocketAdapter)

def countUp (state : UInt32) : UInt32 × UInt32 := (state, state + 1)

def mailStart : Mail :=
  SocketPair.start (fun | .left => .connect | .right => .listenAndAccept)
    (fun | .left => leftMail | .right => rightMail) sockets (fun _ => tinyConfig)
    (fun | .left => ⟨5⟩ | .right => ⟨9⟩)

abbrev mailStep : Mail → Side × Flow → Mail :=
  callStep (fun _ => scripted) (lossyUdp countUp fun _ => mailbox)

def mailCalls : List (Side × Flow) :=
  [(.left, .toDatagrams), (.right, .fromDatagrams), (.right, .fromDatagrams), (.right, .toDatagrams),
    (.left, .fromDatagrams), (.left, .fromDatagrams), (.left, .fromOwner), (.left, .toDatagrams),
    (.right, .fromDatagrams), (.right, .fromDatagrams), (.right, .toOwner)]

def Delivered (sockets : Mail) (side : Side) : Prop :=
  ∀ datagram ∈ (sockets side).world.kernel.answers.head?,
    (datagram.1 = hosts side.other →
        datagram.2 ∈ (sockets side.other).world.datagramAdapter.adapter.sock.sent.map Prod.snd) ∧
      ((sockets side).world.datagramAdapter.adapter.listening = true → knocks datagram.2 = true →
        datagram.1 = hosts side.other)

instance (sockets : Mail) (side : Side) : Decidable (Delivered sockets side) :=
  inferInstanceAs (Decidable (∀ datagram ∈ (sockets side).world.kernel.answers.head?, _ ∧ (_ → _ → _)))

theorem delivered_arrives (sockets : Mail) (side : Side) (delivered : Delivered sockets side) :
    Arrives (fun _ => mailbox) hosts sockets side := by
  intro datagram after answer
  refine delivered datagram ?_
  simp only [mailbox] at answer
  split at answer
  case h_1 => cases answer
  case h_2 next =>
    cases answer
    rw [next]
    rfl

theorem stranger_unheard :
    (mailCalls.foldl mailStep mailStart .right).world.threadData.handed = [1, 2, 3] ∧
      Conserved (mailCalls.foldl mailStep mailStart .left).world
        (mailCalls.foldl mailStep mailStart Side.left.other).world := by
  refine ⟨by decide +kernel, ?_⟩
  have reached := calls_reachable delivered_arrives (reachable_run mailCalls
    (show AllowedRun mailStep (Called (fun _ => scripted) (lossyUdp countUp fun _ => mailbox) Delivered) mailStart
      mailCalls by decide +kernel))
  unfold mailStart at reached ⊢
  refine udp_conserves_bytes (fun _ => scripted_lawful) (fun _ => mailbox_lawful) countUp ?_ ?_ reached .left
  · intro side
    cases side <;> rfl
  · intro side
    cases side <;> decide

end UdpPair
end Sponge

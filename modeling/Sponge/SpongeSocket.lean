import Sponge.ConnectionQueue
import Sponge.Endpoint
import Sponge.EventLoopSteps
import Sponge.StreamRules
import Sponge.TcpState

/-! The thread behind a sponge socket (`tcp_helpers/tcp_sponge_socket.cc`): a connection, the stream socket
that it shares with the owner and an adapter for datagrams. The adapter is the template parameter of the
source. -/

namespace Sponge

open FileDescriptor Sponge.Action FDWrapper EventLoop StreamRules Transition ConnectionRun ConnectionState

/-- What the socket uses of an `AdaptT`. -/
structure DatagramAdapter (Kernel State : Type) where
  descriptor : State → FDWrapper
  read : Action (Kernel × State) Thrown (Option TCPSegment)
  write : TCPSegment → Action (Kernel × State) Thrown Unit
  tick : UInt64 → Action (Kernel × State) Thrown Unit

/-- A read that returns is counted, and no call takes a flag of the descriptor back. -/
structure DatagramAdapter.Lawful {Kernel State : Type} (adapter : DatagramAdapter Kernel State) : Prop where
  read : ∀ kernel state found after, adapter.read (kernel, state) = (.ok found, after) →
    (adapter.descriptor state).readCount < (adapter.descriptor after.2).readCount
  readAges : ∀ before, Ages (adapter.descriptor before.2) (adapter.descriptor (adapter.read before).2.2)
  writeAges : ∀ segment before,
    Ages (adapter.descriptor before.2) (adapter.descriptor (adapter.write segment before).2.2)
  tickAges : ∀ ms before, Ages (adapter.descriptor before.2) (adapter.descriptor (adapter.tick ms before).2.2)

namespace SpongeSocket

inductive Port
  | datagrams
  | threadData
  deriving DecidableEq, Repr

inductive Flow
  | fromDatagrams
  | fromOwner
  | toOwner
  | toDatagrams
  deriving DecidableEq, Repr

structure Environment (Kernel : Type) extends SystemCalls Kernel Port where
  timestampMs : Kernel → UInt64
  abort : Kernel → Bool

end SpongeSocket

open SpongeSocket

/-- The state that the callbacks share, and the segments that have been given to the adapter. -/
structure TCPSpongeSocket (Kernel State : Type) where
  kernel : Kernel
  datagramAdapter : State
  threadData : FDWrapper
  tcp : TCPConnection
  inboundShutdown : Bool := false
  outboundShutdown : Bool := false
  transmitted : List TCPSegment := []
  deriving DecidableEq, Repr

def TCPConnection.remainingOutboundCapacity (c : TCPConnection) : Nat :=
  if c.active then c.sender.stream.remainingCapacity else 0

/-- The inbound stream after its reader has changed it. -/
def TCPConnection.setInbound (c : TCPConnection) (stream : ByteStream) : TCPConnection :=
  { c with receiver := { c.receiver with reassembler := { c.receiver.reassembler with output := stream } } }

namespace SpongeSocket

variable {Kernel State : Type}

def adapterPart : Focus (TCPSpongeSocket Kernel State) (Kernel × State) where
  get w := (w.kernel, w.datagramAdapter)
  set part w := { w with kernel := part.1, datagramAdapter := part.2 }

def ownerPart : Focus (TCPSpongeSocket Kernel State) (Kernel × FDWrapper) where
  get w := (w.kernel, w.threadData)
  set part w := { w with kernel := part.1, threadData := part.2 }

def inboundLane : Focus (TCPSpongeSocket Kernel State) (Lane Kernel) where
  get w := ⟨w.kernel, w.threadData, w.tcp.inboundStream, w.inboundShutdown⟩
  set lane w := { w with
    kernel := lane.kernel
    threadData := lane.descriptor
    tcp := w.tcp.setInbound lane.stream
    inboundShutdown := lane.shutdown }

def kernelPart : Focus (TCPSpongeSocket Kernel State) Kernel where
  get w := w.kernel
  set kernel w := { w with kernel := kernel }

section Definitions

variable (env : Environment Kernel) (adapter : DatagramAdapter Kernel State)

/-- Rule 1: a datagram for the connection. -/
def receive : Action (TCPSpongeSocket Kernel State) Thrown Unit := do
  match ← adapter.read.within adapterPart with
  | some segment => alter fun w => { w with tcp := w.tcp.segmentReceived segment }
  | none => pure ()

def endOutbound (w : TCPSpongeSocket Kernel State) : TCPSpongeSocket Kernel State :=
  { w with tcp := w.tcp.endInputStream, outboundShutdown := true }

/-- Rule 2: bytes from the owner. -/
def accept : Action (TCPSpongeSocket Kernel State) Thrown Unit := do
  let room ← gets fun w => w.tcp.remainingOutboundCapacity
  let data ← (FDWrapper.read env.toSystemCalls .threadData room).within ownerPart
  let amountWritten ← gets fun w => (w.tcp.write data).1
  alter fun w => { w with tcp := (w.tcp.write data).2 }
  if amountWritten ≠ data.length then
    raise (.runtimeError "TCPConnection::write() accepted less than advertised length")
  if ← gets fun w => w.threadData.eof then
    alter endOutbound

/-- The end of the inbound stream, for the owner. -/
def inboundOver (inbound : ByteStream) : Bool := inbound.eof || inbound.error

/-- Rule 3: bytes for the owner. -/
def deliver : Action (TCPSpongeSocket Kernel State) Thrown Unit :=
  (drain env.toSystemCalls .threadData inboundOver (shutdown env.toSystemCalls .threadData .wr)).within inboundLane

/-- The loop of rule 4, over the segments that are waiting. -/
def transmitAll : List TCPSegment → Action (TCPSpongeSocket Kernel State) Thrown Unit
  | [] => pure ()
  | segment :: rest => do
      (adapter.write segment).within adapterPart
      alter fun w => { w with
        tcp := { w.tcp with segmentsOut := rest }
        transmitted := w.transmitted ++ [segment] }
      transmitAll rest

/-- Rule 4: the segments of the connection. -/
def transmit : Action (TCPSpongeSocket Kernel State) Thrown Unit := do
  transmitAll adapter (← gets fun w => w.tcp.segmentsOut)

def rule : Flow → Rule Port (TCPSpongeSocket Kernel State)
  | .fromDatagrams =>
      { fdNum := .datagrams
        fd := fun w => adapter.descriptor w.datagramAdapter
        direction := .in_
        callback := receive adapter
        interest := fun w => w.tcp.active }
  | .fromOwner =>
      { fdNum := .threadData
        fd := TCPSpongeSocket.threadData
        direction := .in_
        callback := accept env
        interest := fun w =>
          w.tcp.active && !w.outboundShutdown && decide (w.tcp.remainingOutboundCapacity > 0)
        cancel := alter endOutbound }
  | .toOwner =>
      { fdNum := .threadData
        fd := TCPSpongeSocket.threadData
        direction := .out
        callback := deliver env
        interest := fun w =>
          !w.tcp.inboundStream.bufferEmpty || inboundOver w.tcp.inboundStream && !w.inboundShutdown }
  | .toDatagrams =>
      { fdNum := .datagrams
        fd := fun w => adapter.descriptor w.datagramAdapter
        direction := .out
        callback := transmit adapter
        interest := fun w => !w.tcp.segmentsOut.isEmpty }

def poll : Poll Port (TCPSpongeSocket Kernel State) :=
  fun pollfds timeoutMs => (env.poll pollfds timeoutMs).within kernelPart

def flows : List Flow := [.fromDatagrams, .fromOwner, .toOwner, .toDatagrams]

def tcpTickMs : Int := 10

def elapse (ms : UInt64) : Action (TCPSpongeSocket Kernel State) Thrown Unit := do
  alter fun w => { w with tcp := w.tcp.tick ms }
  (adapter.tick ms).within adapterPart

/-- `_tcp_loop`, for at most `turns` turns: how it ended, if it did. -/
def tcpLoop (condition : TCPSpongeSocket Kernel State → Bool) :
    Nat → UInt64 → Loop Flow (TCPSpongeSocket Kernel State) →
      Option (Except Thrown Unit) × Loop Flow (TCPSpongeSocket Kernel State)
  | 0, _, loop => (none, loop)
  | turns + 1, baseTime, loop =>
      if !condition loop.world then (some (.ok ()), loop)
      else
        match waitNextEvent (rule env adapter) (poll env) tcpTickMs loop with
        | (.error thrown, loop) => (some (.error thrown), loop)
        | (.ok ret, loop) =>
            if ret = .exit ∨ env.abort loop.world.kernel = true then (some (.ok ()), loop)
            else if loop.world.tcp.active then
              let nextTime := env.timestampMs loop.world.kernel
              match elapse adapter (nextTime - baseTime) loop.world with
              | (.error thrown, w) => (some (.error thrown), { loop with world := w })
              | (.ok (), w) => tcpLoop condition turns nextTime { loop with world := w }
            else tcpLoop condition turns baseTime loop

/-- `_initialize_TCP`: the connection has been made and the rules have been added. -/
def start (kernel : Kernel) (state : State) (cfg : TCPConfig) (randomIsn : WrappingInt32) :
    Loop Flow (TCPSpongeSocket Kernel State) :=
  ⟨flows, { kernel := kernel, datagramAdapter := state, threadData := {}, tcp := .new cfg randomIsn }⟩

def connecting (kernel : Kernel) (state : State) (cfg : TCPConfig) (randomIsn : WrappingInt32) :
    Loop Flow (TCPSpongeSocket Kernel State) :=
  ⟨flows, { (start kernel state cfg randomIsn).world with tcp := (TCPConnection.new cfg randomIsn).connect }⟩

/-- `connect`, with the adapter configured. -/
def connect (kernel : Kernel) (state : State) (cfg : TCPConfig) (randomIsn : WrappingInt32) (turns : Nat) :
    Option (Except Thrown Unit) × Loop Flow (TCPSpongeSocket Kernel State) :=
  let loop : Loop Flow (TCPSpongeSocket Kernel State) := connecting kernel state cfg randomIsn
  let expectedState := TCPState.ofState .synSent
  if loop.world.tcp.state ≠ expectedState then
    (some (.error (.runtimeError ("After TCPConnection::connect(), state was " ++ loop.world.tcp.state.name ++
      " but expected " ++ expectedState.name))), loop)
  else
    tcpLoop env adapter (fun w => w.tcp.state == .ofState .synSent) turns (env.timestampMs kernel) loop

/-- `listen_and_accept`, with the adapter configured and listening. -/
def listenAndAccept (kernel : Kernel) (state : State) (cfg : TCPConfig) (randomIsn : WrappingInt32)
    (turns : Nat) : Option (Except Thrown Unit) × Loop Flow (TCPSpongeSocket Kernel State) :=
  tcpLoop env adapter
    (fun w => w.tcp.state == .ofState .listen || w.tcp.state == .ofState .synRcvd ||
      w.tcp.state == .ofState .synSent)
    turns (env.timestampMs kernel) (start kernel state cfg randomIsn)

/-- The loop of `_tcp_main`. -/
def tcpMain (turns : Nat) (loop : Loop Flow (TCPSpongeSocket Kernel State)) :
    Option (Except Thrown Unit) × Loop Flow (TCPSpongeSocket Kernel State) :=
  tcpLoop env adapter (fun _ => true) turns (env.timestampMs loop.world.kernel) loop

inductive Opening
  | connect
  | listenAndAccept
  deriving DecidableEq, Repr

/-- The condition under which `connect` or `listen_and_accept` goes on. -/
def Opening.pending : Opening → TCPSpongeSocket Kernel State → Bool
  | .connect, w => w.tcp.state == .ofState .synSent
  | .listenAndAccept, w =>
      w.tcp.state == .ofState .listen || w.tcp.state == .ofState .synRcvd || w.tcp.state == .ofState .synSent

def launched : Opening → Kernel → State → TCPConfig → WrappingInt32 → Loop Flow (TCPSpongeSocket Kernel State)
  | .connect => connecting
  | .listenAndAccept => start

def openSocket (opening : Opening) (kernel : Kernel) (state : State) (cfg : TCPConfig)
    (randomIsn : WrappingInt32) (turns : Nat) :
    Option (Except Thrown Unit) × Loop Flow (TCPSpongeSocket Kernel State) :=
  match opening with
  | .connect => connect env adapter kernel state cfg randomIsn turns
  | .listenAndAccept => listenAndAccept env adapter kernel state cfg randomIsn turns

/-- The life of a socket: it is opened in at most `opened` turns, and then its thread runs for at most
`turns`. -/
def socketRun (opening : Opening) (kernel : Kernel) (state : State) (cfg : TCPConfig)
    (randomIsn : WrappingInt32) (opened turns : Nat) :
    Option (Except Thrown Unit) × Loop Flow (TCPSpongeSocket Kernel State) :=
  match openSocket env adapter opening kernel state cfg randomIsn opened with
  | (some (.ok ()), loop) => tcpMain env adapter turns loop
  | unfinished => unfinished

/-- The calls of `poll` in the first `turns` turns of a loop, or in fewer if it ends before. -/
def loopPolls (condition : TCPSpongeSocket Kernel State → Bool) (turns : Nat) (baseTime : UInt64)
    (loop : Loop Flow (TCPSpongeSocket Kernel State)) : Set (Answer Port) :=
  {answer | ∃ earlier < turns, ∃ before,
    tcpLoop env adapter condition earlier baseTime loop = (none, before) ∧ condition before.world = true ∧
      polled (rule env adapter) (poll env) tcpTickMs before = some answer}

/-- The calls of `poll` in the life of a socket. -/
def socketPolls (opening : Opening) (kernel : Kernel) (state : State) (cfg : TCPConfig)
    (randomIsn : WrappingInt32) (opened turns : Nat) : Set (Answer Port) :=
  loopPolls env adapter opening.pending opened (env.timestampMs kernel)
      (launched opening kernel state cfg randomIsn) ∪
    {answer | ∃ loop, openSocket env adapter opening kernel state cfg randomIsn opened = (some (.ok ()), loop) ∧
      answer ∈ loopPolls env adapter (fun _ => true) turns (env.timestampMs loop.world.kernel) loop}

end Definitions

/-! ### How the callbacks end -/

variable {env : Environment Kernel} {adapter : DatagramAdapter Kernel State} {w : TCPSpongeSocket Kernel State}
  {result : Except Thrown Unit} {later : TCPSpongeSocket Kernel State}

inductive Received (adapter : DatagramAdapter Kernel State) (w : TCPSpongeSocket Kernel State) :
    Except Thrown Unit → TCPSpongeSocket Kernel State → Prop
  | failed {thrown : Thrown} {part : Kernel × State}
      (read : adapter.read (w.kernel, w.datagramAdapter) = (.error thrown, part)) :
      Received adapter w (.error thrown) { w with kernel := part.1, datagramAdapter := part.2 }
  | nothing {part : Kernel × State} (read : adapter.read (w.kernel, w.datagramAdapter) = (.ok none, part)) :
      Received adapter w (.ok ()) { w with kernel := part.1, datagramAdapter := part.2 }
  | segment {segment : TCPSegment} {part : Kernel × State}
      (read : adapter.read (w.kernel, w.datagramAdapter) = (.ok (some segment), part)) :
      Received adapter w (.ok ()) { w with
        kernel := part.1
        datagramAdapter := part.2
        tcp := w.tcp.segmentReceived segment }

theorem receive_received (adapter : DatagramAdapter Kernel State) (w : TCPSpongeSocket Kernel State) :
    Received adapter w (receive adapter w).1 (receive adapter w).2 := by
  unfold receive
  cases answer : adapter.read (w.kernel, w.datagramAdapter) with
  | mk result part =>
      have ran : adapter.read.within adapterPart w = _ := within_eq answer
      cases result with
      | error thrown =>
          rw [bind_error ran]
          exact .failed answer
      | ok found =>
          rw [bind_ok ran]
          cases found with
          | none => exact .nothing answer
          | some segment => exact .segment answer

def written (w : TCPSpongeSocket Kernel State) (kernel : Kernel) (data : List Byte) (eof : Bool) :
    TCPSpongeSocket Kernel State :=
  { w with
    kernel := kernel
    threadData := { w.threadData with
      eof := eof
      readCount := w.threadData.readCount + 1
      taken := w.threadData.taken ++ data }
    tcp := (w.tcp.write data).2 }

inductive Accepted (w : TCPSpongeSocket Kernel State) : Except Thrown Unit → TCPSpongeSocket Kernel State → Prop
  | failed {thrown : Thrown} (why : Refused thrown) (kernel : Kernel) :
      Accepted w (.error thrown) { w with kernel := kernel }
  | bytes (kernel : Kernel) (data : List Byte) (whole : (w.tcp.write data).1 = data.length)
      (going : w.threadData.eof = false) :
      Accepted w (.ok ()) (written w kernel data false)
  | ended (kernel : Kernel) (data : List Byte) (whole : (w.tcp.write data).1 = data.length) :
      Accepted w (.ok ()) (endOutbound (written w kernel data true))

theorem write_whole (c : TCPConnection) {data : List Byte} (fits : data.length ≤ c.remainingOutboundCapacity) :
    (c.write data).1 = data.length := by
  unfold TCPConnection.remainingOutboundCapacity at fits
  unfold TCPConnection.write
  cases running : c.active with
  | true =>
      rw [running, if_pos rfl] at fits
      exact (ByteStream.write_fst _ _).trans (Nat.min_eq_left fits)
  | false =>
      rw [running, if_neg Bool.false_ne_true] at fits
      exact (Nat.le_zero.mp fits).symm

theorem accept_accepted (lawful : env.toSystemCalls.Lawful) (w : TCPSpongeSocket Kernel State) :
    Accepted w (accept env w).1 (accept env w).2 := by
  have got : Got _ w.threadData (FDWrapper.read env.toSystemCalls .threadData _ (w.kernel, w.threadData)).1 _ :=
    read_got lawful w.tcp.remainingOutboundCapacity
  cases answer : FDWrapper.read env.toSystemCalls .threadData w.tcp.remainingOutboundCapacity
      (w.kernel, w.threadData) with
  | mk result part =>
      obtain ⟨kernel, d⟩ := part
      rw [answer] at got
      cases got with
      | failed errno =>
          have ran : Action.within ownerPart _ w = _ := within_eq answer
          rw [accept, gets_bind, bind_error ran]
          exact .failed (.call _ _) kernel
      | bytes data fits =>
          have whole := write_whole w.tcp fits
          obtain ⟨eof, found⟩ : ∃ eof, eof =
            (w.threadData.eof || decide (0 < w.tcp.remainingOutboundCapacity) && data.isEmpty) := ⟨_, rfl⟩
          rw [← found] at answer
          have ran : Action.within ownerPart _ w = _ := within_eq answer
          have shape : accept env w =
              (if eof then alter endOutbound else pure ()) (written w kernel data eof) := by
            rw [accept, gets_bind, bind_ok ran, gets_bind, alter_bind]
            split
            case isTrue short => exact (short whole).elim
            case isFalse => rfl
          rw [shape]
          cases eof with
          | true => exact .ended kernel data whole
          | false => exact .bytes kernel data whole (Bool.or_eq_false_iff.mp found.symm).1

structure Transmitted (adapter : DatagramAdapter Kernel State) (w : TCPSpongeSocket Kernel State)
    (result : Except Thrown Unit) (later : TCPSpongeSocket Kernel State) (given left : List TCPSegment) :
    Prop where
  queue : w.tcp.segmentsOut = given ++ left
  tcp : later.tcp = { w.tcp with segmentsOut := left }
  transmitted : later.transmitted = w.transmitted ++ given
  threadData : later.threadData = w.threadData
  inboundShutdown : later.inboundShutdown = w.inboundShutdown
  outboundShutdown : later.outboundShutdown = w.outboundShutdown
  ages : Ages (adapter.descriptor w.datagramAdapter) (adapter.descriptor later.datagramAdapter)
  all : result = .ok () → left = []
  cause : ∀ thrown, result = .error thrown → ∃ segment before, (adapter.write segment before).1 = .error thrown

theorem transmitAll_transmitted (lawful : adapter.Lawful) {queue : List TCPSegment}
    (w : TCPSpongeSocket Kernel State) (waiting : w.tcp.segmentsOut = queue) :
    ∃ given left, Transmitted adapter w (transmitAll adapter queue w).1 (transmitAll adapter queue w).2
      given left := by
  have same : ∀ {c : TCPConnection} {queue : List TCPSegment}, c.segmentsOut = queue →
      c = { c with segmentsOut := queue } := by
    rintro c queue rfl
    rfl
  induction queue generalizing w with
  | nil =>
      refine ⟨[], [], waiting, same waiting, (List.append_nil _).symm, rfl, rfl, rfl, .refl _, fun _ => rfl, ?_⟩
      intro thrown failed
      cases failed
  | cons segment rest ih =>
      have ages := lawful.writeAges segment (w.kernel, w.datagramAdapter)
      unfold transmitAll
      cases answer : adapter.write segment (w.kernel, w.datagramAdapter) with
      | mk result part =>
          have ran : (adapter.write segment).within adapterPart w = _ := within_eq answer
          rw [answer] at ages
          cases result with
          | error thrown =>
              rw [bind_error ran]
              refine ⟨[], segment :: rest, waiting, same waiting, (List.append_nil _).symm, rfl, rfl, rfl, ages, ?_,
                ?_⟩
              · intro done
                cases done
              · intro other failed
                cases failed
                exact ⟨segment, _, by rw [answer]⟩
          | ok _ =>
              rw [bind_ok ran, alter_bind]
              obtain ⟨given, left, sent⟩ := ih { adapterPart.set part w with
                tcp := { w.tcp with segmentsOut := rest }
                transmitted := w.transmitted ++ [segment] } rfl
              have queue : rest = given ++ left := sent.queue
              refine ⟨segment :: given, left, ?_, sent.tcp, ?_, sent.threadData, sent.inboundShutdown,
                sent.outboundShutdown, ages.trans sent.ages, sent.all, sent.cause⟩
              · rw [waiting, queue, List.cons_append]
              · exact sent.transmitted.trans (by rw [List.append_assoc, List.singleton_append])

inductive Called (adapter : DatagramAdapter Kernel State) (w : TCPSpongeSocket Kernel State) :
    Flow → Except Thrown Unit → TCPSpongeSocket Kernel State → Prop
  | fromDatagrams {result : Except Thrown Unit} {later : TCPSpongeSocket Kernel State}
      (received : Received adapter w result later) : Called adapter w .fromDatagrams result later
  | fromOwner {result : Except Thrown Unit} {later : TCPSpongeSocket Kernel State}
      (accepted : Accepted w result later) : Called adapter w .fromOwner result later
  | toOwner {result : Except Thrown Unit} {lane : Lane Kernel}
      (drained : Drained inboundOver registerWrite (inboundLane.get w) result lane) :
      Called adapter w .toOwner result (inboundLane.set lane w)
  | toDatagrams {result : Except Thrown Unit} {later : TCPSpongeSocket Kernel State} {given left : List TCPSegment}
      (sent : Transmitted adapter w result later given left) : Called adapter w .toDatagrams result later

theorem callback_called (lawful : env.toSystemCalls.Lawful) (adapted : adapter.Lawful) (flow : Flow)
    (w : TCPSpongeSocket Kernel State) :
    Called adapter w flow ((rule env adapter flow).callback w).1 ((rule env adapter flow).callback w).2 := by
  cases flow with
  | fromDatagrams => exact .fromDatagrams (receive_received adapter w)
  | fromOwner => exact .fromOwner (accept_accepted lawful w)
  | toOwner => exact .toOwner (drain_drained lawful shutdown_wr_changes _)
  | toDatagrams =>
      obtain ⟨given, left, sent⟩ := transmitAll_transmitted adapted w rfl
      exact .toDatagrams sent

/-! ### The socket as an endpoint -/

/-- An endpoint that has seen what the socket has done: its queue keeps what has been given to the adapter. -/
structure Tracks (w : TCPSpongeSocket Kernel State) (e : Endpoint) : Prop where
  conn : e.conn = w.tcp.afterSending w.transmitted
  accepted : e.accepted = w.threadData.taken
  consumed : e.consumed = w.threadData.handed

theorem acceptedBy_after (c : TCPConnection) (sent : List TCPSegment) (operation : Operation) :
    Endpoint.acceptedBy (c.afterSending sent) operation = Endpoint.acceptedBy c operation := by
  cases operation with
  | write data => simp only [Endpoint.acceptedBy, TCPConnection.write_after]
  | _ => rfl

theorem consumedBy_after (c : TCPConnection) (sent : List TCPSegment) (operation : Operation) :
    Endpoint.consumedBy (c.afterSending sent) operation = Endpoint.consumedBy c operation := by
  cases operation <;> rfl

theorem tracks_operate {e : Endpoint} (tracks : Tracks w e) (operation : Operation)
    (tcp : later.tcp = operate w.tcp operation) (transmitted : later.transmitted = w.transmitted)
    (taken : later.threadData.taken = w.threadData.taken ++ Endpoint.acceptedBy w.tcp operation)
    (handed : later.threadData.handed = w.threadData.handed ++ Endpoint.consumedBy w.tcp operation) :
    Tracks later (e.operate operation) where
  conn := by
    change operate e.conn operation = _
    rw [tracks.conn, TCPConnection.operate_after, tcp, transmitted]
  accepted := by
    change e.accepted ++ Endpoint.acceptedBy e.conn operation = _
    rw [tracks.conn, acceptedBy_after, tracks.accepted, taken]
  consumed := by
    change e.consumed ++ Endpoint.consumedBy e.conn operation = _
    rw [tracks.conn, consumedBy_after, tracks.consumed, handed]

theorem tracks_transmitted {e : Endpoint} {given left : List TCPSegment} (tracks : Tracks w e)
    (sent : Transmitted adapter w result later given left) : Tracks later e where
  conn := by
    rw [tracks.conn, sent.tcp, sent.transmitted]
    simp only [TCPConnection.afterSending, sent.queue, List.append_assoc]
  accepted := by rw [tracks.accepted, sent.threadData]
  consumed := by rw [tracks.consumed, sent.threadData]

def Fine (heard : TCPSegment → Prop) (e : Endpoint) (operation : Operation) : Prop :=
  NoLateWrite e.conn operation ∧ ∀ segment, operation = .segmentReceived segment → heard segment

def Performs (heard : TCPSegment → Prop) (e later : Endpoint) : Prop :=
  ∃ operations, AllowedRun Endpoint.operate (Fine heard) e operations ∧
    operations.foldl Endpoint.operate e = later

theorem performs_nothing (heard : TCPSegment → Prop) (e : Endpoint) : Performs heard e e :=
  ⟨[], trivial, rfl⟩

theorem performs_one {heard : TCPSegment → Prop} {e : Endpoint} (operation : Operation)
    (open_ : NoLateWrite e.conn operation) (said : ∀ segment, operation = .segmentReceived segment → heard segment) :
    Performs heard e (e.operate operation) :=
  ⟨[operation], ⟨⟨open_, said⟩, trivial⟩, rfl⟩

def Fetched (adapter : DatagramAdapter Kernel State) (w : TCPSpongeSocket Kernel State) (flow : Flow)
    (segment : TCPSegment) : Prop :=
  flow = .fromDatagrams ∧ (adapter.read (w.kernel, w.datagramAdapter)).1 = .ok (some segment)

theorem written_tracks {e : Endpoint} (tracks : Tracks w e) {data : List Byte}
    (whole : (w.tcp.write data).1 = data.length) (kernel : Kernel) (eof : Bool) :
    Tracks (written w kernel data eof) (e.operate (.write data)) := by
  refine tracks_operate tracks (.write data) rfl rfl ?_ (List.append_nil _).symm
  change _ = _ ++ data.take (w.tcp.write data).1
  rw [whole, List.take_length]
  rfl

theorem moved_tracks {e : Endpoint} (tracks : Tracks w e) (kernel : Kernel) (n : Nat)
    (tcp : later.tcp = w.tcp.setInbound ((inboundLane.get w).moved kernel n).stream)
    (transmitted : later.transmitted = w.transmitted) (taken : later.threadData.taken = w.threadData.taken)
    (handed : later.threadData.handed = ((inboundLane.get w).moved kernel n).descriptor.handed) :
    Tracks later (e.operate (.readInbound n)) := by
  refine tracks_operate tracks (.readInbound n) tcp transmitted (taken.trans (List.append_nil _).symm) ?_
  rw [handed]
  change _ ++ w.tcp.inboundStream.buffer.take n = _ ++ (w.tcp.inboundStream.read n).1
  rw [ByteStream.read_fst]
  rfl

theorem called_tracks {e : Endpoint} {flow : Flow} {filled : List TCPSegment} (settled : Settled filled e.conn)
    (tracks : Tracks w e) (open_ : flow = .fromOwner → e.conn.sender.stream.inputEnded = false)
    (called : Called adapter w flow result later) :
    ∃ e', Performs (Fetched adapter w flow) e e' ∧ Tracks later e' ∧
      (e'.conn.sender.stream.inputEnded = true →
        e.conn.sender.stream.inputEnded = true ∨ later.threadData.eof = true) := by
  have idle : ∀ {same : TCPSpongeSocket Kernel State}, same.tcp = w.tcp → same.transmitted = w.transmitted →
      same.threadData.taken = w.threadData.taken → same.threadData.handed = w.threadData.handed →
      ∃ e', Performs (Fetched adapter w flow) e e' ∧ Tracks same e' ∧
        (e'.conn.sender.stream.inputEnded = true →
          e.conn.sender.stream.inputEnded = true ∨ same.threadData.eof = true) := by
    intro same tcp transmitted taken handed
    refine ⟨e, performs_nothing _ e, ⟨?_, ?_, ?_⟩, .inl⟩
    · rw [tracks.conn, tcp, transmitted]
    · rw [tracks.accepted, taken]
    · rw [tracks.consumed, handed]
  have still : ∀ {operation : Operation} {flag : Bool}, operation ≠ .endInputStream →
      (e.operate operation).conn.sender.stream.inputEnded = true →
        e.conn.sender.stream.inputEnded = true ∨ flag = true := by
    intro operation flag other ended
    exact .inl ((TCPConnection.operate_inputEnded settled other).symm.trans ended)
  cases called with
  | fromDatagrams received =>
      cases received with
      | failed read => exact idle rfl rfl rfl rfl
      | nothing read => exact idle rfl rfl rfl rfl
      | segment read =>
          refine ⟨_, performs_one (.segmentReceived _) trivial ?_, tracks_operate tracks _ rfl rfl
            (List.append_nil _).symm (List.append_nil _).symm, still (by intro same; cases same)⟩
          intro segment same
          cases same
          exact ⟨rfl, by rw [read]⟩
  | fromOwner accepted =>
      cases accepted with
      | failed why kernel => exact idle rfl rfl rfl rfl
      | bytes kernel data whole going =>
          refine ⟨_, performs_one (.write data) (open_ rfl) ?_, written_tracks tracks whole kernel false,
            still (by intro same; cases same)⟩
          intro segment same
          cases same
      | ended kernel data whole =>
          have wrote := written_tracks tracks whole kernel true
          refine ⟨(e.operate (.write data)).operate .endInputStream, ⟨[.write data, .endInputStream], ?_, rfl⟩,
            tracks_operate wrote .endInputStream rfl rfl (List.append_nil _).symm (List.append_nil _).symm,
            fun _ => .inr rfl⟩
          refine ⟨⟨open_ rfl, ?_⟩, ⟨trivial, ?_⟩, trivial⟩
          · intro segment same
            cases same
          · intro segment same
            cases same
  | toOwner drained =>
      have read : ∀ n, Performs (Fetched adapter w .toOwner) e (e.operate (.readInbound n)) := by
        intro n
        refine performs_one (.readInbound n) trivial ?_
        intro segment same
        cases same
      cases drained with
      | failed why kernel count => exact idle rfl rfl rfl rfl
      | moved kernel n going => exact ⟨_, read n, moved_tracks tracks kernel n rfl rfl rfl rfl,
            still (by intro same; cases same)⟩
      | unfinished kernel n why done =>
          exact ⟨_, read n, moved_tracks tracks kernel n rfl rfl rfl rfl,
            still (by intro same; cases same)⟩
      | finished kernel n done =>
          exact ⟨_, read n, moved_tracks tracks kernel n rfl rfl rfl rfl,
            still (by intro same; cases same)⟩
  | toDatagrams sent => exact ⟨e, performs_nothing _ e, tracks_transmitted tracks sent, .inl⟩

/-! ### The four rules together -/

theorem called_ages (adapted : adapter.Lawful) {flow : Flow} (called : Called adapter w flow result later) :
    Ages w.threadData later.threadData ∧ later.threadData.closed = w.threadData.closed ∧
      Ages (adapter.descriptor w.datagramAdapter) (adapter.descriptor later.datagramAdapter) := by
  have read := adapted.readAges (w.kernel, w.datagramAdapter)
  cases called with
  | fromDatagrams received =>
      cases received with
      | failed answer => rw [answer] at read; exact ⟨.refl _, rfl, read⟩
      | nothing answer => rw [answer] at read; exact ⟨.refl _, rfl, read⟩
      | segment answer => rw [answer] at read; exact ⟨.refl _, rfl, read⟩
  | fromOwner accepted =>
      cases accepted with
      | failed why kernel => exact ⟨.refl _, rfl, .refl _⟩
      | ended kernel data whole => exact ⟨⟨fun _ => rfl, id⟩, rfl, .refl _⟩
      | bytes kernel data whole going =>
          refine ⟨⟨fun over_ => ?_, id⟩, rfl, .refl _⟩
          rw [going] at over_
          cases over_
  | toOwner drained =>
      obtain ⟨_, eof, closed⟩ := drained_unread drained
      exact ⟨⟨fun over_ => eof.trans over_, fun shut => closed.trans shut⟩, closed, .refl _⟩
  | toDatagrams sent =>
      rw [sent.threadData]
      exact ⟨.refl _, rfl, sent.ages⟩

section Loop

variable {answers : Set (Answer Port)}

variable (env adapter answers) in
/-- A rule that has been deleted was defunct, or its descriptor had hung up. -/
def Accounted (rules : List Flow) (w : TCPSpongeSocket Kernel State) : Prop :=
  ∀ flow, flow ∈ rules ∨ (rule env adapter flow).defunct w = true ∨
    HungUp answers (rule env adapter flow).fdNum (rule env adapter flow).direction

theorem accounted_ages {rules : List Flow} (accounted : Accounted env adapter answers rules w)
    (owner : Ages w.threadData later.threadData)
    (datagrams : Ages (adapter.descriptor w.datagramAdapter) (adapter.descriptor later.datagramAdapter)) :
    Accounted env adapter answers rules later := by
  intro flow
  refine (accounted flow).imp_right (Or.imp_left fun defunct => ?_)
  cases flow with
  | fromDatagrams => exact defunct_ages datagrams defunct
  | fromOwner => exact defunct_ages owner defunct
  | toOwner => exact defunct_ages owner defunct
  | toDatagrams => exact defunct_ages datagrams defunct

variable (env adapter answers) in
/-- What every turn keeps, with the endpoint that the socket stands for. -/
structure Coupled (loop : Loop Flow (TCPSpongeSocket Kernel State)) (e : Endpoint) : Prop where
  ordered : loop.rules.Sublist flows
  tracks : Tracks loop.world e
  ended : e.conn.sender.stream.inputEnded = true →
    loop.world.threadData.eof = true ∨ .fromOwner ∉ loop.rules
  ownerOpen : loop.world.threadData.closed = false
  gone : Accounted env adapter answers loop.rules loop.world

theorem Coupled.distinct {loop : Loop Flow (TCPSpongeSocket Kernel State)} {e : Endpoint}
    (coupled : Coupled env adapter answers loop e) : loop.rules.Nodup :=
  (show flows.Nodup by decide).sublist coupled.ordered

def Live : Flow → TCPSpongeSocket Kernel State → Prop
  | .fromOwner, w => w.threadData.eof = false
  | _, _ => True

theorem called_coupled (adapted : adapter.Lawful) {loop : Loop Flow (TCPSpongeSocket Kernel State)}
    {e : Endpoint} {filled : List TCPSegment} (settled : Settled filled e.conn) {flow : Flow}
    (coupled : Coupled env adapter answers loop e) (present : flow ∈ loop.rules) (alive : Live flow loop.world)
    (called : Called adapter loop.world flow result later) :
    ∃ e', Performs (Fetched adapter loop.world flow) e e' ∧ Coupled env adapter answers ⟨loop.rules, later⟩ e' := by
  obtain ⟨owner, closed, datagrams⟩ := called_ages adapted called
  have open_ : flow = .fromOwner → e.conn.sender.stream.inputEnded = false := by
    rintro rfl
    rw [← Bool.not_eq_true]
    intro over_
    rcases coupled.ended over_ with eof | absent
    · cases (show loop.world.threadData.eof = false from alive).symm.trans eof
    · exact absent present
  obtain ⟨e', performs, tracks, ended⟩ := called_tracks settled coupled.tracks open_ called
  refine ⟨e', performs, coupled.ordered, tracks, ?_, closed.trans coupled.ownerOpen,
    accounted_ages coupled.gone owner datagrams⟩
  intro over_
  rcases ended over_ with before | eof
  · exact (coupled.ended before).imp_left owner.1
  · exact .inl eof

theorem cancelled_coupled {loop : Loop Flow (TCPSpongeSocket Kernel State)} {e : Endpoint} {flow : Flow}
    (coupled : Coupled env adapter answers loop e)
    (cause : (rule env adapter flow).defunct loop.world = true ∨
      HungUp answers (rule env adapter flow).fdNum (rule env adapter flow).direction) :
    ∃ e', Performs (fun _ => False) e e' ∧
      Coupled env adapter answers (cancelled (rule env adapter) loop flow) e' := by
  have ordered : (loop.rules.erase flow).Sublist flows := List.erase_sublist.trans coupled.ordered
  have gone : Accounted env adapter answers (loop.rules.erase flow) loop.world := by
    intro other
    by_cases same : other = flow
    · exact .inr (same ▸ cause)
    · exact (coupled.gone other).imp_left (List.mem_erase_of_ne same).mpr
  have idle : cancelled (rule env adapter) loop flow = ⟨loop.rules.erase flow, loop.world⟩ →
      ∃ e', Performs (fun _ => False) e e' ∧
        Coupled env adapter answers (cancelled (rule env adapter) loop flow) e' := by
    intro same
    rw [same]
    refine ⟨e, performs_nothing _ e, ordered, coupled.tracks, ?_, coupled.ownerOpen, gone⟩
    intro over_
    exact (coupled.ended over_).imp_right fun absent member => absent (List.erase_subset member)
  cases flow with
  | fromDatagrams => exact idle rfl
  | toOwner => exact idle rfl
  | toDatagrams => exact idle rfl
  | fromOwner =>
      refine ⟨e.operate .endInputStream, performs_one .endInputStream trivial ?_, ordered, ?_, ?_,
        coupled.ownerOpen, accounted_ages gone (.refl _) (.refl _)⟩
      · intro segment same
        cases same
      · exact tracks_operate coupled.tracks .endInputStream rfl rfl (List.append_nil _).symm
          (List.append_nil _).symm
      · exact fun _ => .inr coupled.distinct.not_mem_erase

theorem live_stays (lawful : env.toSystemCalls.Lawful) (adapted : adapter.Lawful) :
    Stays (rule env adapter) (poll env) Live where
  found flow w alive := by
    cases flow with
    | fromOwner => exact eof_of_live rfl alive
    | _ => trivial
  cancel flow other w _ alive := by
    cases flow with
    | fromOwner => cases other <;> exact alive
    | _ => trivial
  callback flow other w differ alive := by
    cases flow with
    | fromOwner =>
        have called := callback_called lawful adapted other w
        change ((rule env adapter other).callback w).2.threadData.eof = false
        generalize ((rule env adapter other).callback w).1 = result,
          ((rule env adapter other).callback w).2 = later at called ⊢
        cases called with
        | fromDatagrams received => cases received <;> exact alive
        | fromOwner accepted => exact (differ rfl).elim
        | toOwner drained => exact (drained_unread drained).2.1.trans alive
        | toDatagrams sent =>
            rw [sent.threadData]
            exact alive
    | _ => trivial
  poll flow _ _ w alive := by
    cases flow with
    | fromOwner => exact alive
    | _ => trivial

end Loop

end SpongeSocket
end Sponge

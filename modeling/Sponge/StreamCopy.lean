import Sponge.EventLoopSteps
import Sponge.StreamRules

/-! Copying between a socket and the standard streams (`apps/bidirectional_stream_copy.cc`). -/

namespace Sponge.StreamCopy

open FileDescriptor Sponge.Action FDWrapper EventLoop StreamRules Transition

inductive Port
  | stdin
  | stdout
  | socket
  deriving DecidableEq, Repr

inductive Flow
  | fromInput
  | toSocket
  | fromSocket
  | toOutput
  deriving DecidableEq, Repr

def bufferSize : Nat := 1048576

structure Copy (Kernel : Type) where
  kernel : Kernel
  socket : FDWrapper
  input : FDWrapper := {}
  output : FDWrapper := {}
  outbound : ByteStream := .new bufferSize
  inbound : ByteStream := .new bufferSize
  outboundShutdown : Bool := false
  inboundShutdown : Bool := false
  deriving DecidableEq, Repr

variable {Kernel : Type}

section Lanes

def inputLane : Focus (Copy Kernel) (Lane Kernel) where
  get w := ⟨w.kernel, w.input, w.outbound, w.outboundShutdown⟩
  set lane w := { w with
    kernel := lane.kernel
    input := lane.descriptor
    outbound := lane.stream
    outboundShutdown := lane.shutdown }

def sendLane : Focus (Copy Kernel) (Lane Kernel) where
  get w := ⟨w.kernel, w.socket, w.outbound, w.outboundShutdown⟩
  set lane w := { w with
    kernel := lane.kernel
    socket := lane.descriptor
    outbound := lane.stream
    outboundShutdown := lane.shutdown }

def receiveLane : Focus (Copy Kernel) (Lane Kernel) where
  get w := ⟨w.kernel, w.socket, w.inbound, w.inboundShutdown⟩
  set lane w := { w with
    kernel := lane.kernel
    socket := lane.descriptor
    inbound := lane.stream
    inboundShutdown := lane.shutdown }

def outputLane : Focus (Copy Kernel) (Lane Kernel) where
  get w := ⟨w.kernel, w.output, w.inbound, w.inboundShutdown⟩
  set lane w := { w with
    kernel := lane.kernel
    output := lane.descriptor
    inbound := lane.stream
    inboundShutdown := lane.shutdown }

def kernelPart : Focus (Copy Kernel) Kernel where
  get w := w.kernel
  set kernel w := { w with kernel := kernel }

end Lanes

section Definitions

/-- Bytes can be read into `stream`, and the other direction has not failed. -/
def roomIn (stream other : ByteStream) : Bool :=
  !stream.error && decide (stream.remainingCapacity > 0) && !other.error

def pending (stream : ByteStream) (shutdown : Bool) : Bool :=
  !stream.bufferEmpty || stream.eof && !shutdown

variable (sys : SystemCalls Kernel Port)

def rule : Flow → Rule Port (Copy Kernel)
  | .fromInput =>
      { fdNum := .stdin
        fd := Copy.input
        direction := .in_
        callback := (fill sys .stdin).within inputLane
        interest := fun w => roomIn w.outbound w.inbound
        cancel := alter fun w => { w with outbound := w.outbound.endInput } }
  | .toSocket =>
      { fdNum := .socket
        fd := Copy.socket
        direction := .out
        callback := (drain sys .socket ByteStream.eof (shutdown sys .socket .wr)).within sendLane
        interest := fun w => pending w.outbound w.outboundShutdown
        cancel := alter fun w => { w with outbound := w.outbound.endInput } }
  | .fromSocket =>
      { fdNum := .socket
        fd := Copy.socket
        direction := .in_
        callback := (fill sys .socket).within receiveLane
        interest := fun w => roomIn w.inbound w.outbound
        cancel := alter fun w => { w with inbound := w.inbound.endInput } }
  | .toOutput =>
      { fdNum := .stdout
        fd := Copy.output
        direction := .out
        callback := (drain sys .stdout ByteStream.eof (close sys .stdout)).within outputLane
        interest := fun w => pending w.inbound w.inboundShutdown
        cancel := alter fun w => { w with inbound := w.inbound.endInput } }

def poll : Poll Port (Copy Kernel) := fun pollfds timeoutMs => (sys.poll pollfds timeoutMs).within kernelPart

def flows : List Flow := [.fromInput, .toSocket, .fromSocket, .toOutput]

def start (kernel : Kernel) (socket : FDWrapper) : Loop Flow (Copy Kernel) :=
  ⟨flows, { kernel := kernel, socket := socket }⟩

/-- The loop until completion, for at most `turns` waits: how it ended, if it did. -/
def run : Nat → Loop Flow (Copy Kernel) → Option (Except Thrown Unit) × Loop Flow (Copy Kernel)
  | 0, loop => (none, loop)
  | turns + 1, loop =>
      match waitNextEvent (rule sys) (poll sys) (-1) loop with
      | (.error thrown, loop) => (some (.error thrown), loop)
      | (.ok .exit, loop) => (some (.ok ()), loop)
      | (.ok _, loop) => run turns loop

/-- `bidirectional_stream_copy` after at most `turns` waits. -/
def bidirectionalStreamCopy (kernel : Kernel) (socket : FDWrapper) (turns : Nat) :
    Option (Except Thrown Unit) × Loop Flow (Copy Kernel) :=
  run sys turns (start kernel socket)

/-- The calls of `poll` in the first `turns` waits, or in fewer if the copy ends before. -/
def polls (turns : Nat) (loop : Loop Flow (Copy Kernel)) : Set (Answer Port) :=
  {answer | ∃ earlier < turns, ∃ before, run sys earlier loop = (none, before) ∧
    polled (rule sys) (poll sys) (-1) before = some answer}

end Definitions

structure Script where
  typed : List Byte
  sent : List Byte
  broken : Bool
  deriving DecidableEq, Repr

def scripted : SystemCalls Script Port where
  read
    | .stdin, size, kernel => (.ok (kernel.typed.take size), { kernel with typed := kernel.typed.drop size })
    | _, size, kernel => (.ok (kernel.sent.take size), { kernel with sent := kernel.sent.drop size })
  writev _ kernel iovecs :=
    (if kernel.broken then ⟨-1, 32⟩ else ⟨(min iovecs.flatten.length 4 : Nat), 0⟩, kernel)
  shutdown _ _ kernel := (.ok (), kernel)
  close _ kernel := (.ok (), kernel)
  poll pollfds _ kernel := (.ok (pollfds.length, pollfds.map PollFd.events), kernel)

theorem scripted_lawful : scripted.Lawful where
  read fd size kernel bytes after answer := by
    cases fd <;> cases answer <;> exact List.length_take_le _ _
  writev fd kernel iovecs := by
    cases broken : kernel.broken with
    | true => exact .inl (by simp [scripted, broken])
    | false =>
        right
        simp only [scripted, broken, Bool.false_eq_true, if_false]
        omega

/-! ### One direction -/

/-- The books of one direction: bytes `taken` from one descriptor and `handed` to the other, whether the end of
the first has been found, the stream between them, and whether each of the two rules is still there. -/
structure Half (taken handed : List Byte) (eof : Bool) (stream : ByteStream) (shutdown : Bool)
    (reading writing : Prop) : Prop where
  conserved : handed ++ stream.buffer = taken
  sound : stream.Sound
  capacity : stream.capacity = bufferSize
  unfailed : stream.error = false
  ended : eof = true ∨ ¬ reading → stream.inputEnded = true
  cause : stream.inputEnded = true → ¬ writing ∨ ¬ reading ∨ eof = true
  final : shutdown = true → stream.eof = true ∧ (¬ reading ∨ eof = true)

section Halves

variable {taken handed : List Byte} {eof shutdown : Bool} {stream : ByteStream} {reading writing : Prop}
  {lane after : Lane Kernel} {result : Except Thrown Unit}

theorem half_filled (half : Half lane.descriptor.taken handed lane.descriptor.eof lane.stream lane.shutdown
      reading writing) (present : reading) (alive : lane.descriptor.eof = false)
    (filled : Filled lane result after) :
    Half after.descriptor.taken handed after.descriptor.eof after.stream after.shutdown reading writing := by
  cases filled with
  | failed why kernel => exact half
  | bytes kernel bytes fits eof found =>
      have whole : (lane.stream.write bytes).2.buffer = lane.stream.buffer ++ bytes := by
        rw [ByteStream.write_buffer, List.take_of_length_le fits]
      have sound := ByteStream.write_sound half.sound bytes
      refine ⟨?_, ⟨sound.accounting, sound.bounded⟩, half.capacity, half.unfailed, ?_, ?_, ?_⟩
      · change handed ++ (lane.stream.write bytes).2.buffer = lane.descriptor.taken ++ bytes
        rw [whole, ← List.append_assoc, half.conserved]
      · rintro (over_ | absent)
        · change (lane.stream.inputEnded || eof) = true
          rw [show eof = true from over_, Bool.or_true]
        · exact (absent present).elim
      · intro ended
        rcases Bool.or_eq_true_iff.mp ended with already | now
        · rcases half.cause already with unwritten | unread | over_
          · exact .inl unwritten
          · exact .inr (.inl unread)
          · rw [alive] at over_
            cases over_
        · exact .inr (.inr now)
      · intro shut
        obtain ⟨_, unread | over_⟩ := half.final shut
        · exact (unread present).elim
        · rw [alive] at over_
          cases over_

theorem half_moved (half : Half taken lane.descriptor.handed eof lane.stream lane.shutdown reading writing)
    (kernel : Kernel) (n : Nat) :
    Half taken (lane.moved kernel n).descriptor.handed eof (lane.moved kernel n).stream lane.shutdown reading
      writing where
  conserved := by
    change lane.descriptor.handed ++ lane.stream.buffer.take n ++ (lane.stream.read n).2.buffer = taken
    rw [ByteStream.read_buffer, List.append_assoc, List.take_append_drop, half.conserved]
  sound := ByteStream.read_sound half.sound n
  capacity := half.capacity
  unfailed := half.unfailed
  ended := half.ended
  cause := half.cause
  final shut := ⟨ByteStream.eof_read (half.final shut).1 n, (half.final shut).2⟩

theorem half_drained {change : FDWrapper → FDWrapper} (drained : Drained ByteStream.eof change lane result after)
    (half : Half taken lane.descriptor.handed eof lane.stream lane.shutdown reading writing)
    (present : writing) (keeps : ∀ d, (change d).handed = d.handed) :
    Half taken after.descriptor.handed eof after.stream after.shutdown reading writing := by
  cases drained with
  | failed why kernel count => exact half
  | moved kernel n going => exact half_moved half kernel n
  | unfinished kernel n why done => exact half_moved half kernel n
  | finished kernel n done =>
      have moved := half_moved half kernel n
      rw [← keeps] at moved
      refine { moved with final := fun _ => ⟨done, ?_⟩ }
      rcases half.cause (Bool.and_eq_true_iff.mp done).2 with unwritten | rest
      · exact (unwritten present).elim
      · exact rest

theorem drained_final {change : FDWrapper → FDWrapper} (drained : Drained ByteStream.eof change lane result after)
    (over_ : lane.stream.eof = true) (shut : lane.shutdown = true) (keeps : ∀ d, (change d).handed = d.handed) :
    after.shutdown = true ∧ after.descriptor.handed = lane.descriptor.handed := by
  have empty : lane.stream.buffer = [] := List.isEmpty_iff.mp (Bool.and_eq_true_iff.mp over_).1
  have moved : ∀ kernel n, (lane.moved kernel n).descriptor.handed = lane.descriptor.handed := by
    intro kernel n
    change lane.descriptor.handed ++ lane.stream.buffer.take n = lane.descriptor.handed
    rw [empty, List.take_nil, List.append_nil]
  cases drained with
  | failed why kernel count => exact ⟨shut, rfl⟩
  | moved kernel n going => exact ⟨shut, moved kernel n⟩
  | unfinished kernel n why done => exact ⟨shut, moved kernel n⟩
  | finished kernel n done => exact ⟨rfl, (keeps _).trans (moved kernel n)⟩

theorem half_unread (half : Half taken handed eof stream shutdown reading writing) :
    Half taken handed eof stream.endInput shutdown False writing :=
  { half with
    sound := ⟨half.sound.accounting, half.sound.bounded⟩
    ended := fun _ => rfl
    cause := fun _ => .inr (.inl not_false)
    final := fun shut => ⟨by simpa [ByteStream.eof, ByteStream.endInput, ByteStream.bufferEmpty] using
      (Bool.and_eq_true_iff.mp (half.final shut).1).1, .inl not_false⟩ }

theorem half_unwritten (half : Half taken handed eof stream shutdown reading writing) :
    Half taken handed eof stream.endInput shutdown reading False :=
  { half with
    sound := ⟨half.sound.accounting, half.sound.bounded⟩
    ended := fun _ => rfl
    cause := fun _ => .inl not_false
    final := fun shut => ⟨by simpa [ByteStream.eof, ByteStream.endInput, ByteStream.bufferEmpty] using
      (Bool.and_eq_true_iff.mp (half.final shut).1).1, (half.final shut).2⟩ }

end Halves

/-! ### The four rules together -/

section Rules

variable {sys : SystemCalls Kernel Port} {answers : Set (Answer Port)} {w : Copy Kernel}

inductive Called (w : Copy Kernel) : Flow → Except Thrown Unit → Copy Kernel → Prop
  | fromInput {result : Except Thrown Unit} {lane : Lane Kernel} (filled : Filled (inputLane.get w) result lane) :
      Called w .fromInput result (inputLane.set lane w)
  | toSocket {result : Except Thrown Unit} {lane : Lane Kernel}
      (drained : Drained ByteStream.eof registerWrite (sendLane.get w) result lane) :
      Called w .toSocket result (sendLane.set lane w)
  | fromSocket {result : Except Thrown Unit} {lane : Lane Kernel}
      (filled : Filled (receiveLane.get w) result lane) :
      Called w .fromSocket result (receiveLane.set lane w)
  | toOutput {result : Except Thrown Unit} {lane : Lane Kernel}
      (drained : Drained ByteStream.eof (fun d => { d with eof := true, closed := true }) (outputLane.get w)
        result lane) :
      Called w .toOutput result (outputLane.set lane w)

theorem callback_called (lawful : sys.Lawful) (flow : Flow) (w : Copy Kernel) :
    Called w flow ((rule sys flow).callback w).1 ((rule sys flow).callback w).2 := by
  cases flow with
  | fromInput => exact .fromInput (fill_filled lawful _)
  | toSocket => exact .toSocket (drain_drained lawful shutdown_wr_changes _)
  | fromSocket => exact .fromSocket (fill_filled lawful _)
  | toOutput => exact .toOutput (drain_drained lawful close_changes _)

variable {lane after : Lane Kernel} {result : Except Thrown Unit}

theorem drained_closed {over_ : ByteStream → Bool}
    (drained : Drained over_ (fun d => { d with eof := true, closed := true }) lane result after)
    (open_ : lane.descriptor.closed = lane.shutdown) :
    Ages lane.descriptor after.descriptor ∧ after.descriptor.closed = after.shutdown := by
  cases drained with
  | failed why kernel count => exact ⟨.refl _, open_⟩
  | moved kernel n going => exact ⟨.refl _, open_⟩
  | unfinished kernel n why done => exact ⟨.refl _, open_⟩
  | finished kernel n done => exact ⟨⟨fun _ => rfl, fun _ => rfl⟩, rfl⟩

theorem flow_defunct {w w' : Copy Kernel} (input : Ages w.input w'.input) (output : Ages w.output w'.output)
    (socket : Ages w.socket w'.socket) {flow : Flow} (defunct : (rule sys flow).defunct w = true) :
    (rule sys flow).defunct w' = true := by
  cases flow with
  | fromInput => exact EventLoop.defunct_ages input defunct
  | toSocket => exact EventLoop.defunct_ages socket defunct
  | fromSocket => exact EventLoop.defunct_ages socket defunct
  | toOutput => exact EventLoop.defunct_ages output defunct

variable (sys answers) in
/-- A rule that has been deleted was defunct, or its descriptor had hung up. -/
def Accounted (rules : List Flow) (w : Copy Kernel) : Prop :=
  ∀ flow, flow ∈ rules ∨ (rule sys flow).defunct w = true ∨
    HungUp answers (rule sys flow).fdNum (rule sys flow).direction

theorem accounted_ages {rules : List Flow} {w w' : Copy Kernel} (accounted : Accounted sys answers rules w)
    (input : Ages w.input w'.input) (output : Ages w.output w'.output) (socket : Ages w.socket w'.socket) :
    Accounted sys answers rules w' := by
  intro flow
  exact (accounted flow).imp_right (Or.imp_left (flow_defunct input output socket))

variable (sys answers) in
structure Balanced (loop : Loop Flow (Copy Kernel)) : Prop where
  ordered : loop.rules.Sublist flows
  outbound : Half loop.world.input.taken loop.world.socket.handed loop.world.input.eof loop.world.outbound
    loop.world.outboundShutdown (.fromInput ∈ loop.rules) (.toSocket ∈ loop.rules)
  inbound : Half loop.world.socket.taken loop.world.output.handed loop.world.socket.eof loop.world.inbound
    loop.world.inboundShutdown (.fromSocket ∈ loop.rules) (.toOutput ∈ loop.rules)
  inputOpen : loop.world.input.closed = false
  socketOpen : loop.world.socket.closed = false
  outputOpen : loop.world.output.closed = loop.world.inboundShutdown
  gone : Accounted sys answers loop.rules loop.world

theorem Balanced.distinct {loop : Loop Flow (Copy Kernel)} (balanced : Balanced sys answers loop) : loop.rules.Nodup :=
  (show flows.Nodup by decide).sublist balanced.ordered

theorem called_balanced {loop : Loop Flow (Copy Kernel)} {flow : Flow} {later : Copy Kernel}
    (balanced : Balanced sys answers loop) (present : flow ∈ loop.rules)
    (alive : (rule sys flow).defunct loop.world = false) (called : Called loop.world flow result later) :
    Balanced sys answers ⟨loop.rules, later⟩ := by
  cases called with
  | fromInput filled =>
      have kept := filled_unwritten filled
      exact { balanced with
        outbound := half_filled balanced.outbound present (eof_of_live rfl alive) filled
        inputOpen := kept.closed.trans balanced.inputOpen
        gone := accounted_ages balanced.gone kept.ages (.refl _) (.refl _) }
  | fromSocket filled =>
      have kept := filled_unwritten filled
      have outbound := balanced.outbound
      rw [← show _ = loop.world.socket.handed from kept.handed] at outbound
      exact { balanced with
        outbound := outbound
        inbound := half_filled balanced.inbound present (eof_of_live rfl alive) filled
        socketOpen := kept.closed.trans balanced.socketOpen
        outputOpen := balanced.outputOpen.trans kept.shutdown.symm
        gone := accounted_ages balanced.gone (.refl _) (.refl _) kept.ages }
  | toSocket drained =>
      obtain ⟨taken, eof, closed⟩ := drained_unread drained
      have inbound := balanced.inbound
      rw [← show _ = loop.world.socket.taken from taken, ← show _ = loop.world.socket.eof from eof] at inbound
      exact { balanced with
        outbound := half_drained drained balanced.outbound present fun _ => rfl
        inbound := inbound
        socketOpen := closed.trans balanced.socketOpen
        gone := accounted_ages balanced.gone (.refl _) (.refl _)
          ⟨fun over_ => eof.trans over_, fun shut => closed.trans shut⟩ }
  | toOutput drained =>
      obtain ⟨ages, closed⟩ := drained_closed drained balanced.outputOpen
      exact { balanced with
        inbound := half_drained drained balanced.inbound present fun _ => rfl
        outputOpen := closed
        gone := accounted_ages balanced.gone (.refl _) ages (.refl _) }

theorem cancelled_balanced {loop : Loop Flow (Copy Kernel)} {flow : Flow} (balanced : Balanced sys answers loop)
    (cause : (rule sys flow).defunct loop.world = true ∨
      HungUp answers (rule sys flow).fdNum (rule sys flow).direction) :
    Balanced sys answers (cancelled (rule sys) loop flow) := by
  have gone : Accounted sys answers (loop.rules.erase flow) loop.world := by
    intro other
    by_cases same : other = flow
    · exact .inr (same ▸ cause)
    · exact (balanced.gone other).imp_left (List.mem_erase_of_ne same).mpr
  have ordered : (loop.rules.erase flow).Sublist flows := List.erase_sublist.trans balanced.ordered
  have left := fun other => balanced.distinct.mem_erase_iff (a := other) (b := flow)
  cases flow with
  | fromInput =>
      change Balanced sys answers ⟨_, { loop.world with outbound := loop.world.outbound.endInput }⟩
      exact { balanced with
        ordered := ordered
        outbound := by simpa [left] using half_unread balanced.outbound
        inbound := by simpa [left] using balanced.inbound
        gone := accounted_ages gone (.refl _) (.refl _) (.refl _) }
  | toSocket =>
      change Balanced sys answers ⟨_, { loop.world with outbound := loop.world.outbound.endInput }⟩
      exact { balanced with
        ordered := ordered
        outbound := by simpa [left] using half_unwritten balanced.outbound
        inbound := by simpa [left] using balanced.inbound
        gone := accounted_ages gone (.refl _) (.refl _) (.refl _) }
  | fromSocket =>
      change Balanced sys answers ⟨_, { loop.world with inbound := loop.world.inbound.endInput }⟩
      exact { balanced with
        ordered := ordered
        outbound := by simpa [left] using balanced.outbound
        inbound := by simpa [left] using half_unread balanced.inbound
        gone := accounted_ages gone (.refl _) (.refl _) (.refl _) }
  | toOutput =>
      change Balanced sys answers ⟨_, { loop.world with inbound := loop.world.inbound.endInput }⟩
      exact { balanced with
        ordered := ordered
        outbound := by simpa [left] using balanced.outbound
        inbound := by simpa [left] using half_unwritten balanced.inbound
        gone := accounted_ages gone (.refl _) (.refl _) (.refl _) }

variable (sys) in
def Live (flow : Flow) (w : Copy Kernel) : Prop := (rule sys flow).defunct w = false

theorem live_stays (lawful : sys.Lawful) : Stays (rule sys) (poll sys) (Live sys) where
  found _ _ alive := alive
  cancel flow other w _ alive := by
    cases other <;> cases flow <;> exact alive
  callback flow other w differ alive := by
    have called := callback_called lawful other w
    generalize ((rule sys other).callback w).1 = result, ((rule sys other).callback w).2 = later at called ⊢
    unfold Live Rule.defunct at alive ⊢
    cases called with
    | fromInput filled =>
        cases flow with
        | fromInput => exact (differ rfl).elim
        | _ => exact alive
    | toOutput drained =>
        cases flow with
        | toOutput => exact (differ rfl).elim
        | _ => exact alive
    | fromSocket filled =>
        cases flow with
        | fromSocket => exact (differ rfl).elim
        | toSocket => exact (filled_unwritten filled).closed.trans alive
        | _ => exact alive
    | toSocket drained =>
        obtain ⟨_, eof, closed⟩ := drained_unread drained
        cases flow with
        | toSocket => exact (differ rfl).elim
        | fromSocket =>
            exact Bool.or_eq_false_iff.mpr ⟨eof.trans (eof_of_live rfl alive),
              closed.trans (Bool.or_eq_false_iff.mp alive).2⟩
        | _ => exact alive
  poll flow _ _ w alive := by
    cases flow <;> exact alive

theorem step_balanced (lawful : sys.Lawful) {loop : Loop Flow (Copy Kernel)} (balanced : Balanced sys answers loop)
    (next : Step Flow Port) (permitted : Permitted (rule sys) answers (Live sys) loop next) :
    Balanced sys answers (step (rule sys) (poll sys) loop next) := by
  cases next with
  | retire flow => exact cancelled_balanced balanced (.inl permitted.2)
  | hangUp flow => exact cancelled_balanced balanced (.inr permitted.2)
  | call flow => exact called_balanced balanced permitted.1 permitted.2 (callback_called lawful flow _)
  | poll pollfds timeoutMs =>
      exact { balanced with gone := accounted_ages balanced.gone (.refl _) (.refl _) (.refl _) }

theorem runs_balanced (lawful : sys.Lawful) {loop last : Loop Flow (Copy Kernel)} (balanced : Balanced sys answers loop)
    (runs : Runs (rule sys) (poll sys) answers (Live sys) loop last) : Balanced sys answers last :=
  reachable_invariant balanced (fun _ next inv permitted => step_balanced lawful inv next permitted) runs

structure Fresh (socket : FDWrapper) : Prop where
  eof : socket.eof = false
  closed : socket.closed = false
  taken : socket.taken = []
  handed : socket.handed = []

theorem start_balanced {socket : FDWrapper} (fresh : Fresh socket) (kernel : Kernel) :
    Balanced sys answers (start kernel socket) where
  ordered := .refl _
  outbound := by
    refine ⟨?_, ByteStream.new_sound _, rfl, rfl, ?_, ?_, ?_⟩
    · exact (List.append_nil _).trans fresh.handed
    · rintro (over_ | absent)
      · cases over_
      · exact (absent List.mem_cons_self).elim
    · rintro ⟨⟩
    · rintro ⟨⟩
  inbound := by
    refine ⟨fresh.taken.symm, ByteStream.new_sound _, rfl, rfl, ?_, ?_, ?_⟩
    · rintro (over_ | absent)
      · exact absurd over_ (by rw [show (start kernel socket).world.socket.eof = false from fresh.eof]; decide)
      · exact (absent (show Flow.fromSocket ∈ flows by decide)).elim
    · rintro ⟨⟩
    · rintro ⟨⟩
  inputOpen := rfl
  socketOpen := fresh.closed
  outputOpen := rfl
  gone flow := by
    left
    change flow ∈ flows
    cases flow <;> decide

/-! ### The loop until completion -/

variable (sys answers) in
def Waits (loop last : Loop Flow (Copy Kernel)) : Prop :=
  Reachable (fun loop (_ : Unit) => (waitNextEvent (rule sys) (poll sys) (-1) loop).2)
    (fun loop _ => Noted (rule sys) (poll sys) answers (-1) loop) loop last

theorem polls_here {turns : Nat} {loop : Loop Flow (Copy Kernel)}
    (noted : polls sys (turns + 1) loop ⊆ answers) : Noted (rule sys) (poll sys) answers (-1) loop :=
  fun _ answer => noted ⟨0, Nat.succ_pos turns, loop, rfl, answer⟩

theorem polls_later {turns : Nat} {loop after : Loop Flow (Copy Kernel)}
    (onward : ∀ earlier, run sys (earlier + 1) loop = run sys earlier after)
    (noted : polls sys (turns + 1) loop ⊆ answers) : polls sys turns after ⊆ answers := by
  rintro answer ⟨earlier, below, before, going, answered⟩
  exact noted ⟨earlier + 1, Nat.succ_lt_succ below, before, (onward earlier).trans going, answered⟩

variable (sys answers) in
inductive Ended (loop : Loop Flow (Copy Kernel)) : Option (Except Thrown Unit) → Loop Flow (Copy Kernel) → Prop
  | running {last : Loop Flow (Copy Kernel)} (waits : Waits sys answers loop last) : Ended loop none last
  | failed {last after : Loop Flow (Copy Kernel)} {thrown : Thrown} (waits : Waits sys answers loop last)
      (noted : Noted (rule sys) (poll sys) answers (-1) last)
      (waited : waitNextEvent (rule sys) (poll sys) (-1) last = (.error thrown, after)) :
      Ended loop (some (.error thrown)) after
  | exited {last after : Loop Flow (Copy Kernel)} (waits : Waits sys answers loop last)
      (noted : Noted (rule sys) (poll sys) answers (-1) last)
      (waited : waitNextEvent (rule sys) (poll sys) (-1) last = (.ok .exit, after)) :
      Ended loop (some (.ok ())) after

theorem Ended.later {loop middle last : Loop Flow (Copy Kernel)} {result : Option (Except Thrown Unit)}
    (waits : Waits sys answers loop middle) (ended : Ended sys answers middle result last) :
    Ended sys answers loop result last := by
  cases ended with
  | running later => exact .running (reachable_trans waits later)
  | failed later noted waited => exact .failed (reachable_trans waits later) noted waited
  | exited later noted waited => exact .exited (reachable_trans waits later) noted waited

theorem run_ended {turns : Nat} {loop : Loop Flow (Copy Kernel)} (noted : polls sys turns loop ⊆ answers) :
    Ended sys answers loop (run sys turns loop).1 (run sys turns loop).2 := by
  induction turns generalizing loop with
  | zero => exact .running .start
  | succ turns ih =>
      have here := polls_here noted
      cases waited : waitNextEvent (rule sys) (poll sys) (-1) loop with
      | mk result after =>
          have first : Waits sys answers loop after := by
            have next : Waits sys answers loop _ := .next () .start here
            rwa [waited] at next
          have continues : (∀ earlier, run sys (earlier + 1) loop = run sys earlier after) →
              Ended sys answers loop (run sys (turns + 1) loop).1 (run sys (turns + 1) loop).2 := by
            intro onward
            rw [onward]
            exact (ih (polls_later onward noted)).later first
          cases result with
          | error thrown =>
              simp only [run, waited]
              exact .failed .start here waited
          | ok result =>
              cases result with
              | exit =>
                  simp only [run, waited]
                  exact .exited .start here waited
              | success => exact continues fun _ => by simp only [run, waited]
              | timeout => exact continues fun _ => by simp only [run, waited]

theorem waits_runs (lawful : sys.Lawful) {loop last : Loop Flow (Copy Kernel)}
    (balanced : Balanced sys answers loop) (waits : Waits sys answers loop last) :
    Runs (rule sys) (poll sys) answers (Live sys) loop last := by
  refine reachable_invariant (.refl loop) (fun state _ reached noted => ?_) waits
  exact reachable_trans reached
    (wait_ends (live_stays lawful) (runs_balanced lawful balanced reached).distinct noted).reached

variable {socket : FDWrapper}

theorem ended_runs (lawful : sys.Lawful) {loop last : Loop Flow (Copy Kernel)}
    (balanced : Balanced sys answers loop) {result : Option (Except Thrown Unit)}
    (ended : Ended sys answers loop result last) : Runs (rule sys) (poll sys) answers (Live sys) loop last := by
  -- the wait that ended the copy is one more
  have once : ∀ {before}, Waits sys answers loop before → Noted (rule sys) (poll sys) answers (-1) before →
      Waits sys answers loop (waitNextEvent (rule sys) (poll sys) (-1) before).2 :=
    fun waits noted => .next () waits noted
  cases ended with
  | running waits => exact waits_runs lawful balanced waits
  | failed waits noted waited =>
      have all := once waits noted
      rw [waited] at all
      exact waits_runs lawful balanced all
  | exited waits noted waited =>
      have all := once waits noted
      rw [waited] at all
      exact waits_runs lawful balanced all

theorem run_runs (lawful : sys.Lawful) {loop : Loop Flow (Copy Kernel)} (balanced : Balanced sys answers loop)
    {turns : Nat} (noted : polls sys turns loop ⊆ answers) :
    Runs (rule sys) (poll sys) answers (Live sys) loop (run sys turns loop).2 :=
  ended_runs lawful balanced (run_ended noted)

theorem copy_balanced (lawful : sys.Lawful) (fresh : Fresh socket) {kernel : Kernel} {turns : Nat}
    (noted : polls sys turns (start kernel socket) ⊆ answers) :
    Balanced sys answers (bidirectionalStreamCopy sys kernel socket turns).2 :=
  runs_balanced lawful (start_balanced fresh kernel) (run_runs lawful (start_balanced fresh kernel) noted)

/-- Every byte that was read has been written or waits in the bounded stream between, in order. -/
structure Conserved (w : Copy Kernel) : Prop where
  outbound : w.socket.handed ++ w.outbound.buffer = w.input.taken
  inbound : w.output.handed ++ w.inbound.buffer = w.socket.taken
  outboundBounded : w.outbound.buffer.length ≤ bufferSize
  inboundBounded : w.inbound.buffer.length ≤ bufferSize

/-- The copy loses, invents and reorders nothing and buffers at most a mebibyte each way, however much of what
it asks for the kernel does and wherever an exception ends it. -/
theorem copy_conserves_bytes (lawful : sys.Lawful) (fresh : Fresh socket) (kernel : Kernel) (turns : Nat) :
    Conserved (bidirectionalStreamCopy sys kernel socket turns).2.world := by
  have balanced : Balanced sys Set.univ (bidirectionalStreamCopy sys kernel socket turns).2 :=
    copy_balanced lawful fresh (Set.subset_univ _)
  exact ⟨balanced.outbound.conserved, balanced.inbound.conserved,
    balanced.outbound.sound.bounded.trans_eq balanced.outbound.capacity,
    balanced.inbound.sound.bounded.trans_eq balanced.inbound.capacity⟩

theorem partial_writes_conserved :
    (bidirectionalStreamCopy scripted ⟨[1, 2, 3, 4, 5, 6], [7, 8, 9], false⟩ {} 2).2.world.outbound.buffer = [5, 6] ∧
      Conserved (bidirectionalStreamCopy scripted ⟨[1, 2, 3, 4, 5, 6], [7, 8, 9], false⟩ {} 2).2.world :=
  ⟨by decide +kernel, copy_conserves_bytes scripted_lawful ⟨rfl, rfl, rfl, rfl⟩ _ 2⟩

/-! ### Nothing follows a shutdown -/

/-- A direction that has been shut down stays so, and its bytes stay as they are. -/
def Closed (shut shut' : Bool) (handed handed' taken taken' : List Byte) : Prop :=
  shut = true → shut' = true ∧ handed' = handed ∧ taken' = taken

structure Final (earlier later : Copy Kernel) : Prop where
  outbound : Closed earlier.outboundShutdown later.outboundShutdown earlier.socket.handed later.socket.handed
    earlier.input.taken later.input.taken
  inbound : Closed earlier.inboundShutdown later.inboundShutdown earlier.output.handed later.output.handed
    earlier.socket.taken later.socket.taken

theorem closed_refl (shut : Bool) (handed taken : List Byte) : Closed shut shut handed handed taken taken :=
  fun closed => ⟨closed, rfl, rfl⟩

theorem Final.trans {first second third : Copy Kernel} (earlier : Final first second)
    (later : Final second third) : Final first third where
  outbound shut := by
    obtain ⟨still, handed, taken⟩ := earlier.outbound shut
    obtain ⟨last, handedLater, takenLater⟩ := later.outbound still
    exact ⟨last, handedLater.trans handed, takenLater.trans taken⟩
  inbound shut := by
    obtain ⟨still, handed, taken⟩ := earlier.inbound shut
    obtain ⟨last, handedLater, takenLater⟩ := later.inbound still
    exact ⟨last, handedLater.trans handed, takenLater.trans taken⟩

theorem half_whole {taken handed : List Byte} {eof shutdown : Bool} {stream : ByteStream} {reading writing : Prop}
    (half : Half taken handed eof stream shutdown reading writing) (over_ : stream.eof = true) :
    handed = taken := by
  have empty : stream.buffer = [] := List.isEmpty_iff.mp (Bool.and_eq_true_iff.mp over_).1
  rw [← half.conserved, empty, List.append_nil]

theorem half_open {taken handed : List Byte} {eof shutdown : Bool} {stream : ByteStream} {reading writing : Prop}
    (half : Half taken handed eof stream shutdown reading writing) (present : reading) (alive : eof = false) :
    shutdown ≠ true := by
  intro shut
  rcases (half.final shut).2 with absent | ended
  · exact absent present
  · rw [alive] at ended
    cases ended

theorem called_final {loop : Loop Flow (Copy Kernel)} {flow : Flow} {later : Copy Kernel}
    (balanced : Balanced sys answers loop) (present : flow ∈ loop.rules)
    (alive : (rule sys flow).defunct loop.world = false) (called : Called loop.world flow result later) :
    Final loop.world later := by
  cases called with
  | fromInput filled =>
      have going := half_open balanced.outbound present (eof_of_live rfl alive)
      exact ⟨fun shut => (going shut).elim, closed_refl _ _ _⟩
  | toSocket drained =>
      refine ⟨fun shut => ?_, fun shut => ⟨shut, rfl, (drained_unread drained).1⟩⟩
      obtain ⟨still, handed⟩ := drained_final drained (balanced.outbound.final shut).1 shut fun _ => rfl
      exact ⟨still, handed, rfl⟩
  | fromSocket filled =>
      have going := half_open balanced.inbound present (eof_of_live rfl alive)
      exact ⟨fun shut => ⟨shut, (filled_unwritten filled).handed, rfl⟩, fun shut => (going shut).elim⟩
  | toOutput drained =>
      refine ⟨closed_refl _ _ _, fun shut => ?_⟩
      obtain ⟨still, handed⟩ := drained_final drained (balanced.inbound.final shut).1 shut fun _ => rfl
      exact ⟨still, handed, rfl⟩

theorem step_final (lawful : sys.Lawful) {loop : Loop Flow (Copy Kernel)} (balanced : Balanced sys answers loop)
    (next : Step Flow Port) (permitted : Permitted (rule sys) answers (Live sys) loop next) :
    Final loop.world (step (rule sys) (poll sys) loop next).world := by
  cases next with
  | retire flow => cases flow <;> exact ⟨closed_refl _ _ _, closed_refl _ _ _⟩
  | hangUp flow => cases flow <;> exact ⟨closed_refl _ _ _, closed_refl _ _ _⟩
  | poll pollfds timeoutMs => exact ⟨closed_refl _ _ _, closed_refl _ _ _⟩
  | call flow => exact called_final balanced permitted.1 permitted.2 (callback_called lawful flow _)

theorem runs_final (lawful : sys.Lawful) {loop last : Loop Flow (Copy Kernel)} (balanced : Balanced sys answers loop)
    (runs : Runs (rule sys) (poll sys) answers (Live sys) loop last) : Final loop.world last.world := by
  refine (reachable_invariant (P := fun state => Balanced sys answers state ∧ Final loop.world state.world)
    ⟨balanced, closed_refl _ _ _, closed_refl _ _ _⟩ ?_ runs).2
  rintro state next ⟨inv, final⟩ permitted
  exact ⟨step_balanced lawful inv next permitted, final.trans (step_final lawful inv next permitted)⟩

variable (sys) in
theorem run_add (turns more : Nat) (loop : Loop Flow (Copy Kernel)) :
    run sys (turns + more) loop = run sys turns loop ∨
      run sys (turns + more) loop = run sys more (run sys turns loop).2 := by
  induction turns generalizing loop with
  | zero =>
      rw [Nat.zero_add]
      exact .inr rfl
  | succ turns ih =>
      simp only [Nat.add_right_comm turns 1 more, run]
      cases waitNextEvent (rule sys) (poll sys) (-1) loop with
      | mk result after =>
          cases result with
          | error thrown => exact .inl rfl
          | ok result =>
              cases result with
              | exit => exact .inl rfl
              | success => exact ih after
              | timeout => exact ih after

theorem flows_settled : Settled (rule sys) flows := by
  -- the rules are in an order in which no cancellation wakes an earlier one
  refine .cons ?_ (.cons ?_ (.cons ?_ (.cons ?_ .nil)))
  · simp only [List.forall_mem_cons]
    exact ⟨fun _ idle => idle, fun _ idle => idle, fun _ idle => idle, List.forall_mem_nil _⟩
  · simp only [List.forall_mem_cons]
    exact ⟨fun _ idle => idle, fun _ idle => idle, List.forall_mem_nil _⟩
  · simp only [List.forall_mem_cons]
    exact ⟨fun _ idle => idle, List.forall_mem_nil _⟩
  · exact List.forall_mem_nil _

/-- What a direction that is over has done: all that was read has been written and the end has been passed on,
unless the descriptor it writes to has hung up. -/
def Through (answers : Set (Answer Port)) (source sink : Port) (taken handed : List Byte) (eof shut : Bool) :
    Prop :=
  HungUp answers sink .out ∨ handed = taken ∧ shut = true ∧ (eof = true ∨ HungUp answers source .in_)

theorem half_through {source sink : Port} {taken handed : List Byte}
    {eof shut : Bool} {stream other : ByteStream} {reading writing : Prop}
    (half : Half taken handed eof stream shut reading writing) (sane : other.error = false)
    (read : reading → roomIn stream other = false) (unread : reading ∨ eof = true ∨ HungUp answers source .in_)
    (written : writing → pending stream shut = false)
    (unwritten : writing ∨ shut = true ∨ HungUp answers sink .out) :
    Through answers source sink taken handed eof shut := by
  rcases unwritten with present | closed | hung
  · have idle := written present
    rw [pending, Bool.or_eq_false_iff, Bool.not_eq_false'] at idle
    have empty : stream.buffer = [] := List.isEmpty_iff.mp idle.1
    have absent : ¬ reading := by
      intro present
      have room : stream.remainingCapacity > 0 := by
        rw [ByteStream.remainingCapacity, ByteStream.bufferSize, empty, half.capacity]
        decide
      have full := read present
      simp [roomIn, half.unfailed, sane, room] at full
    have over_ : stream.eof = true := by
      rw [ByteStream.eof, idle.1, half.ended (.inr absent)]
      rfl
    exact .inr ⟨half_whole half over_, by simpa [over_] using idle.2, unread.resolve_left absent⟩
  · obtain ⟨over_, absent | ended⟩ := half.final closed
    · exact .inr ⟨half_whole half over_, closed, unread.resolve_left absent⟩
    · exact .inr ⟨half_whole half over_, closed, .inl ended⟩
  · exact .inl hung

structure Complete (answers : Set (Answer Port)) (w : Copy Kernel) : Prop where
  outbound : Through answers .stdin .socket w.input.taken w.socket.handed w.input.eof w.outboundShutdown
  inbound : Through answers .socket .stdout w.socket.taken w.output.handed w.socket.eof w.inboundShutdown

/-- The copy returns only when both directions are through, unless a signal has interrupted a call of `poll`. -/
theorem copy_returns_when_complete (lawful : sys.Lawful) (fresh : Fresh socket) (kernel : Kernel) (turns : Nat)
    (uninterrupted : ¬ Interrupted (polls sys turns (start kernel socket)))
    (returned : (bidirectionalStreamCopy sys kernel socket turns).1 = some (.ok ())) :
    Complete (polls sys turns (start kernel socket)) (bidirectionalStreamCopy sys kernel socket turns).2.world := by
  have ended : Ended sys (polls sys turns (start kernel socket)) _ _ _ := run_ended (subset_refl _)
  have started : Balanced sys (polls sys turns (start kernel socket)) (start kernel socket) :=
    start_balanced fresh kernel
  rw [show (run sys turns (start kernel socket)).1 = some (.ok ()) from returned] at ended
  have balanced := runs_balanced lawful started (ended_runs lawful started ended)
  unfold bidirectionalStreamCopy
  generalize (run sys turns (start kernel socket)).2 = last at ended balanced ⊢
  have idle : ∀ flow ∈ last.rules, (rule sys flow).interest last.world = false := by
    cases ended with
    | exited waits noted waited =>
        have earlier := runs_balanced lawful started (waits_runs lawful started waits)
        have exited := wait_exit (flows_settled.sublist earlier.ordered) (congrArg Prod.fst waited)
        rw [waited] at exited
        rcases exited with ⟨pollfds, signal⟩ | idle
        · exact (uninterrupted ⟨pollfds, noted _ signal⟩).elim
        · exact idle
  constructor
  · refine half_through balanced.outbound balanced.inbound.unfailed (idle .fromInput) ?_ (idle .toSocket) ?_
    · exact (balanced.gone .fromInput).imp_right (Or.imp_left (eof_of_defunct balanced.inputOpen))
    · refine (balanced.gone .toSocket).imp_right (Or.imp_left fun defunct => ?_)
      cases balanced.socketOpen.symm.trans (closed_of_defunct rfl defunct)
  · refine half_through balanced.inbound balanced.outbound.unfailed (idle .fromSocket) ?_ (idle .toOutput) ?_
    · exact (balanced.gone .fromSocket).imp_right (Or.imp_left (eof_of_defunct balanced.socketOpen))
    · exact (balanced.gone .toOutput).imp_right
        (Or.imp_left fun defunct => balanced.outputOpen.symm.trans (closed_of_defunct rfl defunct))

theorem scripted_copy_returns :
    (bidirectionalStreamCopy scripted ⟨[1, 2, 3, 4, 5, 6], [7, 8, 9], false⟩ {} 7).1 = some (.ok ()) ∧
      Complete (polls scripted 7 (start ⟨[1, 2, 3, 4, 5, 6], [7, 8, 9], false⟩ {}))
        (bidirectionalStreamCopy scripted ⟨[1, 2, 3, 4, 5, 6], [7, 8, 9], false⟩ {} 7).2.world := by
  have quiet : ¬ Interrupted (polls scripted 7 (start ⟨[1, 2, 3, 4, 5, 6], [7, 8, 9], false⟩ {})) := by
    rintro ⟨pollfds, earlier, below, before, going, signal⟩
    exact polled_answered (fun _ _ => ⟨_, rfl⟩) before pollfds eintr signal
  have returned : (bidirectionalStreamCopy scripted ⟨[1, 2, 3, 4, 5, 6], [7, 8, 9], false⟩ {} 7).1 =
      some (.ok ()) := by decide +kernel
  exact ⟨returned, copy_returns_when_complete scripted_lawful ⟨rfl, rfl, rfl, rfl⟩ _ 7 quiet returned⟩

theorem called_serves {flow : Flow} {later : Copy Kernel} (called : Called w flow (.ok ()) later) :
    (rule sys flow).serviceCount w ≠ (rule sys flow).serviceCount later := by
  apply ne_of_lt
  cases called with
  | fromInput filled => cases filled; exact Nat.lt_succ_self _
  | fromSocket filled => cases filled; exact Nat.lt_succ_self _
  | toSocket drained =>
      cases drained with
      | moved kernel n going => exact Nat.lt_succ_self _
      | finished kernel n done => exact Nat.lt_succ_of_lt (Nat.lt_succ_self _)
  | toOutput drained =>
      cases drained with
      | moved kernel n going => exact Nat.lt_succ_self _
      | finished kernel n done => exact Nat.lt_succ_self _

theorem called_refused {flow : Flow} {thrown : Thrown} {later : Copy Kernel}
    (called : Called w flow (.error thrown) later) : Refused thrown := by
  cases called with
  | fromInput filled => cases filled; assumption
  | fromSocket filled => cases filled; assumption
  | toSocket drained => cases drained <;> assumption
  | toOutput drained => cases drained <;> assumption

theorem raised_refused (lawful : sys.Lawful) {loop : Loop Flow (Copy Kernel)} {thrown : Thrown}
    (raised : Raised (rule sys) answers (Live sys) loop thrown) :
    Refused thrown ∨
      thrown = .runtimeError "EventLoop: error on polled file descriptor" ∧ Faulty answers := by
  cases raised with
  | cancel flow present failed => cases flow <;> cases failed
  | callback flow present alive failed =>
      have called := callback_called lawful flow loop.world
      rw [failed] at called
      exact .inl (called_refused called)
  | polled faulty => exact .inr ⟨rfl, faulty⟩
  | busy flow present alive done idle interested =>
      have called := callback_called lawful flow loop.world
      rw [done] at called
      exact (called_serves called idle).elim

/-- The copy fails only if a system call fails, a write makes no progress or `poll` has reported an error. -/
theorem copy_throws_for_descriptors (lawful : sys.Lawful) (fresh : Fresh socket) (kernel : Kernel) (turns : Nat)
    {thrown : Thrown} (failed : (bidirectionalStreamCopy sys kernel socket turns).1 = some (.error thrown)) :
    Refused thrown ∨
      thrown = .runtimeError "EventLoop: error on polled file descriptor" ∧
        Faulty (polls sys turns (start kernel socket)) := by
  have ended : Ended sys (polls sys turns (start kernel socket)) _ _ _ := run_ended (subset_refl _)
  have started : Balanced sys (polls sys turns (start kernel socket)) (start kernel socket) :=
    start_balanced fresh kernel
  rw [show (run sys turns (start kernel socket)).1 = some (.error thrown) from failed] at ended
  generalize (run sys turns (start kernel socket)).2 = last at ended
  cases ended with
  | failed waits noted waited =>
      have earlier := runs_balanced lawful started (waits_runs lawful started waits)
      have ends := wait_ends (live_stays lawful) earlier.distinct noted
      rw [waited] at ends
      obtain ⟨_, _, raised⟩ := ends.raised thrown rfl
      exact raised_refused lawful raised

theorem broken_pipe_refused :
    (bidirectionalStreamCopy scripted ⟨[1, 2, 3, 4, 5, 6], [7, 8, 9], true⟩ {} 7).1 =
        some (.error (.unixError "writev" 32)) ∧
      (Refused (.unixError "writev" 32) ∨
        Thrown.unixError "writev" 32 = .runtimeError "EventLoop: error on polled file descriptor" ∧
          Faulty (polls scripted 7 (start ⟨[1, 2, 3, 4, 5, 6], [7, 8, 9], true⟩ {}))) := by
  have failed : (bidirectionalStreamCopy scripted ⟨[1, 2, 3, 4, 5, 6], [7, 8, 9], true⟩ {} 7).1 =
      some (.error (.unixError "writev" 32)) := by decide +kernel
  exact ⟨failed, copy_throws_for_descriptors scripted_lawful ⟨rfl, rfl, rfl, rfl⟩ _ 7 failed⟩

end Rules

end Sponge.StreamCopy

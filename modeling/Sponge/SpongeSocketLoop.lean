import Sponge.SpongeSocket

/-! Whole runs of `_tcp_loop`. A run is cut into turns: the small steps of the event loop, and the passing of
time between two waits. -/

namespace Sponge.SpongeSocket

open FileDescriptor Sponge.Action FDWrapper EventLoop StreamRules Transition ConnectionRun ConnectionState

variable {Kernel State : Type}

inductive Turn
  | event (next : Step Flow Port)
  | elapse (ms : UInt64)

section Definitions

variable (env : Environment Kernel) (adapter : DatagramAdapter Kernel State) (answers : Set (Answer Port))

def turn (loop : Loop Flow (TCPSpongeSocket Kernel State)) : Turn → Loop Flow (TCPSpongeSocket Kernel State)
  | .event next => step (rule env adapter) (poll env) loop next
  | .elapse ms => { loop with world := (elapse adapter ms loop.world).2 }

def TurnPermitted (loop : Loop Flow (TCPSpongeSocket Kernel State)) : Turn → Prop
  | .event next => Permitted (rule env adapter) answers Live loop next
  | .elapse _ => True

def Hears (w : TCPSpongeSocket Kernel State) : Turn → TCPSegment → Prop
  | .event (.call flow), segment => Fetched adapter w flow segment
  | _, _ => False

def Turns (loop last : Loop Flow (TCPSpongeSocket Kernel State)) : Prop :=
  Reachable (turn env adapter) (TurnPermitted env adapter answers) loop last

end Definitions

variable {env : Environment Kernel} {adapter : DatagramAdapter Kernel State} {answers : Set (Answer Port)}
  {loop last : Loop Flow (TCPSpongeSocket Kernel State)} {e : Endpoint} {filled : List TCPSegment}

/-- A turn does to the socket what a few operations do to its endpoint. -/
theorem turn_coupled (lawful : env.toSystemCalls.Lawful) (adapted : adapter.Lawful)
    (settled : Settled filled e.conn) (coupled : Coupled env adapter answers loop e) (next : Turn)
    (permitted : TurnPermitted env adapter answers loop next) :
    ∃ e', Performs (Hears adapter loop.world next) e e' ∧
      Coupled env adapter answers (turn env adapter loop next) e' := by
  cases next with
  | elapse ms =>
      refine ⟨e.operate (.tick ms), performs_one (.tick ms) trivial ?_, coupled.ordered, ?_, ?_,
        coupled.ownerOpen,
        accounted_ages coupled.gone (.refl _) (adapted.tickAges ms (loop.world.kernel, loop.world.datagramAdapter))⟩
      · intro segment same
        cases same
      · exact tracks_operate coupled.tracks (.tick ms) rfl rfl (List.append_nil _).symm (List.append_nil _).symm
      · intro over_
        refine coupled.ended ((TCPConnection.operate_inputEnded settled ?_).symm.trans over_)
        intro same
        cases same
  | event next =>
      cases next with
      | retire flow => exact cancelled_coupled coupled (.inl permitted.2)
      | hangUp flow => exact cancelled_coupled coupled (.inr permitted.2)
      | call flow =>
          exact called_coupled adapted settled coupled permitted.1 permitted.2
            (callback_called lawful adapted flow loop.world)
      | poll pollfds timeoutMs =>
          exact ⟨e, performs_nothing _ e, coupled.ordered, { coupled.tracks with }, coupled.ended,
            coupled.ownerOpen, accounted_ages coupled.gone (.refl _) (.refl _)⟩

def Orderly (e : Endpoint) (operation : Operation) : Prop := NoLateWrite e.conn operation

theorem performs_reaches {heard : TCPSegment → Prop} {first later : Endpoint}
    (reached : Reachable Endpoint.operate Orderly first e) (performs : Performs heard e later) :
    Reachable Endpoint.operate Orderly first later := by
  obtain ⟨operations, allowed, rfl⟩ := performs
  exact reachable_trans reached (reachable_run operations (allowedRun_imp (fun _ _ fine => fine.1) allowed))

theorem performs_source {heard : TCPSegment → Prop} {later : Endpoint} (source : Endpoint.Source filled e)
    (performs : Performs heard e later) : ∃ filled, Endpoint.Source filled later := by
  obtain ⟨operations, allowed, rfl⟩ := performs
  exact reachable_invariant (P := fun e => ∃ filled, Endpoint.Source filled e) ⟨filled, source⟩
    (fun e operation ⟨_, source⟩ fine => ⟨_, Endpoint.operate_source source operation fine⟩)
    (reachable_run operations (allowedRun_imp (fun _ _ fine => fine.1) allowed))

variable (env adapter answers) in
/-- The socket stands for an endpoint that an application has used in an orderly way. -/
structure Sound (first : Endpoint) (loop : Loop Flow (TCPSpongeSocket Kernel State)) : Prop where
  endpoint : ∃ e filled, Reachable Endpoint.operate Orderly first e ∧ Endpoint.Source filled e ∧
    Coupled env adapter answers loop e

theorem Sound.distinct {first : Endpoint} (sound : Sound env adapter answers first loop) : loop.rules.Nodup := by
  obtain ⟨e, filled, _, _, coupled⟩ := sound.endpoint
  exact coupled.distinct

theorem turn_sound (lawful : env.toSystemCalls.Lawful) (adapted : adapter.Lawful) {first : Endpoint}
    (sound : Sound env adapter answers first loop) (next : Turn)
    (permitted : TurnPermitted env adapter answers loop next) :
    Sound env adapter answers first (turn env adapter loop next) := by
  obtain ⟨e, filled, reached, source, coupled⟩ := sound.endpoint
  obtain ⟨e', performs, coupled⟩ := turn_coupled lawful adapted source.settled coupled next permitted
  obtain ⟨filled, source⟩ := performs_source source performs
  exact ⟨e', filled, performs_reaches reached performs, source, coupled⟩

theorem turns_sound (lawful : env.toSystemCalls.Lawful) (adapted : adapter.Lawful) {first : Endpoint}
    (sound : Sound env adapter answers first loop) (turns : Turns env adapter answers loop last) :
    Sound env adapter answers first last :=
  reachable_invariant sound (fun _ next sound permitted => turn_sound lawful adapted sound next permitted) turns

theorem runs_turns (runs : Runs (rule env adapter) (poll env) answers Live loop last) :
    Turns env adapter answers loop last := by
  induction runs with
  | start => exact .start
  | next next _ permitted ih =>
      have onward : Turns env adapter answers loop _ := Reachable.next (Turn.event next) ih permitted
      exact onward

theorem start_coupled (kernel : Kernel) (state : State) (cfg : TCPConfig) (randomIsn : WrappingInt32) :
    Coupled env adapter answers (start kernel state cfg randomIsn) (.new cfg randomIsn) := by
  refine ⟨.refl _, ⟨rfl, rfl, rfl⟩, ?_, rfl, ?_⟩
  · intro over_
    cases over_
  · intro flow
    left
    change flow ∈ flows
    cases flow <;> decide

theorem start_sound (kernel : Kernel) (state : State) (cfg : TCPConfig) (randomIsn : WrappingInt32) :
    Sound env adapter answers (.new cfg randomIsn) (start kernel state cfg randomIsn) :=
  ⟨.new cfg randomIsn, [], .start, Endpoint.new_source cfg randomIsn, start_coupled kernel state cfg randomIsn⟩

/-! ### The loop -/

variable {condition : TCPSpongeSocket Kernel State → Bool}

theorem wait_turns (lawful : env.toSystemCalls.Lawful) (adapted : adapter.Lawful) {first : Endpoint}
    (sound : Sound env adapter answers first loop)
    (noted : Noted (rule env adapter) (poll env) answers tcpTickMs loop) :
    Turns env adapter answers loop (waitNextEvent (rule env adapter) (poll env) tcpTickMs loop).2 :=
  runs_turns (wait_ends (live_stays lawful adapted) sound.distinct noted).reached

theorem elapse_turns (ms : UInt64) :
    Turns env adapter answers loop { loop with world := (elapse adapter ms loop.world).2 } := by
  have once : Turns env adapter answers loop _ := Reachable.next (Turn.elapse ms) .start trivial
  exact once

variable (env adapter answers condition) in
inductive Ended (loop : Loop Flow (TCPSpongeSocket Kernel State)) :
    Option (Except Thrown Unit) → Loop Flow (TCPSpongeSocket Kernel State) → Prop
  | running {last : Loop Flow (TCPSpongeSocket Kernel State)} (turns : Turns env adapter answers loop last) :
      Ended loop none last
  | finished {last : Loop Flow (TCPSpongeSocket Kernel State)} (turns : Turns env adapter answers loop last)
      (over_ : condition last.world = false) : Ended loop (some (.ok ())) last
  | stopped {last after : Loop Flow (TCPSpongeSocket Kernel State)} {ret : Result}
      (turns : Turns env adapter answers loop last) (noted : Noted (rule env adapter) (poll env) answers tcpTickMs last)
      (waited : waitNextEvent (rule env adapter) (poll env) tcpTickMs last = (.ok ret, after))
      (exit : ret = .exit ∨ env.abort after.world.kernel = true) : Ended loop (some (.ok ())) after
  | failed {last after : Loop Flow (TCPSpongeSocket Kernel State)} {thrown : Thrown}
      (turns : Turns env adapter answers loop last) (noted : Noted (rule env adapter) (poll env) answers tcpTickMs last)
      (waited : waitNextEvent (rule env adapter) (poll env) tcpTickMs last = (.error thrown, after)) :
      Ended loop (some (.error thrown)) after
  | expired {last : Loop Flow (TCPSpongeSocket Kernel State)} {ms : UInt64} {thrown : Thrown}
      {w : TCPSpongeSocket Kernel State} (turns : Turns env adapter answers loop last)
      (ticked : elapse adapter ms last.world = (.error thrown, w)) :
      Ended loop (some (.error thrown)) { last with world := w }

theorem Ended.later {middle : Loop Flow (TCPSpongeSocket Kernel State)} {result : Option (Except Thrown Unit)}
    (turns : Turns env adapter answers loop middle) (ended : Ended env adapter answers condition middle result last) :
    Ended env adapter answers condition loop result last := by
  cases ended with
  | running later => exact .running (reachable_trans turns later)
  | finished later over_ => exact .finished (reachable_trans turns later) over_
  | stopped later noted waited exit => exact .stopped (reachable_trans turns later) noted waited exit
  | failed later noted waited => exact .failed (reachable_trans turns later) noted waited
  | expired later ticked => exact .expired (reachable_trans turns later) ticked

theorem loopPolls_here {turns : Nat} {baseTime : UInt64} (holds : condition loop.world = true)
    (noted : loopPolls env adapter condition (turns + 1) baseTime loop ⊆ answers) :
    Noted (rule env adapter) (poll env) answers tcpTickMs loop :=
  fun _ answer => noted ⟨0, Nat.succ_pos turns, loop, rfl, holds, answer⟩

theorem loopPolls_later {turns : Nat} {baseTime nextTime : UInt64}
    {after : Loop Flow (TCPSpongeSocket Kernel State)}
    (onward : ∀ earlier, tcpLoop env adapter condition (earlier + 1) baseTime loop =
      tcpLoop env adapter condition earlier nextTime after)
    (noted : loopPolls env adapter condition (turns + 1) baseTime loop ⊆ answers) :
    loopPolls env adapter condition turns nextTime after ⊆ answers := by
  rintro answer ⟨earlier, below, before, going, answered⟩
  exact noted ⟨earlier + 1, Nat.succ_lt_succ below, before, (onward earlier).trans going, answered⟩

theorem tcpLoop_ended (lawful : env.toSystemCalls.Lawful) (adapted : adapter.Lawful) {first : Endpoint}
    (sound : Sound env adapter answers first loop) {turns : Nat} {baseTime : UInt64}
    (noted : loopPolls env adapter condition turns baseTime loop ⊆ answers) :
    Ended env adapter answers condition loop (tcpLoop env adapter condition turns baseTime loop).1
      (tcpLoop env adapter condition turns baseTime loop).2 := by
  induction turns generalizing loop baseTime with
  | zero => exact .running .start
  | succ turns ih =>
      have continues : ∀ {after} nextTime, Turns env adapter answers loop after →
          (∀ earlier, tcpLoop env adapter condition (earlier + 1) baseTime loop =
            tcpLoop env adapter condition earlier nextTime after) →
          Ended env adapter answers condition loop (tcpLoop env adapter condition (turns + 1) baseTime loop).1
            (tcpLoop env adapter condition (turns + 1) baseTime loop).2 := by
        intro after nextTime steps onward
        rw [onward]
        exact (ih (turns_sound lawful adapted sound steps) (loopPolls_later onward noted)).later steps
      cases holds : condition loop.world with
      | false =>
          simp only [tcpLoop, holds, Bool.not_false, if_true]
          exact .finished .start holds
      | true =>
          have here := loopPolls_here holds noted
          have steps := wait_turns lawful adapted sound here
          cases waited : waitNextEvent (rule env adapter) (poll env) tcpTickMs loop with
          | mk result after =>
              rw [waited] at steps
              cases result with
              | error thrown =>
                  simp only [tcpLoop, holds, waited]
                  exact .failed .start here waited
              | ok ret =>
                  by_cases exit : ret = .exit ∨ env.abort after.world.kernel = true
                  · simp only [tcpLoop, holds, waited, if_pos exit]
                    exact .stopped .start here waited exit
                  · cases running : after.world.tcp.active with
                    | false =>
                        refine continues baseTime steps fun _ => ?_
                        simp only [tcpLoop, holds, waited, if_neg exit, running]
                        rfl
                    | true =>
                        have passes : Turns env adapter answers after _ :=
                          elapse_turns (env.timestampMs after.world.kernel - baseTime)
                        cases ticked : elapse adapter (env.timestampMs after.world.kernel - baseTime) after.world with
                        | mk result w =>
                            rw [ticked] at passes
                            cases result with
                            | error thrown =>
                                simp only [tcpLoop, holds, waited, if_neg exit, running, ticked]
                                exact .expired steps ticked
                            | ok _ =>
                                refine continues (env.timestampMs after.world.kernel)
                                  (reachable_trans steps passes) fun _ => ?_
                                simp only [tcpLoop, holds, waited, if_neg exit, running, ticked]
                                rfl

theorem ended_turns (lawful : env.toSystemCalls.Lawful) (adapted : adapter.Lawful) {first : Endpoint}
    (sound : Sound env adapter answers first loop) {result : Option (Except Thrown Unit)}
    (ended : Ended env adapter answers condition loop result last) : Turns env adapter answers loop last := by
  cases ended with
  | running turns => exact turns
  | finished turns over_ => exact turns
  | stopped turns noted waited exit =>
      have steps := wait_turns lawful adapted (turns_sound lawful adapted sound turns) noted
      rw [waited] at steps
      exact reachable_trans turns steps
  | failed turns noted waited =>
      have steps := wait_turns lawful adapted (turns_sound lawful adapted sound turns) noted
      rw [waited] at steps
      exact reachable_trans turns steps
  | @expired before ms thrown w turns ticked =>
      have passes : Turns env adapter answers before _ := elapse_turns ms
      rw [ticked] at passes
      exact reachable_trans turns passes

/-! ### Opening -/

theorem connect_state (cfg : TCPConfig) (randomIsn : WrappingInt32) :
    (TCPConnection.new cfg randomIsn).connect.state = .ofState .synSent := by
  obtain ⟨sent, fills⟩ := SenderFill.fillWindow_fills (TCPConnection.new cfg randomIsn).sender (fun _ => le_refl 1)
  have one : Tiling.span TCPSegment.lengthInSequenceSpace sent = 1 := fills.space
  have next : (TCPConnection.new cfg randomIsn).sender.fillWindow.nextSeqno = 1 := by
    rw [fills.emits.nextSeqno, one]
    rfl
  have current : (TCPConnection.new cfg randomIsn).sender.fillWindow.currentSeqno = 0 := fills.emits.currentSeqno
  have error : (TCPConnection.new cfg randomIsn).sender.fillWindow.stream.error = false := fills.emits.error
  have active : (TCPConnection.new cfg randomIsn).connect.active = true :=
    (TCPConnection.active_iff _).mpr
      ⟨by rw [TCPConnection.connect, TCPConnection.send_error]; rfl,
        .inr (by rw [TCPConnection.connect, TCPConnection.send_linger]; rfl)⟩
  have sender : (TCPConnection.new cfg randomIsn).connect.sender.stateSummary = .synSent := by
    rw [TCPConnection.connect, TCPConnection.send_sender]
    simp [TCPSender.stateSummary, TCPSender.bytesInFlight, next, current, error]
  have receiver : (TCPConnection.new cfg randomIsn).connect.receiver.stateSummary = .listen := by
    rw [TCPConnection.connect, TCPConnection.send_receiver]
    rfl
  have linger : (TCPConnection.new cfg randomIsn).connect.lingerAfterStreamsFinish = true := by
    rw [TCPConnection.connect, TCPConnection.send_linger]
    rfl
  rw [TCPConnection.state, sender, receiver, active, linger]
  rfl

theorem openSocket_eq (opening : Opening) (kernel : Kernel) (state : State) (cfg : TCPConfig)
    (randomIsn : WrappingInt32) (turns : Nat) :
    openSocket env adapter opening kernel state cfg randomIsn turns =
      tcpLoop env adapter opening.pending turns (env.timestampMs kernel)
        (launched opening kernel state cfg randomIsn) := by
  cases opening with
  | connect => exact if_neg (not_not.mpr (connect_state cfg randomIsn))
  | listenAndAccept => rfl

theorem connecting_coupled (kernel : Kernel) (state : State) (cfg : TCPConfig) (randomIsn : WrappingInt32) :
    Coupled env adapter answers (connecting kernel state cfg randomIsn)
      ((Endpoint.new cfg randomIsn).operate .connect) := by
  have coupled : Coupled env adapter answers _ _ := start_coupled kernel state cfg randomIsn
  refine ⟨coupled.ordered, tracks_operate coupled.tracks .connect rfl rfl (List.append_nil _).symm
    (List.append_nil _).symm, ?_, coupled.ownerOpen, accounted_ages coupled.gone (.refl _) (.refl _)⟩
  intro over_
  have settled := (Endpoint.new_source cfg randomIsn).settled
  refine coupled.ended ((TCPConnection.operate_inputEnded settled ?_).symm.trans over_)
  intro same
  cases same

theorem connecting_sound (kernel : Kernel) (state : State) (cfg : TCPConfig) (randomIsn : WrappingInt32) :
    Sound env adapter answers (.new cfg randomIsn) (connecting kernel state cfg randomIsn) :=
  ⟨_, _, .next Operation.connect .start trivial,
    Endpoint.operate_source (Endpoint.new_source cfg randomIsn) .connect trivial,
    connecting_coupled kernel state cfg randomIsn⟩

theorem launched_sound (opening : Opening) (kernel : Kernel) (state : State) (cfg : TCPConfig)
    (randomIsn : WrappingInt32) :
    Sound env adapter answers (.new cfg randomIsn) (launched opening kernel state cfg randomIsn) := by
  cases opening with
  | connect => exact connecting_sound kernel state cfg randomIsn
  | listenAndAccept => exact start_sound kernel state cfg randomIsn

theorem socketRun_ended (lawful : env.toSystemCalls.Lawful) (adapted : adapter.Lawful) (opening : Opening)
    (kernel : Kernel) (state : State) (cfg : TCPConfig) (randomIsn : WrappingInt32) (opened turns : Nat)
    (noted : socketPolls env adapter opening kernel state cfg randomIsn opened turns ⊆ answers) :
    ∃ condition loop, Sound env adapter answers (.new cfg randomIsn) loop ∧
      Ended env adapter answers condition loop
        (socketRun env adapter opening kernel state cfg randomIsn opened turns).1
        (socketRun env adapter opening kernel state cfg randomIsn opened turns).2 ∧
      ((socketRun env adapter opening kernel state cfg randomIsn opened turns).1 = some (.ok ()) →
        condition = fun _ => true) := by
  have sound : Sound env adapter answers _ _ := launched_sound opening kernel state cfg randomIsn
  have ended := tcpLoop_ended lawful adapted sound (Set.subset_union_left.trans noted)
  rw [← openSocket_eq] at ended
  have soundAfter := turns_sound lawful adapted sound (ended_turns lawful adapted sound ended)
  unfold socketRun
  split
  case h_1 after ran =>
    rw [ran] at soundAfter
    have later : loopPolls env adapter (fun _ => true) turns (env.timestampMs after.world.kernel) after ⊆ answers :=
      fun _ answer => noted (.inr ⟨after, ran, answer⟩)
    exact ⟨fun _ => true, after, soundAfter, tcpLoop_ended lawful adapted soundAfter later, fun _ => rfl⟩
  case h_2 unfinished =>
    refine ⟨opening.pending, _, sound, ended, ?_⟩
    intro done
    cases ran : openSocket env adapter opening kernel state cfg randomIsn opened with
    | mk result after =>
        rw [ran] at done
        exact (unfinished after (ran.trans (Prod.ext done rfl))).elim

/-! ### A scripted peer -/

structure Script (Answer : Type) where
  typed : List Byte
  answers : List Answer
  broken : Bool := false
  deriving DecidableEq, Repr

def scripted {Answer : Type} : Environment (Script Answer) where
  read _ size kernel :=
    if kernel.broken then (.error 5, kernel)
    else (.ok (kernel.typed.take size), { kernel with typed := kernel.typed.drop size })
  writev _ kernel iovecs := (⟨(min iovecs.flatten.length 4 : Nat), 0⟩, kernel)
  shutdown _ _ kernel := (.ok (), kernel)
  close _ kernel := (.ok (), kernel)
  poll pollfds _ kernel := (.ok (pollfds.length, pollfds.map PollFd.events), kernel)
  timestampMs _ := 0
  abort _ := false

theorem scripted_lawful {Answer : Type} : (scripted : Environment (Script Answer)).toSystemCalls.Lawful where
  read fd size kernel bytes after answer := by
    cases broken : kernel.broken with
    | true =>
        simp only [scripted, broken, if_true] at answer
        cases answer
    | false =>
        simp only [scripted, broken, Bool.false_eq_true, if_false] at answer
        cases answer
        exact List.length_take_le _ _
  writev fd kernel iovecs := by
    right
    simp only [scripted]
    omega

def scriptedAdapter : DatagramAdapter (Script TCPSegment) FDWrapper where
  descriptor := id
  read := fun (kernel, d) => (.ok kernel.answers.head?, { kernel with answers := kernel.answers.tail }, d.registerRead)
  write _ := fun (kernel, d) => (.ok (), kernel, d.registerWrite)
  tick _ := fun part => (.ok (), part)

theorem scriptedAdapter_lawful : scriptedAdapter.Lawful where
  read kernel state found after answer := by
    cases answer
    exact Nat.lt_succ_self _
  readAges _ := .refl _
  writeAges _ _ := .refl _
  tickAges _ _ := .refl _

def shortTalk : List TCPSegment :=
  [{ header := { seqno := ⟨9⟩, ackno := ⟨6⟩, syn := true, ack := true, win := 100 }, payload := [] },
    { header := { seqno := ⟨10⟩, ackno := ⟨6⟩, ack := true, win := 100 }, payload := [7, 8, 9] },
    { header := { seqno := ⟨13⟩, rst := true }, payload := [] }]

def tinyConfig : TCPConfig := { recvCapacity := 8, sendCapacity := 8 }

def talk (broken : Bool) (turns : Nat) :
    Option (Except Thrown Unit) × Loop Flow (TCPSpongeSocket (Script TCPSegment) FDWrapper) :=
  socketRun scripted scriptedAdapter .connect ⟨[1, 2, 3], shortTalk, broken⟩ {} tinyConfig ⟨5⟩ 5 turns

def talkPolls (broken : Bool) (turns : Nat) : Set (Answer Port) :=
  socketPolls scripted scriptedAdapter .connect ⟨[1, 2, 3], shortTalk, broken⟩ {} tinyConfig ⟨5⟩ 5 turns

/-- Whatever the kernel, the adapter and the owner do, the socket uses its connection as an orderly
application does: it writes nothing after the end, the connection takes every byte that was read from the owner,
the owner gets what was read from the inbound stream, and the adapter the emitted segments in order. -/
theorem socket_is_orderly_endpoint (lawful : env.toSystemCalls.Lawful) (adapted : adapter.Lawful)
    (opening : Opening) (kernel : Kernel) (state : State) (cfg : TCPConfig) (randomIsn : WrappingInt32)
    (opened turns : Nat) :
    ∃ e, Reachable Endpoint.operate Orderly (.new cfg randomIsn) e ∧
      Tracks (socketRun env adapter opening kernel state cfg randomIsn opened turns).2.world e := by
  obtain ⟨condition, loop, sound, ended, _⟩ :=
    socketRun_ended lawful adapted opening kernel state cfg randomIsn opened turns (Set.subset_univ _)
  obtain ⟨e, filled, reached, source, coupled⟩ :=
    (turns_sound lawful adapted sound (ended_turns lawful adapted sound ended)).endpoint
  exact ⟨e, reached, coupled.tracks⟩

theorem talking_socket_is_endpoint :
    (talk false 2).2.world.threadData.handed = [7, 8, 9] ∧
      ∃ e, Reachable Endpoint.operate Orderly (.new tinyConfig ⟨5⟩) e ∧ Tracks (talk false 2).2.world e := by
  refine ⟨by decide +kernel, ?_⟩
  unfold talk
  exact socket_is_orderly_endpoint scripted_lawful scriptedAdapter_lawful .connect
    ⟨[1, 2, 3], shortTalk, false⟩ {} tinyConfig ⟨5⟩ 5 2

/-! ### How the thread ends -/

variable {w later : TCPSpongeSocket Kernel State}

def AdapterThrows (adapter : DatagramAdapter Kernel State) (thrown : Thrown) : Prop :=
  (∃ before, (adapter.read before).1 = .error thrown) ∨
    (∃ segment before, (adapter.write segment before).1 = .error thrown) ∨
    ∃ ms before, (adapter.tick ms before).1 = .error thrown

theorem called_throws {flow : Flow} {thrown : Thrown} (called : Called adapter w flow (.error thrown) later) :
    Refused thrown ∨ AdapterThrows adapter thrown := by
  cases called with
  | fromDatagrams received =>
      cases received with
      | failed read => exact .inr (.inl ⟨_, by rw [read]⟩)
  | fromOwner accepted =>
      cases accepted with
      | failed why kernel => exact .inl why
  | toOwner drained =>
      cases drained with
      | unfinished kernel n why done => exact .inl why
      | failed why kernel count => exact .inl why
  | toDatagrams sent => exact .inr (.inr (.inl (sent.cause thrown rfl)))

theorem called_serves (adapted : adapter.Lawful) {flow : Flow} (called : Called adapter w flow (.ok ()) later)
    (idle : (rule env adapter flow).serviceCount w = (rule env adapter flow).serviceCount later) :
    (rule env adapter flow).interest later = false := by
  cases called with
  | fromDatagrams received =>
      cases received with
      | nothing read => exact ((adapted.read _ _ _ _ read).ne idle).elim
      | segment read => exact ((adapted.read _ _ _ _ read).ne idle).elim
  | fromOwner accepted =>
      cases accepted with
      | bytes kernel data whole going => exact ((Nat.lt_succ_self _).ne idle).elim
      | ended kernel data whole => exact ((Nat.lt_succ_self _).ne idle).elim
  | toOwner drained =>
      cases drained with
      | moved kernel n going => exact ((Nat.lt_succ_self _).ne idle).elim
      | finished kernel n done => exact ((Nat.lt_succ_of_lt (Nat.lt_succ_self _)).ne idle).elim
  | toDatagrams sent =>
      change (!later.tcp.segmentsOut.isEmpty) = false
      rw [sent.tcp, sent.all rfl]
      rfl

theorem raised_cause (lawful : env.toSystemCalls.Lawful) (adapted : adapter.Lawful) {thrown : Thrown}
    (raised : Raised (rule env adapter) answers Live loop thrown) :
    Refused thrown ∨ AdapterThrows adapter thrown ∨
      thrown = .runtimeError "EventLoop: error on polled file descriptor" ∧ Faulty answers := by
  cases raised with
  | cancel flow present failed => cases flow <;> cases failed
  | callback flow present alive failed =>
      have called := callback_called lawful adapted flow loop.world
      rw [failed] at called
      exact (called_throws called).imp_right .inl
  | polled faulty => exact .inr (.inr ⟨rfl, faulty⟩)
  | busy flow present alive done idle interested =>
      have called := callback_called lawful adapted flow loop.world
      rw [done] at called
      cases (called_serves adapted called idle).symm.trans interested

/-- The socket fails only if a system call or the adapter fails, a write makes no progress or `poll` has reported
an error: its own checks, of the state after the SYN, of the length that was written and of busy waiting, never
do. -/
theorem socket_throws_for_descriptors (lawful : env.toSystemCalls.Lawful) (adapted : adapter.Lawful)
    (opening : Opening) (kernel : Kernel) (state : State) (cfg : TCPConfig) (randomIsn : WrappingInt32)
    (opened turns : Nat) {thrown : Thrown}
    (failed : (socketRun env adapter opening kernel state cfg randomIsn opened turns).1 =
      some (.error thrown)) :
    Refused thrown ∨ AdapterThrows adapter thrown ∨
      thrown = .runtimeError "EventLoop: error on polled file descriptor" ∧
        Faulty (socketPolls env adapter opening kernel state cfg randomIsn opened turns) := by
  obtain ⟨condition, loop, sound, ended, _⟩ :=
    socketRun_ended lawful adapted opening kernel state cfg randomIsn opened turns (subset_refl _)
  rw [failed] at ended
  generalize (socketRun env adapter opening kernel state cfg randomIsn opened turns).2 = last at ended
  cases ended with
  | failed turns noted waited =>
      have ends := wait_ends (live_stays lawful adapted) (turns_sound lawful adapted sound turns).distinct noted
      rw [waited] at ends
      obtain ⟨_, _, raised⟩ := ends.raised thrown rfl
      exact raised_cause lawful adapted raised
  | @expired before ms _ w turns ticked =>
      exact .inr (.inl (.inr (.inr
        ⟨ms, (before.world.kernel, before.world.datagramAdapter), congrArg Prod.fst ticked⟩)))

theorem unreadable_owner_ends_socket :
    (talk true 6).1 = some (.error (.unixError "read" 5)) ∧
      (Refused (.unixError "read" 5) ∨ AdapterThrows scriptedAdapter (.unixError "read" 5) ∨
        Thrown.unixError "read" 5 = .runtimeError "EventLoop: error on polled file descriptor" ∧
          Faulty (talkPolls true 6)) := by
  have failed : (talk true 6).1 = some (.error (.unixError "read" 5)) := by decide +kernel
  refine ⟨failed, ?_⟩
  unfold talk at failed
  unfold talkPolls
  exact socket_throws_for_descriptors scripted_lawful scriptedAdapter_lawful .connect
    ⟨[1, 2, 3], shortTalk, true⟩ {} tinyConfig ⟨5⟩ 5 6 failed

theorem flows_settled : EventLoop.Settled (rule env adapter) flows := by
  -- the rules are in an order in which no cancellation wakes an earlier one
  have quiet : ∀ w : TCPSpongeSocket Kernel State, w.tcp.active = false →
      (endOutbound w).tcp.active = false := by
    intro w inactive
    change w.tcp.endInputStream.active = false
    unfold TCPConnection.endInputStream
    rw [inactive]
    exact inactive
  refine .cons ?_ (.cons ?_ (.cons ?_ (.cons ?_ .nil)))
  · simp only [List.forall_mem_cons]
    exact ⟨quiet, fun _ idle => idle, fun _ idle => idle, List.forall_mem_nil _⟩
  · simp only [List.forall_mem_cons]
    exact ⟨fun _ idle => idle, fun _ idle => idle, List.forall_mem_nil _⟩
  · simp only [List.forall_mem_cons]
    exact ⟨fun _ idle => idle, List.forall_mem_nil _⟩
  · exact List.forall_mem_nil _

variable (adapter answers) in
/-- A socket that has nothing left to do: its connection is over, the last segments have been given to the
adapter and all bytes to the owner, each unless its descriptor is done or has hung up. -/
structure Complete (w : TCPSpongeSocket Kernel State) : Prop where
  inactive : w.tcp.active = false ∨ (adapter.descriptor w.datagramAdapter).eof = true ∨
    (adapter.descriptor w.datagramAdapter).closed = true ∨
    HungUp answers .datagrams .in_
  transmitted : w.tcp.segmentsOut = [] ∨ (adapter.descriptor w.datagramAdapter).closed = true ∨
    HungUp answers .datagrams .out
  delivered : w.tcp.inboundStream.buffer = [] ∧
      (inboundOver w.tcp.inboundStream = true → w.inboundShutdown = true) ∨
    HungUp answers .threadData .out

theorem idle_complete {e : Endpoint} (coupled : Coupled env adapter answers loop e)
    (idle : ∀ flow ∈ loop.rules, (rule env adapter flow).interest loop.world = false) :
    Complete adapter answers loop.world where
  inactive := by
    rcases coupled.gone .fromDatagrams with present | defunct | hung
    · exact .inl (idle .fromDatagrams present)
    · rcases Bool.or_eq_true_iff.mp defunct with eof | closed
      · exact .inr (.inl (Bool.and_eq_true_iff.mp eof).2)
      · exact .inr (.inr (.inl closed))
    · exact .inr (.inr (.inr hung))
  transmitted := by
    rcases coupled.gone .toDatagrams with present | defunct | hung
    · have empty := idle .toDatagrams present
      exact .inl (List.isEmpty_iff.mp ((Bool.not_eq_false' _).mp empty))
    · exact .inr (.inl (closed_of_defunct rfl defunct))
    · exact .inr (.inr hung)
  delivered := by
    rcases coupled.gone .toOwner with present | defunct | hung
    · left
      obtain ⟨empty, told⟩ := Bool.or_eq_false_iff.mp (idle .toOwner present)
      refine ⟨List.isEmpty_iff.mp ((Bool.not_eq_false' _).mp empty), ?_⟩
      intro over_
      rw [over_] at told
      exact (Bool.not_eq_false' _).mp told
    · cases coupled.ownerOpen.symm.trans (closed_of_defunct rfl defunct)
    · exact .inr hung

/-- The thread of a socket returns only when nothing is left to do, unless a signal interrupts it or the owner
forces an end. -/
theorem socket_returns_when_complete (lawful : env.toSystemCalls.Lawful) (adapted : adapter.Lawful)
    (opening : Opening) (kernel : Kernel) (state : State) (cfg : TCPConfig) (randomIsn : WrappingInt32)
    (opened turns : Nat)
    (uninterrupted : ¬ Interrupted (socketPolls env adapter opening kernel state cfg randomIsn opened turns))
    (returned : (socketRun env adapter opening kernel state cfg randomIsn opened turns).1 = some (.ok ()))
    (unforced : env.abort
      (socketRun env adapter opening kernel state cfg randomIsn opened turns).2.world.kernel = false) :
    Complete adapter (socketPolls env adapter opening kernel state cfg randomIsn opened turns)
      (socketRun env adapter opening kernel state cfg randomIsn opened turns).2.world := by
  obtain ⟨condition, loop, sound, ended, main⟩ :=
    socketRun_ended lawful adapted opening kernel state cfg randomIsn opened turns (subset_refl _)
  obtain rfl := main returned
  rw [returned] at ended
  generalize (socketRun env adapter opening kernel state cfg randomIsn opened turns).2 = last at ended unforced ⊢
  obtain ⟨e, _, _, _, coupled⟩ :=
    (turns_sound lawful adapted sound (ended_turns lawful adapted sound ended)).endpoint
  cases ended with
  | finished turns over_ => cases over_
  | stopped turns noted waited exit =>
      rcases exit with rfl | forced
      · obtain ⟨_, _, _, _, earlier⟩ := (turns_sound lawful adapted sound turns).endpoint
        have exited := wait_exit (flows_settled.sublist earlier.ordered) (congrArg Prod.fst waited)
        rw [waited] at exited
        rcases exited with ⟨pollfds, signal⟩ | idle
        · exact (uninterrupted ⟨pollfds, noted _ signal⟩).elim
        · exact idle_complete coupled idle
      · cases unforced.symm.trans forced

theorem reset_socket_returns :
    (talk false 6).1 = some (.ok ()) ∧ Complete scriptedAdapter (talkPolls false 6) (talk false 6).2.world := by
  have quiet : ¬ Interrupted (talkPolls false 6) := by
    rintro ⟨pollfds, ⟨_, _, _, _, _, signal⟩ | ⟨_, _, _, _, _, _, _, signal⟩⟩
    · exact polled_answered (fun _ _ => ⟨_, rfl⟩) _ pollfds eintr signal
    · exact polled_answered (fun _ _ => ⟨_, rfl⟩) _ pollfds eintr signal
  have returned : (talk false 6).1 = some (.ok ()) := by decide +kernel
  refine ⟨returned, ?_⟩
  unfold talk at returned ⊢
  unfold talkPolls at quiet ⊢
  exact socket_returns_when_complete scripted_lawful scriptedAdapter_lawful .connect
    ⟨[1, 2, 3], shortTalk, false⟩ {} tinyConfig ⟨5⟩ 5 6 quiet returned rfl

end Sponge.SpongeSocket

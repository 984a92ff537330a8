import Sponge.NetworkAcks
import Sponge.SpongeSocketLoop

/-! Two sockets whose adapters are joined by a network that loses, repeats and reorders segments. Each has its
own thread, and the turns of both threads are interleaved in any order. -/

namespace Sponge.SocketPair

open EventLoop SpongeSocket Network NetworkAcks ConnectionRun ConnectionState Transition

variable {Kernel State : Type}

abbrev Sockets (Kernel State : Type) := Side → Loop Flow (TCPSpongeSocket Kernel State)

section Definitions

variable (env : Side → Environment Kernel) (adapter : Side → DatagramAdapter Kernel State)

def start (opening : Side → Opening) (kernel : Side → Kernel) (state : Side → State) (cfg : Side → TCPConfig)
    (randomIsn : Side → WrappingInt32) : Sockets Kernel State :=
  fun side => launched (opening side) (kernel side) (state side) (cfg side) (randomIsn side)

def step (sockets : Sockets Kernel State) (next : Side × Turn) : Sockets Kernel State :=
  Function.update sockets next.1 (turn (env next.1) (adapter next.1) (sockets next.1) next.2)

/-- The turns of both threads, while neither owner writes a gibibyte; a descriptor may hang up at any time.
`found` is asked of what an adapter is about to read. -/
def AllowedIf (found : Sockets Kernel State → Side → Prop) (sockets : Sockets Kernel State) (next : Side × Turn) :
    Prop :=
  TurnPermitted (env next.1) (adapter next.1) Set.univ (sockets next.1) next.2 ∧
    (next.2 = .event (.call .fromDatagrams) → found sockets next.1) ∧
    (step env adapter sockets next next.1).world.threadData.taken.length + 3 < 2 ^ 30

/-- What a socket hears is a copy of something that the other one has given to its adapter. -/
def Copied (sockets : Sockets Kernel State) (side : Side) : Prop :=
  ∀ segment,
    ((adapter side).read ((sockets side).world.kernel, (sockets side).world.datagramAdapter)).1 =
        .ok (some segment) →
      ∃ sent ∈ (sockets side.other).world.transmitted, Copies sent segment

end Definitions

variable {env : Side → Environment Kernel} {adapter : Side → DatagramAdapter Kernel State}
  {sockets : Sockets Kernel State}

theorem set_get (n : Pair) (side : Side) : n.set side (n.get side) = n := by
  cases side <;> rfl

theorem set_set (n : Pair) (side : Side) (e later : Endpoint) : (n.set side e).set side later = n.set side later := by
  cases side <;> rfl

theorem accepted_rises (operations : List Operation) (e : Endpoint) :
    e.accepted.length ≤ (operations.foldl Endpoint.operate e).accepted.length := by
  induction operations generalizing e with
  | nil => exact le_rfl
  | cons operation operations ih =>
      refine le_trans ?_ (ih (e.operate operation))
      change _ ≤ (e.accepted ++ _).length
      rw [List.length_append]
      exact Nat.le_add_right _ _

theorem performs_ackInv {n : Pair} (ackInv : AckInv n) (side : Side) {heard : TCPSegment → Prop} {later : Endpoint}
    (performs : Performs heard (n.get side) later) (short : later.accepted.length + 3 < 2 ^ 30)
    (delivered : ∀ segment, heard segment → ∃ sent ∈ (n.get side.other).conn.segmentsOut, Copies sent segment) :
    AckInv (n.set side later) := by
  obtain ⟨operations, allowed, rfl⟩ := performs
  induction operations generalizing n with
  | nil =>
      rw [List.foldl_nil, set_get]
      exact ackInv
  | cons operation operations ih =>
      obtain ⟨⟨open_, said⟩, rest⟩ := allowed
      rw [List.foldl_cons] at short ⊢
      have rises := accepted_rises operations ((n.get side).operate operation)
      have once := operate_ackInv ackInv
        ⟨open_, by omega, fun segment same => delivered segment (said segment same)⟩
      have after := ih once
      simp only [Pair.get_set_same, Pair.get_set_other, set_set] at after
      exact after delivered rest short

variable (env adapter) in
structure Joined (sockets : Sockets Kernel State) (n : Pair) : Prop where
  ackInv : AckInv n
  coupled : ∀ side, Coupled (env side) (adapter side) Set.univ (sockets side) (n.get side)

theorem transmitted_emitted {w : TCPSpongeSocket Kernel State} {e : Endpoint} (tracks : Tracks w e)
    {sent : TCPSegment} (member : sent ∈ w.transmitted) : sent ∈ e.conn.segmentsOut := by
  rw [tracks.conn]
  exact List.mem_append_left _ member

theorem step_acting (side : Side) (next : Turn) :
    step env adapter sockets (side, next) side = turn (env side) (adapter side) (sockets side) next :=
  Function.update_self ..

theorem step_resting (side : Side) (next : Turn) :
    step env adapter sockets (side, next) side.other = sockets side.other :=
  Function.update_of_ne (show side.other ≠ side by cases side <;> decide) ..

theorem Joined.set {n : Pair} (joined : Joined env adapter sockets n) {side : Side} {next : Turn} {later : Endpoint}
    (ackInv : AckInv (n.set side later))
    (coupled : Coupled (env side) (adapter side) Set.univ (turn (env side) (adapter side) (sockets side) next) later) :
    Joined env adapter (step env adapter sockets (side, next)) (n.set side later) := by
  refine ⟨ackInv, ?_⟩
  intro which
  rcases eq_or_other side which with rfl | rfl
  · rw [step_acting, Pair.get_set_same]
    exact coupled
  · rw [step_resting, Pair.get_set_other]
    exact joined.coupled side.other

theorem hears_read {adapter : DatagramAdapter Kernel State} {w : TCPSpongeSocket Kernel State} {next : Turn}
    {segment : TCPSegment} (heard : SpongeSocket.Hears adapter w next segment) :
    next = .event (.call .fromDatagrams) ∧ (adapter.read (w.kernel, w.datagramAdapter)).1 = .ok (some segment) := by
  cases next with
  | elapse ms => exact heard.elim
  | event next =>
      cases next with
      | call flow =>
          obtain ⟨rfl, found⟩ := heard
          exact ⟨rfl, found⟩
      | retire flow => exact heard.elim
      | hangUp flow => exact heard.elim
      | poll pollfds timeoutMs => exact heard.elim

theorem step_joined (lawful : ∀ side, (env side).toSystemCalls.Lawful) (adapted : ∀ side, (adapter side).Lawful)
    {n : Pair} (joined : Joined env adapter sockets n) (next : Side × Turn)
    (allowed : AllowedIf env adapter (Copied adapter) sockets next) :
    ∃ n, Joined env adapter (step env adapter sockets next) n := by
  obtain ⟨side, next⟩ := next
  obtain ⟨permitted, copied, short⟩ := allowed
  obtain ⟨filled, source⟩ := joined.ackInv.inv.source side
  obtain ⟨later, performs, coupled⟩ := turn_coupled (lawful side) (adapted side) source.settled
    (joined.coupled side) next permitted
  rw [step_acting, ← coupled.tracks.accepted] at short
  refine ⟨_, joined.set (performs_ackInv joined.ackInv side performs short ?_) coupled⟩
  intro segment heard
  obtain ⟨reading, found⟩ := hears_read heard
  obtain ⟨sent, member, copies⟩ := copied reading segment found
  exact ⟨sent, transmitted_emitted (joined.coupled side.other).tracks member, copies⟩

theorem launched_coupled {env : Environment Kernel} {adapter : DatagramAdapter Kernel State} (opening : Opening)
    (kernel : Kernel) (state : State) (cfg : TCPConfig) (randomIsn : WrappingInt32) :
    ∃ e, Performs (fun _ => False) (.new cfg randomIsn) e ∧ e.accepted = [] ∧
      Coupled env adapter Set.univ (launched opening kernel state cfg randomIsn) e := by
  cases opening with
  | connect =>
      refine ⟨_, performs_one .connect trivial ?_, rfl, connecting_coupled kernel state cfg randomIsn⟩
      intro segment same
      cases same
  | listenAndAccept => exact ⟨_, performs_nothing _ _, rfl, start_coupled kernel state cfg randomIsn⟩

theorem start_joined (opening : Side → Opening) (kernel : Side → Kernel) (state : Side → State)
    (cfg : Side → TCPConfig) (randomIsn : Side → WrappingInt32) :
    ∃ n, Joined env adapter (start opening kernel state cfg randomIsn) n ∧
      ∀ side, Performs (fun _ => False) (.new (cfg side) (randomIsn side)) (n.get side) := by
  have small : ∀ {e : Endpoint}, e.accepted = [] → e.accepted.length + 3 < 2 ^ 30 := by
    intro e absent
    rw [absent]
    decide
  obtain ⟨left, leftPerforms, leftNone, leftCoupled⟩ :
      ∃ e, _ ∧ _ ∧ Coupled (env .left) (adapter .left) Set.univ _ e :=
    launched_coupled (opening .left) (kernel .left) (state .left) (cfg .left) (randomIsn .left)
  obtain ⟨right, rightPerforms, rightNone, rightCoupled⟩ :
      ∃ e, _ ∧ _ ∧ Coupled (env .right) (adapter .right) Set.univ _ e :=
    launched_coupled (opening .right) (kernel .right) (state .right) (cfg .right) (randomIsn .right)
  have first := performs_ackInv (start_ackInv cfg randomIsn) .left leftPerforms (small leftNone)
    (fun _ heard => heard.elim)
  have both := performs_ackInv first .right rightPerforms (small rightNone) (fun _ heard => heard.elim)
  refine ⟨_, ⟨both, ?_⟩, ?_⟩
  · intro side
    cases side with
    | left => exact leftCoupled
    | right => exact rightCoupled
  · intro side
    cases side with
    | left => exact leftPerforms
    | right => exact rightPerforms

/-- The bytes on their way from one owner to the other: those that have arrived are a prefix of those that have
been written, and the connection still holds the rest, but for one byte if a FIN has overtaken it. -/
structure Conserved (source sink : TCPSpongeSocket Kernel State) : Prop where
  arrived : sink.threadData.handed ++ sink.tcp.inboundStream.buffer <+: source.threadData.taken
  held : source.threadData.taken.drop
      ((sink.threadData.handed ++ sink.tcp.inboundStream.buffer).length + sink.tcp.receiver.isFin.toNat) <:+
    source.tcp.sender.outstandingSegments.flatMap TCPSegment.payload ++ source.tcp.sender.stream.buffer

theorem joined_conserved {n : Pair} (joined : Joined env adapter sockets n) (side : Side) :
    Conserved (sockets side).world (sockets side.other).world := by
  have source := (joined.coupled side).tracks
  have sink := (joined.coupled side.other).tracks
  obtain ⟨arrived, held⟩ := held_or_arrived joined.ackInv side
  rw [source.conn, source.accepted, sink.conn, sink.consumed] at held
  rw [source.accepted, sink.conn, sink.consumed] at arrived
  exact ⟨arrived, held⟩

/-- Whatever the network and both kernels do, no byte is lost between the owners. -/
theorem owners_lose_no_byte (lawful : ∀ side, (env side).toSystemCalls.Lawful)
    (adapted : ∀ side, (adapter side).Lawful) {opening : Side → Opening} {kernel : Side → Kernel}
    {state : Side → State} {cfg : Side → TCPConfig} {randomIsn : Side → WrappingInt32}
    (reached : Reachable (step env adapter) (AllowedIf env adapter (Copied adapter))
      (start opening kernel state cfg randomIsn) sockets) (side : Side) :
    Conserved (sockets side).world (sockets side.other).world := by
  obtain ⟨first, started, _⟩ := start_joined opening kernel state cfg randomIsn
  obtain ⟨n, joined⟩ := reachable_invariant (P := fun sockets => ∃ n, Joined env adapter sockets n)
    ⟨first, started⟩ (fun _ next ⟨_, joined⟩ allowed => step_joined lawful adapted joined next allowed) reached
  exact joined_conserved joined side

/-! ### Runs of callbacks -/

section Calls

variable (env adapter) (found : Sockets Kernel State → Side → Prop)

def callStep (sockets : Sockets Kernel State) (next : Side × Flow) : Sockets Kernel State :=
  step env adapter sockets (next.1, .event (.call next.2))

def Called (sockets : Sockets Kernel State) (next : Side × Flow) : Prop :=
  next.2 ∈ (sockets next.1).rules ∧ (next.2 = .fromOwner → (sockets next.1).world.threadData.eof = false) ∧
    (next.2 = .fromDatagrams → found sockets next.1) ∧
    (callStep env adapter sockets next next.1).world.threadData.taken.length + 3 < 2 ^ 30

instance [∀ sockets side, Decidable (found sockets side)] (sockets : Sockets Kernel State) (next : Side × Flow) :
    Decidable (Called env adapter found sockets next) :=
  inferInstanceAs (Decidable (_ ∧ _ ∧ _ ∧ _))

variable {env adapter found}

theorem calls_reachable {found' : Sockets Kernel State → Side → Prop}
    (finds : ∀ sockets side, found sockets side → found' sockets side) {first last : Sockets Kernel State}
    (reached : Reachable (callStep env adapter) (Called env adapter found) first last) :
    Reachable (step env adapter) (AllowedIf env adapter found') first last := by
  induction reached with
  | start => exact .start
  | next next _ called ih =>
      obtain ⟨side, flow⟩ := next
      obtain ⟨present, going, right, short⟩ := called
      have alive : ∀ w : TCPSpongeSocket Kernel State, (flow = .fromOwner → w.threadData.eof = false) →
          Live flow w := by
        intro w going
        cases flow with
        | fromOwner => exact going rfl
        | _ => trivial
      refine .next _ ih ⟨⟨present, alive _ going⟩, ?_, short⟩
      intro reading
      cases reading
      exact finds _ _ (right rfl)

end Calls

/-! ### A scripted network -/

def Answered (sockets : Sockets (Script TCPSegment) FDWrapper) (side : Side) : Prop :=
  ∀ segment ∈ (sockets side).world.kernel.answers.head?, segment ∈ (sockets side.other).world.transmitted

instance (sockets : Sockets (Script TCPSegment) FDWrapper) (side : Side) : Decidable (Answered sockets side) :=
  inferInstanceAs (Decidable (∀ segment ∈ (sockets side).world.kernel.answers.head?,
    segment ∈ (sockets side.other).world.transmitted))

theorem answered_copied (sockets : Sockets (Script TCPSegment) FDWrapper) (side : Side)
    (answered : Answered sockets side) : Copied (fun _ => scriptedAdapter) sockets side := by
  intro segment found
  exact ⟨segment, answered segment (Except.ok.inj found), .refl _⟩

def leftScript : Script TCPSegment where
  typed := [1, 2, 3]
  answers :=
    [{ header := { seqno := ⟨9⟩, ackno := ⟨6⟩, syn := true, ack := true, win := 8 }, payload := [] }]

def rightScript : Script TCPSegment where
  typed := []
  answers :=
    [{ header := { seqno := ⟨5⟩, syn := true, win := 8 }, payload := [] },
      { header := { seqno := ⟨6⟩, ackno := ⟨10⟩, ack := true, win := 8 }, payload := [1, 2, 3] },
      { header := { seqno := ⟨6⟩, ackno := ⟨10⟩, ack := true, win := 8 }, payload := [1, 2, 3] }]

def talkStart : Sockets (Script TCPSegment) FDWrapper :=
  start (fun | .left => .connect | .right => .listenAndAccept)
    (fun | .left => leftScript | .right => rightScript) (fun _ => {}) (fun _ => tinyConfig)
    (fun | .left => ⟨5⟩ | .right => ⟨9⟩)

abbrev talkStep : Sockets (Script TCPSegment) FDWrapper → Side × Flow → Sockets (Script TCPSegment) FDWrapper :=
  callStep (fun _ => scripted) fun _ => scriptedAdapter

def talkCalls : List (Side × Flow) :=
  [(.left, .toDatagrams), (.right, .fromDatagrams), (.right, .toDatagrams), (.left, .fromDatagrams),
    (.left, .fromOwner), (.left, .toDatagrams), (.right, .fromDatagrams), (.right, .fromDatagrams),
    (.right, .toOwner)]

theorem repeated_bytes_handed_once :
    (talkCalls.foldl talkStep talkStart .right).world.threadData.handed = [1, 2, 3] ∧
      Conserved (talkCalls.foldl talkStep talkStart .left).world
        (talkCalls.foldl talkStep talkStart Side.left.other).world := by
  refine ⟨by decide +kernel, ?_⟩
  have reached := calls_reachable answered_copied (reachable_run talkCalls
    (show AllowedRun talkStep (Called (fun _ => scripted) (fun _ => scriptedAdapter) Answered) talkStart talkCalls by
      decide +kernel))
  unfold talkStart at reached ⊢
  exact owners_lose_no_byte (fun _ => scripted_lawful) (fun _ => scriptedAdapter_lawful) reached .left

end Sponge.SocketPair

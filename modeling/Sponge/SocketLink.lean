import Sponge.SocketPair

/-! Two sockets over adapters that carry the segments themselves. `Link` says what two adapters have to do for
each other, in terms of what is on the wire between them; the sockets above them then lose no byte. -/

namespace Sponge

namespace SocketLink

open EventLoop SpongeSocket SocketPair Network NetworkAcks ConnectionRun ConnectionReplies ConnectionState
  Transition Tiling SenderQueue SenderTransmission TCPSegment Sponge.Action FileDescriptor

structure Plain (segment : TCPSegment) : Prop where
  doff : segment.header.doff = 5
  bounded : segment.payload.length ≤ maxPayloadSize

/-! ### A connection emits plain segments -/

section Emitted

variable {filled : List TCPSegment}

theorem filled_plain {s : TCPSender} (coherent : Coherent filled s) {segment : TCPSegment}
    (member : segment ∈ filled) : Plain segment := by
  obtain ⟨seqno, numbered⟩ := number_of_mem lengthInSequenceSpace 0 member
  have built := coherent.built _ numbered
  have header : segment.header = _ := built.unstamped
  refine ⟨?_, built.bounded⟩
  rw [header]

theorem apply_plain {s : TCPSender} (coherent : Coherent filled s) (call : Call)
    (plain : ∀ segment ∈ s.segmentsOut, Plain segment) : ∀ segment ∈ (apply s call).segmentsOut, Plain segment := by
  intro segment member
  have sent : segment ∈ filled ++ pushed s call → Plain segment := filled_plain (apply_coherent coherent call)
  cases call with
  | write data => exact plain segment member
  | endInput => exact plain segment member
  | fillWindow =>
      obtain ⟨fresh, fills⟩ := SenderFill.fillWindow_fills s coherent.synFits
      rw [apply, fills.emits.segmentsOut, List.mem_append] at member
      rw [pushed_fillWindow fills] at sent
      exact member.elim (plain segment) fun now => sent (List.mem_append_right _ now)
  | ackReceived ackno windowSize =>
      obtain ⟨fresh, acknowledged⟩ := ackReceived_acknowledged coherent ackno windowSize
      rw [apply, acknowledged.segmentsOut, List.mem_append] at member
      rw [pushed_ackReceived acknowledged] at sent
      exact member.elim (plain segment) fun now => sent (List.mem_append_right _ now)
  | tick ms =>
      obtain ⟨acked, whole⟩ := coherent.tail
      rcases tick_segmentsOut s ms with same | again
      · exact plain segment (same ▸ member)
      · rw [apply, again, List.mem_append, Option.mem_toList] at member
        refine member.elim (plain segment) fun front => filled_plain coherent ?_
        rw [whole]
        exact List.mem_append_right acked (List.mem_of_mem_head? front)
  | sendEmptySegment =>
      rcases List.mem_append.mp member with old | now
      · exact plain segment old
      · rw [List.mem_singleton.mp now]
        exact ⟨rfl, Nat.zero_le _⟩

theorem calls_plain {s : TCPSender} (coherent : Coherent filled s) (calls : List Call)
    (plain : ∀ segment ∈ s.segmentsOut, Plain segment) :
    ∀ segment ∈ (calls.foldl apply s).segmentsOut, Plain segment := by
  induction calls generalizing s filled with
  | nil => exact plain
  | cons call calls ih => exact ih (apply_coherent coherent call) (apply_plain coherent call plain)

theorem stamp_plain (c : TCPConnection) {segment : TCPSegment} (plain : Plain segment) : Plain (c.stamp segment) := by
  unfold TCPConnection.stamp
  cases c.receiver.ackno <;> exact ⟨plain.doff, plain.bounded⟩

theorem appended_plain {c : TCPConnection} (settled : Settled filled c) (operation : Operation) :
    ∀ segment ∈ appended c operation, Plain segment := by
  intro segment member
  rw [appended_eq settled, List.mem_map] at member
  obtain ⟨waiting, queued, rfl⟩ := member
  refine stamp_plain _ (calls_plain settled.coherent _ ?_ waiting queued)
  intro earlier present
  rw [settled.queue] at present
  cases present

theorem performs_plain {heard : TCPSegment → Prop} {e later : Endpoint} (source : Endpoint.Source filled e)
    (performs : Performs heard e later) (plain : ∀ segment ∈ e.conn.segmentsOut, Plain segment) :
    e.conn.segmentsOut ⊆ later.conn.segmentsOut ∧ ∀ segment ∈ later.conn.segmentsOut, Plain segment := by
  obtain ⟨operations, allowed, rfl⟩ := performs
  obtain ⟨_, _, kept⟩ := reachable_invariant (P := fun after => ∃ filled, Endpoint.Source filled after ∧
      e.conn.segmentsOut ⊆ after.conn.segmentsOut ∧ ∀ segment ∈ after.conn.segmentsOut, Plain segment)
    ⟨filled, source, List.Subset.refl _, plain⟩
    (by
      rintro after operation ⟨filled, source, kept, plain⟩ fine
      have queue : (after.operate operation).conn.segmentsOut = _ := operate_segmentsOut source.settled operation
      refine ⟨_, Endpoint.operate_source source operation fine, ?_, ?_⟩
      · rw [queue]
        exact List.Subset.trans kept (List.subset_append_left _ _)
      · rw [queue]
        exact List.forall_mem_append.mpr ⟨plain, appended_plain source.settled operation⟩)
    (reachable_run operations (allowedRun_imp (fun _ _ fine => fine.1) allowed))
  exact kept

end Emitted

variable {Kernel State : Type}

/-- What two adapters do for each other. -/
structure Link (adapter : Side → DatagramAdapter Kernel State) where
  /-- All that the adapter has put on the wire, or may still put there, carries one of the segments. -/
  Sends : Side → State → List TCPSegment → Prop
  /-- What the adapter is about to read comes from the other one, unless it will be dropped. -/
  Finds : Side → Kernel × State → State → Prop
  more : ∀ {side state segments others}, segments ⊆ others → Sends side state segments → Sends side state others
  read : ∀ {side before peer segments}, Finds side before peer → Sends side before.2 segments →
    Sends side ((adapter side).read before).2.2 segments
  write : ∀ {side before segments segment}, segment ∈ segments → Sends side before.2 segments →
    Sends side ((adapter side).write segment before).2.2 segments
  tick : ∀ {side before segments} (ms : UInt64), Sends side before.2 segments →
    Sends side ((adapter side).tick ms before).2.2 segments
  conveyed : ∀ {side before peer segments own segment}, (∀ sent ∈ segments, Plain sent) →
    Sends side.other peer segments → Sends side before.2 own → Finds side before peer →
    ((adapter side).read before).1 = .ok (some segment) → ∃ sent ∈ segments, Copies sent segment

variable {adapter : Side → DatagramAdapter Kernel State}

def Link.Found (link : Link adapter) (sockets : Sockets Kernel State) (side : Side) : Prop :=
  link.Finds side ((sockets side).world.kernel, (sockets side).world.datagramAdapter)
    (sockets side.other).world.datagramAdapter

section Turns

variable {env : Side → Environment Kernel} {sockets : Sockets Kernel State}

theorem transmitAll_sends (link : Link adapter) {side : Side} {segments queue : List TCPSegment}
    (queued : queue ⊆ segments) (w : TCPSpongeSocket Kernel State)
    (sends : link.Sends side w.datagramAdapter segments) :
    link.Sends side (transmitAll (adapter side) queue w).2.datagramAdapter segments := by
  induction queue generalizing w with
  | nil => exact sends
  | cons segment rest ih =>
      obtain ⟨first, others⟩ := List.cons_subset.mp queued
      have wrote : link.Sends side ((adapter side).write segment (w.kernel, w.datagramAdapter)).2.2 segments :=
        link.write first sends
      unfold transmitAll
      cases answer : (adapter side).write segment (w.kernel, w.datagramAdapter) with
      | mk result part =>
          have ran : ((adapter side).write segment).within adapterPart w = _ := within_eq answer
          rw [answer] at wrote
          cases result with
          | error thrown =>
              rw [bind_error ran]
              exact wrote
          | ok _ =>
              rw [bind_ok ran, alter_bind]
              exact ih others _ wrote

theorem cancelled_adapter {env : Environment Kernel} {adapter : DatagramAdapter Kernel State}
    (loop : Loop Flow (TCPSpongeSocket Kernel State)) (flow : Flow) :
    (cancelled (rule env adapter) loop flow).world.datagramAdapter = loop.world.datagramAdapter := by
  cases flow <;> rfl

theorem turn_sends (lawful : ∀ side, (env side).toSystemCalls.Lawful) (link : Link adapter) {side : Side}
    {segments : List TCPSegment} {loop : Loop Flow (TCPSpongeSocket Kernel State)} {peer : State} (next : Turn)
    (sends : link.Sends side loop.world.datagramAdapter segments) (queued : loop.world.tcp.segmentsOut ⊆ segments)
    (finds : next = .event (.call .fromDatagrams) →
      link.Finds side (loop.world.kernel, loop.world.datagramAdapter) peer) :
    link.Sends side (turn (env side) (adapter side) loop next).world.datagramAdapter segments := by
  cases next with
  | elapse ms => exact link.tick ms sends
  | event next =>
      cases next with
      | retire flow => rw [turn, EventLoop.step, cancelled_adapter]; exact sends
      | hangUp flow => rw [turn, EventLoop.step, cancelled_adapter]; exact sends
      | poll pollfds timeoutMs => exact sends
      | call flow =>
          cases flow with
          | toDatagrams => exact transmitAll_sends link queued loop.world sends
          | fromDatagrams =>
              have read := link.read (finds rfl) sends
              have received := receive_received (adapter side) loop.world
              change link.Sends side (receive (adapter side) loop.world).2.datagramAdapter segments
              generalize (receive (adapter side) loop.world).1 = result,
                (receive (adapter side) loop.world).2 = later at received ⊢
              cases received with
              | failed answer => rw [answer] at read; exact read
              | nothing answer => rw [answer] at read; exact read
              | segment answer => rw [answer] at read; exact read
          | fromOwner =>
              have accepted := accept_accepted (lawful side) loop.world
              change link.Sends side (accept (env side) loop.world).2.datagramAdapter segments
              generalize (accept (env side) loop.world).1 = result,
                (accept (env side) loop.world).2 = later at accepted ⊢
              cases accepted <;> exact sends
          | toOwner => exact sends

variable (env) in
/-- The sockets stand for two endpoints, and the wire carries only what these have emitted. -/
structure Linked (link : Link adapter) (sockets : Sockets Kernel State) (n : Pair) : Prop where
  joined : Joined env adapter sockets n
  plain : ∀ side, ∀ segment ∈ (n.get side).conn.segmentsOut, Plain segment
  sends : ∀ side, link.Sends side (sockets side).world.datagramAdapter (n.get side).conn.segmentsOut

theorem step_linked (lawful : ∀ side, (env side).toSystemCalls.Lawful) (adapted : ∀ side, (adapter side).Lawful)
    {link : Link adapter} {n : Pair} (linked : Linked env link sockets n) (next : Side × Turn)
    (allowed : AllowedIf env adapter link.Found sockets next) :
    ∃ n, Linked env link (SocketPair.step env adapter sockets next) n := by
  obtain ⟨side, next⟩ := next
  obtain ⟨permitted, finds, short⟩ := allowed
  obtain ⟨filled, source⟩ := linked.joined.ackInv.inv.source side
  have coupled := linked.joined.coupled side
  obtain ⟨later, performs, after⟩ := turn_coupled (lawful side) (adapted side) source.settled coupled next permitted
  obtain ⟨kept, plain⟩ := performs_plain source performs (linked.plain side)
  have copied : ∀ segment, SpongeSocket.Hears (adapter side) (sockets side).world next segment →
      ∃ sent ∈ (n.get side.other).conn.segmentsOut, Copies sent segment := by
    intro segment heard
    obtain ⟨reading, found⟩ := hears_read heard
    exact link.conveyed (linked.plain side.other) (linked.sends side.other) (linked.sends side)
      (finds reading) found
  have sends : link.Sends side (turn (env side) (adapter side) (sockets side) next).world.datagramAdapter
      later.conn.segmentsOut := by
    refine link.more kept (turn_sends lawful link next (linked.sends side) ?_ finds)
    rw [coupled.tracks.conn]
    exact List.subset_append_right _ _
  rw [step_acting, ← after.tracks.accepted] at short
  refine ⟨n.set side later,
    linked.joined.set (performs_ackInv linked.joined.ackInv side performs short copied) after, ?_, ?_⟩
  · intro which
    rcases eq_or_other side which with rfl | rfl
    · rw [Pair.get_set_same]
      exact plain
    · rw [Pair.get_set_other]
      exact linked.plain side.other
  · intro which
    rcases eq_or_other side which with rfl | rfl
    · rw [step_acting, Pair.get_set_same]
      exact sends
    · rw [step_resting, Pair.get_set_other]
      exact linked.sends side.other

theorem start_linked (link : Link adapter) (opening : Side → Opening) (kernel : Side → Kernel)
    {state : Side → State} (silent : ∀ side, link.Sends side (state side) []) (cfg : Side → TCPConfig)
    (randomIsn : Side → WrappingInt32) :
    ∃ n, Linked env link (SocketPair.start opening kernel state cfg randomIsn) n := by
  obtain ⟨n, joined, performs⟩ : ∃ n, Joined env adapter _ n ∧ _ := start_joined opening kernel state cfg randomIsn
  refine ⟨n, joined, ?_, ?_⟩
  · intro side
    exact (performs_plain (Endpoint.new_source _ _) (performs side) (List.forall_mem_nil _)).2
  · intro side
    have first : (SocketPair.start opening kernel state cfg randomIsn side).world.datagramAdapter = state side := by
      unfold SocketPair.start launched
      cases opening side <;> rfl
    rw [first]
    exact link.more (List.nil_subset _) (silent side)

/-- Two sockets over a link lose no byte. -/
theorem link_conserved (lawful : ∀ side, (env side).toSystemCalls.Lawful) (adapted : ∀ side, (adapter side).Lawful)
    (link : Link adapter) {opening : Side → Opening} {kernel : Side → Kernel} {state : Side → State}
    (silent : ∀ side, link.Sends side (state side) []) {cfg : Side → TCPConfig} {randomIsn : Side → WrappingInt32}
    (reached : Reachable (SocketPair.step env adapter) (AllowedIf env adapter link.Found)
      (SocketPair.start opening kernel state cfg randomIsn) sockets) (side : Side) :
    Conserved (sockets side).world (sockets side.other).world := by
  obtain ⟨n, linked⟩ := reachable_invariant (P := fun sockets => ∃ n, Linked env link sockets n)
    (start_linked link opening kernel silent cfg randomIsn)
    (fun _ next ⟨_, linked⟩ allowed => step_linked lawful adapted linked next allowed) reached
  exact joined_conserved linked.joined side

end Turns

end SocketLink

/-! ### Adapters that lose segments -/

/-- `LossyFdAdapter`, with the loss rates of the configuration of the adapter inside. -/
structure LossyFdAdapter (Generator State : Type) where
  rand : Generator
  lossRateDn : UInt16
  lossRateUp : UInt16
  adapter : State
  deriving DecidableEq, Repr

namespace LossyFdAdapter

open SocketLink Network FDWrapper FileDescriptor

variable {Kernel State Generator : Type}

section Definitions

variable (random : Generator → UInt32 × Generator) (inner : DatagramAdapter Kernel State)

/-- `_should_drop`: the generator is asked only if there is a loss rate. -/
def shouldDrop (a : LossyFdAdapter Generator State) (uplink : Bool) : Bool × LossyFdAdapter Generator State :=
  let loss := if uplink then a.lossRateUp else a.lossRateDn
  if loss = 0 then (false, a)
  else (decide ((random a.rand).1.toUInt16 < loss), { a with rand := (random a.rand).2 })

def read : Action (Kernel × LossyFdAdapter Generator State) Thrown (Option TCPSegment) := fun (kernel, a) =>
  match inner.read (kernel, a.adapter) with
  | (.error thrown, kernel, state) => (.error thrown, kernel, { a with adapter := state })
  | (.ok ret, kernel, state) =>
      let (drop, a) := shouldDrop random { a with adapter := state } false
      (.ok (if drop then none else ret), kernel, a)

def write (seg : TCPSegment) : Action (Kernel × LossyFdAdapter Generator State) Thrown Unit := fun (kernel, a) =>
  let (drop, a) := a.shouldDrop random true
  if drop then (.ok (), kernel, a)
  else
    let (result, kernel, state) := inner.write seg (kernel, a.adapter)
    (result, kernel, { a with adapter := state })

def tick (ms : UInt64) : Action (Kernel × LossyFdAdapter Generator State) Thrown Unit := fun (kernel, a) =>
  let (result, kernel, state) := inner.tick ms (kernel, a.adapter)
  (result, kernel, { a with adapter := state })

def lossy : DatagramAdapter Kernel (LossyFdAdapter Generator State) where
  descriptor a := inner.descriptor a.adapter
  read := read random inner
  write := write random inner
  tick := tick inner

end Definitions

variable {random : Generator → UInt32 × Generator} {inner : DatagramAdapter Kernel State}

@[simp] theorem shouldDrop_adapter (a : LossyFdAdapter Generator State) (uplink : Bool) :
    (a.shouldDrop random uplink).2.adapter = a.adapter := by
  unfold shouldDrop
  dsimp only
  split
  · split <;> rfl
  · split <;> rfl

variable (random inner) in
theorem read_inner (kernel : Kernel) (a : LossyFdAdapter Generator State) :
    (read random inner (kernel, a)).2.2.adapter = (inner.read (kernel, a.adapter)).2.2 ∧
      (∀ found, (read random inner (kernel, a)).1 = .ok found →
        ∃ ret, (inner.read (kernel, a.adapter)).1 = .ok ret ∧ (found = none ∨ found = ret)) := by
  unfold read
  dsimp only
  split
  case h_1 answer =>
    rw [answer]
    refine ⟨rfl, ?_⟩
    intro found returned
    cases returned
  case h_2 ret later state answer =>
    rw [answer]
    refine ⟨shouldDrop_adapter _ _, ?_⟩
    intro found returned
    refine ⟨ret, rfl, ?_⟩
    rw [← Except.ok.inj returned]
    split
    · exact .inl rfl
    · exact .inr rfl

variable (random inner) in
theorem write_inner (seg : TCPSegment) (kernel : Kernel) (a : LossyFdAdapter Generator State) :
    (write random inner seg (kernel, a)).2.2.adapter = a.adapter ∨
      (write random inner seg (kernel, a)).2.2.adapter = (inner.write seg (kernel, a.adapter)).2.2 := by
  unfold write
  dsimp only
  split
  · exact .inl (shouldDrop_adapter _ _)
  · right
    dsimp only
    rw [shouldDrop_adapter]

variable (random) in
theorem lossy_lawful (lawful : inner.Lawful) :
    (lossy random inner : DatagramAdapter Kernel (LossyFdAdapter Generator State)).Lawful where
  read kernel a found after returned := by
    obtain ⟨state, heard⟩ := read_inner random inner kernel a
    obtain ⟨ret, answer, _⟩ := heard found (congrArg Prod.fst returned)
    have counted := lawful.read kernel a.adapter ret _ (Prod.ext answer rfl)
    rw [← state] at counted
    have same : (read random inner (kernel, a)).2 = after := congrArg Prod.snd returned
    rw [same] at counted
    exact counted
  readAges before := by
    change Ages _ (inner.descriptor (read random inner before).2.2.adapter)
    rw [(read_inner random inner before.1 before.2).1]
    exact lawful.readAges (before.1, before.2.adapter)
  writeAges seg before := by
    change Ages _ (inner.descriptor (write random inner seg before).2.2.adapter)
    rcases write_inner random inner seg before.1 before.2 with dropped | wrote
    · rw [dropped]
      exact .refl _
    · rw [wrote]
      exact lawful.writeAges seg (before.1, before.2.adapter)
  tickAges ms before := lawful.tickAges ms (before.1, before.2.adapter)

/-- Whatever link the adapters make, they make one when they lose segments at random. -/
def lossyLink (random : Generator → UInt32 × Generator) {adapter : Side → DatagramAdapter Kernel State}
    (link : Link adapter) :
    Link fun side => (lossy random (adapter side) : DatagramAdapter Kernel (LossyFdAdapter Generator State)) where
  Sends side a segments := link.Sends side a.adapter segments
  Finds side before peer := link.Finds side (before.1, before.2.adapter) peer.adapter
  more included sends := link.more included sends
  read finds sends := by
    change link.Sends _ (read random _ _).2.2.adapter _
    rw [(read_inner random _ _ _).1]
    exact link.read finds sends
  write {side before segments segment} member sends := by
    change link.Sends side (write random (adapter side) segment before).2.2.adapter segments
    rcases write_inner random (adapter side) segment before.1 before.2 with dropped | wrote
    · rw [dropped]
      exact sends
    · rw [wrote]
      exact link.write member sends
  tick ms sends := link.tick ms sends
  conveyed {side before peer segments own segment} plain sends mine finds found := by
    obtain ⟨ret, answer, same⟩ := (read_inner random (adapter side) before.1 before.2).2 _ found
    rcases same with absent | rfl
    · cases absent
    · exact link.conveyed plain sends mine finds answer

end LossyFdAdapter
end Sponge

import Sponge.ConnectionRun
import Sponge.SenderProgress

/-! A connection does not stall: after every operation nothing that could be sent is left waiting. -/

namespace Sponge.ConnectionProgress

open TCPConnection TCPSender Tiling TCPSegment SenderFill SenderQueue SenderTransmission SenderWindow
  SenderProgress ConnectionRun Transition

/-- Operations are applied while fewer than `2 ^ 30` sequence numbers are in flight. -/
def BoundedFlight (c : TCPConnection) (_ : Operation) : Prop := c.sender.bytesInFlight < 2 ^ 30

instance (c : TCPConnection) (operation : Operation) : Decidable (BoundedFlight c operation) :=
  inferInstanceAs (Decidable (_ < _))

theorem answer_live {filled : List TCPSegment} {s : TCPSender} (coherent : Coherent filled s)
    (live : Live s) (noStall : NoStall s) (bound : s.bytesInFlight < 2 ^ 30) (segment : TCPSegment) :
    Live (apply s (answer segment)) ∧ NoStall (apply s (answer segment)) := by
  refine ⟨apply_live coherent live _ (.inr bound), ?_⟩
  unfold answer
  split
  · exact (ackReceived_live coherent live bound _ _).2 noStall
  · exact apply_fillWindow_noStall coherent live

theorem refill_live {filled : List TCPSegment} {s : TCPSender} (coherent : Coherent filled s)
    (live : Live s) (call : Call) (noAck : acknowledges call = false) :
    Live (apply (apply s call) .fillWindow) ∧ NoStall (apply (apply s call) .fillWindow) := by
  have fed := apply_live coherent live call (.inl noAck)
  have kept := apply_coherent coherent call
  exact ⟨apply_live kept fed .fillWindow (.inl rfl), apply_fillWindow_noStall kept fed⟩

theorem calls_live {filled : List TCPSegment} {c : TCPConnection} (settled : Settled filled c)
    (live : Live c.sender) (noStall : NoStall c.sender) {operation : Operation} {calls : List Call}
    (bound : BoundedFlight c operation) (shape : Calls c operation calls) :
    Live (calls.foldl apply c.sender) ∧ NoStall (calls.foldl apply c.sender) := by
  have coherent := settled.coherent
  cases shape with
  | inactive => exact ⟨live, noStall⟩
  | reset => exact ⟨live, noStall⟩
  | readInbound => exact ⟨live, noStall⟩
  | connect =>
      exact ⟨apply_live coherent live .fillWindow (.inl rfl), apply_fillWindow_noStall coherent live⟩
  | write data => exact refill_live coherent live (.write data) rfl
  | endInputStream => exact refill_live coherent live .endInput rfl
  | tick ms =>
      have steady := tick_steady c.sender ms
      exact ⟨apply_live coherent live (.tick ms) (.inl rfl),
        noStall_frame noStall (tick_kept c.sender ms).1 steady.stream steady.fin steady.windowSize⟩
  | keepAlive =>
      exact ⟨live_frame live rfl rfl rfl rfl rfl, noStall_frame noStall rfl rfl rfl rfl⟩
  | answered segment => exact answer_live coherent live noStall bound segment
  | acknowledged segment =>
      obtain ⟨answered, sent⟩ := answer_live coherent live noStall bound segment
      exact ⟨live_frame answered rfl rfl rfl rfl rfl, noStall_frame sent rfl rfl rfl rfl⟩

def Running (c : TCPConnection) : Prop :=
  ∃ filled, Settled filled c ∧ Live c.sender ∧ NoStall c.sender

theorem operate_running (c : TCPConnection) (operation : Operation) (running : Running c)
    (bound : BoundedFlight c operation) : Running (operate c operation) := by
  obtain ⟨filled, settled, live, noStall⟩ := running
  obtain ⟨liveAfter, noStallAfter⟩ :=
    calls_live settled live noStall bound (senderCalls_calls c operation)
  refine ⟨_, operate_settled settled operation, ?_, ?_⟩
  · rw [(operate_outcome settled operation).sender]
    exact live_frame liveAfter rfl rfl rfl rfl rfl
  · rw [(operate_outcome settled operation).sender]
    exact noStallAfter

theorem new_running (cfg : TCPConfig) (randomIsn : WrappingInt32) :
    Running (TCPConnection.new cfg randomIsn) :=
  ⟨[], new_settled cfg randomIsn, new_live cfg.sendCapacity cfg.rtTimeout cfg.fixedIsn randomIsn,
    fun _ => ⟨rfl, fun ended => (Bool.false_ne_true ended).elim, Nat.le_refl 1⟩⟩

/-- While fewer than `2 ^ 30` sequence numbers are in flight, a connection with nothing outstanding has
sent every byte and the FIN it owes and has an open window. So what waits always has an outstanding
segment whose timer runs. -/
theorem connection_never_stalls {cfg : TCPConfig} {randomIsn : WrappingInt32} {c : TCPConnection}
    (reached : Reachable operate BoundedFlight (TCPConnection.new cfg randomIsn) c) :
    (c.sender.outstandingSegments = [] →
      c.sender.stream.buffer = [] ∧ (c.sender.stream.inputEnded = true → c.sender.fin = true) ∧
        1 ≤ c.sender.windowSize.toNat) ∧
      (c.sender.stream.buffer ≠ [] ∨ (c.sender.stream.inputEnded = true ∧ c.sender.fin = false) →
        c.sender.outstandingSegments ≠ [] ∧ c.sender.isTimerOn = true) := by
  obtain ⟨filled, settled, _, noStall⟩ :=
    reachable_invariant (new_running cfg randomIsn) operate_running reached
  refine ⟨noStall, ?_⟩
  intro waiting
  have outstanding : c.sender.outstandingSegments ≠ [] := by
    intro nothing
    obtain ⟨empty, finished, _⟩ := noStall nothing
    rcases waiting with bytes | ⟨ended, unsentFin⟩
    · exact bytes empty
    · rw [finished ended] at unsentFin
      cases unsentFin
  exact ⟨outstanding, settled.coherent.busy outstanding⟩

def zeroWindow : List Operation :=
  [.connect, .segmentReceived { header := { syn := true, ack := true, ackno := ⟨1⟩, win := 0 } },
    .write [1, 2]]

theorem zero_window_probed :
    (zeroWindow.foldl operate listener).sender.isTimerOn = true :=
  ((connection_never_stalls (reachable_run zeroWindow (by decide +kernel))).2
    (.inl (by decide +kernel))).2

end Sponge.ConnectionProgress

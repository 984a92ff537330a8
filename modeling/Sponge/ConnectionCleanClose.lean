import Sponge.ConnectionClosure
import Sponge.TcpState

/-! A connection that has finished normally is summarised as CLOSED, and only a reset changes that: a
segment with the RST flag is reported before the connection asks whether it is still active. -/

namespace Sponge.ConnectionCleanClose

open TCPConnection TCPSender TCPSegment SenderQueue SenderTransmission ConnectionRun ConnectionClosure
  Transition

structure Consistent (filled : List TCPSegment) (c : TCPConnection) : Prop where
  settled : Settled filled c
  accounted : Accounted filled c.sender
  finSent : c.fin = true → c.sender.fin = true
  heardSyn : c.receiver.streamOut.inputEnded = true → c.receiver.isSyn = true

theorem new_consistent (cfg : TCPConfig) (randomIsn : WrappingInt32) :
    Consistent [] (TCPConnection.new cfg randomIsn) where
  settled := new_settled cfg randomIsn
  accounted := new_accounted cfg.sendCapacity cfg.rtTimeout cfg.fixedIsn randomIsn
  finSent := by intro fin; cases fin
  heardSyn := by intro ended; cases ended

theorem segmentReceived_heardSyn (r : TCPReceiver) (segment : TCPSegment)
    (heardSyn : r.streamOut.inputEnded = true → r.isSyn = true) :
    (r.segmentReceived segment).streamOut.inputEnded = true →
      (r.segmentReceived segment).isSyn = true := by
  by_cases opened : r.isSyn = true ∨ segment.header.syn = true
  · intro _
    rw [TCPReceiver.segmentReceived_accepted r segment opened]
  · rw [TCPReceiver.segmentReceived_unopened r segment opened]
    exact heardSyn

theorem operate_consistent {filled : List TCPSegment} {c : TCPConnection}
    (consistent : Consistent filled c) (operation : Operation) :
    Consistent (filled ++ firstSent c operation) (operate c operation) := by
  have settled := consistent.settled
  have outcome := operate_outcome settled operation
  have accounted : Accounted (filled ++ firstSent c operation) (operate c operation).sender := by
    rw [outcome.sender]
    exact accounted_frame (run_accounted settled.coherent consistent.accounted _) rfl rfl rfl
  refine ⟨operate_settled settled operation, accounted, ?_, ?_⟩
  · rw [outcome.fin, Bool.or_eq_true, accounted.finSent, List.any_append]
    rintro (before | now)
    · have sent := consistent.finSent before
      rw [consistent.accounted.finSent] at sent
      rw [sent]
      rfl
    · obtain ⟨segment, member, fin⟩ := List.any_eq_true.mp now
      rcases calls_segmentsOut settled.coherent settled.queue _ member with sent | bare
      · rw [← List.any_append, List.any_eq_true]
        exact ⟨segment, sent, fin⟩
      · rw [bare.2.2.1] at fin
        cases fin
  · exact outcome.heard.rule (P := fun r => r.streamOut.inputEnded = true → r.isSyn = true)
      consistent.heardSyn (fun segment _ => segmentReceived_heardSyn _ segment consistent.heardSyn)
      (fun _ _ => consistent.heardSyn) (fun _ heard => heard)

theorem reachable_consistent {cfg : TCPConfig} {randomIsn : WrappingInt32} {c : TCPConnection}
    {allowed : TCPConnection → Operation → Prop}
    (reached : Reachable operate allowed (TCPConnection.new cfg randomIsn) c) :
    ∃ filled, Consistent filled c := by
  refine reachable_invariant (P := fun c => ∃ filled, Consistent filled c) ?_ ?_ reached
  · exact ⟨[], new_consistent cfg randomIsn⟩
  · rintro c operation ⟨filled, consistent⟩ _
    exact ⟨_, operate_consistent consistent operation⟩

theorem sender_finAcked {filled : List TCPSegment} {s : TCPSender} (coherent : Coherent filled s)
    (accounted : Accounted filled s) (noError : s.stream.error = false) (fin : s.fin = true)
    (eof : s.stream.eof = true) (acked : s.bytesInFlight = 0) : s.stateSummary = .finAcked := by
  have started : 0 < s.nextSeqno := by
    rw [Nat.pos_iff_ne_zero]
    intro zero
    rw [(accounted.unstarted zero).2] at fin
    cases fin
  have numbers := accounted.started started
  have accounting := coherent.sound.accounting
  have drained : s.stream.buffer = [] := by
    simp only [ByteStream.eof, ByteStream.bufferEmpty, Bool.and_eq_true, List.isEmpty_iff] at eof
    exact eof.1
  rw [drained, List.length_nil] at accounting
  rw [fin, Bool.toNat_true] at numbers
  have sentAll : ¬ s.nextSeqno < s.stream.bytesWritten + 2 := by omega
  have nonzero : s.nextSeqno ≠ 0 := Nat.ne_of_gt started
  simp [stateSummary, noError, nonzero, acked, eof, sentAll]

theorem inactive_state_closed {filled : List TCPSegment} {c : TCPConnection}
    (consistent : Consistent filled c) (inactive : c.active = false) (noError : c.error = false) :
    c.state = TCPState.ofState .closed := by
  have finished : c.checkPrereqs = true := by
    by_contra unfinished
    rw [Bool.not_eq_true] at unfinished
    rw [(active_iff c).mpr ⟨noError, .inl unfinished⟩] at inactive
    cases inactive
  obtain ⟨fin, outbound, acked, inbound⟩ := (checkPrereqs_iff c).mp finished
  have sender : c.sender.stateSummary = .finAcked :=
    sender_finAcked consistent.settled.coherent consistent.accounted
      (consistent.settled.senderError.trans noError) (consistent.finSent fin) outbound acked
  have ended : c.receiver.streamOut.inputEnded = true := by
    simp only [ByteStream.eof, Bool.and_eq_true] at inbound
    exact inbound.2
  have receiver : c.receiver.stateSummary = .finRecv := by
    simp [TCPReceiver.stateSummary, consistent.settled.receiverError.trans noError,
      TCPReceiver.ackno_isSome, consistent.heardSyn ended, ended]
  simp [TCPConnection.state, TCPState.ofState, sender, receiver, inactive]

theorem inactive_error {c : TCPConnection} (inactive : c.active = false) (operation : Operation)
    (notConnect : operation ≠ .connect) :
    (operate c operation).error = (c.error || isReset operation) := by
  cases operation with
  | connect => exact (notConnect rfl).elim
  | write data => simp [operate, TCPConnection.write, inactive, isReset]
  | endInputStream => simp [operate, endInputStream, inactive, isReset]
  | tick ms => simp [operate, TCPConnection.tick, inactive, isReset]
  | readInbound len => simp [operate, readInbound, isReset]
  | segmentReceived segment =>
      have untimed : { c with timeSinceLastSegmentReceived := 0 }.active = false := inactive
      cases rst : segment.header.rst with
      | true => simp [operate, TCPConnection.segmentReceived, isReset, rst, report, active]
      | false => simp [operate, TCPConnection.segmentReceived, isReset, rst, untimed]

/-- Neither stream has failed and the summary is that of a normal end. -/
def CleanlyClosed (c : TCPConnection) : Prop :=
  c.inboundStream.error = false ∧ c.sender.stream.error = false ∧
    c.state = TCPState.ofState .closed

instance (c : TCPConnection) : Decidable (CleanlyClosed c) :=
  inferInstanceAs (Decidable (_ ∧ _))

/-- A connection that has finished normally stays that way through every later sequence of segments,
ticks, writes, closes and reads exactly when none of the segments is a reset. -/
theorem clean_close_kept_iff_no_reset {cfg : TCPConfig} {randomIsn : WrappingInt32}
    {c : TCPConnection} (reached : Reachable operate anything (TCPConnection.new cfg randomIsn) c)
    (inactive : c.active = false) (noError : c.error = false) (operations : List Operation)
    (noConnect : ∀ operation ∈ operations, operation ≠ .connect) :
    Throughout operate CleanlyClosed c operations ↔
      ∀ operation ∈ operations, isReset operation = false := by
  refine throughout_iff
    (I := fun d => (∃ filled, Consistent filled d) ∧ d.active = false ∧ d.error = false)
    (D := fun operation => operation ≠ .connect) ?_ ?_ ?_ operations
    ⟨reachable_consistent reached, inactive, noError⟩ noConnect
  · rintro d ⟨⟨filled, consistent⟩, closed, clean⟩
    exact ⟨consistent.settled.receiverError.trans clean, consistent.settled.senderError.trans clean,
      inactive_state_closed consistent closed clean⟩
  · rintro d operation ⟨⟨filled, consistent⟩, closed, clean⟩ notConnect noReset
    have silent : Silent d d := ⟨closed, rfl, rfl, rfl⟩
    refine ⟨⟨_, operate_consistent consistent operation⟩,
      (operate_silent operation silent notConnect).inactive, ?_⟩
    rw [inactive_error closed operation notConnect, clean, noReset]
    rfl
  · rintro d operation ⟨⟨filled, consistent⟩, closed, clean⟩ notConnect reset cleanly
    have failed : (operate d operation).error = true := by
      rw [inactive_error closed operation notConnect, clean, Bool.false_or]
      simpa using reset
    have kept := cleanly.1
    rw [TCPConnection.inboundStream, (operate_settled consistent.settled operation).receiverError,
      failed] at kept
    cases kept

def wholeConnection : List Operation :=
  [.segmentReceived { header := { syn := true, seqno := ⟨100⟩ } },
    .segmentReceived { header := { ack := true, seqno := ⟨101⟩, ackno := ⟨1⟩, win := 4 } },
    .segmentReceived { header := { ack := true, fin := true, seqno := ⟨101⟩, ackno := ⟨1⟩, win := 4 } },
    .endInputStream,
    .segmentReceived { header := { ack := true, seqno := ⟨102⟩, ackno := ⟨2⟩, win := 4 } }]

def finished : TCPConnection := wholeConnection.foldl operate listener

theorem finished_reached : Reachable operate anything listener finished :=
  reachable_run wholeConnection ⟨trivial, trivial, trivial, trivial, trivial, trivial⟩

theorem finished_stays_closed :
    Throughout operate CleanlyClosed finished
      [.tick 5000, .segmentReceived { header := { syn := true } }, .write [1], .endInputStream] :=
  (clean_close_kept_iff_no_reset finished_reached (by decide +kernel) (by decide +kernel)
    [.tick 5000, .segmentReceived { header := { syn := true } }, .write [1], .endInputStream]
    (by decide)).mpr (by decide)

/-- A late reset turns the normal end into an error. -/
theorem finished_reset :
    Reachable operate anything listener finished ∧ finished.active = false ∧
      finished.error = false ∧
      ¬ Throughout operate CleanlyClosed finished [.segmentReceived { header := { rst := true } }] ∧
      (operate finished (.segmentReceived { header := { rst := true } })).state =
        TCPState.ofState .reset :=
  ⟨finished_reached, by decide +kernel, by decide +kernel, by decide +kernel, by decide +kernel⟩

end Sponge.ConnectionCleanClose

import Sponge.ConnectionRun

/-! A connection that is no longer active stays so and does nothing. -/

namespace Sponge.ConnectionClosure

open TCPConnection ConnectionRun Transition

/-- Every operation but `connect`, which sends without asking whether the connection is active. -/
def NotConnect (_ : TCPConnection) (operation : Operation) : Prop := operation ≠ .connect

instance (c : TCPConnection) (operation : Operation) : Decidable (NotConnect c operation) :=
  inferInstanceAs (Decidable (_ ≠ _))

/-- `d` is closed and has sent and taken in nothing since `c`. -/
structure Silent (c d : TCPConnection) : Prop where
  inactive : d.active = false
  segmentsOut : d.segmentsOut = c.segmentsOut
  outbound : d.sender.stream.bytesWritten = c.sender.stream.bytesWritten
  inbound : d.inboundStream.bytesWritten = c.inboundStream.bytesWritten

theorem readInbound_inactive {c : TCPConnection} (inactive : c.active = false) (len : Nat) :
    (c.readInbound len).2.active = false := by
  -- reading does not bring a closed connection back: a stream at its end stays there
  rw [← Bool.not_eq_true, active_iff] at inactive ⊢
  rintro ⟨noError, running⟩
  refine inactive ⟨noError, running.imp_left ?_⟩
  intro unfinished
  rw [← Bool.not_eq_true, checkPrereqs_iff] at unfinished ⊢
  rintro ⟨fin, outbound, acked, inbound⟩
  exact unfinished ⟨fin, outbound, acked, ByteStream.eof_read inbound len⟩

theorem operate_silent {c d : TCPConnection} (operation : Operation) (silent : Silent c d)
    (allowed : NotConnect d operation) : Silent c (operate d operation) := by
  have inactive := silent.inactive
  cases operation with
  | connect => exact (allowed rfl).elim
  | write data =>
      rw [operate, TCPConnection.write, inactive]
      exact silent
  | endInputStream =>
      rw [operate, endInputStream, inactive]
      exact silent
  | tick ms =>
      rw [operate, TCPConnection.tick, inactive]
      exact silent
  | segmentReceived segment =>
      rw [operate, TCPConnection.segmentReceived]
      cases segment.header.rst with
      | true => exact ⟨rfl, silent.segmentsOut, silent.outbound, silent.inbound⟩
      | false =>
          have untimed : { d with timeSinceLastSegmentReceived := 0 }.active = false := inactive
          simp only [Bool.false_eq_true, if_false, untimed, Bool.not_false, if_true]
          exact ⟨untimed, silent.segmentsOut, silent.outbound, silent.inbound⟩
  | readInbound len =>
      exact ⟨readInbound_inactive inactive len, silent.segmentsOut, silent.outbound, silent.inbound⟩

/-- From any state that is not active, whatever arrives and is asked for, the connection stays
inactive, sends nothing, accepts no bytes and delivers none. -/
theorem inactive_final_and_silent {c d : TCPConnection} (inactive : c.active = false)
    (later : Reachable operate NotConnect c d) :
    d.active = false ∧ d.segmentsOut = c.segmentsOut ∧ (∀ data, (d.write data).1 = 0) ∧
      d.sender.stream.bytesWritten = c.sender.stream.bytesWritten ∧
      d.inboundStream.bytesWritten = c.inboundStream.bytesWritten := by
  have silent : Silent c d :=
    reachable_invariant ⟨inactive, rfl, rfl, rfl⟩
      (fun state operation silent allowed => operate_silent operation silent allowed) later
  refine ⟨silent.inactive, silent.segmentsOut, ?_, silent.outbound, silent.inbound⟩
  intro data
  rw [TCPConnection.write, silent.inactive]
  rfl

def resetConnection : TCPConnection :=
  operate (TCPConnection.new { recvCapacity := 4, sendCapacity := 4 } ⟨0⟩)
    (.segmentReceived { header := { rst := true } })

theorem reset_connection_silent :
    ([Operation.write [1], .segmentReceived { header := { syn := true } }, .tick 5000].foldl operate
      resetConnection).segmentsOut = [] :=
  (inactive_final_and_silent (by decide +kernel)
    (reachable_run [.write [1], .segmentReceived { header := { syn := true } }, .tick 5000]
      (by decide +kernel))).2.1.trans (by decide +kernel)

end Sponge.ConnectionClosure

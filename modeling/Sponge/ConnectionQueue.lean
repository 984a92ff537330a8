import Sponge.ConnectionRun

/-! What the owner of a connection relies on. It takes segments from the front of `segments_out()`, and
nothing that the connection does depends on how many it has taken; the outgoing stream ends only when the
owner ends it. -/

namespace Sponge.TCPConnection

open ConnectionRun SenderQueue SenderTransmission

/-- The queue as it would be if the segments in `sent` had not been taken from it. -/
def afterSending (c : TCPConnection) (sent : List TCPSegment) : TCPConnection :=
  { c with segmentsOut := sent ++ c.segmentsOut }

/-! The parts of `tick` and of `segment_received`. -/

def elapse (c : TCPConnection) (ms : UInt64) : TCPConnection :=
  { c with
    timeSinceLastSegmentReceived := c.timeSinceLastSegmentReceived + ms
    sender := c.sender.tick ms }

def giveUp (c : TCPConnection) : TCPConnection :=
  if c.sender.consecutiveRetransmissionCount > maxRetxAttempts then c.report else c

def stopLingering (c : TCPConnection) : TCPConnection :=
  if c.checkPrereqs && decide (c.timeSinceLastSegmentReceived.toNat ≥ 10 * c.cfg.rtTimeout.toNat) then
    { c with lingerAfterStreamsFinish := false }
  else c

def noteReset (c : TCPConnection) (segment : TCPSegment) : TCPConnection :=
  if segment.header.rst then { c with timeSinceLastSegmentReceived := 0 }.report
  else { c with timeSinceLastSegmentReceived := 0 }

def respond (c : TCPConnection) (segment : TCPSegment) : TCPConnection :=
  if !c.active then c
  else if c.isKeepAlive segment then { c with sender := c.sender.sendEmptySegment }.send
  else (c.react segment).send

variable (c : TCPConnection) (sent : List TCPSegment)

theorem tick_eq (ms : UInt64) :
    c.tick ms = if !c.active then c else (c.elapse ms).giveUp.stopLingering.send := rfl

theorem segmentReceived_eq (segment : TCPSegment) :
    c.segmentReceived segment = (c.noteReset segment).respond segment := rfl

theorem active_after : (c.afterSending sent).active = c.active := rfl

theorem send_after : (c.afterSending sent).send = c.send.afterSending sent := by
  rw [send_eq, send_eq]
  simp only [afterSending, List.append_assoc]
  rfl

theorem react_after (segment : TCPSegment) :
    (c.afterSending sent).react segment = (c.react segment).afterSending sent := by
  unfold react
  dsimp only [afterSending]
  split_ifs <;> rfl

theorem giveUp_after : (c.afterSending sent).giveUp = c.giveUp.afterSending sent := by
  have same : (c.afterSending sent).sender = c.sender := rfl
  unfold giveUp
  rw [same]
  split_ifs <;> rfl

theorem stopLingering_after : (c.afterSending sent).stopLingering = c.stopLingering.afterSending sent := by
  have prereqs : (c.afterSending sent).checkPrereqs = c.checkPrereqs := rfl
  have time : (c.afterSending sent).timeSinceLastSegmentReceived = c.timeSinceLastSegmentReceived := rfl
  have cfg : (c.afterSending sent).cfg = c.cfg := rfl
  unfold stopLingering
  rw [prereqs, time, cfg]
  split_ifs <;> rfl

theorem noteReset_after (segment : TCPSegment) :
    (c.afterSending sent).noteReset segment = (c.noteReset segment).afterSending sent := by
  unfold noteReset
  split <;> rfl

theorem respond_after (segment : TCPSegment) :
    (c.afterSending sent).respond segment = (c.respond segment).afterSending sent := by
  have same : (c.afterSending sent).isKeepAlive segment = c.isKeepAlive segment := rfl
  have empty := send_after { c with sender := c.sender.sendEmptySegment } sent
  unfold respond
  rw [active_after, same, react_after, send_after]
  split
  case isTrue => rfl
  case isFalse =>
    split
    case isTrue => exact empty
    case isFalse => rfl

theorem write_after (data : List Byte) :
    (c.afterSending sent).write data = ((c.write data).1, (c.write data).2.afterSending sent) := by
  have sends := send_after { c with sender := (c.sender.writeStream data).fillWindow } sent
  unfold write
  rw [active_after]
  cases c.active with
  | false => rfl
  | true => exact Prod.ext rfl sends

theorem endInputStream_after : (c.afterSending sent).endInputStream = c.endInputStream.afterSending sent := by
  have sends := send_after { c with sender := c.sender.endStream.fillWindow } sent
  unfold endInputStream
  rw [active_after]
  cases c.active with
  | false => rfl
  | true => exact sends

theorem tick_after (ms : UInt64) : (c.afterSending sent).tick ms = (c.tick ms).afterSending sent := by
  have elapsed : (c.afterSending sent).elapse ms = (c.elapse ms).afterSending sent := rfl
  rw [tick_eq, tick_eq, active_after, elapsed, giveUp_after, stopLingering_after, send_after]
  split <;> rfl

theorem operate_after (operation : Operation) :
    operate (c.afterSending sent) operation = (operate c operation).afterSending sent := by
  cases operation with
  | connect => exact send_after { c with sender := c.sender.fillWindow } sent
  | readInbound len => rfl
  | write data => exact congrArg Prod.snd (write_after c sent data)
  | endInputStream => exact endInputStream_after c sent
  | tick ms => exact tick_after c sent ms
  | segmentReceived segment =>
      change (c.afterSending sent).segmentReceived segment = (c.segmentReceived segment).afterSending sent
      rw [segmentReceived_eq, segmentReceived_eq, noteReset_after, respond_after]

/-! ### The end of the outgoing stream -/

theorem apply_inputEnded {filled : List TCPSegment} {s : TCPSender} (coherent : Coherent filled s)
    {call : Call} (other : call ≠ .endInput) :
    (apply s call).stream.inputEnded = s.stream.inputEnded := by
  cases fed : feeds call with
  | false => exact (apply_sends coherent call fed).inputEnded
  | true =>
      cases call with
      | write data => rfl
      | endInput => exact (other rfl).elim
      | _ => cases fed

theorem calls_inputEnded {filled : List TCPSegment} {s : TCPSender} (coherent : Coherent filled s)
    (calls : List Call) (others : .endInput ∉ calls) :
    (calls.foldl apply s).stream.inputEnded = s.stream.inputEnded := by
  induction calls generalizing s filled with
  | nil => rfl
  | cons call calls ih =>
      rw [List.mem_cons, not_or] at others
      obtain ⟨here, later⟩ := others
      rw [List.foldl_cons, ih (apply_coherent coherent call) later,
        apply_inputEnded coherent (Ne.symm here)]

theorem calls_endInput {c : TCPConnection} {operation : Operation} {calls : List Call}
    (other : operation ≠ .endInputStream) (shape : Calls c operation calls) : .endInput ∉ calls := by
  have answered : ∀ segment, Call.endInput ≠ answer segment := by
    intro segment
    unfold answer
    split <;> intro same <;> cases same
  cases shape with
  | endInputStream => exact (other rfl).elim
  | _ => simp [answered]

theorem operate_inputEnded {filled : List TCPSegment} {c : TCPConnection} (settled : Settled filled c)
    {operation : Operation} (other : operation ≠ .endInputStream) :
    (operate c operation).sender.stream.inputEnded = c.sender.stream.inputEnded := by
  rw [(operate_outcome settled operation).sender]
  exact calls_inputEnded settled.coherent _ (calls_endInput other (senderCalls_calls c operation))

end Sponge.TCPConnection

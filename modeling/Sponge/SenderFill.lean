import Sponge.TcpSender

/-! What `fill_window` sends: how the segments of one call follow each other, and which flags and
sizes they have. -/

namespace Sponge.SenderFill

open TCPSender Tiling TCPSegment

/-- A segment as the sender builds it: no field but the sequence number and the two flags. -/
def Unstamped (isn : WrappingInt32) (seqno : Nat) (segment : TCPSegment) : Prop :=
  segment.header =
    { syn := segment.header.syn, fin := segment.header.fin, seqno := wrap seqno isn }

/-- `after` is `before` once `sent` has left it, segment by segment. -/
structure Emits (before after : TCPSender) (sent : List TCPSegment) : Prop where
  isn : after.isn = before.isn
  receiverWindowSize : after.receiverWindowSize = before.receiverWindowSize
  initialTimeout : after.initialRetransmissionTimeout = before.initialRetransmissionTimeout
  currentSeqno : after.currentSeqno = before.currentSeqno
  nextSeqno : after.nextSeqno = before.nextSeqno + span lengthInSequenceSpace sent
  windowSize : after.windowSize = before.windowSize - UInt16.ofNat (span lengthInSequenceSpace sent)
  segmentsOut : after.segmentsOut = before.segmentsOut ++ sent
  outstanding : after.outstandingSegments = before.outstandingSegments ++ sent
  buffer : before.stream.buffer = sent.flatMap TCPSegment.payload ++ after.stream.buffer
  bytesRead : after.stream.bytesRead =
    before.stream.bytesRead + (sent.flatMap TCPSegment.payload).length
  bytesWritten : after.stream.bytesWritten = before.stream.bytesWritten
  capacity : after.stream.capacity = before.stream.capacity
  inputEnded : after.stream.inputEnded = before.stream.inputEnded
  error : after.stream.error = before.stream.error
  fin : after.fin = (before.fin || sent.any (fun segment => segment.header.fin))
  timerOn : after.isTimerOn = (before.isTimerOn || !sent.isEmpty)
  timerKept : before.isTimerOn = true ∨ sent = [] →
    after.retransmissionTimeout = before.retransmissionTimeout ∧
      after.timerElapsed = before.timerElapsed ∧
      after.consecutiveRetransmissions = before.consecutiveRetransmissions
  timerStarted : before.isTimerOn = false → sent ≠ [] →
    after.retransmissionTimeout = before.initialRetransmissionTimeout ∧
      after.timerElapsed = 0 ∧ after.consecutiveRetransmissions = 0
  unstamped : ∀ entry ∈ number lengthInSequenceSpace before.nextSeqno sent,
    Unstamped before.isn entry.1 entry.2

theorem emits_nothing (s : TCPSender) : Emits s s [] where
  isn := rfl
  receiverWindowSize := rfl
  initialTimeout := rfl
  currentSeqno := rfl
  nextSeqno := rfl
  windowSize := by simp
  segmentsOut := by simp
  outstanding := by simp
  buffer := rfl
  bytesRead := rfl
  bytesWritten := rfl
  capacity := rfl
  inputEnded := rfl
  error := rfl
  fin := by simp
  timerOn := by simp
  timerKept := fun _ => ⟨rfl, rfl, rfl⟩
  timerStarted := fun _ nonempty => (nonempty rfl).elim
  unstamped := by intro entry member; cases member

theorem Emits.trans {first middle last : TCPSender} {front back : List TCPSegment}
    (one : Emits first middle front) (two : Emits middle last back) :
    Emits first last (front ++ back) where
  isn := two.isn.trans one.isn
  receiverWindowSize := two.receiverWindowSize.trans one.receiverWindowSize
  initialTimeout := two.initialTimeout.trans one.initialTimeout
  currentSeqno := two.currentSeqno.trans one.currentSeqno
  nextSeqno := by rw [two.nextSeqno, one.nextSeqno, span_append, Nat.add_assoc]
  windowSize := by
    rw [two.windowSize, one.windowSize, span_append, UInt16.ofNat_add]
    grind
  segmentsOut := by rw [two.segmentsOut, one.segmentsOut, List.append_assoc]
  outstanding := by rw [two.outstanding, one.outstanding, List.append_assoc]
  buffer := by rw [one.buffer, two.buffer, List.flatMap_append, List.append_assoc]
  bytesRead := by
    rw [two.bytesRead, one.bytesRead, List.flatMap_append, List.length_append, Nat.add_assoc]
  bytesWritten := two.bytesWritten.trans one.bytesWritten
  capacity := two.capacity.trans one.capacity
  inputEnded := two.inputEnded.trans one.inputEnded
  error := two.error.trans one.error
  fin := by rw [two.fin, one.fin, List.any_append, Bool.or_assoc]
  timerOn := by
    rw [two.timerOn, one.timerOn]
    cases front <;> cases back <;> simp
  timerKept := by
    intro quiet
    have frontKept := one.timerKept (by
      rcases quiet with on | nothing
      · exact .inl on
      · exact .inr (List.append_eq_nil_iff.mp nothing).1)
    have backKept := two.timerKept (by
      rcases quiet with on | nothing
      · exact .inl (by rw [one.timerOn, on]; rfl)
      · exact .inr (List.append_eq_nil_iff.mp nothing).2)
    exact ⟨backKept.1.trans frontKept.1, backKept.2.1.trans frontKept.2.1,
      backKept.2.2.trans frontKept.2.2⟩
  timerStarted := by
    intro off nonempty
    by_cases noFront : front = []
    · have stillOff : middle.isTimerOn = false := by rw [one.timerOn, off, noFront]; rfl
      have backNonempty : back ≠ [] := by
        rintro rfl
        exact nonempty (by simp [noFront])
      have started := two.timerStarted stillOff backNonempty
      exact ⟨started.1.trans one.initialTimeout, started.2⟩
    · have started := one.timerStarted off noFront
      have on : middle.isTimerOn = true := by
        rw [one.timerOn]
        cases front with
        | nil => exact (noFront rfl).elim
        | cons segment rest => simp
      have kept := two.timerKept (.inl on)
      exact ⟨kept.1.trans started.1, kept.2.1.trans started.2.1, kept.2.2.trans started.2.2⟩
  unstamped := by
    intro entry member
    rw [number_append, List.mem_append] at member
    rcases member with early | late
    · exact one.unstamped entry early
    · have numbered : entry ∈ number lengthInSequenceSpace middle.nextSeqno back := by
        rw [one.nextSeqno]
        exact late
      have plain := two.unstamped entry numbered
      rwa [one.isn] at plain

def emitted (s : TCPSender) (syn fin : Bool) (size : Nat) : TCPSegment :=
  { header := { syn := syn, fin := fin, seqno := wrap s.nextSeqno s.isn }
    payload := (s.stream.read size).1 }

theorem emit_emits (s : TCPSender) (syn fin : Bool) (size : Nat) :
    Emits s (s.emit syn fin size) [emitted s syn fin size] := by
  have consumed : (s.stream.buffer.take size).length = min size s.stream.buffer.length :=
    List.length_take
  cases timer : s.isTimerOn <;>
    constructor <;>
    simp [emit, startTimer, emitted, timer, number, Unstamped, List.take_append_drop, consumed]

def SynFits (s : TCPSender) : Prop := s.nextSeqno = 0 → 1 ≤ s.windowSize.toNat

/-- Sequence numbers waiting to be sent: the SYN, the buffered bytes and the FIN. -/
def unsent (s : TCPSender) : Nat :=
  (s.nextSeqno == 0).toNat + s.stream.buffer.length + (s.stream.inputEnded && !s.fin).toNat

/-- What the constants of `fill_window` are when the window has room for the SYN. -/
structure PlanFacts (s : TCPSender) (plan : FillPlan) : Prop where
  syn : plan.hasSyn = (s.nextSeqno == 0)
  fin : plan.reachFin =
    ((s.stream.inputEnded && !s.fin) && decide (unsent s ≤ s.windowSize.toNat))
  total : plan.hasSyn.toNat + plan.actualPayloadSize + plan.reachFin.toNat =
    min (unsent s) s.windowSize.toNat
  payload : plan.actualPayloadSize ≤ s.stream.buffer.length
  segments : plan.numSegments =
    max ((plan.actualPayloadSize + 999) / 1000) (plan.hasSyn || plan.reachFin).toNat

theorem flags_fit (syn reach : Bool) (actual : Nat) (small : actual < 2 ^ 16)
    (room : syn.toNat + reach.toNat ≤ actual) :
    subSize (subSize actual syn.toNat) reach.toNat = actual - syn.toNat - reach.toNat := by
  have inner : subSize actual syn.toNat = actual - syn.toNat := subSize_of_le (by omega) (by omega)
  rw [inner, subSize_of_le (by omega) (by omega)]

section Plan

variable {s : TCPSender}

theorem fillPlan_reachFin (s : TCPSender) : s.fillPlan.reachFin =
    ((s.stream.inputEnded && !s.fin) && decide (unsent s ≤ s.windowSize.toNat)) := rfl

theorem fillPlan_whole (reach : s.fillPlan.reachFin = true) :
    (s.stream.inputEnded && !s.fin) = true ∧ min (unsent s) s.windowSize.toNat = unsent s := by
  rw [fillPlan_reachFin, Bool.and_eq_true, decide_eq_true_eq] at reach
  exact ⟨reach.1, Nat.min_eq_left reach.2⟩

theorem fillPlan_room (fits : SynFits s) :
    (s.nextSeqno == 0).toNat + s.fillPlan.reachFin.toNat ≤ min (unsent s) s.windowSize.toNat := by
  cases reach : s.fillPlan.reachFin with
  | true =>
      obtain ⟨pending, whole⟩ := fillPlan_whole reach
      rw [whole]
      simp only [unsent, pending, Bool.toNat_true]
      omega
  | false =>
      cases zero : s.nextSeqno == 0 with
      | false => simp
      | true =>
          have room := fits (by simpa using zero)
          simp only [unsent, zero, Bool.toNat_true, Bool.toNat_false]
          omega

theorem fillPlan_payload (fits : SynFits s) :
    s.fillPlan.actualPayloadSize = min (unsent s) s.windowSize.toNat -
      (s.nextSeqno == 0).toNat - s.fillPlan.reachFin.toNat := by
  have windowBound := s.windowSize.toNat_lt
  exact flags_fit _ _ _ (by omega) (fillPlan_room fits)

theorem fillPlan_payload_le (fits : SynFits s) :
    s.fillPlan.actualPayloadSize ≤ s.stream.buffer.length := by
  rw [fillPlan_payload fits]
  cases reach : s.fillPlan.reachFin with
  | true =>
      obtain ⟨pending, whole⟩ := fillPlan_whole reach
      rw [whole]
      simp only [unsent, pending, Bool.toNat_true]
      omega
  | false =>
      -- no FIN is planned: none waits, or the window is too small for all that waits
      rw [fillPlan_reachFin, Bool.and_eq_false_iff, decide_eq_false_iff_not] at reach
      rcases reach with quiet | small
      · simp only [unsent, quiet, Bool.toNat_false]
        omega
      · have pendingBound := Bool.toNat_le (s.stream.inputEnded && !s.fin)
        simp only [unsent] at small ⊢
        omega

theorem fillPlan_numSegments (fits : SynFits s) : s.fillPlan.numSegments =
    max ((s.fillPlan.actualPayloadSize + 999) / 1000)
      (s.fillPlan.hasSyn || s.fillPlan.reachFin).toNat := by
  have windowBound := s.windowSize.toNat_lt
  have small : s.fillPlan.actualPayloadSize + maxPayloadSize - 1 < 2 ^ 64 := by
    rw [fillPlan_payload fits]
    simp only [maxPayloadSize]
    omega
  calc
    s.fillPlan.numSegments =
        max ((s.fillPlan.actualPayloadSize + maxPayloadSize - 1) % 2 ^ 64 / maxPayloadSize)
          (s.fillPlan.hasSyn || s.fillPlan.reachFin).toNat := rfl
    _ = _ := by
      rw [Nat.mod_eq_of_lt small]
      rfl

theorem fillPlan_facts (fits : SynFits s) : PlanFacts s s.fillPlan where
  syn := rfl
  fin := rfl
  total := by
    have synFlag : s.fillPlan.hasSyn = (s.nextSeqno == 0) := rfl
    have room := fillPlan_room fits
    rw [synFlag, fillPlan_payload fits]
    omega
  payload := fillPlan_payload_le fits
  segments := fillPlan_numSegments fits

end Plan

/-- The loop of `fill_window` after `count` rounds. -/
structure Progress (s : TCPSender) (plan : FillPlan) (count : Nat) (state : TCPSender)
    (sent : List TCPSegment) : Prop where
  emits : Emits s state sent
  empty : sent = [] → count = 0
  payloads : (sent.flatMap TCPSegment.payload).length = min plan.actualPayloadSize (1000 * count)
  space : span lengthInSequenceSpace sent =
    (if count = 0 then 0 else plan.hasSyn.toNat) + min plan.actualPayloadSize (1000 * count) +
      if count = plan.numSegments then plan.reachFin.toNat else 0
  each : ∀ entry ∈ number lengthInSequenceSpace s.nextSeqno sent,
    0 < entry.2.lengthInSequenceSpace ∧ entry.2.payload.length ≤ 1000 ∧
      (entry.2.header.syn = true ↔ entry.1 = 0)
  final : ∀ entry ∈ number lengthInSequenceSpace s.nextSeqno sent, entry.2.header.fin = true →
    count = plan.numSegments ∧ plan.reachFin = true ∧
      entry.1 + entry.2.lengthInSequenceSpace = s.nextSeqno + span lengthInSequenceSpace sent
  finSent : count = plan.numSegments → plan.reachFin = true →
    sent.any (fun segment => segment.header.fin) = true

theorem progress_start (s : TCPSender) (plan : FillPlan) (facts : PlanFacts s plan) :
    Progress s plan 0 s [] where
  emits := emits_nothing s
  empty := fun _ => rfl
  payloads := by simp
  space := by
    have count := facts.segments
    cases reach : plan.reachFin with
    | false => simp
    | true =>
        rw [reach, Bool.or_true, Bool.toNat_true] at count
        have nonzero : ¬ 0 = plan.numSegments := by omega
        simp [nonzero]
  each := by intro entry member; cases member
  final := by intro entry member; cases member
  finSent := by
    intro done reach
    have count := facts.segments
    rw [reach, Bool.or_true, Bool.toNat_true] at count
    omega

section Round

variable {s state : TCPSender} {plan : FillPlan} {count : Nat} {sent : List TCPSegment}

theorem PlanFacts.rounds (facts : PlanFacts s plan) (more : count < plan.numSegments) :
    1000 * count ≤ plan.actualPayloadSize ∧
      (count + 1 = plan.numSegments → plan.actualPayloadSize ≤ 1000 * (count + 1)) ∧
      (count + 1 < plan.numSegments → 1000 * (count + 1) ≤ plan.actualPayloadSize) ∧
      plan.actualPayloadSize < 2 ^ 16 ∧ plan.numSegments < 2 ^ 16 := by
  have windowBound := s.windowSize.toNat_lt
  have total := facts.total
  have segments := facts.segments
  have flagBound := Bool.toNat_le (plan.hasSyn || plan.reachFin)
  omega

theorem last_index (facts : PlanFacts s plan) (more : count < plan.numSegments) :
    subSize plan.numSegments 1 = plan.numSegments - 1 := by
  have rounds := facts.rounds more
  exact subSize_of_le (by omega) (by omega)

theorem last_round (facts : PlanFacts s plan) (more : count < plan.numSegments) :
    (count == subSize plan.numSegments 1) = decide (count + 1 = plan.numSegments) := by
  rw [last_index facts more, Bool.eq_iff_iff, beq_iff_eq, decide_eq_true_eq]
  omega

def roundSize (plan : FillPlan) (count : Nat) : Nat :=
  if (count == subSize plan.numSegments 1) = true
  then subSize plan.actualPayloadSize (maxPayloadSize * count) else maxPayloadSize

theorem roundSize_spec (facts : PlanFacts s plan) (more : count < plan.numSegments) :
    roundSize plan count ≤ 1000 ∧ min plan.actualPayloadSize (1000 * (count + 1)) =
      min plan.actualPayloadSize (1000 * count) + roundSize plan count := by
  have rounds := facts.rounds more
  rw [roundSize, last_round facts more]
  by_cases last : count + 1 = plan.numSegments
  · have rest : subSize plan.actualPayloadSize (maxPayloadSize * count) =
        plan.actualPayloadSize - 1000 * count :=
      subSize_of_le (by simp only [maxPayloadSize]; omega) (by omega)
    rw [if_pos (decide_eq_true last), rest]
    omega
  · rw [if_neg (by simpa using last), maxPayloadSize]
    omega

structure Round (plan : FillPlan) (count : Nat) (state : TCPSender) (next : TCPSegment) : Prop where
  emits : Emits state (fillStep plan state count) [next]
  payload : next.payload.length = roundSize plan count
  syn : next.header.syn = (count == 0 && plan.hasSyn)
  fin : next.header.fin = (decide (count + 1 = plan.numSegments) && plan.reachFin)

theorem round_exists (facts : PlanFacts s plan) (more : count < plan.numSegments)
    (progress : Progress s plan count state sent) : ∃ next, Round plan count state next := by
  obtain ⟨_, sizeSum⟩ := roundSize_spec facts more
  have available : roundSize plan count ≤ state.stream.buffer.length := by
    have whole := congrArg List.length progress.emits.buffer
    rw [List.length_append, progress.payloads] at whole
    have bound := facts.payload
    omega
  refine ⟨emitted state (count == 0 && plan.hasSyn)
    ((count == subSize plan.numSegments 1) && plan.reachFin) (roundSize plan count),
    emit_emits _ _ _ _, ?_, rfl, ?_⟩
  · rw [emitted, ByteStream.read_fst, List.length_take]
    exact Nat.min_eq_left available
  · rw [← last_round facts more]
    rfl

theorem Round.length {next : TCPSegment} (round : Round plan count state next) :
    next.lengthInSequenceSpace = roundSize plan count +
      (if count = 0 then plan.hasSyn.toNat else 0) +
      if count + 1 = plan.numSegments then plan.reachFin.toNat else 0 := by
  unfold lengthInSequenceSpace
  rw [round.payload, round.syn, round.fin]
  by_cases first : count = 0 <;> by_cases last : count + 1 = plan.numSegments <;>
    cases plan.hasSyn <;> cases plan.reachFin <;> simp [first, last]

theorem progress_step (facts : PlanFacts s plan) (more : count < plan.numSegments)
    (progress : Progress s plan count state sent) :
    ∃ next, Progress s plan (count + 1) (fillStep plan state count) (sent ++ [next]) := by
  have segments := facts.segments
  have flagBound := Bool.toNat_le (plan.hasSyn || plan.reachFin)
  obtain ⟨sizeBound, sizeSum⟩ := roundSize_spec facts more
  obtain ⟨next, round⟩ := round_exists facts more progress
  have flagSum : (plan.hasSyn || plan.reachFin).toNat ≤ plan.hasSyn.toNat + plan.reachFin.toNat := by
    cases plan.hasSyn <;> cases plan.reachFin <;> simp
  have space := progress.space
  rw [if_neg (Nat.ne_of_lt more)] at space
  refine ⟨next, progress.emits.trans round.emits, ?_, ?_, ?_, ?_, ?_, ?_⟩
  · intro nothing
    exact (List.append_ne_nil_of_right_ne_nil sent (List.cons_ne_nil _ _) nothing).elim
  · rw [List.flatMap_append, List.length_append, progress.payloads, sizeSum]
    simp [round.payload]
  · rw [span_append, space, span_cons, span_nil, round.length, sizeSum]
    by_cases first : count = 0 <;> simp [first] <;> omega
  · rw [number_snoc]
    intro entry member
    rcases List.mem_append.mp member with earlier | latest
    · exact progress.each entry earlier
    · obtain rfl := List.mem_singleton.mp latest
      refine ⟨?_, by rw [round.payload]; exact sizeBound, ?_⟩
      · rw [round.length]
        split <;> split <;> omega
      · rw [round.syn, facts.syn]
        by_cases first : count = 0
        · rw [space]
          simp [first]
        · have positive : 0 < span lengthInSequenceSpace sent := by
            rw [space, if_neg first]
            omega
          simp only [beq_iff_eq, first, Bool.and_eq_true, false_and, false_iff]
          omega
  · rw [number_snoc]
    intro entry member fin
    rcases List.mem_append.mp member with earlier | latest
    · exact (Nat.ne_of_lt more (progress.final entry earlier fin).1).elim
    · obtain rfl := List.mem_singleton.mp latest
      rw [round.fin, Bool.and_eq_true, decide_eq_true_eq] at fin
      refine ⟨fin.1, fin.2, ?_⟩
      rw [span_append, span_cons, span_nil, Nat.add_zero, Nat.add_assoc]
  · intro done reach
    simp [round.fin, done, reach]

end Round

theorem fill_progress (s : TCPSender) (plan : FillPlan) (facts : PlanFacts s plan) (count : Nat)
    (bound : count ≤ plan.numSegments) :
    ∃ sent, Progress s plan count ((List.range count).foldl (fillStep plan) s) sent := by
  induction count with
  | zero => exact ⟨[], progress_start s plan facts⟩
  | succ count ih =>
      obtain ⟨sent, progress⟩ := ih (Nat.le_of_succ_le bound)
      obtain ⟨next, further⟩ := progress_step facts bound progress
      refine ⟨sent ++ [next], ?_⟩
      rw [List.range_succ, List.foldl_append]
      exact further

/-- One call of `fill_window`: `sent` is what it transmits. -/
structure Fills (s : TCPSender) (sent : List TCPSegment) : Prop where
  emits : Emits s s.fillWindow sent
  /-- The call uses up the window or everything that waits. -/
  space : span lengthInSequenceSpace sent = min (unsent s) s.windowSize.toNat
  each : ∀ entry ∈ number lengthInSequenceSpace s.nextSeqno sent,
    0 < entry.2.lengthInSequenceSpace ∧ entry.2.payload.length ≤ 1000 ∧
      (entry.2.header.syn = true ↔ entry.1 = 0)
  /-- A FIN closes the call and the stream. -/
  final : ∀ entry ∈ number lengthInSequenceSpace s.nextSeqno sent, entry.2.header.fin = true →
    s.stream.inputEnded = true ∧ s.fin = false ∧ s.fillWindow.stream.buffer = [] ∧
      entry.1 + entry.2.lengthInSequenceSpace = s.nextSeqno + span lengthInSequenceSpace sent
  finSent : s.stream.inputEnded = true → s.fin = false → unsent s ≤ s.windowSize.toNat →
    sent.any (fun segment => segment.header.fin) = true

theorem progress_fills {s : TCPSender} {sent : List TCPSegment} (fits : SynFits s)
    (progress : Progress s s.fillPlan s.fillPlan.numSegments s.fillWindow sent) : Fills s sent := by
  have facts := fillPlan_facts fits
  have emits : Emits s s.fillWindow sent := progress.emits
  have segments := facts.segments
  have total := facts.total
  have flagSum : s.fillPlan.hasSyn.toNat ≤ (s.fillPlan.hasSyn || s.fillPlan.reachFin).toNat := by
    cases s.fillPlan.hasSyn <;> simp
  have allPayload : min s.fillPlan.actualPayloadSize (1000 * s.fillPlan.numSegments) =
      s.fillPlan.actualPayloadSize := by omega
  refine ⟨emits, ?_, progress.each, ?_, ?_⟩
  · rw [progress.space, if_pos rfl, allPayload]
    split <;> omega
  · intro entry member fin
    obtain ⟨_, reach, last⟩ := progress.final entry member fin
    have reason := facts.fin
    rw [reach, eq_comm, Bool.and_eq_true, Bool.and_eq_true, decide_eq_true_eq,
      Bool.not_eq_true'] at reason
    obtain ⟨⟨ended, unsentFin⟩, whole⟩ := reason
    refine ⟨ended, unsentFin, ?_, last⟩
    have lengths := congrArg List.length emits.buffer
    rw [List.length_append, progress.payloads, allPayload] at lengths
    rw [reach, Nat.min_eq_left whole] at total
    simp only [unsent, ended, unsentFin, facts.syn, Bool.not_false, Bool.and_self,
      Bool.toNat_true] at total
    exact List.eq_nil_of_length_eq_zero (by omega)
  · intro ended unsentFin whole
    apply progress.finSent rfl
    rw [facts.fin, ended, unsentFin]
    simpa using whole

theorem fillWindow_progress (s : TCPSender) (fits : SynFits s) :
    ∃ sent, Progress s s.fillPlan s.fillPlan.numSegments s.fillWindow sent :=
  fill_progress s s.fillPlan (fillPlan_facts fits) _ (Nat.le_refl _)

theorem fillWindow_fills (s : TCPSender) (fits : SynFits s) : ∃ sent, Fills s sent := by
  obtain ⟨sent, progress⟩ := fillWindow_progress s fits
  exact ⟨sent, progress_fills fits progress⟩

end Sponge.SenderFill

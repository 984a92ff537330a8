import Sponge.SenderWindow

/-! `fill_window` uses the window exactly, and its unsigned arithmetic does not wrap.

The functions named `Checked` are those of `TCPSender` with every subtraction tested; they fail where the
source would wrap. -/

namespace Sponge.SenderFilling

open TCPSender Tiling TCPSegment SenderFill SenderQueue SenderTransmission SenderWindow Transition

def subChecked (a b : Nat) : Option Nat := if b ≤ a then some (a - b) else none

def fillPlanChecked (s : TCPSender) : Option FillPlan :=
  let hasSyn := s.nextSeqno == 0
  let hasFin := s.stream.inputEnded && !s.fin
  let totalWindowSize := hasSyn.toNat + s.stream.bufferSize + hasFin.toNat
  let reachFin := hasFin && decide (s.windowSize.toNat ≥ totalWindowSize)
  let actualWindowSize := min totalWindowSize s.windowSize.toNat
  (subChecked actualWindowSize hasSyn.toNat).bind fun withoutSyn =>
    (subChecked withoutSyn reachFin.toNat).map fun actualPayloadSize =>
      { hasSyn := hasSyn
        reachFin := reachFin
        actualPayloadSize := actualPayloadSize
        numSegments := max ((actualPayloadSize + maxPayloadSize - 1) / maxPayloadSize)
          (hasSyn || reachFin).toNat }

/-- `_window_size -= segment.length_in_sequence_space()` is the subtraction here. -/
def emitChecked (s : TCPSender) (syn fin : Bool) (size : Nat) : Option TCPSender :=
  (subChecked s.windowSize.toNat (emitted s syn fin size).lengthInSequenceSpace).map fun _ =>
    s.emit syn fin size

def fillStepChecked (plan : FillPlan) (s : TCPSender) (index : Nat) : Option TCPSender :=
  (subChecked plan.numSegments 1).bind fun lastIndex =>
    let last := index == lastIndex
    (if last then subChecked plan.actualPayloadSize (maxPayloadSize * index)
      else some maxPayloadSize).bind fun size =>
        emitChecked s (index == 0 && plan.hasSyn) (last && plan.reachFin) size

def fillWindowChecked (s : TCPSender) : Option TCPSender :=
  (fillPlanChecked s).bind fun plan =>
    (List.range plan.numSegments).foldlM (fillStepChecked plan) s

theorem subChecked_eq {a b : Nat} (order : b ≤ a) : subChecked a b = some (a - b) := if_pos order

theorem fillPlanChecked_eq {s : TCPSender} (fits : SynFits s) : fillPlanChecked s = some s.fillPlan := by
  have room := fillPlan_room fits
  have payload := fillPlan_payload fits
  have segments := fillPlan_numSegments fits
  have syn : subChecked (min (unsent s) s.windowSize.toNat) (s.nextSeqno == 0).toNat = _ :=
    subChecked_eq (by omega)
  have fin : subChecked (min (unsent s) s.windowSize.toNat - (s.nextSeqno == 0).toNat)
      s.fillPlan.reachFin.toNat = _ := subChecked_eq (by omega)
  rw [← payload] at fin
  have constants : s.fillPlan = ⟨s.nextSeqno == 0, s.fillPlan.reachFin, s.fillPlan.actualPayloadSize,
      s.fillPlan.numSegments⟩ := rfl
  rw [constants, segments]
  exact (congrArg (Option.bind · _) syn).trans (congrArg (Option.map _) fin)

section Rounds

variable {s state : TCPSender} {plan : FillPlan} {count : Nat} {sent : List TCPSegment}

theorem progress_window (facts : PlanFacts s plan) (progress : Progress s plan count state sent) :
    state.windowSize.toNat + span lengthInSequenceSpace sent = s.windowSize.toNat := by
  have bound := s.windowSize.toNat_lt
  have total := facts.total
  have space := progress.space
  have spent : span lengthInSequenceSpace sent ≤ s.windowSize.toNat := by
    rw [space]
    split <;> split <;> omega
  rw [progress.emits.windowSize, UInt16.toNat_sub, UInt16.toNat_ofNat']
  omega

theorem roundSize_checked (facts : PlanFacts s plan) (more : count < plan.numSegments) :
    (if (count == plan.numSegments - 1) = true
      then subChecked plan.actualPayloadSize (maxPayloadSize * count) else some maxPayloadSize) =
      some (roundSize plan count) := by
  have rounds := facts.rounds more
  rw [roundSize, last_index facts more]
  split
  case isTrue last =>
    rw [beq_iff_eq] at last
    have order : maxPayloadSize * count ≤ plan.actualPayloadSize := by
      simp only [maxPayloadSize]
      omega
    rw [subChecked_eq order, subSize_of_le order (by omega)]
  case isFalse => rfl

theorem emitted_fits (facts : PlanFacts s plan) (more : count < plan.numSegments)
    (progress : Progress s plan count state sent) :
    (emitted state (count == 0 && plan.hasSyn) ((count == plan.numSegments - 1) && plan.reachFin)
      (roundSize plan count)).lengthInSequenceSpace ≤ state.windowSize.toNat := by
  obtain ⟨next, further⟩ := progress_step facts more progress
  have before := progress_window facts progress
  have after := progress_window facts further
  have advance := further.emits.nextSeqno
  have emits := emit_emits state (count == 0 && plan.hasSyn)
    ((count == plan.numSegments - 1) && plan.reachFin) (roundSize plan count)
  have advanced := emits.nextSeqno
  rw [progress.emits.nextSeqno, span_cons, span_nil] at advanced
  have same : (fillStep plan state count).nextSeqno = (state.emit (count == 0 && plan.hasSyn)
      ((count == plan.numSegments - 1) && plan.reachFin) (roundSize plan count)).nextSeqno := by
    rw [← last_index facts more]
    rfl
  rw [same] at advance
  omega

theorem fillStepChecked_eq (facts : PlanFacts s plan) (more : count < plan.numSegments)
    (progress : Progress s plan count state sent) :
    fillStepChecked plan state count = some (fillStep plan state count) := by
  simp only [fillStepChecked, subChecked_eq (Nat.one_le_of_lt more), Option.bind_some,
    roundSize_checked facts more, emitChecked, subChecked_eq (emitted_fits facts more progress),
    Option.map_some, fillStep, last_index facts more]
  rw [roundSize, last_index facts more]

theorem fillLoopChecked_eq (facts : PlanFacts s plan) (bound : count ≤ plan.numSegments) :
    (List.range count).foldlM (fillStepChecked plan) s =
      some ((List.range count).foldl (fillStep plan) s) := by
  induction count with
  | zero => rfl
  | succ count ih =>
      obtain ⟨sent, progress⟩ := fill_progress s plan facts count (Nat.le_of_succ_le bound)
      have step := fillStepChecked_eq facts bound progress
      rw [List.range_succ, List.foldlM_append, List.foldl_append, ih (Nat.le_of_succ_le bound)]
      simp [step]

end Rounds

theorem fillWindowChecked_eq {s : TCPSender} (fits : SynFits s) :
    fillWindowChecked s = some s.fillWindow := by
  rw [fillWindowChecked, fillPlanChecked_eq fits, Option.bind_some]
  exact fillLoopChecked_eq (fillPlan_facts fits) (Nat.le_refl _)

def Spent (s : TCPSender) : Prop := SynFits s ∧ min (unsent s) s.windowSize.toNat = 0

theorem fillWindow_spent {s : TCPSender} (spent : Spent s) : s.fillWindow = s := by
  have facts := fillPlan_facts spent.1
  have total := facts.total
  have segments := facts.segments
  rw [spent.2] at total
  have nothing : s.fillPlan.numSegments = 0 := by
    have flags : (s.fillPlan.hasSyn || s.fillPlan.reachFin).toNat ≤
        s.fillPlan.hasSyn.toNat + s.fillPlan.reachFin.toNat := by
      cases s.fillPlan.hasSyn <;> cases s.fillPlan.reachFin <;> simp
    omega
  rw [fillWindow, nothing]
  rfl

section Fill

variable {s : TCPSender} {sent : List TCPSegment}

theorem progress_fin
    (progress : Progress s s.fillPlan s.fillPlan.numSegments s.fillWindow sent) :
    sent.any (fun segment => segment.header.fin) = s.fillPlan.reachFin := by
  rw [Bool.eq_iff_iff]
  constructor
  · intro sent
    obtain ⟨segment, member, fin⟩ := List.any_eq_true.mp sent
    obtain ⟨position, numbered⟩ := number_of_mem lengthInSequenceSpace s.nextSeqno member
    exact (progress.final _ numbered fin).2.1
  · exact progress.finSent rfl

theorem fillWindow_spends (fits : SynFits s) : Spent s.fillWindow := by
  obtain ⟨sent, progress⟩ := fillWindow_progress s fits
  have fills := progress_fills fits progress
  have facts := fillPlan_facts fits
  have window := fillWindow_window fills
  have space := fills.space
  have next := fills.emits.nextSeqno
  have started : s.fillWindow.nextSeqno ≠ 0 := by
    intro zero
    have start : s.nextSeqno = 0 := by omega
    have room := fits start
    simp only [unsent, start, beq_self_eq_true, Bool.toNat_true] at space
    omega
  refine ⟨fun zero => (started zero).elim, ?_⟩
  rcases Nat.lt_or_ge s.windowSize.toNat (unsent s) with short | whole
  · omega
  · -- everything that waited has been sent
    have total := facts.total
    have segments := facts.segments
    have lengths := congrArg List.length fills.emits.buffer
    rw [List.length_append, progress.payloads] at lengths
    have fin := fills.emits.fin
    rw [progress_fin progress, facts.fin, decide_eq_true whole, Bool.and_true] at fin
    have reach := facts.fin
    rw [decide_eq_true whole, Bool.and_true] at reach
    rw [reach, facts.syn, Nat.min_eq_left whole] at total
    have buffered : s.fillWindow.stream.buffer.length = 0 := by
      simp only [unsent] at total
      omega
    have noFin : (s.fillWindow.stream.inputEnded && !s.fillWindow.fin) = false := by
      rw [fin, fills.emits.inputEnded]
      cases s.stream.inputEnded <;> cases s.fin <;> rfl
    have nothing : unsent s.fillWindow = 0 := by
      simp only [unsent, beq_false_of_ne started, buffered, noFin, Bool.toNat_false]
    omega

def Quiet : Call → Prop
  | .fillWindow => True
  | .tick _ => True
  | .sendEmptySegment => True
  | _ => False

theorem spent_frame {after : TCPSender} (spent : Spent s) (steady : Steady s after) : Spent after := by
  unfold Spent SynFits unsent
  rw [steady.nextSeqno, steady.windowSize, steady.stream, steady.fin]
  exact spent

theorem spent_run (spent : Spent s) (calls : List Call) (quiet : ∀ call ∈ calls, Quiet call) :
    pushedRun s calls = [] := by
  induction calls generalizing s with
  | nil => rfl
  | cons call calls ih =>
      obtain ⟨here, later⟩ := List.forall_mem_cons.mp quiet
      have silent : pushed s call = [] ∧ Spent (apply s call) := by
        cases call with
        | fillWindow =>
            rw [pushed, apply, fillWindow_spent spent]
            exact ⟨List.drop_length, spent⟩
        | tick ms => exact ⟨rfl, spent_frame spent (tick_steady s ms)⟩
        | sendEmptySegment => exact ⟨rfl, spent⟩
        | write data => exact here.elim
        | endInput => exact here.elim
        | ackReceived ackno windowSize => exact here.elim
      rw [pushedRun, silent.1, ih silent.2 later]
      rfl

end Fill

/-- What one call of `fill_window` does to the window. -/
structure Exact (s : TCPSender) : Prop where
  advance : s.fillWindow.nextSeqno = s.nextSeqno + min s.windowSize.toNat (unsent s)
  window : s.fillWindow.windowSize.toNat = s.windowSize.toNat - min s.windowSize.toNat (unsent s)
  fin : (∃ segment ∈ pushed s .fillWindow, segment.header.fin = true) ↔
    (s.stream.inputEnded = true ∧ s.fin = false) ∧ unsent s ≤ s.windowSize.toNat
  syn : s.nextSeqno = 0 → ∃ segment ∈ pushed s .fillWindow, segment.header.syn = true
  noUnderflow : fillWindowChecked s = some s.fillWindow
  again : s.fillWindow.fillWindow = s.fillWindow
  quiet : ∀ calls, (∀ call ∈ calls, Quiet call) → pushedRun s.fillWindow calls = []

theorem fillWindow_exact {s : TCPSender} (fits : SynFits s) : Exact s := by
  obtain ⟨sent, progress⟩ := fillWindow_progress s fits
  have fills := progress_fills fits progress
  have window := fillWindow_window fills
  have space := fills.space
  have spent := fillWindow_spends fits
  refine ⟨?_, ?_, ?_, ?_, fillWindowChecked_eq fits, fillWindow_spent spent, spent_run spent⟩
  · rw [fills.emits.nextSeqno, space, Nat.min_comm]
  · omega
  · rw [pushed_fillWindow fills, ← List.any_eq_true, progress_fin progress, fillPlan_reachFin]
    simp only [Bool.and_eq_true, Bool.not_eq_true', decide_eq_true_eq]
  · intro start
    have room := fits start
    rw [pushed_fillWindow fills]
    cases sent with
    | nil =>
        simp only [unsent, start, beq_self_eq_true, Bool.toNat_true, span_nil] at space
        omega
    | cons segment rest =>
        have first := (fills.each (s.nextSeqno, segment) List.mem_cons_self).2.2
        exact ⟨segment, List.mem_cons_self, first.mpr start⟩

/-- In every state a sender can reach, `fill_window` sends exactly what window and stream allow, without
an unsigned difference wrapping, and has nothing left to send afterwards. -/
theorem window_filled_exactly {capacity : Nat} {retxTimeout : UInt16} {fixedIsn : Option WrappingInt32}
    {randomIsn : WrappingInt32} {s : TCPSender}
    (reached : Reachable apply anything (TCPSender.new capacity retxTimeout fixedIsn randomIsn) s) :
    Exact s := by
  obtain ⟨filled, coherent⟩ := reached_coherent reached
  exact fillWindow_exact coherent.synFits

def crowdedRun : List Call := [.fillWindow, .ackReceived ⟨1⟩ 5, .write [1, 2, 3, 4, 5, 6], .endInput]

theorem crowded_window_filled :
    Exact (crowdedRun.foldl apply (TCPSender.new 16 1000 (some ⟨0⟩) ⟨0⟩)) ∧
      (crowdedRun.foldl apply (TCPSender.new 16 1000 (some ⟨0⟩) ⟨0⟩)).fillWindow.nextSeqno = 6 :=
  ⟨window_filled_exactly (reachable_run crowdedRun ⟨trivial, trivial, trivial, trivial, trivial⟩),
    by decide +kernel⟩

end Sponge.SenderFilling

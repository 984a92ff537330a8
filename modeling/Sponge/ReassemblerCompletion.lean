import Sponge.ReassemblerMemory

/-! When the reassembler signals the end of a stream that reaches it in pieces, and that the pieces
may come in any order. -/

namespace Sponge.ReassemblerCompletion

open StreamReassembler ReassemblerRefinement ReassemblerStream ReassemblerMemory Transition

/-- `data` is a possibly empty piece of `source` at its true index; `eof` only where it ends there. -/
def Cut (source data : List Byte) (index : Nat) (eof : Bool) : Prop :=
  index ≤ source.length ∧ data <+: source.drop index ∧
    (eof = true → index + data.length = source.length)

/-- The end of the data passes `2 ^ 64`, as for a segment in front of the stream; it starts beyond the
window. -/
def Wraps (r : StreamReassembler) (data : List Byte) (index : Nat) : Prop :=
  index < 2 ^ 64 ∧ 2 ^ 64 ≤ index + data.length ∧ r.output.bytesRead + r.capacity ≤ index

def MarksEnd (r : StreamReassembler) (data : List Byte) (index : Nat) (eof : Bool) : Prop :=
  (index + data.length) % 2 ^ 64 ≤ r.output.bytesRead + r.capacity ∧ eof = true

/-- Pieces of `source` whose end comes in time, pushes that wrap and do not mark an end, and reads. -/
def Fed (source : List Byte) (t : Traced) : Call → Prop
  | .pushSubstring data index eof =>
      (Cut source data index eof ∧ (eof = true → EndInTime source.length t.reassembler data)) ∨
        (Wraps t.reassembler data index ∧ ¬ MarksEnd t.reassembler data index eof)
  | _ => True

instance (source data : List Byte) (index : Nat) (eof : Bool) : Decidable (Cut source data index eof) :=
  inferInstanceAs (Decidable (_ ∧ _))

instance (r : StreamReassembler) (data : List Byte) (index : Nat) : Decidable (Wraps r data index) :=
  inferInstanceAs (Decidable (_ ∧ _))

instance (r : StreamReassembler) (data : List Byte) (index : Nat) (eof : Bool) :
    Decidable (MarksEnd r data index eof) := inferInstanceAs (Decidable (_ ∧ _))

instance (total : Nat) (r : StreamReassembler) (data : List Byte) :
    Decidable (EndInTime total r data) := inferInstanceAs (Decidable (_ ∨ _))

instance (source : List Byte) (t : Traced) : (call : Call) → Decidable (Fed source t call)
  | .pushSubstring _ _ _ => inferInstanceAs (Decidable (_ ∨ _))
  | .read _ => .isTrue trivial
  | .popOutput _ => .isTrue trivial

/-- A call with `eof` at the end `total` of the stream while that lies in the window. -/
def Announces (total : Nat) (t : Traced) : Call → Prop
  | .pushSubstring data index eof => eof = true ∧ index + data.length = total ∧
      total ≤ t.reassembler.output.bytesRead + t.reassembler.capacity
  | _ => False

def Announced (total : Nat) : Traced → List Call → Prop
  | _, [] => False
  | t, call :: calls => Announces total t call ∨ Announced total (t.step call) calls

theorem markEof_eof (r : StreamReassembler) (data : List Byte) (index : Nat) (eof : Bool) :
    (r.markEof data index eof).eof = true ↔ r.eof = true ∨ MarksEnd r data index eof := by
  unfold markEof MarksEnd
  split
  case isTrue marks =>
    simp only [Bool.and_eq_true, decide_eq_true_eq] at marks
    simp only [true_iff]
    exact .inr marks
  case isFalse silent =>
    simp only [Bool.and_eq_true, decide_eq_true_eq] at silent
    simp only [silent, or_false]

section Idle

variable {r : StreamReassembler}

theorem assemble_idle (valid : r.Valid) (missing : r.held r.output.bytesWritten = none) :
    r.assemble = r := by
  have front := held_of_state valid 0
  rw [Nat.add_zero, missing] at front
  have stays : ∀ room, retrieveLoop room r = ([], r) := by
    intro room
    cases room with
    | zero => rfl
    | succ room =>
        rw [retrieveLoop]
        split
        case h_1 marked _ =>
          rw [marked] at front
          cases front
        case h_2 => rfl
  have unwritten : (r.output.write []).2 = r.output := by simp [ByteStream.write, substr]
  simp only [assemble, stays, unwritten, List.length_nil, Nat.sub_zero]

theorem storeLoop_beyond (valid : r.Valid) (data : List Byte) (index : Nat) (small : index < 2 ^ 64)
    (beyond : r.output.bytesRead + r.capacity ≤ index) : storeLoop index 0 data r = r := by
  have room := valid.room
  cases data with
  | nil => rfl
  | cons byte rest =>
      rw [storeLoop, Nat.zero_add, Nat.mod_eq_of_lt small, if_neg (by omega), if_pos (by omega)]

theorem finish_settled (settled : r.eof = true → r.empty = true → r.output.inputEnded = true) :
    r.finish = r := by
  unfold finish
  split
  case isTrue done =>
    rw [Bool.and_eq_true] at done
    have same : r.output.endInput = r.output := by
      rw [ByteStream.endInput, ← settled done.1 done.2]
    rw [same]
  case isFalse => rfl

theorem pushSubstring_beyond (valid : r.Valid) (missing : r.held r.output.bytesWritten = none)
    {data : List Byte} {index : Nat} (eof : Bool) (wraps : Wraps r data index) :
    r.pushSubstring data index eof = (r.markEof data index eof).finish := by
  obtain ⟨output, capacity, cells, _⟩ := markEof_frame r data index eof
  have marked := markEof_valid r valid data index eof
  have stored := storeLoop_beyond marked data index wraps.1
    (by rw [output, capacity]; exact wraps.2.2)
  have still : (r.markEof data index eof).held (r.markEof data index eof).output.bytesWritten = none := by
    rw [held, cells, output]
    exact missing
  rw [pushSubstring, stored, assemble_idle marked still]

end Idle

structure Following (source : List Byte) (announced : Prop) (t : Traced) : Prop where
  valid : t.reassembler.Valid
  taken : t.taken.length = t.reassembler.output.bytesRead
  agrees : AgreesWith source t.taken t.reassembler
  noted : t.reassembler.eof = true ↔ announced
  ends : EndsAt source.length t.reassembler
  settled : t.reassembler.eof = true → t.reassembler.empty = true →
    t.reassembler.output.inputEnded = true
  stopped : t.reassembler.held t.reassembler.output.bytesWritten = none

theorem new_following (source : List Byte) (capacity : Nat) :
    Following source False (Traced.new capacity) where
  valid := new_valid capacity
  taken := rfl
  agrees := new_agrees source capacity
  noted := by simp [Traced.new, StreamReassembler.new]
  ends := endsAt_of_running rfl rfl
  settled := by
    intro announced
    cases announced
  stopped := new_held capacity _

section Following

variable {source : List Byte} {announced : Prop} {t : Traced}

theorem cut_placed {data : List Byte} {index : Nat} {eof : Bool} (cut : Cut source data index eof)
    (small : source.length < 2 ^ 64) (place : Nat) (byte : Byte) (present : data[place]? = some byte) :
    source[(place + index) % 2 ^ 64]? = some byte := by
  obtain ⟨rest, whole⟩ := cut.2.1
  have inside : place < data.length := (List.getElem?_eq_some_iff.mp present).1
  have there : source[index + place]? = some byte := by
    rw [← List.getElem?_drop, ← whole, List.getElem?_append_left inside]
    exact present
  have bound : index + place < source.length := (List.getElem?_eq_some_iff.mp there).1
  rw [Nat.add_comm, Nat.mod_eq_of_lt (by omega)]
  exact there

theorem cut_end {data : List Byte} {index : Nat} {eof : Bool} (cut : Cut source data index eof) :
    index + data.length ≤ source.length := by
  have length := cut.2.1.length_le
  have start := cut.1
  rw [List.length_drop] at length
  omega

theorem following_cut {data : List Byte} {index : Nat} {eof : Bool}
    (following : Following source announced t) (small : source.length < 2 ^ 64)
    (cut : Cut source data index eof)
    (inTime : eof = true → EndInTime source.length t.reassembler data) :
    Following source (announced ∨ Announces source.length t (.pushSubstring data index eof))
      (t.step (.pushSubstring data index eof)) where
  valid := pushSubstring_valid _ following.valid data index eof
  taken := following.taken.trans (pushSubstring_bytesRead _ following.valid data index eof).symm
  agrees := pushSubstring_agrees source t.taken _ following.valid following.taken following.agrees
    data index eof (fun place byte present _ => cut_placed cut small place byte present)
  noted := by
    have finish := cut_end cut
    simp only [Traced.step]
    rw [pushSubstring_eof, markEof_eof, following.noted, MarksEnd, Nat.mod_eq_of_lt (by omega)]
    apply or_congr_right
    constructor
    · intro marks
      have last := cut.2.2 marks.2
      exact ⟨marks.2, last, by rw [← last]; exact marks.1⟩
    · intro announces
      exact ⟨by rw [announces.2.1]; exact announces.2.2, announces.1⟩
  ends := by
    have finish := cut_end cut
    apply pushSubstring_endsAt following.valid following.ends
    · intro _
      omega
    · intro last
      exact ⟨cut.2.2 last, small, inTime last⟩
  settled := by
    intro noted finished
    simp only [Traced.step] at noted finished ⊢
    rw [pushSubstring_inputEnded _ following.valid, noted, finished]
    simp
  stopped := pushSubstring_stops _ following.valid data index eof

theorem following_wrap {data : List Byte} {index : Nat} {eof : Bool}
    (following : Following source announced t) (wraps : Wraps t.reassembler data index)
    (silent : ¬ MarksEnd t.reassembler data index eof) :
    t.reassembler.pushSubstring data index eof = t.reassembler := by
  have unmarked : t.reassembler.markEof data index eof = t.reassembler := by
    unfold MarksEnd at silent
    rw [markEof, if_neg (by simpa using silent)]
  rw [pushSubstring_beyond following.valid following.stopped eof wraps, unmarked,
    finish_settled following.settled]

theorem following_read (following : Following source announced t) (len : Nat) :
    Following source announced (t.step (.read len)) where
  valid := readOut_valid _ following.valid len
  taken := by
    simp only [Traced.step, readOut, ByteStream.read_fst, ByteStream.read_bytesRead,
      List.length_append, List.length_take, following.taken]
  agrees := readOut_agrees source t.taken _ following.agrees len
  noted := following.noted
  ends := ⟨following.ends.covered, following.ends.ended⟩
  settled := following.settled
  stopped := following.stopped

theorem following_step (following : Following source announced t) (small : source.length < 2 ^ 64)
    (call : Call) (fed : Fed source t call) :
    Following source (announced ∨ Announces source.length t call) (t.step call) := by
  cases call with
  | pushSubstring data index eof =>
      rcases fed with ⟨cut, inTime⟩ | ⟨wraps, silent⟩
      · exact following_cut following small cut inTime
      · have quiet : ¬ Announces source.length t (.pushSubstring data index eof) := by
          intro announces
          have finish := announces.2.1
          have far := wraps.2.1
          omega
        rw [Traced.step, following_wrap following wraps silent, or_iff_left quiet]
        exact following
  | read len =>
      have same := following_read following len
      rwa [← or_iff_left (a := announced) (b := False) not_false] at same
  | popOutput len =>
      have same := following_read following len
      rwa [← or_iff_left (a := announced) (b := False) not_false] at same

theorem following_run (calls : List Call) (following : Following source announced t)
    (small : source.length < 2 ^ 64) (run : AllowedRun Traced.step (Fed source) t calls) :
    Following source (announced ∨ Announced source.length t calls) (calls.foldl Traced.step t) := by
  induction calls generalizing announced t with
  | nil =>
      rw [Announced, or_false]
      exact following
  | cons call calls ih =>
      rw [Announced, ← or_assoc]
      exact ih (following_step following small call run.1) run.2

theorem Following.written_le (following : Following source announced t) :
    t.reassembler.output.bytesWritten ≤ source.length := by
  have accounting := following.valid.sound.accounting
  have length := following.agrees.1.length_le
  rw [List.length_append, following.taken] at length
  omega

theorem Following.nothing_pending (following : Following source announced t)
    (whole : t.reassembler.output.bytesWritten = source.length) : t.reassembler.unassembledBytes = 0 := by
  rw [following.valid.counted, ← SparseWindow.stored_eq_card _ _ _ following.valid.inWindow,
    Finset.card_eq_zero, Finset.filter_eq_empty_iff]
  intro position _ filled
  obtain ⟨byte, holds⟩ := Option.isSome_iff_exists.mp filled
  have bound := (List.getElem?_eq_some_iff.mp (following.agrees.2 position byte holds)).1
  rw [SparseWindow.lookup_below _ (by omega)] at holds
  cases holds

theorem Following.ended_iff (following : Following source announced t) :
    t.reassembler.output.inputEnded = true ↔
      announced ∧ t.reassembler.output.bytesWritten = source.length := by
  constructor
  · intro ended
    obtain ⟨noted, whole⟩ := following.ends.ended ended
    exact ⟨following.noted.mp noted, Nat.le_antisymm following.written_le whole⟩
  · rintro ⟨known, whole⟩
    apply following.settled (following.noted.mpr known)
    simp [empty, following.nothing_pending whole]

theorem Following.wrap_ends_iff {data : List Byte} {index : Nat} (eof : Bool)
    (following : Following source announced t) (wraps : Wraps t.reassembler data index) :
    (t.reassembler.pushSubstring data index eof).output.inputEnded =
        t.reassembler.output.inputEnded ↔
      ¬ (MarksEnd t.reassembler data index eof ∧ t.reassembler.empty = true ∧
        t.reassembler.output.inputEnded = false) := by
  obtain ⟨output, _, _, pending⟩ := markEof_frame t.reassembler data index eof
  have sameEmpty : (t.reassembler.markEof data index eof).empty = t.reassembler.empty := by
    rw [empty, empty, pending]
  rw [pushSubstring_beyond following.valid following.stopped eof wraps, finish_inputEnded, output,
    sameEmpty]
  have settled := following.settled
  have marked := markEof_eof t.reassembler data index eof
  cases ended : t.reassembler.output.inputEnded with
  | true => simp
  | false =>
      rw [ended] at settled
      simp only [Bool.false_or, and_true]
      constructor
      · rintro open_ ⟨marks, nothing⟩
        rw [marked.mpr (.inr marks), nothing] at open_
        cases open_
      · intro quiet
        rw [Bool.and_eq_false_iff, ← Bool.not_eq_true, ← Bool.not_eq_true, ← not_and_or, marked]
        rintro ⟨before | marks, nothing⟩
        · cases settled before nothing
        · exact quiet ⟨marks, nothing⟩

end Following

/-- The output ends exactly when the end has been announced inside the window and every byte has been
written, and a push that wraps leaves the end alone unless it marks one with nothing pending. -/
theorem end_signalled_exactly {source : List Byte} {capacity : Nat}
    (small : source.length < 2 ^ 64) {calls : List Call}
    (run : AllowedRun Traced.step (Fed source) (Traced.new capacity) calls) :
    let t := calls.foldl Traced.step (Traced.new capacity)
    (t.reassembler.output.inputEnded = true ↔ Announced source.length (Traced.new capacity) calls ∧
        t.reassembler.output.bytesWritten = source.length) ∧
      ∀ data index eof, Wraps t.reassembler data index →
        ((t.reassembler.pushSubstring data index eof).output.inputEnded =
            t.reassembler.output.inputEnded ↔
          ¬ (MarksEnd t.reassembler data index eof ∧ t.reassembler.empty = true ∧
            t.reassembler.output.inputEnded = false)) := by
  have following := following_run calls (new_following source capacity) small run
  rw [false_or] at following
  exact ⟨following.ended_iff, fun data index eof wraps => following.wrap_ends_iff eof wraps⟩

def reversedCalls : List Call :=
  [.pushSubstring [98] 1 true, .pushSubstring [5, 5] (2 ^ 64 - 1) false, .read 3,
    .pushSubstring [97] 0 false]

theorem reversed_end_signalled :
    (reversedCalls.foldl Traced.step (Traced.new 2)).reassembler.output.inputEnded = true :=
  (@end_signalled_exactly [97, 98] 2 (by decide) reversedCalls (by decide +kernel)).1.mpr
    ⟨.inl ⟨rfl, rfl, by decide⟩, by decide +kernel⟩

/-- An empty piece with `eof` ends a stream of which nothing has arrived, and so does one byte in front
of the stream. -/
theorem end_signalled_early :
    (Cut [97] [] 1 true ∧
      ¬ ((([Call.pushSubstring [] 1 true]).foldl Traced.step
            (Traced.new 2)).reassembler.output.inputEnded = true ↔
          Announced 1 (Traced.new 2) [.pushSubstring [] 1 true] ∧
            (([Call.pushSubstring [] 1 true]).foldl Traced.step
              (Traced.new 2)).reassembler.output.bytesWritten = 1)) ∧
      Wraps (StreamReassembler.new 2) [7] (2 ^ 64 - 1) ∧
        ((StreamReassembler.new 2).pushSubstring [7] (2 ^ 64 - 1) true).output.inputEnded = true := by
  refine ⟨⟨by decide, ?_⟩, by decide, by decide +kernel⟩
  intro exactly
  have whole := (exactly.mp (by decide +kernel)).2
  revert whole
  decide +kernel

def Piece (source : List Byte) : Call → Prop
  | .pushSubstring data index eof => data ≠ [] ∧ Cut source data index eof
  | _ => True

def Brings (position : Nat) : Call → Prop
  | .pushSubstring data index _ => index ≤ position ∧ position < index + data.length
  | _ => False

def isPush : Call → Bool
  | .pushSubstring _ _ _ => true
  | _ => false

/-- Nonempty pieces that together cover `source` and announce its end, between any reads. -/
structure Delivery (source : List Byte) (calls : List Call) : Prop where
  pieces : ∀ call ∈ calls, Piece source call
  covering : ∀ position < source.length, ∃ call ∈ calls, Brings position call
  ending : ∃ data index, Call.pushSubstring data index true ∈ calls

def Has (r : StreamReassembler) (position : Nat) : Prop :=
  position < r.output.bytesWritten ∨ (r.held position).isSome = true

section Delivery

variable {source : List Byte} {calls : List Call} {t : Traced}

theorem pieces_fed (pieces : ∀ call ∈ calls, Piece source call) :
    AllowedRun Traced.step (Fed source) t calls := by
  apply allowedRun_of_forall
  intro call member t
  have piece := pieces call member
  cases call with
  | pushSubstring data index eof => exact .inl ⟨piece.2, fun _ => .inl piece.1⟩
  | read len => trivial
  | popOutput len => trivial

theorem covers_iff_has {capacity : Nat} {taken : List Byte} {r : StreamReassembler}
    {a : Assembly capacity Byte} (valid : r.Valid) (refines : Refines taken r a) (position : Nat) :
    a.Covers position ↔ Has r position := by
  unfold Assembly.Covers Has
  rw [refines.writtenLength valid, refines.pending]

theorem step_has (valid : t.reassembler.Valid) (fits : source.length ≤ t.reassembler.capacity)
    (small : source.length < 2 ^ 64) (call : Call) (piece : Piece source call) (position : Nat)
    (present : Has t.reassembler position ∨ Brings position call) :
    Has (t.step call).reassembler position := by
  cases call with
  | pushSubstring data index eof =>
      obtain ⟨a, refines⟩ := refines_exists (List.replicate t.reassembler.output.bytesRead blank)
        t.reassembler valid List.length_replicate
      have finish := cut_end piece.2
      have after := pushSubstring_refines valid refines data index eof (by omega)
      have read := refines.read
      rw [← covers_iff_has valid refines] at present
      rw [Traced.step, ← covers_iff_has (pushSubstring_valid _ valid data index eof) after]
      apply Assembly.settle_covers
      rcases present with before | ⟨first, last⟩
      · exact a.put_covers data index position before
      · exact a.put_covers_data data index position first last (by omega)
  | read len => exact present.resolve_right not_false
  | popOutput len => exact present.resolve_right not_false

theorem run_has {capacity : Nat} (inv : t.reassembler.Valid ∧ t.reassembler.capacity = capacity)
    (fits : source.length ≤ capacity) (small : source.length < 2 ^ 64)
    (pieces : ∀ call ∈ calls, Piece source call) (position : Nat)
    (present : Has t.reassembler position ∨ ∃ call ∈ calls, Brings position call) :
    Has (calls.foldl Traced.step t).reassembler position := by
  induction calls generalizing t with
  | nil => exact present.resolve_right (by simp)
  | cons call calls ih =>
      obtain ⟨here, later⟩ := List.forall_mem_cons.mp pieces
      have one := step_has inv.1 (by rw [inv.2]; exact fits) small call here position
      apply ih (step_valid capacity t call inv) later
      rcases present with before | ⟨bringer, member, brings⟩
      · exact .inl (one (.inl before))
      · rcases List.mem_cons.mp member with rfl | member
        · exact .inl (one (.inr brings))
        · exact .inr ⟨bringer, member, brings⟩

theorem delivery_announced {capacity : Nat}
    (inv : t.reassembler.Valid ∧ t.reassembler.capacity = capacity) (fits : source.length ≤ capacity)
    (pieces : ∀ call ∈ calls, Piece source call) {data : List Byte} {index : Nat}
    (ending : Call.pushSubstring data index true ∈ calls) : Announced source.length t calls := by
  induction calls generalizing t with
  | nil => cases ending
  | cons call calls ih =>
      obtain ⟨here, later⟩ := List.forall_mem_cons.mp pieces
      rcases List.mem_cons.mp ending with rfl | member
      · have window : source.length ≤ t.reassembler.output.bytesRead + t.reassembler.capacity := by
          rw [inv.2]
          omega
        exact .inl ⟨rfl, here.2.2.2 rfl, window⟩
      · exact .inr (ih (step_valid capacity t call inv) later member)

theorem Following.output_eq {announced : Prop} (following : Following source announced t)
    (whole : t.reassembler.output.bytesWritten = source.length) : t.outputBytes = source := by
  have accounting := following.valid.sound.accounting
  apply following.agrees.1.eq_of_length
  rw [List.length_append, following.taken]
  omega

theorem Following.all_written {announced : Prop} (following : Following source announced t)
    (all : ∀ position < source.length, Has t.reassembler position) :
    t.reassembler.output.bytesWritten = source.length := by
  -- the retrieval stops only at a missing byte, so with all bytes there everything is written
  apply Nat.le_antisymm following.written_le
  by_contra short
  rcases all t.reassembler.output.bytesWritten (Nat.lt_of_not_le short) with written | waits
  · exact Nat.lt_irrefl _ written
  · rw [following.stopped] at waits
    cases waits

theorem delivery_written {capacity : Nat} (fits : source.length ≤ capacity) (size : capacity < 2 ^ 64)
    (delivery : Delivery source calls) :
    (calls.foldl Traced.step (Traced.new capacity)).outputBytes = source ∧
      (calls.foldl Traced.step (Traced.new capacity)).reassembler.unassembledBytes = 0 ∧
      (calls.foldl Traced.step (Traced.new capacity)).reassembler.output.inputEnded = true := by
  have small : source.length < 2 ^ 64 := by omega
  have start : (Traced.new capacity).reassembler.Valid ∧
      (Traced.new capacity).reassembler.capacity = capacity := ⟨new_valid capacity, rfl⟩
  have following := following_run calls (new_following source capacity) small
    (pieces_fed delivery.pieces)
  have written := following.all_written (by
    intro position inside
    exact run_has start fits small delivery.pieces position
      (.inr (delivery.covering position inside)))
  obtain ⟨data, index, ending⟩ := delivery.ending
  have announced := delivery_announced start fits delivery.pieces ending
  exact ⟨following.output_eq written, following.nothing_pending written,
    following.ended_iff.mpr ⟨.inr announced, written⟩⟩

theorem delivery_order {other : List Call} (delivery : Delivery source calls)
    (same : (other.filter isPush).Perm (calls.filter isPush)) : Delivery source other := by
  have moved : ∀ call, isPush call = true → (call ∈ other ↔ call ∈ calls) := by
    intro call push
    have both := same.mem_iff (a := call)
    simpa [List.mem_filter, push] using both
  refine ⟨?_, ?_, ?_⟩
  · intro call member
    cases call with
    | pushSubstring data index eof => exact delivery.pieces _ ((moved _ rfl).mp member)
    | read len => trivial
    | popOutput len => trivial
  · intro position inside
    obtain ⟨call, member, brings⟩ := delivery.covering position inside
    cases call with
    | pushSubstring data index eof => exact ⟨_, (moved _ rfl).mpr member, brings⟩
    | read len => exact brings.elim
    | popOutput len => exact brings.elim
  · obtain ⟨data, index, member⟩ := delivery.ending
    exact ⟨data, index, (moved _ rfl).mpr member⟩

end Delivery

/-- Pieces that cover a stream which fits into the capacity deliver it whole in any order, and the end
is not signalled before the last byte has been written. -/
theorem delivery_completes {source : List Byte} {capacity : Nat} (fits : source.length ≤ capacity)
    (size : capacity < 2 ^ 64) {calls : List Call} (delivery : Delivery source calls) :
    let t := calls.foldl Traced.step (Traced.new capacity)
    (t.outputBytes = source ∧ t.reassembler.unassembledBytes = 0 ∧
        t.reassembler.output.inputEnded = true) ∧
      (∀ before after : List Call, calls = before ++ after →
        (before.foldl Traced.step (Traced.new capacity)).reassembler.output.inputEnded = true →
        (before.foldl Traced.step (Traced.new capacity)).outputBytes = source) ∧
      ∀ other : List Call, (other.filter isPush).Perm (calls.filter isPush) →
        (other.foldl Traced.step (Traced.new capacity)).outputBytes = t.outputBytes ∧
        (other.foldl Traced.step (Traced.new capacity)).reassembler.unassembledBytes =
          t.reassembler.unassembledBytes ∧
        (other.foldl Traced.step (Traced.new capacity)).reassembler.output.inputEnded =
          t.reassembler.output.inputEnded := by
  have complete := delivery_written fits size delivery
  refine ⟨complete, ?_, ?_⟩
  · intro before after split ended
    have pieces : ∀ call ∈ before, Piece source call := by
      intro call member
      apply delivery.pieces
      rw [split]
      exact List.mem_append_left after member
    have following := following_run before (new_following source capacity) (by omega)
      (pieces_fed pieces)
    exact following.output_eq (following.ended_iff.mp ended).2
  · intro other same
    have reordered := delivery_written fits size (delivery_order delivery same)
    exact ⟨reordered.1.trans complete.1.symm, reordered.2.1.trans complete.2.1.symm,
      reordered.2.2.trans complete.2.2.symm⟩

def shuffledCalls : List Call :=
  [.pushSubstring [3, 4] 2 true, .pushSubstring [2, 3] 1 false, .read 1, .pushSubstring [2, 3] 1 false,
    .pushSubstring [1] 0 false]

theorem shuffled_completes :
    (shuffledCalls.foldl Traced.step (Traced.new 4)).outputBytes = [1, 2, 3, 4] :=
  (delivery_completes (by decide) (by decide)
    ⟨by
      intro call member
      simp only [shuffledCalls, List.mem_cons, List.not_mem_nil, or_false] at member
      rcases member with rfl | rfl | rfl | rfl | rfl
      · exact ⟨by decide, by decide⟩
      · exact ⟨by decide, by decide⟩
      · trivial
      · exact ⟨by decide, by decide⟩
      · exact ⟨by decide, by decide⟩,
    by
      intro position inside
      have inside : position < 4 := inside
      interval_cases position
      · exact ⟨.pushSubstring [1] 0 false, by simp [shuffledCalls], by decide, by decide⟩
      · exact ⟨.pushSubstring [2, 3] 1 false, by simp [shuffledCalls], by decide, by decide⟩
      · exact ⟨.pushSubstring [2, 3] 1 false, by simp [shuffledCalls], by decide, by decide⟩
      · exact ⟨.pushSubstring [3, 4] 2 true, by simp [shuffledCalls], by decide, by decide⟩,
    [3, 4], 2, by simp [shuffledCalls]⟩).1.1

end Sponge.ReassemblerCompletion

import Sponge.ByteStream
import Sponge.Transition

/-! Whole runs of one byte stream: a bounded first-in first-out queue, and what happens to it once its
input has ended. -/

namespace Sponge.ByteStreamRuns

open Transition

inductive Operation where
  | write (data : List Byte)
  | peekOutput (len : Nat)
  | popOutput (len : Nat)
  | read (len : Nat)
  | endInput
  | setError
  deriving DecidableEq, Repr

def operate (s : ByteStream) : Operation → ByteStream
  | .write data => (s.write data).2
  | .peekOutput _ => s
  | .popOutput len => s.popOutput len
  | .read len => (s.read len).2
  | .endInput => s.endInput
  | .setError => s.setError

def accepted (s : ByteStream) : Operation → List Byte
  | .write data => data.take (s.write data).1
  | _ => []

def removed (s : ByteStream) : Operation → List Byte
  | .read len => (s.read len).1
  | .popOutput len => s.buffer.take (s.bufferSize - (s.popOutput len).bufferSize)
  | _ => []

theorem operate_conserves (s : ByteStream) (op : Operation) :
    removed s op ++ (operate s op).buffer = s.buffer ++ accepted s op := by
  cases op with
  | write data =>
      simp only [removed, operate, accepted, List.nil_append, ByteStream.write_buffer,
        ByteStream.write_fst, List.append_cancel_left_eq]
      rw [List.take_eq_take_iff]
      omega
  | popOutput len =>
      simp only [removed, operate, accepted, ByteStream.popOutput_eq_read, ByteStream.bufferSize,
        ByteStream.read_buffer, List.length_drop, List.append_nil]
      rcases Nat.le_total len s.buffer.length with short | long
      · rw [Nat.sub_sub_self short, List.take_append_drop]
      · rw [Nat.sub_eq_zero_of_le long, Nat.sub_zero, List.take_length, List.drop_eq_nil_of_le long,
          List.append_nil]
  | read len =>
      simp only [removed, operate, accepted, ByteStream.read_fst, ByteStream.read_buffer,
        List.take_append_drop, List.append_nil]
  | peekOutput len | endInput | setError => exact (List.append_nil _).symm

@[simp] theorem operate_capacity (s : ByteStream) (op : Operation) :
    (operate s op).capacity = s.capacity := by
  cases op <;> rfl

theorem operate_sound {s : ByteStream} (sound : s.Sound) (op : Operation) : (operate s op).Sound := by
  cases op with
  | write data => exact ByteStream.write_sound sound data
  | popOutput len | read len => exact ByteStream.read_sound sound len
  | peekOutput len | endInput | setError => exact ⟨sound.accounting, sound.bounded⟩

/-- A stream with everything it has accepted and everything that has been taken out of it. -/
structure Tape where
  stream : ByteStream
  accepted : List Byte
  removed : List Byte
  deriving DecidableEq, Repr

def Tape.new (capacity : Nat) : Tape := ⟨.new capacity, [], []⟩

def Tape.operate (t : Tape) (op : Operation) : Tape :=
  { stream := ByteStreamRuns.operate t.stream op
    accepted := t.accepted ++ ByteStreamRuns.accepted t.stream op
    removed := t.removed ++ ByteStreamRuns.removed t.stream op }

structure Recorded (capacity : Nat) (t : Tape) : Prop where
  order : t.removed ++ t.stream.buffer = t.accepted
  sound : t.stream.Sound
  capacity : t.stream.capacity = capacity

theorem new_recorded (capacity : Nat) : Recorded capacity (.new capacity) :=
  ⟨rfl, ByteStream.new_sound capacity, rfl⟩

theorem operate_recorded {capacity : Nat} {t : Tape} (recorded : Recorded capacity t) (op : Operation) :
    Recorded capacity (t.operate op) where
  order := by
    simp only [Tape.operate]
    rw [List.append_assoc, operate_conserves, ← List.append_assoc, recorded.order]
  sound := operate_sound recorded.sound op
  capacity := (operate_capacity t.stream op).trans recorded.capacity

/-- What a bounded queue of bytes promises in one of its states. -/
structure Fifo (capacity : Nat) (t : Tape) : Prop where
  order : t.removed ++ t.stream.buffer = t.accepted
  accounting : t.stream.bytesWritten = t.stream.bytesRead + t.stream.bufferSize
  bounded : t.stream.bufferSize ≤ capacity
  room : t.stream.remainingCapacity + t.stream.bufferSize = capacity
  write_size : ∀ data, (t.stream.write data).1 = min data.length t.stream.remainingCapacity
  write_buffer : ∀ data, (t.stream.write data).2.buffer =
    t.stream.buffer ++ data.take (min data.length t.stream.remainingCapacity)
  write_count : ∀ data, (t.stream.write data).2.bytesWritten =
    t.stream.bytesWritten + min data.length t.stream.remainingCapacity
  read_front : ∀ len, t.stream.read len = (t.stream.peekOutput len, t.stream.popOutput len)

theorem recorded_fifo {capacity : Nat} {t : Tape} (recorded : Recorded capacity t) : Fifo capacity t where
  order := recorded.order
  accounting := recorded.sound.accounting
  bounded := recorded.capacity ▸ recorded.sound.bounded
  room := by
    have bounded := recorded.sound.bounded
    have same := recorded.capacity
    simp only [ByteStream.remainingCapacity, ByteStream.bufferSize]
    omega
  write_size := ByteStream.write_fst t.stream
  write_buffer := by
    intro data
    rw [← ByteStream.write_fst]
    exact (operate_conserves t.stream (.write data)).trans rfl
  write_count := ByteStream.write_bytesWritten t.stream
  read_front := by
    intro len
    rw [ByteStream.peekOutput_eq_read, ByteStream.popOutput_eq_read]

/-- In every state of every run the stream is a bounded queue: the bytes taken out, then the bytes still
held, are the accepted prefixes of all written strings in order. -/
theorem stream_bounded_fifo (capacity : Nat) {t : Tape}
    (reached : Reachable Tape.operate anything (.new capacity) t) : Fifo capacity t := by
  have recorded : Recorded capacity t :=
    reachable_invariant (new_recorded capacity) (fun _ op earlier _ => operate_recorded earlier op) reached
  exact recorded_fifo recorded

def crossing : List Operation :=
  [.write [1, 2, 3], .peekOutput 9, .popOutput 1, .write [4, 5, 6], .read 2, .write [7], .popOutput 9,
    .endInput, .read 1]

theorem stream_bounded_fifo_crossing :
    (crossing.foldl Tape.operate (.new 4)).accepted = [1, 2, 3, 4, 5, 7] ∧
      Fifo 4 (crossing.foldl Tape.operate (.new 4)) :=
  ⟨by decide, stream_bounded_fifo 4
    (reachable_run crossing (allowedRun_of_forall fun _ _ _ => trivial))⟩

/-- No byte is accepted once the input has ended. `write` does not look at `_input_ended`, so this is up
to the writer. -/
def Refused (s : ByteStream) : Operation → Prop
  | .write data => s.inputEnded = true → data = [] ∨ s.remainingCapacity = 0
  | _ => True

instance (s : ByteStream) : (op : Operation) → Decidable (Refused s op)
  | .write _ => inferInstanceAs (Decidable (_ → _))
  | .peekOutput _ => .isTrue trivial
  | .popOutput _ => .isTrue trivial
  | .read _ => .isTrue trivial
  | .endInput => .isTrue trivial
  | .setError => .isTrue trivial

theorem operate_inputEnded {s : ByteStream} (ended : s.inputEnded = true) (op : Operation) :
    (operate s op).inputEnded = true := by
  cases op with
  | endInput => rfl
  | _ => exact ended

theorem refused_write {s : ByteStream} {data : List Byte} (refused : data = [] ∨ s.remainingCapacity = 0) :
    (s.write data).2 = s := by
  have nothing : (s.write data).1 = 0 := by
    rw [ByteStream.write_fst]
    rcases refused with rfl | full
    · exact Nat.zero_min _
    · rw [full, Nat.min_zero]
  have count : (s.write data).2.bytesWritten = s.bytesWritten + (s.write data).1 := rfl
  have buffer : (s.write data).2.buffer = s.buffer ++ substr data 0 (s.write data).1 := rfl
  rw [nothing, Nat.add_zero] at count
  rw [nothing, substr, List.take_zero, List.append_nil] at buffer
  cases s with
  | mk capacity bytesWritten bytesRead inputEnded held error =>
      simp only [ByteStream.write] at count buffer ⊢
      rw [count, buffer]

theorem late_write {s : ByteStream} {data : List Byte} (taken : ¬ (data = [] ∨ s.remainingCapacity = 0)) :
    s.bytesWritten < (s.write data).2.bytesWritten ∧ (s.write data).2.buffer ≠ [] := by
  rw [not_or, ← List.length_eq_zero_iff] at taken
  constructor
  · rw [ByteStream.write_bytesWritten]
    omega
  · rw [← List.length_pos_iff, ByteStream.write_buffer, List.length_append, List.length_take]
    omega

theorem ended_count_kept {s : ByteStream} (ended : s.inputEnded = true) (ops : List Operation) :
    Throughout operate (fun later => later.bytesWritten = s.bytesWritten) s ops ↔
      AllowedRun operate Refused s ops := by
  apply throughout_iff_allowed (D := fun _ => True)
    (I := fun later => later.inputEnded = true ∧ later.bytesWritten = s.bytesWritten)
  · exact fun _ inv => inv.2
  · rintro later op ⟨closed, same⟩ _ refused
    refine ⟨operate_inputEnded closed op, ?_⟩
    cases op with
    | write data =>
        rw [operate, refused_write (refused closed)]
        exact same
    | _ => exact same
  · rintro later op ⟨closed, same⟩ _ accepted
    cases op with
    | write data =>
        have grown := late_write (fun refused => accepted fun _ => refused)
        rw [operate, ← same]
        exact grown.1.ne'
    | _ => exact (accepted trivial).elim
  · exact ⟨ended, rfl⟩
  · exact fun _ _ => trivial

theorem eof_kept {s : ByteStream} (finished : s.eof = true) (ops : List Operation) :
    Throughout operate (fun later => later.eof = true) s ops ↔ AllowedRun operate Refused s ops := by
  apply throughout_iff_allowed (D := fun _ => True) (I := fun later => later.eof = true)
  · exact fun _ inv => inv
  · intro later op over_ _ refused
    have closed : later.inputEnded = true := (Bool.and_eq_true _ _ ▸ over_).2
    cases op with
    | write data =>
        rw [operate, refused_write (refused closed)]
        exact over_
    | popOutput len | read len => exact ByteStream.eof_read over_ len
    | endInput =>
        rw [ByteStream.eof, Bool.and_eq_true] at over_ ⊢
        exact ⟨over_.1, rfl⟩
    | peekOutput len | setError => exact over_
  · intro later op over_ _ accepted
    cases op with
    | write data =>
        have grown := late_write (fun refused => accepted fun _ => refused)
        rw [operate, ByteStream.eof, Bool.and_eq_true, ByteStream.bufferEmpty, List.isEmpty_iff]
        exact fun still => grown.2 still.1
    | _ => exact (accepted trivial).elim
  · exact finished
  · exact fun _ _ => trivial

end Sponge.ByteStreamRuns

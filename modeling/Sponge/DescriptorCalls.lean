import Sponge.Action
import Sponge.FileDescriptor

/-! A file descriptor as its users share it (`util/file_descriptor.hh`, `file_descriptor.cc`, `socket.cc`).
The kernel is a parameter: each system call answers from a state of its own, with a value or an `errno`. -/

namespace Sponge

open FileDescriptor Storage

/-- `FileDescriptor::FDWrapper`, with the bytes that have been read from it and written to it. -/
structure FDWrapper where
  eof : Bool := false
  closed : Bool := false
  readCount : Nat := 0
  writeCount : Nat := 0
  taken : List Byte := []
  handed : List Byte := []
  deriving DecidableEq, Repr

structure PollFd (Fd : Type) where
  fd : Fd
  events : UInt16
  deriving DecidableEq, Repr

inductive Shutdown
  | rd
  | wr
  | rdwr
  deriving DecidableEq, Repr

/-- The system calls on descriptors named by `Fd`. A successful `poll` answers with the number of entries
that have something to report and with what they report. -/
structure SystemCalls (Kernel Fd : Type) where
  read : Fd → Nat → Action Kernel Int (List Byte)
  writev : Fd → Writev Kernel
  shutdown : Fd → Shutdown → Action Kernel Int Unit
  close : Fd → Action Kernel Int Unit
  poll : List (PollFd Fd) → Int → Action Kernel Int (Nat × List UInt16)

/-- What the manual pages promise of an answer: no more bytes than were asked for or given, no more than
`0x7ffff000` in one write, and an `errno` where a write fails. -/
structure SystemCalls.Lawful {Kernel Fd : Type} (sys : SystemCalls Kernel Fd) : Prop where
  read : ∀ fd size kernel bytes after, sys.read fd size kernel = (.ok bytes, after) → bytes.length ≤ size
  writev : ∀ fd kernel iovecs,
    (sys.writev fd kernel iovecs).1.returned = -1 ∧ (sys.writev fd kernel iovecs).1.errno ≠ 0 ∨
    0 ≤ (sys.writev fd kernel iovecs).1.returned ∧
      (sys.writev fd kernel iovecs).1.returned ≤ iovecs.flatten.length ∧
      (sys.writev fd kernel iovecs).1.returned ≤ 0x7ffff000

namespace FDWrapper

variable {Kernel Fd : Type} (sys : SystemCalls Kernel Fd) (fd : Fd)

def bufferSize : Nat := 1024 * 1024

def registerRead (d : FDWrapper) : FDWrapper := { d with readCount := d.readCount + 1 }

def registerWrite (d : FDWrapper) : FDWrapper := { d with writeCount := d.writeCount + 1 }

def read (limit : Nat) : Action (Kernel × FDWrapper) Thrown (List Byte) := fun (kernel, d) =>
  let sizeToRead := min bufferSize limit
  match sys.read fd sizeToRead kernel with
  | (.error errno, kernel) => (.error (.unixError "read" errno), kernel, d)
  | (.ok bytes, kernel) =>
      let d := { d with taken := d.taken ++ bytes }
      let d := if limit > 0 ∧ bytes.length = 0 then { d with eof := true } else d
      if bytes.length > sizeToRead then
        (.error (.runtimeError "read() read more than requested"), kernel, d)
      else (.ok bytes, kernel, d.registerRead)

/-- `write` with `write_all` false: the loop is gone through once. -/
def writeSome (text : List Byte) : Action (Kernel × FDWrapper) Thrown Nat := fun (kernel, d) =>
  let (result, written) := FileDescriptor.round (sys.writev fd) (.ofString text) ⟨kernel, d.handed, d.writeCount⟩
  (result.map Prod.fst, written.world,
    { d with handed := written.handed, writeCount := written.writeCount })

def shutdown (how : Shutdown) : Action (Kernel × FDWrapper) Thrown Unit := fun (kernel, d) =>
  match sys.shutdown fd how kernel with
  | (.error errno, kernel) => (.error (.unixError "shutdown" errno), kernel, d)
  | (.ok (), kernel) =>
      (.ok (), kernel,
        match how with
        | .rd => d.registerRead
        | .wr => d.registerWrite
        | .rdwr => d.registerRead.registerWrite)

def close : Action (Kernel × FDWrapper) Thrown Unit := fun (kernel, d) =>
  match sys.close fd kernel with
  | (.error errno, kernel) => (.error (.unixError "close" errno), kernel, d)
  | (.ok (), kernel) => (.ok (), kernel, { d with eof := true, closed := true })

variable {sys fd} {kernel after : Kernel} {d e : FDWrapper}

/-- `writeSome` is the `write` that the scattered buffers are about. -/
theorem writeSome_eq (text : List Byte) :
    (writeSome sys fd text (kernel, d)).1 =
        (FileDescriptor.write (sys.writev fd) (.ofString text) false ⟨kernel, d.handed, d.writeCount⟩).1 ∧
      (writeSome sys fd text (kernel, d)).2.2.handed =
        (FileDescriptor.write (sys.writev fd) (.ofString text) false
          ⟨kernel, d.handed, d.writeCount⟩).2.handed := by
  rw [FileDescriptor.write, writeLoop]
  unfold writeSome
  dsimp only
  split
  case h_1 failed => rw [failed]; exact ⟨rfl, rfl⟩
  case h_2 done => rw [done]; simp [Except.map]

def Ages (d e : FDWrapper) : Prop := (d.eof = true → e.eof = true) ∧ (d.closed = true → e.closed = true)

theorem Ages.refl (d : FDWrapper) : Ages d d := ⟨id, id⟩

theorem Ages.trans {c d e : FDWrapper} (first : Ages c d) (second : Ages d e) : Ages c e :=
  ⟨second.1 ∘ first.1, second.2 ∘ first.2⟩

inductive Refused : Thrown → Prop
  | call (name : String) (errno : Int) : Refused (.unixError name errno)
  | stalled : Refused (.runtimeError "write returned 0 given non-empty input buffer")

inductive Got (limit : Nat) (d : FDWrapper) : Except Thrown (List Byte) → FDWrapper → Prop
  | bytes (bytes : List Byte) (fits : bytes.length ≤ limit) :
      Got limit d (.ok bytes) { d with
        eof := d.eof || decide (0 < limit) && bytes.isEmpty
        readCount := d.readCount + 1
        taken := d.taken ++ bytes }
  | failed (errno : Int) : Got limit d (.error (.unixError "read" errno)) d

theorem read_got (lawful : sys.Lawful) (limit : Nat) :
    Got limit d (read sys fd limit (kernel, d)).1 (read sys fd limit (kernel, d)).2.2 := by
  unfold read
  dsimp only
  split
  case h_1 => exact .failed _
  case h_2 got later answer =>
    have fits := lawful.read _ _ _ _ _ answer
    rw [if_neg (Nat.not_lt_of_le fits)]
    have flag : (if limit > 0 ∧ got.length = 0 then { d with eof := true, taken := d.taken ++ got }
        else { d with taken := d.taken ++ got }) =
        { d with eof := d.eof || decide (0 < limit) && got.isEmpty, taken := d.taken ++ got } := by
      split
      case isTrue ended => simp [ended.1, List.eq_nil_of_length_eq_zero ended.2]
      case isFalse going =>
        have more : (decide (0 < limit) && got.isEmpty) = false := by
          rw [← Bool.not_eq_true, Bool.and_eq_true, decide_eq_true_eq, List.isEmpty_iff_length_eq_zero]
          exact going
        simp [more]
    rw [flag]
    exact .bytes got (fits.trans (Nat.min_le_right _ _))

inductive Wrote (text : List Byte) (d : FDWrapper) : Except Thrown Nat → FDWrapper → Prop
  | some (n : Nat) (fits : n ≤ text.length) :
      Wrote text d (.ok n) { d with handed := d.handed ++ text.take n, writeCount := d.writeCount + 1 }
  | failed {thrown : Thrown} (why : Refused thrown) (count : Nat) :
      Wrote text d (.error thrown) { d with writeCount := count }

theorem ofString_contents (text : List Byte) : (BufferViewList.ofString text).contents = text :=
  List.append_nil text

theorem writeSome_wrote (lawful : sys.Lawful) (text : List Byte) :
    Wrote text d (writeSome sys fd text (kernel, d)).1 (writeSome sys fd text (kernel, d)).2.2 := by
  have size : (BufferViewList.ofString text).size = text.length := by
    rw [BufferViewList.size_eq, ofString_contents]
  -- the bytes handed over are a part of the text, whatever the answer
  have front : (handOver (sys.writev fd) (.ofString text) ⟨kernel, d.handed, d.writeCount⟩).handed =
      d.handed ++ text.take (sys.writev fd kernel [text]).1.returned.toNat := by
    rw [handOver, ofString_contents]
    rfl
  change Wrote text d
    ((FileDescriptor.round (sys.writev fd) (.ofString text) ⟨kernel, d.handed, d.writeCount⟩).1.map Prod.fst)
    { d with
      handed := (FileDescriptor.round (sys.writev fd) (.ofString text)
        ⟨kernel, d.handed, d.writeCount⟩).2.handed
      writeCount := (FileDescriptor.round (sys.writev fd) (.ofString text)
        ⟨kernel, d.handed, d.writeCount⟩).2.writeCount }
  rcases lawful.writev fd kernel [text] with ⟨failed, errno⟩ | ⟨positive, within, limited⟩
  · have thrown : FileDescriptor.round (sys.writev fd) (.ofString text) ⟨kernel, d.handed, d.writeCount⟩ =
        (.error (.unixError "writev" (sys.writev fd kernel [text]).1.errno),
          handOver (sys.writev fd) (.ofString text) ⟨kernel, d.handed, d.writeCount⟩) := by
      have negative : ¬ (toInt (-1) ≥ 0 ∨ (sys.writev fd kernel [text]).1.errno = 0) := by
        rw [not_or]
        exact ⟨by decide, errno⟩
      simp only [FileDescriptor.round, BufferViewList.asIovecs, BufferViewList.ofString, failed, systemCall,
        if_neg negative]
    rw [thrown, front, failed, show Int.toNat (-1) = 0 from rfl, List.take_zero, List.append_nil]
    exact .failed (.call _ _) _
  · rw [List.flatten_singleton] at within
    by_cases stuck : (sys.writev fd kernel [text]).1.returned = 0 ∧ (BufferViewList.ofString text).size ≠ 0
    · have thrown : FileDescriptor.round (sys.writev fd) (.ofString text) ⟨kernel, d.handed, d.writeCount⟩ =
          (.error (.runtimeError "write returned 0 given non-empty input buffer"),
            handOver (sys.writev fd) (.ofString text) ⟨kernel, d.handed, d.writeCount⟩) := by
        have zero : toInt 0 = 0 := by decide
        have answer : (sys.writev fd kernel (BufferViewList.ofString text).asIovecs).1.returned = 0 := stuck.1
        simp only [FileDescriptor.round, answer, zero, systemCall, ge_iff_le, le_refl, true_or, if_true, accept,
          true_and, if_pos stuck.2]
      rw [thrown, front, stuck.1, Int.toNat_zero, List.take_zero, List.append_nil]
      exact .failed .stalled _
    · have small : (sys.writev fd kernel (BufferViewList.ofString text).asIovecs).1.returned < 2 ^ 31 :=
        lt_of_le_of_lt limited (by decide)
      have inside : (sys.writev fd kernel (BufferViewList.ofString text).asIovecs).1.returned ≤
          (BufferViewList.ofString text).size := within.trans (by rw [size])
      obtain ⟨rest, ran, _⟩ := round_of_bounds (.ofString text) ⟨kernel, d.handed, d.writeCount⟩ positive
        small inside stuck
      rw [ran]
      simp only [FileDescriptor.registerWrite, front]
      exact .some (sys.writev fd kernel [text]).1.returned.toNat (by omega)

open Sponge.Action

def Changes (action : Action (Kernel × FDWrapper) Thrown Unit) (change : FDWrapper → FDWrapper) : Prop :=
  ∀ d, Meets (fun state => state.2 = d) action (fun _ state => state.2 = change d)
    fun thrown state => Refused thrown ∧ state.2 = d

theorem shutdown_wr_changes : Changes (shutdown sys fd .wr) registerWrite := by
  intro d
  constructor
  · rintro ⟨kernel, _⟩ _ after rfl done
    unfold shutdown at done
    dsimp only at done
    split at done
    case h_1 => cases done
    case h_2 =>
      cases done
      rfl
  · rintro ⟨kernel, _⟩ thrown after rfl failed
    unfold shutdown at failed
    dsimp only at failed
    split at failed
    case h_1 =>
      cases failed
      exact ⟨.call _ _, rfl⟩
    case h_2 => cases failed

theorem close_changes : Changes (close sys fd) fun d => { d with eof := true, closed := true } := by
  intro d
  constructor
  · rintro ⟨kernel, _⟩ _ after rfl done
    unfold close at done
    dsimp only at done
    split at done
    case h_1 => cases done
    case h_2 =>
      cases done
      rfl
  · rintro ⟨kernel, _⟩ thrown after rfl failed
    unfold close at failed
    dsimp only at failed
    split at failed
    case h_1 =>
      cases failed
      exact ⟨.call _ _, rfl⟩
    case h_2 => cases failed

end FDWrapper
end Sponge

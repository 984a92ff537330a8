import Sponge.ByteStream
import Sponge.DescriptorCalls

/-! Callbacks that move bytes between a descriptor and a byte stream, as `bidirectional_stream_copy` and the
sponge socket register them. -/

namespace Sponge.StreamRules

open FileDescriptor Sponge.Action FDWrapper

/-- A stream, the descriptor at one end of it and the flag that the descriptor has been shut down. -/
structure Lane (Kernel : Type) where
  kernel : Kernel
  descriptor : FDWrapper
  stream : ByteStream
  shutdown : Bool
  deriving DecidableEq, Repr

variable {Kernel Fd : Type}

def Lane.device : Focus (Lane Kernel) (Kernel × FDWrapper) where
  get lane := (lane.kernel, lane.descriptor)
  set part lane := { lane with kernel := part.1, descriptor := part.2 }

def maxCopyLength : Nat := 65536

section Definitions

variable (sys : SystemCalls Kernel Fd) (fd : Fd)

/-- The descriptor is read into the stream. -/
def fill : Action (Lane Kernel) Thrown Unit := do
  let room ← gets fun lane => lane.stream.remainingCapacity
  let bytes ← (FDWrapper.read sys fd room).within Lane.device
  alter fun lane => { lane with stream := (lane.stream.write bytes).2 }
  if ← gets fun lane => lane.descriptor.eof then
    alter fun lane => { lane with stream := lane.stream.endInput }

/-- The stream is read into the descriptor; when it is over, the descriptor is told so. -/
def drain (over_ : ByteStream → Bool) (finish : Action (Kernel × FDWrapper) Thrown Unit) :
    Action (Lane Kernel) Thrown Unit := do
  let text ← gets fun lane => lane.stream.peekOutput (min maxCopyLength lane.stream.bufferSize)
  let written ← (FDWrapper.writeSome sys fd text).within Lane.device
  alter fun lane => { lane with stream := lane.stream.popOutput written }
  if ← gets fun lane => over_ lane.stream then
    finish.within Lane.device
    alter fun lane => { lane with shutdown := true }

end Definitions

inductive Filled (lane : Lane Kernel) : Except Thrown Unit → Lane Kernel → Prop
  | bytes (kernel : Kernel) (bytes : List Byte) (fits : bytes.length ≤ lane.stream.remainingCapacity)
      (eof : Bool) (ended : eof = (lane.descriptor.eof ||
        decide (0 < lane.stream.remainingCapacity) && bytes.isEmpty)) :
      Filled lane (.ok ()) { lane with
        kernel := kernel
        descriptor := { lane.descriptor with
          eof := eof
          readCount := lane.descriptor.readCount + 1
          taken := lane.descriptor.taken ++ bytes }
        stream := { (lane.stream.write bytes).2 with inputEnded := lane.stream.inputEnded || eof } }
  | failed {thrown : Thrown} (why : Refused thrown) (kernel : Kernel) :
      Filled lane (.error thrown) { lane with kernel := kernel }

def Lane.moved (lane : Lane Kernel) (kernel : Kernel) (n : Nat) : Lane Kernel :=
  { lane with
    kernel := kernel
    descriptor := { lane.descriptor with
      handed := lane.descriptor.handed ++ lane.stream.buffer.take n
      writeCount := lane.descriptor.writeCount + 1 }
    stream := (lane.stream.read n).2 }

/-- How `drain` ends, for a stream that is over by `over_` and a descriptor that is told so by `change`. -/
inductive Drained (over_ : ByteStream → Bool) (change : FDWrapper → FDWrapper) (lane : Lane Kernel) :
    Except Thrown Unit → Lane Kernel → Prop
  | moved (kernel : Kernel) (n : Nat) (going : over_ (lane.stream.read n).2 = false) :
      Drained over_ change lane (.ok ()) (lane.moved kernel n)
  | finished (kernel : Kernel) (n : Nat) (done : over_ (lane.stream.read n).2 = true) :
      Drained over_ change lane (.ok ()) { lane.moved kernel n with
        descriptor := change (lane.moved kernel n).descriptor
        shutdown := true }
  | unfinished (kernel : Kernel) (n : Nat) {thrown : Thrown} (why : Refused thrown)
      (done : over_ (lane.stream.read n).2 = true) :
      Drained over_ change lane (.error thrown) (lane.moved kernel n)
  | failed {thrown : Thrown} (why : Refused thrown) (kernel : Kernel) (count : Nat) :
      Drained over_ change lane (.error thrown) { lane with
        kernel := kernel
        descriptor := { lane.descriptor with writeCount := count } }

variable {sys : SystemCalls Kernel Fd} {fd : Fd}

theorem fill_filled (lawful : sys.Lawful) (lane : Lane Kernel) :
    Filled lane (fill sys fd lane).1 (fill sys fd lane).2 := by
  have got : Got _ lane.descriptor (FDWrapper.read sys fd _ (lane.kernel, lane.descriptor)).1 _ :=
    read_got lawful lane.stream.remainingCapacity
  unfold fill
  rw [gets_bind]
  cases answer : FDWrapper.read sys fd lane.stream.remainingCapacity (lane.kernel, lane.descriptor) with
  | mk result after =>
      obtain ⟨kernel, d⟩ := after
      rw [answer] at got
      cases got with
      | failed errno =>
          rw [bind_error (within_eq answer)]
          exact .failed (.call _ _) kernel
      | bytes bytes fits =>
          rw [bind_ok (within_eq answer), alter_bind, gets_bind]
          have ended := Filled.bytes kernel bytes fits _ rfl
          split
          case isTrue eof =>
            change (lane.descriptor.eof || decide (0 < lane.stream.remainingCapacity) && bytes.isEmpty) = true at eof
            rw [eof, Bool.or_true] at ended
            rw [eof]
            exact ended
          case isFalse going =>
            have open_ := Bool.not_eq_true _ |>.mp going
            change (lane.descriptor.eof || decide (0 < lane.stream.remainingCapacity) && bytes.isEmpty) = false
              at open_
            rw [open_, Bool.or_false] at ended
            rw [open_]
            exact ended

theorem drain_drained (lawful : sys.Lawful) {over_ : ByteStream → Bool}
    {finish : Action (Kernel × FDWrapper) Thrown Unit} {change : FDWrapper → FDWrapper}
    (finishing : Changes finish change) (lane : Lane Kernel) :
    Drained over_ change lane (drain sys fd over_ finish lane).1 (drain sys fd over_ finish lane).2 := by
  have wrote : Wrote _ lane.descriptor (FDWrapper.writeSome sys fd _ (lane.kernel, lane.descriptor)).1 _ :=
    writeSome_wrote lawful (lane.stream.peekOutput (min maxCopyLength lane.stream.bufferSize))
  have front : lane.stream.peekOutput (min maxCopyLength lane.stream.bufferSize) =
      lane.stream.buffer.take maxCopyLength := by
    rw [ByteStream.peekOutput_eq_read, ByteStream.read_fst, ByteStream.bufferSize, ← List.take_eq_take_min]
  rw [front] at wrote
  cases answer : FDWrapper.writeSome sys fd (lane.stream.buffer.take maxCopyLength)
      (lane.kernel, lane.descriptor) with
  | mk result after =>
      obtain ⟨kernel, d⟩ := after
      rw [answer] at wrote
      cases wrote with
      | failed why count =>
          rw [drain, gets_bind, front, bind_error (within_eq answer)]
          exact .failed why kernel count
      | some n fits =>
          have short : (lane.stream.buffer.take maxCopyLength).take n = lane.stream.buffer.take n := by
            rw [List.take_take, Nat.min_eq_left (fits.trans (List.length_take_le _ _))]
          rw [short] at answer
          have shape : drain sys fd over_ finish lane =
              (if over_ (lane.stream.read n).2 then
                (finish.within Lane.device >>= fun _ => alter fun lane => { lane with shutdown := true })
                else pure ()) (lane.moved kernel n) := by
            rw [drain, gets_bind, front, bind_ok (within_eq answer), alter_bind, gets_bind]
            rfl
          rw [shape]
          split
          case isFalse going => exact .moved kernel n (Bool.not_eq_true _ |>.mp going)
          case isTrue done =>
            cases ended : finish (kernel, (lane.moved kernel n).descriptor) with
            | mk result after =>
                obtain ⟨later, d⟩ := after
                have told : finish.within Lane.device (lane.moved kernel n) = _ := within_eq ended
                cases result with
                | error thrown =>
                    obtain ⟨why, rfl⟩ := (finishing _).throws rfl ended
                    rw [bind_error told]
                    exact .unfinished later n why done
                | ok _ =>
                    obtain rfl := (finishing _).returns rfl ended
                    rw [bind_ok told]
                    exact .finished later n done

variable {lane after : Lane Kernel} {result : Except Thrown Unit}

structure Unwritten (lane after : Lane Kernel) : Prop where
  ages : Ages lane.descriptor after.descriptor
  closed : after.descriptor.closed = lane.descriptor.closed
  handed : after.descriptor.handed = lane.descriptor.handed
  shutdown : after.shutdown = lane.shutdown

theorem filled_unwritten (filled : Filled lane result after) : Unwritten lane after := by
  cases filled with
  | failed why kernel => exact ⟨.refl _, rfl, rfl, rfl⟩
  | bytes kernel bytes fits eof found =>
      refine ⟨⟨fun over_ => ?_, id⟩, rfl, rfl, rfl⟩
      change eof = true
      rw [found, over_, Bool.true_or]

theorem drained_unread {over_ : ByteStream → Bool} (drained : Drained over_ registerWrite lane result after) :
    after.descriptor.taken = lane.descriptor.taken ∧ after.descriptor.eof = lane.descriptor.eof ∧
      after.descriptor.closed = lane.descriptor.closed := by
  cases drained with
  | failed why kernel count => exact ⟨rfl, rfl, rfl⟩
  | moved kernel n going => exact ⟨rfl, rfl, rfl⟩
  | unfinished kernel n why done => exact ⟨rfl, rfl, rfl⟩
  | finished kernel n done => exact ⟨rfl, rfl, rfl⟩

end Sponge.StreamRules

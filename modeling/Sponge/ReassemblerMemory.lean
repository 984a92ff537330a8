import Sponge.ReassemblerStream

/-! The memory of the reassembler: how its two deques stay within the capacity, and why no access and
no difference in `push_substring` goes wrong.

The functions named `Checked` are those of `StreamReassembler` with every deque access, the result of
the final write and the final subtraction tested; they fail where the source would be undefined, lose
bytes or wrap. -/

namespace Sponge.ReassemblerMemory

open StreamReassembler ReassemblerRefinement ReassemblerStream Transition

def storeByteChecked (r : StreamReassembler) (bufferIndex : Nat) (byte : Byte) :
    Option StreamReassembler :=
  if bufferIndex < r.state.length ∧ bufferIndex < r.buffer.length
  then some (r.storeByte bufferIndex byte) else none

def storeLoopChecked (index : Nat) : Nat → List Byte → StreamReassembler → Option StreamReassembler
  | _, [], r => some r
  | dataIndex, byte :: rest, r =>
      let position := (dataIndex + index) % 2 ^ 64
      let bufferIndex := position - r.output.bytesWritten
      if position < r.output.bytesWritten then storeLoopChecked index (dataIndex + 1) rest r
      else if bufferIndex ≥ r.output.remainingCapacity then some r
      else (storeByteChecked r bufferIndex byte).bind (storeLoopChecked index (dataIndex + 1) rest)

/-- The front of `_state` is read before the room is compared, so an empty deque fails even then. -/
def retrieveLoopChecked : Nat → StreamReassembler → Option (List Byte × StreamReassembler)
  | 0, r => if r.state.isEmpty then none else some ([], r)
  | room + 1, r =>
      match r.state, r.buffer with
      | [], _ => none
      | false :: _, _ => some ([], r)
      | true :: _, [] => none
      | true :: states, byte :: bytes =>
          (retrieveLoopChecked room
            { r with state := states ++ [false], buffer := bytes ++ [blank] }).map
              fun (ret, left) => (byte :: ret, left)

def assembleChecked (r : StreamReassembler) : Option StreamReassembler :=
  (retrieveLoopChecked r.output.remainingCapacity r).bind fun (ret, left) =>
    if (left.output.write ret).1 = ret.length ∧ ret.length ≤ left.unassembledBytes then
      some { left with
        output := (left.output.write ret).2
        unassembledBytes := left.unassembledBytes - ret.length }
    else none

def pushSubstringChecked (r : StreamReassembler) (data : List Byte) (index : Nat) (eof : Bool) :
    Option StreamReassembler :=
  (storeLoopChecked index 0 data (r.markEof data index eof)).bind fun stored =>
    (assembleChecked stored).map finish

theorem storeLoopChecked_eq (index dataIndex : Nat) (data : List Byte) (r : StreamReassembler)
    (valid : r.Valid) :
    storeLoopChecked index dataIndex data r = some (storeLoop index dataIndex data r) := by
  induction data generalizing dataIndex r with
  | nil => rfl
  | cons byte rest ih =>
      rw [storeLoopChecked, storeLoop]
      split
      · exact ih (dataIndex + 1) r valid
      · split
        · rfl
        case isFalse within =>
          have inside := Nat.not_le.mp within
          have bound := valid.offset_bound inside
          rw [storeByteChecked, valid.stateLength, valid.bufferLength, if_pos ⟨bound, bound⟩]
          exact ih (dataIndex + 1) _ (storeByte_valid r valid _ byte inside)

theorem retrieveLoopChecked_eq (room : Nat) (r : StreamReassembler)
    (lengths : r.state.length = r.buffer.length) (nonempty : r.state ≠ []) :
    retrieveLoopChecked room r = some (retrieveLoop room r) := by
  induction room generalizing r with
  | zero =>
      rw [retrieveLoopChecked, if_neg (by simpa using nonempty)]
      rfl
  | succ room ih =>
      obtain ⟨output, capacity, unassembledBytes, eof, buffer, state⟩ := r
      rcases state with _ | ⟨_ | _, states⟩
      · exact (nonempty rfl).elim
      · cases buffer <;> rfl
      · cases buffer with
        | nil => cases lengths
        | cons byte bytes =>
            have equal : states.length = bytes.length := by simpa using lengths
            have next := ih ⟨output, capacity, unassembledBytes, eof, bytes ++ [blank],
              states ++ [false]⟩ (by simp [equal]) (by simp)
            simp only [retrieveLoopChecked, retrieveLoop, next, Option.map_some]

theorem assembleChecked_eq (r : StreamReassembler) (valid : r.Valid) (positive : 0 < r.capacity) :
    assembleChecked r = some r.assemble := by
  have lengths : r.state.length = r.buffer.length := by rw [valid.stateLength, valid.bufferLength]
  have nonempty : r.state ≠ [] := by
    apply List.ne_nil_of_length_pos
    rw [valid.stateLength]
    exact positive
  obtain ⟨output, _, _, unassembled, _⟩ := retrieveLoop_frame r.output.remainingCapacity r
  obtain ⟨taken, _⟩ := retrieveLoop_drain r.output.remainingCapacity r lengths
  have accepted : ((retrieveLoop r.output.remainingCapacity r).2.output.write
      (retrieveLoop r.output.remainingCapacity r).1).1 =
        (retrieveLoop r.output.remainingCapacity r).1.length := by
    rw [ByteStream.write_fst, output, taken]
    exact Nat.min_eq_left (retrieved_fits r)
  have counted : (retrieveLoop r.output.remainingCapacity r).1.length ≤
      (retrieveLoop r.output.remainingCapacity r).2.unassembledBytes := by
    have balance := SparseWindow.drain_stored r.output.remainingCapacity r.cells
    rw [unassembled, valid.counted, taken]
    omega
  rw [assembleChecked, retrieveLoopChecked_eq _ r lengths nonempty]
  exact if_pos ⟨accepted, counted⟩

theorem pushSubstringChecked_eq (r : StreamReassembler) (valid : r.Valid) (positive : 0 < r.capacity)
    (data : List Byte) (index : Nat) (eof : Bool) :
    pushSubstringChecked r data index eof = some (r.pushSubstring data index eof) := by
  have marked := markEof_valid r valid data index eof
  have same : ((r.markEof data index eof).storeLoop index 0 data).capacity = r.capacity := by
    rw [storeLoop_capacity, (markEof_frame r data index eof).2.1]
  have assembled := assembleChecked_eq _ (storeLoop_valid index 0 data _ marked)
    (by rw [same]; exact positive)
  rw [pushSubstringChecked, storeLoopChecked_eq index 0 data _ marked, Option.bind_some, assembled]
  rfl

theorem held_of_state {r : StreamReassembler} (valid : r.Valid) (offset : Nat) :
    (r.held (r.output.bytesWritten + offset)).isSome = (r.state[offset]? == some true) := by
  rw [held, SparseWindow.lookup_at]
  rcases Nat.lt_or_ge offset r.capacity with inside | outside
  · rw [← state_eq_cells r offset (by rw [valid.bufferLength]; exact inside),
      List.getD_eq_getElem?_getD]
    rcases r.state[offset]? with _ | _ | _ <;> rfl
  · rw [List.getElem?_eq_none (by rw [valid.cellsLength]; exact outside),
      List.getElem?_eq_none (by rw [valid.stateLength]; exact outside)]
    rfl

theorem stored_eq_count (states : List Bool) (bytes : List Byte) (lengths : states.length = bytes.length) :
    SparseWindow.stored (List.zipWith (fun present byte => if present then some byte else none)
      states bytes) = states.count true := by
  induction states generalizing bytes with
  | nil => rfl
  | cons present states ih =>
      cases bytes with
      | nil => cases lengths
      | cons byte bytes =>
          have inner := ih bytes (by simpa using lengths)
          simp only [SparseWindow.stored, List.zipWith_cons_cons, List.countP_cons,
            List.count_cons] at inner ⊢
          rw [inner]
          cases present <;> rfl

/-- What the deques, the counter and the output stream look like between two calls. -/
structure Represented (capacity : Nat) (r : StreamReassembler) : Prop where
  bufferEntries : r.buffer.length = capacity
  stateEntries : r.state.length = capacity
  counted : r.unassembledBytes = r.state.count true
  inRoom : ∀ offset, r.state[offset]? = some true → offset < r.output.remainingCapacity
  memory : r.output.bufferSize + r.unassembledBytes ≤ capacity

theorem valid_represented {r : StreamReassembler} (valid : r.Valid) : Represented r.capacity r := by
  have room := valid.room
  have bounded := valid.sound.bounded
  have sameCapacity := valid.outputCapacity
  have lengths : r.state.length = r.buffer.length := by rw [valid.stateLength, valid.bufferLength]
  have inside : ∀ offset, r.state[offset]? = some true → offset < r.output.remainingCapacity := by
    intro offset marked
    have window := valid.inWindow (r.output.bytesWritten + offset)
      (by rw [held_of_state valid, marked]; rfl)
    omega
  have few : r.unassembledBytes ≤ r.output.remainingCapacity := by
    have card := SparseWindow.stored_eq_card 0 r.output.remainingCapacity r.cells (by
      intro offset filled
      apply inside
      have moved := held_of_state valid offset
      rw [held, SparseWindow.lookup_at] at moved
      rw [← Nat.zero_add offset, SparseWindow.lookup_at, moved] at filled
      simpa using filled)
    rw [valid.counted, ← card]
    exact (Finset.card_filter_le _ _).trans (Finset.card_range _).le
  refine ⟨valid.bufferLength, valid.stateLength, ?_, inside, ?_⟩
  · rw [valid.counted]
    exact stored_eq_count _ _ lengths
  · simp only [ByteStream.remainingCapacity, ByteStream.bufferSize] at few ⊢
    omega

theorem assemble_stops (r : StreamReassembler) (valid : r.Valid) :
    r.assemble.held r.assemble.output.bytesWritten = none := by
  -- the retrieval loop stops in front of a missing byte, however the indices of the push wrapped
  obtain ⟨a, refines⟩ :=
    refines_exists (List.replicate r.output.bytesRead blank) r valid List.length_replicate
  have settled := assemble_refines valid refines
  have stopped := Assembly.settle_stops (a.read + r.capacity - a.written.length) a (by omega)
  rwa [settled.pending, settled.writtenLength (assemble_valid r valid)] at stopped

theorem pushSubstring_stops (r : StreamReassembler) (valid : r.Valid) (data : List Byte) (index : Nat)
    (eof : Bool) : (r.pushSubstring data index eof).held
      (r.pushSubstring data index eof).output.bytesWritten = none := by
  have stored := storeLoop_valid index 0 data _ (markEof_valid r valid data index eof)
  obtain ⟨_, _, written, _, cells, _⟩ :=
    finish_frame ((r.markEof data index eof).storeLoop index 0 data).assemble
  rw [pushSubstring, held, written, cells]
  exact assemble_stops _ stored

theorem front_unmarked {r : StreamReassembler} (valid : r.Valid) (positive : 0 < r.capacity)
    (missing : r.held r.output.bytesWritten = none) : r.state.head? = some false := by
  have front := held_of_state valid 0
  rw [Nat.add_zero, missing] at front
  cases states : r.state with
  | nil =>
      have length := valid.stateLength
      rw [states, List.length_nil] at length
      omega
  | cons present rest =>
      rw [states] at front
      cases present with
      | false => rfl
      | true => cases front

theorem step_valid (capacity : Nat) (t : Traced) (call : Call)
    (inv : t.reassembler.Valid ∧ t.reassembler.capacity = capacity) :
    (t.step call).reassembler.Valid ∧ (t.step call).reassembler.capacity = capacity := by
  obtain ⟨valid, same⟩ := inv
  cases call with
  | pushSubstring data index eof =>
      exact ⟨pushSubstring_valid _ valid data index eof,
        (pushSubstring_capacity _ data index eof).trans same⟩
  | read len => exact ⟨readOut_valid _ valid len, same⟩
  | popOutput len => exact ⟨readOut_valid _ valid len, same⟩

theorem reached_valid {capacity : Nat} {t : Traced}
    (reached : Reachable Traced.step anything (Traced.new capacity) t) :
    t.reassembler.Valid ∧ t.reassembler.capacity = capacity :=
  reachable_invariant (P := fun t => t.reassembler.Valid ∧ t.reassembler.capacity = capacity)
    ⟨new_valid capacity, rfl⟩ (fun t call inv _ => step_valid capacity t call inv) reached

/-- Whatever is pushed, read and popped, the deques and the counter stay within the capacity and
agree, the next push makes only defined accesses and exact differences, and it leaves an unmarked
front. -/
theorem representation_kept {capacity : Nat} (positive : 1 ≤ capacity) {t : Traced}
    (reached : Reachable Traced.step anything (Traced.new capacity) t) :
    Represented capacity t.reassembler ∧ ∀ data index eof,
      (t.reassembler.pushSubstring data index eof).state.head? = some false ∧
        pushSubstringChecked t.reassembler data index eof =
          some (t.reassembler.pushSubstring data index eof) := by
  obtain ⟨valid, same⟩ := reached_valid reached
  have nonzero : 0 < t.reassembler.capacity := by omega
  refine ⟨by rw [← same]; exact valid_represented valid, ?_⟩
  intro data index eof
  constructor
  · apply front_unmarked (pushSubstring_valid _ valid data index eof)
    · rw [pushSubstring_capacity]
      exact nonzero
    · exact pushSubstring_stops _ valid data index eof
  · exact pushSubstringChecked_eq _ valid nonzero data index eof

def unrulyCalls : List Call :=
  [.pushSubstring [7, 8] (2 ^ 64 - 1) true, .pushSubstring [1, 2, 3, 4] 1 false,
    .pushSubstring [9, 9] 0 false, .popOutput 2, .pushSubstring [5, 6] 4 true]

theorem unruly_represented :
    Represented 3 (unrulyCalls.foldl Traced.step (Traced.new 3)).reassembler ∧
      (unrulyCalls.foldl Traced.step (Traced.new 3)).reassembler.unassembledBytes = 1 := by
  refine ⟨(representation_kept (by decide) (reachable_run unrulyCalls ?_)).1, by decide +kernel⟩
  exact ⟨trivial, trivial, trivial, trivial, trivial, trivial⟩

end Sponge.ReassemblerMemory

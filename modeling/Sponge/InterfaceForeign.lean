import Sponge.InterfaceLifetimes

/-! Which frames an interface should leave alone, and which ones it does. Every frame for the interface that
is not an IPv4 frame is read as an ARP message, whatever its type. -/

namespace Sponge.InterfaceForeign

open NetworkInterface InterfaceArp InterfaceEffects InterfaceLifetimes

def delivered (i : NetworkInterface) (frame : EthernetFrame) : Option InternetDatagram :=
  if Addressed i frame ∧ frame.header.type = EthernetHeader.typeIPv4 then
    match frame.payload.toBuffer with
    | .error _ => none
    | .ok buffer =>
        match IPv4Datagram.parse {} buffer with
        | (.noError, datagram) => some datagram
        | _ => none
  else none

/-- The interface changes only for an accepted ARP message, returns only the datagram of an IPv4 frame, and
otherwise returns nothing and stays as it is. -/
structure Untouched (i : NetworkInterface) (frame : EthernetFrame) : Prop where
  changes : (i.recvFrame frame).2 ≠ i → accepted i frame ≠ none
  delivers : ∀ dgram, (i.recvFrame frame).1 = .ok (some dgram) → delivered i frame = some dgram
  otherwise : accepted i frame = none → delivered i frame = none → i.recvFrame frame = (.ok none, i)

/-- The ARP message that a frame for the interface would hold if it was an ARP frame. -/
def overheard (i : NetworkInterface) (frame : EthernetFrame) : Option ARPMessage :=
  if Addressed i frame ∧ frame.header.type ≠ EthernetHeader.typeIPv4 then
    match frame.payload.toBuffer with
    | .error _ => none
    | .ok buffer =>
        match ARPMessage.parse {} buffer with
        | (.noError, message) => some message
        | _ => none
  else none

/-- The message says something new, asks for an answer, or comes from an address that is waited for. -/
def News (i : NetworkInterface) (message : ARPMessage) : Prop :=
  i.arpTable message.senderIpAddress ≠ some (message.senderEthernetAddress, 30000) ∨
    message.opcode = ARPMessage.opcodeRequest ∨ message.senderIpAddress ∈ asked i ∨
    message.senderIpAddress ∈ awaited i

/-- An ARP message that the interface cannot compare with an address of its own, or one that brings news to
it in a frame of another type. -/
def Mistaken (i : NetworkInterface) (frame : EthernetFrame) : Prop :=
  ∃ message, overheard i frame = some message ∧
    (i.ipAddress.ipv4 = none ∨
      (frame.header.type ≠ EthernetHeader.typeARP ∧ i.ipAddress.ipv4 = some message.targetIpAddress ∧
        News i message))

section Receiving

variable {i : NetworkInterface} {header : EthernetHeader} {payload : Buffer} {message : ARPMessage}

theorem recvFrame_unheard (nothing : overheard i ⟨header, .ofBuffer payload⟩ = none) :
    i.recvFrame ⟨header, .ofBuffer payload⟩ = (.ok (delivered i ⟨header, .ofBuffer payload⟩), i) := by
  by_cases addressed : Addressed i ⟨header, .ofBuffer payload⟩
  case neg =>
    rw [recvFrame, if_pos (not_or.mp addressed), delivered, if_neg fun both => addressed both.1]
  rw [recvFrame, if_neg fun foreign => (not_or.mpr foreign) addressed]
  by_cases type : header.type = EthernetHeader.typeIPv4
  · simp only [BufferList.ofBuffer_toBuffer, delivered, addressed, type, and_self, if_true]
    rcases IPv4Datagram.parse {} payload with ⟨result, datagram⟩
    cases result <;> rfl
  · have undelivered : delivered i ⟨header, .ofBuffer payload⟩ = none := if_neg fun both => type both.2
    rw [undelivered]
    simp only [overheard, addressed, type, not_false_eq_true, and_self, if_true, ne_eq,
      BufferList.ofBuffer_toBuffer] at nothing
    simp only [BufferList.ofBuffer_toBuffer, type, if_false]
    split
    · rename_i message parsed
      simp only [parsed] at nothing
      cases nothing
    · rfl

theorem overheard_iff : overheard i ⟨header, .ofBuffer payload⟩ = some message ↔
    Addressed i ⟨header, .ofBuffer payload⟩ ∧ header.type ≠ EthernetHeader.typeIPv4 ∧
      ARPMessage.parse {} payload = (.noError, message) := by
  constructor
  · intro meant
    unfold overheard at meant
    split at meant
    case isFalse => cases meant
    case isTrue both =>
      refine ⟨both.1, both.2, ?_⟩
      simp only [BufferList.ofBuffer_toBuffer] at meant
      split at meant
      · rename_i parsed
        rw [parsed, Option.some_inj.mp meant]
      · cases meant
  · rintro ⟨addressed, type, parsed⟩
    rw [overheard, if_pos ⟨addressed, type⟩]
    simp only [BufferList.ofBuffer_toBuffer, parsed]

theorem recvFrame_foreign (meant : overheard i ⟨header, .ofBuffer payload⟩ = some message)
    (foreign : i.ipAddress.ipv4 = none) :
    ∃ thrown, i.recvFrame ⟨header, .ofBuffer payload⟩ = (.error thrown, i) := by
  obtain ⟨addressed, type, parsed⟩ := overheard_iff.mp meant
  rw [recvFrame, if_neg fun foreign => (not_or.mpr foreign) addressed]
  simp only [BufferList.ofBuffer_toBuffer, if_neg type, parsed, Address.ipv4Numeric, foreign]
  exact ⟨_, rfl⟩

theorem recvFrame_overheard {own : UInt32} (meant : overheard i ⟨header, .ofBuffer payload⟩ = some message)
    (address : i.ipAddress.ipv4 = some own) :
    i.recvFrame ⟨header, .ofBuffer payload⟩ =
      if message.targetIpAddress ≠ own then (.ok none, i)
      else ((i.learn message).1.map fun _ => none, (i.learn message).2) := by
  obtain ⟨addressed, type, parsed⟩ := overheard_iff.mp meant
  rw [recvFrame, if_neg fun foreign => (not_or.mpr foreign) addressed]
  simp only [BufferList.ofBuffer_toBuffer, if_neg type, parsed, Address.ipv4Numeric, address]

theorem delivered_overheard (meant : overheard i ⟨header, .ofBuffer payload⟩ = some message) :
    delivered i ⟨header, .ofBuffer payload⟩ = none :=
  if_neg fun both => (overheard_iff.mp meant).2.1 both.2

theorem accepted_iff : accepted i ⟨header, .ofBuffer payload⟩ = some message ↔
    header.type = EthernetHeader.typeARP ∧ overheard i ⟨header, .ofBuffer payload⟩ = some message ∧
      i.ipAddress.ipv4 = some message.targetIpAddress := by
  rw [accepted_heard]
  by_cases arp : header.type = EthernetHeader.typeARP
  case neg => simp only [arp, if_false, false_and, reduceCtorEq]
  simp only [arp, if_true, true_and]
  constructor
  · intro meant
    refine ⟨?_, heard_own meant⟩
    unfold heard at meant
    split at meant
    case isTrue => cases meant
    case isFalse addressed =>
      rw [not_and_or, not_not, not_not] at addressed
      simp only [BufferList.ofBuffer_toBuffer] at meant
      split at meant
      case isTrue => cases meant
      case isFalse type =>
        split at meant
        · rename_i parsed
          split at meant
          · cases meant
            exact overheard_iff.mpr ⟨addressed, type, parsed⟩
          · cases meant
        · cases meant
  · rintro ⟨meant, own⟩
    obtain ⟨addressed, type, parsed⟩ := overheard_iff.mp meant
    rw [heard, if_neg fun foreign => (not_or.mpr foreign) addressed]
    simp only [BufferList.ofBuffer_toBuffer, if_neg type, parsed, if_pos own]

end Receiving

/-! ### Messages without news -/

section News

variable {i : NetworkInterface} {own : UInt32} {message : ARPMessage}

theorem learn_stale (address : i.ipAddress.ipv4 = some own) (stale : ¬ News i message) :
    i.learn message = (.ok (), i) := by
  simp only [News, not_or, not_not] at stale
  obtain ⟨known, answer, unasked, unawaited⟩ := stale
  have table : i.taught message = i.arpTable := by
    rw [taught, defaultArpTtl, ← known, Function.update_eq_self]
  have quiet : i.replies message = [] := if_neg answer
  have addresses : (i.arpPendingIpAddresses.filter fun e => e.1 != message.senderIpAddress) =
      i.arpPendingIpAddresses := by
    refine List.filter_eq_self.mpr ?_
    intro entry member
    refine bne_iff_ne.mpr ?_
    rintro same
    exact unasked (List.mem_map.mpr ⟨entry, member, same⟩)
  have others : ∀ entry ∈ i.arpPendingDatagrams, entry.1 ≠ message.senderIpAddress := by
    intro entry member same
    exact unawaited (List.mem_map.mpr ⟨entry, member, same⟩)
  have nothing : forHop message.senderIpAddress i.arpPendingDatagrams = [] := by
    refine List.filter_eq_nil_iff.mpr ?_
    intro entry member
    simpa using others entry member
  have datagrams : forOthers message.senderIpAddress i.arpPendingDatagrams = i.arpPendingDatagrams := by
    refine List.filter_eq_self.mpr ?_
    intro entry member
    simpa using others entry member
  have same : i.toFlush message = i := by
    rw [toFlush, table, quiet, addresses, List.append_nil]
  rw [learn_flush message address, same, flush_known known [] (by simp [nothing]), nothing, datagrams]
  simp

theorem learn_unchanged (address : i.ipAddress.ipv4 = some own) (unchanged : i.learn message = (.ok (), i)) :
    ¬ News i message := by
  obtain ⟨frames, pending, _, state, emptied⟩ := learn_effect address message
  rw [unchanged] at state emptied
  have table : i.arpTable = i.taught message := congrArg NetworkInterface.arpTable state
  have queue : i.framesOut = i.framesOut ++ (i.replies message ++ frames) :=
    congrArg NetworkInterface.framesOut state
  have addresses : i.arpPendingIpAddresses =
      i.arpPendingIpAddresses.filter fun e => e.1 != message.senderIpAddress :=
    congrArg NetworkInterface.arpPendingIpAddresses state
  have datagrams : i.arpPendingDatagrams = forOthers message.senderIpAddress i.arpPendingDatagrams :=
    (congrArg NetworkInterface.arpPendingDatagrams state).trans (emptied rfl)
  rintro (unknown | request | waiting | waiting)
  · rw [table] at unknown
    exact unknown (taught_sender i message)
  · -- the reply to a request can always be made
    let learned : NetworkInterface := { i with arpTable := i.taught message }
    obtain ⟨frame, made⟩ := learned.generateARPFrame_own address message.senderIpAddress (.inr rfl)
    have replied : i.replies message = [frame] := by
      rw [replies, if_pos request, arpFrames, made]
      rfl
    rw [replied, List.self_eq_append_right] at queue
    cases queue
  · obtain ⟨entry, member, same⟩ := List.mem_map.mp waiting
    rw [addresses] at member
    exact bne_iff_ne.mp (List.mem_filter.mp member).2 same
  · obtain ⟨entry, member, same⟩ := List.mem_map.mp waiting
    rw [datagrams] at member
    exact bne_iff_ne.mp (List.mem_filter.mp member).2 same

end News

/-! ### Frames that leave the interface alone -/

section Frames

variable {i : NetworkInterface} {header : EthernetHeader} {payload : Buffer} {message : ARPMessage}

theorem Untouched.ignored {frame : EthernetFrame} (received : i.recvFrame frame = (.ok none, i)) :
    Untouched i frame where
  changes changed := by
    rw [received] at changed
    exact absurd rfl changed
  delivers dgram returned := by
    rw [received] at returned
    cases returned
  otherwise _ _ := received

theorem Untouched.unheard (nothing : overheard i ⟨header, .ofBuffer payload⟩ = none) :
    Untouched i ⟨header, .ofBuffer payload⟩ where
  changes changed := by
    rw [recvFrame_unheard nothing] at changed
    exact absurd rfl changed
  delivers dgram returned := by
    rw [recvFrame_unheard nothing] at returned
    exact Except.ok.inj returned
  otherwise _ undelivered := by rw [recvFrame_unheard nothing, undelivered]

theorem Untouched.accepted (found : accepted i ⟨header, .ofBuffer payload⟩ = some message) :
    Untouched i ⟨header, .ofBuffer payload⟩ where
  changes _ := by
    rw [found]
    exact Option.some_ne_none message
  delivers dgram returned := by
    obtain ⟨_, meant, own⟩ := accepted_iff.mp found
    rw [recvFrame_overheard meant own, if_neg (not_not.mpr rfl)] at returned
    cases result : (i.learn message).1 <;> rw [result] at returned <;> cases returned
  otherwise rejected := by
    rw [found] at rejected
    cases rejected

theorem Mistaken.rejected (mistaken : Mistaken i ⟨header, .ofBuffer payload⟩) :
    InterfaceLifetimes.accepted i ⟨header, .ofBuffer payload⟩ = none := by
  obtain ⟨message, _, cause⟩ := mistaken
  refine Option.eq_none_iff_forall_ne_some.mpr ?_
  intro other found
  obtain ⟨arp, _, own⟩ := accepted_iff.mp found
  rcases cause with foreign | ⟨type, _⟩
  · rw [foreign] at own
    cases own
  · exact type arp

theorem Mistaken.received (mistaken : Mistaken i ⟨header, .ofBuffer payload⟩) :
    i.recvFrame ⟨header, .ofBuffer payload⟩ ≠ (.ok none, i) := by
  obtain ⟨message, meant, foreign | ⟨_, own, news⟩⟩ := mistaken
  · obtain ⟨thrown, received⟩ := recvFrame_foreign meant foreign
    rw [received]
    intro same
    cases same
  · rw [recvFrame_overheard meant own, if_neg (not_not.mpr rfl)]
    intro same
    refine learn_unchanged own ?_ news
    rcases learned : i.learn message with ⟨result, j⟩
    rw [learned] at same
    cases result <;> cases same
    rfl

/-- The interface leaves alone what it should, except for the ARP messages that it finds under other types,
and for those that come to an interface without an IPv4 address. -/
theorem frames_untouched_iff (i : NetworkInterface) (header : EthernetHeader) (payload : Buffer) :
    Untouched i ⟨header, .ofBuffer payload⟩ ↔ ¬ Mistaken i ⟨header, .ofBuffer payload⟩ := by
  constructor
  · intro untouched mistaken
    have ⟨_, meant, _⟩ := mistaken
    exact mistaken.received (untouched.otherwise mistaken.rejected (delivered_overheard meant))
  · intro clear
    cases meant : overheard i ⟨header, .ofBuffer payload⟩ with
    | none => exact .unheard meant
    | some message =>
        cases own : i.ipAddress.ipv4 with
        | none => exact absurd ⟨message, meant, .inl own⟩ clear
        | some ip =>
            have received := recvFrame_overheard meant own
            by_cases target : message.targetIpAddress = ip
            case neg => exact .ignored (received.trans (if_pos target))
            subst target
            by_cases arp : header.type = EthernetHeader.typeARP
            case pos => exact .accepted (accepted_iff.mpr ⟨arp, meant, own⟩)
            have stale : ¬ News i message := fun news => clear ⟨message, meant, .inr ⟨arp, own, news⟩⟩
            rw [if_neg (not_not.mpr rfl), learn_stale own stale] at received
            exact .ignored received

end Frames

def mislabelled : EthernetFrame where
  header := { InterfaceLedger.answer.header with type := 0x86dd }
  payload := InterfaceLedger.answer.payload

/-- The interface learns the address of the neighbour from a frame that is not an ARP frame. -/
theorem mislabelled_learned :
    let i := InterfaceLedger.host.interface
    mislabelled.header.type ≠ EthernetHeader.typeARP ∧ mislabelled.header.type ≠ EthernetHeader.typeIPv4 ∧
      accepted i mislabelled = none ∧ i.arpTable 0x0a000002 = none ∧
      (i.recvFrame mislabelled).2.arpTable 0x0a000002 = some (InterfaceLedger.answer.header.src, 30000) ∧
      ¬ Untouched i mislabelled := by
  intro i
  have rejected : accepted i mislabelled = none := rfl
  have unknown : i.arpTable 0x0a000002 = none := rfl
  have learned : (i.recvFrame mislabelled).2.arpTable 0x0a000002 =
      some (InterfaceLedger.answer.header.src, 30000) := by
    decide +kernel
  refine ⟨by decide, by decide, rejected, unknown, learned, ?_⟩
  intro untouched
  refine untouched.changes ?_ rejected
  intro unchanged
  rw [unchanged, unknown] at learned
  cases learned

end Sponge.InterfaceForeign

import Sponge.InterfaceLedger

/-! The three ARP containers of a network interface agree with each other in every state of a run.

The queue of frames is not emptied here either, so that it holds every request ever pushed. -/

namespace Sponge.InterfaceArp

open NetworkInterface Transition

def carried (frame : EthernetFrame) : Option ARPMessage :=
  if frame.header.type = EthernetHeader.typeARP then
    match frame.payload.toBuffer with
    | .error _ => none
    | .ok buffer =>
        match ARPMessage.parse {} buffer with
        | (.noError, message) => some message
        | _ => none
  else none

def Requests (frame : EthernetFrame) (message : ARPMessage) : Prop :=
  carried frame = some message ∧ message.opcode = ARPMessage.opcodeRequest

/-- A request goes to everyone and leaves the Ethernet address that it asks for open. -/
def Broadcast (frame : EthernetFrame) : Prop :=
  ∀ message, Requests frame message →
    frame.header.dst = .broadcast ∧ message.targetEthernetAddress = .zero

def asked (i : NetworkInterface) : List UInt32 := i.arpPendingIpAddresses.map Prod.fst

def awaited (i : NetworkInterface) : List UInt32 := i.arpPendingDatagrams.map Prod.fst

structure Consistent (i : NetworkInterface) : Prop where
  unknown : ∀ ip ∈ asked i, i.arpTable ip = none
  once : (asked i).Nodup
  needed : ∀ ip, ip ∈ awaited i ↔ ip ∈ asked i
  ttl : ∀ ip entry, i.arpTable ip = some entry → 1 ≤ entry.2 ∧ entry.2 ≤ 30000
  timer : ∀ entry ∈ i.arpPendingIpAddresses, 1 ≤ entry.2 ∧ entry.2 ≤ 5000
  broadcast : ∀ frame ∈ i.framesOut, Broadcast frame

/-- The request for `ip` is repeated: a tick takes its time off the timer, and the tick in which the timer
runs out pushes a request and starts the timer again. -/
def Retried (i : NetworkInterface) (ip : UInt32) : Prop :=
  ∃ timer ≤ 5000, (ip, timer) ∈ i.arpPendingIpAddresses ∧
    ∀ ms, (ip, if timer ≤ ms then 5000 else timer - ms) ∈ (i.tick ms).2.arpPendingIpAddresses ∧
      (timer ≤ ms → ∃ frame ∈ (i.tick ms).2.framesOut.drop i.framesOut.length, ∃ message,
        Requests frame message ∧ message.targetIpAddress = ip)

def Sendable (_ : NetworkInterface) : Operation → Prop
  | .sendDatagram dgram _ => dgram.Serializable
  | _ => True

/-! ### The frames that an interface makes -/

section Frames

variable {i : NetworkInterface} {ip : UInt32} {opcode : UInt16} {frame : EthernetFrame}

theorem generateARPFrame_carried (made : i.generateARPFrame ip opcode = .ok frame) :
    ∃ message, i.generateARPMessage ip opcode = .ok message ∧ carried frame = some message ∧
      frame.header = i.buildFrameHeader ip EthernetHeader.typeARP := by
  obtain ⟨message, generated, written⟩ := of_bind_ok made
  obtain ⟨bytes, serialized, packed⟩ := of_bind_ok written
  cases packed
  refine ⟨message, generated, ?_, rfl⟩
  simp [carried, buildFrameHeader, ARPMessage.parse_serialize {} serialized]

theorem generateARPMessage_fields {message : ARPMessage}
    (generated : i.generateARPMessage ip opcode = .ok message) :
    message.opcode = opcode ∧ message.targetIpAddress = ip ∧
      (i.arpTable ip = none → message.targetEthernetAddress = .zero) := by
  obtain ⟨own, _, packed⟩ := of_bind_ok generated
  cases packed
  refine ⟨rfl, rfl, ?_⟩
  intro unknown
  simp only [unknown]

theorem request_made (unknown : i.arpTable ip = none)
    (made : i.generateARPFrame ip ARPMessage.opcodeRequest = .ok frame) :
    Broadcast frame ∧ ∃ message, Requests frame message ∧ message.targetIpAddress = ip := by
  obtain ⟨message, generated, carries, header⟩ := generateARPFrame_carried made
  obtain ⟨opcode, target, zero⟩ := generateARPMessage_fields generated
  refine ⟨?_, message, ⟨carries, opcode⟩, target⟩
  intro other requests
  have same : other = message := Option.some_inj.mp (requests.1.symm.trans carries)
  subst same
  refine ⟨?_, zero unknown⟩
  simp only [header, buildFrameHeader, unknown]

theorem reply_broadcast (made : i.generateARPFrame ip ARPMessage.opcodeReply = .ok frame) :
    Broadcast frame := by
  obtain ⟨message, generated, carries, _⟩ := generateARPFrame_carried made
  intro other requests
  have same : other = message := Option.some_inj.mp (requests.1.symm.trans carries)
  have reply := (generateARPMessage_fields generated).1
  rw [← same, requests.2] at reply
  cases reply

theorem dataFrame_broadcast (i : NetworkInterface) (mac : EthernetAddress) (dgram : InternetDatagram) :
    Broadcast (i.dataFrame mac dgram) := by
  intro message requests
  have other : EthernetHeader.typeIPv4 ≠ EthernetHeader.typeARP := by decide
  have nothing : carried (i.dataFrame mac dgram) = none := if_neg other
  rw [Requests, nothing] at requests
  cases requests.1

theorem requests_broadcast {ms : Nat} {entries : List (UInt32 × Nat)}
    (unknown : ∀ entry ∈ entries, i.arpTable entry.1 = none) :
    ∀ frame ∈ i.requests ms entries, Broadcast frame := by
  intro frame member
  obtain ⟨entry, due, sent⟩ := List.mem_flatMap.mp member
  exact (request_made (unknown entry (List.mem_of_mem_filter due)) (mem_arpFrames.mp sent)).1

theorem replies_broadcast {message : ARPMessage} : ∀ frame ∈ i.replies message, Broadcast frame := by
  unfold replies
  split
  · exact fun frame member => reply_broadcast (mem_arpFrames.mp member)
  · exact List.forall_mem_nil _

end Frames

/-! ### Each call keeps the containers consistent -/

section Steps

variable {i : NetworkInterface} (consistent : Consistent i)
include consistent

theorem Consistent.push {frames : List EthernetFrame} (broadcast : ∀ frame ∈ frames, Broadcast frame) :
    Consistent { i with framesOut := i.framesOut ++ frames } where
  __ := consistent
  broadcast := List.forall_mem_append.mpr ⟨consistent.broadcast, broadcast⟩

theorem Consistent.wait {ip : UInt32} (pending : ip ∈ asked i) (dgram : InternetDatagram) :
    Consistent { i with arpPendingDatagrams := i.arpPendingDatagrams ++ [(ip, dgram)] } where
  __ := consistent
  needed := by
    intro hop
    have before := consistent.needed hop
    simp only [awaited, asked, List.map_append, List.map_cons, List.map_nil, List.mem_append,
      List.mem_singleton] at before pending ⊢
    rw [before]
    constructor
    · rintro (earlier | rfl)
      · exact earlier
      · exact pending
    · exact .inl

theorem Consistent.ask {ip : UInt32} (new : ip ∉ asked i) (unknown : i.arpTable ip = none)
    (dgram : InternetDatagram) :
    Consistent { i with
      arpPendingIpAddresses := i.arpPendingIpAddresses ++ [(ip, defaultArpTimeout)]
      arpPendingDatagrams := i.arpPendingDatagrams ++ [(ip, dgram)] } where
  __ := consistent
  unknown := by
    have split : asked { i with
        arpPendingIpAddresses := i.arpPendingIpAddresses ++ [(ip, defaultArpTimeout)]
        arpPendingDatagrams := i.arpPendingDatagrams ++ [(ip, dgram)] } = asked i ++ [ip] := by
      simp [asked]
    rw [split]
    exact List.forall_mem_append.mpr ⟨consistent.unknown, List.forall_mem_singleton.mpr unknown⟩
  once := by
    have alone := consistent.once.append (List.nodup_singleton ip)
      (List.disjoint_singleton.mpr new)
    simpa [asked] using alone
  needed := by
    intro hop
    have before := consistent.needed hop
    simp only [awaited, asked, List.map_append, List.map_cons, List.map_nil, List.mem_append] at before ⊢
    rw [before]
  timer := List.forall_mem_append.mpr
    ⟨consistent.timer, List.forall_mem_singleton.mpr (by simp [defaultArpTimeout])⟩

theorem Consistent.sendDatagram {dgram : InternetDatagram} (serializable : dgram.Serializable)
    (nextHop : Address) : Consistent (i.sendDatagram dgram nextHop).2 := by
  cases hop : nextHop.ipv4 with
  | none =>
      simp only [NetworkInterface.sendDatagram, Address.ipv4Numeric, hop]
      exact consistent
  | some ip =>
      cases known : i.arpTable ip with
      | some entry =>
          rw [sendDatagram_known hop known serializable]
          exact consistent.push (List.forall_mem_singleton.mpr (dataFrame_broadcast _ _ _))
      | none =>
          rw [sendDatagram_pends hop known]
          split
          · rename_i pending
            exact consistent.wait pending dgram
          · rename_i new
            refine (consistent.ask new known dgram).push ?_
            exact fun frame member => (request_made known (mem_arpFrames.mp member)).1

theorem Consistent.learn {own : UInt32} (address : i.ipAddress.ipv4 = some own)
    (serializable : ∀ entry ∈ i.arpPendingDatagrams, entry.2.Serializable) (message : ARPMessage) :
    Consistent (i.learn message).2 := by
  rw [learn_exact message address serializable]
  have left : ∀ ip, ip ∈ (i.arpPendingIpAddresses.filter fun e => e.1 != message.senderIpAddress).map Prod.fst ↔
      ip ∈ asked i ∧ ip ≠ message.senderIpAddress := by
    intro ip
    simp [asked]
  have waiting : ∀ ip, ip ∈ (forOthers message.senderIpAddress i.arpPendingDatagrams).map Prod.fst ↔
      ip ∈ awaited i ∧ ip ≠ message.senderIpAddress := by
    intro ip
    simp [awaited, forOthers]
  constructor
  · intro ip member
    obtain ⟨pending, other⟩ := (left ip).mp member
    exact (Function.update_of_ne other _ _).trans (consistent.unknown ip pending)
  · exact consistent.once.sublist (List.filter_sublist.map Prod.fst)
  · intro ip
    exact (waiting ip).trans ((and_congr_left fun _ => consistent.needed ip).trans (left ip).symm)
  · intro ip entry known
    by_cases sender : ip = message.senderIpAddress
    · subst sender
      cases (i.taught_sender message).symm.trans known
      simp [defaultArpTtl]
    · exact consistent.ttl ip entry ((Function.update_of_ne sender _ _).symm.trans known)
  · exact fun entry member => consistent.timer entry (List.mem_of_mem_filter member)
  · refine List.forall_mem_append.mpr ⟨consistent.broadcast, List.forall_mem_append.mpr ⟨replies_broadcast, ?_⟩⟩
    intro frame member
    obtain ⟨entry, _, rfl⟩ := List.mem_map.mp member
    exact dataFrame_broadcast _ _ _

theorem Consistent.recvFrame (serializable : ∀ entry ∈ i.arpPendingDatagrams, entry.2.Serializable)
    (frame : EthernetFrame) : Consistent (i.recvFrame frame).2 := by
  rw [recvFrame_state]
  split
  · rename_i message meant
    exact consistent.learn (heard_own meant) serializable message
  · exact consistent

theorem Consistent.count {ms : Nat} {passed rest : List (UInt32 × Nat)}
    (entries : i.arpPendingIpAddresses = passed ++ rest) :
    Consistent { i with
      framesOut := i.framesOut ++ i.requests ms passed
      arpPendingIpAddresses := passed.map (counted ms) ++ rest } := by
  have addresses : (passed.map (counted ms) ++ rest).map Prod.fst = asked i := by
    rw [asked, entries, List.map_append, List.map_append, addresses_counted]
  have timers := consistent.timer
  rw [entries] at timers
  obtain ⟨early, late⟩ := List.forall_mem_append.mp timers
  have frames : ∀ frame ∈ i.requests ms passed, Broadcast frame := by
    apply requests_broadcast
    intro entry member
    apply consistent.unknown
    rw [asked, entries]
    exact List.mem_map_of_mem (List.mem_append_left rest member)
  constructor
  · rw [asked, addresses]
    exact consistent.unknown
  · rw [asked, addresses]
    exact consistent.once
  · intro ip
    rw [asked, addresses]
    exact consistent.needed ip
  · exact consistent.ttl
  · refine List.forall_mem_append.mpr ⟨?_, late⟩
    intro entry member
    obtain ⟨before, earlier, rfl⟩ := List.mem_map.mp member
    have bounds := early before earlier
    simp only [counted, defaultArpTimeout]
    split <;> omega
  · exact List.forall_mem_append.mpr ⟨consistent.broadcast, frames⟩

theorem Consistent.age (ms : Nat) : Consistent { i with arpTable := i.aged ms } where
  __ := consistent
  unknown := fun ip member => aged_unknown ms (consistent.unknown ip member)
  ttl := by
    intro ip entry known
    obtain ⟨held, positive⟩ := aged_some known
    have bounds := consistent.ttl ip _ held
    dsimp only at bounds
    omega

theorem Consistent.tick (ms : Nat) : Consistent (i.tick ms).2 := by
  rcases i.tick_exact ms with returned | ⟨_, message, passed, rest, entries, thrown⟩
  · have running : Consistent { i with
        framesOut := i.framesOut ++ i.requests ms i.arpPendingIpAddresses
        arpPendingIpAddresses := i.arpPendingIpAddresses.map (counted ms) ++ [] } :=
      consistent.count (List.append_nil _).symm
    rw [List.append_nil] at running
    rw [returned]
    exact running.age ms
  · rw [thrown]
    exact consistent.count entries

theorem Consistent.retried (address : i.ipAddress.ipv4 ≠ none) {ip : UInt32} (waits : ip ∈ awaited i) :
    Retried i ip := by
  have pending := (consistent.needed ip).mp waits
  obtain ⟨⟨_, timer⟩, member, rfl⟩ := List.mem_map.mp pending
  refine ⟨timer, (consistent.timer _ member).2, member, ?_⟩
  intro ms
  rcases i.tick_exact ms with returned | ⟨foreign, _⟩
  · rw [returned]
    refine ⟨List.mem_map_of_mem member, ?_⟩
    intro due
    obtain ⟨own, address⟩ := Option.ne_none_iff_exists'.mp address
    obtain ⟨frame, made⟩ := i.generateARPFrame_own address _ (.inl rfl)
    refine ⟨frame, ?_, (request_made (consistent.unknown _ pending) made).2⟩
    rw [List.drop_left]
    refine List.mem_flatMap.mpr ⟨_, List.mem_filter.mpr ⟨member, ?_⟩, mem_arpFrames.mpr made⟩
    exact decide_eq_true due
  · exact absurd foreign address

end Steps

theorem serializable_kept {i : NetworkInterface} (op : Operation) (sendable : Sendable i op)
    (serializable : ∀ entry ∈ i.arpPendingDatagrams, entry.2.Serializable) :
    ∀ entry ∈ (i.operate op).arpPendingDatagrams, entry.2.Serializable := by
  -- serializability is kept as well: a frame or a tick brings no datagram to wait
  cases op with
  | sendDatagram dgram nextHop =>
      cases hop : nextHop.ipv4 with
      | none => simpa only [operate, NetworkInterface.sendDatagram, Address.ipv4Numeric, hop] using serializable
      | some ip =>
          cases known : i.arpTable ip with
          | some entry =>
              rw [operate, sendDatagram_known hop known sendable]
              exact serializable
          | none =>
              rw [operate, (sendDatagram_unknown hop known).arpPendingDatagrams]
              exact List.forall_mem_append.mpr ⟨serializable, List.forall_mem_singleton.mpr sendable⟩
  | recvFrame frame =>
      rw [operate, recvFrame_state]
      split
      · rename_i message meant
        rw [learn_exact message (heard_own meant) serializable]
        exact fun entry member => serializable entry (List.mem_of_mem_filter member)
      · exact serializable
  | tick ms =>
      rcases i.tick_outcome ms with asked | ⟨_, asked⟩
      · rw [operate, asked.arpPendingDatagrams]
        exact serializable
      · rw [operate, asked.arpPendingDatagrams]
        exact serializable

theorem step_consistent {i : NetworkInterface} (op : Operation) (sendable : Sendable i op)
    (serializable : ∀ entry ∈ i.arpPendingDatagrams, entry.2.Serializable) (consistent : Consistent i) :
    Consistent (i.operate op) := by
  cases op with
  | sendDatagram dgram nextHop => exact consistent.sendDatagram sendable nextHop
  | recvFrame frame => exact consistent.recvFrame serializable frame
  | tick ms => exact consistent.tick ms

theorem new_consistent (ethernetAddress : EthernetAddress) (ipAddress : Address) :
    Consistent { ethernetAddress, ipAddress } where
  unknown := List.forall_mem_nil _
  once := .nil
  needed _ := Iff.rfl
  ttl ip entry known := by cases known
  timer := List.forall_mem_nil _
  broadcast := List.forall_mem_nil _

/-- In every reachable state the table, the pending addresses and the pending datagrams agree, every request
ever pushed was broadcast, and for every datagram that waits the request is repeated. -/
theorem arp_state_consistent {ethernetAddress : EthernetAddress} {ipAddress : Address} {i : NetworkInterface}
    (reached : Reachable operate Sendable { ethernetAddress, ipAddress } i) :
    Consistent i ∧ (i.ipAddress.ipv4 ≠ none → ∀ entry ∈ i.arpPendingDatagrams, Retried i entry.1) := by
  have both : (∀ entry ∈ i.arpPendingDatagrams, entry.2.Serializable) ∧ Consistent i := by
    refine reachable_invariant
      (P := fun i => (∀ entry ∈ i.arpPendingDatagrams, entry.2.Serializable) ∧ Consistent i) ?_ ?_ reached
    · exact ⟨List.forall_mem_nil _, new_consistent ethernetAddress ipAddress⟩
    · intro i op inv sendable
      exact ⟨serializable_kept op sendable inv.1, step_consistent op sendable inv.1 inv.2⟩
  refine ⟨both.2, ?_⟩
  intro address entry member
  exact both.2.retried address (List.mem_map_of_mem member)

def silence : List Operation :=
  [.sendDatagram InterfaceLedger.greeting (.fromIpv4Numeric 0x0a000002),
    .sendDatagram InterfaceLedger.greeting (.fromIpv4Numeric 0x0a000003), .tick 4000,
    .recvFrame InterfaceLedger.answer, .tick 1000]

def waiting : NetworkInterface := silence.foldl operate InterfaceLedger.host.interface

theorem silence_consistent : waiting.arpPendingIpAddresses = [(0x0a000003, 5000)] ∧
    waiting.framesOut.length = 4 ∧ Consistent waiting ∧ Retried waiting 0x0a000003 := by
  have serializable : InterfaceLedger.greeting.Serializable := by decide
  have reached : Reachable operate Sendable InterfaceLedger.host.interface waiting :=
    reachable_run silence ⟨serializable, serializable, trivial, trivial, trivial, trivial⟩
  obtain ⟨consistent, retried⟩ := arp_state_consistent reached
  have waits : waiting.arpPendingDatagrams = [(0x0a000003, InterfaceLedger.greeting)] := by decide +kernel
  refine ⟨by decide +kernel, by decide +kernel, consistent, ?_⟩
  exact retried (by decide +kernel) (0x0a000003, InterfaceLedger.greeting)
    (by rw [waits]; exact List.mem_singleton_self _)

end Sponge.InterfaceArp

import Sponge.NetworkInterface

/-! What the calls on a network interface do: one statement for each call and each kind of state that it
meets, from which the invariants of runs follow. -/

namespace Sponge.NetworkInterface

/-! ### ARP frames and the requests that are repeated -/

def arpFrames (i : NetworkInterface) (ip : UInt32) (opcode : UInt16) : List EthernetFrame :=
  (i.generateARPFrame ip opcode).toOption.toList

theorem mem_arpFrames {i : NetworkInterface} {ip : UInt32} {opcode : UInt16} {frame : EthernetFrame} :
    frame ∈ i.arpFrames ip opcode ↔ i.generateARPFrame ip opcode = .ok frame := by
  rw [arpFrames, Option.mem_toList]
  cases i.generateARPFrame ip opcode <;> simp [Except.toOption]

theorem push_frames (i : NetworkInterface) (ip : UInt32) (opcode : UInt16) :
    (i.push (i.generateARPFrame ip opcode)).2 = { i with framesOut := i.framesOut ++ i.arpFrames ip opcode } := by
  rw [arpFrames]
  cases i.generateARPFrame ip opcode <;> simp [push, Except.toOption]

/-- An entry of the pending list `ms` later: a request that is due starts anew. -/
def counted (ms : Nat) (entry : UInt32 × Nat) : UInt32 × Nat :=
  (entry.1, if entry.2 ≤ ms then defaultArpTimeout else entry.2 - ms)

theorem addresses_counted (ms : Nat) (entries : List (UInt32 × Nat)) :
    (entries.map (counted ms)).map Prod.fst = entries.map Prod.fst := by
  rw [List.map_map]
  rfl

def requests (i : NetworkInterface) (ms : Nat) (entries : List (UInt32 × Nat)) : List EthernetFrame :=
  (entries.filter fun entry => entry.2 ≤ ms).flatMap fun entry => i.arpFrames entry.1 ARPMessage.opcodeRequest

theorem retry_exact (ms : Nat) (i : NetworkInterface) (done waiting : List (UInt32 × Nat)) :
    ∃ passed rest, waiting = passed ++ rest ∧
      (i.retry ms done waiting).2 = { i with
        framesOut := i.framesOut ++ i.requests ms passed
        arpPendingIpAddresses := done ++ (passed.map (counted ms) ++ rest) } ∧
      ((i.retry ms done waiting).1 = .ok () ∧ rest = [] ∨
        i.ipAddress.ipv4 = none ∧ ∃ message, (i.retry ms done waiting).1 = .error message) := by
  -- the loop gets through the entries, unless it comes to a request that an interface without an IPv4 address
  -- cannot make: from there on the entries stay as they are
  induction waiting generalizing i done with
  | nil => exact ⟨[], [], rfl, by simp [retry, requests], .inl ⟨rfl, rfl⟩⟩
  | cons entry rest ih =>
      obtain ⟨ip, ttl⟩ := entry
      by_cases late : ttl ≤ ms
      · cases made : i.generateARPFrame ip ARPMessage.opcodeRequest with
        | error message =>
            refine ⟨[], (ip, ttl) :: rest, rfl, ?_, .inr ⟨?_, message, ?_⟩⟩
            · simp [retry, late, made, push, requests]
            · by_contra address
              obtain ⟨own, address⟩ := Option.ne_none_iff_exists'.mp address
              obtain ⟨frame, fine⟩ := i.generateARPFrame_own address ip (.inl rfl)
              rw [made] at fine
              cases fine
            · simp [retry, late, made, push]
        | ok frame =>
            obtain ⟨passed, left, split, state, result⟩ := ih { i with framesOut := i.framesOut ++ [frame] }
              (done ++ [(ip, defaultArpTimeout)])
            have here : i.retry ms done ((ip, ttl) :: rest) =
                ({ i with framesOut := i.framesOut ++ [frame] } : NetworkInterface).retry ms
                  (done ++ [(ip, defaultArpTimeout)]) rest := by
              simp only [retry, if_pos late, made, push]
            have asked : i.requests ms ((ip, ttl) :: passed) = frame :: i.requests ms passed := by
              simp [requests, late, arpFrames, made, Except.toOption]
            refine ⟨(ip, ttl) :: passed, left, by rw [split, List.cons_append], ?_, ?_⟩
            · rw [here, state, asked]
              simp [requests, arpFrames, counted, late, generateARPFrame, generateARPMessage, buildFrameHeader]
            · rw [here]
              exact result
      · obtain ⟨passed, left, split, state, result⟩ := ih i (done ++ [(ip, ttl - ms)])
        have here : i.retry ms done ((ip, ttl) :: rest) = i.retry ms (done ++ [(ip, ttl - ms)]) rest := by
          simp only [retry, if_neg late]
        refine ⟨(ip, ttl) :: passed, left, by rw [split, List.cons_append], ?_, ?_⟩
        · rw [here, state]
          simp [requests, counted, late]
        · rw [here]
          exact result

/-- `after` is `before` with ARP frames sent and other ARP requests awaited: nothing that concerns
datagrams has changed. -/
structure Asked (before after : NetworkInterface) : Prop where
  ethernetAddress : after.ethernetAddress = before.ethernetAddress
  ipAddress : after.ipAddress = before.ipAddress
  arpTable : after.arpTable = before.arpTable
  arpPendingDatagrams : after.arpPendingDatagrams = before.arpPendingDatagrams
  framesOut : ∃ frames, after.framesOut = before.framesOut ++ frames ∧
    ∀ frame ∈ frames, frame.header.type = EthernetHeader.typeARP

theorem arpFrames_type {i : NetworkInterface} {ip : UInt32} {opcode : UInt16} :
    ∀ frame ∈ i.arpFrames ip opcode, frame.header.type = EthernetHeader.typeARP :=
  fun _ member => generateARPFrame_type (mem_arpFrames.mp member)

theorem requests_type {i : NetworkInterface} {ms : Nat} {entries : List (UInt32 × Nat)} :
    ∀ frame ∈ i.requests ms entries, frame.header.type = EthernetHeader.typeARP := by
  intro frame member
  obtain ⟨entry, _, asked⟩ := List.mem_flatMap.mp member
  exact arpFrames_type frame asked

theorem Asked.refl (i : NetworkInterface) : Asked i i :=
  ⟨rfl, rfl, rfl, rfl, [], (List.append_nil _).symm, List.forall_mem_nil _⟩

theorem Asked.sent (i : NetworkInterface) (pending : List (UInt32 × Nat)) {frames : List EthernetFrame}
    (arp : ∀ frame ∈ frames, frame.header.type = EthernetHeader.typeARP) :
    Asked i { i with framesOut := i.framesOut ++ frames, arpPendingIpAddresses := pending } :=
  ⟨rfl, rfl, rfl, rfl, frames, rfl, arp⟩

theorem push_arp {i : NetworkInterface} {own : UInt32} (address : i.ipAddress.ipv4 = some own) (ip : UInt32)
    {opcode : UInt16} (valid : opcode = ARPMessage.opcodeRequest ∨ opcode = ARPMessage.opcodeReply) :
    (i.push (i.generateARPFrame ip opcode)).1 = .ok () := by
  obtain ⟨frame, made⟩ := i.generateARPFrame_own address ip valid
  rw [made, push]

section Flush

variable (ip : UInt32) (entries : List (UInt32 × InternetDatagram))

def forHop : List (UInt32 × InternetDatagram) := entries.filter fun e => e.1 == ip

def forOthers : List (UInt32 × InternetDatagram) := entries.filter fun e => e.1 != ip

variable {ip entries}

theorem flush_known {i : NetworkInterface} {mac : EthernetAddress} {ttl : Nat}
    (known : i.arpTable ip = some (mac, ttl)) (kept : List (UInt32 × InternetDatagram))
    (serializable : ∀ entry ∈ forHop ip entries, entry.2.Serializable) :
    i.flush ip kept entries = (.ok (), { i with
      framesOut := i.framesOut ++ (forHop ip entries).map fun entry => i.dataFrame mac entry.2
      arpPendingDatagrams := kept ++ forOthers ip entries }) := by
  induction entries generalizing i kept with
  | nil => simp [flush, forHop, forOthers]
  | cons entry rest ih =>
      obtain ⟨hop, dgram⟩ := entry
      by_cases same : hop = ip
      · subst same
        have here : forHop hop ((hop, dgram) :: rest) = (hop, dgram) :: forHop hop rest := by simp [forHop]
        rw [here, List.forall_mem_cons] at serializable
        have frame := generateFrame_known known serializable.1
        have later := ih (i := { i with framesOut := i.framesOut ++ [i.dataFrame mac dgram] }) known kept
          serializable.2
        simp only [flush, if_true, frame, push, here, List.map_cons]
        refine later.trans ?_
        simp [forOthers, dataFrame]
      · have skipped : forHop ip ((hop, dgram) :: rest) = forHop ip rest := by simp [forHop, same]
        rw [skipped] at serializable ⊢
        simp only [flush, if_neg same]
        refine (ih known _ serializable).trans ?_
        simp [forOthers, same]

end Flush

section Calls

variable {i : NetworkInterface} {ip own : UInt32} {mac : EthernetAddress} {ttl : Nat}

theorem sendDatagram_known {dgram : InternetDatagram} {nextHop : Address} (hop : nextHop.ipv4 = some ip)
    (known : i.arpTable ip = some (mac, ttl)) (serializable : dgram.Serializable) :
    i.sendDatagram dgram nextHop =
      (.ok (), { i with framesOut := i.framesOut ++ [i.dataFrame mac dgram] }) := by
  simp [sendDatagram, Address.ipv4Numeric, hop, isIpKnown, known, push, generateFrame_known known serializable]

theorem sendDatagram_pends {dgram : InternetDatagram} {nextHop : Address} (hop : nextHop.ipv4 = some ip)
    (unknown : i.arpTable ip = none) :
    (i.sendDatagram dgram nextHop).2 =
      if ip ∈ i.arpPendingIpAddresses.map Prod.fst then
        { i with arpPendingDatagrams := i.arpPendingDatagrams ++ [(ip, dgram)] }
      else { i with
        framesOut := i.framesOut ++ i.arpFrames ip ARPMessage.opcodeRequest
        arpPendingIpAddresses := i.arpPendingIpAddresses ++ [(ip, defaultArpTimeout)]
        arpPendingDatagrams := i.arpPendingDatagrams ++ [(ip, dgram)] } := by
  have flag : (i.arpPendingIpAddresses.any fun e => e.1 == ip) =
      decide (ip ∈ i.arpPendingIpAddresses.map Prod.fst) := by
    rw [Bool.eq_iff_iff]
    simp
  simp only [sendDatagram, Address.ipv4Numeric, hop, isIpKnown, unknown, Option.isSome_none,
    Bool.false_eq_true, if_false, flag, decide_eq_true_eq]
  split
  · rfl
  · rw [push_frames]
    rfl

theorem sendDatagram_unknown {dgram : InternetDatagram} {nextHop : Address} (hop : nextHop.ipv4 = some ip)
    (unknown : i.arpTable ip = none) :
    Asked { i with arpPendingDatagrams := i.arpPendingDatagrams ++ [(ip, dgram)] }
      (i.sendDatagram dgram nextHop).2 := by
  rw [sendDatagram_pends hop unknown]
  split
  · exact .refl _
  · exact .sent _ _ arpFrames_type

theorem sendDatagram_unknown_returns {dgram : InternetDatagram} {nextHop : Address}
    (hop : nextHop.ipv4 = some ip) (unknown : i.arpTable ip = none) (address : i.ipAddress.ipv4 = some own) :
    (i.sendDatagram dgram nextHop).1 = .ok () := by
  simp only [sendDatagram, Address.ipv4Numeric, hop, isIpKnown, unknown]
  split
  · cases ‹false = true›
  · split
    · rfl
    · refine push_arp (?_ : _ = some own) ip (.inl rfl)
      exact address

theorem sendDatagram_returns {dgram : InternetDatagram} {nextHop : Address} (address : i.ipAddress.ipv4 ≠ none)
    (serializable : dgram.Serializable) (hop : nextHop.ipv4 ≠ none) :
    (i.sendDatagram dgram nextHop).1 = .ok () := by
  obtain ⟨ip, hop⟩ := Option.ne_none_iff_exists'.mp hop
  obtain ⟨own, address⟩ := Option.ne_none_iff_exists'.mp address
  cases known : i.arpTable ip with
  | none => exact sendDatagram_unknown_returns hop known address
  | some entry => rw [sendDatagram_known hop known serializable]

theorem sendDatagram_ipAddress (i : NetworkInterface) (dgram : InternetDatagram) (nextHop : Address) :
    (i.sendDatagram dgram nextHop).2.ipAddress = i.ipAddress := by
  cases hop : nextHop.ipv4 with
  | none => simp only [sendDatagram, Address.ipv4Numeric, hop]
  | some ip =>
      cases known : i.arpTable ip with
      | none => exact (sendDatagram_unknown hop known).ipAddress
      | some entry =>
          by_cases serializable : dgram.Serializable
          · rw [sendDatagram_known hop known serializable]
          · obtain ⟨message, thrown⟩ := IPv4Datagram.serialize_throws serializable
            simp [sendDatagram, Address.ipv4Numeric, hop, isIpKnown, known, generateFrame, thrown, push]

def taught (i : NetworkInterface) (message : ARPMessage) : UInt32 → Option (EthernetAddress × Nat) :=
  Function.update i.arpTable message.senderIpAddress (some (message.senderEthernetAddress, defaultArpTtl))

theorem taught_sender (i : NetworkInterface) (message : ARPMessage) :
    i.taught message message.senderIpAddress = some (message.senderEthernetAddress, defaultArpTtl) :=
  Function.update_self ..

/-- `after` is `before` with the sender of `message` entered and what waited for it sent. -/
structure Learnt (before : NetworkInterface) (message : ARPMessage) (after : NetworkInterface) : Prop where
  ipAddress : after.ipAddress = before.ipAddress
  arpTable : after.arpTable = before.taught message
  arpPendingDatagrams :
    after.arpPendingDatagrams = forOthers message.senderIpAddress before.arpPendingDatagrams
  framesOut : ∃ replies, after.framesOut = before.framesOut ++ (replies ++
      (forHop message.senderIpAddress before.arpPendingDatagrams).map fun entry =>
        before.dataFrame message.senderEthernetAddress entry.2) ∧
    ∀ frame ∈ replies, frame.header.type = EthernetHeader.typeARP

def replies (i : NetworkInterface) (message : ARPMessage) : List EthernetFrame :=
  if message.opcode = ARPMessage.opcodeRequest then
    ({ i with arpTable := i.taught message } : NetworkInterface).arpFrames message.senderIpAddress
      ARPMessage.opcodeReply
  else []

theorem replies_type {message : ARPMessage} :
    ∀ frame ∈ i.replies message, frame.header.type = EthernetHeader.typeARP := by
  unfold replies
  split
  · exact arpFrames_type
  · exact List.forall_mem_nil _

def toFlush (i : NetworkInterface) (message : ARPMessage) : NetworkInterface := { i with
  framesOut := i.framesOut ++ i.replies message
  arpTable := i.taught message
  arpPendingIpAddresses := i.arpPendingIpAddresses.filter fun e => e.1 != message.senderIpAddress }

theorem learn_flush (message : ARPMessage) (address : i.ipAddress.ipv4 = some own) :
    i.learn message = (i.toFlush message).flush message.senderIpAddress [] i.arpPendingDatagrams := by
  have table : Function.update i.arpTable message.senderIpAddress
    (some (message.senderEthernetAddress, defaultArpTtl)) = i.taught message := rfl
  by_cases request : message.opcode = ARPMessage.opcodeRequest
  · have replied := push_arp (i := { i with arpTable := i.taught message }) address message.senderIpAddress
      (.inr rfl)
    simp only [learn, if_pos request, table, replied, push_frames, replies, toFlush]
  · simp only [learn, if_neg request, table, replies, List.append_nil, toFlush]

theorem learn_exact (message : ARPMessage) (address : i.ipAddress.ipv4 = some own)
    (serializable : ∀ entry ∈ i.arpPendingDatagrams, entry.2.Serializable) :
    i.learn message = (.ok (), { i with
      framesOut := i.framesOut ++ (i.replies message ++
        (forHop message.senderIpAddress i.arpPendingDatagrams).map fun entry =>
          i.dataFrame message.senderEthernetAddress entry.2)
      arpTable := i.taught message
      arpPendingIpAddresses := i.arpPendingIpAddresses.filter fun e => e.1 != message.senderIpAddress
      arpPendingDatagrams := forOthers message.senderIpAddress i.arpPendingDatagrams }) := by
  have waiting : ∀ entry ∈ forHop message.senderIpAddress i.arpPendingDatagrams, entry.2.Serializable :=
    fun entry member => serializable entry (List.mem_of_mem_filter member)
  have known : (i.toFlush message).arpTable message.senderIpAddress =
      some (message.senderEthernetAddress, defaultArpTtl) := i.taught_sender message
  rw [learn_flush message address, flush_known known [] waiting]
  simp [toFlush, dataFrame]

theorem learn_outcome (message : ARPMessage) (address : i.ipAddress.ipv4 = some own)
    (serializable : ∀ entry ∈ i.arpPendingDatagrams, entry.2.Serializable) :
    (i.learn message).1 = .ok () ∧ Learnt i message (i.learn message).2 := by
  rw [learn_exact message address serializable]
  exact ⟨rfl, rfl, rfl, rfl, i.replies message, rfl, replies_type⟩

def aged (i : NetworkInterface) (ms : Nat) : UInt32 → Option (EthernetAddress × Nat) :=
  fun ip => (i.arpTable ip).bind (expire ms)

theorem aged_unknown (ms : Nat) (unknown : i.arpTable ip = none) : i.aged ms ip = none := by
  rw [aged, unknown, Option.bind_none]

theorem aged_some {ms : Nat} {entry : EthernetAddress × Nat} (left : i.aged ms ip = some entry) :
    i.arpTable ip = some (entry.1, entry.2 + ms) ∧ 1 ≤ entry.2 := by
  obtain ⟨before, held, kept⟩ := Option.bind_eq_some_iff.mp left
  unfold expire at kept
  split at kept
  case isTrue => cases kept
  case isFalse late =>
    cases kept
    rw [held, Nat.sub_add_cancel (Nat.le_of_not_le late)]
    exact ⟨rfl, Nat.sub_pos_of_lt (Nat.lt_of_not_le late)⟩

theorem aged_none {ms : Nat} {entry : EthernetAddress × Nat} (gone : i.aged ms ip = none)
    (held : i.arpTable ip = some entry) : entry.2 ≤ ms := by
  simp only [aged, held, Option.bind_some, expire] at gone
  split at gone
  case isTrue expired => exact expired
  case isFalse => cases gone

theorem tick_exact (i : NetworkInterface) (ms : Nat) :
    i.tick ms = (.ok (), { i with
        framesOut := i.framesOut ++ i.requests ms i.arpPendingIpAddresses
        arpTable := i.aged ms
        arpPendingIpAddresses := i.arpPendingIpAddresses.map (counted ms) }) ∨
      i.ipAddress.ipv4 = none ∧ ∃ message passed rest, i.arpPendingIpAddresses = passed ++ rest ∧
        i.tick ms = (.error message, { i with
          framesOut := i.framesOut ++ i.requests ms passed
          arpPendingIpAddresses := passed.map (counted ms) ++ rest }) := by
  obtain ⟨passed, rest, split, state, result⟩ := retry_exact ms i [] i.arpPendingIpAddresses
  rcases outcome : i.retry ms [] i.arpPendingIpAddresses with ⟨returned, j⟩
  rw [outcome] at state result
  cases state
  rcases result with ⟨rfl, rfl⟩ | ⟨foreign, message, rfl⟩
  · left
    rw [List.append_nil] at split
    subst split
    simp only [tick, outcome, List.nil_append, List.append_nil]
    rfl
  · right
    refine ⟨foreign, message, passed, rest, split, ?_⟩
    simp only [tick, outcome, List.nil_append]

theorem tick_outcome (i : NetworkInterface) (ms : Nat) :
    Asked { i with arpTable := i.aged ms } (i.tick ms).2 ∨
      i.ipAddress.ipv4 = none ∧ Asked i (i.tick ms).2 := by
  rcases i.tick_exact ms with returned | ⟨foreign, message, passed, rest, _, thrown⟩
  · left
    rw [returned]
    exact .sent { i with arpTable := i.aged ms } _ requests_type
  · right
    rw [thrown]
    exact ⟨foreign, .sent i _ requests_type⟩

end Calls

/-- The ARP message in a frame, if the interface takes the frame for one that is meant for it. -/
def heard (i : NetworkInterface) (frame : EthernetFrame) : Option ARPMessage :=
  if frame.header.dst ≠ i.ethernetAddress ∧ frame.header.dst ≠ .broadcast then none
  else
    match frame.payload.toBuffer with
    | .error _ => none
    | .ok buffer =>
        if frame.header.type = EthernetHeader.typeIPv4 then none
        else
          match ARPMessage.parse {} buffer with
          | (.noError, message) =>
              if i.ipAddress.ipv4 = some message.targetIpAddress then some message else none
          | _ => none

theorem heard_own {i : NetworkInterface} {frame : EthernetFrame} {message : ARPMessage}
    (meant : i.heard frame = some message) : i.ipAddress.ipv4 = some message.targetIpAddress := by
  unfold heard at meant
  repeat' split at meant
  all_goals cases meant
  assumption

/-- The ways in which a frame is received. -/
inductive Received (i : NetworkInterface) (frame : EthernetFrame) :
    Except String (Option InternetDatagram) × NetworkInterface → Prop
  | learnt {message : ARPMessage} (meant : i.heard frame = some message) :
      Received i frame ((i.learn message).1.map fun _ => none, (i.learn message).2)
  | delivered {buffer : Buffer} {dgram : InternetDatagram} (nothing : i.heard frame = none)
      (addressed : frame.header.dst = i.ethernetAddress ∨ frame.header.dst = .broadcast)
      (type : frame.header.type = EthernetHeader.typeIPv4) (payload : frame.payload.toBuffer = .ok buffer)
      (parsed : IPv4Datagram.parse {} buffer = (.noError, dgram)) : Received i frame (.ok (some dgram), i)
  | ignored (nothing : i.heard frame = none) : Received i frame (.ok none, i)
  | thrown {message : String} (nothing : i.heard frame = none)
      (cause : frame.payload.toBuffer = .error message ∨ i.ipAddress.ipv4 = none) :
      Received i frame (.error message, i)

theorem recvFrame_received (i : NetworkInterface) (frame : EthernetFrame) :
    Received i frame (i.recvFrame frame) := by
  unfold recvFrame
  split
  · rename_i foreign
    exact .ignored (if_pos foreign)
  · rename_i addressed
    cases payload : frame.payload.toBuffer with
    | error message => exact .thrown (by simp only [heard, if_neg addressed, payload]) (.inl payload)
    | ok buffer =>
        by_cases type : frame.header.type = EthernetHeader.typeIPv4
        · have nothing : i.heard frame = none := by
            simp only [heard, if_neg addressed, payload, if_pos type]
          rw [not_and_or, not_not, not_not] at addressed
          simp only [if_pos type]
          split
          · exact .delivered nothing addressed type payload (by assumption)
          · exact .ignored nothing
        · have arp : i.heard frame = match ARPMessage.parse {} buffer with
              | (.noError, message) =>
                  if i.ipAddress.ipv4 = some message.targetIpAddress then some message else none
              | _ => none := by
            simp only [heard, if_neg addressed, payload, if_neg type]
          simp only [if_neg type]
          split
          · rename_i message parsed
            simp only [parsed] at arp
            cases own : i.ipAddress.ipv4 with
            | none =>
                simp only [Address.ipv4Numeric, own]
                exact .thrown (by simp [arp, own]) (.inr own)
            | some ip =>
                simp only [Address.ipv4Numeric, own]
                split
                · rename_i other
                  refine .ignored (arp.trans (if_neg ?_))
                  rw [own, Option.some_inj]
                  exact Ne.symm other
                · rename_i target
                  refine .learnt (arp.trans (if_pos ?_))
                  rw [own, not_not.mp target]
          · rename_i other
            refine .ignored (arp.trans ?_)
            split
            · exact (other _ (by assumption)).elim
            · rfl

theorem Received.datagram {i : NetworkInterface} {frame : EthernetFrame} {dgram : InternetDatagram}
    {outcome : Except String (Option InternetDatagram) × NetworkInterface} (received : Received i frame outcome)
    (returned : outcome.1 = .ok (some dgram)) :
    (frame.header.dst = i.ethernetAddress ∨ frame.header.dst = .broadcast) ∧
      frame.header.type = EthernetHeader.typeIPv4 ∧
      ∃ buffer, frame.payload.toBuffer = .ok buffer ∧ IPv4Datagram.parse {} buffer = (.noError, dgram) := by
  cases received with
  | @learnt message meant =>
      cases result : (i.learn message).1 with
      | ok done => simp [result, Except.map] at returned
      | error thrown => simp [result, Except.map] at returned
  | delivered nothing addressed type payload parsed =>
      cases returned
      exact ⟨addressed, type, _, payload, parsed⟩
  | ignored => cases returned
  | thrown => cases returned

theorem recvFrame_state (i : NetworkInterface) (frame : EthernetFrame) :
    (i.recvFrame frame).2 = match i.heard frame with
      | some message => (i.learn message).2
      | none => i := by
  have received := i.recvFrame_received frame
  generalize i.recvFrame frame = outcome at received ⊢
  cases received with
  | learnt meant => rw [meant]
  | delivered nothing => rw [nothing]
  | ignored nothing => rw [nothing]
  | thrown nothing => rw [nothing]

/-! ### Calls that return -/

/-- Nothing that the interface holds can make a call throw. -/
structure Ready (i : NetworkInterface) : Prop where
  own : i.ipAddress.ipv4 ≠ none
  serializable : ∀ entry ∈ i.arpPendingDatagrams, entry.2.Serializable

namespace Ready

variable {i j : NetworkInterface}

theorem asked (ready : Ready i) (asked : Asked i j) : Ready j := by
  obtain ⟨own, serializable⟩ := ready
  refine ⟨?_, ?_⟩
  · rwa [asked.ipAddress]
  · rwa [asked.arpPendingDatagrams]

theorem sendDatagram (ready : Ready i) {dgram : InternetDatagram} (serializable : dgram.Serializable)
    {nextHop : Address} (hop : nextHop.ipv4 ≠ none) :
    (i.sendDatagram dgram nextHop).1 = .ok () ∧ Ready (i.sendDatagram dgram nextHop).2 := by
  refine ⟨sendDatagram_returns ready.own serializable hop, ?_⟩
  obtain ⟨ip, hop⟩ := Option.ne_none_iff_exists'.mp hop
  cases known : i.arpTable ip with
  | none =>
      have waits : Ready { i with arpPendingDatagrams := i.arpPendingDatagrams ++ [(ip, dgram)] } :=
        ⟨ready.own, List.forall_mem_append.mpr
          ⟨ready.serializable, List.forall_mem_singleton.mpr serializable⟩⟩
      exact waits.asked (sendDatagram_unknown hop known)
  | some entry =>
      rw [sendDatagram_known hop known serializable]
      exact ⟨ready.own, ready.serializable⟩

theorem learn (ready : Ready i) (message : ARPMessage) :
    (i.learn message).1 = .ok () ∧ Ready (i.learn message).2 := by
  obtain ⟨own, address⟩ := Option.ne_none_iff_exists'.mp ready.own
  obtain ⟨returned, learnt⟩ := learn_outcome message address ready.serializable
  refine ⟨returned, ?_, ?_⟩
  · rw [learnt.ipAddress]
    exact ready.own
  · intro entry member
    rw [learnt.arpPendingDatagrams] at member
    exact ready.serializable entry (List.mem_of_mem_filter member)

theorem recvFrame (ready : Ready i) (header : EthernetHeader) (payload : Buffer) :
    (∃ received, (i.recvFrame ⟨header, .ofBuffer payload⟩).1 = .ok received) ∧
      Ready (i.recvFrame ⟨header, .ofBuffer payload⟩).2 := by
  have received := i.recvFrame_received ⟨header, .ofBuffer payload⟩
  generalize i.recvFrame ⟨header, .ofBuffer payload⟩ = outcome at received ⊢
  cases received with
  | @learnt message meant =>
      obtain ⟨returned, after⟩ := ready.learn message
      exact ⟨⟨none, by rw [returned]; rfl⟩, after⟩
  | delivered => exact ⟨⟨_, rfl⟩, ready⟩
  | ignored => exact ⟨⟨_, rfl⟩, ready⟩
  | thrown nothing cause =>
      rcases cause with buffers | foreign
      · cases buffers
      · exact absurd foreign ready.own

theorem tick (ready : Ready i) (ms : Nat) : (i.tick ms).1 = .ok () ∧ Ready (i.tick ms).2 := by
  rcases i.tick_exact ms with returned | ⟨foreign, _⟩
  · rw [returned]
    exact ⟨rfl, ready.own, ready.serializable⟩
  · exact absurd foreign ready.own

end Ready

end Sponge.NetworkInterface

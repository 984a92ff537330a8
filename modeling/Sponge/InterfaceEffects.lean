import Sponge.InterfaceArp

/-! What every operation does to the ARP state of a network interface, whatever the datagrams are like that
it is given. A datagram that cannot be serialized makes a call throw, but does not keep the call from
learning an address. -/

namespace Sponge.InterfaceEffects

open NetworkInterface InterfaceArp

def Data (frames : List EthernetFrame) : Prop :=
  ∀ frame ∈ frames, frame.header.type = EthernetHeader.typeIPv4

theorem generateFrame_type {i : NetworkInterface} {ip : UInt32} {dgram : InternetDatagram}
    {frame : EthernetFrame} (made : i.generateFrame ip dgram = .ok frame) :
    frame.header.type = EthernetHeader.typeIPv4 := by
  obtain ⟨_, _, packed⟩ := of_bind_ok made
  cases packed
  rfl

theorem flush_effect (ip : UInt32) (i : NetworkInterface) (kept entries : List (UInt32 × InternetDatagram)) :
    ∃ frames pending, Data frames ∧
      (i.flush ip kept entries).2 =
        { i with framesOut := i.framesOut ++ frames, arpPendingDatagrams := pending } ∧
      ((i.flush ip kept entries).1 = .ok () → pending = kept ++ forOthers ip entries) := by
  induction entries generalizing i kept with
  | nil =>
      refine ⟨[], kept, List.forall_mem_nil _, ?_, ?_⟩
      · simp [flush]
      · simp [forOthers]
  | cons entry rest ih =>
      obtain ⟨hop, dgram⟩ := entry
      by_cases same : hop = ip
      · cases made : i.generateFrame hop dgram with
        | error message =>
            have thrown : i.flush ip kept ((hop, dgram) :: rest) =
                (.error message, { i with arpPendingDatagrams := kept ++ (hop, dgram) :: rest }) := by
              simp only [flush, if_pos same, made, push]
            rw [thrown]
            refine ⟨[], kept ++ (hop, dgram) :: rest, List.forall_mem_nil _, by simp, ?_⟩
            intro returned
            cases returned
        | ok frame =>
            obtain ⟨frames, pending, data, state, emptied⟩ :=
              ih { i with framesOut := i.framesOut ++ [frame] } kept
            have here : i.flush ip kept ((hop, dgram) :: rest) =
                ({ i with framesOut := i.framesOut ++ [frame] } : NetworkInterface).flush ip kept rest := by
              simp only [flush, if_pos same, made, push]
            refine ⟨frame :: frames, pending, ?_, ?_, ?_⟩
            · exact List.forall_mem_cons.mpr ⟨generateFrame_type made, data⟩
            · rw [here, state]
              simp
            · intro returned
              rw [here] at returned
              rw [emptied returned]
              simp [forOthers, same]
      · obtain ⟨frames, pending, data, state, emptied⟩ := ih i (kept ++ [(hop, dgram)])
        have here : i.flush ip kept ((hop, dgram) :: rest) = i.flush ip (kept ++ [(hop, dgram)]) rest := by
          simp only [flush, if_neg same]
        refine ⟨frames, pending, data, by rw [here, state], ?_⟩
        intro returned
        rw [here] at returned
        rw [emptied returned]
        simp [forOthers, same]

section Calls

variable {i : NetworkInterface}

theorem learn_effect {own : UInt32} (address : i.ipAddress.ipv4 = some own) (message : ARPMessage) :
    ∃ frames pending, Data frames ∧
      (i.learn message).2 = { i with
        framesOut := i.framesOut ++ (i.replies message ++ frames)
        arpTable := i.taught message
        arpPendingIpAddresses := i.arpPendingIpAddresses.filter fun e => e.1 != message.senderIpAddress
        arpPendingDatagrams := pending } ∧
      ((i.learn message).1 = .ok () →
        pending = forOthers message.senderIpAddress i.arpPendingDatagrams) := by
  obtain ⟨frames, pending, data, state, emptied⟩ :=
    flush_effect message.senderIpAddress (i.toFlush message) [] i.arpPendingDatagrams
  rw [learn_flush message address]
  exact ⟨frames, pending, data, by rw [state]; simp [toFlush], emptied⟩

/-- The ways in which an operation changes the ARP state. -/
inductive Effect (i : NetworkInterface) : Operation → NetworkInterface → Prop
  | passes {dgram : InternetDatagram} {nextHop : Address} {frames : List EthernetFrame}
      {pending : List (UInt32 × InternetDatagram)} (data : Data frames) :
      Effect i (.sendDatagram dgram nextHop)
        { i with framesOut := i.framesOut ++ frames, arpPendingDatagrams := pending }
  | asks {dgram : InternetDatagram} {nextHop : Address} {ip : UInt32}
      {pending : List (UInt32 × InternetDatagram)} (unknown : i.arpTable ip = none) (new : ip ∉ asked i) :
      Effect i (.sendDatagram dgram nextHop) { i with
        framesOut := i.framesOut ++ i.arpFrames ip ARPMessage.opcodeRequest
        arpPendingIpAddresses := i.arpPendingIpAddresses ++ [(ip, defaultArpTimeout)]
        arpPendingDatagrams := pending }
  | ignores {frame : EthernetFrame} (nothing : i.heard frame = none) : Effect i (.recvFrame frame) i
  | learns {frame : EthernetFrame} {message : ARPMessage} {frames : List EthernetFrame}
      {pending : List (UInt32 × InternetDatagram)} (meant : i.heard frame = some message)
      (data : Data frames) :
      Effect i (.recvFrame frame) { i with
        framesOut := i.framesOut ++ (i.replies message ++ frames)
        arpTable := i.taught message
        arpPendingIpAddresses := i.arpPendingIpAddresses.filter fun e => e.1 != message.senderIpAddress
        arpPendingDatagrams := pending }
  | ticks {ms : Nat} :
      Effect i (.tick ms) { i with
        framesOut := i.framesOut ++ i.requests ms i.arpPendingIpAddresses
        arpTable := i.aged ms
        arpPendingIpAddresses := i.arpPendingIpAddresses.map (counted ms) }
  | fails {ms : Nat} {passed rest : List (UInt32 × Nat)} (foreign : i.ipAddress.ipv4 = none)
      (entries : i.arpPendingIpAddresses = passed ++ rest) :
      Effect i (.tick ms) { i with
        framesOut := i.framesOut ++ i.requests ms passed
        arpPendingIpAddresses := passed.map (counted ms) ++ rest }

theorem send_effect (i : NetworkInterface) (dgram : InternetDatagram) (nextHop : Address) :
    Effect i (.sendDatagram dgram nextHop) (i.sendDatagram dgram nextHop).2 := by
  have unchanged : Effect i (.sendDatagram dgram nextHop) i := by
    have idle := @Effect.passes i dgram nextHop [] i.arpPendingDatagrams (List.forall_mem_nil _)
    rwa [List.append_nil] at idle
  cases hop : nextHop.ipv4 with
  | none => simpa only [sendDatagram, Address.ipv4Numeric, hop] using unchanged
  | some ip =>
      cases known : i.arpTable ip with
      | some entry =>
          simp only [sendDatagram, Address.ipv4Numeric, hop, isIpKnown, known, Option.isSome_some, if_true]
          cases made : i.generateFrame ip dgram with
          | error message => exact unchanged
          | ok frame => exact .passes (List.forall_mem_singleton.mpr (generateFrame_type made))
      | none =>
          rw [sendDatagram_pends hop known]
          split
          case isTrue pending =>
            have waits := @Effect.passes i dgram nextHop [] (i.arpPendingDatagrams ++ [(ip, dgram)])
              (List.forall_mem_nil _)
            rwa [List.append_nil] at waits
          case isFalse new => exact .asks known new

/-- What an operation can do, said once. -/
theorem operate_effect (i : NetworkInterface) (op : Operation) : Effect i op (i.operate op) := by
  cases op with
  | sendDatagram dgram nextHop => exact send_effect i dgram nextHop
  | recvFrame frame =>
      rw [operate, recvFrame_state]
      split
      · rename_i message meant
        obtain ⟨frames, pending, data, state, _⟩ := learn_effect (heard_own meant) message
        rw [state]
        exact .learns meant data
      · rename_i nothing
        exact .ignores nothing
  | tick ms =>
      rw [operate]
      rcases i.tick_exact ms with returned | ⟨foreign, message, passed, rest, entries, thrown⟩
      · rw [returned]
        exact .ticks
      · rw [thrown]
        exact .fails foreign entries

theorem Effect.ipAddress {op : Operation} {j : NetworkInterface} (effect : Effect i op j) :
    j.ipAddress = i.ipAddress := by
  cases effect <;> rfl

end Calls

/-! ### Where the datagrams come from -/

section Holding

variable (P : InternetDatagram → Prop)

def Framed (frame : EthernetFrame) : Prop :=
  frame.header.type = EthernetHeader.typeIPv4 → ∃ dgram, P dgram ∧ dgram.serialize = .ok frame.payload

/-- All datagrams in the interface are of the kind. -/
structure Holding (i : NetworkInterface) : Prop where
  framed : ∀ frame ∈ i.framesOut, Framed P frame
  waiting : ∀ entry ∈ i.arpPendingDatagrams, P entry.2

variable {P} {i j : NetworkInterface}

theorem Framed.imp {Q : InternetDatagram → Prop} (weaker : ∀ dgram, P dgram → Q dgram) {frame : EthernetFrame}
    (framed : Framed P frame) : Framed Q frame := by
  intro type
  obtain ⟨dgram, given, serialized⟩ := framed type
  exact ⟨dgram, weaker dgram given, serialized⟩

theorem Holding.imp {Q : InternetDatagram → Prop} (weaker : ∀ dgram, P dgram → Q dgram) (holding : Holding P i) :
    Holding Q i :=
  ⟨fun frame member => Framed.imp weaker (holding.framed frame member),
    fun entry member => weaker entry.2 (holding.waiting entry member)⟩

theorem arp_framed {frame : EthernetFrame} (arp : frame.header.type = EthernetHeader.typeARP) : Framed P frame := by
  intro type
  rw [arp] at type
  cases type

theorem generateFrame_framed {ip : UInt32} {dgram : InternetDatagram} {frame : EthernetFrame} (given : P dgram)
    (made : i.generateFrame ip dgram = .ok frame) : Framed P frame := by
  obtain ⟨payload, serialized, packed⟩ := of_bind_ok made
  cases packed
  exact fun _ => ⟨dgram, given, serialized⟩

theorem Holding.asked (holding : Holding P i) (asked : Asked i j) : Holding P j := by
  obtain ⟨frames, appended, arp⟩ := asked.framesOut
  refine ⟨?_, ?_⟩
  · rw [appended]
    exact List.forall_mem_append.mpr ⟨holding.framed, fun frame member => arp_framed (arp frame member)⟩
  · rw [asked.arpPendingDatagrams]
    exact holding.waiting

theorem push_holding {ip : UInt32} {dgram : InternetDatagram} (given : P dgram) (holding : Holding P i) :
    Holding P (i.push (i.generateFrame ip dgram)).2 := by
  cases made : i.generateFrame ip dgram with
  | error message => exact holding
  | ok frame =>
      exact ⟨List.forall_mem_append.mpr ⟨holding.framed,
        List.forall_mem_singleton.mpr (generateFrame_framed given made)⟩, holding.waiting⟩

theorem flush_holding (ip : UInt32) (framed : ∀ frame ∈ i.framesOut, Framed P frame)
    (kept entries : List (UInt32 × InternetDatagram)) (passed : ∀ entry ∈ kept, P entry.2)
    (waiting : ∀ entry ∈ entries, P entry.2) : Holding P (i.flush ip kept entries).2 := by
  induction entries generalizing i kept with
  | nil => exact ⟨framed, passed⟩
  | cons entry rest ih =>
      obtain ⟨hop, dgram⟩ := entry
      obtain ⟨given, others⟩ := List.forall_mem_cons.mp waiting
      by_cases same : hop = ip
      · cases made : i.generateFrame hop dgram with
        | error message =>
            simp only [flush, if_pos same, made, push]
            exact ⟨framed, List.forall_mem_append.mpr ⟨passed, waiting⟩⟩
        | ok frame =>
            simp only [flush, if_pos same, made, push]
            exact ih (List.forall_mem_append.mpr ⟨framed,
              List.forall_mem_singleton.mpr (generateFrame_framed given made)⟩) kept passed others
      · simp only [flush, if_neg same]
        exact ih framed _ (List.forall_mem_append.mpr ⟨passed, List.forall_mem_singleton.mpr given⟩) others

/-- The interface puts no datagram into a frame but those that it has been given to send. -/
theorem operate_holding (holding : Holding P i) (op : Operation)
    (given : ∀ dgram nextHop, op = .sendDatagram dgram nextHop → P dgram) : Holding P (i.operate op) := by
  cases op with
  | sendDatagram dgram nextHop =>
      have handed := given dgram nextHop rfl
      rw [operate]
      cases hop : nextHop.ipv4 with
      | none =>
          simp only [sendDatagram, Address.ipv4Numeric, hop]
          exact holding
      | some ip =>
          cases known : i.arpTable ip with
          | some entry =>
              simp only [sendDatagram, Address.ipv4Numeric, hop, isIpKnown, known, Option.isSome_some, if_true]
              exact push_holding handed holding
          | none =>
              have waits : Holding P { i with arpPendingDatagrams := i.arpPendingDatagrams ++ [(ip, dgram)] } :=
                ⟨holding.framed, List.forall_mem_append.mpr
                  ⟨holding.waiting, List.forall_mem_singleton.mpr handed⟩⟩
              exact waits.asked (sendDatagram_unknown hop known)
  | recvFrame frame =>
      rw [operate, recvFrame_state]
      split
      · rename_i message meant
        rw [learn_flush message (heard_own meant)]
        refine flush_holding _ ?_ [] _ (List.forall_mem_nil _) holding.waiting
        exact List.forall_mem_append.mpr ⟨holding.framed, fun reply member => arp_framed (replies_type reply member)⟩
      · exact holding
  | tick ms =>
      rw [operate]
      rcases i.tick_outcome ms with returned | ⟨_, thrown⟩
      · have older : Holding P { i with arpTable := i.aged ms } := ⟨holding.framed, holding.waiting⟩
        exact older.asked returned
      · exact holding.asked thrown

end Holding

end Sponge.InterfaceEffects

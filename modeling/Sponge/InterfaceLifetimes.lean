import Sponge.InterfaceEffects
import Sponge.WireRoundTrips

/-! How long what an interface has learned stays in its table, when the frames that it receives are all IPv4
or ARP frames. -/

namespace Sponge.InterfaceLifetimes

open NetworkInterface InterfaceArp InterfaceEffects Transition

def Addressed (i : NetworkInterface) (frame : EthernetFrame) : Prop :=
  frame.header.dst = i.ethernetAddress ∨ frame.header.dst = .broadcast

instance (i : NetworkInterface) (frame : EthernetFrame) : Decidable (Addressed i frame) :=
  inferInstanceAs (Decidable (_ ∨ _))

/-- The supported message in an ARP frame for the interface, if it is the IP address of the interface that
the message is about. -/
def accepted (i : NetworkInterface) (frame : EthernetFrame) : Option ARPMessage :=
  if Addressed i frame then
    (carried frame).filter fun message =>
      message.supported && i.ipAddress.ipv4 == some message.targetIpAddress
  else none

/-- An interface, and what the accepted messages of each address said last, with the time of the ticks
since then. -/
structure Diary where
  interface : NetworkInterface
  latest : UInt32 → Option (EthernetAddress × Nat) := fun _ => none

def noting (d : Diary) : Operation → UInt32 → Option (EthernetAddress × Nat)
  | .sendDatagram .. => d.latest
  | .recvFrame frame =>
      match accepted d.interface frame with
      | some message =>
          Function.update d.latest message.senderIpAddress (some (message.senderEthernetAddress, 0))
      | none => d.latest
  | .tick ms => fun ip => (d.latest ip).map fun (mac, age) => (mac, age + ms)

def note (d : Diary) (op : Operation) : Diary where
  interface := d.interface.operate op
  latest := noting d op

def Typed (_ : Diary) : Operation → Prop
  | .recvFrame frame =>
      frame.header.type = EthernetHeader.typeIPv4 ∨ frame.header.type = EthernetHeader.typeARP
  | _ => True

def remaining (latest : Option (EthernetAddress × Nat)) : Option (EthernetAddress × Nat) :=
  latest.bind fun (mac, age) => if age < 30000 then some (mac, 30000 - age) else none

/-! ### Messages that are heard -/

theorem parse_supported {fresh message : ARPMessage} {b : Buffer}
    (parsed : fresh.parse b = (.noError, message)) : message.supported = true :=
  ARPMessage.serialize_supported (WireRoundTrips.arp_accepted parsed)

theorem accepted_heard (i : NetworkInterface) (frame : EthernetFrame) :
    accepted i frame = if frame.header.type = EthernetHeader.typeARP then i.heard frame else none := by
  by_cases arp : frame.header.type = EthernetHeader.typeARP
  case neg =>
    rw [accepted, carried, if_neg arp, if_neg arp]
    exact ite_self _
  have other : frame.header.type ≠ EthernetHeader.typeIPv4 := by
    rw [arp]
    decide
  rw [if_pos arp, accepted, heard, carried, if_pos arp]
  by_cases addressed : Addressed i frame
  case neg => rw [if_neg addressed, if_pos (not_or.mp addressed)]
  rw [if_pos addressed, if_neg (fun foreign => (not_or.mpr foreign) addressed)]
  cases frame.payload.toBuffer with
  | error message => rfl
  | ok buffer =>
      simp only [if_neg other]
      rcases parsed : ARPMessage.parse {} buffer with ⟨result, message⟩
      cases result with
      | noError => simp [Option.filter_some, parse_supported parsed]
      | _ => rfl

theorem typed_heard {i : NetworkInterface} {frame : EthernetFrame}
    (type : frame.header.type = EthernetHeader.typeIPv4 ∨ frame.header.type = EthernetHeader.typeARP) :
    accepted i frame = i.heard frame := by
  rw [accepted_heard]
  rcases type with ipv4 | arp
  · have other : frame.header.type ≠ EthernetHeader.typeARP := by
      rw [ipv4]
      decide
    rw [if_neg other, heard]
    split
    · rfl
    · cases frame.payload.toBuffer with
      | error message => rfl
      | ok buffer => rfl
  · rw [if_pos arp]

/-! ### The table -/

theorem remaining_expire (latest : Option (EthernetAddress × Nat)) (ms : Nat) :
    (remaining latest).bind (expire ms) = remaining (latest.map fun (mac, age) => (mac, age + ms)) := by
  cases latest with
  | none => rfl
  | some entry =>
      obtain ⟨mac, age⟩ := entry
      simp only [remaining, Option.bind_some, Option.map_some]
      by_cases fresh : age < 30000
      · rw [if_pos fresh, Option.bind_some, expire]
        by_cases later : age + ms < 30000
        · rw [if_neg (show ¬ 30000 - age ≤ ms by omega), if_pos later, Nat.sub_sub]
        · rw [if_pos (show 30000 - age ≤ ms by omega), if_neg later]
      · rw [if_neg fresh, if_neg (show ¬ age + ms < 30000 by omega), Option.bind_none]

theorem expire_expire (entry : Option (EthernetAddress × Nat)) (a b : Nat) :
    (entry.bind (expire a)).bind (expire b) = entry.bind (expire (a + b)) := by
  cases entry with
  | none => rfl
  | some entry =>
      obtain ⟨mac, ttl⟩ := entry
      simp only [Option.bind_some, expire]
      by_cases early : ttl ≤ a
      · rw [if_pos early, if_pos (show ttl ≤ a + b by omega), Option.bind_none]
      · rw [if_neg early, Option.bind_some, expire]
        by_cases late : ttl ≤ a + b
        · rw [if_pos (show ttl - a ≤ b by omega), if_pos late]
        · rw [if_neg (show ¬ ttl - a ≤ b by omega), if_neg late, Nat.sub_sub]

/-- The table is what the latest messages said, with the time that is left. -/
structure Current (i : NetworkInterface) (latest : UInt32 → Option (EthernetAddress × Nat)) : Prop where
  table : ∀ ip, i.arpTable ip = remaining (latest ip)
  deaf : i.ipAddress.ipv4 = none → ∀ ip, latest ip = none

theorem Current.step {d : Diary} {op : Operation} {j : NetworkInterface}
    (current : Current d.interface d.latest) (typed : Typed d op) (effect : Effect d.interface op j) :
    Current j (noting d op) := by
  obtain ⟨table, deaf⟩ := current
  have address := effect.ipAddress
  cases effect with
  | passes => exact ⟨table, deaf⟩
  | asks => exact ⟨table, deaf⟩
  | @ignores frame nothing =>
      have silent : noting d (.recvFrame frame) = d.latest := by
        simp only [noting, typed_heard typed, nothing]
      exact ⟨by rw [silent]; exact table, by rw [silent]; exact deaf⟩
  | @learns frame message frames pending meant data =>
      have learned : noting d (.recvFrame frame) = Function.update d.latest message.senderIpAddress
          (some (message.senderEthernetAddress, 0)) := by
        simp only [noting, typed_heard typed, meant]
      refine ⟨?_, ?_⟩
      · intro ip
        rw [learned]
        by_cases sender : ip = message.senderIpAddress
        · subst sender
          rw [Function.update_self]
          exact taught_sender d.interface message
        · rw [Function.update_of_ne sender, ← table]
          exact Function.update_of_ne sender _ _
      · intro foreign
        rw [address, heard_own meant] at foreign
        cases foreign
  | @ticks ms =>
      refine ⟨?_, ?_⟩
      · intro ip
        simp only [aged, noting, table, remaining_expire]
      · intro foreign ip
        simp only [noting, deaf foreign ip, Option.map_none]
  | @fails ms passed rest foreign entries =>
      have silent : ∀ ip, noting d (.tick ms) ip = d.latest ip := by
        intro ip
        simp only [noting, deaf foreign ip, Option.map_none]
      refine ⟨?_, ?_⟩
      · intro ip
        rw [silent]
        exact table ip
      · intro _ ip
        rw [silent]
        exact deaf foreign ip

theorem Current.tick_table {i : NetworkInterface} {latest : UInt32 → Option (EthernetAddress × Nat)}
    (current : Current i latest) (ms : Nat) : (i.tick ms).2.arpTable = i.aged ms := by
  -- the table ages in every tick: one that throws finds it empty
  rcases i.tick_exact ms with returned | ⟨foreign, _, _, _, _, thrown⟩
  · rw [returned]
  · rw [thrown]
    funext ip
    have empty : i.arpTable ip = none := by
      rw [current.table ip, current.deaf foreign ip]
      rfl
    rw [aged_unknown ms empty, empty]

theorem reachable_current {ethernetAddress : EthernetAddress} {ipAddress : Address} {d : Diary}
    (reached : Reachable note Typed { interface := { ethernetAddress, ipAddress } } d) :
    Current d.interface d.latest := by
  induction reached with
  | start => exact ⟨fun _ => rfl, fun _ _ => rfl⟩
  | @next d op _ typed ih => exact ih.step typed (operate_effect d.interface op)

/-- An address is in the table exactly while less than thirty seconds of ticks have passed since the latest
message that was accepted from it, with the Ethernet address of that message; and it does not matter how
the time is split into ticks. -/
theorem mappings_live_thirty_seconds {ethernetAddress : EthernetAddress} {ipAddress : Address} {d : Diary}
    (reached : Reachable note Typed { interface := { ethernetAddress, ipAddress } } d) :
    (∀ ip mac, (∃ ttl, d.interface.arpTable ip = some (mac, ttl)) ↔
        ∃ age < 30000, d.latest ip = some (mac, age)) ∧
      ∀ a b, ((d.interface.tick a).2.tick b).2.arpTable = (d.interface.tick (a + b)).2.arpTable := by
  have current := reachable_current reached
  refine ⟨?_, ?_⟩
  · intro ip mac
    rw [current.table ip]
    constructor
    · rintro ⟨ttl, known⟩
      obtain ⟨⟨_, age⟩, last, fresh⟩ := Option.bind_eq_some_iff.mp known
      dsimp only at fresh
      split at fresh
      case isTrue young =>
        cases fresh
        exact ⟨age, young, last⟩
      case isFalse => cases fresh
    · rintro ⟨age, young, last⟩
      rw [last]
      exact ⟨30000 - age, if_pos young⟩
  · intro a b
    have first := current.tick_table a
    have typed : Typed d (.tick a) := trivial
    have next : Reachable note Typed { interface := { ethernetAddress, ipAddress } } (note d (.tick a)) :=
      .next (.tick a) reached typed
    have second : ((d.interface.tick a).2.tick b).2.arpTable = (d.interface.tick a).2.aged b :=
      (reachable_current next).tick_table b
    rw [second, current.tick_table]
    funext ip
    simp only [aged, first, expire_expire]

theorem greetings_expire :
    let d := InterfaceLedger.greetings.foldl note { interface := InterfaceLedger.host.interface }
    d.latest 0x0a000002 = some (InterfaceLedger.answer.header.src, 0) ∧
      (∃ ttl, d.interface.arpTable 0x0a000002 = some (InterfaceLedger.answer.header.src, ttl)) ∧
      ((d.interface.tick 29999).2.tick 1).2.arpTable 0x0a000002 = none ∧
      ((d.interface.tick 29999).2.tick 1).2.arpTable = (d.interface.tick (29999 + 1)).2.arpTable := by
  intro d
  have reached : Reachable note Typed { interface := InterfaceLedger.host.interface } d :=
    reachable_run InterfaceLedger.greetings ⟨trivial, trivial, .inr rfl, trivial, trivial⟩
  obtain ⟨lives, split⟩ := mappings_live_thirty_seconds reached
  have last : d.latest 0x0a000002 = some (InterfaceLedger.answer.header.src, 0) := by decide +kernel
  exact ⟨last, (lives _ _).mpr ⟨0, by decide, last⟩, by decide +kernel, split 29999 1⟩

end Sponge.InterfaceLifetimes

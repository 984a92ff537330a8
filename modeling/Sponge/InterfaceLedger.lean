import Sponge.InterfaceCalls
import Sponge.Transition

/-! What became of every datagram that was given to a network interface.

The ledger runs beside the interface. It reads the calls and the frames that appear in the queue, which
nobody empties here, so that the queue holds every frame ever pushed. -/

namespace Sponge.InterfaceLedger

open NetworkInterface Transition

/-- The Ethernet address last learned for each IP address, and the time since then. -/
abbrev Learned := UInt32 → Option (EthernetAddress × Nat)

structure Ledger where
  interface : NetworkInterface
  /-- The datagrams given to `send_datagram`, each with its next hop. -/
  handed : List (UInt32 × InternetDatagram) := []
  learned : Learned := fun _ => none
  /-- The IPv4 frames, each with what was learned when it was pushed. -/
  log : List (EthernetFrame × Learned) := []

def opened (ethernetAddress : EthernetAddress) (ipAddress : Address) : Ledger where
  interface := { ethernetAddress, ipAddress }

/-- `send_datagram` throws at once, and takes nothing, when the next hop has no IPv4 address. -/
def handing : Operation → List (UInt32 × InternetDatagram)
  | .sendDatagram dgram nextHop => (nextHop.ipv4.map fun ip => (ip, dgram)).toList
  | _ => []

def learning (i : NetworkInterface) (learned : Learned) : Operation → Learned
  | .sendDatagram .. => learned
  | .recvFrame frame =>
      match i.heard frame with
      | some message =>
          Function.update learned message.senderIpAddress (some (message.senderEthernetAddress, 0))
      | none => learned
  | .tick ms => fun ip => (learned ip).map fun (mac, age) => (mac, age + ms)

def isIPv4 (frame : EthernetFrame) : Bool := frame.header.type == EthernetHeader.typeIPv4

def record (l : Ledger) (op : Operation) : Ledger :=
  let interface := l.interface.operate op
  let learned := learning l.interface l.learned op
  let pushed := interface.framesOut.drop l.interface.framesOut.length
  { interface, learned
    handed := l.handed ++ handing op
    log := l.log ++ (pushed.filter isIPv4).map fun frame => (frame, learned) }

def Proper (_ : Ledger) : Operation → Prop
  | .sendDatagram dgram _ => dgram.Serializable
  | _ => True

/-- A logged frame carries the datagram of an entry to the Ethernet address last learned for the entry's
next hop. -/
def Carries (entry : UInt32 × InternetDatagram) (logged : EthernetFrame × Learned) : Prop :=
  entry.2.serialize = .ok logged.1.payload ∧
    ∃ age < 30000, logged.2 entry.1 = some (logged.1.header.dst, age)

/-- `sent` says which entry each logged frame carries: together with the datagrams that wait, these are
the entries handed over, each of them once and in the same order for every next hop. -/
structure Accounted (l : Ledger) (sent : List (UInt32 × InternetDatagram)) : Prop where
  logged : l.log.map Prod.fst = l.interface.framesOut.filter isIPv4
  carried : List.Forall₂ Carries sent l.log
  once : l.handed.Perm (sent ++ l.interface.arpPendingDatagrams)
  ordered : ∀ hop, forHop hop l.handed = forHop hop sent ++ forHop hop l.interface.arpPendingDatagrams

/-! ### The invariant -/

/-- What the interface knows is what was learned, with the time that is left to it, and no datagram waits
for an address that is known. -/
structure Coherent (i : NetworkInterface) (learned : Learned) : Prop where
  fresh : ∀ ip mac ttl, i.arpTable ip = some (mac, ttl) →
    0 < ttl ∧ ∃ age, age + ttl ≤ defaultArpTtl ∧ learned ip = some (mac, age)
  deaf : i.ipAddress.ipv4 = none → ∀ ip, i.arpTable ip = none
  serializable : ∀ entry ∈ i.arpPendingDatagrams, entry.2.Serializable
  unknown : ∀ entry ∈ i.arpPendingDatagrams, i.arpTable entry.1 = none

section Entries

variable {hop : UInt32} {entries others : List (UInt32 × InternetDatagram)}

@[simp] theorem forHop_append : forHop hop (entries ++ others) = forHop hop entries ++ forHop hop others :=
  List.filter_append ..

theorem forHop_split (hop ip : UInt32) (entries : List (UInt32 × InternetDatagram)) :
    forHop hop (forHop ip entries) ++ forHop hop (forOthers ip entries) = forHop hop entries := by
  simp only [forHop, forOthers, List.filter_filter]
  by_cases same : hop = ip
  · subst same
    have nobody : entries.filter (fun e => e.1 == hop && e.1 != hop) = [] := by simp
    rw [nobody, List.append_nil]
    simp only [Bool.and_self]
  · have nobody : entries.filter (fun e => e.1 == hop && e.1 == ip) = [] := by
      simp only [List.filter_eq_nil_iff, Bool.and_eq_true, beq_iff_eq]
      rintro entry _ ⟨first, second⟩
      exact same (first.symm.trans second)
    rw [nobody, List.nil_append]
    apply List.filter_congr
    intro entry _
    by_cases here : entry.1 = hop
    · simp [here, same]
    · simp [here]

theorem perm_of_forHop (same : ∀ hop, forHop hop entries = forHop hop others) : entries.Perm others := by
  have counted : ∀ (list : List (UInt32 × InternetDatagram)) entry,
      (forHop entry.1 list).count entry = list.count entry :=
    fun list entry => List.count_filter (beq_self_eq_true entry.1)
  apply List.perm_iff_count.mpr
  intro entry
  rw [← counted entries, same, counted]

end Entries

variable {l : Ledger} {op : Operation} {sent : List (UInt32 × InternetDatagram)}

theorem Accounted.settle (accounted : Accounted l sent) (fresh : List (UInt32 × InternetDatagram))
    {frames : List EthernetFrame}
    (pushed : (l.interface.operate op).framesOut = l.interface.framesOut ++ frames)
    (carried : List.Forall₂ Carries fresh
      ((frames.filter isIPv4).map fun frame => (frame, learning l.interface l.learned op)))
    (ordered : ∀ hop, forHop hop l.interface.arpPendingDatagrams ++ forHop hop (handing op) =
      forHop hop fresh ++ forHop hop (l.interface.operate op).arpPendingDatagrams) :
    Accounted (record l op) (sent ++ fresh) := by
  -- how one call keeps the books: the new IPv4 frames carry `fresh`, which was handed over just now or waited
  -- before
  have log : (record l op).log = l.log ++
      (frames.filter isIPv4).map fun frame => (frame, learning l.interface l.learned op) := by
    simp only [record, pushed, List.drop_left]
  have inOrder : ∀ hop, forHop hop (l.handed ++ handing op) =
      forHop hop (sent ++ fresh) ++ forHop hop (l.interface.operate op).arpPendingDatagrams := by
    intro hop
    calc forHop hop (l.handed ++ handing op)
        = forHop hop sent ++ (forHop hop l.interface.arpPendingDatagrams ++ forHop hop (handing op)) := by
          rw [forHop_append, accounted.ordered, List.append_assoc]
      _ = forHop hop (sent ++ fresh) ++ forHop hop (l.interface.operate op).arpPendingDatagrams := by
          rw [ordered, forHop_append, List.append_assoc]
  refine ⟨?_, ?_, ?_, inOrder⟩
  · rw [log, List.map_append, accounted.logged]
    simp only [record, pushed, List.filter_append, List.map_map]
    exact congrArg _ (List.map_id _)
  · rw [log]
    exact List.rel_append accounted.carried carried
  · apply perm_of_forHop
    intro hop
    exact (inOrder hop).trans forHop_append.symm

theorem nothing_of_arp {frames : List EthernetFrame}
    (arp : ∀ frame ∈ frames, frame.header.type = EthernetHeader.typeARP) : frames.filter isIPv4 = [] := by
  apply List.filter_eq_nil_iff.mpr
  intro frame member
  rw [isIPv4, arp frame member]
  decide

theorem Accounted.idle (accounted : Accounted l sent) {before : NetworkInterface}
    (asked : Asked before (l.interface.operate op)) (queue : before.framesOut = l.interface.framesOut)
    (ordered : before.arpPendingDatagrams = l.interface.arpPendingDatagrams ++ handing op) :
    Accounted (record l op) sent := by
  obtain ⟨frames, pushed, arp⟩ := asked.framesOut
  rw [queue] at pushed
  have carried : List.Forall₂ Carries []
      ((frames.filter isIPv4).map fun frame => (frame, learning l.interface l.learned op)) := by
    rw [nothing_of_arp arp]
    exact .nil
  have books := accounted.settle [] pushed carried (by
    intro hop
    rw [asked.arpPendingDatagrams, ordered, forHop_append]
    rfl)
  rwa [List.append_nil] at books

theorem Coherent.asked {before after : NetworkInterface} {learned : Learned}
    (coherent : Coherent before learned) (asked : Asked before after) : Coherent after learned := by
  obtain ⟨fresh, deaf, serializable, unknown⟩ := coherent
  refine ⟨?_, ?_, ?_, ?_⟩
  · rwa [asked.arpTable]
  · rwa [asked.arpTable, asked.ipAddress]
  · rwa [asked.arpPendingDatagrams]
  · rwa [asked.arpTable, asked.arpPendingDatagrams]

/-! ### The calls -/

theorem dataFrame_carries {i : NetworkInterface} {learned : Learned} {ip : UInt32} {mac : EthernetAddress}
    {age : Nat} {dgram : InternetDatagram} (serializable : dgram.Serializable) (recent : age < 30000)
    (known : learned ip = some (mac, age)) : Carries (ip, dgram) (i.dataFrame mac dgram, learned) :=
  ⟨IPv4Datagram.serialize_serializable serializable, age, recent, known⟩

theorem Coherent.nobody_waits {i : NetworkInterface} {learned : Learned} (coherent : Coherent i learned)
    {ip : UInt32} {entry : EthernetAddress × Nat} (known : i.arpTable ip = some entry) :
    forHop ip i.arpPendingDatagrams = [] := by
  apply List.filter_eq_nil_iff.mpr
  intro waiting member here
  have absent := coherent.unknown waiting member
  rw [beq_iff_eq.mp here, known] at absent
  cases absent

theorem send_known {dgram : InternetDatagram} {nextHop : Address} {ip : UInt32} {mac : EthernetAddress}
    {ttl : Nat} (coherent : Coherent l.interface l.learned) (accounted : Accounted l sent)
    (serializable : dgram.Serializable) (hop : nextHop.ipv4 = some ip)
    (known : l.interface.arpTable ip = some (mac, ttl)) :
    Coherent (record l (.sendDatagram dgram nextHop)).interface l.learned ∧
      Accounted (record l (.sendDatagram dgram nextHop)) (sent ++ [(ip, dgram)]) := by
  have sends : l.interface.operate (.sendDatagram dgram nextHop) = { l.interface with
      framesOut := l.interface.framesOut ++ [l.interface.dataFrame mac dgram] } := by
    rw [operate, sendDatagram_known hop known serializable]
  obtain ⟨left, age, bound, learned⟩ := coherent.fresh ip mac ttl known
  have recent : age < 30000 := by
    rw [defaultArpTtl] at bound
    omega
  constructor
  · simp only [record, sends]
    exact ⟨coherent.fresh, coherent.deaf, coherent.serializable, coherent.unknown⟩
  · refine accounted.settle _ (by rw [sends]) ?_ ?_
    · exact .cons (dataFrame_carries serializable recent learned) .nil
    · intro other
      by_cases same : ip = other
      · subst same
        simp [sends, coherent.nobody_waits known, handing, hop]
      · simp [sends, handing, hop, forHop, same]

theorem send_unknown {dgram : InternetDatagram} {nextHop : Address} {ip : UInt32}
    (coherent : Coherent l.interface l.learned) (accounted : Accounted l sent)
    (serializable : dgram.Serializable) (hop : nextHop.ipv4 = some ip)
    (unknown : l.interface.arpTable ip = none) :
    Coherent (record l (.sendDatagram dgram nextHop)).interface l.learned ∧
      Accounted (record l (.sendDatagram dgram nextHop)) sent := by
  have asked : Asked { l.interface with
      arpPendingDatagrams := l.interface.arpPendingDatagrams ++ [(ip, dgram)] }
      (l.interface.operate (.sendDatagram dgram nextHop)) := sendDatagram_unknown hop unknown
  refine ⟨Coherent.asked ?_ asked, accounted.idle asked rfl (by simp [handing, hop])⟩
  exact ⟨coherent.fresh, coherent.deaf,
    List.forall_mem_append.mpr ⟨coherent.serializable, List.forall_mem_singleton.mpr serializable⟩,
    List.forall_mem_append.mpr ⟨coherent.unknown, List.forall_mem_singleton.mpr unknown⟩⟩

theorem send_step (dgram : InternetDatagram) (nextHop : Address) (coherent : Coherent l.interface l.learned)
    (accounted : Accounted l sent) (serializable : dgram.Serializable) :
    Coherent (record l (.sendDatagram dgram nextHop)).interface l.learned ∧
      ∃ sent, Accounted (record l (.sendDatagram dgram nextHop)) sent := by
  cases hop : nextHop.ipv4 with
  | none =>
      have asked : Asked l.interface (l.interface.operate (.sendDatagram dgram nextHop)) := by
        simp only [operate, sendDatagram, Address.ipv4Numeric, hop]
        exact .refl _
      exact ⟨coherent.asked asked, sent, accounted.idle asked rfl (by simp [handing, hop])⟩
  | some ip =>
      cases known : l.interface.arpTable ip with
      | none =>
          obtain ⟨kept, books⟩ := send_unknown coherent accounted serializable hop known
          exact ⟨kept, sent, books⟩
      | some entry =>
          obtain ⟨kept, books⟩ := send_known coherent accounted serializable hop known
          exact ⟨kept, _, books⟩

section Learning

variable {i after : NetworkInterface} {message : ARPMessage}

theorem Coherent.learnt {learned : Learned} (coherent : Coherent i learned) (own : i.ipAddress.ipv4 ≠ none)
    (learnt : Learnt i message after) :
    Coherent after (Function.update learned message.senderIpAddress
      (some (message.senderEthernetAddress, 0))) := by
  have others : ∀ entry ∈ after.arpPendingDatagrams,
      entry ∈ i.arpPendingDatagrams ∧ entry.1 ≠ message.senderIpAddress := by
    intro entry member
    rw [learnt.arpPendingDatagrams] at member
    simpa [forOthers] using member
  refine ⟨?_, ?_, ?_, ?_⟩
  · intro ip mac ttl
    rw [learnt.arpTable, taught]
    by_cases sender : ip = message.senderIpAddress
    · subst sender
      simp only [Function.update_self]
      intro known
      cases known
      exact ⟨by decide, 0, by decide, rfl⟩
    · simp only [Function.update_of_ne sender]
      exact coherent.fresh ip mac ttl
  · intro foreign
    rw [learnt.ipAddress] at foreign
    exact absurd foreign own
  · intro entry member
    exact coherent.serializable entry (others entry member).1
  · intro entry member
    rw [learnt.arpTable, taught, Function.update_of_ne (others entry member).2]
    exact coherent.unknown entry (others entry member).1

theorem Learnt.carries {learned : Learned}
    (serializable : ∀ entry ∈ i.arpPendingDatagrams, entry.2.Serializable)
    (known : learned message.senderIpAddress = some (message.senderEthernetAddress, 0))
    {replies : List EthernetFrame} (arp : ∀ frame ∈ replies, frame.header.type = EthernetHeader.typeARP) :
    List.Forall₂ Carries (forHop message.senderIpAddress i.arpPendingDatagrams)
      (((replies ++ (forHop message.senderIpAddress i.arpPendingDatagrams).map fun entry =>
        i.dataFrame message.senderEthernetAddress entry.2).filter isIPv4).map
          fun frame => (frame, learned)) := by
  have data : ∀ frame ∈ (forHop message.senderIpAddress i.arpPendingDatagrams).map
      (fun entry => i.dataFrame message.senderEthernetAddress entry.2), isIPv4 frame := by
    intro frame member
    obtain ⟨entry, _, rfl⟩ := List.mem_map.mp member
    rfl
  rw [List.filter_append, nothing_of_arp arp, List.nil_append, List.filter_eq_self.mpr data, List.map_map,
    List.forall₂_map_right_iff, List.forall₂_same]
  intro entry member
  obtain ⟨present, hop⟩ := List.mem_filter.mp member
  rw [← beq_iff_eq.mp hop] at known
  exact dataFrame_carries (serializable entry present) (by decide) known

end Learning

theorem recv_step (frame : EthernetFrame) (coherent : Coherent l.interface l.learned)
    (accounted : Accounted l sent) :
    Coherent (record l (.recvFrame frame)).interface (record l (.recvFrame frame)).learned ∧
      ∃ sent, Accounted (record l (.recvFrame frame)) sent := by
  have state : l.interface.operate (.recvFrame frame) = _ := l.interface.recvFrame_state frame
  cases meant : l.interface.heard frame with
  | none =>
      simp only [meant] at state
      have asked : Asked l.interface (l.interface.operate (.recvFrame frame)) := by
        rw [state]
        exact .refl _
      refine ⟨?_, sent, accounted.idle asked rfl (List.append_nil _).symm⟩
      simpa only [record, learning, meant] using coherent.asked asked
  | some message =>
      simp only [meant] at state
      have own : l.interface.ipAddress.ipv4 = some message.targetIpAddress := heard_own meant
      have learnt : Learnt l.interface message (l.interface.operate (.recvFrame frame)) := by
        rw [state]
        exact (learn_outcome message own coherent.serializable).2
      obtain ⟨replies, pushed, arp⟩ := learnt.framesOut
      refine ⟨?_, sent ++ forHop message.senderIpAddress l.interface.arpPendingDatagrams, ?_⟩
      · simpa only [record, learning, meant] using coherent.learnt (by simp [own]) learnt
      · refine accounted.settle _ pushed (Learnt.carries coherent.serializable ?_ arp) ?_
        · simp [learning, meant]
        · intro hop
          rw [learnt.arpPendingDatagrams, forHop_split]
          exact List.append_nil _

theorem Coherent.aged {i : NetworkInterface} {learned : Learned} (coherent : Coherent i learned) (ms : Nat) :
    Coherent { i with arpTable := i.aged ms } (learning i learned (.tick ms)) := by
  obtain ⟨fresh, deaf, serializable, unknown⟩ := coherent
  refine ⟨?_, ?_, serializable, ?_⟩
  · intro ip mac ttl known
    obtain ⟨held, positive⟩ := aged_some known
    obtain ⟨_, age, bound, learned⟩ := fresh ip mac _ held
    refine ⟨positive, age + ms, by omega, ?_⟩
    simp [learning, learned]
  · exact fun foreign ip => aged_unknown ms (deaf foreign ip)
  · exact fun entry member => aged_unknown ms (unknown entry member)

theorem tick_step (ms : Nat) (coherent : Coherent l.interface l.learned) (accounted : Accounted l sent) :
    Coherent (record l (.tick ms)).interface (record l (.tick ms)).learned ∧
      Accounted (record l (.tick ms)) sent := by
  rcases l.interface.tick_outcome ms with asked | ⟨foreign, asked⟩
  · exact ⟨(coherent.aged ms).asked asked, accounted.idle asked rfl (List.append_nil _).symm⟩
  · have deaf : ∀ ip, l.interface.arpTable ip = none := coherent.deaf foreign
    have silent : l.interface.aged ms = l.interface.arpTable := by
      funext ip
      rw [aged_unknown ms (deaf ip), deaf]
    have kept := coherent.aged ms
    rw [silent] at kept
    exact ⟨kept.asked asked, accounted.idle asked rfl (List.append_nil _).symm⟩

/-- Along every run the interface neither loses, duplicates nor reorders datagrams, and each one goes to the
Ethernet address last learned for its next hop, less than thirty seconds of ticks ago. -/
theorem datagrams_kept_in_order (ethernetAddress : EthernetAddress) (ipAddress : Address)
    (reached : Reachable record Proper (opened ethernetAddress ipAddress) l) :
    ∃ sent, Accounted l sent := by
  have both : Coherent l.interface l.learned ∧ ∃ sent, Accounted l sent := by
    refine reachable_invariant (P := fun l => Coherent l.interface l.learned ∧ ∃ sent, Accounted l sent)
      ?_ ?_ reached
    · refine ⟨⟨?_, fun _ _ => rfl, List.forall_mem_nil _, List.forall_mem_nil _⟩, [], rfl, .nil, .nil,
        fun _ => rfl⟩
      intro ip mac ttl known
      cases known
    · rintro l op ⟨coherent, sent, accounted⟩ proper
      cases op with
      | sendDatagram dgram nextHop => exact send_step dgram nextHop coherent accounted proper
      | recvFrame frame => exact recv_step frame coherent accounted
      | tick ms =>
          obtain ⟨kept, books⟩ := tick_step ms coherent accounted
          exact ⟨kept, _, books⟩
  exact both.2

def host : Ledger := opened #v[2, 0, 0, 0, 0, 1] (.fromIpv4Numeric 0x0a000001)

def greeting : InternetDatagram := { header := { len := 20 } }

def answer : EthernetFrame where
  header := ⟨#v[2, 0, 0, 0, 0, 1], #v[2, 0, 0, 0, 0, 2], EthernetHeader.typeARP⟩
  payload := .ofBuffer [0, 1, 8, 0, 6, 4, 0, 2, 2, 0, 0, 0, 0, 2, 10, 0, 0, 2, 2, 0, 0, 0, 0, 1, 10, 0, 0, 1]

def greetings : List Operation :=
  [.sendDatagram greeting (.fromIpv4Numeric 0x0a000002), .tick 6000, .recvFrame answer,
    .sendDatagram greeting (.fromIpv4Numeric 0x0a000002)]

theorem greetings_arrive : (greetings.foldl record host).log.length = 2 ∧
    ∃ sent, Accounted (greetings.foldl record host) sent := by
  have serializable : greeting.Serializable := by decide
  have reached : Reachable record Proper host (greetings.foldl record host) :=
    reachable_run greetings ⟨serializable, trivial, trivial, serializable, trivial⟩
  exact ⟨by decide +kernel, datagrams_kept_in_order _ _ reached⟩

end Sponge.InterfaceLedger

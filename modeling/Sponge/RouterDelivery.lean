import Sponge.RouterSafety
import Sponge.RouterSelection

/-! The calls of `send_datagram` that `route` makes: one for each queued datagram that is forwarded, and
nothing else happens to the interfaces. -/

namespace Sponge.RouterDelivery

open Router RouterSafety RouterSelection

structure Send where
  interfaceNum : Nat
  dgram : InternetDatagram
  nextHop : Address
  deriving DecidableEq

/-! ### One datagram -/

def routeOneDatagramLogged (r : Router) (dgram : InternetDatagram) :
    List Send × Except String Unit × InternetDatagram × Router :=
  if dgram.header.ttl ≤ 1 then ([], .ok (), dgram, r)
  else
    match r.target dgram.header.dst with
    | none => ([], .error "end of the routing table dereferenced", dgram, r)
    | some target =>
        match r.routingTable[target]? with
        | none => ([], .ok (), dgram, r)
        | some route =>
            let dgram := decrementTtl dgram
            let nextHop := match route.nextHop with
              | some nextHop => nextHop
              | none => .fromIpv4Numeric dgram.header.dst
            let (result, r) := r.onInterface route.interfaceNum (·.sendDatagram dgram nextHop)
            ([⟨route.interfaceNum, dgram, nextHop⟩], result, dgram, r)

theorem routeOneDatagramLogged_erase (r : Router) (dgram : InternetDatagram) :
    (routeOneDatagramLogged r dgram).2 = r.routeOneDatagram dgram := by
  unfold routeOneDatagramLogged routeOneDatagram
  split
  · rfl
  · cases r.target dgram.header.dst with
    | none => rfl
    | some target =>
        dsimp only
        cases r.routingTable[target]? with
        | none => rfl
        | some route => rfl

/-! ### The plan -/

def selected (table : List RoutingTableEntry) (dst : UInt32) : Option RoutingTableEntry :=
  (scan table dst table.length 0 table).bind fun target => table[target]?

def planned (table : List RoutingTableEntry) (dgram : InternetDatagram) : Option Send :=
  if dgram.header.ttl ≤ 1 then none
  else (selected table dgram.header.dst).map fun route =>
    ⟨route.interfaceNum, decrementTtl dgram, route.nextHop.getD (.fromIpv4Numeric dgram.header.dst)⟩

/-- The calls for all queued datagrams: interface by interface, each queue from its front. -/
def plan (r : Router) : List Send :=
  (List.range r.interfaces.length).flatMap fun n => (r.queue n).filterMap (planned r.routingTable)

theorem selected_target {r : Router} {dst : UInt32} {found : Nat} (scanned : r.target dst = some found) :
    selected r.routingTable dst = r.routingTable[found]? := by
  rw [target] at scanned
  rw [selected, scanned, Option.bind_some]

theorem selected_none_iff (table : List RoutingTableEntry) (dst : UInt32) :
    selected table dst = none ↔ ∀ entry ∈ table, ¬ Selects entry dst := by
  obtain ⟨found, scanned, best⟩ := target_best { routingTable := table } dst
  rw [show selected table dst = table[found]? from selected_target scanned]
  cases best with
  | unset atEnd unmatched =>
      have outside : table[found]? = none := by rw [atEnd, List.getElem?_length]
      refine iff_of_true outside ?_
      intro entry member
      obtain ⟨place, located⟩ := List.getElem?_of_mem member
      exact unmatched place (List.getElem?_eq_some_iff.mp located).1 entry located
  | set best _ located matching _ =>
      constructor
      · intro outside
        cases located.symm.trans outside
      · intro unmatched
        exact absurd matching (unmatched best (List.mem_of_getElem? located))

theorem routeOneDatagramLogged_calls (r : Router) (dgram : InternetDatagram) :
    (routeOneDatagramLogged r dgram).1 = (planned r.routingTable dgram).toList := by
  unfold routeOneDatagramLogged planned
  split
  · rfl
  · obtain ⟨found, scanned⟩ := r.target_defined dgram.header.dst
    rw [selected_target scanned, scanned]
    dsimp only
    cases r.routingTable[found]? with
    | none => rfl
    | some route =>
        simp only [Option.map_some, Option.toList_some]
        cases route.nextHop <;> rfl

theorem routeOneDatagram_planned (r : Router) (dgram : InternetDatagram) :
    r.routeOneDatagram dgram =
      match planned r.routingTable dgram with
      | none => (.ok (), dgram, r)
      | some send =>
          let (result, r) := r.onInterface send.interfaceNum (·.sendDatagram send.dgram send.nextHop)
          (result, send.dgram, r) := by
  by_cases old : dgram.header.ttl ≤ 1
  · simp only [routeOneDatagram, planned, if_pos old]
  · obtain ⟨found, scanned⟩ := r.target_defined dgram.header.dst
    cases located : r.routingTable[found]? with
    | none =>
        simp only [routeOneDatagram, planned, if_neg old, scanned, located, selected_target scanned,
          Option.map_none]
    | some route =>
        simp only [routeOneDatagram, planned, if_neg old, scanned, located, selected_target scanned,
          Option.map_some]
        cases route.nextHop <;> rfl

/-! ### Making calls -/

/-- The interfaces without their queues. -/
def ports (r : Router) : List NetworkInterface := r.interfaces.map (·.toNetworkInterface)

def Send.call (send : Send) (interfaces : List NetworkInterface) : Except String Unit × List NetworkInterface :=
  match interfaces[send.interfaceNum]? with
  | none => (.error "no such interface", interfaces)
  | some i =>
      let (result, i) := i.sendDatagram send.dgram send.nextHop
      (result, interfaces.set send.interfaceNum i)

/-- Makes the calls in order, up to the first one that throws. -/
def makeCalls : List Send → List NetworkInterface → Except String Unit × List NetworkInterface
  | [], interfaces => (.ok (), interfaces)
  | send :: rest, interfaces =>
      match send.call interfaces with
      | (.ok (), interfaces) => makeCalls rest interfaces
      | (.error message, interfaces) => (.error message, interfaces)

section Calls

variable {interfaces met : List NetworkInterface} {send : Send} {first second : List Send} {message : String}

theorem makeCalls_returned (called : send.call interfaces = (.ok (), met)) :
    makeCalls (send :: second) interfaces = makeCalls second met := by
  rw [makeCalls, called]

theorem makeCalls_thrown (called : send.call interfaces = (.error message, met)) :
    makeCalls (send :: second) interfaces = (.error message, met) := by
  rw [makeCalls, called]

theorem makeCalls_single (send : Send) (interfaces : List NetworkInterface) :
    makeCalls [send] interfaces = send.call interfaces := by
  rcases called : send.call interfaces with ⟨message | ⟨⟩, met⟩
  · exact makeCalls_thrown called
  · exact makeCalls_returned called

theorem makeCalls_append (made : makeCalls first interfaces = (.ok (), met)) :
    makeCalls (first ++ second) interfaces = makeCalls second met := by
  induction first generalizing interfaces with
  | nil =>
      cases made
      rfl
  | cons send rest ih =>
      rcases called : send.call interfaces with ⟨message | ⟨⟩, after⟩
      · rw [makeCalls_thrown called] at made
        cases made
      · rw [makeCalls_returned called] at made
        rw [List.cons_append, makeCalls_returned called, ih made]

theorem makeCalls_append_thrown (made : makeCalls first interfaces = (.error message, met)) :
    makeCalls (first ++ second) interfaces = (.error message, met) := by
  induction first generalizing interfaces with
  | nil => cases made
  | cons send rest ih =>
      rcases called : send.call interfaces with ⟨other | ⟨⟩, after⟩
      · rw [makeCalls_thrown called] at made
        rw [List.cons_append, makeCalls_thrown called, made]
      · rw [makeCalls_returned called] at made
        rw [List.cons_append, makeCalls_returned called, ih made]

theorem call_returned (called : send.call interfaces = (.ok (), met)) :
    ∃ i, interfaces[send.interfaceNum]? = some i ∧ (i.sendDatagram send.dgram send.nextHop).1 = .ok () ∧
      met = interfaces.set send.interfaceNum (i.sendDatagram send.dgram send.nextHop).2 := by
  unfold Send.call at called
  cases present : interfaces[send.interfaceNum]? with
  | none =>
      rw [present] at called
      cases called
  | some i =>
      rw [present] at called
      obtain ⟨result, rfl⟩ := Prod.mk.inj called
      exact ⟨i, rfl, result, rfl⟩

theorem makeCalls_cut (made : (makeCalls (first ++ send :: second) interfaces).1 = .ok ()) :
    ∃ met after, makeCalls first interfaces = (.ok (), met) ∧ send.call met = (.ok (), after) := by
  rcases before : makeCalls first interfaces with ⟨message | ⟨⟩, met⟩
  · rw [makeCalls_append_thrown before] at made
    cases made
  · rw [makeCalls_append before] at made
    rcases called : send.call met with ⟨message | ⟨⟩, after⟩
    · rw [makeCalls_thrown called] at made
      cases made
    · exact ⟨met, after, rfl, called⟩

end Calls

/-! ### The calls of the loops -/

section Loops

variable {r : Router} {interfaceNum turns : Nat}

theorem setQueue_ports (r : Router) (interfaceNum : Nat) (datagrams : List InternetDatagram) :
    ports (r.setQueue interfaceNum datagrams) = ports r := by
  apply List.ext_getElem?
  intro n
  simp only [ports, setQueue, List.getElem?_map, List.getElem?_modify]
  split <;> cases r.interfaces[n]? <;> rfl

theorem call_onInterface (r : Router) (send : Send) :
    send.call (ports r) =
      ((r.onInterface send.interfaceNum (·.sendDatagram send.dgram send.nextHop)).1,
        ports (r.onInterface send.interfaceNum (·.sendDatagram send.dgram send.nextHop)).2) := by
  cases present : r.interfaces[send.interfaceNum]? with
  | none => simp only [Send.call, ports, onInterface, List.getElem?_map, present, Option.map_none]
  | some a =>
      rw [onInterface_within present]
      simp only [Send.call, ports, List.getElem?_map, present, Option.map_some, List.map_set]
      rfl

theorem routeOneDatagram_makes (r : Router) (dgram : InternetDatagram) :
    makeCalls (planned r.routingTable dgram).toList (ports r) =
      ((r.routeOneDatagram dgram).1, ports (r.routeOneDatagram dgram).2.2) := by
  rw [routeOneDatagram_planned]
  cases planned r.routingTable dgram with
  | none => rfl
  | some send => exact (makeCalls_single send (ports r)).trans (call_onInterface r send)

theorem turned_ports (r : Router) (interfaceNum : Nat) (dgram : InternetDatagram) :
    ports (r.turned interfaceNum dgram) = ports (r.routeOneDatagram dgram).2.2 :=
  setQueue_ports _ _ _

theorem drain_stopped {dgram : InternetDatagram} {rest : List InternetDatagram} {message : String}
    (waiting : r.queue interfaceNum = dgram :: rest) (thrown : (r.routeOneDatagram dgram).1 = .error message) :
    (r.drain interfaceNum (turns + 1)).1 = .error message ∧
      ports (r.drain interfaceNum (turns + 1)).2 = ports (r.routeOneDatagram dgram).2.2 ∧
      (r.drain interfaceNum (turns + 1)).2.routingTable = r.routingTable := by
  have table : (r.routeOneDatagram dgram).2.2.routingTable = r.routingTable :=
    @turned_routingTable r interfaceNum dgram
  rcases outcome : r.routeOneDatagram dgram with ⟨result, after, s⟩
  rw [outcome] at thrown table
  cases thrown
  simp only [drain, waiting, outcome]
  exact ⟨trivial, setQueue_ports s _ _, table⟩

theorem filterMap_planned_cons (table : List RoutingTableEntry) (dgram : InternetDatagram)
    (rest : List InternetDatagram) :
    (dgram :: rest).filterMap (planned table) = (planned table dgram).toList ++ rest.filterMap (planned table) := by
  cases call : planned table dgram with
  | none => exact List.filterMap_cons_none call
  | some send => exact List.filterMap_cons_some call

theorem drain_makes (turns : Nat) (r : Router) :
    makeCalls (((r.queue interfaceNum).take turns).filterMap (planned r.routingTable)) (ports r) =
        ((r.drain interfaceNum turns).1, ports (r.drain interfaceNum turns).2) ∧
      (r.drain interfaceNum turns).2.routingTable = r.routingTable := by
  induction turns generalizing r with
  | zero => exact ⟨rfl, rfl⟩
  | succ turns ih =>
      cases waiting : r.queue interfaceNum with
      | nil =>
          simp only [drain, waiting]
          exact ⟨rfl, trivial⟩
      | cons dgram rest =>
          have now := routeOneDatagram_makes r dgram
          rw [List.take_succ_cons, filterMap_planned_cons]
          cases result : (r.routeOneDatagram dgram).1 with
          | error message =>
              rw [result] at now
              obtain ⟨thrown, left, table⟩ := drain_stopped waiting result
              rw [makeCalls_append_thrown now, thrown, left]
              exact ⟨rfl, table⟩
          | ok =>
              rw [result] at now
              obtain ⟨later, table⟩ := ih (r.turned interfaceNum dgram)
              rw [turned_queue waiting, turned_routingTable, turned_ports] at later
              rw [drain_turn waiting result, makeCalls_append now]
              exact ⟨later, table.trans turned_routingTable⟩

theorem routeFrom_makes {numbers : List Nat} (distinct : numbers.Nodup) (r : Router) :
    makeCalls (numbers.flatMap fun n => (r.queue n).filterMap (planned r.routingTable)) (ports r) =
        ((r.routeFrom numbers).1, ports (r.routeFrom numbers).2) ∧
      (r.routeFrom numbers).2.routingTable = r.routingTable := by
  induction numbers generalizing r with
  | nil => exact ⟨rfl, rfl⟩
  | cons number rest ih =>
      obtain ⟨new, distinct⟩ := List.nodup_cons.mp distinct
      obtain ⟨now, table⟩ := @drain_makes number (r.queue number).length r
      have queues := @drain_queue r number (r.queue number).length
      rw [List.take_length] at now
      rw [List.flatMap_cons]
      rcases outcome : r.drain number (r.queue number).length with ⟨message | ⟨⟩, s⟩
      all_goals
        rw [outcome] at now table queues
        simp only [routeFrom, outcome]
      · exact ⟨makeCalls_append_thrown now, table⟩
      · obtain ⟨_, others⟩ := queues rfl
        have same : (rest.flatMap fun n => (r.queue n).filterMap (planned r.routingTable)) =
            rest.flatMap fun n => (s.queue n).filterMap (planned s.routingTable) := by
          apply List.flatMap_congr
          intro n member
          rw [others n (fun equal => new (equal ▸ member)), table]
        obtain ⟨later, kept⟩ := ih distinct s
        exact ⟨by rw [makeCalls_append now, same, later], kept.trans table⟩

end Loops

/-! ### When the loops return -/

section Returns

variable {r : Router} {dgram : InternetDatagram}

def addresses (r : Router) : List Address := r.interfaces.map (·.ipAddress)

theorem sendBy_addresses (r : Router) (route : RoutingTableEntry) (dgram : InternetDatagram) :
    addresses (r.sendBy route dgram).2 = addresses r := by
  unfold sendBy
  cases present : r.interfaces[route.interfaceNum]? with
  | none => simp only [onInterface, present]
  | some a =>
      have listed : (addresses r)[route.interfaceNum]? = some a.ipAddress := by
        rw [addresses, List.getElem?_map, present]
        rfl
      have kept : ∀ nextHop, (a.sendDatagram (decrementTtl dgram) nextHop).2.ipAddress = a.ipAddress :=
        NetworkInterface.sendDatagram_ipAddress a.toNetworkInterface (decrementTtl dgram)
      rw [onInterface_within present, addresses, List.map_set, kept]
      apply List.ext_getElem?
      intro n
      by_cases here : route.interfaceNum = n
      · subst here
        exact (List.getElem?_set_self (List.getElem?_eq_some_iff.mp listed).1).trans listed.symm
      · exact List.getElem?_set_ne here

theorem turned_addresses (r : Router) (interfaceNum : Nat) (dgram : InternetDatagram) :
    addresses (r.turned interfaceNum dgram) = addresses r := by
  have popped : ∀ s : Router, addresses (s.pop interfaceNum) = addresses s := by
    intro s
    apply List.ext_getElem?
    intro n
    simp only [addresses, pop, setQueue, List.getElem?_map, List.getElem?_modify]
    split <;> cases s.interfaces[n]? <;> rfl
  rw [turned, popped]
  rcases r.routeOneDatagram_cases dgram with nothing | ⟨_, route, _, _, _, sends⟩
  · rw [nothing]
  · rw [sends]
    exact sendBy_addresses r route dgram

structure Deliverable (r : Router) : Prop where
  own : ∀ address ∈ addresses r, address.ipv4 ≠ none
  routes : ∀ entry ∈ r.routingTable, Usable (addresses r).length entry
  formed : ∀ n, ∀ dgram ∈ r.queue n, dgram.WellFormed

theorem decrementTtl_wellFormed (formed : dgram.WellFormed) : (decrementTtl dgram).WellFormed :=
  ⟨formed.version, formed.long, formed.short, formed.offset, formed.len⟩

theorem Deliverable.returns (deliverable : Deliverable r) (formed : dgram.WellFormed) :
    (r.routeOneDatagram dgram).1 = .ok () := by
  rcases r.routeOneDatagram_cases dgram with nothing | ⟨found, route, _, _, selected, sends⟩
  · rw [nothing]
  · have usable := deliverable.routes route (List.mem_of_getElem? selected)
    have number : route.interfaceNum < r.interfaces.length := by
      have bound := usable.1
      rwa [addresses, List.length_map] at bound
    have own : r.interfaces[route.interfaceNum].ipAddress.ipv4 ≠ none :=
      deliverable.own _ (List.mem_map_of_mem (List.getElem_mem number))
    rw [sends, sendBy, onInterface_within (List.getElem?_eq_getElem number)]
    exact NetworkInterface.sendDatagram_returns own (decrementTtl_wellFormed formed).serializable
      (usable.hop _)

theorem Deliverable.turned (deliverable : Deliverable r) (interfaceNum : Nat) (dgram : InternetDatagram) :
    Deliverable (r.turned interfaceNum dgram) := by
  refine ⟨?_, ?_, ?_⟩
  · rw [turned_addresses]
    exact deliverable.own
  · rw [turned_addresses, turned_routingTable]
    exact deliverable.routes
  · intro n
    by_cases same : n = interfaceNum
    · subst same
      intro later member
      apply deliverable.formed n
      rw [Router.turned, pop, queue_pop, routeOneDatagram_queue] at member
      exact List.mem_of_mem_tail member
    · rw [turned_queue_ne same]
      exact deliverable.formed n

theorem Deliverable.route (deliverable : Deliverable r) : r.route.1 = .ok () := by
  refine (route_invariant ?_ deliverable).1
  intro r interfaceNum dgram deliverable queued
  exact ⟨deliverable.returns (deliverable.formed interfaceNum dgram queued), deliverable.turned interfaceNum dgram⟩

end Returns

/-! ### What a call leaves -/

/-- The bytes parse without error to the datagram with its checksum filled in, and the header's checksum is
right. -/
def ReadsBack (payload : BufferList) (dgram : InternetDatagram) : Prop :=
  ∃ cksum, IPv4Datagram.parse {} payload.concatenate =
      (.noError, ⟨dgram.header.setCksum cksum, .ofBuffer dgram.payload.concatenate⟩) ∧
    (InternetChecksum.add {} (payload.concatenate.take (4 * dgram.header.hlen.toNat))).value = 0

/-- A call of `send_datagram` leaves a frame for a known next hop or an entry that waits for an unknown
one. -/
inductive Produced (send : Send) (before after : NetworkInterface) : Prop
  | frame {ip : UInt32} {mac : EthernetAddress} {ttl : Nat} {frame : EthernetFrame}
      (hop : send.nextHop.ipv4 = some ip) (known : before.arpTable ip = some (mac, ttl))
      (sent : after.framesOut = before.framesOut ++ [frame]) (dst : frame.header.dst = mac)
      (kept : after.arpPendingDatagrams = before.arpPendingDatagrams)
      (reads : ReadsBack frame.payload send.dgram)
  | entry {ip : UInt32} {payload : BufferList} (hop : send.nextHop.ipv4 = some ip)
      (unknown : before.arpTable ip = none)
      (waits : after.arpPendingDatagrams = before.arpPendingDatagrams ++ [(ip, send.dgram)])
      (written : send.dgram.serialize = .ok payload) (reads : ReadsBack payload send.dgram)

theorem serialized_readsBack {dgram : InternetDatagram} (formed : dgram.WellFormed) :
    ReadsBack ((BufferList.ofBuffer dgram.sealed.padded).append dgram.payload) dgram := by
  obtain ⟨payload, written, parsed, _⟩ := IPv4Datagram.parse_serialize formed {}
  rw [IPv4Datagram.serialize_serializable formed.serializable] at written
  cases written
  refine ⟨_, parsed, ?_⟩
  have length : dgram.sealed.padded.length = 4 * dgram.header.hlen.toNat :=
    IPv4Header.padded_length formed.serializable.2
  rw [BufferList.append_concatenate, BufferList.ofBuffer_concatenate, ← length, List.take_left]
  exact IPv4Datagram.sealed_verifies formed

theorem send_produced {send : Send} (formed : send.dgram.WellFormed) {ip : UInt32}
    (hop : send.nextHop.ipv4 = some ip) (i : NetworkInterface) :
    Produced send i (i.sendDatagram send.dgram send.nextHop).2 := by
  have reads := serialized_readsBack formed
  cases known : i.arpTable ip with
  | some entry =>
      rw [NetworkInterface.sendDatagram_known hop known formed.serializable]
      exact .frame hop known rfl rfl rfl reads
  | none =>
      have waits : (i.sendDatagram send.dgram send.nextHop).2.arpPendingDatagrams =
          i.arpPendingDatagrams ++ [(ip, send.dgram)] :=
        (NetworkInterface.sendDatagram_unknown hop known).arpPendingDatagrams
      exact .entry hop known waits (IPv4Datagram.serialize_serializable formed.serializable) reads

theorem plan_wellFormed {r : Router} (queued : ∀ n, ∀ dgram ∈ r.queue n, dgram.WellFormed) :
    ∀ send ∈ plan r, send.dgram.WellFormed := by
  intro send member
  obtain ⟨n, _, listed⟩ := List.mem_flatMap.mp member
  obtain ⟨dgram, waits, call⟩ := List.mem_filterMap.mp listed
  unfold planned at call
  split at call
  · cases call
  · obtain ⟨route, _, rfl⟩ := Option.map_eq_some_iff.mp call
    exact decrementTtl_wellFormed (queued n dgram waits)

theorem hop_of_returned {i : NetworkInterface} {send : Send}
    (returned : (i.sendDatagram send.dgram send.nextHop).1 = .ok ()) : ∃ ip, send.nextHop.ipv4 = some ip := by
  cases hop : send.nextHop.ipv4 with
  | some ip => exact ⟨ip, rfl⟩
  | none =>
      simp only [NetworkInterface.sendDatagram, Address.ipv4Numeric, hop] at returned
      cases returned

theorem eq_of_emptied {r : Router} (empty : ∀ n, r.queue n = []) :
    r = { r with interfaces := (ports r).map ({ toNetworkInterface := · }) } := by
  have same : r.interfaces = (ports r).map ({ toNetworkInterface := · }) := by
    apply List.ext_getElem?
    intro n
    simp only [ports, List.getElem?_map, Option.map_map]
    cases present : r.interfaces[n]? with
    | none => rfl
    | some a =>
        have unqueued : a.datagramsOut = [] := by
          have here := empty n
          simpa only [queue, present] using here
        simp only [Option.map_some, Function.comp_apply, ← unqueued]
  exact congrArg (fun interfaces => { r with interfaces := interfaces }) same

/-- `route` does to the interfaces what the calls of the plan do, made one after the other up to the first that
throws; and a call only throws for an address that is not an IPv4 address. When `route` returns, the queues
are empty, and each call of the plan has left its frame or its entry on the interface as it met it. -/
structure Forwards (r : Router) : Prop where
  made : (r.route.1, ports r.route.2) = makeCalls (plan r) (ports r)
  returns : (∀ a ∈ r.interfaces, a.ipAddress.ipv4 ≠ none) →
    (∀ entry ∈ r.routingTable, ∀ hop, entry.nextHop = some hop → hop.ipv4 ≠ none) → r.route.1 = .ok ()
  emptied : r.route.1 = .ok () → ∀ n, r.route.2.queue n = []
  left : r.route.1 = .ok () → r.route.2 =
    { r with interfaces := (makeCalls (plan r) (ports r)).2.map ({ toNetworkInterface := · }) }
  unmatched : ∀ dst, selected r.routingTable dst = none ↔ ∀ entry ∈ r.routingTable, ¬ Selects entry dst
  produced : r.route.1 = .ok () → ∀ earlier send later, plan r = earlier ++ send :: later →
    ∃ met i, makeCalls earlier (ports r) = (.ok (), met) ∧ met[send.interfaceNum]? = some i ∧
      send.call met = (.ok (), met.set send.interfaceNum (i.sendDatagram send.dgram send.nextHop).2) ∧
      Produced send i (i.sendDatagram send.dgram send.nextHop).2

/-- Every queued datagram is forwarded exactly once, in the order of the interfaces and of their queues. -/
theorem forwarded_exactly_once {r : Router}
    (routes : ∀ entry ∈ r.routingTable, entry.interfaceNum < r.interfaces.length)
    (queued : ∀ a ∈ r.interfaces, ∀ dgram ∈ a.datagramsOut, dgram.WellFormed) : Forwards r := by
  have formed : ∀ n, ∀ dgram ∈ r.queue n, dgram.WellFormed := by
    intro n dgram waits
    obtain ⟨a, member, held⟩ := mem_queue waits
    exact queued a member dgram held
  obtain ⟨made, table⟩ : makeCalls (plan r) (ports r) = (r.route.1, ports r.route.2) ∧
      r.route.2.routingTable = r.routingTable := routeFrom_makes List.nodup_range r
  refine ⟨made.symm, ?_, route_emptied, ?_, selected_none_iff r.routingTable, ?_⟩
  · intro own hops
    apply Deliverable.route
    refine ⟨?_, ?_, formed⟩
    · intro address listed
      obtain ⟨a, member, rfl⟩ := List.mem_map.mp listed
      exact own a member
    · intro entry member
      rw [addresses, List.length_map]
      exact ⟨routes entry member, hops entry member⟩
  · intro returned
    rw [made, ← table]
    exact eq_of_emptied (route_emptied returned)
  · intro returned earlier send later split
    have all : (makeCalls (earlier ++ send :: later) (ports r)).1 = .ok () := by
      rw [← split, made]
      exact returned
    obtain ⟨met, after, before, called⟩ := makeCalls_cut all
    obtain ⟨i, present, result, rfl⟩ := call_returned called
    obtain ⟨ip, hop⟩ := hop_of_returned result
    have member : send ∈ plan r := split ▸ List.mem_append_right earlier List.mem_cons_self
    exact ⟨met, i, before, present, called, send_produced (plan_wellFormed formed send member) hop i⟩

def passing : InternetDatagram := { header := { len := 20, ttl := 64, dst := 0x0a000209 } }

def dying : InternetDatagram := { header := { len := 20, ttl := 1, dst := 0x0a000209 } }

def inbound : InternetDatagram := { header := { len := 20, ttl := 9, dst := 0x0a000009 } }

def crossroads : Router :=
  (((build sides (gateway ++ [⟨0x0a000000, 24, none, 0⟩])).operate announcement).setQueue 0
    [passing, dying]).setQueue 1 [inbound]

theorem crossroads_forwarded :
    plan crossroads = [⟨1, { header := { len := 20, ttl := 63, dst := 0x0a000209 } }, .fromIpv4Numeric 0x0a000102⟩,
      ⟨0, { header := { len := 20, ttl := 8, dst := 0x0a000009 } }, .fromIpv4Numeric 0x0a000009⟩] ∧
    Forwards crossroads ∧ crossroads.route.1 = .ok () ∧
    (ports crossroads.route.2).map (·.framesOut.map fun frame => (frame.header.dst.toList, frame.header.type)) =
      [[(List.replicate 6 255, EthernetHeader.typeARP)], [([2, 0, 0, 0, 1, 3], EthernetHeader.typeIPv4)]] ∧
    (ports crossroads.route.2).map (·.arpPendingDatagrams) =
      [[(0x0a000009, { header := { len := 20, ttl := 8, dst := 0x0a000009 } })], []] := by
  have whole : ∀ dgram ∈ [passing, dying, inbound], dgram.WellFormed := by
    intro dgram listed
    simp only [List.mem_cons, List.not_mem_nil, or_false] at listed
    rcases listed with rfl | rfl | rfl
    all_goals exact ⟨rfl, by decide, by decide, by decide, rfl⟩
  have queues : crossroads.interfaces.flatMap (·.datagramsOut) = [passing, dying, inbound] := by decide +kernel
  have forwards : Forwards crossroads := by
    apply forwarded_exactly_once
    · decide +kernel
    · intro a member dgram held
      exact whole dgram (queues ▸ List.mem_flatMap.mpr ⟨a, member, held⟩)
  exact ⟨by decide +kernel, forwards, by decide +kernel, by decide +kernel, by decide +kernel⟩

end Sponge.RouterDelivery

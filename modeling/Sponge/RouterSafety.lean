import Sponge.InterfaceCalls
import Sponge.Router
import Sponge.Transition

/-! What the traffic on its interfaces can make a router throw. -/

namespace Sponge.RouterSafety

open Router Transition

def Forwarded (table : List RoutingTableEntry) (dgram : InternetDatagram) : Prop :=
  1 < dgram.header.ttl ∧ ∃ entry ∈ table, dgram.header.dst &&& entry.prefixMask = entry.routePrefix

instance (table : List RoutingTableEntry) (dgram : InternetDatagram) : Decidable (Forwarded table dgram) :=
  inferInstanceAs (Decidable (_ ∧ _))

/-- The routes name existing interfaces and IPv4 next hops, and the interfaces have IPv4 addresses. -/
structure Configured (interfaces : List (EthernetAddress × Address)) (routes : List Route) : Prop where
  addresses : ∀ i ∈ interfaces, i.2.ipv4 ≠ none
  lengths : ∀ route ∈ routes, route.prefixLength ≤ 32
  hops : ∀ route ∈ routes, ∀ hop, route.nextHop = some hop → hop.ipv4 ≠ none
  numbers : ∀ route ∈ routes, route.interfaceNum < interfaces.length

/-- Operations on interfaces that exist. A frame that the interface takes, and whose datagram the parser
accepts and the router would send on, has version 4 and at least five words of header. -/
def Benign (r : Router) : Operation → Prop
  | .recvFrame interfaceNum header payload =>
      ∃ a, r.interfaces[interfaceNum]? = some a ∧
        ∀ dgram, (header.dst = a.ethernetAddress ∨ header.dst = .broadcast) →
          header.type = EthernetHeader.typeIPv4 → IPv4Datagram.parse {} payload = (.noError, dgram) →
          Forwarded r.routingTable dgram → dgram.header.Writable
  | .tick interfaceNum _ => interfaceNum < r.interfaces.length
  | .route => True

/-! ### The invariant -/

section Invariant

variable (table : List RoutingTableEntry) (count : Nat)

structure Held (a : AsyncNetworkInterface) : Prop where
  ready : a.Ready
  queued : ∀ dgram ∈ a.datagramsOut, Forwarded table dgram → dgram.Serializable

structure Safe (r : Router) : Prop where
  routes : r.routingTable = table
  size : r.interfaces.length = count
  held : ∀ a ∈ r.interfaces, Held table a

def Usable (entry : RoutingTableEntry) : Prop :=
  entry.interfaceNum < count ∧ ∀ hop, entry.nextHop = some hop → hop.ipv4 ≠ none

end Invariant

variable {table : List RoutingTableEntry} {count : Nat} {r : Router}

theorem Held.sendDatagram {a : AsyncNetworkInterface} (held : Held table a) {dgram : InternetDatagram}
    (serializable : dgram.Serializable) {nextHop : Address} (hop : nextHop.ipv4 ≠ none) :
    (a.sendDatagram dgram nextHop).1 = .ok () ∧ Held table (a.sendDatagram dgram nextHop).2 := by
  obtain ⟨returned, ready⟩ := held.ready.sendDatagram serializable hop
  exact ⟨returned, ready, held.queued⟩

theorem Held.tick {a : AsyncNetworkInterface} (held : Held table a) (ms : Nat) :
    (a.tick ms).1 = .ok () ∧ Held table (a.tick ms).2 := by
  obtain ⟨returned, ready⟩ := held.ready.tick ms
  exact ⟨returned, ready, held.queued⟩

theorem Held.recvFrame {a : AsyncNetworkInterface} (held : Held table a) (header : EthernetHeader)
    (payload : Buffer)
    (benign : ∀ dgram, (header.dst = a.ethernetAddress ∨ header.dst = .broadcast) →
      header.type = EthernetHeader.typeIPv4 → IPv4Datagram.parse {} payload = (.noError, dgram) →
      Forwarded table dgram → dgram.header.Writable) :
    (a.recvFrame ⟨header, .ofBuffer payload⟩).1 = .ok () ∧
      Held table (a.recvFrame ⟨header, .ofBuffer payload⟩).2 := by
  obtain ⟨⟨received, returned⟩, ready⟩ := held.ready.recvFrame header payload
  have outcome := a.recvFrame_received ⟨header, .ofBuffer payload⟩
  simp only [AsyncNetworkInterface.recvFrame, returned]
  cases received with
  | none => exact ⟨rfl, ready, held.queued⟩
  | some dgram =>
      obtain ⟨addressed, type, buffer, bytes, parsed⟩ := outcome.datagram returned
      cases bytes
      refine ⟨rfl, ready, List.forall_mem_append.mpr ⟨held.queued, List.forall_mem_singleton.mpr ?_⟩⟩
      intro forwarded
      exact ⟨IPv4Datagram.parse_accepted parsed, benign dgram addressed type parsed forwarded⟩

theorem Safe.onInterface (safe : Safe table count r) {interfaceNum : Nat} {a : AsyncNetworkInterface}
    (present : r.interfaces[interfaceNum]? = some a)
    (method : AsyncNetworkInterface → Except String Unit × AsyncNetworkInterface)
    (fine : (method a).1 = .ok () ∧ Held table (method a).2) :
    (r.onInterface interfaceNum method).1 = .ok () ∧ Safe table count (r.onInterface interfaceNum method).2 := by
  rw [onInterface_within present]
  refine ⟨fine.1, safe.routes, (List.length_set).trans safe.size, ?_⟩
  intro b member
  rcases List.mem_or_eq_of_mem_set member with old | rfl
  · exact safe.held b old
  · exact fine.2

theorem Safe.setQueue (safe : Safe table count r) {interfaceNum : Nat} {datagrams : List InternetDatagram}
    (fewer : ∀ dgram ∈ datagrams, dgram ∈ r.queue interfaceNum) :
    Safe table count (r.setQueue interfaceNum datagrams) := by
  refine ⟨safe.routes, (List.length_modify ..).trans safe.size, ?_⟩
  intro a member
  obtain ⟨n, within, rfl⟩ := List.getElem_of_mem member
  rw [Router.setQueue, List.length_modify] at within
  have held : Held table r.interfaces[n] := safe.held _ (List.getElem_mem within)
  by_cases same : interfaceNum = n
  · subst same
    have present : r.queue interfaceNum = r.interfaces[interfaceNum].datagramsOut := by
      simp only [queue, List.getElem?_eq_getElem within]
    simp only [Router.setQueue, List.getElem_modify, if_true]
    refine ⟨held.ready, ?_⟩
    intro dgram queued
    exact held.queued dgram (present ▸ fewer dgram queued)
  · simpa only [Router.setQueue, List.getElem_modify, if_neg same] using held

/-! ### The loops of `route` -/

theorem Usable.hop {entry : RoutingTableEntry} (usable : Usable count entry) (dst : UInt32) :
    (entry.nextHop.getD (.fromIpv4Numeric dst)).ipv4 ≠ none := by
  cases hop : entry.nextHop with
  | none => exact Option.some_ne_none _
  | some nextHop => exact usable.2 nextHop hop

theorem Safe.routeOneDatagram (safe : Safe table count r) (usable : ∀ entry ∈ table, Usable count entry)
    {dgram : InternetDatagram} (harmless : Forwarded table dgram → dgram.Serializable) :
    (r.routeOneDatagram dgram).1 = .ok () ∧ Safe table count (r.routeOneDatagram dgram).2.2 := by
  rcases r.routeOneDatagram_cases dgram with nothing | ⟨found, route, alive, scanned, selected, sends⟩
  · rw [nothing]
    exact ⟨rfl, safe⟩
  · have matched := target_matched scanned selected
    rw [safe.routes] at matched
    have serializable : (decrementTtl dgram).Serializable := harmless ⟨alive, matched⟩
    have fits : Usable count route := usable route (safe.routes ▸ List.mem_of_getElem? selected)
    have number : route.interfaceNum < r.interfaces.length := safe.size ▸ fits.1
    have held := safe.held _ (List.getElem_mem number)
    rw [sends]
    exact safe.onInterface (List.getElem?_eq_getElem number) _ (held.sendDatagram serializable (fits.hop _))

theorem Safe.turned (safe : Safe table count r) (usable : ∀ entry ∈ table, Usable count entry)
    {interfaceNum : Nat} {dgram : InternetDatagram} (queued : dgram ∈ r.queue interfaceNum) :
    (r.routeOneDatagram dgram).1 = .ok () ∧ Safe table count (r.turned interfaceNum dgram) := by
  have harmless : Forwarded table dgram → dgram.Serializable := by
    obtain ⟨a, present, held⟩ := mem_queue queued
    exact (safe.held a present).queued dgram held
  obtain ⟨returned, after⟩ := safe.routeOneDatagram usable harmless
  exact ⟨returned, after.setQueue fun _ member => List.mem_of_mem_tail member⟩

theorem Safe.route (safe : Safe table count r) (usable : ∀ entry ∈ table, Usable count entry) :
    r.route.1 = .ok () ∧ Safe table count r.route.2 ∧ ∀ n, r.route.2.queue n = [] := by
  obtain ⟨returned, after⟩ :=
    route_invariant (fun _ _ _ safe queued => Safe.turned safe usable queued) safe
  exact ⟨returned, after, route_emptied returned⟩

/-! ### Runs -/

theorem Safe.call (safe : Safe table count r) (usable : ∀ entry ∈ table, Usable count entry)
    (op : Operation) (benign : Benign r op) : (r.call op).1 = .ok () ∧ Safe table count (r.operate op) := by
  cases op with
  | recvFrame interfaceNum header payload =>
      obtain ⟨a, present, harmless⟩ := benign
      rw [safe.routes] at harmless
      have held := safe.held a (List.mem_of_getElem? present)
      exact safe.onInterface present (·.recvFrame ⟨header, .ofBuffer payload⟩)
        (held.recvFrame header payload harmless)
  | tick interfaceNum ms =>
      have held := safe.held _ (List.getElem_mem benign)
      exact safe.onInterface (List.getElem?_eq_getElem benign) (·.tick ms) (held.tick ms)
  | route =>
      obtain ⟨returned, after, _⟩ := safe.route usable
      exact ⟨returned, after⟩


section Build

variable {interfaces : List (EthernetAddress × Address)} {routes : List Route}

theorem Configured.usable (configured : Configured interfaces routes) :
    ∀ entry ∈ routes.map Route.entry, Usable interfaces.length entry := by
  intro entry member
  obtain ⟨route, listed, rfl⟩ := List.mem_map.mp member
  exact ⟨configured.numbers route listed, configured.hops route listed⟩

theorem Configured.safe (configured : Configured interfaces routes) :
    Safe (routes.map Route.entry) interfaces.length (build interfaces routes) := by
  rw [build_eq]
  refine ⟨rfl, List.length_map _, ?_⟩
  intro a member
  obtain ⟨i, listed, rfl⟩ := List.mem_map.mp member
  exact ⟨⟨configured.addresses i listed, List.forall_mem_nil _⟩, List.forall_mem_nil _⟩

/-- While every datagram to be sent on has version 4 and a whole header, no call throws, and `route` leaves
nothing behind. -/
theorem no_call_throws (configured : Configured interfaces routes)
    (reached : Reachable operate Benign (build interfaces routes) r) (op : Operation) (benign : Benign r op) :
    (r.call op).1 = .ok () ∧ (op = .route → ∀ n, (r.operate op).queue n = []) := by
  have safe : Safe (routes.map Route.entry) interfaces.length r :=
    reachable_invariant (P := Safe (routes.map Route.entry) interfaces.length) configured.safe
      (fun _ op safe benign => (safe.call configured.usable op benign).2) reached
  refine ⟨(safe.call configured.usable op benign).1, ?_⟩
  rintro rfl
  exact (safe.route configured.usable).2.2

end Build

/-! ### A datagram with an empty header -/

def sides : List (EthernetAddress × Address) :=
  [(#v[2, 0, 0, 0, 1, 1], .fromIpv4Numeric 0x0a000001), (#v[2, 0, 0, 0, 1, 2], .fromIpv4Numeric 0x0a000101)]

def gateway : List Route := [⟨0, 0, some (.fromIpv4Numeric 0x0a000102), 1⟩]

theorem gateway_configured : Configured sides gateway := by
  refine ⟨by decide, by decide, ?_, by decide⟩
  simp [gateway, Address.fromIpv4Numeric]

def announcement : Operation :=
  .recvFrame 1 ⟨.broadcast, #v[2, 0, 0, 0, 1, 3], EthernetHeader.typeARP⟩
    [0, 1, 8, 0, 6, 4, 0, 2, 2, 0, 0, 0, 1, 3, 10, 0, 1, 2, 0, 0, 0, 0, 0, 0, 10, 0, 1, 1]

def transit (versionAndLengths cksum : List Byte) : Operation :=
  .recvFrame 0 ⟨#v[2, 0, 0, 0, 1, 1], #v[2, 0, 0, 0, 1, 9], EthernetHeader.typeIPv4⟩
    (versionAndLengths ++ [0, 0, 0, 0, 64, 0] ++ cksum ++ [10, 0, 0, 9, 10, 0, 2, 9])

def regular : Operation := transit [0x45, 0, 0, 20] [0x64, 0xd9]

def headless : Operation := transit [0, 0, 0, 0] [0, 0]

theorem Benign.of_bytes {interfaceNum : Nat} {header : EthernetHeader} {payload : Buffer}
    (within : interfaceNum < r.interfaces.length)
    (whole : header.type = EthernetHeader.typeIPv4 → (IPv4Datagram.parse {} payload).2.header.Writable) :
    Benign r (.recvFrame interfaceNum header payload) := by
  refine ⟨_, List.getElem?_eq_getElem within, ?_⟩
  intro dgram _ type parsed _
  have writable := whole type
  rwa [parsed] at writable

theorem regular_forwarded :
    ([announcement, regular].foldl operate (build sides gateway)).queue 0 ≠ [] ∧
      ([announcement, regular].foldl operate (build sides gateway)).route.1 = .ok () := by
  have reached : Reachable operate Benign (build sides gateway)
      ([announcement, regular].foldl operate (build sides gateway)) :=
    reachable_run _ ⟨.of_bytes (by decide) (by decide), .of_bytes (by decide +kernel) (by decide +kernel), trivial⟩
  exact ⟨by decide +kernel, (no_call_throws gateway_configured reached .route trivial).1⟩

/-- The parser lets the datagram in, the serializer throws, and a regular datagram waits behind it. -/
theorem headless_stops_route : Configured sides gateway ∧
    ([announcement, headless, regular].foldl operate (build sides gateway)).route.1 =
      .error "wrong IP version" ∧
    (([announcement, headless, regular].foldl operate (build sides gateway)).operate .route).queue 0 ≠ [] :=
  ⟨gateway_configured, by decide +kernel, by decide +kernel⟩

end Sponge.RouterSafety

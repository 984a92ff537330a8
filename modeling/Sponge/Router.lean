import Sponge.NetworkInterface

/-! The router (`router.hh`, `router.cc`).

As for the interfaces, what a call did before an exception stays done. Where the source would read past the
end of a vector the call fails as well. -/

namespace Sponge

/-- A network interface that keeps the datagrams it receives for its owner. -/
structure AsyncNetworkInterface extends NetworkInterface where
  datagramsOut : List InternetDatagram := []

namespace AsyncNetworkInterface

def sendDatagram (a : AsyncNetworkInterface) (dgram : InternetDatagram) (nextHop : Address) :
    Except String Unit × AsyncNetworkInterface :=
  let (result, i) := a.toNetworkInterface.sendDatagram dgram nextHop
  (result, { a with toNetworkInterface := i })

def recvFrame (a : AsyncNetworkInterface) (frame : EthernetFrame) :
    Except String Unit × AsyncNetworkInterface :=
  let (result, i) := a.toNetworkInterface.recvFrame frame
  match result with
  | .ok (some dgram) =>
      (.ok (), { toNetworkInterface := i, datagramsOut := a.datagramsOut ++ [dgram] })
  | .ok none => (.ok (), { a with toNetworkInterface := i })
  | .error message => (.error message, { a with toNetworkInterface := i })

def tick (a : AsyncNetworkInterface) (msSinceLastTick : Nat) : Except String Unit × AsyncNetworkInterface :=
  let (result, i) := a.toNetworkInterface.tick msSinceLastTick
  (result, { a with toNetworkInterface := i })

end AsyncNetworkInterface

structure RoutingTableEntry where
  routePrefix : UInt32
  prefixLength : UInt8
  prefixMask : UInt32
  nextHop : Option Address
  interfaceNum : Nat
  deriving DecidableEq, Repr

structure Router where
  interfaces : List AsyncNetworkInterface := []
  routingTable : List RoutingTableEntry := []

namespace Router

def addInterface (r : Router) (interface : AsyncNetworkInterface) : Nat × Router :=
  let r := { r with interfaces := r.interfaces ++ [interface] }
  (r.interfaces.length - 1, r)

def addRoute (r : Router) (routePrefix : UInt32) (prefixLength : UInt8) (nextHop : Option Address)
    (interfaceNum : Nat) : Router :=
  let prefixMask : UInt32 := if prefixLength = 0 then 0 else (~~~ 0) <<< (32 - prefixLength.toUInt32)
  { r with routingTable :=
    r.routingTable ++ [⟨routePrefix, prefixLength, prefixMask, nextHop, interfaceNum⟩] }

/-- The scan for the longest match, over the entries from `position` on. Iterators are positions in `table`,
and `table.length` is `end()`; the result is `none` if `end()` is dereferenced. -/
def scan (table : List RoutingTableEntry) (dst : UInt32) (target position : Nat) :
    List RoutingTableEntry → Option Nat
  | [] => some target
  | entry :: rest =>
      if dst &&& entry.prefixMask = entry.routePrefix then
        if target > position then scan table dst position (position + 1) rest
        else
          match table[target]? with
          | none => none
          | some best =>
              if best.prefixLength < entry.prefixLength then scan table dst position (position + 1) rest
              else scan table dst target (position + 1) rest
      else scan table dst target (position + 1) rest

def target (r : Router) (dst : UInt32) : Option Nat :=
  scan r.routingTable dst r.routingTable.length 0 r.routingTable

def onInterface (r : Router) (interfaceNum : Nat)
    (method : AsyncNetworkInterface → Except String Unit × AsyncNetworkInterface) :
    Except String Unit × Router :=
  match r.interfaces[interfaceNum]? with
  | none => (.error "no such interface", r)
  | some interface =>
      let (result, interface) := method interface
      (result, { r with interfaces := r.interfaces.set interfaceNum interface })

def decrementTtl (dgram : InternetDatagram) : InternetDatagram :=
  { dgram with header := { dgram.header with ttl := dgram.header.ttl - 1 } }

/-- The datagram is a reference into a queue, so that it is returned as the call leaves it. -/
def routeOneDatagram (r : Router) (dgram : InternetDatagram) :
    Except String Unit × InternetDatagram × Router :=
  if dgram.header.ttl ≤ 1 then (.ok (), dgram, r)
  else
    match r.target dgram.header.dst with
    | none => (.error "end of the routing table dereferenced", dgram, r)
    | some target =>
        match r.routingTable[target]? with
        | none => (.ok (), dgram, r)
        | some route =>
            let dgram := decrementTtl dgram
            let nextHop := match route.nextHop with
              | some nextHop => nextHop
              | none => .fromIpv4Numeric dgram.header.dst
            let (result, r) := r.onInterface route.interfaceNum (·.sendDatagram dgram nextHop)
            (result, dgram, r)

def queue (r : Router) (interfaceNum : Nat) : List InternetDatagram :=
  match r.interfaces[interfaceNum]? with
  | some interface => interface.datagramsOut
  | none => []

def setQueue (r : Router) (interfaceNum : Nat) (datagrams : List InternetDatagram) : Router :=
  { r with interfaces := r.interfaces.modify interfaceNum fun a => { a with datagramsOut := datagrams } }

/-- The inner loop of `route`. It looks at the queue anew each time; as each turn takes one datagram out and
none comes in, as many turns as there are datagrams at first are enough. -/
def drain (interfaceNum : Nat) : Nat → Router → Except String Unit × Router
  | 0, r => (.ok (), r)
  | turns + 1, r =>
      match r.queue interfaceNum with
      | [] => (.ok (), r)
      | dgram :: _ =>
          match r.routeOneDatagram dgram with
          | (.ok (), _, r) => drain interfaceNum turns (r.setQueue interfaceNum (r.queue interfaceNum).tail)
          | (.error message, dgram, r) =>
              (.error message, r.setQueue interfaceNum (dgram :: (r.queue interfaceNum).tail))

def routeFrom : List Nat → Router → Except String Unit × Router
  | [], r => (.ok (), r)
  | interfaceNum :: rest, r =>
      match r.drain interfaceNum (r.queue interfaceNum).length with
      | (.ok (), r) => routeFrom rest r
      | (.error message, r) => (.error message, r)

def route (r : Router) : Except String Unit × Router := routeFrom (List.range r.interfaces.length) r

inductive Operation
  | recvFrame (interfaceNum : Nat) (header : EthernetHeader) (payload : Buffer)
  | tick (interfaceNum : Nat) (msSinceLastTick : Nat)
  | route

def call (r : Router) : Operation → Except String Unit × Router
  | .recvFrame interfaceNum header payload =>
      r.onInterface interfaceNum (·.recvFrame ⟨header, .ofBuffer payload⟩)
  | .tick interfaceNum msSinceLastTick => r.onInterface interfaceNum (·.tick msSinceLastTick)
  | .route => r.route

/-- The router after an operation, whether the call returned or threw. -/
def operate (r : Router) (op : Operation) : Router := (r.call op).2

structure Route where
  routePrefix : UInt32
  prefixLength : UInt8
  nextHop : Option Address
  interfaceNum : Nat

def build (interfaces : List (EthernetAddress × Address)) (routes : List Route) : Router :=
  let r := interfaces.foldl
    (fun r i => (r.addInterface { ethernetAddress := i.1, ipAddress := i.2 }).2) {}
  routes.foldl
    (fun r e => r.addRoute e.routePrefix e.prefixLength e.nextHop e.interfaceNum) r

def Route.entry (route : Route) : RoutingTableEntry where
  routePrefix := route.routePrefix
  prefixLength := route.prefixLength
  prefixMask := if route.prefixLength = 0 then 0 else (~~~ 0) <<< (32 - route.prefixLength.toUInt32)
  nextHop := route.nextHop
  interfaceNum := route.interfaceNum

theorem addRoute_foldl (routes : List Route) (r : Router) :
    routes.foldl (fun r e => r.addRoute e.routePrefix e.prefixLength e.nextHop e.interfaceNum) r =
      { r with routingTable := r.routingTable ++ routes.map Route.entry } := by
  induction routes generalizing r with
  | nil => simp
  | cons route rest ih =>
      rw [List.foldl_cons, ih]
      simp [addRoute, Route.entry]

theorem addInterface_foldl (interfaces : List (EthernetAddress × Address)) (r : Router) :
    interfaces.foldl (fun r i => (r.addInterface { ethernetAddress := i.1, ipAddress := i.2 }).2) r =
      { r with interfaces := r.interfaces ++
        interfaces.map fun i => { ethernetAddress := i.1, ipAddress := i.2 } } := by
  induction interfaces generalizing r with
  | nil => simp
  | cons i rest ih =>
      rw [List.foldl_cons, ih]
      simp [addInterface]

theorem build_eq (interfaces : List (EthernetAddress × Address)) (routes : List Route) :
    build interfaces routes =
      { interfaces := interfaces.map fun i => { ethernetAddress := i.1, ipAddress := i.2 }
        routingTable := routes.map Route.entry } := by
  simp only [build, addInterface_foldl, addRoute_foldl, List.nil_append]

/-! ### The scan -/

section Scan

variable {table rest : List RoutingTableEntry} {dst : UInt32} {target position : Nat}

theorem scan_defined (within : target ≤ table.length) (aligned : position + rest.length = table.length) :
    ∃ found ≤ table.length, scan table dst target position rest = some found := by
  induction rest generalizing target position with
  | nil => exact ⟨target, within, rfl⟩
  | cons entry rest ih =>
      rw [List.length_cons] at aligned
      have here : position ≤ table.length := by omega
      have next : position + 1 + rest.length = table.length := by omega
      simp only [scan]
      split
      · split
        · exact ih here next
        · have inside : target < table.length := by omega
          rw [List.getElem?_eq_getElem inside]
          simp only
          split
          · exact ih here next
          · exact ih within next
      · exact ih within next

theorem scan_unmatched (unmatched : ∀ entry ∈ rest, dst &&& entry.prefixMask ≠ entry.routePrefix) :
    scan table dst target position rest = some target := by
  induction rest generalizing position with
  | nil => rfl
  | cons entry rest ih =>
      obtain ⟨here, later⟩ := List.forall_mem_cons.mp unmatched
      rw [scan, if_neg here, ih later]

theorem target_defined (r : Router) (dst : UInt32) : ∃ found, r.target dst = some found := by
  obtain ⟨found, _, scanned⟩ := scan_defined le_rfl (Nat.zero_add r.routingTable.length)
  exact ⟨found, scanned⟩

theorem target_matched {r : Router} {found : Nat} {route : RoutingTableEntry} (scanned : r.target dst = some found)
    (selected : r.routingTable[found]? = some route) :
    ∃ entry ∈ r.routingTable, dst &&& entry.prefixMask = entry.routePrefix := by
  by_contra unmatched
  push Not at unmatched
  have outside : found = r.routingTable.length := by
    rw [target, scan_unmatched unmatched, Option.some_inj] at scanned
    exact scanned.symm
  rw [outside, List.getElem?_length] at selected
  cases selected

end Scan

/-! ### Calls on one interface -/

section Interfaces

variable {r : Router} {interfaceNum : Nat}
  {method : AsyncNetworkInterface → Except String Unit × AsyncNetworkInterface}

theorem onInterface_within {a : AsyncNetworkInterface} (present : r.interfaces[interfaceNum]? = some a) :
    r.onInterface interfaceNum method =
      ((method a).1, { r with interfaces := r.interfaces.set interfaceNum (method a).2 }) := by
  simp only [onInterface, present]

theorem onInterface_routingTable (r : Router) (interfaceNum : Nat)
    (method : AsyncNetworkInterface → Except String Unit × AsyncNetworkInterface) :
    (r.onInterface interfaceNum method).2.routingTable = r.routingTable := by
  unfold onInterface
  split <;> rfl

theorem onInterface_queue (keeps : ∀ a, (method a).2.datagramsOut = a.datagramsOut) (n : Nat) :
    (r.onInterface interfaceNum method).2.queue n = r.queue n := by
  cases present : r.interfaces[interfaceNum]? with
  | none => simp only [onInterface, present]
  | some a =>
      rw [onInterface_within present]
      by_cases same : interfaceNum = n
      · subst same
        have within : interfaceNum < r.interfaces.length := (List.getElem?_eq_some_iff.mp present).1
        simp only [queue, present, List.getElem?_set_self within, keeps]
      · simp only [queue, List.getElem?_set_ne same]

theorem queue_pop (r : Router) (interfaceNum : Nat) :
    (r.setQueue interfaceNum (r.queue interfaceNum).tail).queue interfaceNum =
      (r.queue interfaceNum).tail := by
  cases present : r.interfaces[interfaceNum]? with
  | none => simp [queue, setQueue, present]
  | some a => simp [queue, setQueue, present]

theorem queue_setQueue_ne {n : Nat} (other : interfaceNum ≠ n) (datagrams : List InternetDatagram) :
    (r.setQueue interfaceNum datagrams).queue n = r.queue n := by
  simp only [queue, setQueue, List.getElem?_modify, if_neg other, id_map']

theorem mem_queue {dgram : InternetDatagram} (queued : dgram ∈ r.queue interfaceNum) :
    ∃ a ∈ r.interfaces, dgram ∈ a.datagramsOut := by
  cases present : r.interfaces[interfaceNum]? with
  | none => simp [queue, present] at queued
  | some a =>
      simp only [queue, present] at queued
      exact ⟨a, List.mem_of_getElem? present, queued⟩

end Interfaces

/-! ### The loops -/

section Loops

variable {r : Router} {interfaceNum turns : Nat} {dgram : InternetDatagram} {rest : List InternetDatagram}

def sendBy (r : Router) (route : RoutingTableEntry) (dgram : InternetDatagram) : Except String Unit × Router :=
  r.onInterface route.interfaceNum
    (·.sendDatagram (decrementTtl dgram) (route.nextHop.getD (.fromIpv4Numeric dgram.header.dst)))

/-- Either nothing is done for a datagram, or it leaves by the route at which the scan ended. -/
theorem routeOneDatagram_cases (r : Router) (dgram : InternetDatagram) :
    r.routeOneDatagram dgram = (.ok (), dgram, r) ∨
      ∃ found route, 1 < dgram.header.ttl ∧ r.target dgram.header.dst = some found ∧
        r.routingTable[found]? = some route ∧
        r.routeOneDatagram dgram = ((r.sendBy route dgram).1, decrementTtl dgram, (r.sendBy route dgram).2) := by
  by_cases old : dgram.header.ttl ≤ 1
  · exact .inl (by rw [routeOneDatagram, if_pos old])
  obtain ⟨found, scanned⟩ := r.target_defined dgram.header.dst
  cases selected : r.routingTable[found]? with
  | none => exact .inl (by simp only [routeOneDatagram, if_neg old, scanned, selected])
  | some route =>
      refine .inr ⟨found, route, UInt8.not_le.mp old, scanned, selected, ?_⟩
      simp only [routeOneDatagram, if_neg old, scanned, selected, sendBy]
      cases route.nextHop <;> rfl

theorem routeOneDatagram_queue (r : Router) (dgram : InternetDatagram) (n : Nat) :
    (r.routeOneDatagram dgram).2.2.queue n = r.queue n := by
  rcases r.routeOneDatagram_cases dgram with nothing | ⟨_, route, _, _, _, sends⟩
  · rw [nothing]
  · rw [sends]
    exact onInterface_queue (fun _ => rfl) n

def pop (r : Router) (interfaceNum : Nat) : Router := r.setQueue interfaceNum (r.queue interfaceNum).tail

def turned (r : Router) (interfaceNum : Nat) (dgram : InternetDatagram) : Router :=
  (r.routeOneDatagram dgram).2.2.pop interfaceNum

theorem turned_queue (waiting : r.queue interfaceNum = dgram :: rest) :
    (r.turned interfaceNum dgram).queue interfaceNum = rest := by
  rw [turned, pop, queue_pop, routeOneDatagram_queue, waiting, List.tail_cons]

theorem turned_queue_ne {n : Nat} (other : n ≠ interfaceNum) :
    (r.turned interfaceNum dgram).queue n = r.queue n := by
  rw [turned, pop, queue_setQueue_ne other.symm, routeOneDatagram_queue]

theorem drain_turn (waiting : r.queue interfaceNum = dgram :: rest)
    (returned : (r.routeOneDatagram dgram).1 = .ok ()) :
    r.drain interfaceNum (turns + 1) = (r.turned interfaceNum dgram).drain interfaceNum turns := by
  rcases outcome : r.routeOneDatagram dgram with ⟨result, after, s⟩
  rw [outcome] at returned
  cases returned
  simp only [drain, waiting, outcome, turned, pop]

theorem drain_thrown {message : String} (waiting : r.queue interfaceNum = dgram :: rest)
    (thrown : (r.routeOneDatagram dgram).1 = .error message) :
    (r.drain interfaceNum (turns + 1)).1 = .error message := by
  rcases outcome : r.routeOneDatagram dgram with ⟨result, after, s⟩
  rw [outcome] at thrown
  cases thrown
  simp only [drain, waiting, outcome]

theorem drain_queue (returned : (r.drain interfaceNum turns).1 = .ok ()) :
    (r.drain interfaceNum turns).2.queue interfaceNum = (r.queue interfaceNum).drop turns ∧
      ∀ n, n ≠ interfaceNum → (r.drain interfaceNum turns).2.queue n = r.queue n := by
  induction turns generalizing r with
  | zero => exact ⟨rfl, fun _ _ => rfl⟩
  | succ turns ih =>
      cases waiting : r.queue interfaceNum with
      | nil =>
          simp only [drain, waiting]
          exact ⟨List.drop_nil.symm, fun _ _ => trivial⟩
      | cons dgram rest =>
          cases result : (r.routeOneDatagram dgram).1 with
          | error message =>
              rw [drain_thrown waiting result] at returned
              cases returned
          | ok =>
              rw [drain_turn waiting result] at returned ⊢
              obtain ⟨own, others⟩ := ih returned
              rw [turned_queue waiting] at own
              refine ⟨own, ?_⟩
              intro n other
              rw [others n other, turned_queue_ne other]

theorem routeFrom_emptied {numbers : List Nat} (returned : (r.routeFrom numbers).1 = .ok ()) :
    ∀ n, n ∈ numbers ∨ r.queue n = [] → (r.routeFrom numbers).2.queue n = [] := by
  induction numbers generalizing r with
  | nil => exact fun n empty => empty.resolve_left List.not_mem_nil
  | cons number rest ih =>
      have queues := @drain_queue r number (r.queue number).length
      rcases outcome : r.drain number (r.queue number).length with ⟨message | ⟨⟩, s⟩
      all_goals
        rw [outcome] at queues
        simp only [routeFrom, outcome] at returned ⊢
      · cases returned
      · obtain ⟨own, others⟩ := queues rfl
        intro n cause
        apply ih returned
        by_cases same : n = number
        · subst same
          exact .inr (own.trans List.drop_length)
        · rcases cause with member | empty
          · exact .inl ((List.mem_cons.mp member).resolve_left same)
          · exact .inr ((others n same).trans empty)

theorem route_emptied (returned : r.route.1 = .ok ()) (n : Nat) : r.route.2.queue n = [] := by
  apply routeFrom_emptied returned
  by_cases within : n < r.interfaces.length
  · exact .inl (List.mem_range.mpr within)
  · right
    simp [queue, Nat.le_of_not_lt within]

theorem turned_routingTable : (r.turned interfaceNum dgram).routingTable = r.routingTable := by
  rw [turned, pop, setQueue]
  rcases r.routeOneDatagram_cases dgram with nothing | ⟨_, route, _, _, _, sends⟩
  · rw [nothing]
  · rw [sends]
    exact onInterface_routingTable r _ _

end Loops

/-! ### The rule of the loops

Where every turn returns and keeps `P`, the loops return and keep `P`. -/

section Rule

variable {P : Router → Prop} {r : Router}

theorem drain_invariant {interfaceNum : Nat}
    (turn : ∀ r dgram, P r → dgram ∈ r.queue interfaceNum →
      (r.routeOneDatagram dgram).1 = .ok () ∧ P (r.turned interfaceNum dgram)) (turns : Nat) (initial : P r) :
    (r.drain interfaceNum turns).1 = .ok () ∧ P (r.drain interfaceNum turns).2 := by
  induction turns generalizing r with
  | zero => exact ⟨rfl, initial⟩
  | succ turns ih =>
      cases waiting : r.queue interfaceNum with
      | nil =>
          simp only [drain, waiting]
          exact ⟨trivial, initial⟩
      | cons dgram rest =>
          have queued : dgram ∈ r.queue interfaceNum := waiting ▸ List.mem_cons_self
          obtain ⟨returned, kept⟩ := turn r dgram initial queued
          rw [drain_turn waiting returned]
          exact ih kept

variable (turn : ∀ r interfaceNum dgram, P r → dgram ∈ r.queue interfaceNum →
  (r.routeOneDatagram dgram).1 = .ok () ∧ P (r.turned interfaceNum dgram))
include turn

theorem routeFrom_invariant (numbers : List Nat) (initial : P r) :
    (r.routeFrom numbers).1 = .ok () ∧ P (r.routeFrom numbers).2 := by
  induction numbers generalizing r with
  | nil => exact ⟨rfl, initial⟩
  | cons number rest ih =>
      obtain ⟨returned, kept⟩ := drain_invariant (fun r => turn r number) (r.queue number).length initial
      rcases outcome : r.drain number (r.queue number).length with ⟨result, s⟩
      rw [outcome] at returned kept
      cases returned
      simp only [routeFrom, outcome]
      exact ih kept

theorem route_invariant (initial : P r) : r.route.1 = .ok () ∧ P r.route.2 :=
  routeFrom_invariant turn _ initial

end Rule

end Router
end Sponge

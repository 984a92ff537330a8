import Sponge.FirstMax
import Sponge.RouterDelivery

/-! What the decision of `route_one_datagram` depends on: which bits of a prefix count, and whether the
order of the routes does.

The scan picks the first of the longest entries that apply, so that both are questions about that choice. -/

namespace Sponge.RouterTables

open FirstMax Router RouterDelivery RouterSelection

def Applies (dst : UInt32) (route : Route) : Prop := Selects route.entry dst

instance (dst : UInt32) : DecidablePred (Applies dst) :=
  fun route => inferInstanceAs (Decidable (dst &&& route.entry.prefixMask = route.entry.routePrefix))

instance (dst : UInt32) : DecidablePred (Selects · dst) :=
  fun entry => inferInstanceAs (Decidable (dst &&& entry.prefixMask = entry.routePrefix))

abbrev Best (routes : List Route) (dst : UInt32) (route : Route) : Prop :=
  IsFirstMax (Applies dst) (·.prefixLength.toNat) routes route

def masked (route : Route) : Route :=
  { route with routePrefix := route.routePrefix &&& route.entry.prefixMask }

def sends (dgram : InternetDatagram) (route : Route) : Send :=
  ⟨route.interfaceNum, decrementTtl dgram, route.nextHop.getD (.fromIpv4Numeric dgram.header.dst)⟩

/-- Another route that applies takes precedence wherever `route` stands between the two lists. -/
def Beaten (front back : List Route) (dst : UInt32) (route : Route) : Prop :=
  (∃ other ∈ front, Applies dst other ∧ route.prefixLength.toNat ≤ other.prefixLength.toNat) ∨
    ∃ other ∈ back, Applies dst other ∧ route.prefixLength.toNat < other.prefixLength.toNat

/-- The best of the routes leads to the interface and the next hop of `route`. -/
def SameWay (routes : List Route) (dst : UInt32) (route : Route) : Prop :=
  ∃ other, Best routes dst other ∧ other.interfaceNum = route.interfaceNum ∧
    other.nextHop.getD (.fromIpv4Numeric dst) = route.nextHop.getD (.fromIpv4Numeric dst)

/-! ### The scan as a choice -/

theorem selected_firstMax (table : List RoutingTableEntry) (dst : UInt32) :
    selected table dst = firstMax (Selects · dst) (·.prefixLength.toNat) table := by
  obtain ⟨found, scanned, best⟩ := target_best { routingTable := table } dst
  rw [show selected table dst = table[found]? from selected_target scanned]
  cases best with
  | unset atEnd unmatched =>
      rw [show table[found]? = none by rw [atEnd, List.getElem?_length], eq_comm, firstMax_none_iff]
      intro entry member
      obtain ⟨place, located⟩ := List.getElem?_of_mem member
      exact unmatched place (List.getElem?_eq_some_iff.mp located).1 entry located
  | set best _ located matching longest =>
      obtain ⟨inside, here⟩ := List.getElem?_eq_some_iff.mp located
      have parts : table = table.take found ++ best :: table.drop (found + 1) := by
        rw [← here, List.getElem_cons_drop, List.take_append_drop]
      rw [located, eq_comm, firstMax_some_iff]
      refine ⟨_, _, parts, matching, ?_, ?_⟩
      · intro entry member selects
        obtain ⟨place, before, rfl⟩ := List.mem_take_iff_getElem.mp member
        have within : place < table.length := by omega
        obtain ⟨shorter, first⟩ := longest place within _ (List.getElem?_eq_getElem within) selects
        have le := UInt8.le_iff_toNat_le.mp shorter
        refine lt_of_le_of_ne le ?_
        intro same
        have earlier := first (UInt8.toNat_inj.mp same)
        omega
      · intro entry member selects
        obtain ⟨place, within⟩ := List.getElem?_of_mem (List.mem_of_mem_drop member)
        exact UInt8.le_iff_toNat_le.mp
          (longest place (List.getElem?_eq_some_iff.mp within).1 entry within selects).1

theorem planned_best (routes : List Route) (dgram : InternetDatagram) :
    planned (routes.map Route.entry) dgram =
      if dgram.header.ttl ≤ 1 then none
      else (firstMax (Applies dgram.header.dst) (·.prefixLength.toNat) routes).map (sends dgram) := by
  unfold planned
  rw [selected_firstMax, firstMax_map, Option.map_map]
  rfl

theorem routed_calls (interfaces : List AsyncNetworkInterface) (routes : List Route)
    (dgram : InternetDatagram) :
    (routeOneDatagramLogged (routed interfaces routes) dgram).1 =
      (planned (routes.map Route.entry) dgram).toList := by
  rw [routeOneDatagramLogged_calls, routed_table]

theorem routed_calls_inj {interfaces : List AsyncNetworkInterface} {routes others : List Route}
    {dgram : InternetDatagram} :
    (routeOneDatagramLogged (routed interfaces routes) dgram).1 =
        (routeOneDatagramLogged (routed interfaces others) dgram).1 ↔
      planned (routes.map Route.entry) dgram = planned (others.map Route.entry) dgram := by
  rw [routed_calls, routed_calls]
  cases planned (routes.map Route.entry) dgram <;> cases planned (others.map Route.entry) dgram <;> simp

/-! ### The bits of a prefix -/

section Bits

variable {route : Route} (length : route.prefixLength.toNat ≤ 32)
include length

theorem applies_iff (dst : UInt32) : Applies dst route ↔ Proper route ∧ Matches route dst := by
  constructor
  · intro applies
    have proper : Proper route := by
      refine ⟨length, ?_⟩
      intro bit _ below
      have hidden : route.routePrefix.toBitVec.getMsbD bit =
          (dst &&& route.entry.prefixMask).toBitVec.getMsbD bit := by rw [applies]; rfl
      rw [hidden, UInt32.toBitVec_and, BitVec.getMsbD_and, mask_bit length,
        decide_eq_false (Nat.not_lt.mpr below), Bool.and_false]
    exact ⟨proper, (entry_matches proper dst).mp applies⟩
  · rintro ⟨proper, agree⟩
    exact (entry_matches proper dst).mpr agree

theorem masked_bit (bit : Nat) : (masked route).routePrefix.toBitVec.getMsbD bit =
    (route.routePrefix.toBitVec.getMsbD bit && decide (bit < route.prefixLength.toNat)) := by
  rw [masked, UInt32.toBitVec_and, BitVec.getMsbD_and, mask_bit length]

theorem masked_proper : Proper (masked route) := by
  refine ⟨length, ?_⟩
  intro bit _ below
  have outside : decide (bit < route.prefixLength.toNat) = false := decide_eq_false (Nat.not_lt.mpr below)
  rw [masked_bit length, outside, Bool.and_false]

theorem masked_matches (dst : UInt32) : Matches (masked route) dst ↔ Matches route dst := by
  have same : ∀ bit < route.prefixLength.toNat,
      (masked route).routePrefix.toBitVec.getMsbD bit = route.routePrefix.toBitVec.getMsbD bit := by
    intro bit inside
    rw [masked_bit length, decide_eq_true inside, Bool.and_true]
  exact forall₂_congr fun bit inside => by rw [same bit inside]

theorem masked_applies (dst : UInt32) : Applies dst (masked route) ↔ Matches route dst := by
  rw [applies_iff (show (masked route).prefixLength.toNat ≤ 32 from length), masked_matches length]
  exact and_iff_right (masked_proper length)

end Bits

theorem masked_eq {route : Route} (proper : Proper route) : masked route = route := by
  obtain ⟨length, noHostBits⟩ := proper
  have same : (masked route).routePrefix = route.routePrefix := by
    apply UInt32.toBitVec_inj.mp
    apply BitVec.eq_of_getMsbD_eq
    intro bit inside
    rw [masked_bit length]
    by_cases network : bit < route.prefixLength.toNat
    · rw [decide_eq_true network, Bool.and_true]
    · rw [noHostBits bit inside (Nat.not_lt.mp network), Bool.false_and]
  exact congrArg (fun word => { route with routePrefix := word }) same

section Masking

variable {front back : List Route} {route : Route} {dgram : InternetDatagram}

theorem planned_masked (length : route.prefixLength.toNat ≤ 32) :
    planned ((front ++ route :: back).map Route.entry) dgram =
        planned ((front ++ masked route :: back).map Route.entry) dgram ↔
      Proper route ∨ ¬ Matches route dgram.header.dst ∨ dgram.header.ttl ≤ 1 ∨
        Beaten front back dgram.header.dst route ∨ SameWay (front ++ back) dgram.header.dst route := by
  -- a route with host bits never applies; without them it is taken unless another one beats it. Both routes mean
  -- the same call
  by_cases proper : Proper route
  · rw [masked_eq proper]
    exact iff_of_true rfl (.inl proper)
  have dead : ¬ Applies dgram.header.dst route := fun applies => proper ((applies_iff length _).mp applies).1
  rw [planned_best, planned_best, firstMax_unfit dead]
  by_cases agree : Matches route dgram.header.dst
  case neg =>
    rw [firstMax_unfit (fun applies => agree ((masked_applies length _).mp applies))]
    exact iff_of_true rfl (.inr (.inl agree))
  have alive := (masked_applies length _).mpr agree
  by_cases old : dgram.header.ttl ≤ 1
  · rw [if_pos old, if_pos old]
    exact iff_of_true rfl (.inr (.inr (.inl old)))
  by_cases beaten : Beaten front back dgram.header.dst route
  · have loses : firstMax (Applies dgram.header.dst) (·.prefixLength.toNat) (front ++ masked route :: back) =
        firstMax (Applies dgram.header.dst) (·.prefixLength.toNat) (front ++ back) := firstMax_loses beaten
    rw [loses]
    exact iff_of_true rfl (.inr (.inr (.inr (.inl beaten))))
  have wins : firstMax (Applies dgram.header.dst) (·.prefixLength.toNat) (front ++ masked route :: back) =
      some (masked route) := by
    apply firstMax_wins alive
    · intro other member applies
      exact Nat.lt_of_not_le (fun longer => beaten (.inl ⟨other, member, applies, longer⟩))
    · intro other member applies
      exact Nat.le_of_not_lt (fun longer => beaten (.inr ⟨other, member, applies, longer⟩))
  simp only [if_neg old, wins, Option.map_some, Option.map_eq_some_iff, firstMax_some_iff]
  rw [or_iff_right proper, or_iff_right (not_not.mpr agree), or_iff_right old, or_iff_right beaten]
  simp only [SameWay, sends, masked, Send.mk.injEq, true_and]

end Masking

/-- A route applies exactly when its first bits are those of the destination, and clearing the bits below
its length then makes no difference, only if there are no such bits or the first bits differ. Otherwise the
route is dead, and clearing them changes the decision unless the datagram is dropped anyway, another route
beats this one, or the best of the other routes leads the same way. -/
theorem host_bits_count (interfaces : List AsyncNetworkInterface) (front back : List Route) {route : Route}
    (length : route.prefixLength.toNat ≤ 32) (dgram : InternetDatagram) :
    let calls := fun routes => (routeOneDatagramLogged (routed interfaces routes) dgram).1
    (((Applies dgram.header.dst route ↔ Matches route dgram.header.dst) ∧
          calls (front ++ route :: back) = calls (front ++ masked route :: back)) ↔
        Proper route ∨ ¬ Matches route dgram.header.dst) ∧
      (calls (front ++ route :: back) = calls (front ++ masked route :: back) ↔
        Proper route ∨ ¬ Matches route dgram.header.dst ∨ dgram.header.ttl ≤ 1 ∨
          Beaten front back dgram.header.dst route ∨ SameWay (front ++ back) dgram.header.dst route) := by
  dsimp only
  rw [routed_calls_inj, planned_masked length, applies_iff length]
  refine ⟨?_, Iff.rfl⟩
  tauto

/-- The routes that `network_simulator.cc` adds before its last one. -/
def simulatorRoutes : List Route :=
  [⟨0, 0, some (.fromIpv4Numeric 0xab434c01), 0⟩, ⟨0x0a000000, 8, none, 1⟩, ⟨0xac100000, 16, none, 2⟩,
    ⟨0xc0a80000, 24, none, 3⟩, ⟨0xc6b2e500, 24, none, 4⟩,
    ⟨0x8fc30000, 17, some (.fromIpv4Numeric 0x8fc30001), 5⟩,
    ⟨0x8fc38000, 18, some (.fromIpv4Numeric 0x8fc30001), 5⟩,
    ⟨0x8fc3c000, 19, some (.fromIpv4Numeric 0x8fc30001), 5⟩]

def mitRoute : Route := ⟨0x801e4cff, 16, some (.fromIpv4Numeric 0x801e0001), 6⟩

def simulatorInterfaces : List AsyncNetworkInterface :=
  [0xab434c2e, 0x0a000001, 0xac100001, 0xc0a80001, 0xc6b2e501, 0x8fc30002, 0x801e4cff].map fun ip =>
    { ethernetAddress := Vector.replicate 6 2, ipAddress := .fromIpv4Numeric ip }

/-- A datagram for 128.30.1.1 leaves for the default router; with the host bits of the route cleared it
leaves for the network of the route. -/
theorem simulator_route_dead :
    let dgram : InternetDatagram := { header := { len := 20, ttl := 64, dst := 0x801e0101 } }
    let calls := fun routes => (routeOneDatagramLogged (routed simulatorInterfaces routes) dgram).1
    Matches mitRoute 0x801e0101 ∧ ¬ Applies 0x801e0101 mitRoute ∧
      calls (simulatorRoutes ++ [mitRoute]) =
        [⟨0, decrementTtl dgram, .fromIpv4Numeric 0xab434c01⟩] ∧
      calls (simulatorRoutes ++ [masked mitRoute]) =
        [⟨6, decrementTtl dgram, .fromIpv4Numeric 0x801e0001⟩] := by
  decide +kernel

theorem simulator_route_elsewhere :
    let dgram : InternetDatagram := { header := { len := 20, ttl := 64, dst := 0x801f0101 } }
    let calls := fun routes => (routeOneDatagramLogged (routed simulatorInterfaces routes) dgram).1
    mitRoute.prefixLength.toNat ≤ 32 ∧
      calls (simulatorRoutes ++ [mitRoute]) = calls (simulatorRoutes ++ [masked mitRoute]) := by
  have short : mitRoute.prefixLength.toNat ≤ 32 := by decide
  have differs : ¬ Matches mitRoute 0x801f0101 := by decide
  exact ⟨short, (host_bits_count simulatorInterfaces simulatorRoutes [] short _).2.mpr (.inr (.inl differs))⟩

/-! ### The order of the routes -/

theorem applies_same {dst : UInt32} {route other : Route} (applies : Applies dst route)
    (otherApplies : Applies dst other) (length : route.prefixLength = other.prefixLength) :
    route.routePrefix = other.routePrefix := by
  have mask : route.entry.prefixMask = other.entry.prefixMask := by simp only [Route.entry, length]
  calc route.routePrefix = dst &&& route.entry.prefixMask := applies.symm
    _ = dst &&& other.entry.prefixMask := by rw [mask]
    _ = other.routePrefix := otherApplies

theorem applies_unique {routes : List Route} {dst : UInt32}
    (distinct : routes.Pairwise fun route other =>
      ¬ (route.prefixLength = other.prefixLength ∧ Matches route other.routePrefix)) :
    ∀ route ∈ routes, ∀ other ∈ routes, Applies dst route → Applies dst other →
      route.prefixLength.toNat = other.prefixLength.toNat → route = other := by
  let Alone (route other : Route) : Prop := Applies dst route → Applies dst other →
    route.prefixLength.toNat = other.prefixLength.toNat → route = other
  have symmetric : Std.Symm Alone :=
    ⟨fun _ _ alone applies otherApplies same => (alone otherApplies applies same.symm).symm⟩
  have pairs : routes.Pairwise Alone := by
    refine distinct.imp ?_
    intro route other different applies otherApplies same
    have length := UInt8.toNat_inj.mp same
    have bits : Matches route other.routePrefix := by
      intro bit _
      rw [applies_same applies otherApplies length]
    exact absurd ⟨length, bits⟩ different
  intro route member other otherMember
  exact pairs.forall_of_forall (fun _ _ _ _ _ => rfl) member otherMember

theorem routed_alike {interfaces : List AsyncNetworkInterface} {routes others : List Route}
    {dgram : InternetDatagram}
    (same : planned (routes.map Route.entry) dgram = planned (others.map Route.entry) dgram) :
    let outcome := (routed interfaces routes).routeOneDatagram dgram
    let other := (routed interfaces others).routeOneDatagram dgram
    outcome.1 = other.1 ∧ outcome.2.1 = other.2.1 ∧ outcome.2.2.interfaces = other.2.2.interfaces := by
  have held : ∀ routes, (routed interfaces routes).interfaces = interfaces := by
    intro routes
    rw [routed, addRoute_foldl]
  simp only [routeOneDatagram_planned, routed_table, ← same]
  cases planned (routes.map Route.entry) dgram with
  | none => exact ⟨rfl, rfl, by rw [held, held]⟩
  | some send =>
      simp only [onInterface, held]
      cases interfaces[send.interfaceNum]? with
      | none => exact ⟨rfl, trivial, by rw [held, held]⟩
      | some a => exact ⟨rfl, trivial, rfl⟩

/-- The decision, and all that it leads to, is the same for any order of routes no two of which have the
same length and the same first bits. -/
theorem order_independent {routes others : List Route} (perm : routes.Perm others)
    (distinct : routes.Pairwise fun route other =>
      ¬ (route.prefixLength = other.prefixLength ∧ Matches route other.routePrefix))
    (interfaces : List AsyncNetworkInterface) (dgram : InternetDatagram) :
    let r := routed interfaces routes
    let s := routed interfaces others
    (routeOneDatagramLogged r dgram).1 = (routeOneDatagramLogged s dgram).1 ∧
      (r.routeOneDatagram dgram).1 = (s.routeOneDatagram dgram).1 ∧
      (r.routeOneDatagram dgram).2.1 = (s.routeOneDatagram dgram).2.1 ∧
      (r.routeOneDatagram dgram).2.2.interfaces = (s.routeOneDatagram dgram).2.2.interfaces := by
  have same : planned (routes.map Route.entry) dgram = planned (others.map Route.entry) dgram := by
    rw [planned_best, planned_best, firstMax_perm perm (applies_unique distinct)]
  exact ⟨routed_calls_inj.mpr same, routed_alike same⟩

theorem simulator_reversed :
    let dgram : InternetDatagram := { header := { len := 20, ttl := 64, dst := 0x8fc3c105 } }
    let calls := fun routes => (routeOneDatagramLogged (routed simulatorInterfaces routes) dgram).1
    calls simulatorRoutes = calls simulatorRoutes.reverse := by
  exact (order_independent (List.reverse_perm simulatorRoutes).symm (by decide) simulatorInterfaces _).1

end Sponge.RouterTables

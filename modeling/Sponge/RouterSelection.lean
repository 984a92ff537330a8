import Sponge.Router

/-! Which route `route_one_datagram` selects: the longest matching prefix, and the first one added among
equally long ones. -/

namespace Sponge.RouterSelection

open Router

/-- The first `prefixLength` bits of the destination are those of the route. -/
def Matches (route : Route) (dst : UInt32) : Prop :=
  ∀ bit < route.prefixLength.toNat,
    dst.toBitVec.getMsbD bit = route.routePrefix.toBitVec.getMsbD bit

/-- A prefix length that exists, and no bit set below it. -/
def Proper (route : Route) : Prop :=
  route.prefixLength.toNat ≤ 32 ∧ ∀ bit < 32, route.prefixLength.toNat ≤ bit →
    route.routePrefix.toBitVec.getMsbD bit = false

instance (route : Route) (dst : UInt32) : Decidable (Matches route dst) :=
  inferInstanceAs (Decidable (∀ bit < route.prefixLength.toNat, _))

instance (route : Route) : Decidable (Proper route) := inferInstanceAs (Decidable (_ ∧ _))

/-- `route` is the entry at `position`; it matches, no matching entry has a longer prefix, and none
before it one of the same length. -/
structure Longest (routes : List Route) (dst : UInt32) (position : Nat) (route : Route) : Prop where
  entry : routes[position]? = some route
  matching : Matches route dst
  longest : ∀ other ∈ routes, Matches other dst → other.prefixLength ≤ route.prefixLength
  first : ∀ place other, routes[place]? = some other → Matches other dst →
    other.prefixLength = route.prefixLength → position ≤ place

def routed (interfaces : List AsyncNetworkInterface) (routes : List Route) : Router :=
  routes.foldl (fun r e => r.addRoute e.routePrefix e.prefixLength e.nextHop e.interfaceNum)
    { interfaces := interfaces }

/-- The datagram leaves with its ttl decreased on the interface of `route`. -/
def forward (r : Router) (route : Route) (dgram : InternetDatagram) :
    Except String Unit × InternetDatagram × Router :=
  let nextHop := route.nextHop.getD (.fromIpv4Numeric dgram.header.dst)
  let (result, r) := r.onInterface route.interfaceNum (·.sendDatagram (decrementTtl dgram) nextHop)
  (result, decrementTtl dgram, r)

/-! ### The mask -/

theorem mask_shift {route : Route} (length : route.prefixLength.toNat ≤ 32)
    (nonzero : route.prefixLength ≠ 0) :
    (32 - route.prefixLength.toUInt32).toNat % 32 = 32 - route.prefixLength.toNat := by
  have positive : 0 < route.prefixLength.toNat := by
    rw [Nat.pos_iff_ne_zero]
    intro zero
    exact nonzero (UInt8.toNat_inj.mp zero)
  have order : route.prefixLength.toUInt32 ≤ 32 := by
    rw [UInt32.le_iff_toNat_le, UInt8.toNat_toUInt32]
    exact length
  have width : (32 : UInt32).toNat = 32 := rfl
  rw [UInt32.toNat_sub_of_le _ _ order, UInt8.toNat_toUInt32, width]
  omega

theorem mask_bit {route : Route} (length : route.prefixLength.toNat ≤ 32) (bit : Nat) :
    route.entry.prefixMask.toBitVec.getMsbD bit = decide (bit < route.prefixLength.toNat) := by
  unfold Route.entry
  dsimp only
  split
  case isTrue zero => simp [zero]
  case isFalse nonzero =>
    have shift : ((32 - route.prefixLength.toUInt32).toBitVec % 32).toNat =
        32 - route.prefixLength.toNat := mask_shift length nonzero
    rw [UInt32.toBitVec_shiftLeft, BitVec.shiftLeft_eq', shift, BitVec.getMsbD_shiftLeft,
      UInt32.toBitVec_not, BitVec.getMsbD_not]
    simp only [UInt32.toBitVec_zero, BitVec.getMsbD_zero, Bool.not_false, Bool.and_true, decide_eq_decide]
    omega

theorem entry_matches {route : Route} (proper : Proper route) (dst : UInt32) :
    dst &&& route.entry.prefixMask = route.entry.routePrefix ↔ Matches route dst := by
  obtain ⟨length, noHostBits⟩ := proper
  constructor
  · intro same bit inside
    have masked := congrArg (fun word => word.toBitVec.getMsbD bit) same
    simp only [UInt32.toBitVec_and, BitVec.getMsbD_and] at masked
    rw [mask_bit length, decide_eq_true inside, Bool.and_true] at masked
    exact masked
  · intro agree
    apply UInt32.toBitVec_inj.mp
    apply BitVec.eq_of_getMsbD_eq
    intro bit inside
    rw [UInt32.toBitVec_and, BitVec.getMsbD_and, mask_bit length]
    by_cases network : bit < route.prefixLength.toNat
    · rw [decide_eq_true network, Bool.and_true]
      exact agree bit network
    · rw [decide_eq_false network, Bool.and_false]
      exact (noHostBits bit inside (Nat.not_lt.mp network)).symm

theorem matches_everything {route : Route} (length : route.prefixLength = 0) (dst : UInt32) :
    Matches route dst := by
  intro bit inside
  rw [length] at inside
  cases inside

theorem matches_exactly {route : Route} (length : route.prefixLength = 32) (dst : UInt32) :
    Matches route dst ↔ dst = route.routePrefix := by
  have width : route.prefixLength.toNat = 32 := by rw [length]; rfl
  constructor
  · intro agree
    apply UInt32.toBitVec_inj.mp
    apply BitVec.eq_of_getMsbD_eq
    intro bit inside
    exact agree bit (by omega)
  · rintro rfl bit _
    rfl

/-! ### The scan -/

def Selects (entry : RoutingTableEntry) (dst : UInt32) : Prop :=
  dst &&& entry.prefixMask = entry.routePrefix

/-- What `target` is after the first `count` entries: `end()` while none of them matched, afterwards the
first of the longest matching ones. -/
inductive BestBefore (table : List RoutingTableEntry) (dst : UInt32) (count target : Nat) : Prop
  | unset (atEnd : target = table.length)
      (unmatched : ∀ place < count, ∀ entry, table[place]? = some entry → ¬ Selects entry dst)
  | set (best : RoutingTableEntry) (earlier : target < count) (found : table[target]? = some best)
      (matching : Selects best dst)
      (longest : ∀ place < count, ∀ entry, table[place]? = some entry → Selects entry dst →
        entry.prefixLength ≤ best.prefixLength ∧
          (entry.prefixLength = best.prefixLength → target ≤ place))

section Scan

variable {table rest : List RoutingTableEntry} {dst : UInt32} {entry : RoutingTableEntry}
  {target position : Nat}

theorem BestBefore.skip (best : BestBefore table dst position target)
    (here : table[position]? = some entry) (unmatched : ¬ Selects entry dst) :
    BestBefore table dst (position + 1) target := by
  cases best with
  | unset atEnd before =>
      apply BestBefore.unset atEnd
      refine Nat.forall_lt_succ_right.mpr ⟨before, ?_⟩
      intro other same
      rw [here, Option.some_inj] at same
      rwa [← same]
  | set best earlier found matching longest =>
      apply BestBefore.set best (Nat.lt_succ_of_lt earlier) found matching
      refine Nat.forall_lt_succ_right.mpr ⟨longest, ?_⟩
      intro other same selects
      rw [here, Option.some_inj] at same
      rw [← same] at selects
      exact (unmatched selects).elim

theorem BestBefore.replace (best : BestBefore table dst position target)
    (here : table[position]? = some entry) (matching : Selects entry dst)
    (better : ∀ old, target < position → table[target]? = some old →
      old.prefixLength < entry.prefixLength) :
    BestBefore table dst (position + 1) position := by
  apply BestBefore.set entry (Nat.lt_succ_self position) here matching
  refine Nat.forall_lt_succ_right.mpr ⟨?_, ?_⟩
  · intro place before other found selects
    cases best with
    | unset _ unmatched => exact (unmatched place before other found selects).elim
    | set old earlier oldFound _ longest =>
        have shorter := better old earlier oldFound
        obtain ⟨le, _⟩ := longest place before other found selects
        refine ⟨UInt8.le_of_lt (UInt8.lt_of_le_of_lt le shorter), ?_⟩
        intro same
        rw [same] at le
        exact (UInt8.not_le.mpr shorter le).elim
  · intro other same _
    rw [here, Option.some_inj] at same
    rw [← same]
    exact ⟨UInt8.le_refl _, fun _ => Nat.le_refl _⟩

theorem BestBefore.keep {old : RoutingTableEntry} (best : BestBefore table dst position target)
    (here : table[position]? = some entry) (earlier : target < position)
    (found : table[target]? = some old) (shorter : entry.prefixLength ≤ old.prefixLength) :
    BestBefore table dst (position + 1) target := by
  cases best with
  | unset atEnd _ =>
      rw [atEnd, List.getElem?_length] at found
      cases found
  | set best _ bestFound matching longest =>
      rw [found, Option.some_inj] at bestFound
      subst bestFound
      apply BestBefore.set old (Nat.lt_succ_of_lt earlier) found matching
      refine Nat.forall_lt_succ_right.mpr ⟨longest, ?_⟩
      intro other same _
      rw [here, Option.some_inj] at same
      rw [← same]
      exact ⟨shorter, fun _ => Nat.le_of_lt earlier⟩

theorem scan_best (aligned : table.drop position = rest) (best : BestBefore table dst position target) :
    ∃ found, scan table dst target position rest = some found ∧
      BestBefore table dst table.length found := by
  induction rest generalizing target position with
  | nil =>
      refine ⟨target, rfl, ?_⟩
      have finished : table.length ≤ position := List.drop_eq_nil_iff.mp aligned
      cases best with
      | unset atEnd unmatched =>
          exact .unset atEnd (fun place inside => unmatched place (by omega))
      | set best earlier found matching longest =>
          have inside := (List.getElem?_eq_some_iff.mp found).1
          exact .set best inside found matching (fun place before => longest place (by omega))
  | cons entry rest ih =>
      have here : table[position]? = some entry := by
        rw [← Nat.add_zero position, ← List.getElem?_drop, aligned]
        rfl
      have next : table.drop (position + 1) = rest := by
        rw [← List.drop_drop, aligned]
        rfl
      simp only [scan]
      split
      case isFalse unmatched => exact ih next (best.skip here unmatched)
      case isTrue matching =>
        split
        case isTrue first =>
          exact ih next (best.replace here matching (fun _ earlier => by omega))
        case isFalse later =>
          -- a target at or before this place is one that matched, so it can be dereferenced
          have earlier : target < position := by
            have inside := (List.getElem?_eq_some_iff.mp here).1
            cases best with
            | unset atEnd _ => omega
            | set _ earlier => exact earlier
          have inside : target < table.length := by
            have bound := (List.getElem?_eq_some_iff.mp here).1
            omega
          have found : table[target]? = some table[target] := List.getElem?_eq_getElem inside
          rw [found]
          simp only
          split
          case isTrue longer =>
            apply ih next (best.replace here matching ?_)
            intro old _ same
            rw [found, Option.some_inj] at same
            rwa [← same]
          case isFalse shorter =>
            exact ih next (best.keep here earlier found (UInt8.not_lt.mp shorter))

end Scan

theorem target_best (r : Router) (dst : UInt32) :
    ∃ found, r.target dst = some found ∧ BestBefore r.routingTable dst r.routingTable.length found := by
  apply scan_best rfl
  apply BestBefore.unset rfl
  intro place before
  cases before

section Selection

variable {interfaces : List AsyncNetworkInterface} {routes : List Route} {dst : UInt32}

theorem routed_table (interfaces : List AsyncNetworkInterface) (routes : List Route) :
    (routed interfaces routes).routingTable = routes.map Route.entry := by
  rw [routed, addRoute_foldl]
  rfl

theorem best_longest (proper : ∀ route ∈ routes, Proper route) {found : Nat}
    (best : BestBefore (routes.map Route.entry) dst (routes.map Route.entry).length found) :
    ((∀ route ∈ routes, ¬ Matches route dst) ∧ found = routes.length) ∨
      ∃ route, Longest routes dst found route := by
  have selects : ∀ route ∈ routes, Selects route.entry dst ↔ Matches route dst := by
    intro route member
    exact entry_matches (proper route member) dst
  have placed : ∀ place route, routes[place]? = some route →
      place < (routes.map Route.entry).length ∧
        (routes.map Route.entry)[place]? = some route.entry := by
    intro place route found
    have inside := (List.getElem?_eq_some_iff.mp found).1
    exact ⟨by rw [List.length_map]; exact inside, by rw [List.getElem?_map, found]; rfl⟩
  cases best with
  | unset atEnd unmatched =>
      left
      rw [List.length_map] at atEnd
      refine ⟨?_, atEnd⟩
      intro route member matching
      obtain ⟨place, found⟩ := List.getElem?_of_mem member
      obtain ⟨inside, entry⟩ := placed place route found
      exact unmatched place inside route.entry entry ((selects route member).mpr matching)
  | set entry _ foundEntry matching longest =>
      right
      rw [List.getElem?_map, Option.map_eq_some_iff] at foundEntry
      obtain ⟨route, foundRoute, rfl⟩ := foundEntry
      have member := List.mem_of_getElem? foundRoute
      refine ⟨route, foundRoute, (selects route member).mp matching, ?_, ?_⟩
      · intro other otherMember otherMatches
        obtain ⟨place, at_⟩ := List.getElem?_of_mem otherMember
        obtain ⟨inside, entry⟩ := placed place other at_
        exact (longest place inside other.entry entry
          ((selects other otherMember).mpr otherMatches)).1
      · intro place other at_ otherMatches same
        obtain ⟨inside, entry⟩ := placed place other at_
        exact (longest place inside other.entry entry
          ((selects other (List.mem_of_getElem? at_)).mpr otherMatches)).2 same

end Selection

/-- A datagram that may still be forwarded is dropped when no route matches its destination; otherwise it
leaves by the longest matching route, the first one among equally long ones. The scan never looks past the
end of the table. -/
theorem longest_prefix_match {interfaces : List AsyncNetworkInterface} {routes : List Route}
    (proper : ∀ route ∈ routes, Proper route) {dgram : InternetDatagram} (alive : 1 < dgram.header.ttl) :
    let r := routed interfaces routes
    (((∀ route ∈ routes, ¬ Matches route dgram.header.dst) ∧
          r.target dgram.header.dst = some routes.length ∧
          r.routeOneDatagram dgram = (.ok (), dgram, r)) ∨
        ∃ position route, Longest routes dgram.header.dst position route ∧
          r.target dgram.header.dst = some position ∧
          r.routeOneDatagram dgram = forward r route dgram) ∧
      ∀ route ∈ routes, ∀ dst, (route.prefixLength = 0 → Matches route dst) ∧
        (route.prefixLength = 32 → (Matches route dst ↔ dst = route.routePrefix)) := by
  dsimp only
  refine ⟨?_, fun route _ dst => ⟨fun length => matches_everything length dst,
    fun length => matches_exactly length dst⟩⟩
  obtain ⟨found, scanned, best⟩ := target_best (routed interfaces routes) dgram.header.dst
  have live : ¬ dgram.header.ttl ≤ 1 := UInt8.not_le.mpr alive
  rw [routed_table] at best
  rcases best_longest proper best with ⟨unmatched, rfl⟩ | ⟨route, longest⟩
  · left
    refine ⟨unmatched, scanned, ?_⟩
    have outside : (routed interfaces routes).routingTable[routes.length]? = none := by
      rw [routed_table, List.getElem?_eq_none (by rw [List.length_map])]
    simp only [routeOneDatagram, if_neg live, scanned, outside]
  · right
    refine ⟨found, route, longest, scanned, ?_⟩
    have selected : (routed interfaces routes).routingTable[found]? = some route.entry := by
      rw [routed_table, List.getElem?_map, longest.entry]
      rfl
    simp only [routeOneDatagram, if_neg live, scanned, selected, forward, Route.entry]
    cases route.nextHop <;> rfl

def nestedRoutes : List Route :=
  [⟨0, 0, none, 0⟩, ⟨0x0A000000, 8, none, 1⟩, ⟨0x0A000000, 8, none, 2⟩, ⟨0x0A010204, 32, none, 3⟩]

def nestedInterfaces : List AsyncNetworkInterface :=
  [0xC0A80001, 0x0A000001, 0x0A000002, 0x0A010201].map fun ip =>
    { ethernetAddress := Vector.replicate 6 2, ipAddress := .fromIpv4Numeric ip }

theorem nested_match :
    let dgram : InternetDatagram := ⟨{ dst := 0x0A010203, ttl := 2 }, {}⟩
    let r := routed nestedInterfaces nestedRoutes
    (∃ position route, Longest nestedRoutes 0x0A010203 position route ∧
        r.target 0x0A010203 = some position ∧ r.routeOneDatagram dgram = forward r route dgram) ∧
      (r.routeOneDatagram dgram).1 = .ok () ∧
      (r.routeOneDatagram dgram).2.2.interfaces.map (·.arpPendingDatagrams) =
        [[], [(0x0A010203, ⟨{ dst := 0x0A010203, ttl := 1 }, {}⟩)], [], []] := by
  refine ⟨?_, by decide +kernel, by decide +kernel⟩
  rcases (@longest_prefix_match nestedInterfaces nestedRoutes (by decide)
    ⟨{ dst := 0x0A010203, ttl := 2 }, {}⟩ (by decide)).1 with ⟨unmatched, _⟩ | taken
  · exact absurd (by decide) (unmatched ⟨0x0A000000, 8, none, 1⟩ (by simp [nestedRoutes]))
  · exact taken

end Sponge.RouterSelection

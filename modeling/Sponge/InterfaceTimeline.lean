import Sponge.InterfaceEffects
import Sponge.TimedLog

/-! ARP requests are rate-limited: how much time passes between two requests for one address, along any run
and whatever the datagrams are like. -/

namespace Sponge.InterfaceTimeline

open NetworkInterface InterfaceArp InterfaceEffects TimedLog Transition

def asksFor (ip : UInt32) (frame : EthernetFrame) : Bool :=
  match carried frame with
  | some message => message.opcode == ARPMessage.opcodeRequest && message.targetIpAddress == ip
  | none => false

structure Timeline where
  interface : NetworkInterface
  /-- The durations of the ticks and the frames pushed. -/
  log : List (Event EthernetFrame) := []

def elapsing : Operation → List (Event EthernetFrame)
  | .tick ms => [.elapsed ms]
  | _ => []

def pushed (i j : NetworkInterface) : List EthernetFrame := j.framesOut.drop i.framesOut.length

/-- What is logged for an operation that leads from `i` to `j`; the time of a tick comes before its frames. -/
def logged (i : NetworkInterface) (op : Operation) (j : NetworkInterface) : List (Event EthernetFrame) :=
  elapsing op ++ (pushed i j).map .seen

def observe (t : Timeline) (op : Operation) : Timeline where
  interface := t.interface.operate op
  log := t.log ++ logged t.interface op (t.interface.operate op)

/-! ### Which frames ask -/

section Frames

variable {i : NetworkInterface} {ip : UInt32}

theorem data_unasked {frames : List EthernetFrame} (data : Data frames) :
    ∀ frame ∈ frames, asksFor ip frame = false := by
  intro frame member
  have other : frame.header.type ≠ EthernetHeader.typeARP := by
    rw [data frame member]
    decide
  rw [asksFor, carried, if_neg other]

theorem replies_unasked {message : ARPMessage} : ∀ frame ∈ i.replies message, asksFor ip frame = false := by
  unfold replies
  split
  case isFalse => exact List.forall_mem_nil _
  case isTrue =>
    intro frame member
    obtain ⟨message, generated, carries, _⟩ := generateARPFrame_carried (mem_arpFrames.mp member)
    rw [asksFor, carries]
    simp only [(generateARPMessage_fields generated).1]
    rfl

theorem arpFrames_asks {own : UInt32} (address : i.ipAddress.ipv4 = some own) (hop : UInt32) :
    ∃ frame, i.arpFrames hop ARPMessage.opcodeRequest = [frame] ∧ ∀ ip, asksFor ip frame = (hop == ip) := by
  obtain ⟨frame, made⟩ := i.generateARPFrame_own address hop (.inl rfl)
  refine ⟨frame, by rw [arpFrames, made]; rfl, ?_⟩
  intro ip
  obtain ⟨message, generated, carries, _⟩ := generateARPFrame_carried made
  obtain ⟨opcode, target, _⟩ := generateARPMessage_fields generated
  rw [asksFor, carries]
  simp only [opcode, target, beq_self_eq_true, Bool.true_and]

theorem arpFrames_foreign (foreign : i.ipAddress.ipv4 = none) (hop : UInt32) (opcode : UInt16) :
    i.arpFrames hop opcode = [] := by
  simp [arpFrames, generateARPFrame, generateARPMessage, Address.ipv4Numeric, foreign, Except.toOption]

theorem requests_foreign (foreign : i.ipAddress.ipv4 = none) (ms : Nat) (entries : List (UInt32 × Nat)) :
    i.requests ms entries = [] := by
  simp [requests, arpFrames_foreign foreign]

theorem requests_unasked {ms : Nat} {entries : List (UInt32 × Nat)}
    (left : ∀ entry ∈ entries, entry.1 = ip → ms < entry.2) :
    ∀ frame ∈ i.requests ms entries, asksFor ip frame = false := by
  intro frame member
  obtain ⟨entry, due, sent⟩ := List.mem_flatMap.mp member
  obtain ⟨present, late⟩ := List.mem_filter.mp due
  cases address : i.ipAddress.ipv4 with
  | none =>
      rw [arpFrames_foreign address] at sent
      cases sent
  | some own =>
      obtain ⟨request, only, asks⟩ := arpFrames_asks address entry.1
      rw [only, List.mem_singleton] at sent
      subst sent
      rw [asks, beq_eq_false_iff_ne]
      intro same
      exact absurd (of_decide_eq_true late) (Nat.not_le.mpr (left entry present same))

theorem requests_once {own : UInt32} (address : i.ipAddress.ipv4 = some own) {ms timer : Nat}
    {entries : List (UInt32 × Nat)} (once : (entries.map Prod.fst).Nodup) (member : (ip, timer) ∈ entries)
    (due : timer ≤ ms) : ∃ frame, (i.requests ms entries).filter (asksFor ip) = [frame] := by
  obtain ⟨front, back, rfl⟩ := List.append_of_mem member
  obtain ⟨frame, only, asks⟩ := arpFrames_asks address ip
  have parts : i.requests ms (front ++ (ip, timer) :: back) =
      i.requests ms front ++ (frame :: i.requests ms back) := by
    simp [requests, due, only]
  have alone : ∀ entry ∈ front ++ back, entry.1 ≠ ip := by
    rw [List.map_append, List.map_cons, List.nodup_middle, List.nodup_cons, ← List.map_append] at once
    intro entry present same
    exact once.1 (List.mem_map.mpr ⟨entry, present, same⟩)
  obtain ⟨before, behind⟩ := List.forall_mem_append.mp alone
  have unasked : ∀ entries : List (UInt32 × Nat), (∀ entry ∈ entries, entry.1 ≠ ip) →
      (i.requests ms entries).filter (asksFor ip) = [] := by
    intro entries others
    apply List.filter_eq_nil_iff.mpr
    intro request present
    rw [requests_unasked (fun entry member same => absurd same (others entry member)) request present]
    decide
  refine ⟨frame, ?_⟩
  rw [parts, List.filter_append, unasked front before, List.filter_cons_of_pos (by rw [asks]; simp),
    unasked back behind, List.nil_append]

end Frames

/-! ### What is asked for -/

structure Orderly (i : NetworkInterface) : Prop where
  once : (asked i).Nodup
  unknown : ∀ ip ∈ asked i, i.arpTable ip = none

variable {i j : NetworkInterface} {op : Operation}

theorem Orderly.step (orderly : Orderly i) (effect : Effect i op j) : Orderly j := by
  cases effect with
  | passes => exact ⟨orderly.once, orderly.unknown⟩
  | ignores => exact orderly
  | @asks dgram nextHop ip pending unknown new =>
      have addresses : (i.arpPendingIpAddresses ++ [(ip, defaultArpTimeout)]).map Prod.fst = asked i ++ [ip] := by
        simp [asked]
      refine ⟨?_, ?_⟩
      · rw [asked, addresses]
        exact orderly.once.append (List.nodup_singleton ip) (List.disjoint_singleton.mpr new)
      · rw [asked, addresses]
        exact List.forall_mem_append.mpr ⟨orderly.unknown, List.forall_mem_singleton.mpr unknown⟩
  | @learns frame message frames pending meant data =>
      refine ⟨orderly.once.sublist (List.filter_sublist.map Prod.fst), ?_⟩
      intro ip member
      obtain ⟨entry, kept, rfl⟩ := List.mem_map.mp member
      obtain ⟨present, other⟩ := List.mem_filter.mp kept
      have different : entry.1 ≠ message.senderIpAddress := bne_iff_ne.mp other
      exact (Function.update_of_ne different _ _).trans (orderly.unknown _ (List.mem_map_of_mem present))
  | @ticks ms =>
      refine ⟨by rw [asked, addresses_counted]; exact orderly.once, ?_⟩
      rw [asked, addresses_counted]
      exact fun ip member => aged_unknown ms (orderly.unknown ip member)
  | @fails ms passed rest foreign entries =>
      have addresses : (passed.map (counted ms) ++ rest).map Prod.fst = asked i := by
        rw [asked, entries, List.map_append, List.map_append, addresses_counted]
      exact ⟨by rw [asked, addresses]; exact orderly.once, by rw [asked, addresses]; exact orderly.unknown⟩

/-! ### The time since the last request -/

/-- How the time since the last request for an address goes with the state: while the address is asked for,
the timer makes it up to the timeout; an address in the table was asked for before it was learned; and
otherwise the timeout is over. -/
structure Timed (i : NetworkInterface) (ages : UInt32 → Option Nat) : Prop where
  running : ∀ entry ∈ i.arpPendingIpAddresses, ∀ age, ages entry.1 = some age → age + entry.2 = 5000
  known : ∀ ip entry, i.arpTable ip = some entry → ∀ age, ages ip = some age → 30000 ≤ age + entry.2
  resting : ∀ ip, ip ∉ asked i → i.arpTable ip = none → ∀ age, ages ip = some age → 5000 ≤ age

def agesAfter (ages : UInt32 → Option Nat) (i : NetworkInterface) (op : Operation) (j : NetworkInterface)
    (ip : UInt32) : Option Nat :=
  since (asksFor ip) (ages ip) (logged i op j)

theorem logged_append {frames : List EthernetFrame} (appended : j.framesOut = i.framesOut ++ frames) :
    logged i op j = elapsing op ++ frames.map .seen := by
  rw [logged, pushed, appended, List.drop_left]

def aging : Operation → Option Nat → Option Nat
  | .tick ms, age => age.map (· + ms)
  | _, age => age

section Steps

variable {ages : UInt32 → Option Nat} {frames : List EthernetFrame} {ip : UInt32}

theorem elapsing_step (op : Operation) (start : Option Nat) :
    Paced (asksFor ip) 5000 start (elapsing op) ∧ since (asksFor ip) start (elapsing op) = aging op start := by
  cases op with
  | sendDatagram => exact ⟨trivial, rfl⟩
  | recvFrame => exact ⟨trivial, rfl⟩
  | tick ms => exact ⟨paced_elapsed ms, rfl⟩

theorem unasked_step (appended : j.framesOut = i.framesOut ++ frames)
    (unasked : ∀ frame ∈ frames, asksFor ip frame = false) :
    Paced (asksFor ip) 5000 (ages ip) (logged i op j) ∧ agesAfter ages i op j ip = aging op (ages ip) := by
  obtain ⟨paced, aged⟩ := elapsing_step op (ages ip)
  rw [agesAfter, logged_append appended, paced_append, since_append, aged]
  exact ⟨⟨paced, paced_unseen unasked⟩, since_unseen unasked⟩

theorem asked_step {frame : EthernetFrame} (appended : j.framesOut = i.framesOut ++ frames)
    (once : frames.filter (asksFor ip) = [frame])
    (apart : ∀ age, aging op (ages ip) = some age → 5000 ≤ age) :
    Paced (asksFor ip) 5000 (ages ip) (logged i op j) ∧ agesAfter ages i op j ip = some 0 := by
  obtain ⟨paced, aged⟩ := elapsing_step op (ages ip)
  rw [agesAfter, logged_append appended, paced_append, since_append, aged]
  exact ⟨⟨paced, paced_once once apart⟩, since_once once⟩

theorem quiet_step (appended : j.framesOut = i.framesOut ++ frames) (timeless : ∀ age, aging op age = age)
    (unasked : ∀ ip, ∀ frame ∈ frames, asksFor ip frame = false) (after : Timed j ages) :
    (∀ ip, Paced (asksFor ip) 5000 (ages ip) (logged i op j)) ∧ Timed j (agesAfter ages i op j) := by
  have same : agesAfter ages i op j = ages := by
    funext ip
    exact (unasked_step appended (unasked ip)).2.trans (timeless _)
  rw [same]
  exact ⟨fun ip => (unasked_step appended (unasked ip)).1, after⟩

theorem silent_step (effect : Effect i op j) (foreign : i.ipAddress.ipv4 = none) (silent : ages ip = none) :
    Paced (asksFor ip) 5000 (ages ip) (logged i op j) ∧ agesAfter ages i op j ip = none := by
  have still : aging op (ages ip) = none := by
    rw [silent]
    cases op <;> rfl
  rw [← still]
  cases effect with
  | passes data => exact unasked_step rfl (data_unasked data)
  | asks => exact unasked_step rfl (by rw [arpFrames_foreign foreign]; exact List.forall_mem_nil _)
  | ignores => exact unasked_step (List.append_nil _).symm (List.forall_mem_nil _)
  | learns meant =>
      rw [heard_own meant] at foreign
      cases foreign
  | ticks => exact unasked_step rfl (by rw [requests_foreign foreign]; exact List.forall_mem_nil _)
  | fails => exact unasked_step rfl (by rw [requests_foreign foreign]; exact List.forall_mem_nil _)

theorem Timed.ask {hop : UInt32} {frame : EthernetFrame} (timed : Timed i ages)
    (unknown : i.arpTable hop = none) (new : hop ∉ asked i) (asks : ∀ ip, asksFor ip frame = (hop == ip))
    (timeless : ∀ age, aging op age = age) (appended : j.framesOut = i.framesOut ++ [frame])
    (pending : j.arpPendingIpAddresses = i.arpPendingIpAddresses ++ [(hop, defaultArpTimeout)])
    (table : j.arpTable = i.arpTable) :
    (∀ ip, Paced (asksFor ip) 5000 (ages ip) (logged i op j)) ∧ Timed j (agesAfter ages i op j) := by
  have here : Paced (asksFor hop) 5000 (ages hop) (logged i op j) ∧ agesAfter ages i op j hop = some 0 := by
    have once : [frame].filter (asksFor hop) = [frame] := by simp [asks]
    apply asked_step appended once
    rw [timeless]
    exact timed.resting hop new unknown
  have others : ∀ ip, ip ≠ hop →
      Paced (asksFor ip) 5000 (ages ip) (logged i op j) ∧ agesAfter ages i op j ip = ages ip := by
    intro ip other
    have unasked : ∀ request ∈ [frame], asksFor ip request = false := by
      rw [List.forall_mem_singleton, asks, beq_eq_false_iff_ne]
      exact other.symm
    have step := @unasked_step i j op ages _ ip appended unasked
    rwa [timeless] at step
  refine ⟨?_, ?_, ?_, ?_⟩
  · intro ip
    by_cases same : ip = hop
    · exact same ▸ here.1
    · exact (others ip same).1
  · rw [pending]
    refine List.forall_mem_append.mpr ⟨?_, List.forall_mem_singleton.mpr ?_⟩
    · intro entry member
      have other : entry.1 ≠ hop := by
        rintro rfl
        exact new (List.mem_map_of_mem member)
      rw [(others entry.1 other).2]
      exact timed.running entry member
    · intro age found
      rw [here.2] at found
      cases found
      rfl
  · intro ip entry found
    rw [table] at found
    have other : ip ≠ hop := by
      rintro rfl
      rw [unknown] at found
      cases found
    rw [(others ip other).2]
    exact timed.known ip entry found
  · intro ip unasked
    rw [asked, pending, List.map_append, List.mem_append, not_or] at unasked
    have other : ip ≠ hop := by simpa using unasked.2
    rw [(others ip other).2, table]
    exact timed.resting ip unasked.1

theorem Timed.learn {message : ARPMessage} (timed : Timed i ages)
    (pending : j.arpPendingIpAddresses =
      i.arpPendingIpAddresses.filter fun e => e.1 != message.senderIpAddress)
    (table : j.arpTable = i.taught message) : Timed j ages := by
  refine ⟨?_, ?_, ?_⟩
  · intro entry member
    rw [pending] at member
    exact timed.running entry (List.mem_of_mem_filter member)
  · intro ip entry found age last
    rw [table] at found
    by_cases sender : ip = message.senderIpAddress
    · subst sender
      cases (i.taught_sender message).symm.trans found
      exact Nat.le_add_left _ _
    · exact timed.known ip entry ((Function.update_of_ne sender _ _).symm.trans found) age last
  · intro ip unasked absent
    rw [table] at absent
    have other : ip ≠ message.senderIpAddress := by
      rintro rfl
      cases (i.taught_sender message).symm.trans absent
    apply timed.resting ip
    · intro before
      obtain ⟨entry, present, rfl⟩ := List.mem_map.mp before
      apply unasked
      rw [asked, pending]
      exact List.mem_map_of_mem (List.mem_filter.mpr ⟨present, bne_iff_ne.mpr other⟩)
    · exact (Function.update_of_ne other _ _).symm.trans absent

section Tick

variable {ms timer : Nat}

theorem Timed.due {own : UInt32} (address : i.ipAddress.ipv4 = some own) (orderly : Orderly i)
    (timed : Timed i ages) (appended : j.framesOut = i.framesOut ++ i.requests ms i.arpPendingIpAddresses)
    (member : (ip, timer) ∈ i.arpPendingIpAddresses) (late : timer ≤ ms) :
    Paced (asksFor ip) 5000 (ages ip) (logged i (.tick ms) j) ∧ agesAfter ages i (.tick ms) j ip = some 0 := by
  obtain ⟨frame, once⟩ := requests_once address orderly.once member late
  apply asked_step appended once
  intro later found
  obtain ⟨age, last, rfl⟩ := Option.map_eq_some_iff.mp found
  have total := timed.running _ member age last
  dsimp only at total
  omega

theorem waiting_step (appended : j.framesOut = i.framesOut ++ i.requests ms i.arpPendingIpAddresses)
    (left : ∀ entry ∈ i.arpPendingIpAddresses, entry.1 = ip → ms < entry.2) :
    Paced (asksFor ip) 5000 (ages ip) (logged i (.tick ms) j) ∧
      agesAfter ages i (.tick ms) j ip = (ages ip).map (· + ms) :=
  unasked_step appended (requests_unasked left)

theorem unasked_left (absent : ip ∉ asked i) : ∀ entry ∈ i.arpPendingIpAddresses, entry.1 = ip → ms < entry.2 :=
  fun _ member same => absurd (same ▸ List.mem_map_of_mem member) absent

theorem Orderly.left (orderly : Orderly i) (member : (ip, timer) ∈ i.arpPendingIpAddresses) (left : ms < timer) :
    ∀ entry ∈ i.arpPendingIpAddresses, entry.1 = ip → ms < entry.2 := by
  intro entry present same
  have equal : entry = (ip, timer) := List.inj_on_of_nodup_map orderly.once present member same
  rw [equal]
  exact left

theorem Timed.tick {own : UInt32} (address : i.ipAddress.ipv4 = some own) (orderly : Orderly i)
    (timed : Timed i ages) (appended : j.framesOut = i.framesOut ++ i.requests ms i.arpPendingIpAddresses)
    (pending : j.arpPendingIpAddresses = i.arpPendingIpAddresses.map (counted ms))
    (table : j.arpTable = i.aged ms) :
    (∀ ip, Paced (asksFor ip) 5000 (ages ip) (logged i (.tick ms) j)) ∧
      Timed j (agesAfter ages i (.tick ms) j) := by
  -- the time of a tick passes: where the timer runs out a request is pushed and both start anew
  refine ⟨?_, ?_, ?_, ?_⟩
  · intro ip
    by_cases late : ∃ timer, (ip, timer) ∈ i.arpPendingIpAddresses ∧ timer ≤ ms
    · obtain ⟨timer, member, late⟩ := late
      exact (timed.due address orderly appended member late).1
    · apply (waiting_step appended _).1
      rintro ⟨_, timer⟩ member rfl
      exact Nat.lt_of_not_le (fun early => late ⟨timer, member, early⟩)
  · rw [pending]
    intro entry member age found
    obtain ⟨⟨ip, timer⟩, present, rfl⟩ := List.mem_map.mp member
    simp only [counted] at found ⊢
    by_cases late : timer ≤ ms
    · rw [(timed.due address orderly appended present late).2] at found
      cases found
      rw [if_pos late]
      rfl
    · rw [(waiting_step appended (orderly.left present (Nat.lt_of_not_le late))).2] at found
      obtain ⟨before, last, rfl⟩ := Option.map_eq_some_iff.mp found
      have total := timed.running _ present before last
      rw [if_neg late]
      dsimp only at total
      omega
  · intro ip entry found age last
    rw [table] at found
    obtain ⟨held, _⟩ := aged_some found
    have absent : ip ∉ asked i := by
      intro member
      rw [orderly.unknown ip member] at held
      cases held
    rw [(waiting_step appended (unasked_left absent)).2] at last
    obtain ⟨earlier, before, rfl⟩ := Option.map_eq_some_iff.mp last
    have total := timed.known ip _ held earlier before
    dsimp only at total
    omega
  · intro ip absent gone age last
    rw [asked, pending, addresses_counted] at absent
    rw [(waiting_step appended (unasked_left absent)).2] at last
    obtain ⟨earlier, before, rfl⟩ := Option.map_eq_some_iff.mp last
    rw [table] at gone
    cases held : i.arpTable ip with
    | none =>
        have rested := timed.resting ip absent held earlier before
        omega
    | some entry =>
        have total := timed.known ip entry held earlier before
        have expired := aged_none gone held
        omega

end Tick

theorem Timed.step {own : UInt32} (address : i.ipAddress.ipv4 = some own) (orderly : Orderly i)
    (timed : Timed i ages) (effect : Effect i op j) :
    (∀ ip, Paced (asksFor ip) 5000 (ages ip) (logged i op j)) ∧ Timed j (agesAfter ages i op j) := by
  cases effect with
  | passes data =>
      exact quiet_step rfl (fun _ => rfl) (fun _ => data_unasked data)
        ⟨timed.running, timed.known, timed.resting⟩
  | ignores => exact quiet_step (List.append_nil _).symm (fun _ => rfl) (fun _ => List.forall_mem_nil _) timed
  | @learns frame message frames pending meant data =>
      have unasked : ∀ ip, ∀ frame ∈ i.replies message ++ frames, asksFor ip frame = false :=
        fun ip => List.forall_mem_append.mpr ⟨replies_unasked, data_unasked data⟩
      exact quiet_step rfl (fun _ => rfl) unasked (timed.learn rfl rfl)
  | @asks dgram nextHop hop pending unknown new =>
      obtain ⟨frame, only, asks⟩ := arpFrames_asks address hop
      exact timed.ask unknown new asks (fun _ => rfl) (congrArg (i.framesOut ++ ·) only) rfl rfl
  | ticks => exact timed.tick address orderly rfl rfl rfl
  | fails foreign =>
      rw [address] at foreign
      cases foreign

end Steps

/-! ### Runs -/

def ages (log : List (Event EthernetFrame)) (ip : UInt32) : Option Nat := since (asksFor ip) none log

/-- The log is paced, and its times go with the state; without an IPv4 address it has no request. -/
structure Kept (t : Timeline) : Prop where
  orderly : Orderly t.interface
  paced : ∀ ip, Paced (asksFor ip) 5000 none t.log
  timed : t.interface.ipAddress.ipv4 ≠ none → Timed t.interface (ages t.log)
  silent : t.interface.ipAddress.ipv4 = none → ∀ ip, ages t.log ip = none

theorem Kept.observe {t : Timeline} (kept : Kept t) (op : Operation) : Kept (observe t op) := by
  have effect := operate_effect t.interface op
  have address : (InterfaceTimeline.observe t op).interface.ipAddress = t.interface.ipAddress := effect.ipAddress
  have later : ages (InterfaceTimeline.observe t op).log =
      agesAfter (ages t.log) t.interface op (t.interface.operate op) := by
    funext ip
    exact since_append
  have paced : (∀ ip, Paced (asksFor ip) 5000 (ages t.log ip)
      (logged t.interface op (t.interface.operate op))) →
      ∀ ip, Paced (asksFor ip) 5000 none (InterfaceTimeline.observe t op).log :=
    fun step ip => paced_append.mpr ⟨kept.paced ip, step ip⟩
  cases own : t.interface.ipAddress.ipv4 with
  | none =>
      have silent := kept.silent own
      refine ⟨kept.orderly.step effect, paced ?_, ?_, ?_⟩
      · exact fun ip => (silent_step effect own (silent ip)).1
      · rw [address]
        exact fun native => absurd own native
      · intro _ ip
        rw [later]
        exact (silent_step effect own (silent ip)).2
  | some ip =>
      obtain ⟨step, timed⟩ := (kept.timed (by rw [own]; simp)).step own kept.orderly effect
      refine ⟨kept.orderly.step effect, paced step, ?_, ?_⟩
      · intro _
        rw [later]
        exact timed
      · rw [address, own]
        intro foreign
        cases foreign

theorem reachable_kept {ethernetAddress : EthernetAddress} {ipAddress : Address} {t : Timeline}
    (reached : Reachable observe anything { interface := { ethernetAddress, ipAddress } } t) : Kept t := by
  refine reachable_invariant ?_ (fun t op kept _ => kept.observe op) reached
  refine ⟨⟨.nil, List.forall_mem_nil _⟩, fun _ => trivial, ?_, fun _ _ => rfl⟩
  intro _
  refine ⟨List.forall_mem_nil _, ?_, ?_⟩
  · intro ip entry known
    cases known
  · intro ip _ _ age last
    cases last

theorem Timed.pending {i : NetworkInterface} {ages : UInt32 → Option Nat} {ip : UInt32} {age : Nat}
    (timed : Timed i ages) (unknown : i.arpTable ip = none) (last : ages ip = some age) (recent : age < 5000) :
    ∃ timer, (ip, timer) ∈ i.arpPendingIpAddresses ∧ age + timer = 5000 := by
  -- an unknown address whose last request is less than five seconds old is being asked for, so that its timer
  -- makes up the rest
  have waits : ip ∈ asked i := by
    by_contra absent
    exact absurd (timed.resting ip absent unknown age last) (Nat.not_le.mpr recent)
  obtain ⟨⟨_, timer⟩, member, rfl⟩ := List.mem_map.mp waits
  exact ⟨timer, member, timed.running _ member age last⟩

/-- Along every run, any two requests for one address have at least five seconds of ticks between them; and
while an address stays unknown, the tick that brings the time since the last request for it to five seconds
pushes exactly one request for it. -/
theorem requests_rate_limited {ethernetAddress : EthernetAddress} {ipAddress : Address} {t : Timeline}
    (reached : Reachable observe anything { interface := { ethernetAddress, ipAddress } } t) (ip : UInt32) :
    (∀ front mid back f g, t.log = front ++ .seen f :: (mid ++ .seen g :: back) →
        asksFor ip f = true → asksFor ip g = true → 5000 ≤ duration mid) ∧
      ∀ age ms, ages t.log ip = some age → t.interface.arpTable ip = none → age < 5000 →
        5000 ≤ age + ms →
        ((pushed t.interface (t.interface.operate (.tick ms))).filter (asksFor ip)).length = 1 := by
  have kept := reachable_kept reached
  refine ⟨?_, ?_⟩
  · intro front mid back f g split first second
    have paced := kept.paced ip
    rw [split] at paced
    exact paced.spaced first second
  · intro age ms last unknown recent late
    cases own : t.interface.ipAddress.ipv4 with
    | none =>
        rw [kept.silent own ip] at last
        cases last
    | some address =>
        obtain ⟨timer, member, total⟩ := (kept.timed (by rw [own]; simp)).pending unknown last recent
        have due : timer ≤ ms := by omega
        rcases t.interface.tick_exact ms with returned | ⟨foreign, _⟩
        · obtain ⟨frame, once⟩ := requests_once own kept.orderly.once member due
          rw [operate, returned, pushed, List.drop_left, once]
          rfl
        · rw [own] at foreign
          cases foreign

theorem silence_rate_limited :
    let t := silence.foldl observe { interface := InterfaceLedger.host.interface }
    let frame := fun n => (t.interface.framesOut[n]?).getD {}
    t.log = [.seen (frame 0)] ++ .seen (frame 1) ::
        ([.elapsed 4000, .seen (frame 2), .elapsed 1000] ++ .seen (frame 3) :: []) ∧
      (asksFor 0x0a000003 (frame 1) = true ∧ asksFor 0x0a000003 (frame 3) = true) ∧
      ages t.log 0x0a000003 = some 0 ∧
      ((pushed t.interface (t.interface.operate (.tick 5000))).filter (asksFor 0x0a000003)).length = 1 := by
  intro t frame
  have reached : Reachable observe anything { interface := InterfaceLedger.host.interface } t :=
    reachable_run silence (allowedRun_of_forall fun _ _ _ => trivial)
  have fresh : ages t.log 0x0a000003 = some 0 := by decide +kernel
  have unknown : t.interface.arpTable 0x0a000003 = none := by decide +kernel
  exact ⟨by decide +kernel, by decide +kernel, fresh,
    (requests_rate_limited reached 0x0a000003).2 0 5000 fresh unknown (by decide) (by decide)⟩

end Sponge.InterfaceTimeline

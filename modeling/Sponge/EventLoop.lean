import Sponge.DescriptorCalls

/-! The event loop (`util/eventloop.hh`, `util/eventloop.cc`). Rules are known by a key, which stands for
the identity of a rule object; their callbacks act on a world that also holds the kernel. -/

namespace Sponge.EventLoop

open FileDescriptor

inductive Direction
  | in_
  | out
  deriving DecidableEq, Repr

def pollIn : UInt16 := 0x001

def pollOut : UInt16 := 0x004

def pollErr : UInt16 := 0x008

def pollHup : UInt16 := 0x010

def pollNval : UInt16 := 0x020

def Direction.events : Direction → UInt16
  | .in_ => pollIn
  | .out => pollOut

/-- `EventLoop::Rule`. The descriptor is shared with the callbacks, so it is read from the world. -/
structure Rule (Fd World : Type) where
  fdNum : Fd
  fd : World → FDWrapper
  direction : Direction
  callback : Action World Thrown Unit
  interest : World → Bool := fun _ => true
  cancel : Action World Thrown Unit := pure ()

inductive Result
  | success
  | timeout
  | exit
  deriving DecidableEq, Repr

/-- The rules that have been added and not cancelled, and the world that they act on. -/
structure Loop (Key World : Type) where
  rules : List Key
  world : World
  deriving DecidableEq, Repr

section Rules

variable {Fd World : Type} (rule : Rule Fd World) (w : World)

def Rule.serviceCount : Nat :=
  match rule.direction with
  | .in_ => (rule.fd w).readCount
  | .out => (rule.fd w).writeCount

def Rule.defunct : Bool := rule.direction == .in_ && (rule.fd w).eof || (rule.fd w).closed

/-- The entry for `poll`; without interest it is a placeholder, for errors only. -/
def Rule.pollFd : PollFd Fd := ⟨rule.fdNum, if rule.interest w then rule.direction.events else 0⟩

end Rules

variable {Key Fd World : Type}

structure Prepared (Key Fd World : Type) where
  loop : Loop Key World
  pollfds : List (PollFd Fd)
  somethingToPoll : Bool

section Definitions

variable (rule : Key → Rule Fd World)

/-- The first loop of `wait_next_event`. -/
def prepare : List Key → World → Except Thrown Unit × Prepared Key Fd World
  | [], w => (.ok (), ⟨⟨[], w⟩, [], false⟩)
  | key :: rest, w =>
      if (rule key).defunct w then
        match (rule key).cancel w with
        | (.error thrown, w) => (.error thrown, ⟨⟨key :: rest, w⟩, [], false⟩)
        | (.ok (), w) => prepare rest w
      else
        let (result, prepared) := prepare rest w
        (result,
          { loop := ⟨key :: prepared.loop.rules, prepared.loop.world⟩
            pollfds := (rule key).pollFd w :: prepared.pollfds
            somethingToPoll := (rule key).interest w || prepared.somethingToPoll })

/-- The callback of a ready rule, and the check that it did something about its descriptor. -/
def attend (key : Key) (w : World) : Except Thrown Unit × World :=
  let countBefore := (rule key).serviceCount w
  match (rule key).callback w with
  | (.error thrown, w) => (.error thrown, w)
  | (.ok (), w) =>
      if countBefore = (rule key).serviceCount w ∧ (rule key).interest w = true then
        (.error (.runtimeError
          "EventLoop: busy wait detected: callback did not read/write fd and is still interested"), w)
      else (.ok (), w)

def attendReady (key : Key) (events revents : UInt16) (w : World) : Except Thrown Unit × World :=
  if revents &&& events ≠ 0 then attend rule key w else (.ok (), w)

/-- The second loop of `wait_next_event`, over the rules with what was asked for them and what `poll`
reported. -/
def serve : List (Key × UInt16 × UInt16) → World → Except Thrown Unit × Loop Key World
  | [], w => (.ok (), ⟨[], w⟩)
  | (key, events, revents) :: rest, w =>
      let others := rest.map Prod.fst
      if revents &&& (pollErr ||| pollNval) ≠ 0 then
        (.error (.runtimeError "EventLoop: error on polled file descriptor"), ⟨key :: others, w⟩)
      else
        if revents &&& pollHup ≠ 0 ∧ events ≠ 0 ∧ revents &&& events = 0 then
          match (rule key).cancel w with
          | (.error thrown, w) => (.error thrown, ⟨key :: others, w⟩)
          | (.ok (), w) => serve rest w
        else
          match attendReady rule key events revents w with
          | (.error thrown, w) => (.error thrown, ⟨key :: others, w⟩)
          | (.ok (), w) =>
              let (result, loop) := serve rest w
              (result, { loop with rules := key :: loop.rules })

def eintr : Int := 4

abbrev Poll (Fd World : Type) := List (PollFd Fd) → Int → Action World Int (Nat × List UInt16)

/-- The rules with their entries; entries that nothing was reported for count as empty. -/
def reported (prepared : Prepared Key Fd World) (revents : List UInt16) : List (Key × UInt16 × UInt16) :=
  prepared.loop.rules.zip ((prepared.pollfds.map PollFd.events).zip
    (revents ++ List.replicate prepared.pollfds.length 0))

variable (poll : Poll Fd World)

def serveReported (prepared : Prepared Key Fd World) (revents : List UInt16) (w : World) :
    Except Thrown Result × Loop Key World :=
  let (result, loop) := serve rule (reported prepared revents) w
  (result.map fun _ => .success, loop)

/-- The part of `wait_next_event` from the call of `poll` on. A call that fails for another reason than a
signal counts as one that reported nothing. -/
def dispatch (prepared : Prepared Key Fd World) (timeoutMs : Int) :
    Except Thrown Result × Loop Key World :=
  match poll prepared.pollfds timeoutMs prepared.loop.world with
  | (.ok (count, revents), w) =>
      if count = 0 then (.ok .timeout, { prepared.loop with world := w })
      else serveReported rule prepared revents w
  | (.error errno, w) =>
      if errno = eintr then (.ok .exit, { prepared.loop with world := w })
      else serveReported rule prepared [] w

def waitNextEvent (timeoutMs : Int) (loop : Loop Key World) : Except Thrown Result × Loop Key World :=
  match prepare rule loop.rules loop.world with
  | (.error thrown, prepared) => (.error thrown, prepared.loop)
  | (.ok (), prepared) =>
      if !prepared.somethingToPoll then (.ok .exit, prepared.loop) else dispatch rule poll prepared timeoutMs

/-- A call of `poll`: what was asked, and the answer. -/
abbrev Answer (Fd : Type) := List (PollFd Fd) × Except Int (Nat × List UInt16)

/-- The call of `poll` that a wait makes, if it comes that far. -/
def polled (timeoutMs : Int) (loop : Loop Key World) : Option (Answer Fd) :=
  match prepare rule loop.rules loop.world with
  | (.error _, _) => none
  | (.ok (), prepared) =>
      if !prepared.somethingToPoll then none
      else some (prepared.pollfds, (poll prepared.pollfds timeoutMs prepared.loop.world).1)

end Definitions

/-! ### When a rule is defunct -/

section Defunct

variable {rule : Rule Fd World} {w later : World}

theorem defunct_ages (ages : FDWrapper.Ages (rule.fd w) (rule.fd later))
    (defunct : rule.defunct w = true) : rule.defunct later = true := by
  -- flags are not taken back, so a defunct rule stays so
  simp only [Rule.defunct, Bool.or_eq_true, Bool.and_eq_true] at defunct ⊢
  exact defunct.imp (fun both => ⟨both.1, ages.1 both.2⟩) ages.2

theorem eof_of_live (reads : rule.direction = .in_) (alive : rule.defunct w = false) :
    (rule.fd w).eof = false := by
  rw [Rule.defunct, reads, Bool.or_eq_false_iff] at alive
  exact alive.1

theorem eof_of_defunct (open_ : (rule.fd w).closed = false)
    (defunct : rule.defunct w = true) : (rule.fd w).eof = true := by
  rw [Rule.defunct, open_, Bool.or_false] at defunct
  exact (Bool.and_eq_true_iff.mp defunct).2

theorem closed_of_defunct (writes : rule.direction = .out)
    (defunct : rule.defunct w = true) : (rule.fd w).closed = true := by
  rw [Rule.defunct, writes] at defunct
  exact defunct

end Defunct

/-! ### What the two loops leave -/

section Lists

variable {rule : Key → Rule Fd World}

theorem attend_world (key : Key) (w : World) : (attend rule key w).2 = ((rule key).callback w).2 := by
  unfold attend
  cases (rule key).callback w with
  | mk result after =>
      cases result with
      | error thrown => rfl
      | ok _ =>
          dsimp only
          split <;> rfl

theorem prepare_sublist (rule : Key → Rule Fd World) (rules : List Key) (w : World) :
    (prepare rule rules w).2.loop.rules.Sublist rules := by
  induction rules generalizing w with
  | nil => exact .slnil
  | cons key rest ih =>
      unfold prepare
      split
      case isTrue =>
        cases (rule key).cancel w with
        | mk result after =>
            cases result with
            | error thrown => exact .refl _
            | ok _ => exact (ih after).cons key
      case isFalse => exact (ih w).cons_cons key

theorem prepare_asked {rules : List Key} {w : World} {prepared : Prepared Key Fd World}
    (done : prepare rule rules w = (.ok (), prepared)) :
    List.Forall₂ (fun key pollfd => ∃ w, pollfd = (rule key).pollFd w) prepared.loop.rules
      prepared.pollfds := by
  induction rules generalizing w prepared with
  | nil =>
      cases done
      exact .nil
  | cons key rest ih =>
      unfold prepare at done
      split at done
      case isTrue =>
        split at done
        case h_1 => cases done
        case h_2 => exact ih done
      case isFalse =>
        cases later : prepare rule rest w with
        | mk result left =>
            rw [later] at done
            cases done
            exact .cons ⟨w, rfl⟩ (ih later)

theorem prepare_keeps {S : World → Prop} {rules : List Key} (w : World)
    (cancels : ∀ key ∈ rules, ∀ w, S w → S ((rule key).cancel w).2) (holds : S w) :
    S (prepare rule rules w).2.loop.world := by
  induction rules generalizing w with
  | nil => exact holds
  | cons key rest ih =>
      obtain ⟨here, later⟩ := List.forall_mem_cons.mp cancels
      unfold prepare
      split
      case isTrue =>
        have kept := here w holds
        cases ran : (rule key).cancel w with
        | mk result after =>
            rw [ran] at kept
            cases result with
            | error thrown => exact kept
            | ok _ => exact ih after later kept
      case isFalse => exact ih w later holds

/-- Cancelling a later rule does not make a rule interested that was not. -/
def Settled (rule : Key → Rule Fd World) (rules : List Key) : Prop :=
  rules.Pairwise fun key later => ∀ w, (rule key).interest w = false →
    (rule key).interest ((rule later).cancel w).2 = false

theorem prepare_uninterested {rules : List Key} (settled : Settled rule rules) {w : World}
    {prepared : Prepared Key Fd World} (done : prepare rule rules w = (.ok (), prepared))
    (nothing : prepared.somethingToPoll = false) :
    ∀ key ∈ prepared.loop.rules, (rule key).interest prepared.loop.world = false := by
  induction rules generalizing w prepared with
  | nil =>
      cases done
      exact List.forall_mem_nil _
  | cons key rest ih =>
      obtain ⟨first, others⟩ := List.pairwise_cons.mp settled
      unfold prepare at done
      split at done
      case isTrue =>
        split at done
        case h_1 => cases done
        case h_2 => exact ih others done nothing
      case isFalse =>
        have stays := prepare_keeps (S := fun w => (rule key).interest w = false) w first
        cases later : prepare rule rest w with
        | mk result left =>
            rw [later] at done stays
            cases done
            rw [Bool.or_eq_false_iff] at nothing
            exact List.forall_mem_cons.mpr ⟨stays nothing.1, ih others later nothing.2⟩

end Lists

/-! ### What `poll` has answered -/

def Faulty (answers : Set (Answer Fd)) : Prop :=
  ∃ pollfds count revents, (pollfds, .ok (count, revents)) ∈ answers ∧
    ∃ report ∈ revents, report &&& (pollErr ||| pollNval) ≠ 0

def HungUp (answers : Set (Answer Fd)) (fd : Fd) (direction : Direction) : Prop :=
  ∃ pollfds count revents, (pollfds, .ok (count, revents)) ∈ answers ∧
    ∃ report, (⟨fd, direction.events⟩, report) ∈ pollfds.zip revents ∧
      report &&& pollHup ≠ 0 ∧ report &&& direction.events = 0

def Interrupted (answers : Set (Answer Fd)) : Prop := ∃ pollfds, (pollfds, .error eintr) ∈ answers

/-- The call of `poll` that a wait makes is among the answers. -/
def Noted (rule : Key → Rule Fd World) (poll : Poll Fd World) (answers : Set (Answer Fd)) (timeoutMs : Int)
    (loop : Loop Key World) : Prop :=
  ∀ answer, polled rule poll timeoutMs loop = some answer → answer ∈ answers

structure Heard (rule : Key → Rule Fd World) (answers : Set (Answer Fd))
    (entries : List (Key × UInt16 × UInt16)) : Prop where
  fault : ∀ entry ∈ entries, entry.2.2 &&& (pollErr ||| pollNval) ≠ 0 → Faulty answers
  hangUp : ∀ entry ∈ entries, entry.2.2 &&& pollHup ≠ 0 ∧ entry.2.1 ≠ 0 ∧ entry.2.2 &&& entry.2.1 = 0 →
    HungUp answers (rule entry.1).fdNum (rule entry.1).direction

section Reported

variable {rule : Key → Rule Fd World} {answers : Set (Answer Fd)} {prepared : Prepared Key Fd World}
  (asked : List.Forall₂ (fun key pollfd => ∃ w, pollfd = (rule key).pollFd w) prepared.loop.rules
    prepared.pollfds)
include asked

theorem reported_keys (revents : List UInt16) :
    (reported prepared revents).map Prod.fst = prepared.loop.rules := by
  have whole := asked.length_eq
  unfold reported
  rw [List.map_fst_zip]
  simp only [List.length_zip, List.length_map, List.length_append, List.length_replicate]
  omega

theorem reported_mem {revents : List UInt16} {entry : Key × UInt16 × UInt16}
    (member : entry ∈ reported prepared revents) :
    ∃ w, entry.2.1 = ((rule entry.1).pollFd w).events ∧
      (entry.2.2 = 0 ∨ ((rule entry.1).pollFd w, entry.2.2) ∈ prepared.pollfds.zip revents) := by
  obtain ⟨i, found⟩ := List.mem_iff_getElem?.mp member
  obtain ⟨key, events, report⟩ := entry
  simp only [reported, List.getElem?_zip_eq_some, List.getElem?_map, Option.map_eq_some_iff] at found
  obtain ⟨atKey, ⟨pollfd, atFd, rfl⟩, atReport⟩ := found
  obtain ⟨w, rfl⟩ : ∃ w, pollfd = (rule key).pollFd w :=
    (List.forall₂_iff_zip.mp asked).2
      (List.mem_iff_getElem?.mpr ⟨i, List.getElem?_zip_eq_some.mpr ⟨atKey, atFd⟩⟩)
  refine ⟨w, rfl, ?_⟩
  rw [List.getElem?_append] at atReport
  split at atReport
  case isTrue =>
    exact .inr (List.mem_iff_getElem?.mpr ⟨i, List.getElem?_zip_eq_some.mpr ⟨atFd, atReport⟩⟩)
  case isFalse => exact .inl (List.eq_of_mem_replicate (List.mem_of_getElem? atReport))

theorem reported_heard {revents : List UInt16}
    (answer : revents = [] ∨ ∃ count, (prepared.pollfds, .ok (count, revents)) ∈ answers) :
    Heard rule answers (reported prepared revents) := by
  have said : ∀ {entry}, entry ∈ reported prepared revents → ∀ {mask : UInt16}, entry.2.2 &&& mask ≠ 0 →
      ∃ w, entry.2.1 = ((rule entry.1).pollFd w).events ∧
        ((rule entry.1).pollFd w, entry.2.2) ∈ prepared.pollfds.zip revents := by
    intro entry member mask seen
    obtain ⟨w, events, empty | real⟩ := reported_mem asked member
    · rw [empty] at seen
      exact (seen UInt16.zero_and).elim
    · exact ⟨w, events, real⟩
  have answered : ∀ {pair}, pair ∈ prepared.pollfds.zip revents →
      ∃ count, (prepared.pollfds, .ok (count, revents)) ∈ answers := by
    intro pair member
    rcases answer with rfl | real
    · rw [List.zip_nil_right] at member
      cases member
    · exact real
  constructor
  · intro entry member seen
    obtain ⟨_, _, real⟩ := said member seen
    obtain ⟨_, answer⟩ := answered real
    exact ⟨_, _, _, answer, _, (List.of_mem_zip real).2, seen⟩
  · rintro entry member ⟨hung, interested, unready⟩
    obtain ⟨w, events, real⟩ := said member hung
    rw [events] at interested unready
    by_cases wanted : (rule entry.1).interest w = true
    · obtain ⟨_, answer⟩ := answered real
      simp only [Rule.pollFd, wanted, if_true] at real unready
      exact ⟨_, _, _, answer, _, real, hung, unready⟩
    · simp [Rule.pollFd, wanted] at interested

end Reported

theorem polled_answered {rule : Key → Rule Fd World} {poll : Poll Fd World} {timeoutMs : Int}
    (answers : ∀ pollfds w, ∃ reply, (poll pollfds timeoutMs w).1 = .ok reply) (loop : Loop Key World)
    (pollfds : List (PollFd Fd)) (errno : Int) :
    polled rule poll timeoutMs loop ≠ some (pollfds, .error errno) := by
  intro failed
  unfold polled at failed
  split at failed
  case h_1 => cases failed
  case h_2 _ prepared _ =>
    split at failed
    case isTrue => cases failed
    case isFalse =>
      obtain ⟨reply, answer⟩ := answers prepared.pollfds prepared.loop.world
      rw [answer] at failed
      cases failed

theorem serveReported_ne_exit {rule : Key → Rule Fd World} {prepared : Prepared Key Fd World}
    {revents : List UInt16} {w : World} : (serveReported rule prepared revents w).1 ≠ .ok .exit := by
  unfold serveReported
  dsimp only
  cases (serve rule (reported prepared revents) w).1 <;> intro same <;> cases same

theorem wait_exit {rule : Key → Rule Fd World} {poll : Poll Fd World} {loop : Loop Key World}
    {timeoutMs : Int} (settled : Settled rule loop.rules)
    (gaveUp : (waitNextEvent rule poll timeoutMs loop).1 = .ok .exit) :
    (∃ pollfds, polled rule poll timeoutMs loop = some (pollfds, .error eintr)) ∨
      ∀ key ∈ (waitNextEvent rule poll timeoutMs loop).2.rules,
        (rule key).interest (waitNextEvent rule poll timeoutMs loop).2.world = false := by
  unfold waitNextEvent at gaveUp ⊢
  unfold polled
  cases made : prepare rule loop.rules loop.world with
  | mk result prepared =>
      rw [made] at gaveUp
      cases result with
      | error thrown => cases gaveUp
      | ok _ =>
          dsimp only at gaveUp ⊢
          split at gaveUp
          case isTrue nothing =>
            right
            rw [if_pos nothing]
            exact prepare_uninterested settled made (by simpa using nothing)
          case isFalse something =>
            left
            rw [if_neg something]
            unfold dispatch at gaveUp
            split at gaveUp
            case h_1 =>
              split at gaveUp
              case isTrue => cases gaveUp
              case isFalse => exact (serveReported_ne_exit gaveUp).elim
            case h_2 errno after answer =>
              split at gaveUp
              case isTrue signal => exact ⟨_, by rw [answer, signal]⟩
              case isFalse => exact (serveReported_ne_exit gaveUp).elim

end Sponge.EventLoop

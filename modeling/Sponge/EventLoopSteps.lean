import Sponge.EventLoop
import Sponge.Transition

/-! One wait of the event loop as a run of small steps. A rule may be called in a state that another callback
has made; `live` says what is still true of a rule when its turn comes. -/

namespace Sponge.EventLoop

open FileDescriptor Transition

variable {Key Fd World : Type}

inductive Step (Key Fd : Type)
  | retire (key : Key)
  | hangUp (key : Key)
  | call (key : Key)
  | poll (pollfds : List (PollFd Fd)) (timeoutMs : Int)

section Steps

variable [DecidableEq Key] (rule : Key → Rule Fd World) (poll : Poll Fd World) (answers : Set (Answer Fd))
  (live : Key → World → Prop)

def cancelled (loop : Loop Key World) (key : Key) : Loop Key World :=
  match (rule key).cancel loop.world with
  | (.ok (), w) => ⟨loop.rules.erase key, w⟩
  | (.error _, w) => { loop with world := w }

def step (loop : Loop Key World) : Step Key Fd → Loop Key World
  | .retire key => cancelled rule loop key
  | .hangUp key => cancelled rule loop key
  | .call key => { loop with world := ((rule key).callback loop.world).2 }
  | .poll pollfds timeoutMs => { loop with world := (poll pollfds timeoutMs loop.world).2 }

/-- Only rules that are still there are called or cancelled, and only for a reason. -/
def Permitted (loop : Loop Key World) : Step Key Fd → Prop
  | .retire key => key ∈ loop.rules ∧ (rule key).defunct loop.world = true
  | .hangUp key => key ∈ loop.rules ∧ HungUp answers (rule key).fdNum (rule key).direction
  | .call key => key ∈ loop.rules ∧ live key loop.world
  | .poll _ _ => True

inductive Raised (loop : Loop Key World) : Thrown → Prop
  | cancel (key : Key) (present : key ∈ loop.rules) {thrown : Thrown} {w : World}
      (failed : (rule key).cancel loop.world = (.error thrown, w)) : Raised loop thrown
  | callback (key : Key) (present : key ∈ loop.rules) (alive : live key loop.world) {thrown : Thrown} {w : World}
      (failed : (rule key).callback loop.world = (.error thrown, w)) : Raised loop thrown
  | polled (faulty : Faulty answers) :
      Raised loop (.runtimeError "EventLoop: error on polled file descriptor")
  | busy (key : Key) (present : key ∈ loop.rules) (alive : live key loop.world) {w : World}
      (done : (rule key).callback loop.world = (.ok (), w))
      (idle : (rule key).serviceCount loop.world = (rule key).serviceCount w)
      (interested : (rule key).interest w = true) :
      Raised loop (.runtimeError
        "EventLoop: busy wait detected: callback did not read/write fd and is still interested")

def Runs (before after : Loop Key World) : Prop :=
  Reachable (step rule poll) (Permitted rule answers live) before after

/-- `after` is reached by small steps, and so is the state in which the exception was thrown, if one was. -/
structure Ends (before : Loop Key World) {Value : Type} (result : Except Thrown Value)
    (after : Loop Key World) : Prop where
  reached : Runs rule poll answers live before after
  raised : ∀ thrown, result = .error thrown →
    ∃ loop, Runs rule poll answers live before loop ∧ Raised rule answers live loop thrown

variable {rule poll answers live} {before middle after : Loop Key World} {Value : Type} {result : Except Thrown Value}

theorem Ends.following (first : Runs rule poll answers live before middle)
    (ends : Ends rule poll answers live middle result after) : Ends rule poll answers live before result after where
  reached := reachable_trans first ends.reached
  raised := by
    intro thrown failed
    obtain ⟨loop, reached, raised⟩ := ends.raised thrown failed
    exact ⟨loop, reachable_trans first reached, raised⟩

theorem Ends.ok (reached : Runs rule poll answers live before after) {value : Value} :
    Ends rule poll answers live before (.ok value : Except Thrown Value) after where
  reached := reached
  raised := by
    intro thrown failed
    cases failed

theorem Ends.map {Other : Type} {convert : Value → Other} (ends : Ends rule poll answers live before result after) :
    Ends rule poll answers live before (result.map convert) after where
  reached := ends.reached
  raised := by
    intro thrown failed
    cases result with
    | ok value => cases failed
    | error other =>
        cases failed
        exact ends.raised _ rfl

theorem cancelled_ok {key : Key} {passed rest : List Key} {w after : World}
    (nodup : (passed ++ key :: rest).Nodup) (done : (rule key).cancel w = (.ok (), after)) :
    cancelled rule ⟨passed ++ key :: rest, w⟩ key = ⟨passed ++ rest, after⟩ := by
  have absent : key ∉ passed := by
    intro member
    exact (List.nodup_append.mp nodup).2.2 key member key List.mem_cons_self rfl
  simp only [cancelled, done, List.erase_append_right _ absent, List.erase_cons_head]

theorem cancelled_error {key : Key} {loop : Loop Key World} {thrown : Thrown} {after : World}
    (failed : (rule key).cancel loop.world = (.error thrown, after)) :
    cancelled rule loop key = ⟨loop.rules, after⟩ := by
  simp only [cancelled, failed]

theorem step_runs {loop : Loop Key World} (next : Step Key Fd) (permitted : Permitted rule answers live loop next) :
    Runs rule poll answers live loop (step rule poll loop next) :=
  .next next .start permitted

theorem Runs.refl (loop : Loop Key World) : Runs rule poll answers live loop loop := .start

variable (rule poll live)

/-- A rule that the set-up has let pass is live, and stays so until it is called itself. -/
structure Stays : Prop where
  found : ∀ key w, (rule key).defunct w = false → live key w
  cancel : ∀ key other w, other ≠ key → live key w → live key ((rule other).cancel w).2
  callback : ∀ key other w, other ≠ key → live key w → live key ((rule other).callback w).2
  poll : ∀ key pollfds timeoutMs w, live key w → live key (poll pollfds timeoutMs w).2

variable {rule poll live}

theorem prepare_ends (live : Key → World → Prop) (passed rest : List Key) (w : World)
    (nodup : (passed ++ rest).Nodup) :
    Ends rule poll answers live ⟨passed ++ rest, w⟩ (prepare rule rest w).1
      ⟨passed ++ (prepare rule rest w).2.loop.rules, (prepare rule rest w).2.loop.world⟩ := by
  induction rest generalizing passed w with
  | nil => exact .ok (.refl _)
  | cons key rest ih =>
      have present : key ∈ passed ++ key :: rest := by simp
      unfold prepare
      split
      case isTrue defunct =>
        have retired : Runs rule poll answers live ⟨passed ++ key :: rest, w⟩
            (cancelled rule ⟨passed ++ key :: rest, w⟩ key) := step_runs (.retire key) ⟨present, defunct⟩
        cases ran : (rule key).cancel w with
        | mk result after =>
            cases result with
            | error thrown =>
                rw [cancelled_error ran] at retired
                refine ⟨retired, ?_⟩
                rintro other ⟨⟩
                exact ⟨_, .refl _, .cancel key present ran⟩
            | ok _ =>
                rw [cancelled_ok nodup ran] at retired
                exact (ih passed after (nodup.sublist (by simp))).following retired
      case isFalse =>
        have later := ih (passed ++ [key]) w (by simpa using nodup)
        simpa using later

omit [DecidableEq Key] in
theorem prepare_live (stays : Stays rule poll live) {rules : List Key} (nodup : rules.Nodup) {w : World}
    {prepared : Prepared Key Fd World} (done : prepare rule rules w = (.ok (), prepared)) :
    ∀ key ∈ prepared.loop.rules, live key prepared.loop.world := by
  induction rules generalizing w prepared with
  | nil =>
      cases done
      exact List.forall_mem_nil _
  | cons key rest ih =>
      obtain ⟨absent, others⟩ := List.nodup_cons.mp nodup
      unfold prepare at done
      split at done
      case isTrue =>
        split at done
        case h_1 => cases done
        case h_2 => exact ih others done
      case isFalse fine =>
        have here := prepare_keeps (S := live key) w
          (fun other member w => stays.cancel key other w fun same => absent (same ▸ member))
          (stays.found key w (by simpa using fine))
        cases later : prepare rule rest w with
        | mk result left =>
            rw [later] at done here
            cases done
            exact List.forall_mem_cons.mpr ⟨here, ih others later⟩

theorem attendReady_ends {key : Key} {loop : Loop Key World} (present : key ∈ loop.rules)
    (alive : live key loop.world) (events revents : UInt16) :
    Ends rule poll answers live loop (attendReady rule key events revents loop.world).1
      ⟨loop.rules, (attendReady rule key events revents loop.world).2⟩ := by
  unfold attendReady
  split
  case isFalse => exact .ok (.refl _)
  have called : Runs rule poll answers live loop ⟨loop.rules, ((rule key).callback loop.world).2⟩ :=
    step_runs (.call key) ⟨present, alive⟩
  unfold attend
  cases ran : (rule key).callback loop.world with
  | mk result after =>
      rw [ran] at called
      cases result with
      | error thrown =>
          refine ⟨called, ?_⟩
          rintro other ⟨⟩
          exact ⟨loop, .refl _, .callback key present alive ran⟩
      | ok _ =>
          dsimp only
          split
          case isTrue stuck =>
            refine ⟨called, ?_⟩
            rintro other ⟨⟩
            exact ⟨loop, .refl _, .busy key present alive ran stuck.1 stuck.2⟩
          case isFalse => exact .ok called

omit [DecidableEq Key] in
theorem attendReady_live (stays : Stays rule poll live) {key other : Key} (differ : other ≠ key)
    (events revents : UInt16) {w : World} (alive : live key w) :
    live key (attendReady rule other events revents w).2 := by
  unfold attendReady
  split
  · rw [attend_world]
    exact stays.callback key other w differ alive
  · exact alive

theorem serve_ends (stays : Stays rule poll live) (passed : List Key)
    (entries : List (Key × UInt16 × UInt16)) (w : World) (nodup : (passed ++ entries.map Prod.fst).Nodup)
    (heard : Heard rule answers entries) (alive : ∀ key ∈ entries.map Prod.fst, live key w) :
    Ends rule poll answers live ⟨passed ++ entries.map Prod.fst, w⟩ (serve rule entries w).1
      ⟨passed ++ (serve rule entries w).2.rules, (serve rule entries w).2.world⟩ := by
  induction entries generalizing passed w with
  | nil => exact .ok (.refl _)
  | cons entry rest ih =>
      obtain ⟨key, events, revents⟩ := entry
      rw [List.map_cons] at nodup alive
      obtain ⟨here, later⟩ := List.forall_mem_cons.mp alive
      have present : key ∈ passed ++ key :: rest.map Prod.fst := by simp
      have others : Heard rule answers rest :=
        ⟨fun entry member => heard.fault entry (List.mem_cons_of_mem _ member),
          fun entry member => heard.hangUp entry (List.mem_cons_of_mem _ member)⟩
      have shorter : (passed ++ rest.map Prod.fst).Nodup := nodup.sublist (by simp)
      have differ : ∀ other ∈ rest.map Prod.fst, key ≠ other := by
        rintro other member rfl
        exact (List.nodup_cons.mp (List.nodup_append.mp nodup).2.1).1 member
      rw [List.map_cons]
      unfold serve
      dsimp only
      split
      case isTrue fault =>
        refine ⟨.refl _, ?_⟩
        rintro thrown ⟨⟩
        exact ⟨_, .refl _, .polled (heard.fault _ List.mem_cons_self fault)⟩
      case isFalse =>
        split
        case isTrue hung =>
          have gone : Runs rule poll answers live ⟨passed ++ key :: rest.map Prod.fst, w⟩
              (cancelled rule ⟨passed ++ key :: rest.map Prod.fst, w⟩ key) :=
            step_runs (.hangUp key) ⟨present, heard.hangUp _ List.mem_cons_self hung⟩
          have left := fun other member => stays.cancel other key w (differ other member) (later other member)
          cases ran : (rule key).cancel w with
          | mk result after =>
              rw [ran] at left
              cases result with
              | error thrown =>
                  rw [cancelled_error ran] at gone
                  refine ⟨gone, ?_⟩
                  rintro other ⟨⟩
                  exact ⟨_, .refl _, .cancel key present ran⟩
              | ok _ =>
                  rw [cancelled_ok nodup ran] at gone
                  exact (ih passed after shorter others left).following gone
        case isFalse =>
          have attended : Ends rule poll answers live ⟨passed ++ key :: rest.map Prod.fst, w⟩ _ _ :=
            attendReady_ends present here events revents
          have left := fun other member =>
            attendReady_live stays (differ other member) events revents (later other member)
          dsimp only at attended
          cases ran : attendReady rule key events revents w with
          | mk result after =>
              rw [ran] at attended left
              cases result with
              | error thrown =>
                  refine ⟨attended.reached, ?_⟩
                  rintro other ⟨⟩
                  exact attended.raised thrown rfl
              | ok _ =>
                  have onward := ih (passed ++ [key]) after (by simpa using nodup) others left
                  simp only [List.append_assoc, List.cons_append, List.nil_append] at onward
                  exact onward.following attended.reached

theorem dispatch_ends (stays : Stays rule poll live) {prepared : Prepared Key Fd World}
    (nodup : prepared.loop.rules.Nodup)
    (asked : List.Forall₂ (fun key pollfd => ∃ w, pollfd = (rule key).pollFd w) prepared.loop.rules
      prepared.pollfds)
    (alive : ∀ key ∈ prepared.loop.rules, live key prepared.loop.world) {timeoutMs : Int}
    (noted : (prepared.pollfds, (poll prepared.pollfds timeoutMs prepared.loop.world).1) ∈ answers) :
    Ends rule poll answers live prepared.loop (dispatch rule poll prepared timeoutMs).1
      (dispatch rule poll prepared timeoutMs).2 := by
  have called : Runs rule poll answers live prepared.loop
      ⟨prepared.loop.rules, (poll prepared.pollfds timeoutMs prepared.loop.world).2⟩ :=
    step_runs (.poll prepared.pollfds timeoutMs) trivial
  have left := fun key member =>
    stays.poll key prepared.pollfds timeoutMs prepared.loop.world (alive key member)
  have served : ∀ (revents : List UInt16) w, (∀ key ∈ prepared.loop.rules, live key w) →
      Heard rule answers (reported prepared revents) →
      Ends rule poll answers live ⟨prepared.loop.rules, w⟩ (serveReported rule prepared revents w).1
        (serveReported rule prepared revents w).2 := by
    intro revents w alive heard
    have keys := reported_keys asked revents
    have ends := serve_ends stays [] (reported prepared revents) w (by rwa [List.nil_append, keys])
      heard (by rwa [keys])
    rw [keys] at ends
    exact ends.map
  unfold dispatch
  cases answer : poll prepared.pollfds timeoutMs prepared.loop.world with
  | mk result after =>
      rw [answer] at called left noted
      cases result with
      | error errno =>
          dsimp only
          split
          case isTrue => exact .ok called
          case isFalse =>
            exact (served [] after left (reported_heard asked (.inl rfl))).following called
      | ok counted =>
          dsimp only
          split
          case isTrue => exact .ok called
          case isFalse =>
            have heard := reported_heard asked (.inr ⟨_, noted⟩)
            exact (served counted.2 after left heard).following called

/-- A wait is a run of small steps, and an exception that leaves it comes from a callback, from a report of
`poll` or from the check for busy waiting. -/
theorem wait_ends (stays : Stays rule poll live) {loop : Loop Key World} (nodup : loop.rules.Nodup)
    {timeoutMs : Int} (noted : Noted rule poll answers timeoutMs loop) :
    Ends rule poll answers live loop (waitNextEvent rule poll timeoutMs loop).1
      (waitNextEvent rule poll timeoutMs loop).2 := by
  have set : Ends rule poll answers live _ _ _ := prepare_ends live [] loop.rules loop.world nodup
  have kept := prepare_sublist rule loop.rules loop.world
  unfold waitNextEvent
  unfold Noted polled at noted
  cases made : prepare rule loop.rules loop.world with
  | mk result prepared =>
      rw [made] at set kept noted
      cases result with
      | error thrown =>
          refine ⟨set.reached, ?_⟩
          rintro other ⟨⟩
          exact set.raised thrown rfl
      | ok _ =>
          dsimp only at noted ⊢
          split at noted
          case isTrue nothing =>
            rw [if_pos nothing]
            exact .ok set.reached
          case isFalse something =>
            rw [if_neg something]
            exact (dispatch_ends stays (nodup.sublist kept) (prepare_asked made)
              (prepare_live stays nodup made) (noted _ rfl)).following set.reached

end Steps

end Sponge.EventLoop

import Sponge.EventLoopSteps

/-! The life of a rule: called any number of times, cancelled at most once, and gone after that. The calls
are written down by rules that do what the given ones do and keep a log beside the world. -/

namespace Sponge.EventLoop

open FileDescriptor Transition

section Lifting

variable {Key Fd World Larger : Type} (project : Larger → World)

/-- The rule of the larger world does on its part `World` what the other one does there. -/
structure Lifts (larger : Rule Fd Larger) (rule : Rule Fd World) : Prop where
  fdNum : larger.fdNum = rule.fdNum
  fd : ∀ s, larger.fd s = rule.fd (project s)
  direction : larger.direction = rule.direction
  interest : ∀ s, larger.interest s = rule.interest (project s)
  callback : ∀ s, rule.callback (project s) = ((larger.callback s).1, project (larger.callback s).2)
  cancel : ∀ s, rule.cancel (project s) = ((larger.cancel s).1, project (larger.cancel s).2)

def Loop.seen (loop : Loop Key Larger) : Loop Key World := ⟨loop.rules, project loop.world⟩

def Prepared.seen (prepared : Prepared Key Fd Larger) : Prepared Key Fd World :=
  ⟨prepared.loop.seen project, prepared.pollfds, prepared.somethingToPoll⟩

variable {project} {larger : Key → Rule Fd Larger} {rule : Key → Rule Fd World}
  (lifts : ∀ key, Lifts project (larger key) (rule key))

include lifts

theorem prepare_lifts (rules : List Key) (s : Larger) :
    prepare rule rules (project s) =
      ((prepare larger rules s).1, (prepare larger rules s).2.seen project) := by
  induction rules generalizing s with
  | nil => rfl
  | cons key rest ih =>
      have same : (rule key).defunct (project s) = (larger key).defunct s := by
        simp only [Rule.defunct, (lifts key).direction, (lifts key).fd]
      have entry : (rule key).pollFd (project s) = (larger key).pollFd s := by
        simp only [Rule.pollFd, (lifts key).direction, (lifts key).interest, (lifts key).fdNum]
      unfold prepare
      rw [same, (lifts key).cancel, ← (lifts key).interest, entry, ih]
      split
      · cases (larger key).cancel s with
        | mk result after =>
            cases result with
            | error thrown => rfl
            | ok _ => exact ih after
      · rfl

theorem attendReady_lifts (key : Key) (events revents : UInt16) (s : Larger) :
    attendReady rule key events revents (project s) =
      ((attendReady larger key events revents s).1, project (attendReady larger key events revents s).2) := by
  have count : ∀ s, (rule key).serviceCount (project s) = (larger key).serviceCount s := by
    intro s
    simp only [Rule.serviceCount, (lifts key).direction, (lifts key).fd]
  unfold attendReady
  split
  case isFalse => rfl
  unfold attend
  rw [(lifts key).callback]
  cases (larger key).callback s with
  | mk result after =>
      cases result with
      | error thrown => rfl
      | ok _ =>
          simp only [count, ← (lifts key).interest]
          split <;> rfl

theorem serve_lifts (entries : List (Key × UInt16 × UInt16)) (s : Larger) :
    serve rule entries (project s) = ((serve larger entries s).1, (serve larger entries s).2.seen project) := by
  induction entries generalizing s with
  | nil => rfl
  | cons entry rest ih =>
      obtain ⟨key, events, revents⟩ := entry
      unfold serve
      dsimp only
      split
      · rfl
      · split
        · rw [(lifts key).cancel]
          cases (larger key).cancel s with
          | mk result after =>
              cases result with
              | error thrown => rfl
              | ok _ => exact ih after
        · rw [attendReady_lifts lifts]
          cases attendReady larger key events revents s with
          | mk result after =>
              cases result with
              | error thrown => rfl
              | ok _ =>
                  dsimp only
                  rw [ih]
                  rfl

theorem wait_lifts {polls : Poll Fd Larger} {poll : Poll Fd World}
    (asks : ∀ pollfds timeoutMs s, poll pollfds timeoutMs (project s) =
      ((polls pollfds timeoutMs s).1, project (polls pollfds timeoutMs s).2))
    (timeoutMs : Int) (loop : Loop Key Larger) :
    waitNextEvent rule poll timeoutMs (loop.seen project) =
      ((waitNextEvent larger polls timeoutMs loop).1, (waitNextEvent larger polls timeoutMs loop).2.seen project) := by
  unfold waitNextEvent
  simp only [Loop.seen, prepare_lifts lifts]
  cases prepare larger loop.rules loop.world with
  | mk result prepared =>
      cases result with
      | error thrown => rfl
      | ok _ =>
          have same : (prepared.seen project).somethingToPoll = prepared.somethingToPoll := rfl
          dsimp only
          rw [same]
          split
          · rfl
          · have answer : poll (prepared.seen project).pollfds timeoutMs (prepared.seen project).loop.world = _ :=
              asks prepared.pollfds timeoutMs prepared.loop.world
            have served : ∀ revents s, serveReported rule (prepared.seen project) revents (project s) =
                ((serveReported larger prepared revents s).1,
                  (serveReported larger prepared revents s).2.seen project) := by
              intro revents s
              have entries : reported (prepared.seen project) revents = reported prepared revents := rfl
              simp only [serveReported, entries, serve_lifts lifts]
            unfold dispatch
            rw [answer]
            cases polls prepared.pollfds timeoutMs prepared.loop.world with
            | mk result after =>
                cases result with
                | error errno =>
                    dsimp only
                    split
                    · rfl
                    · exact served [] after
                | ok counted =>
                    dsimp only
                    split
                    · rfl
                    · exact served counted.2 after

end Lifting

inductive Event
  | called
  | cancelled
  deriving DecidableEq, Repr

section Log

variable {Key Fd World : Type}

abbrev Log (Key : Type) := List (Key × Event)

/-- The rule with its calls written down. A cancel callback that throws leaves the rule in the list and is
not written down. -/
def logged (rule : Key → Rule Fd World) (key : Key) : Rule Fd (World × Log Key) where
  fdNum := (rule key).fdNum
  fd s := (rule key).fd s.1
  direction := (rule key).direction
  interest s := (rule key).interest s.1
  callback s := (((rule key).callback s.1).1, ((rule key).callback s.1).2, s.2 ++ [(key, .called)])
  cancel s :=
    match (rule key).cancel s.1 with
    | (.ok (), w) => (.ok (), w, s.2 ++ [(key, .cancelled)])
    | (.error thrown, w) => (.error thrown, w, s.2)

def loggedPoll (poll : Poll Fd World) : Poll Fd (World × Log Key) := fun pollfds timeoutMs s =>
  ((poll pollfds timeoutMs s.1).1, (poll pollfds timeoutMs s.1).2, s.2)

theorem logged_lifts (rule : Key → Rule Fd World) (key : Key) :
    Lifts Prod.fst (logged rule key) (rule key) where
  fdNum := rfl
  fd _ := rfl
  direction := rfl
  interest _ := rfl
  callback _ := rfl
  cancel s := by
    simp only [logged]
    cases (rule key).cancel s.1 with
    | mk result after => cases result <;> rfl

def waitLogged (rule : Key → Rule Fd World) (poll : Poll Fd World) (loop : Loop Key (World × Log Key))
    (timeoutMs : Int) : Loop Key (World × Log Key) :=
  (waitNextEvent (logged rule) (loggedPoll poll) timeoutMs loop).2

variable [DecidableEq Key]

def history (key : Key) (log : Log Key) : List Event := (log.filter fun entry => entry.1 = key).map Prod.snd

def calls (log : Log Key) : List Key := (log.filter fun entry => entry.2 = .called).map Prod.fst

omit [DecidableEq Key] in
@[simp] theorem calls_append (log more : Log Key) : calls (log ++ more) = calls log ++ calls more := by
  simp only [calls, List.filter_append, List.map_append]

@[simp] theorem history_append (key : Key) (log more : Log Key) :
    history key (log ++ more) = history key log ++ history key more := by
  simp only [history, List.filter_append, List.map_append]

theorem history_other {key other : Key} (differ : other ≠ key) (event : Event) :
    history key [(other, event)] = [] := by
  simp [history, differ]

theorem history_same (key : Key) (event : Event) : history key [(key, event)] = [event] := by
  simp [history]

/-- A rule has been called some times, and cancelled in the end if it is gone. -/
structure Lived (rules : List Key) (loop : Loop Key (World × Log Key)) : Prop where
  kept : loop.rules.Sublist rules
  past : ∀ key ∈ rules, ∃ n, history key loop.world.2 =
    List.replicate n .called ++ if key ∈ loop.rules then [] else [.cancelled]

theorem start_lived (rules : List Key) (w : World) : Lived rules ⟨rules, w, []⟩ where
  kept := .refl _
  past key member := ⟨0, by simp [history, member]⟩

variable {rule : Key → Rule Fd World} {poll : Poll Fd World} {rules : List Key}
  {loop : Loop Key (World × Log Key)}

theorem call_lived (lived : Lived rules loop) {key : Key} (present : key ∈ loop.rules) (w : World) :
    Lived rules ⟨loop.rules, w, loop.world.2 ++ [(key, .called)]⟩ where
  kept := lived.kept
  past other member := by
    obtain ⟨n, past⟩ := lived.past other member
    by_cases same : key = other
    · subst same
      refine ⟨n + 1, ?_⟩
      rw [history_append, past, history_same, if_pos present, List.append_nil, List.append_nil,
        List.replicate_succ']
    · exact ⟨n, by rw [history_append, history_other same, List.append_nil, past]⟩

theorem cancel_lived (lived : Lived rules loop) (distinct : rules.Nodup) {key : Key}
    (present : key ∈ loop.rules) (w : World) :
    Lived rules ⟨loop.rules.erase key, w, loop.world.2 ++ [(key, .cancelled)]⟩ where
  kept := List.erase_sublist.trans lived.kept
  past other member := by
    have nodup : loop.rules.Nodup := distinct.sublist lived.kept
    obtain ⟨n, past⟩ := lived.past other member
    refine ⟨n, ?_⟩
    by_cases same : key = other
    · subst same
      rw [history_append, past, history_same, if_pos present, List.append_nil, if_neg]
      exact fun again => (nodup.mem_erase_iff.mp again).1 rfl
    · have stays : other ∈ loop.rules.erase key ↔ other ∈ loop.rules :=
        List.mem_erase_of_ne (Ne.symm same)
      simp only [history_append, history_other same, List.append_nil, past, stays]

theorem step_lived (distinct : rules.Nodup) (lived : Lived rules loop) (next : Step Key Fd)
    (permitted : Permitted (logged rule) Set.univ (fun _ _ => True) loop next) :
    Lived rules (step (logged rule) (loggedPoll poll) loop next) := by
  have cancels : ∀ key ∈ loop.rules, Lived rules (cancelled (logged rule) loop key) := by
    intro key present
    unfold cancelled
    simp only [logged]
    cases (rule key).cancel loop.world.1 with
    | mk result after =>
        cases result with
        | error thrown => exact ⟨lived.kept, lived.past⟩
        | ok _ => exact cancel_lived lived distinct present after
  cases next with
  | retire key => exact cancels key permitted.1
  | hangUp key => exact cancels key permitted.1
  | call key => exact call_lived lived permitted.1 _
  | poll pollfds timeoutMs => exact ⟨lived.kept, lived.past⟩

omit [DecidableEq Key] in
theorem stays_true (rule : Key → Rule Fd World) (poll : Poll Fd World) : Stays rule poll fun _ _ => True :=
  ⟨fun _ _ _ => trivial, fun _ _ _ _ _ => trivial, fun _ _ _ _ _ => trivial, fun _ _ _ _ _ => trivial⟩

theorem wait_lived (distinct : rules.Nodup) (lived : Lived rules loop) (timeoutMs : Int) :
    Lived rules (waitLogged rule poll loop timeoutMs) := by
  have nodup : loop.rules.Nodup := distinct.sublist lived.kept
  exact reachable_invariant lived (fun _ next lived permitted => step_lived distinct lived next permitted)
    (wait_ends (stays_true _ _) nodup fun _ _ => Set.mem_univ _).reached

/-! ### The order of the calls of one wait -/

section Order

omit [DecidableEq Key]

def Continues (log after : Log Key) (rules : List Key) : Prop :=
  ∃ events, after = log ++ events ∧ (calls events).Sublist rules

theorem Continues.refl (log : Log Key) (rules : List Key) : Continues log log rules :=
  ⟨[], (List.append_nil log).symm, List.nil_sublist rules⟩

theorem Continues.cancel {log after : Log Key} {rules : List Key} (key : Key)
    (later : Continues (log ++ [(key, .cancelled)]) after rules) : Continues log after rules := by
  obtain ⟨events, rfl, ordered⟩ := later
  exact ⟨(key, .cancelled) :: events, by rw [List.append_assoc]; rfl, ordered⟩

theorem Continues.skip {log after : Log Key} {rules : List Key} (key : Key)
    (later : Continues log after rules) : Continues log after (key :: rules) := by
  obtain ⟨events, rfl, ordered⟩ := later
  exact ⟨events, rfl, ordered.cons key⟩

theorem Continues.call {log after : Log Key} {rules : List Key} (key : Key)
    (later : Continues (log ++ [(key, .called)]) after rules) : Continues log after (key :: rules) := by
  obtain ⟨events, rfl, ordered⟩ := later
  exact ⟨(key, .called) :: events, by rw [List.append_assoc]; rfl, ordered.cons_cons key⟩

theorem logged_cancel (rule : Key → Rule Fd World) (key : Key) (s : World × Log Key) :
    (∃ w, (logged rule key).cancel s = (.ok (), w, s.2 ++ [(key, .cancelled)])) ∨
      ∃ thrown w, (logged rule key).cancel s = (.error thrown, w, s.2) := by
  simp only [logged]
  cases (rule key).cancel s.1 with
  | mk result after =>
      cases result with
      | error thrown => exact .inr ⟨thrown, after, rfl⟩
      | ok _ => exact .inl ⟨after, rfl⟩

theorem prepare_calls (rule : Key → Rule Fd World) (rules : List Key) (s : World × Log Key) :
    Continues s.2 (prepare (logged rule) rules s).2.loop.world.2 [] := by
  induction rules generalizing s with
  | nil => exact .refl _ _
  | cons key rest ih =>
      unfold prepare
      split
      case isTrue =>
        rcases logged_cancel rule key s with ⟨w, done⟩ | ⟨thrown, w, failed⟩
        · rw [done]
          exact .cancel key (ih (w, s.2 ++ [(key, .cancelled)]))
        · rw [failed]
          exact .refl _ _
      case isFalse => exact ih s

theorem attendReady_log (rule : Key → Rule Fd World) (key : Key) (events revents : UInt16) (s : World × Log Key) :
    (attendReady (logged rule) key events revents s).2.2 = s.2 ∨
      (attendReady (logged rule) key events revents s).2.2 = s.2 ++ [(key, .called)] := by
  unfold attendReady
  split
  case isTrue => exact .inr (congrArg Prod.snd (attend_world key s))
  case isFalse => exact .inl rfl

theorem Continues.visit {log middle after : Log Key} {rules : List Key} {key : Key}
    (here : middle = log ∨ middle = log ++ [(key, .called)]) (later : Continues middle after rules) :
    Continues log after (key :: rules) := by
  rcases here with rfl | rfl
  · exact later.skip key
  · exact later.call key

theorem serve_calls (rule : Key → Rule Fd World) (entries : List (Key × UInt16 × UInt16)) (s : World × Log Key) :
    Continues s.2 (serve (logged rule) entries s).2.world.2 (entries.map Prod.fst) := by
  induction entries generalizing s with
  | nil => exact .refl _ _
  | cons entry rest ih =>
      obtain ⟨key, events, revents⟩ := entry
      rw [List.map_cons]
      unfold serve
      dsimp only
      split
      case isTrue => exact .refl _ _
      case isFalse =>
        split
        case isTrue =>
          rcases logged_cancel rule key s with ⟨w, done⟩ | ⟨thrown, w, failed⟩
          · rw [done]
            exact .skip key (.cancel key (ih (w, s.2 ++ [(key, .cancelled)])))
          · rw [failed]
            exact .refl _ _
        case isFalse =>
          have log := attendReady_log rule key events revents s
          cases ran : attendReady (logged rule) key events revents s with
          | mk result after =>
              rw [ran] at log
              cases result with
              | error thrown => exact .visit log (.refl _ _)
              | ok _ => exact .visit log (ih after)

theorem Continues.append {log middle after : Log Key} {rules : List Key} (first : Continues log middle [])
    (second : Continues middle after rules) : Continues log after rules := by
  obtain ⟨before, rfl, none_⟩ := first
  obtain ⟨events, rfl, ordered⟩ := second
  refine ⟨before ++ events, List.append_assoc _ _ _, ?_⟩
  rw [calls_append, List.sublist_nil.mp none_]
  exact ordered

theorem wait_calls (loop : Loop Key (World × Log Key)) (timeoutMs : Int) :
    Continues loop.world.2 (waitLogged rule poll loop timeoutMs).world.2 loop.rules := by
  have set := prepare_calls rule loop.rules loop.world
  have kept := prepare_sublist (logged rule) loop.rules loop.world
  unfold waitLogged waitNextEvent
  cases made : prepare (logged rule) loop.rules loop.world with
  | mk result prepared =>
      rw [made] at set kept
      have silent : Continues loop.world.2 prepared.loop.world.2 loop.rules := by
        obtain ⟨events, same, none_⟩ := set
        exact ⟨events, same, none_.trans (List.nil_sublist _)⟩
      cases result with
      | error thrown => exact silent
      | ok _ =>
          dsimp only
          split
          case isTrue => exact silent
          case isFalse =>
            have served : ∀ (revents : List UInt16) (w : World),
                Continues loop.world.2
                  (serveReported (logged rule) prepared revents (w, prepared.loop.world.2)).2.world.2
                  loop.rules := by
              intro revents w
              have calls := serve_calls rule (reported prepared revents) (w, prepared.loop.world.2)
              rw [reported_keys (prepare_asked made) revents] at calls
              obtain ⟨events, same, ordered⟩ := calls
              exact set.append ⟨events, same, ordered.trans kept⟩
            unfold dispatch
            simp only [loggedPoll]
            cases poll prepared.pollfds timeoutMs prepared.loop.world.1 with
            | mk result after =>
                cases result with
                | error errno =>
                    dsimp only
                    split
                    · exact silent
                    · exact served [] after
                | ok counted =>
                    dsimp only
                    split
                    · exact silent
                    · exact served counted.2 after

end Order

/-- Over any number of waits, whatever the callbacks and the kernel do: the log changes nothing, rules keep
their order, each one is called until it is cancelled, is cancelled at most once and only by then out of the
list, and one wait calls it at most once, in the order of the rules. -/
theorem called_until_cancelled (rule : Key → Rule Fd World) (poll : Poll Fd World) {rules : List Key}
    (distinct : rules.Nodup) (w : World) (timeouts : List Int) :
    let after := timeouts.foldl (waitLogged rule poll) ⟨rules, w, []⟩
    after.seen Prod.fst =
        timeouts.foldl (fun loop timeoutMs => (waitNextEvent rule poll timeoutMs loop).2) ⟨rules, w⟩ ∧
      Lived rules after ∧
      ∀ timeoutMs, Continues after.world.2 (waitLogged rule poll after timeoutMs).world.2 after.rules := by
  refine ⟨?_, ?_, wait_calls _⟩
  · refine foldl_related (R := fun (loop : Loop Key (World × Log Key)) plain => loop.seen Prod.fst = plain) _ _
      timeouts _ _ rfl ?_
    rintro loop plain timeoutMs _ rfl
    have asks : ∀ pollfds timeoutMs (s : World × Log Key), poll pollfds timeoutMs s.1 =
        ((loggedPoll poll pollfds timeoutMs s).1, (loggedPoll poll pollfds timeoutMs s).2.1) :=
      fun _ _ _ => rfl
    exact (congrArg Prod.snd (wait_lifts (logged_lifts rule) asks timeoutMs loop)).symm
  · induction timeouts using List.reverseRecOn with
    | nil => exact start_lived rules w
    | append_singleton timeouts timeoutMs ih =>
        rw [List.foldl_append]
        exact wait_lived distinct ih timeoutMs

end Log

def readerAndWriter : Bool → Rule Unit FDWrapper
  | true =>
      { fdNum := ()
        fd := id
        direction := .in_
        callback := Action.alter fun d => { d.registerRead with eof := d.readCount = 1 } }
  | false => { fdNum := (), fd := id, direction := .out, callback := Action.alter FDWrapper.registerWrite }

def alwaysReady : Poll Unit FDWrapper := fun pollfds _ d =>
  (.ok (pollfds.length, pollfds.map PollFd.events), d)

theorem reader_and_writer_live :
    let after := [10, 10, 10].foldl (waitLogged readerAndWriter alwaysReady) ⟨[true, false], {}, []⟩
    Lived [true, false] after ∧ after.rules = [false] ∧
      after.world.2 = [(true, .called), (false, .called), (true, .called), (false, .called),
        (true, .cancelled), (false, .called)] := by
  have distinct : [true, false].Nodup := by decide
  have general := called_until_cancelled readerAndWriter alwaysReady distinct {} [10, 10, 10]
  exact ⟨general.2.1, by decide +kernel, by decide +kernel⟩

end Sponge.EventLoop

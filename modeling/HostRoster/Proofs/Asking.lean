import HostRoster.Cluster.Source

/-!
# Sources that ask

A source may send a request only when its watcher has nothing else to go through, and it then waits
for the answer (`ClusterSource.Asks`). A list is begun by an event, which ends a row of failures. So
no failure is counted while a list is asked for, whatever has happened before
(`ClusterSource.sound_follow`).
-/

set_option autoImplicit false

namespace HostRoster

namespace Watcher

/-- A watcher at a stage waits for the answer to a request. -/
def Awaits (stage : WatcherStage) : ClusterRequest → Prop
  | .list token => ∃ version, stage = .page token [] version ∧ (token = none → version = none)
  | .watch version => stage = .listed version

/-- Whether a watcher goes through a list. -/
def isListing (watcher : Watcher) : Bool :=
  match watcher.stage with
  | .page .. => true
  | _ => false

variable {watcher : Watcher} {request : ClusterRequest}

theorem step_of_awaiting (awaits : Awaits watcher.stage request)
    (unanswered : watcher.reply = none) : watcher.step = watcher.await request := by
  cases request with
  | list token =>
      obtain ⟨version, stage, first⟩ := awaits
      cases token with
      | none => simp only [step, stage, first rfl, unanswered]
      | some token => simp only [step, stage, unanswered]
  | watch version =>
      have stage : watcher.stage = .listed version := awaits
      simp only [step, stage, unanswered]

theorem step_of_answered {token : Option String} {reply : ClusterReply}
    (awaits : Awaits watcher.stage (.list token)) (answered : watcher.reply = some reply) :
    watcher.step = match reply with
      | .page page => takePage page
      | _ => restart := by
  obtain ⟨version, stage, first⟩ := awaits
  cases token with
  | none => cases reply <;> simp only [step, stage, first rfl, answered]
  | some token => cases reply <;> simp only [step, stage, answered]

/-- A step by which a watcher goes on: no request is left, and a list is begun by an event only. -/
structure GoesOn (watcher : Watcher) (result : Watcher × WatcherStep) : Prop where
  goes : result.2 ≠ .waiting
  sent : result.1.request = none
  listing : result.1.isListing = true →
    result.2 = .moved ∧ watcher.isListing = true ∨ ∃ event, result.2 = .yielded (.event event)

theorem goesOn_restart (watcher : Watcher) : watcher.GoesOn restart :=
  ⟨by simp [restart], rfl, by simp [restart, isListing]⟩

theorem goesOn_takePage (listing : watcher.isListing = true) (page : ListPage) :
    watcher.GoesOn (takePage page) := by
  unfold takePage
  dsimp only
  split
  · exact goesOn_restart watcher
  · exact ⟨by simp, rfl, fun _ => .inl ⟨rfl, listing⟩⟩

theorem goesOn_takeObject (stream : LineStream) (resource : ConfigMap) (event : WatcherEvent) :
    watcher.GoesOn (takeObject stream resource event) := by
  unfold takeObject
  split
  · exact goesOn_restart watcher
  · exact ⟨by simp, rfl, by simp [isListing]⟩

theorem goesOn_takeLine (version : String) (stream : LineStream) (line : String) :
    watcher.GoesOn (takeLine version stream line) := by
  unfold takeLine
  cases WatchLine.read line with
  | cutShort | malformed => exact ⟨by simp, rfl, by simp [isListing]⟩
  | message content =>
      cases content with
      | added resource | modified resource | deleted resource => exact goesOn_takeObject _ _ _
      | bookmark version => exact ⟨by simp, rfl, by simp [isListing]⟩
      | failure code =>
          dsimp only
          split
          · exact goesOn_restart watcher
          · exact ⟨by simp, rfl, by simp [isListing]⟩

/-- **All that a step can do:** send a request, stay, or go on. -/
theorem step_cases (watcher : Watcher) :
    (∃ request, Awaits watcher.stage request ∧ watcher.reply = none ∧
      watcher.step = watcher.await request) ∨
    watcher.step = (watcher, .waiting) ∨ watcher.GoesOn watcher.step := by
  cases stage : watcher.stage with
  | empty =>
      simp only [step, stage]
      exact .inr (.inr ⟨by simp, rfl, fun _ => .inr ⟨_, rfl⟩⟩)
  | page token objects version =>
      have listing : watcher.isListing = true := by rw [isListing, stage]
      cases objects with
      | cons resource objects =>
          simp only [step, stage]
          exact .inr (.inr ⟨by simp, rfl, fun _ => .inr ⟨_, rfl⟩⟩)
      | nil =>
          by_cases complete : token = none ∧ version ≠ none
          · obtain ⟨rfl, known⟩ := complete
            obtain ⟨version, rfl⟩ := Option.ne_none_iff_exists'.mp known
            simp only [step, stage]
            exact .inr (.inr ⟨by simp, rfl, by simp [isListing]⟩)
          · have first : token = none → version = none := by simpa using complete
            have awaits : Awaits watcher.stage (.list token) := ⟨version, stage, first⟩
            cases reply : watcher.reply with
            | none =>
                exact .inl ⟨.list token, ⟨version, rfl, first⟩, rfl, step_of_awaiting awaits reply⟩
            | some answer =>
                rw [step_of_answered awaits reply]
                cases answer with
                | page page => exact .inr (.inr (goesOn_takePage listing page))
                | refused | opened => exact .inr (.inr (goesOn_restart watcher))
  | listed version =>
      cases reply : watcher.reply with
      | none =>
          have awaits : Awaits watcher.stage (.watch version) := stage
          exact .inl ⟨.watch version, rfl, rfl, step_of_awaiting awaits reply⟩
      | some _ =>
          simp only [step, stage, reply]
          exact .inr (.inr ⟨by simp, rfl, by simp [isListing]⟩)
  | watching version =>
      cases next : watcher.stream.next with
      | line line behind =>
          simp only [step, stage, next]
          exact .inr (.inr (goesOn_takeLine version behind line))
      | waiting =>
          simp only [step, stage, next]
          exact .inr (.inl trivial)
      | ended =>
          simp only [step, stage, next]
          exact .inr (.inr ⟨by simp, rfl, by simp [isListing]⟩)

end Watcher

/-- A loop that is asked to stop hands over no event. -/
theorem RetryLoop.quiet_stop (loop : RetryLoop) (arrange : List String → List String)
    (namespaceName : String) (retry : RetrySettings) :
    Output.events (loop.perform arrange namespaceName retry .stop).2 = [] := by
  rw [perform]
  split <;> rfl

namespace ClusterSource

variable {Handler : Type} {retry : RetrySettings}

/-! ## Histories -/

/-- A source after a turn, and what is reported. One that ends in the turn stays as it was, so that
whatever holds after all turns holds up to the end. -/
def turned (source : ClusterSource Handler) (stopRequested : Bool := false)
    (readyFirst : Bool := false) : ClusterSource Handler × List Output :=
  match source.turn stopRequested readyFirst with
  | .waiting next => (next, [])
  | .acted next outputs => (next, outputs)
  | .ended _ outputs => (source, outputs)

/-- What can happen to a source. -/
inductive Happening where
  /-- The source takes a turn, in which it may be asked to stop. -/
  | turn (stopRequested : Bool := false) (readyFirst : Bool := false)
  | reply (reply : ClusterReply)
  | feed (change : LineStream → LineStream)
  | pass (milliseconds : Nat)
  | chance (chance : Chance)

/-- A source after something has happened. -/
def happen (source : ClusterSource Handler) : Happening → ClusterSource Handler
  | .turn stopRequested readyFirst => (source.turned stopRequested readyFirst).1
  | .reply reply => (source.answer? reply).getD source
  | .feed change => source.feed change
  | .pass milliseconds => source.setClock (source.clock + milliseconds)
  | .chance chance => { source with chance }

/-- A source with a registered handler that has not begun, in a program that checks its sums or
not. -/
def fresh (checksSums : Bool) (retry : RetrySettings) (registration : Registration Handler) :
    ClusterSource Handler where
  retry := retry
  registration := some registration
  loop := { checksSums }

/-- A source after all that has happened since a handler was registered. -/
def follow (checksSums : Bool) (retry : RetrySettings) (registration : Registration Handler)
    (history : List Happening) : ClusterSource Handler :=
  history.foldl happen (fresh checksSums retry registration)

/-! ## Turns -/

section Turns

variable {source : ClusterSource Handler} {registration : Registration Handler}

/-- A source that waits after a failure, by which its watcher has come to some state. -/
def failedWith (source : ClusterSource Handler) (watcher : Watcher) : ClusterSource Handler :=
  let failures := nextFailures source.loop.failures
  let delay := source.retry.delay failures source.chance.draw
  { source with
    watcher, loop := { source.loop with failures, phase := .waiting delay }
    wakeTime := source.clock + delay }

theorem turned_of_unstarted (registered : source.registration = some registration)
    (unstarted : source.isStarted = false) :
    source.turned.1 = { source with isStarted := true } := by
  simp [turned, turn, registered, unstarted]

theorem turn_of_waiting (registered : source.registration = some registration)
    (started : source.isStarted = true) {delay : Nat}
    (waiting : source.loop.phase = .waiting delay) :
    source.turn false false =
      if source.clock < source.wakeTime then .waiting source
      else .acted { source with loop := { source.loop with phase := .listening } } [] := by
  simp [turn, registered, started, waiting, perform, RetryLoop.perform]

theorem turned_of_awake (registered : source.registration = some registration)
    (started : source.isStarted = true) {delay : Nat} (waiting : source.loop.phase = .waiting delay)
    (awake : source.wakeTime ≤ source.clock) :
    source.turned = ({ source with loop := { source.loop with phase := .listening } }, []) := by
  rw [turned, turn_of_waiting registered started waiting, if_neg (Nat.not_lt_of_le awake)]

theorem turned_of_stopped (registered : source.registration = some registration)
    (started : source.isStarted = true) (stopped : source.loop.phase = .stopped) :
    source.turned = (source, []) := by
  simp [turned, turn, registered, started, stopped]

theorem turned_of_brokenDown (registered : source.registration = some registration)
    (started : source.isStarted = true) (broken : source.loop.phase = .brokenDown) :
    source.turned = (source, []) := by
  simp [turned, turn, registered, started, broken]

/-- A registered source that has begun takes the next item of its watcher. -/
structure Listens (source : ClusterSource Handler) (registration : Registration Handler) :
    Prop where
  registered : source.registration = some registration
  started : source.isStarted = true
  listening : source.loop.phase = .listening

variable (listens : source.Listens registration) {next : Watcher}

include listens

theorem turned_of_watcher_waiting (step : source.watcher.step = (next, .waiting)) :
    source.turned = ({ source with watcher := next }, []) := by
  simp [turned, turn, listens.registered, listens.started, listens.listening, step]

theorem turned_of_moved (step : source.watcher.step = (next, .moved)) :
    source.turned = ({ source with watcher := next }, []) := by
  simp [turned, turn, listens.registered, listens.started, listens.listening, step]

/-- A source that takes an item hands it to its loop. -/
theorem turned_of_item {item : WatcherItem}
    (step : source.watcher.step = (next, .yielded item)) :
    source.turned =
      { source with watcher := next }.perform registration.namespaceName
        (.item item source.chance) := by
  simp [turned, turn, listens.registered, listens.started, listens.listening, step]

theorem turned_of_event {event : WatcherEvent}
    (step : source.watcher.step = (next, .yielded (.event event))) :
    source.turned =
      ({ source with
          watcher := next
          loop := { source.loop with
            tracker := (source.loop.tracker.apply Tracker.sortNames event).1, failures := 0 } },
        (source.loop.tracker.apply Tracker.sortNames event).2) := by
  simp [turned_of_item listens step, perform, RetryLoop.perform, listens.listening]

theorem turned_of_failed (step : source.watcher.step = (next, .yielded .failed))
    (word : source.retry.overflows (nextFailures source.loop.failures) source.chance.draw =
      false) :
    source.turned =
      (source.failedWith next,
        [.entry (RetryLoop.failureEntry source.chance.wording (nextFailures source.loop.failures)
          (source.retry.delay (nextFailures source.loop.failures) source.chance.draw))]) := by
  simp [turned_of_item listens step, perform, RetryLoop.perform, RetryLoop.fail, failedWith,
    listens.listening, word]

end Turns

/-- **A request to stop ends a source or makes no difference.** A source that heeds the request
hands over no event and stays as it is. A source that takes items as if there were no request has
not heeded it. -/
theorem turned_cases_of_stop (source : ClusterSource Handler) (stopRequested readyFirst : Bool) :
    RetryLoop.heedsStop stopRequested source.isReady readyFirst = true ∧
        (source.turned stopRequested readyFirst).1 = source ∧
        Output.events (source.turned stopRequested readyFirst).2 = [] ∨
      source.turned stopRequested readyFirst = source.turned ∧
        ((∃ registration, source.Listens registration) →
          RetryLoop.heedsStop stopRequested source.isReady readyFirst = false) := by
  cases registered : source.registration with
  | none =>
      refine .inr ⟨by simp [turned, turn, registered], ?_⟩
      rintro ⟨registration, listens⟩
      simp [listens.registered] at registered
  | some registration =>
      cases started : source.isStarted with
      | false =>
          refine .inr ⟨by simp [turned, turn, registered, started], ?_⟩
          rintro ⟨_, listens⟩
          simp [listens.started] at started
      | true =>
          by_cases broken : source.loop.phase = .brokenDown
          · refine .inr ⟨by simp [turned, turn, registered, started, broken], ?_⟩
            rintro ⟨_, listens⟩
            simp [listens.listening] at broken
          · cases heeds : RetryLoop.heedsStop stopRequested source.isReady readyFirst with
            | true =>
                have ends : source.turn stopRequested readyFirst =
                    .ended .returned (source.perform registration.namespaceName .stop).2 := by
                  simp [turn, registered, started, broken, heeds]
                refine .inl ⟨rfl, by rw [turned, ends], ?_⟩
                rw [turned, ends]
                exact source.loop.quiet_stop Tracker.sortNames _ source.retry
            | false =>
                exact .inr ⟨by simp [turned, turn, registered, started, broken, heeds],
                  fun _ => rfl⟩

/-! ## What holds at any time -/

/-- A source waits for the answer to a request. -/
structure Asks (source : ClusterSource Handler) (request : ClusterRequest) : Prop where
  started : source.isStarted = true
  listening : source.loop.phase = .listening
  unanswered : source.watcher.reply = none
  awaits : Watcher.Awaits source.watcher.stage request

/-- A registered source waits for the answer to every request it has sent, and there was no failure
since it has begun a list. -/
structure Sound (source : ClusterSource Handler) (retry : RetrySettings) : Prop where
  keeps : source.retry = retry
  registered : ∃ registration, source.registration = some registration
  asks : ∀ request, source.watcher.request = some request → source.Asks request
  listing : source.watcher.isListing = true → source.loop.failures = 0

theorem Sound.goesOn {source : ClusterSource Handler} {registration : Registration Handler}
    (sound : source.Sound retry) (listens : source.Listens registration)
    (goesOn : source.watcher.GoesOn source.watcher.step) : source.turned.1.Sound retry := by
  cases result : source.watcher.step with
  | mk next outcome =>
    rw [result] at goesOn
    have unsent : ∀ request, next.request = some request → False := by
      intro request sent
      exact Option.some_ne_none request (sent.symm.trans goesOn.sent)
    have page : next.isListing = true → outcome = .moved ∧ source.watcher.isListing = true ∨
        ∃ event, outcome = .yielded (.event event) := goesOn.listing
    cases outcome with
    | waiting => exact absurd rfl goesOn.goes
    | moved =>
        rw [turned_of_moved listens result]
        refine ⟨sound.keeps, sound.registered, fun _ sent => (unsent _ sent).elim, ?_⟩
        intro begun
        rcases page begun with ⟨-, before⟩ | ⟨event, yields⟩
        · exact sound.listing before
        · cases yields
    | yielded item =>
        cases item with
        | event event =>
            rw [turned_of_event listens result]
            exact ⟨sound.keeps, sound.registered, fun _ sent => (unsent _ sent).elim, fun _ => rfl⟩
        | failed =>
            rw [turned_of_item listens result]
            refine ⟨sound.keeps, sound.registered, fun _ sent => (unsent _ sent).elim, ?_⟩
            intro begun
            rcases page begun with ⟨stays, -⟩ | ⟨event, yields⟩
            · cases stays
            · cases yields

theorem Sound.turned {source : ClusterSource Handler} (sound : source.Sound retry) :
    source.turned.1.Sound retry := by
  obtain ⟨registration, registered⟩ := sound.registered
  cases started : source.isStarted with
  | false =>
      rw [turned_of_unstarted registered started]
      refine ⟨sound.keeps, sound.registered, fun request sent => ?_, sound.listing⟩
      obtain ⟨_, listening, unanswered, awaits⟩ := sound.asks request sent
      exact ⟨rfl, listening, unanswered, awaits⟩
  | true =>
      cases phase : source.loop.phase with
      | stopped =>
          rw [turned_of_stopped registered started phase]
          exact sound
      | brokenDown =>
          rw [turned_of_brokenDown registered started phase]
          exact sound
      | waiting delay =>
          have unsent : ∀ request, source.watcher.request ≠ some request := by
            intro request sent
            have listening := (sound.asks request sent).listening
            rw [phase] at listening
            cases listening
          rw [ClusterSource.turned, turn_of_waiting registered started phase]
          by_cases early : source.clock < source.wakeTime
          · rw [if_pos early]
            exact sound
          · rw [if_neg early]
            exact ⟨sound.keeps, sound.registered, fun request sent => absurd sent (unsent request),
              sound.listing⟩
      | listening =>
          have listens : source.Listens registration := ⟨registered, started, phase⟩
          rcases source.watcher.step_cases with ⟨request, awaits, unanswered, step⟩ | step | goesOn
          · rw [turned_of_watcher_waiting listens step]
            refine ⟨sound.keeps, sound.registered, fun other sent => ?_, sound.listing⟩
            obtain rfl := Option.some.inj sent
            exact ⟨started, phase, unanswered, awaits⟩
          · rw [turned_of_watcher_waiting listens step]
            exact sound
          · exact sound.goesOn listens goesOn

theorem Sound.retimed {source : ClusterSource Handler} (sound : source.Sound retry)
    (clock : Nat) (chance : Chance) : Sound { source with clock, chance } retry := by
  refine ⟨sound.keeps, sound.registered, fun request sent => ?_, sound.listing⟩
  obtain ⟨started, listening, unanswered, awaits⟩ := sound.asks request sent
  exact ⟨started, listening, unanswered, awaits⟩

theorem Sound.answer? {source answered : ClusterSource Handler} {reply : ClusterReply}
    (sound : source.Sound retry) (answers : source.answer? reply = some answered) :
    answered.Sound retry := by
  obtain ⟨watcher, taken, rfl⟩ := Option.map_eq_some_iff.mp answers
  unfold Watcher.answer? at taken
  split at taken
  · cases taken
  · split at taken
    · cases taken
      exact ⟨sound.keeps, sound.registered, fun _ sent => absurd sent (by simp), sound.listing⟩
    · cases taken

theorem Sound.feed {source : ClusterSource Handler} (sound : source.Sound retry)
    (change : LineStream → LineStream) : (source.feed change).Sound retry := by
  unfold ClusterSource.feed Watcher.feed
  split
  · refine ⟨sound.keeps, sound.registered, fun request sent => ?_, sound.listing⟩
    obtain ⟨started, listening, unanswered, awaits⟩ := sound.asks request sent
    exact ⟨started, listening, unanswered, awaits⟩
  · exact sound

theorem Sound.happen {source : ClusterSource Handler} (sound : source.Sound retry)
    (happening : Happening) : (source.happen happening).Sound retry := by
  cases happening with
  | turn stopRequested readyFirst =>
      rw [ClusterSource.happen]
      rcases source.turned_cases_of_stop stopRequested readyFirst with ⟨-, stays, -⟩ | ⟨unasked, -⟩
      · rw [stays]
        exact sound
      · rw [unasked]
        exact sound.turned
  | reply reply =>
      rw [ClusterSource.happen]
      cases answers : source.answer? reply with
      | none => exact sound
      | some answered => exact sound.answer? answers
  | feed change => exact sound.feed change
  | pass milliseconds => exact sound.retimed _ _
  | chance chance => exact sound.retimed _ _

theorem sound_follow (checksSums : Bool) (retry : RetrySettings)
    (registration : Registration Handler) (history : List Happening) :
    (follow checksSums retry registration history).Sound retry := by
  have all : ∀ source : ClusterSource Handler, source.Sound retry →
      (history.foldl ClusterSource.happen source).Sound retry := by
    induction history with
    | nil => exact fun source sound => sound
    | cons happening history ih => exact fun source sound => ih _ (sound.happen happening)
  refine all _ ⟨rfl, ⟨registration, rfl⟩, fun request sent => ?_, ?_⟩
  · cases sent
  · exact fun _ => rfl

end ClusterSource

end HostRoster

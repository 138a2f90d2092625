import HostRoster.Proofs.Returning
import HostRoster.Sync.Session
import HostRoster.Watch.Channel

/-!
# A cancelled session stops

The tasks of a session can get their turns in any order. `Session.Move` is what can happen then: any
action of the run, a change of the source from outside, and a turn of the source.

From the cancellation a run goes through three stages, which nothing takes back: a turn of the run
tells the source to stop, a turn of a source that listens ends it, and another turn of the run
returns. A session whose tasks get these turns therefore returns (`Session.returns_of_turns`), and
one in which no task has anything left to do has returned (`Session.returned_of_still`).

`SyncRun.returns_at_cancellation` is all that can be said about the return of a run.
-/

set_option autoImplicit false

namespace HostRoster

/-! ## Stages of a cancelled run -/

namespace SyncRun

variable {run next : SyncRun}

/-- Events that the source hands on leave its task alone. -/
theorem watch_delivers (run : SyncRun) (events : List ResourceEvent) :
    (run.performAll (events.map .deliver)).1.watch = run.watch := by
  induction events generalizing run with
  | nil => rfl
  | cons event events ih =>
      have once : (run.perform (.deliver event)).1.watch = run.watch := by
        simp only [perform]
        split <;> rfl
      exact (ih _).trans once

/-- What an action makes of a run that has been started. -/
inductive Progress (run : SyncRun) : SyncRun → Prop where
  | same : Progress run run
  | signal {shutdown : Shutdown} (leads : Shutdown.Leads run.shutdown shutdown) :
      Progress run { run with shutdown }
  | follow (roster : Roster) : Progress run { run with roster }
  | endWatch {how : WatchEnd} (active : run.watch = .active) :
      Progress run { run with watch := .ended how }
  | turn {result : SyncRun × List LogEntry} (turn : Turning run result) : Progress run result.1

theorem progress (started : run.phase ≠ .notStarted) (action : Action) :
    Progress run (run.perform action).1 := by
  cases action with
  | subscribe =>
      rw [perform, takeSubscription_of_started started]
      exact .same
  | start =>
      rw [perform, start_of_started started]
      exact .same
  | trigger => exact .signal (.trigger run.shutdown)
  | dropShutdown => exact .signal (.drop run.shutdown)
  | call event => exact .follow _
  | deliver event =>
      simp only [perform]
      split
      · exact .follow _
      · exact .same
  | endWatch how =>
      simp only [perform]
      split
      next active => exact .endWatch active
      next => exact .same
  | advance watchFirst => exact .turn (turning run watchFirst)

/-- The run has been started with a source, and is cancelled. -/
structure IsHalting (run : SyncRun) : Prop where
  sourced : run.hasSource = true
  started : run.phase ≠ .notStarted
  cancelled : run.isCancelled = true

/-- The run has told its source to stop. -/
def HasHalted (run : SyncRun) : Prop := run.phase = .draining ∨ run.phase = .returned none

theorem HasHalted.started (halted : run.HasHalted) : run.phase ≠ .notStarted := by
  rcases halted with phase | phase <;> simp [phase]

theorem SourceEnded.started (orderly : run.Orderly) (ended : run.SourceEnded) :
    run.phase ≠ .notStarted := by
  obtain ⟨how, ended⟩ := ended
  have fits := orderly.fits
  intro fresh
  simp [Fits, fresh, ended] at fits

theorem IsHalting.progress (orderly : run.Orderly) (halting : run.IsHalting)
    (step : Progress run next) : next.IsHalting := by
  obtain ⟨sourced, started, cancelled⟩ := halting
  cases step with
  | same | follow | endWatch => exact ⟨sourced, started, cancelled⟩
  | signal leads => exact ⟨sourced, started, isCancelled_of_leads orderly.placed leads cancelled⟩
  | turn turn =>
      cases turn with
      | wait => exact ⟨sourced, started, cancelled⟩
      | refuse | launch | launchLate | drain | notice | finishWatching | finishDraining
      | finishUnattended => exact ⟨sourced, by simp [SyncRun.launch], cancelled⟩

theorem HasHalted.progress (halted : run.HasHalted) (step : Progress run next) :
    next.HasHalted := by
  cases step with
  | same | signal | follow | endWatch => exact halted
  | turn turn =>
      cases turn with
      | wait => exact halted
      | launchLate | drain => exact .inl rfl
      | finishWatching | finishDraining | finishUnattended => exact .inr rfl
      | refuse phase | launch phase | notice phase => simp [HasHalted, phase] at halted

/-- A source that has ended stays so. -/
theorem SourceEnded.progress (orderly : run.Orderly) (ended : run.SourceEnded)
    (step : Progress run next) : next.SourceEnded := by
  obtain ⟨how, ended⟩ := ended
  have fits := orderly.fits
  cases step with
  | same | signal | follow => exact ⟨how, ended⟩
  | endWatch active => simp [ended] at active
  | turn turn =>
      cases turn with
      | launch spawned | launchLate spawned => simp [Fits, spawned, ended] at fits
      | wait | refuse | drain | notice | finishWatching | finishDraining | finishUnattended =>
          exact ⟨how, ended⟩

theorem returned_progress {failure : Option RegistrationError}
    (returned : run.phase = .returned failure) (step : Progress run next) :
    next.phase = .returned failure := by
  cases step with
  | same | signal | follow | endWatch => exact returned
  | turn turn =>
      cases turn with
      | wait => exact returned
      | refuse phase | launch phase | launchLate phase | drain phase | notice phase
      | finishWatching phase | finishDraining phase | finishUnattended phase =>
          simp [phase] at returned

/-- The first stage: a turn of a cancelled run tells the source to stop. -/
theorem IsHalting.advance (orderly : run.Orderly) (halting : run.IsHalting) (watchFirst : Bool) :
    (run.advance watchFirst).1.HasHalted := by
  obtain ⟨sourced, started, cancelled⟩ := halting
  have turn := turning run watchFirst
  generalize run.advance watchFirst = result at turn
  cases turn with
  | launchLate | drain => exact .inl rfl
  | finishWatching | finishDraining | finishUnattended => exact .inr rfl
  | refuse _ alone => simp [sourced] at alone
  | launch _ _ calm | notice _ calm => simp [cancelled] at calm
  | wait waits =>
      cases phase : run.phase with
      | notStarted => exact absurd phase started
      | spawned | watching | unattended => simp [Waits, phase, cancelled] at waits
      | draining => exact .inl phase
      | returned failure =>
          cases failure with
          | none => exact .inr phase
          | some cause => simp [(orderly.of_failed phase).2] at sourced

/-- The last stage: a turn of a run whose source has been told to stop and has ended returns. -/
theorem HasHalted.advance (halted : run.HasHalted) (ended : run.SourceEnded) (watchFirst : Bool) :
    (run.advance watchFirst).1.phase = .returned none := by
  have turn := turning run watchFirst
  generalize run.advance watchFirst = result at turn
  cases turn with
  | finishWatching | finishDraining | finishUnattended => rfl
  | refuse phase | launch phase | launchLate phase | drain phase | notice phase =>
      simp [HasHalted, phase] at halted
  | wait waits =>
      rcases halted with draining | returned
      · simp only [Waits, draining] at waits
        exact absurd ended waits
      · exact returned

/-! ## What nothing takes back -/

/-- A property of runs that have been started which no action takes back. -/
structure Lasting (property : SyncRun → Prop) : Prop where
  started : ∀ {run : SyncRun}, run.Orderly → property run → run.phase ≠ .notStarted
  kept : ∀ {run next : SyncRun}, run.Orderly → property run → Progress run next → property next

theorem lasting_isHalting : Lasting IsHalting :=
  ⟨fun _ halting => halting.started, fun orderly halting step => halting.progress orderly step⟩

theorem lasting_hasHalted : Lasting HasHalted :=
  ⟨fun _ halted => halted.started, fun _ halted step => halted.progress step⟩

theorem lasting_sourceEnded : Lasting SourceEnded :=
  ⟨fun orderly ended => ended.started orderly,
    fun orderly ended step => ended.progress orderly step⟩

theorem lasting_returned : Lasting fun run => run.phase = .returned none :=
  ⟨fun _ returned => by simp [returned], fun _ returned step => returned_progress returned step⟩

theorem Lasting.and {one two : SyncRun → Prop} (first : Lasting one) (second : Lasting two) :
    Lasting fun run => one run ∧ two run :=
  ⟨fun orderly both => first.started orderly both.1,
    fun orderly both step => ⟨first.kept orderly both.1 step, second.kept orderly both.2 step⟩⟩

theorem Lasting.performAll {property : SyncRun → Prop} (lasting : Lasting property)
    (orderly : run.Orderly) (holds : property run) (actions : List Action) :
    property (run.performAll actions).1 := by
  induction actions generalizing run with
  | nil => exact holds
  | cons action actions ih =>
      have step := progress (lasting.started orderly holds) action
      exact ih (orderly.perform action) (lasting.kept orderly holds step)

end SyncRun

/-! ## Sessions -/

namespace Session

variable {Source : Type}

@[simp] theorem run_wake (session : Session Source) (task : Task) :
    (session.wake task).run = session.run := by
  unfold wake
  split <;> rfl

@[simp] theorem source_wake (session : Session Source) (task : Task) :
    (session.wake task).source = session.source := by
  unfold wake
  split <;> rfl

/-- Handing outputs on has the run follow the events among them. -/
theorem deliver_fst (session : Session Source) (outputs : List Output) :
    (session.deliver outputs).1 =
      { session with
        run := (session.run.performAll ((Output.events outputs).map .deliver)).1 } := by
  induction outputs generalizing session with
  | nil => rfl
  | cons output outputs ih =>
      cases output with
      | entry entry => exact ih session
      | event event => exact ih (session.perform (.deliver event)).1

variable [WatchSource Source]

/-- What can happen to a session whose tasks get their turns in any order. -/
inductive Move (Source : Type) where
  /-- An action of the run. -/
  | perform (action : SyncRun.Action)
  /-- The source is changed from outside. -/
  | feed (change : Source → Source)
  /-- The task of the source takes a turn, if it is under way. -/
  | watch

/-- A session after a move. -/
def move (session : Session Source) : Move Source → Session Source
  | .perform action => (session.perform action).1
  | .feed change => session.feed change
  | .watch => if session.isWatching then (session.watchTurns 1).1 else session

/-- A session after moves in their order. -/
def moveAll (session : Session Source) (moves : List (Move Source)) : Session Source :=
  moves.foldl move session

/-- What a turn of the source has the run do. -/
def watchActions (session : Session Source) : List SyncRun.Action :=
  match session.source.map (WatchSource.turn session.run.stopRequested) with
  | some (.acted _ outputs) => (Output.events outputs).map .deliver
  | some (.ended how outputs) => (Output.events outputs).map .deliver ++ [.endWatch how]
  | some (.waiting _) | none => []

/-- What a move has the run do. -/
def actionsOf (session : Session Source) : Move Source → List SyncRun.Action
  | .perform action => [action]
  | .feed _ => []
  | .watch => if session.isWatching then session.watchActions else []

/-- What moves have the run do. -/
def history (session : Session Source) : List (Move Source) → List SyncRun.Action
  | [] => []
  | move :: moves => session.actionsOf move ++ (session.move move).history moves

/-- A turn of the source is what it has the run do. -/
theorem run_watchTurn (session : Session Source) :
    (session.watchTurns 1).1.run = (session.run.performAll session.watchActions).1 := by
  cases held : session.source with
  | none => simp [watchTurns, watchActions, held, SyncRun.performAll]
  | some source =>
      cases turn : WatchSource.turn session.run.stopRequested source with
      | waiting source => simp [watchTurns, watchActions, held, turn, SyncRun.performAll]
      | acted source outputs => simp [watchTurns, watchActions, held, turn, deliver_fst]
      | ended how outputs =>
          simp [watchTurns, watchActions, held, turn, deliver_fst, SyncRun.performAll_append]
          rfl

/-- A move is what it has the run do. -/
theorem run_move (session : Session Source) (move : Move Source) :
    (session.move move).run = (session.run.performAll (session.actionsOf move)).1 := by
  cases move with
  | perform action => rfl
  | feed change =>
      simp only [Session.move, feed]
      split <;> simp [actionsOf, SyncRun.performAll]
  | watch =>
      simp only [Session.move, actionsOf]
      split
      · exact run_watchTurn session
      · rfl

/-- **Moves are what they have the run do.** -/
theorem run_moveAll (session : Session Source) (moves : List (Move Source)) :
    (session.moveAll moves).run = (session.run.performAll (session.history moves)).1 := by
  induction moves generalizing session with
  | nil => rfl
  | cons move moves ih =>
      rw [history, SyncRun.performAll_append, ← run_move]
      exact ih (session.move move)

/-- A turn in which the source comes to its end ends its task. -/
theorem sourceEnded_watchTurn {session : Session Source} {source : Source} {how : WatchEnd}
    {outputs : List Output} (active : session.run.watch = .active)
    (held : session.source = some source)
    (turn : WatchSource.turn session.run.stopRequested source = .ended how outputs) :
    (session.watchTurns 1).1.run.SourceEnded := by
  have still : ((session.run.performAll ((Output.events outputs).map .deliver)).1).watch =
      .active := by
    rw [SyncRun.watch_delivers, active]
  refine ⟨how, ?_⟩
  simp [run_watchTurn, watchActions, held, turn, SyncRun.performAll_append, SyncRun.performAll,
    SyncRun.perform, still]

/-! ## Sessions that have their source -/

/-- A session with an orderly run, and with a source that has not ended. -/
structure Manned (session : Session Source) : Prop where
  orderly : session.run.Orderly
  staffed : ¬ session.run.SourceEnded → session.source.isSome = true

namespace Manned

variable {session : Session Source}

theorem move (manned : session.Manned) (move : Move Source) : (session.move move).Manned := by
  have orderly : (session.move move).run.Orderly := by
    rw [run_move]
    exact manned.orderly.performAll _
  refine ⟨orderly, fun underWay => ?_⟩
  -- A source that is under way after the move was under way before it, and was there.
  have before : session.source.isSome = true := by
    refine manned.staffed fun ended => underWay ?_
    rw [run_move]
    exact SyncRun.lasting_sourceEnded.performAll manned.orderly ended _
  cases move with
  | perform action => exact before
  | feed change =>
      simp only [Session.move, feed]
      split <;> simpa using before
  | watch =>
      simp only [Session.move] at underWay ⊢
      split at underWay
      next watching =>
        have active : session.run.watch = .active := by simpa [isWatching] using watching
        obtain ⟨source, held⟩ := Option.isSome_iff_exists.mp before
        rw [if_pos watching]
        cases turn : WatchSource.turn session.run.stopRequested source with
        | waiting | acted => simp [watchTurns, held, turn, deliver_fst]
        | ended how outputs =>
            have ended := sourceEnded_watchTurn active held turn
            exact absurd ended underWay
      next unwatched => rwa [if_neg unwatched]

/-- What nothing takes back stays through moves. -/
theorem lasts (manned : session.Manned) {property : SyncRun → Prop}
    (lasting : SyncRun.Lasting property) (holds : property session.run) (move : Move Source) :
    property (session.move move).run := by
  rw [run_move]
  exact lasting.performAll manned.orderly holds _

theorem moveAll (manned : session.Manned) (moves : List (Move Source)) :
    (session.moveAll moves).Manned := by
  induction moves generalizing session with
  | nil => exact manned
  | cons move moves ih => exact ih (manned.move move)

theorem lasts_all (manned : session.Manned) {property : SyncRun → Prop}
    (lasting : SyncRun.Lasting property) (holds : property session.run)
    (moves : List (Move Source)) : property (session.moveAll moves).run := by
  rw [run_moveAll]
  exact lasting.performAll manned.orderly holds _

/-- What one of the moves brings about holds at the end, whatever the others are. -/
theorem gains (manned : session.Manned) (move : Move Source) {before after : SyncRun → Prop}
    (first : SyncRun.Lasting before) (second : SyncRun.Lasting after)
    (gain : ∀ {session : Session Source}, session.Manned → before session.run →
      after (session.move move).run)
    (holds : before session.run) {moves : List (Move Source)} (among : move ∈ moves) :
    after (session.moveAll moves).run := by
  obtain ⟨earlier, later, rfl⟩ := List.append_of_mem among
  have there := manned.moveAll earlier
  have gained := gain there (manned.lasts_all first holds earlier)
  have rest := (there.move move).lasts_all second gained later
  simpa only [Session.moveAll, List.foldl_append, List.foldl_cons] using rest

end Manned

/-! ## Sources that listen -/

/-- A source that ends with its next turn when it is told to stop. -/
def Listens (Source : Type) [WatchSource Source] : Prop :=
  ∀ source : Source, ∃ how outputs, WatchSource.turn true source = .ended how outputs

/-- A channel listens, whether a handler is registered or not and whatever is in the queue. -/
theorem listens_channel : Listens (ChannelSource Unit) := by
  intro source
  show ∃ how outputs, ChannelSource.turn true source = .ended how outputs
  unfold ChannelSource.turn
  split <;> exact ⟨_, _, rfl⟩

section Return

variable {session : Session Source}

omit [WatchSource Source] in
/-- The task of a source that has been told to stop has a source, unless it has ended. -/
theorem Manned.active_of_halted (manned : session.Manned) (halted : session.run.HasHalted)
    (underWay : ¬ session.run.SourceEnded) :
    session.run.watch = .active ∧ session.run.stopRequested = true ∧
      ∃ source, session.source = some source := by
  have tasked : session.run.watch ≠ .absent := by
    have fits := manned.orderly.fits
    rcases halted with phase | phase <;>
    · simp only [SyncRun.Fits, phase] at fits
      exact fits.1.2.1
  refine ⟨?_, (manned.orderly.stopRequested_iff tasked).mpr halted,
    Option.isSome_iff_exists.mp (manned.staffed underWay)⟩
  cases watch : session.run.watch with
  | absent => exact absurd watch tasked
  | active => rfl
  | ended how => exact absurd ⟨how, watch⟩ underWay

/-- The second stage: a turn of a source that has been told to stop ends it, if it listens. -/
theorem Manned.ended_of_watch (listens : Listens Source) (manned : session.Manned)
    (halted : session.run.HasHalted) : (session.move .watch).run.SourceEnded := by
  by_cases ended : session.run.SourceEnded
  · exact manned.lasts SyncRun.lasting_sourceEnded ended .watch
  · obtain ⟨active, told, source, held⟩ := manned.active_of_halted halted ended
    obtain ⟨how, outputs, turn⟩ := listens source
    rw [← told] at turn
    have watching : session.isWatching = true := by simp [isWatching, active]
    rw [Session.move, if_pos watching]
    exact sourceEnded_watchTurn active held turn

/-- **A cancelled session returns once its tasks get their turns**: a turn of the run, a turn of the
source and a turn of the run, in this order and with whatever else in between. -/
theorem Manned.returns_of_turns (listens : Listens Source) (manned : session.Manned)
    (halting : session.run.IsHalting) {moves : List (Move Source)} {first second : Bool}
    (turns : [.perform (.advance first), .watch, .perform (.advance second)].Sublist moves) :
    (session.moveAll moves).run.phase = .returned none := by
  -- The moves up to the first of the turns, up to the second, and the others.
  obtain ⟨start, rest, rfl, one, turns⟩ := List.cons_sublist_iff.mp turns
  obtain ⟨middle, ending, rfl, two, turns⟩ := List.cons_sublist_iff.mp turns
  have three := List.singleton_sublist.mp turns
  have halted := manned.gains (.perform (.advance first)) SyncRun.lasting_isHalting
    SyncRun.lasting_hasHalted (fun there halting => halting.advance there.orderly first) halting one
  have mannedThere := manned.moveAll start
  have ended := mannedThere.gains .watch SyncRun.lasting_hasHalted
    (SyncRun.lasting_hasHalted.and SyncRun.lasting_sourceEnded)
    (fun there halted =>
      ⟨there.lasts SyncRun.lasting_hasHalted halted .watch, there.ended_of_watch listens halted⟩)
    halted two
  have returned := (mannedThere.moveAll middle).gains (.perform (.advance second))
    (SyncRun.lasting_hasHalted.and SyncRun.lasting_sourceEnded) SyncRun.lasting_returned
    (fun _ stopped => stopped.1.advance stopped.2 second) ended three
  simpa only [Session.moveAll, List.foldl_append] using returned

/-- No task of the session can take a further step. -/
structure IsStill (session : Session Source) : Prop where
  run : session.run.IsStill
  watch : ∀ source, session.isWatching = true → session.source = some source →
    ∃ next, WatchSource.turn session.run.stopRequested source = .waiting next

/-- **A cancelled session in which no task can take a further step has returned.** -/
theorem Manned.returned_of_still (listens : Listens Source) (manned : session.Manned)
    (halting : session.run.IsHalting) (still : session.IsStill) :
    session.run.phase = .returned none := by
  -- A turn changes nothing any more, so what it would bring about holds already.
  have halted : session.run.HasHalted := still.run false ▸ halting.advance manned.orderly false
  by_cases ended : session.run.SourceEnded
  · have returned := halted.advance ended false
    rwa [still.run false] at returned
  · obtain ⟨active, told, source, held⟩ := manned.active_of_halted halted ended
    obtain ⟨next, waiting⟩ := still.watch source (by simp [isWatching, active]) held
    obtain ⟨how, outputs, turn⟩ := listens source
    rw [told, turn] at waiting
    cases waiting

end Return

end Session

/-! ## The return of a run -/

namespace SyncRun

/-- **When a run returns.** It returns an error exactly if it was started without a source. Apart
from that it returns only after its subscription could see a cancellation and its source has ended,
in whichever order and however the source ended; and whenever no turn of it changes anything, it has
returned exactly if both are the case. It makes no difference what a turn looks at first. The stop
signal of the source is given at the cancellation and reaches the source whenever that listens. The
end of the source and the return are reported once each, when they are due. So a run over a channel
that is cancelled returns when both tasks get their turns. -/
theorem returns_at_cancellation (namespaceName : String) (roster : Roster) :
    (∀ (hasSource : Bool) (actions : List Action),
      let run : SyncRun := { namespaceName, hasSource, roster }
      let last := (run.performAll actions).1
      (∀ failure, last.phase = .returned failure →
        failure = some .notRegistered ∧ hasSource = false ∨
          failure = none ∧ hasSource = true ∧ run.SeesCancellation actions ∧ last.SourceEnded) ∧
      (last.IsStill →
        (last.phase = .returned (some .notRegistered) ↔
          hasSource = false ∧ last.phase ≠ .notStarted) ∧
        (last.phase = .returned none ↔ run.SeesCancellation actions ∧ last.SourceEnded)) ∧
      (∀ watchFirst, last.advance watchFirst = last.advance false) ∧
      (last.watch ≠ .absent →
        (last.stopRequested = true ↔ last.phase = .draining ∨ last.phase = .returned none)) ∧
      (run.performAll actions).2.filter isClosing = last.reported) ∧
    ∀ (source : ChannelSource Unit) (earlier : List (Session.Move (ChannelSource Unit))),
      let run : SyncRun := { namespaceName, hasSource := true, roster }
      let session : Session (ChannelSource Unit) := { run, source := some source }
      let now := session.moveAll earlier
      now.run = (run.performAll (session.history earlier)).1 ∧
      (now.run.phase ≠ .notStarted → run.SeesCancellation (session.history earlier) →
        (now.IsStill → now.run.phase = .returned none) ∧
        ∀ first second later,
          [.perform (.advance first), .watch, .perform (.advance second)].Sublist later →
            (now.moveAll later).run.phase = .returned none) := by
  refine ⟨fun hasSource actions => ?run, fun source earlier => ?session⟩
  case run =>
    intro run last
    have new : run.Orderly := orderly_new namespaceName hasSource roster
    have orderly : last.Orderly := new.performAll actions
    have source : last.hasSource = hasSource := hasSource_performAll run actions
    have sees : last.isCancelled = true ↔ run.SeesCancellation actions :=
      isCancelled_iff new rfl rfl actions
    refine ⟨fun failure returned => ?_, fun still => ⟨?_, ?_⟩, advance_choice last,
      orderly.stopRequested_iff, ?_⟩
    · cases failure with
      | none =>
          obtain ⟨sourced, cancelled, ended⟩ := orderly.of_returned returned
          exact .inr ⟨rfl, source.symm.trans sourced, sees.mp cancelled, ended⟩
      | some cause =>
          obtain ⟨rfl, alone⟩ := orderly.of_failed returned
          exact .inl ⟨rfl, source.symm.trans alone⟩
    · refine ⟨fun failed => ⟨?_, by simp [failed]⟩, fun ⟨alone, started⟩ => ?_⟩
      · exact source.symm.trans (orderly.of_failed failed).2
      · exact orderly.failed_of_waits (waits_of_still still) started (source.trans alone)
    · rw [← sees]
      exact orderly.returned_iff (waits_of_still still)
    · have coherent : run.Coherent := ⟨fun _ => rfl, by simp [run]⟩
      exact new.reported_performAll coherent actions
  case session =>
    intro run session now
    have new : run.Orderly := orderly_new namespaceName true roster
    have manned : session.Manned := ⟨new, fun _ => rfl⟩
    have path : now.run = (run.performAll (session.history earlier)).1 :=
      Session.run_moveAll session earlier
    refine ⟨path, fun started seen => ?_⟩
    have halting : now.run.IsHalting := by
      refine ⟨?_, started, ?_⟩
      · rw [path, hasSource_performAll]
      · rw [path]
        exact (isCancelled_iff new rfl rfl _).mpr seen
    exact ⟨(manned.moveAll earlier).returned_of_still Session.listens_channel halting,
      fun first second later =>
        (manned.moveAll earlier).returns_of_turns Session.listens_channel halting⟩

/-- A shutdown that is triggered before the run is started, but after the subscription. -/
theorem returns_after_early_trigger :
    let source : ChannelSource Unit := { registration := some ⟨"nkl", ()⟩ }
    let run : SyncRun := { namespaceName := "nkl", hasSource := true }
    let session : Session (ChannelSource Unit) := { run, source := some source }
    let earlier : List (Session.Move (ChannelSource Unit)) :=
      [.perform .subscribe, .perform .trigger, .perform .start]
    let later : List (Session.Move (ChannelSource Unit)) :=
      [.perform (.advance true), .watch, .perform .trigger, .perform (.advance false)]
    (session.moveAll earlier).run.phase ≠ .notStarted ∧
      run.SeesCancellation (session.history earlier) ∧
      ((session.moveAll earlier).moveAll later).run.phase = .returned none := by
  intro source run session earlier later
  have started : (session.moveAll earlier).run.phase ≠ .notStarted := by decide
  have seen : run.SeesCancellation (session.history earlier) :=
    ⟨rfl, .inr ⟨[.subscribe], [.start], rfl, by simp, rfl⟩⟩
  have turns : [.perform (.advance true), .watch, .perform (.advance false)].Sublist later :=
    .cons_cons _ (.cons_cons _ (.cons _ (.cons_cons _ .slnil)))
  obtain ⟨-, returns⟩ := (returns_at_cancellation "nkl" {}).2 source earlier
  exact ⟨started, seen, (returns started seen).2 true false later turns⟩

/-- A trigger that comes after the subscription is not seen if it is not the first: the run waits,
its source has ended, and it has not returned. -/
theorem repeated_trigger_unseen :
    let run : SyncRun := { namespaceName := "nkl", hasSource := true }
    let earlier : List Action := [.trigger, .start, .advance false]
    let last := (run.performAll (earlier ++ [.trigger, .endWatch .returned, .advance false])).1
    (run.performAll earlier).1.subscription = some 0 ∧ last.subscription = some 0 ∧
      last.IsStill ∧ last.SourceEnded ∧ last.phase ≠ .returned none := by
  intro run earlier last
  refine ⟨rfl, rfl, fun watchFirst => ?_, ⟨.returned, rfl⟩, by decide⟩
  cases watchFirst <;> rfl

end SyncRun

end HostRoster

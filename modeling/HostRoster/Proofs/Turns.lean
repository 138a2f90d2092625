import HostRoster.Proofs.Freezing
import HostRoster.Proofs.Listening

/-!
# The turns of a run

`SyncRun.Turning` lists what a turn of a run can find and what it makes of it; a turn that changes
nothing is a turn of a run that waits (`SyncRun.waits_of_still`). With it every action keeps a run
orderly (`SyncRun.Orderly.performAll`): its phase says whether the source has its task, whether the
task has ended, whether the run was cancelled and whether the source has been told to stop.
-/

set_option autoImplicit false

namespace HostRoster

namespace SyncRun

variable {run : SyncRun}

/-! ## Turns -/

/-- The source has come to its end. -/
def SourceEnded (run : SyncRun) : Prop := ∃ how, run.watch = .ended how

/-- The run has nothing to do before something else happens. -/
def Waits (run : SyncRun) : Prop :=
  match run.phase with
  | .notStarted | .returned _ => True
  | .spawned => False
  | .watching => run.isCancelled = false ∧ ¬ run.SourceEnded
  | .draining => ¬ run.SourceEnded
  | .unattended => run.isCancelled = false

/-- What a turn finds, and what it makes of it. -/
inductive Turning (run : SyncRun) : SyncRun × List LogEntry → Prop where
  | wait (waits : run.Waits) : Turning run (run, [])
  | refuse (spawned : run.phase = .spawned) (alone : run.hasSource = false) :
      Turning run ({ run with phase := .returned (some .notRegistered) }, [startEntry])
  | launch (spawned : run.phase = .spawned) (sourced : run.hasSource = true)
      (calm : run.isCancelled = false) : Turning run (run.launch, [startEntry])
  | launchLate (spawned : run.phase = .spawned) (sourced : run.hasSource = true)
      (cancelled : run.isCancelled = true) :
      Turning run ({ run.launch.halt with phase := .draining }, [startEntry])
  | drain (watching : run.phase = .watching) (cancelled : run.isCancelled = true) :
      Turning run ({ run.halt with phase := .draining }, [])
  | notice {how : WatchEnd} (watching : run.phase = .watching)
      (calm : run.isCancelled = false) (ended : run.watch = .ended how) :
      Turning run ({ run with phase := .unattended }, [endEntry how])
  | finishWatching {how : WatchEnd} (watching : run.phase = .watching)
      (cancelled : run.isCancelled = true) (ended : run.watch = .ended how) :
      Turning run ({ run.halt with phase := .returned none }, [endEntry how, run.stoppedEntry])
  | finishDraining {how : WatchEnd} (draining : run.phase = .draining)
      (ended : run.watch = .ended how) :
      Turning run ({ run with phase := .returned none }, [endEntry how, run.stoppedEntry])
  | finishUnattended (unattended : run.phase = .unattended) (cancelled : run.isCancelled = true) :
      Turning run ({ run.halt with phase := .returned none }, [run.stoppedEntry])

/-- A look at the cancellation and at the source of a run that watches. -/
theorem turning_attend (watching : run.phase = .watching) (watchFirst : Bool) :
    Turning run (run.attend watchFirst) := by
  unfold attend
  split
  next how ended =>
    cases cancelled : run.isCancelled with
    | true =>
        have finish := Turning.finishWatching watching cancelled ended
        cases watchFirst with
        | false =>
            simp only [cancel, ended, Bool.not_false, Bool.and_self, if_true]
            exact finish
        | true =>
            simp only [noticeEnd, cancelled, Bool.not_true, Bool.and_false, if_true]
            exact finish
    | false => simpa [noticeEnd, cancelled] using Turning.notice watching cancelled ended
  next unended =>
    split
    next cancelled =>
      have look : run.cancel = ({ run.halt with phase := .draining }, []) := by
        unfold cancel
        split
        next how ended => exact absurd ended (unended how)
        next => rfl
      rw [look]
      exact .drain watching cancelled
    next calm =>
      refine .wait ?_
      simp only [Waits, watching]
      refine ⟨Bool.eq_false_iff.mpr calm, ?_⟩
      rintro ⟨how, ended⟩
      exact unended how ended

theorem turning (run : SyncRun) (watchFirst : Bool) : Turning run (run.advance watchFirst) := by
  unfold advance
  split
  next spawned =>
    split
    next sourced =>
      -- The task of the source is new, so that only the cancellation can be ready.
      cases cancelled : run.isCancelled with
      | true =>
          have look : run.launch.attend watchFirst =
              ({ run.launch.halt with phase := .draining }, []) :=
            if_pos (c := run.launch.isCancelled = true) cancelled
          rw [look]
          exact .launchLate spawned sourced cancelled
      | false =>
          have look : run.launch.attend watchFirst = (run.launch, []) :=
            if_neg (c := run.launch.isCancelled = true) (Bool.eq_false_iff.mp cancelled)
          rw [look]
          exact .launch spawned sourced cancelled
    next alone => exact .refuse spawned (Bool.eq_false_iff.mpr alone)
  next watching => exact turning_attend watching watchFirst
  next draining =>
    split
    next how ended => exact .finishDraining draining ended
    next unended =>
      refine .wait ?_
      simp only [Waits, draining]
      rintro ⟨how, ended⟩
      exact unended how ended
  next unattended =>
    split
    next cancelled => exact .finishUnattended unattended cancelled
    next calm =>
      refine .wait ?_
      simp only [Waits, unattended]
      exact Bool.eq_false_iff.mpr calm
  next waits => exact .wait (by simp only [Waits, waits])
  next waits => exact .wait (by simp only [Waits, waits])

/-- **When both are ready, it makes no difference which of the two a turn looks at first.** -/
theorem advance_choice (run : SyncRun) (watchFirst : Bool) :
    run.advance watchFirst = run.advance false := by
  have look (run : SyncRun) : run.attend watchFirst = run.attend false := by
    cases watchFirst with
    | false => rfl
    | true =>
        unfold attend
        split
        next how ended =>
          cases cancelled : run.isCancelled <;> simp [cancel, noticeEnd, ended, cancelled]
        next => rfl
  unfold advance
  simp only [look]

/-- No turn of the run changes anything. -/
def IsStill (run : SyncRun) : Prop := ∀ watchFirst, (run.advance watchFirst).1 = run

/-- A run that stays as it is waits. -/
theorem waits_of_still (still : run.IsStill) : run.Waits := by
  have same := congrArg phase (still false)
  cases h : run.advance false with
  | mk next entries =>
      have turn := turning run false
      rw [h] at turn same
      cases turn with
      | wait waits => exact waits
      | refuse spawned | launch spawned | launchLate spawned =>
          simp [spawned, SyncRun.launch] at same
      | drain watching | notice watching | finishWatching watching => simp [watching] at same
      | finishDraining draining => simp [draining] at same
      | finishUnattended unattended => simp [unattended] at same

/-! ## What each phase says -/

/-- A signal has a listener that was there from the beginning, and is not taken away. -/
structure Heard (stop : Shutdown) (listener : Nat) : Prop where
  stands : stop.StandsAt listener 0
  once : stop.SendsOnce
  kept : stop.isDropped = false

namespace Heard

variable {stop : Shutdown} {listener : Nat}

theorem subscribe :
    Heard (({} : Shutdown).subscribe).1 (({} : Shutdown).subscribe).2 := ⟨rfl, rfl, rfl⟩

theorem trigger (heard : Heard stop listener) : Heard stop.trigger listener where
  stands := (Shutdown.Leads.trigger stop).standsAt heard.stands
  once := heard.once.trigger
  kept := by rw [Shutdown.isDropped_trigger, heard.kept]

/-- The listener is to stop once the signal has been given. -/
theorem reaches_iff (heard : Heard stop listener) :
    stop.reaches listener = true ↔ stop.triggered = true := by
  rw [heard.stands.reaches_iff_of_first heard.once]
  simp [heard.kept]

end Heard

/-- The source has a task, and the task can be told to stop. -/
def Tended (run : SyncRun) : Prop :=
  run.hasSource = true ∧ run.watch ≠ .absent ∧ Heard run.stop run.listener

/-- What the phase of a run says about its source and about its cancellation. -/
def Fits (run : SyncRun) : Prop :=
  match run.phase with
  | .notStarted => run.watch = .absent ∧ run.stop = {}
  | .spawned => run.watch = .absent ∧ run.stop = {} ∧ run.subscription.isSome
  | .watching => run.Tended ∧ run.stop.triggered = false
  | .draining => run.Tended ∧ run.stop.triggered = true ∧ run.isCancelled = true
  | .unattended => run.Tended ∧ run.stop.triggered = false ∧ run.SourceEnded
  | .returned none =>
    run.Tended ∧ run.stop.triggered = true ∧ run.isCancelled = true ∧ run.SourceEnded
  | .returned (some cause) =>
    run.watch = .absent ∧ cause = .notRegistered ∧ run.hasSource = false

/-- A run whose phase fits, with a place at its shutdown if it has subscribed. -/
structure Orderly (run : SyncRun) : Prop where
  once : run.shutdown.SendsOnce
  placed : ∀ subscriber, run.subscription = some subscriber →
    ∃ position, position ≤ run.shutdown.broadcast.sent ∧
      run.shutdown.StandsAt subscriber position
  fits : run.Fits

theorem orderly_new (namespaceName : String) (hasSource : Bool) (roster : Roster) :
    Orderly { namespaceName, hasSource, roster } where
  once := Shutdown.sendsOnce_new
  placed := by simp
  fits := ⟨rfl, rfl⟩

theorem heard_launch (fresh : run.stop = {}) : Heard run.launch.stop run.launch.listener := by
  simp only [SyncRun.launch, fresh]
  exact .subscribe

/-- A turn keeps a run orderly. -/
theorem Orderly.turning {result : SyncRun × List LogEntry} (orderly : run.Orderly)
    (turn : Turning run result) : result.1.Orderly := by
  obtain ⟨once, placed, fits⟩ := orderly
  -- No turn touches the shutdown or the subscription, so only the phase has to fit again.
  cases turn with
  | wait => exact ⟨once, placed, fits⟩
  | refuse spawned alone =>
      simp only [Fits, spawned] at fits
      exact ⟨once, placed, fits.1, rfl, alone⟩
  | launch spawned sourced =>
      simp only [Fits, spawned] at fits
      have heard := heard_launch fits.2.1
      refine ⟨once, placed, ⟨sourced, by simp [SyncRun.launch], heard⟩, ?_⟩
      simp [SyncRun.launch, fits.2.1, Shutdown.subscribe]
  | launchLate spawned sourced cancelled =>
      simp only [Fits, spawned] at fits
      have heard := heard_launch fits.2.1
      exact ⟨once, placed, ⟨sourced, by simp [SyncRun.launch, halt], heard.trigger⟩,
        Shutdown.triggered_trigger _, cancelled⟩
  | drain watching cancelled =>
      simp only [Fits, watching] at fits
      obtain ⟨⟨sourced, tasked, heard⟩, -⟩ := fits
      exact ⟨once, placed, ⟨sourced, tasked, heard.trigger⟩, Shutdown.triggered_trigger _,
        cancelled⟩
  | @notice how watching calm ended =>
      simp only [Fits, watching] at fits
      exact ⟨once, placed, fits.1, fits.2, how, ended⟩
  | @finishWatching how watching cancelled ended =>
      simp only [Fits, watching] at fits
      obtain ⟨⟨sourced, tasked, heard⟩, -⟩ := fits
      exact ⟨once, placed, ⟨sourced, tasked, heard.trigger⟩, Shutdown.triggered_trigger _,
        cancelled, how, ended⟩
  | @finishDraining how draining ended =>
      simp only [Fits, draining] at fits
      obtain ⟨tended, told, cancelled⟩ := fits
      exact ⟨once, placed, tended, told, cancelled, how, ended⟩
  | finishUnattended unattended cancelled =>
      simp only [Fits, unattended] at fits
      obtain ⟨⟨sourced, tasked, heard⟩, -, ended⟩ := fits
      exact ⟨once, placed, ⟨sourced, tasked, heard.trigger⟩, Shutdown.triggered_trigger _,
        cancelled, ended⟩

/-- A run that is cancelled stays so when its shutdown moves on. -/
theorem isCancelled_of_leads {shutdown : Shutdown}
    (placed : ∀ subscriber, run.subscription = some subscriber →
      ∃ position, position ≤ run.shutdown.broadcast.sent ∧
        run.shutdown.StandsAt subscriber position)
    (leads : Shutdown.Leads run.shutdown shutdown) (cancelled : run.isCancelled = true) :
    ({ run with shutdown } : SyncRun).isCancelled = true := by
  unfold isCancelled at cancelled ⊢
  cases subscribed : run.subscription with
  | none => simp [subscribed] at cancelled
  | some subscriber =>
      obtain ⟨position, -, stands⟩ := placed subscriber subscribed
      simp only [subscribed] at cancelled ⊢
      exact leads.reaches stands cancelled

/-- A run stays orderly when its shutdown is triggered or dropped. -/
theorem Orderly.shutdown {shutdown : Shutdown} (orderly : run.Orderly)
    (leads : Shutdown.Leads run.shutdown shutdown) (once : shutdown.SendsOnce) :
    Orderly { run with shutdown } := by
  have still := isCancelled_of_leads orderly.placed leads
  refine ⟨once, fun subscriber subscribed => ?_, ?_⟩
  · obtain ⟨position, low, stands⟩ := orderly.placed subscriber subscribed
    exact ⟨position, Nat.le_trans low leads.sent, leads.standsAt stands⟩
  · have fits := orderly.fits
    unfold Fits at fits ⊢
    cases phase : run.phase with
    | notStarted | spawned | watching | unattended =>
        simp only [phase] at fits ⊢
        exact fits
    | draining =>
        simp only [phase] at fits ⊢
        exact ⟨fits.1, fits.2.1, still fits.2.2⟩
    | returned failure =>
        cases failure with
        | none =>
            simp only [phase] at fits ⊢
            exact ⟨fits.1, fits.2.1, still fits.2.2.1, fits.2.2.2⟩
        | some => simpa only [phase] using fits

/-! ## Subscriptions -/

theorem takeSubscription_of_started (started : run.phase ≠ .notStarted) :
    run.takeSubscription = run := by
  unfold takeSubscription
  rw [if_neg (fun ready => started ready.1)]

theorem start_of_started (started : run.phase ≠ .notStarted) : run.start = run := by
  unfold start
  rw [if_neg (fun ready => started ready.1)]

/-- A subscription is taken at the end of all signals, or there is none to take. -/
theorem takeSubscription_cases (run : SyncRun) :
    run.takeSubscription = run ∧ (run.phase ≠ .notStarted ∨ run.shutdown.isDropped = true) ∨
      run.phase = .notStarted ∧ run.takeSubscription =
        { run with
          shutdown := run.shutdown.subscribe.1
          subscription := some run.shutdown.subscribe.2 } := by
  unfold takeSubscription
  split
  next ready => exact .inr ⟨ready.1, rfl⟩
  next unready =>
    refine .inl ⟨rfl, ?_⟩
    by_cases fresh : run.phase = .notStarted
    · exact .inr (by simpa [fresh] using unready)
    · exact .inl fresh

theorem Orderly.takeSubscription (orderly : run.Orderly) : run.takeSubscription.Orderly := by
  rcases takeSubscription_cases run with ⟨same, -⟩ | ⟨fresh, taken⟩
  · rw [same]
    exact orderly
  · rw [taken]
    refine ⟨orderly.once.subscribe, fun subscriber subscribed => ?_, ?_⟩
    · cases subscribed
      exact ⟨_, Nat.le_refl _, Shutdown.standsAt_subscribe run.shutdown⟩
    · have fits := orderly.fits
      simp only [Fits, fresh] at fits ⊢
      exact fits

/-- A run is started with a subscription, or not at all. -/
theorem start_cases (run : SyncRun) :
    run.start = run ∨
      run.phase = .notStarted ∧ ∃ subscribed,
        (subscribed = run ∨ subscribed = run.takeSubscription) ∧
          subscribed.subscription.isSome = true ∧
          run.start = { subscribed with phase := .spawned } := by
  unfold start
  split
  next ready =>
    refine .inr ⟨ready.1, ?_⟩
    by_cases held : run.subscription.isSome = true
    · exact ⟨run, .inl rfl, held, by rw [if_pos held]⟩
    · have open' : !run.shutdown.isDropped := ready.2.resolve_left held
      refine ⟨run.takeSubscription, .inr rfl, ?_, by rw [if_neg held]⟩
      rw [SyncRun.takeSubscription, if_pos ⟨ready.1, open'⟩]
      rfl
  next => exact .inl rfl

theorem Orderly.start (orderly : run.Orderly) : run.start.Orderly := by
  rcases start_cases run with same | ⟨fresh, subscribed, origin, held, started⟩
  · rw [same]
    exact orderly
  · have ready : subscribed.Orderly ∧ subscribed.phase = .notStarted := by
      rcases origin with rfl | rfl
      · exact ⟨orderly, fresh⟩
      · exact ⟨orderly.takeSubscription, by rw [phase_takeSubscription, fresh]⟩
    obtain ⟨⟨once, placed, fits⟩, before⟩ := ready
    rw [started]
    simp only [Fits, before] at fits
    exact ⟨once, placed, fits.1, fits.2, held⟩

/-! ## Actions -/

/-- The source is under way only while the run watches it or waits for its end. -/
theorem Orderly.phase_of_active (orderly : run.Orderly) (active : run.watch = .active) :
    run.phase = .watching ∨ run.phase = .draining := by
  have fits := orderly.fits
  cases phase : run.phase with
  | watching => exact .inl rfl
  | draining => exact .inr rfl
  | notStarted | spawned => simp [Fits, phase, active] at fits
  | unattended => simp [Fits, phase, active, SourceEnded] at fits
  | returned failure => cases failure <;> simp [Fits, phase, active, SourceEnded] at fits

/-- **Every action keeps a run orderly.** -/
theorem Orderly.perform (orderly : run.Orderly) (action : Action) :
    (run.perform action).1.Orderly := by
  cases action with
  | subscribe => exact orderly.takeSubscription
  | start => exact orderly.start
  | trigger => exact orderly.shutdown (.trigger _) orderly.once.trigger
  | dropShutdown => exact orderly.shutdown (.drop _) orderly.once.drop
  | call event => exact ⟨orderly.once, orderly.placed, orderly.fits⟩
  | deliver event =>
      simp only [SyncRun.perform]
      split
      · exact ⟨orderly.once, orderly.placed, orderly.fits⟩
      · exact orderly
  | endWatch how =>
      simp only [SyncRun.perform]
      split
      next active =>
        refine ⟨orderly.once, orderly.placed, ?_⟩
        have fits := orderly.fits
        rcases orderly.phase_of_active active with watching | draining
        · simp only [Fits, watching] at fits ⊢
          exact ⟨⟨fits.1.1, by simp, fits.1.2.2⟩, fits.2⟩
        · simp only [Fits, draining] at fits ⊢
          exact ⟨⟨fits.1.1, by simp, fits.1.2.2⟩, fits.2⟩
      next => exact orderly
  | advance watchFirst => exact orderly.turning (SyncRun.turning run watchFirst)

/-- Whether there is a source is settled before the run is started. -/
theorem hasSource_perform (run : SyncRun) (action : Action) :
    (run.perform action).1.hasSource = run.hasSource := by
  have taken : run.takeSubscription.hasSource = run.hasSource := by
    rcases takeSubscription_cases run with ⟨same, -⟩ | ⟨-, same⟩ <;> rw [same]
  cases action with
  | subscribe => exact taken
  | start =>
      rcases start_cases run with same | ⟨-, subscribed, rfl | rfl, -, started⟩
      · rw [perform, same]
      · rw [perform, started]
      · rw [perform, started]
        exact taken
  | trigger | dropShutdown | call => rfl
  | deliver event | endWatch how =>
      simp only [perform]
      split <;> rfl
  | advance watchFirst =>
      rw [perform]
      generalize run.advance watchFirst = result, turning run watchFirst = turn
      cases turn <;> rfl

theorem hasSource_performAll (run : SyncRun) (actions : List Action) :
    (run.performAll actions).1.hasSource = run.hasSource := by
  induction actions generalizing run with
  | nil => rfl
  | cons action actions ih => exact (ih _).trans (hasSource_perform run action)

theorem Orderly.performAll (orderly : run.Orderly) (actions : List Action) :
    (run.performAll actions).1.Orderly := by
  induction actions generalizing run with
  | nil => exact orderly
  | cons action actions ih => exact ih (orderly.perform action)

end SyncRun

end HostRoster

import HostRoster.Proofs.Turns

/-!
# When a run returns

A run that waits has returned if it is cancelled and its source has ended, and not otherwise
(`SyncRun.Orderly.returned_iff`). Whether it is cancelled is a matter of its past: the shutdown was
dropped, or the first trigger came after the subscription (`SyncRun.isCancelled_iff`). The end of
the source and the return are reported once each, in this order
(`SyncRun.Orderly.reported_performAll`).
-/

set_option autoImplicit false

namespace HostRoster

namespace SyncRun

variable {run : SyncRun}

/-! ## The return -/

/-- The source of a run is told to stop when the run is cancelled, and not before. -/
theorem Orderly.stopRequested_iff (orderly : run.Orderly) (tasked : run.watch ≠ .absent) :
    run.stopRequested = true ↔ run.phase = .draining ∨ run.phase = .returned none := by
  have fits := orderly.fits
  cases phase : run.phase with
  | notStarted | spawned => simp [Fits, phase, tasked] at fits
  | watching | draining | unattended =>
      simp only [Fits, phase] at fits
      rw [stopRequested, fits.1.2.2.reaches_iff]
      simp [fits.2]
  | returned failure =>
      cases failure with
      | none =>
          simp only [Fits, phase] at fits
          rw [stopRequested, fits.1.2.2.reaches_iff]
          simp [fits.2]
      | some => simp [Fits, phase, tasked] at fits

/-- A run returns without an error only after it was cancelled and its source has ended. -/
theorem Orderly.of_returned (orderly : run.Orderly) (returned : run.phase = .returned none) :
    run.hasSource = true ∧ run.isCancelled = true ∧ run.SourceEnded := by
  have fits := orderly.fits
  simp only [Fits, returned] at fits
  exact ⟨fits.1.1, fits.2.2⟩

/-- A run fails only for want of a source. -/
theorem Orderly.of_failed (orderly : run.Orderly) {cause : RegistrationError}
    (failed : run.phase = .returned (some cause)) :
    cause = .notRegistered ∧ run.hasSource = false := by
  have fits := orderly.fits
  simp only [Fits, failed] at fits
  exact fits.2

/-- **A run that waits has returned without an error exactly if it is cancelled and its source has
ended.** -/
theorem Orderly.returned_iff (orderly : run.Orderly) (waits : run.Waits) :
    run.phase = .returned none ↔ run.isCancelled = true ∧ run.SourceEnded := by
  refine ⟨fun returned => (orderly.of_returned returned).2, fun ⟨cancelled, how, ended⟩ => ?_⟩
  have fits := orderly.fits
  cases phase : run.phase with
  | notStarted | spawned => simp [Fits, phase, ended] at fits
  | watching | unattended => simp [Waits, phase, cancelled] at waits
  | draining =>
      simp only [Waits, phase] at waits
      exact absurd ⟨how, ended⟩ waits
  | returned failure =>
      cases failure with
      | none => rfl
      | some => simp [Fits, phase, ended] at fits

/-- A run without a source that was started and waits has failed. -/
theorem Orderly.failed_of_waits (orderly : run.Orderly) (waits : run.Waits)
    (started : run.phase ≠ .notStarted) (alone : run.hasSource = false) :
    run.phase = .returned (some .notRegistered) := by
  have fits := orderly.fits
  cases phase : run.phase with
  | notStarted => exact absurd phase started
  | spawned => simp [Waits, phase] at waits
  | watching | draining | unattended => simp [Fits, phase, Tended, alone] at fits
  | returned failure =>
      cases failure with
      | none => simp [Fits, phase, Tended, alone] at fits
      | some cause => rw [(orderly.of_failed phase).1]

/-! ## What the past says -/

theorem performAll_append (run : SyncRun) (earlier later : List Action) :
    (run.performAll (earlier ++ later)).1 =
      ((run.performAll earlier).1.performAll later).1 := by
  induction earlier generalizing run with
  | nil => rfl
  | cons action earlier ih => exact ih (run.perform action).1

/-- A cancellation that the subscription of the run can see: the shutdown is dropped, or the first
trigger comes when the run has the subscription that it keeps. -/
def SeesCancellation (run : SyncRun) (actions : List Action) : Prop :=
  (run.performAll actions).1.subscription.isSome = true ∧
    (.dropShutdown ∈ actions ∨
      ∃ earlier later, actions = earlier ++ .trigger :: later ∧ .trigger ∉ earlier ∧
        (run.performAll earlier).1.subscription = (run.performAll actions).1.subscription)

/-- What an action makes of the shutdown and of the subscription of the run. -/
inductive Signalled (run : SyncRun) : Action → Shutdown → Option Nat → Prop where
  | quiet {action : Action} (untriggered : action ≠ .trigger) (undropped : action ≠ .dropShutdown) :
      Signalled run action run.shutdown run.subscription
  | subscribe {action : Action} (untriggered : action ≠ .trigger)
      (undropped : action ≠ .dropShutdown) :
      Signalled run action run.shutdown.subscribe.1 (some run.shutdown.subscribe.2)
  | trigger : Signalled run .trigger run.shutdown.trigger run.subscription
  | drop : Signalled run .dropShutdown run.shutdown.drop run.subscription

theorem signalled (run : SyncRun) (action : Action) :
    Signalled run action (run.perform action).1.shutdown (run.perform action).1.subscription := by
  have taken {action : Action} (untriggered : action ≠ .trigger)
      (undropped : action ≠ .dropShutdown) :
      Signalled run action run.takeSubscription.shutdown run.takeSubscription.subscription := by
    rcases takeSubscription_cases run with ⟨same, -⟩ | ⟨-, same⟩
    · rw [same]
      exact .quiet untriggered undropped
    · rw [same]
      exact .subscribe untriggered undropped
  cases action with
  | subscribe => exact taken (by simp) (by simp)
  | start =>
      rcases start_cases run with same | ⟨-, subscribed, rfl | rfl, -, started⟩
      · simp only [perform, same]
        exact .quiet (by simp) (by simp)
      · simp only [perform, started]
        exact .quiet (by simp) (by simp)
      · simp only [perform, started]
        exact taken (by simp) (by simp)
  | trigger => exact .trigger
  | dropShutdown => exact .drop
  | call event => exact .quiet (by simp) (by simp)
  | deliver event =>
      simp only [perform]
      split <;> exact .quiet (by simp) (by simp)
  | endWatch how =>
      simp only [perform]
      split <;> exact .quiet (by simp) (by simp)
  | advance watchFirst =>
      simp only [perform]
      generalize run.advance watchFirst = result, turning run watchFirst = turn
      cases turn <;> exact .quiet (by simp) (by simp)

namespace Signalled

variable {action : Action} {shutdown : Shutdown} {subscription : Option Nat}

theorem leads (step : Signalled run action shutdown subscription) :
    Shutdown.Leads run.shutdown shutdown := by
  cases step with
  | quiet => exact .refl _
  | subscribe => exact .subscribe _
  | trigger => exact .trigger _
  | drop => exact .drop _

theorem isDropped_iff (step : Signalled run action shutdown subscription) :
    shutdown.isDropped = true ↔ run.shutdown.isDropped = true ∨ action = .dropShutdown := by
  cases step with
  | quiet _ undropped => simp [undropped]
  | subscribe _ undropped =>
      rw [or_iff_left undropped]
      rfl
  | trigger => simp
  | drop => exact iff_of_true rfl (.inr rfl)

theorem sent_eq (step : Signalled run action shutdown subscription)
    (untriggered : action ≠ .trigger) :
    shutdown.broadcast.sent = run.shutdown.broadcast.sent := by
  cases step with
  | trigger => exact absurd rfl untriggered
  | quiet | subscribe | drop => rfl

/-- A new subscription stands behind the signals that have been sent before. -/
theorem standsAt (step : Signalled run action shutdown subscription) :
    subscription = run.subscription ∨
      ∃ subscriber, subscription = some subscriber ∧
        shutdown.StandsAt subscriber run.shutdown.broadcast.sent := by
  cases step with
  | quiet | trigger | drop => exact .inl rfl
  | subscribe => exact .inr ⟨_, rfl, Shutdown.standsAt_subscribe run.shutdown⟩

end Signalled

/-- Actions never take a signal back. -/
theorem leads_performAll (run : SyncRun) (actions : List Action) :
    Shutdown.Leads run.shutdown (run.performAll actions).1.shutdown := by
  induction actions generalizing run with
  | nil => exact .refl _
  | cons action actions ih => exact (signalled run action).leads.trans (ih _)

theorem isDropped_performAll (run : SyncRun) (actions : List Action) :
    (run.performAll actions).1.shutdown.isDropped = true ↔
      run.shutdown.isDropped = true ∨ .dropShutdown ∈ actions := by
  induction actions generalizing run with
  | nil => simp [performAll]
  | cons action actions ih =>
      have once := (signalled run action).isDropped_iff
      refine (ih (run.perform action).1).trans ?_
      rw [once, List.mem_cons, or_assoc, eq_comm (a := action)]

/-- Without a trigger no signal is sent. -/
theorem sent_performAll (run : SyncRun) {actions : List Action}
    (untriggered : Action.trigger ∉ actions) :
    (run.performAll actions).1.shutdown.broadcast.sent = run.shutdown.broadcast.sent := by
  induction actions generalizing run with
  | nil => rfl
  | cons action actions ih =>
      rw [List.mem_cons, not_or] at untriggered
      have once := (signalled run action).sent_eq (Ne.symm untriggered.1)
      exact (ih (run.perform action).1 untriggered.2).trans once

/-- Actions leave the subscription as it is, or it has come to stand behind all earlier signals. -/
theorem subscription_performAll (run : SyncRun) (actions : List Action) :
    (run.performAll actions).1.subscription = run.subscription ∨
      ∃ subscriber position, (run.performAll actions).1.subscription = some subscriber ∧
        run.shutdown.broadcast.sent ≤ position ∧
        (run.performAll actions).1.shutdown.StandsAt subscriber position := by
  induction actions generalizing run with
  | nil => exact .inl rfl
  | cons action actions ih =>
      have step := signalled run action
      rcases ih (run.perform action).1 with same | ⟨subscriber, position, taken, behind, stands⟩
      · rcases step.standsAt with before | ⟨subscriber, taken, stands⟩
        · exact .inl (same.trans before)
        · have still := (leads_performAll (run.perform action).1 actions).standsAt stands
          exact .inr ⟨subscriber, _, same.trans taken, Nat.le_refl _, still⟩
      · exact .inr ⟨subscriber, position, taken, Nat.le_trans step.leads.sent behind, stands⟩

/-- The first trigger sends the only signal. -/
theorem sent_first_trigger (orderly : run.Orderly) (untriggered : run.shutdown.broadcast.sent = 0)
    {earlier : List Action} (first : Action.trigger ∉ earlier) :
    (run.performAll earlier).1.shutdown.broadcast.sent = 0 ∧
      ((run.performAll earlier).1.perform .trigger).1.shutdown.broadcast.sent = 1 := by
  have before := orderly.performAll earlier
  have once : ((run.performAll earlier).1.perform .trigger).1.shutdown.SendsOnce :=
    before.once.trigger
  refine ⟨(sent_performAll run first).trans untriggered, once.trans ?_⟩
  simp only [perform, Shutdown.triggered_trigger]
  rfl

/-- After the first trigger the run is told by it exactly if it keeps the subscription that it has
then. -/
theorem ahead_iff_of_first_trigger (orderly : run.Orderly)
    (untriggered : run.shutdown.broadcast.sent = 0) {earlier later : List Action}
    (first : Action.trigger ∉ earlier) {last : SyncRun} {subscriber position : Nat}
    (reached : (run.performAll (earlier ++ .trigger :: later)).1 = last)
    (subscribed : last.subscription = some subscriber)
    (stands : last.shutdown.StandsAt subscriber position) :
    position < last.shutdown.broadcast.sent ↔
      (run.performAll earlier).1.subscription = some subscriber := by
  obtain ⟨none, one⟩ := sent_first_trigger orderly untriggered first
  rw [performAll_append] at reached
  have after := leads_performAll ((run.performAll earlier).1.perform .trigger).1 later
  have kept := subscription_performAll ((run.performAll earlier).1.perform .trigger).1 later
  have final := (orderly.performAll earlier).perform .trigger |>.performAll later
  have same : (((run.performAll earlier).1.perform .trigger).1.performAll later).1 = last := reached
  rw [same, one] at kept
  rw [same] at after final
  have sent : last.shutdown.broadcast.sent = 1 := by
    refine Nat.le_antisymm ?_ (one ▸ after.sent)
    rw [final.once]
    exact Bool.toNat_le _
  rw [sent, Nat.lt_one_iff]
  refine ⟨fun atStart => ?_, fun held => ?_⟩
  · rcases kept with before | ⟨newer, place, taken, behind, there⟩
    · exact before.symm.trans subscribed
    · -- Who subscribes after the trigger stands behind its signal.
      cases taken.symm.trans subscribed
      cases Option.some.inj (there.symm.trans stands)
      omega
  · obtain ⟨place, low, there⟩ := (orderly.performAll earlier).placed subscriber held
    have still := after.standsAt ((Shutdown.Leads.trigger _).standsAt there)
    cases Option.some.inj (still.symm.trans stands)
    omega

/-- **A run is cancelled exactly if its subscription can see a cancellation in the past.** -/
theorem isCancelled_iff (orderly : run.Orderly) (untriggered : run.shutdown.broadcast.sent = 0)
    (undropped : run.shutdown.isDropped = false) (actions : List Action) :
    (run.performAll actions).1.isCancelled = true ↔ run.SeesCancellation actions := by
  have after := orderly.performAll actions
  cases subscribed : (run.performAll actions).1.subscription with
  | none => simp [isCancelled, SeesCancellation, subscribed]
  | some subscriber =>
      obtain ⟨position, low, stands⟩ := after.placed subscriber subscribed
      have look : (run.performAll actions).1.isCancelled =
          (run.performAll actions).1.shutdown.reaches subscriber := by
        simp only [isCancelled, subscribed]
      rw [look, stands.reaches_iff, isDropped_performAll, SeesCancellation, subscribed]
      simp only [undropped, Bool.false_eq_true, false_or, Option.isSome_some, true_and]
      refine or_congr_right ⟨fun ahead => ?seen, ?sent⟩
      case seen =>
        -- A signal lies ahead, so somebody triggered, and only the first trigger sends.
        have triggered : Action.trigger ∈ actions := by
          refine Classical.byContradiction fun never => ?_
          rw [sent_performAll run never, untriggered] at ahead
          exact Nat.not_lt_zero _ ahead
        obtain ⟨earlier, later, rfl, first⟩ := List.eq_append_cons_of_mem triggered
        have held := (ahead_iff_of_first_trigger orderly untriggered first rfl subscribed stands).mp
        exact ⟨earlier, later, rfl, first, held ahead⟩
      case sent =>
        rintro ⟨earlier, later, rfl, first, held⟩
        exact (ahead_iff_of_first_trigger orderly untriggered first rfl subscribed stands).mpr held

/-! ## Reports -/

/-- The messages about the end of the source and about the return of the run. -/
def closingMessages : List String :=
  [WatchEnd.returned, .brokeDown "", .cancelled ""].map (fun how => (endEntry how).message) ++
    ["ConfigSync stopped"]

/-- Whether an entry tells of the end of the source or of the return of the run. -/
def isClosing (entry : LogEntry) : Bool := closingMessages.contains entry.message

/-- What a run has reported about the end of its source and about its return. -/
def reported (run : SyncRun) : List LogEntry :=
  match run.phase, run.watch with
  | .unattended, .ended how => [endEntry how]
  | .returned none, .ended how => [endEntry how, run.stoppedEntry]
  | _, _ => []

/-- What the roster reports is about other things. -/
theorem closing_entries (roster : Roster) (event : ResourceEvent) :
    (roster.entries event).filter isClosing = [] := by
  have payload (document : Document) : isClosing (Roster.payloadEntry document) = false := by
    unfold Roster.payloadEntry
    split <;> rfl
  have updated (document : Document) :
      (roster.updatedEntries document).filter isClosing = [] := by
    unfold Roster.updatedEntries
    rw [List.filter_cons_of_neg (by decide)]
    split
    · rfl
    · rw [List.filter_cons_of_neg (by simp [payload])]
      rfl
  cases event with
  | added resource =>
      rw [Roster.entries, List.filter_cons_of_neg (by decide)]
      exact updated resource
  | updated new old => exact updated new
  | deleted resource =>
      rw [Roster.entries, Roster.deletedEntries, List.filter_cons_of_neg (by decide)]
      split <;> rfl

@[simp] theorem isClosing_endEntry (how : WatchEnd) : isClosing (endEntry how) = true := by
  cases how <;> rfl

@[simp] theorem isClosing_stopped (values : List (String × LogValue)) :
    isClosing ⟨.info, .sync, "ConfigSync stopped", values⟩ = true := rfl

@[simp] theorem isClosing_startEntry : isClosing startEntry = false := by decide

/-- A turn reports what is to be reported, and nothing that has been reported. -/
theorem Orderly.reported_turning {result : SyncRun × List LogEntry} (orderly : run.Orderly)
    (turn : Turning run result) :
    run.reported ++ result.2.filter isClosing = result.1.reported := by
  have fits := orderly.fits
  cases turn with
  | wait => exact List.append_nil _
  | refuse spawned => simp [reported, spawned]
  | launch spawned => simp [reported, spawned, SyncRun.launch]
  | launchLate spawned => simp [reported, spawned]
  | drain watching => simp [reported, watching]
  | notice watching calm ended => simp [reported, watching, ended]
  | finishWatching watching cancelled ended =>
      simp [reported, watching, ended, halt, stoppedEntry, Roster.freeze]
  | finishDraining draining ended => simp [reported, draining, ended, stoppedEntry]
  | finishUnattended unattended cancelled =>
      simp only [Fits, unattended] at fits
      obtain ⟨-, -, how, ended⟩ := fits
      simp [reported, unattended, ended, halt, stoppedEntry, Roster.freeze]

/-- An action reports what is to be reported, and nothing that has been reported. -/
theorem Orderly.reported_perform (orderly : run.Orderly) (coherent : run.Coherent)
    (action : Action) :
    run.reported ++ (run.perform action).2.filter isClosing = (run.perform action).1.reported := by
  -- While the source is under way nothing has been reported.
  have unreported (active : run.watch = .active) : run.reported = [] := by
    rcases orderly.phase_of_active active with phase | phase <;> simp [reported, phase]
  cases action with
  | subscribe =>
      rcases takeSubscription_cases run with ⟨same, -⟩ | ⟨fresh, taken⟩
      · simp [SyncRun.perform, same]
      · simp [SyncRun.perform, taken, reported, fresh]
  | start =>
      rcases start_cases run with same | ⟨fresh, subscribed, -, -, started⟩
      · simp [SyncRun.perform, same]
      · simp [SyncRun.perform, started, reported, fresh]
  | trigger | dropShutdown => exact List.append_nil _
  | call event =>
      simp only [SyncRun.perform, closing_entries, List.append_nil]
      by_cases returned : run.phase = .returned none
      · -- The number of hosts has been reported by now, and a frozen roster keeps it.
        have frozen := coherent.halted (.inr returned)
        rw [Roster.handle_of_frozen frozen]
      · unfold reported
        split <;> simp_all
  | deliver event =>
      simp only [SyncRun.perform]
      split
      next active =>
        have phase := orderly.phase_of_active active
        rw [unreported active, closing_entries]
        rcases phase with phase | phase <;> simp [reported, phase]
      next => exact List.append_nil _
  | endWatch how =>
      simp only [SyncRun.perform]
      split
      next active =>
        rw [unreported active]
        rcases orderly.phase_of_active active with phase | phase <;> simp [reported, phase]
      next => exact List.append_nil _
  | advance watchFirst => exact orderly.reported_turning (SyncRun.turning run watchFirst)

theorem Coherent.perform (coherent : run.Coherent) (action : Action) :
    (run.perform action).1.Coherent := by
  obtain ⟨trace, path, -⟩ := perform_path run action
  exact coherent.path path

/-- **The end of the source and the return are reported once each, when they are due.** -/
theorem Orderly.reported_performAll (orderly : run.Orderly) (coherent : run.Coherent)
    (actions : List Action) :
    run.reported ++ (run.performAll actions).2.filter isClosing =
      (run.performAll actions).1.reported := by
  induction actions generalizing run with
  | nil => exact List.append_nil _
  | cons action actions ih =>
      have once := orderly.reported_perform coherent action
      have rest := ih (orderly.perform action) (coherent.perform action)
      rw [← once, List.append_assoc, ← List.filter_append] at rest
      exact rest

end SyncRun

end HostRoster

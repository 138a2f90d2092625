import HostRoster.Proofs.Publishing
import HostRoster.Sync.Run

/-!
# A run freezes its roster

A turn of a run does several things at a stretch: it sets the flag that freezes the roster, stops
the source and may return. On several threads a callback can come in between any two of them.
`SyncRun.SmallStep` cuts the turns there, and lets the handler be called and the source end at any
moment; `SyncRun.Path` is a sequence of such steps with what can be seen of them. Every execution
by `SyncRun.performAll` is a path with the same callbacks (`SyncRun.performAll_path`).

The host list of a run is a fold over the callbacks that came before the flag was set, on every
path (`SyncRun.hosts_path`) and for every execution (`SyncRun.hosts_performAll`); those that come
later change nothing (`SyncRun.roster_of_frozen`). The flag is set only at a cancellation and always
before a run returns without an error (`SyncRun.froze_before_return`), and the task of a source that
has ended calls the handler no more (`SyncRun.not_delivered_after_end`).
-/

set_option autoImplicit false

namespace HostRoster

namespace SyncRun

/-! ## Small steps -/

/-- What can be seen of a small step. -/
inductive Happening where
  /-- The task of the source calls the handler. -/
  | delivered (event : ResourceEvent)
  /-- Someone else calls the handler. -/
  | called (event : ResourceEvent)
  /-- The source ends. -/
  | watchEnded (how : WatchEnd)
  /-- The run sets the flag that freezes the roster. -/
  | froze
  /-- The run returns. -/
  | returned (failure : Option RegistrationError)
  /-- Anything else. -/
  | quiet

/-- The smallest steps of a run and of what is around it. -/
inductive SmallStep : SyncRun → Happening → SyncRun → Prop where
  | subscribe (run : SyncRun) : SmallStep run .quiet run.takeSubscription
  | start (run : SyncRun) : SmallStep run .quiet run.start
  | trigger (run : SyncRun) :
      SmallStep run .quiet { run with shutdown := run.shutdown.trigger }
  | dropShutdown (run : SyncRun) :
      SmallStep run .quiet { run with shutdown := run.shutdown.drop }
  | call (run : SyncRun) (event : ResourceEvent) :
      SmallStep run (.called event) { run with roster := run.roster.handle event }
  | deliver {run : SyncRun} (event : ResourceEvent) (active : run.watch = .active) :
      SmallStep run (.delivered event) { run with roster := run.roster.handle event }
  | endWatch {run : SyncRun} (how : WatchEnd) (active : run.watch = .active) :
      SmallStep run (.watchEnded how) { run with watch := .ended how }
  | refuse {run : SyncRun} (spawned : run.phase = .spawned) (alone : run.hasSource = false) :
      SmallStep run (.returned (some .notRegistered))
        { run with phase := .returned (some .notRegistered) }
  | launch {run : SyncRun} (spawned : run.phase = .spawned) (sourced : run.hasSource = true) :
      SmallStep run .quiet run.launch
  | noticeEnd {run : SyncRun} {how : WatchEnd} (watching : run.phase = .watching)
      (ended : run.watch = .ended how) : SmallStep run .quiet { run with phase := .unattended }
  | freezeWatching {run : SyncRun} (watching : run.phase = .watching)
      (cancelled : run.isCancelled = true) :
      SmallStep run .froze { run with roster := run.roster.freeze, phase := .draining }
  | freezeUnattended {run : SyncRun} (unattended : run.phase = .unattended)
      (thawed : run.roster.frozen = false) (cancelled : run.isCancelled = true) :
      SmallStep run .froze { run with roster := run.roster.freeze }
  | stopWatch {run : SyncRun} (frozen : run.roster.frozen = true) :
      SmallStep run .quiet { run with stop := run.stop.trigger }
  | finishDraining {run : SyncRun} {how : WatchEnd} (draining : run.phase = .draining)
      (ended : run.watch = .ended how) :
      SmallStep run (.returned none) { run with phase := .returned none }
  | finishUnattended {run : SyncRun} (unattended : run.phase = .unattended)
      (frozen : run.roster.frozen = true) :
      SmallStep run (.returned none) { run with phase := .returned none }

/-- Small steps in their order, with what can be seen of them. -/
inductive Path : SyncRun → List Happening → SyncRun → Prop where
  | here (run : SyncRun) : Path run [] run
  | next {run middle last : SyncRun} {happening : Happening} {trace : List Happening} :
      SmallStep run happening middle → Path middle trace last →
        Path run (happening :: trace) last

/-- The callbacks among happenings. -/
def callbacks (trace : List Happening) : List ResourceEvent :=
  trace.filterMap fun
    | .delivered event | .called event => some event
    | _ => none

/-- The callbacks that come before the flag is set. -/
def followed : List Happening → List ResourceEvent
  | [] => []
  | .froze :: _ => []
  | .delivered event :: later | .called event :: later => event :: followed later
  | .watchEnded _ :: later | .returned _ :: later | .quiet :: later => followed later

/-- A run that has not been started, with a roster that is not frozen. -/
structure IsFresh (run : SyncRun) : Prop where
  notStarted : run.phase = .notStarted
  unwatched : run.watch = .absent
  thawed : run.roster.frozen = false

namespace Path

variable {run middle last : SyncRun}

theorem single {happening : Happening} (step : SmallStep run happening last) :
    Path run [happening] last :=
  .next step (.here last)

theorem append {earlier later : List Happening} (first : Path run earlier middle)
    (second : Path middle later last) : Path run (earlier ++ later) last := by
  induction first with
  | here => exact second
  | next step _ ih => exact .next step (ih second)

/-- A path can be cut at every point. -/
theorem split {earlier later : List Happening} (path : Path run (earlier ++ later) last) :
    ∃ middle, Path run earlier middle ∧ Path middle later last := by
  induction earlier generalizing run with
  | nil => exact ⟨run, .here run, path⟩
  | cons happening earlier ih =>
      cases path with
      | next step rest =>
          obtain ⟨middle, first, second⟩ := ih rest
          exact ⟨middle, .next step first, second⟩

/-- What every small step keeps holds at the end of a path. -/
theorem invariant {property : SyncRun → Prop} {trace : List Happening}
    (preserved : ∀ {before happening after}, SmallStep before happening after →
      property before → property after)
    (path : Path run trace last) (initial : property run) : property last := by
  induction path with
  | here => exact initial
  | next step _ ih => exact ih (preserved step initial)

end Path

/-! ## Turns are paths -/

section Turns

variable {run : SyncRun}

/-- The steps after a cancellation when the source has ended: to freeze, to stop, to return. -/
theorem haltFinish_path (unattended : run.phase = .unattended)
    (cancelled : run.isCancelled = true) :
    ∃ trace, Path run trace run.halt.finish.1 ∧ callbacks trace = [] := by
  cases thawed : run.roster.frozen with
  | false =>
      refine ⟨[.froze, .quiet, .returned none], ?_, rfl⟩
      refine .next (.freezeUnattended unattended thawed cancelled) ?_
      exact .next (.stopWatch rfl) (.single (.finishUnattended unattended rfl))
  | true =>
      have same : run.roster.freeze = run.roster := by
        simp only [Roster.freeze, ← thawed]
      refine ⟨[.quiet, .returned none], ?_, rfl⟩
      have path := Path.next (.stopWatch thawed) (.single (.finishUnattended unattended thawed))
      simpa only [halt, finish, same] using path

/-- What comes of a cancellation is a path. -/
theorem cancel_path (watching : run.phase = .watching) (cancelled : run.isCancelled = true) :
    ∃ trace, Path run trace run.cancel.1 ∧ callbacks trace = [] := by
  have halted : Path run [.froze, .quiet] { run.halt with phase := .draining } :=
    .next (.freezeWatching watching cancelled) (.single (.stopWatch rfl))
  cases watch : run.watch with
  | ended how =>
      simp only [cancel, watch]
      exact ⟨_, halted.append (.single (.finishDraining rfl watch)), rfl⟩
  | absent | active =>
      simp only [cancel, watch]
      exact ⟨_, halted, rfl⟩

/-- What comes of the end of the source is a path. -/
theorem noticeEnd_path (watching : run.phase = .watching) {how : WatchEnd}
    (ended : run.watch = .ended how) :
    ∃ trace, Path run trace (run.noticeEnd how).1 ∧ callbacks trace = [] := by
  have noticed : SmallStep run .quiet { run with phase := .unattended } :=
    .noticeEnd watching ended
  unfold noticeEnd
  split
  next cancelled =>
    have unattended : ({ run with phase := .unattended } : SyncRun).phase = .unattended := rfl
    obtain ⟨trace, path, silent⟩ := haltFinish_path unattended cancelled
    exact ⟨.quiet :: trace, .next noticed path, silent⟩
  next => exact ⟨_, .single noticed, rfl⟩

/-- A look at the cancellation and at the source is a path, however the choice falls. -/
theorem attend_path (watching : run.phase = .watching) (watchFirst : Bool) :
    ∃ trace, Path run trace (run.attend watchFirst).1 ∧ callbacks trace = [] := by
  unfold attend
  split
  next how ended =>
    split
    next ready =>
      rw [Bool.and_eq_true] at ready
      exact cancel_path watching ready.1
    next => exact noticeEnd_path watching ended
  next =>
    split
    next cancelled => exact cancel_path watching cancelled
    next => exact ⟨[], .here run, rfl⟩

/-- **A turn of the run is nothing but small steps, and none of them calls the handler.** -/
theorem advance_path (run : SyncRun) (watchFirst : Bool) :
    ∃ trace, Path run trace (run.advance watchFirst).1 ∧ callbacks trace = [] := by
  unfold advance
  split
  next spawned =>
    split
    next sourced =>
      have watching : run.launch.phase = .watching := rfl
      obtain ⟨trace, path, silent⟩ := attend_path watching watchFirst
      exact ⟨.quiet :: trace, .next (.launch spawned sourced) path, silent⟩
    next alone => exact ⟨_, .single (.refuse spawned (Bool.eq_false_iff.mpr alone)), rfl⟩
  next watching => exact attend_path watching watchFirst
  next draining =>
    split
    next ended => exact ⟨_, .single (.finishDraining draining ended), rfl⟩
    next => exact ⟨[], .here run, rfl⟩
  next unattended =>
    split
    next cancelled => exact haltFinish_path unattended cancelled
    next => exact ⟨[], .here run, rfl⟩
  next => exact ⟨[], .here run, rfl⟩
  next => exact ⟨[], .here run, rfl⟩

end Turns

/-- The callback that an action makes. -/
def callback? (run : SyncRun) : Action → Option ResourceEvent
  | .call event => some event
  | .deliver event => if run.watch = .active then some event else none
  | _ => none

/-- The callbacks that actions make, one after the other. -/
def callbacksOf (run : SyncRun) : List Action → List ResourceEvent
  | [] => []
  | action :: actions =>
    (run.callback? action).toList ++ (run.perform action).1.callbacksOf actions

/-- The callbacks that actions make before the flag is set, one after the other. -/
def followedOf (run : SyncRun) : List Action → List ResourceEvent
  | [] => []
  | action :: actions =>
    (if run.roster.frozen then [] else (run.callback? action).toList) ++
      (run.perform action).1.followedOf actions

/-- An action is a path that makes its callback. -/
theorem perform_path (run : SyncRun) (action : Action) :
    ∃ trace, Path run trace (run.perform action).1 ∧
      callbacks trace = (run.callback? action).toList := by
  cases action with
  | subscribe => exact ⟨_, .single (.subscribe run), rfl⟩
  | start => exact ⟨_, .single (.start run), rfl⟩
  | trigger => exact ⟨_, .single (.trigger run), rfl⟩
  | dropShutdown => exact ⟨_, .single (.dropShutdown run), rfl⟩
  | call event => exact ⟨_, .single (.call run event), rfl⟩
  | deliver event =>
      by_cases active : run.watch = .active
      · simp only [perform, callback?, if_pos active]
        exact ⟨_, .single (.deliver event active), rfl⟩
      · simp only [perform, callback?, if_neg active]
        exact ⟨[], .here run, rfl⟩
  | endWatch how =>
      by_cases active : run.watch = .active
      · simp only [perform, if_pos active]
        exact ⟨_, .single (.endWatch how active), rfl⟩
      · simp only [perform, if_neg active]
        exact ⟨[], .here run, rfl⟩
  | advance watchFirst => exact advance_path run watchFirst

/-- **Every execution is a path that makes the callbacks of its actions.** -/
theorem performAll_path (run : SyncRun) (actions : List Action) :
    ∃ trace, Path run trace (run.performAll actions).1 ∧
      callbacks trace = run.callbacksOf actions := by
  induction actions generalizing run with
  | nil => exact ⟨[], .here run, rfl⟩
  | cons action actions ih =>
      obtain ⟨first, step, made⟩ := perform_path run action
      obtain ⟨rest, path, others⟩ := ih (run.perform action).1
      refine ⟨first ++ rest, step.append path, ?_⟩
      rw [callbacksOf, ← made, ← others]
      exact List.filterMap_append

/-! ## The flag and the list -/

/-- What a happening does to the roster. -/
def Happening.follow (roster : Roster) : Happening → Roster
  | .froze => roster.freeze
  | .delivered event | .called event => roster.handle event
  | .watchEnded _ | .returned _ | .quiet => roster

section Flag

variable {run last : SyncRun} {trace : List Happening}

@[simp] theorem roster_takeSubscription (run : SyncRun) :
    run.takeSubscription.roster = run.roster := by
  unfold takeSubscription
  split <;> rfl

@[simp] theorem roster_start (run : SyncRun) : run.start.roster = run.roster := by
  unfold start
  split
  · dsimp only
    split
    · rfl
    · exact roster_takeSubscription run
  · rfl

/-- The roster after a small step, by what can be seen of it. -/
theorem roster_step {happening : Happening} (step : SmallStep run happening last) :
    last.roster = happening.follow run.roster := by
  cases step with
  | subscribe => exact roster_takeSubscription run
  | start => exact roster_start run
  | trigger | dropShutdown | call | deliver | endWatch | refuse | launch | noticeEnd
  | freezeWatching | freezeUnattended | stopWatch | finishDraining | finishUnattended => rfl

/-- A frozen roster stays as it is, whatever happens. -/
theorem follow_of_frozen {roster : Roster} (frozen : roster.frozen = true)
    (happening : Happening) : happening.follow roster = roster := by
  cases happening with
  | froze => simp only [Happening.follow, Roster.freeze, ← frozen]
  | delivered event | called event => exact Roster.handle_of_frozen frozen event
  | watchEnded | returned | quiet => rfl

/-- **Once the flag is set, nothing that happens later touches the roster.** -/
theorem roster_of_frozen (path : Path run trace last) (frozen : run.roster.frozen = true) :
    last.roster = run.roster := by
  induction path with
  | here => rfl
  | next step _ ih =>
      have same := (roster_step step).trans (follow_of_frozen frozen _)
      rw [ih (same ▸ frozen), same]

/-- **The host list is a fold over the callbacks that came before the flag was set.** -/
theorem hosts_path (path : Path run trace last) (thawed : run.roster.frozen = false) :
    last.roster.hosts = publishedAfter run.roster.hosts (followed trace) := by
  induction path with
  | here => rfl
  | @next run middle last happening trace step path ih =>
      have once := roster_step step
      cases happening with
      | froze =>
          -- From here on the roster is frozen, and `followed` takes no more callbacks.
          have frozen : middle.roster.frozen = true := by rw [once]; rfl
          rw [roster_of_frozen path frozen, once]
          rfl
      | delivered event | called event =>
          have still : middle.roster.frozen = false := by
            rw [once, Happening.follow, Roster.frozen_handle, thawed]
          rw [ih still, once, Happening.follow, Roster.hosts_handle thawed]
          rfl
      | watchEnded | returned | quiet => rw [ih (once ▸ thawed), once]; rfl

/-- The flag is set exactly when the trace shows that it was. -/
theorem frozen_iff_froze (path : Path run trace last) (thawed : run.roster.frozen = false) :
    last.roster.frozen = true ↔ Happening.froze ∈ trace := by
  induction path with
  | here => simp [thawed]
  | @next run middle last happening trace step path ih =>
      have once := roster_step step
      cases happening with
      | froze =>
          have frozen : middle.roster.frozen = true := by rw [once]; rfl
          simp [roster_of_frozen path frozen, frozen]
      | delivered event | called event =>
          have still : middle.roster.frozen = false := by
            rw [once, Happening.follow, Roster.frozen_handle, thawed]
          simp [ih still]
      | watchEnded | returned | quiet => simp [ih (once ▸ thawed)]

/-- The flag is set only at a cancellation. -/
theorem cancelled_of_froze (step : SmallStep run .froze last) : run.isCancelled = true := by
  cases step with
  | freezeWatching _ cancelled => exact cancelled
  | freezeUnattended _ _ cancelled => exact cancelled

end Flag

/-! ## The end of the source and the return -/

/-- What the phase of a run says about its source and its roster. -/
structure Coherent (run : SyncRun) : Prop where
  unwatched : run.phase = .notStarted ∨ run.phase = .spawned → run.watch = .absent
  halted : run.phase = .draining ∨ run.phase = .returned none → run.roster.frozen = true

theorem IsFresh.coherent {run : SyncRun} (fresh : run.IsFresh) : run.Coherent where
  unwatched _ := fresh.unwatched
  halted := by simp [fresh.notStarted]

section Ends

variable {run last : SyncRun} {trace : List Happening}

@[simp] theorem phase_takeSubscription (run : SyncRun) :
    run.takeSubscription.phase = run.phase := by
  unfold takeSubscription
  split <;> rfl

@[simp] theorem watch_takeSubscription (run : SyncRun) :
    run.takeSubscription.watch = run.watch := by
  unfold takeSubscription
  split <;> rfl

@[simp] theorem watch_start (run : SyncRun) : run.start.watch = run.watch := by
  unfold start
  split
  · dsimp only
    split
    · rfl
    · exact watch_takeSubscription run
  · rfl

/-- Starting a run takes it out of the phase before its start, or leaves its phase alone. -/
theorem phase_start (run : SyncRun) :
    run.start.phase = run.phase ∨ run.phase = .notStarted ∧ run.start.phase = .spawned := by
  unfold start
  split
  next ready => exact .inr ⟨ready.1, rfl⟩
  next => exact .inl rfl

/-- Small steps keep a run coherent. -/
theorem Coherent.step {happening : Happening} (step : SmallStep run happening last)
    (coherent : run.Coherent) : last.Coherent := by
  have stays : run.roster.frozen = true → last.roster.frozen = true := fun frozen => by
    rw [roster_step step, follow_of_frozen frozen, frozen]
  cases step with
  | subscribe =>
      exact ⟨by simpa using coherent.unwatched, by simpa using coherent.halted⟩
  | start =>
      rcases phase_start run with same | ⟨before, after⟩
      · exact ⟨by simpa [same] using coherent.unwatched, by simpa [same] using coherent.halted⟩
      · exact ⟨fun _ => by simpa using coherent.unwatched (.inl before), by simp [after]⟩
  | trigger | dropShutdown | stopWatch => exact ⟨coherent.unwatched, coherent.halted⟩
  | call event => exact ⟨coherent.unwatched, fun halted => stays (coherent.halted halted)⟩
  | deliver event => exact ⟨coherent.unwatched, fun halted => stays (coherent.halted halted)⟩
  | endWatch how active =>
      refine ⟨fun early => ?_, coherent.halted⟩
      rw [coherent.unwatched early] at active
      cases active
  | freezeUnattended => exact ⟨coherent.unwatched, fun _ => rfl⟩
  | refuse | launch | noticeEnd => exact ⟨by simp [launch], by simp [launch]⟩
  | freezeWatching => exact ⟨by simp, fun _ => rfl⟩
  | finishDraining draining => exact ⟨by simp, fun _ => coherent.halted (.inl draining)⟩
  | finishUnattended _ frozen => exact ⟨by simp, fun _ => frozen⟩

/-- A path keeps a run coherent. -/
theorem Coherent.path (coherent : run.Coherent) (path : Path run trace last) : last.Coherent :=
  path.invariant (fun step => Coherent.step step) coherent

/-- A source that has ended stays so, and its task calls the handler no more. -/
theorem ended_step {happening : Happening} {how : WatchEnd} (coherent : run.Coherent)
    (ended : run.watch = .ended how) (step : SmallStep run happening last) :
    last.watch = .ended how ∧ ∀ event, happening ≠ .delivered event := by
  cases step with
  | subscribe => exact ⟨by simpa using ended, by simp⟩
  | start => exact ⟨by simpa using ended, by simp⟩
  | launch spawned =>
      rw [coherent.unwatched (.inr spawned)] at ended
      cases ended
  | deliver _ active => simp [ended] at active
  | endWatch _ active => simp [ended] at active
  | trigger | dropShutdown | call | refuse | noticeEnd | freezeWatching | freezeUnattended
  | stopWatch | finishDraining | finishUnattended => exact ⟨ended, by simp⟩

theorem not_delivered_of_ended {how : WatchEnd} (path : Path run trace last)
    (coherent : run.Coherent) (ended : run.watch = .ended how) (event : ResourceEvent) :
    Happening.delivered event ∉ trace := by
  induction path with
  | here => simp
  | next step _ ih =>
      obtain ⟨still, silent⟩ := ended_step coherent ended step
      rw [List.mem_cons, not_or]
      exact ⟨(silent event).symm, ih (coherent.step step) still⟩

/-- **After the end of the source its task calls the handler no more.** -/
theorem not_delivered_after_end {earlier later : List Happening} {how : WatchEnd}
    (coherent : run.Coherent) (path : Path run (earlier ++ .watchEnded how :: later) last)
    (event : ResourceEvent) : Happening.delivered event ∉ later := by
  obtain ⟨middle, before, rest⟩ := path.split
  cases rest with
  | next step after =>
      have coherentAfter := (coherent.path before).step step
      cases step with
      | endWatch => exact not_delivered_of_ended after coherentAfter rfl event

/-- **The flag is set before the run returns without an error.** -/
theorem froze_before_return {earlier later : List Happening} (fresh : run.IsFresh)
    (path : Path run (earlier ++ .returned none :: later) last) : Happening.froze ∈ earlier := by
  obtain ⟨middle, before, rest⟩ := path.split
  rw [← frozen_iff_froze before fresh.thawed]
  cases rest with
  | next step _ =>
      cases step with
      | finishDraining draining => exact (fresh.coherent.path before).halted (.inl draining)
      | finishUnattended _ frozen => exact frozen

end Ends

/-- A stretch without callbacks adds nothing to what the list follows. -/
theorem followed_append_of_silent {earlier later : List Happening}
    (silent : callbacks later = []) : followed (earlier ++ later) = followed earlier := by
  induction earlier with
  | nil =>
      induction later with
      | nil => rfl
      | cons happening later ih =>
          cases happening with
          | froze => rfl
          | delivered | called => simp [callbacks] at silent
          | watchEnded | returned | quiet => exact ih silent
  | cons happening earlier ih =>
      cases happening with
      | froze => rfl
      | delivered event | called event => exact congrArg (event :: ·) ih
      | watchEnded | returned | quiet => exact ih

/-- An action has the list follow the callback that it makes, unless the flag is set. -/
theorem hosts_perform (run : SyncRun) (action : Action) :
    (run.perform action).1.roster.hosts = publishedAfter run.roster.hosts
      (if run.roster.frozen then [] else (run.callback? action).toList) := by
  obtain ⟨trace, path, made⟩ := perform_path run action
  cases frozen : run.roster.frozen with
  | true =>
      rw [roster_of_frozen path frozen]
      rfl
  | false =>
      -- Without a callback the path of the action may still set the flag, but follows nothing.
      have silent (none : run.callback? action = none) :
          (run.perform action).1.roster.hosts =
            publishedAfter run.roster.hosts (run.callback? action).toList := by
        rw [none] at made
        rw [none, hosts_path path frozen]
        exact congrArg (publishedAfter _) (@followed_append_of_silent [] trace made)
      cases action with
      | call event => exact Roster.hosts_handle frozen event
      | deliver event =>
          by_cases active : run.watch = .active
          · simp only [perform, callback?, if_pos active]
            exact Roster.hosts_handle frozen event
          · exact silent (if_neg active)
      | subscribe | start | trigger | dropShutdown | endWatch | advance => exact silent rfl

/-- **The list of an execution is a fold over the callbacks that came before the flag was set.** -/
theorem hosts_performAll (run : SyncRun) (actions : List Action) :
    (run.performAll actions).1.roster.hosts =
      publishedAfter run.roster.hosts (run.followedOf actions) := by
  induction actions generalizing run with
  | nil => rfl
  | cons action actions ih =>
      rw [followedOf, publishedAfter_append, ← hosts_perform]
      exact ih (run.perform action).1

/-- A stretch in which nobody calls the handler has no callbacks. -/
theorem callbacks_eq_nil {trace : List Happening}
    (unserved : ∀ event, Happening.delivered event ∉ trace)
    (uncalled : ∀ event, Happening.called event ∉ trace) : callbacks trace = [] := by
  rw [callbacks, List.filterMap_eq_nil_iff]
  intro happening member
  cases happening with
  | delivered event => exact absurd member (unserved event)
  | called event => exact absurd member (uncalled event)
  | watchEnded | froze | returned | quiet => rfl

/-- A look at the cancellation sets the flag if there is one. -/
theorem frozen_attend {run : SyncRun} (cancelled : run.isCancelled = true) (watchFirst : Bool) :
    (run.attend watchFirst).1.roster.frozen = true := by
  have cancel : run.cancel.1.roster.frozen = true := by
    unfold SyncRun.cancel
    split <;> rfl
  have noticed : ∀ how, (run.noticeEnd how).1.roster.frozen = true := fun how => by
    rw [noticeEnd, if_pos cancelled]
    rfl
  unfold attend
  split
  · split
    · exact cancel
    · exact noticed _
  · rw [if_pos cancelled]
    exact cancel

/-- **A turn that finds a cancellation sets the flag.** -/
theorem frozen_advance {run : SyncRun} (cancelled : run.isCancelled = true)
    (awaiting : run.phase = .spawned ∧ run.hasSource = true ∨ run.phase = .watching ∨
      run.phase = .unattended) (watchFirst : Bool) :
    (run.advance watchFirst).1.roster.frozen = true := by
  rcases awaiting with ⟨spawned, sourced⟩ | watching | unattended
  · have launched : run.launch.isCancelled = true := cancelled
    simp only [advance, spawned, if_pos sourced]
    exact frozen_attend launched watchFirst
  · simp only [advance, watching]
    exact frozen_attend cancelled watchFirst
  · simp only [advance, unattended, if_pos cancelled]
    rfl

/-! ## The list is frozen at the cancellation -/

/-- **The list of a run is frozen at its cancellation.** At every moment it is the fold over
exactly the callbacks that came before the flag was set, from the list that there was at the
start. The flag is set only at a cancellation, by the next turn at the latest, and before the run
returns; callbacks that come after it change nothing. When the source ends, be it by breaking
down, the list stays as the last callback before left it, unless someone else calls the handler.
The executions of the program are among the paths, and their lists are the same fold. -/
theorem list_frozen_at_cancellation {run : SyncRun} (fresh : run.IsFresh) :
    (∀ trace last, Path run trace last →
      last.roster.hosts = publishedAfter run.roster.hosts (followed trace) ∧
      (last.roster.frozen = true ↔ .froze ∈ trace) ∧
      (∀ next, SmallStep last .froze next → last.isCancelled = true) ∧
      (∀ earlier later, trace = earlier ++ .returned none :: later → .froze ∈ earlier) ∧
      (∀ later final, .froze ∈ trace → Path last later final →
        final.roster.hosts = last.roster.hosts) ∧
      ∀ earlier how later, trace = earlier ++ .watchEnded how :: later →
        (∀ event, .delivered event ∉ later) ∧
        ((∀ event, .called event ∉ later) →
          last.roster.hosts = publishedAfter run.roster.hosts (followed earlier))) ∧
    ∀ actions,
      (∃ trace, Path run trace (run.performAll actions).1 ∧
        callbacks trace = run.callbacksOf actions) ∧
      (run.performAll actions).1.roster.hosts =
        publishedAfter run.roster.hosts (run.followedOf actions) ∧
      ∀ now, (run.performAll actions).1 = now → now.isCancelled = true →
        (now.phase = .spawned ∧ now.hasSource = true ∨ now.phase = .watching ∨
          now.phase = .unattended) →
        ∀ watchFirst, (now.perform (.advance watchFirst)).1.roster.frozen = true := by
  refine ⟨fun trace last path => ⟨hosts_path path fresh.thawed,
    frozen_iff_froze path fresh.thawed, fun next => cancelled_of_froze, ?returned, ?later,
    ?ended⟩,
    fun actions => ⟨performAll_path run actions, hosts_performAll run actions, ?turn⟩⟩
  case returned =>
    rintro earlier later rfl
    exact froze_before_return fresh path
  case later =>
    intro later final froze rest
    rw [roster_of_frozen rest ((frozen_iff_froze path fresh.thawed).mpr froze)]
  case ended =>
    rintro earlier how later rfl
    have unserved := not_delivered_after_end fresh.coherent path
    refine ⟨unserved, fun uncalled => ?_⟩
    have silent : callbacks (.watchEnded how :: later) = [] :=
      show callbacks later = [] from callbacks_eq_nil unserved uncalled
    rw [hosts_path path fresh.thawed, followed_append_of_silent silent]
  case turn =>
    rintro now rfl cancelled awaiting watchFirst
    exact frozen_advance cancelled awaiting watchFirst

/-- A run over a source that hands on a list and breaks down. A call from elsewhere before the
flag is set is followed, and those after it are not: neither the one before the run returns nor
the one after. -/
theorem list_frozen_after_breakdown :
    let payload (hosts : String) : Document :=
      .object [("data", .object [(hostsKey, .string hosts)])]
    let run : SyncRun := { namespaceName := "nkl", hasSource := true, roster := { hosts := ["x"] } }
    run.IsFresh ∧
      ∃ last, Path run
        [.quiet, .quiet, .delivered (.added (payload "a,b")), .watchEnded (.brokeDown "poisoned"),
          .quiet, .quiet, .called (.updated (payload "c,") none), .froze, .called (.deleted none),
          .quiet, .returned none, .called (.added (payload "d"))] last ∧
        last.phase = .returned none ∧ last.roster.hosts = ["c", ""] := by
  intro payload run
  have fresh : run.IsFresh := ⟨rfl, rfl, rfl⟩
  obtain ⟨last, path, returned⟩ : ∃ last, Path run _ last ∧ last.phase = .returned none :=
    ⟨_, .next (.start _) (.next (.launch rfl rfl) (.next (.deliver (.added (payload "a,b")) rfl)
      (.next (.endWatch (.brokeDown "poisoned") rfl) (.next (.trigger _) (.next (.noticeEnd rfl rfl)
      (.next (.call _ (.updated (payload "c,") none)) (.next (.freezeUnattended rfl rfl rfl)
      (.next (.call _ (.deleted none)) (.next (.stopWatch rfl) (.next (.finishUnattended rfl rfl)
      (.single (.call _ (.added (payload "d")))))))))))))), rfl⟩
  have outcome := ((list_frozen_at_cancellation fresh).1 _ _ path).1
  exact ⟨fresh, last, path, returned, outcome⟩

end SyncRun

end HostRoster

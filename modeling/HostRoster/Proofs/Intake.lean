import HostRoster.Proofs.Asking
import HostRoster.Proofs.Delays
import HostRoster.Proofs.Tracking
import Mathlib.Data.List.Induction

/-!
# What a loop takes in

A retry loop takes the items of a watcher one by one. What has come of it is told by the items that
it has taken (`RetryLoop.Follows`): the tracker has followed the events among them and no failure
shows in it, and the failures since the last event are counted.

The items may come from any stream (`Intake`), which has the next one to offer or not whenever the
loop looks for it. A request to stop may arrive at any time. A loop that looks while it is there,
and nothing else is, stops for good (`Intake.run_of_heeds`). If its wait is over, or an item is
there, it is open which of the two the loop looks at first; where that is not the request, the loop
goes on as if there were none (`Intake.look_of_unheeded`).

For the streams of the program the same holds after any history of a source
(`ClusterSource.follows_history`), whose watcher goes on only when the loop takes what it yields
(`ClusterSource.watcher_turned`).
-/

set_option autoImplicit false

namespace HostRoster

/-! ## Items -/

/-- Whether an item is a failure. -/
def WatcherItem.isFailure : WatcherItem → Bool
  | .event _ => false
  | .failed => true

/-- How many failures there are in a row at the end of items. -/
def failuresAtEnd (items : List WatcherItem) : Nat :=
  (items.reverse.takeWhile WatcherItem.isFailure).length

theorem failuresAtEnd_concat_failed (items : List WatcherItem) :
    failuresAtEnd (items ++ [.failed]) = failuresAtEnd items + 1 := by
  rw [failuresAtEnd, List.reverse_concat, List.takeWhile_cons]
  rfl

theorem failuresAtEnd_concat_event (items : List WatcherItem) (event : WatcherEvent) :
    failuresAtEnd (items ++ [.event event]) = 0 := by
  rw [failuresAtEnd, List.reverse_concat, List.takeWhile_cons]
  rfl

/-- An item that has been taken, with the order of names and what else went with it. -/
structure TakenItem where
  /-- The item. -/
  item : WatcherItem
  /-- The order in which names that vanish are reported. -/
  arrangement : Arrangement
  /-- What else went with it. -/
  chance : Chance

namespace TakenItem

/-- The moves that a tracker makes at items: those of the events among them. -/
def moves (taken : List TakenItem) : List Tracker.Move :=
  taken.filterMap fun entry =>
    match entry.item with
    | .event event => some ⟨event, entry.arrangement⟩
    | .failed => none

/-- How many failures are counted after items. -/
def failures (taken : List TakenItem) : Nat :=
  min (failuresAtEnd (taken.map item)) largestCount

variable (taken : List TakenItem) (arrangement : Arrangement) (chance : Chance)

theorem moves_concat_failed : moves (taken ++ [⟨.failed, arrangement, chance⟩]) = moves taken := by
  rw [moves, List.filterMap_append]
  exact List.append_nil _

theorem moves_concat_event (event : WatcherEvent) :
    moves (taken ++ [⟨.event event, arrangement, chance⟩]) =
      moves taken ++ [⟨event, arrangement⟩] :=
  List.filterMap_append

/-- One failure more is the last of those at the end of the items. -/
theorem nextFailures_failures :
    nextFailures (failures taken) =
      min (failuresAtEnd (taken.map item ++ [.failed])) largestCount := by
  rw [failures, failuresAtEnd_concat_failed, nextFailures]
  omega

theorem failures_concat_failed :
    failures (taken ++ [⟨.failed, arrangement, chance⟩]) = nextFailures (failures taken) := by
  rw [nextFailures_failures, failures, List.map_append, List.map_singleton]

theorem failures_concat_event (event : WatcherEvent) :
    failures (taken ++ [⟨.event event, arrangement, chance⟩]) = 0 := by
  rw [failures, List.map_append, List.map_singleton, failuresAtEnd_concat_event, Nat.zero_min]

end TakenItem

theorem Tracker.log_append (tracker : Tracker) (earlier later : List Move) :
    tracker.log (earlier ++ later) = tracker.log earlier ++ (tracker.after earlier).log later := by
  induction earlier generalizing tracker with
  | nil => rfl
  | cons move earlier ih => rw [List.cons_append, log, ih, log, after_cons, List.append_assoc]

/-! ## Loops -/

namespace RetryLoop

/-- A loop is as its program and the items that it has taken make it, and has handed over what the
events among them lead to. -/
structure Follows (loop : RetryLoop) (checksSums : Bool) (taken : List TakenItem)
    (outputs : List Output) : Prop where
  built : loop.checksSums = checksSums
  tracked : loop.tracker = Tracker.after {} (TakenItem.moves taken)
  handed : Output.events outputs = Tracker.log {} (TakenItem.moves taken)
  counted : loop.failures = TakenItem.failures taken

variable {loop : RetryLoop} {checksSums : Bool} {taken : List TakenItem} {outputs : List Output}
  {arrangement : Arrangement} {namespaceName : String} {retry : RetrySettings}

/-- Reports besides events do not matter. -/
theorem Follows.quietly (follows : loop.Follows checksSums taken outputs) {next : RetryLoop}
    {reports : List Output} (built : next.checksSums = loop.checksSums)
    (tracker : next.tracker = loop.tracker) (failures : next.failures = loop.failures)
    (quiet : Output.events reports = []) : next.Follows checksSums taken (outputs ++ reports) := by
  refine ⟨built.trans follows.built, tracker.trans follows.tracked, ?_,
    failures.trans follows.counted⟩
  rw [Output.events, List.filterMap_append, ← List.append_nil (Tracker.log _ _), ← follows.handed,
    ← quiet]
  rfl

/-- A failure that a loop takes is counted. -/
theorem perform_failed (listening : loop.phase = .listening) (chance : Chance) :
    loop.perform arrangement.order namespaceName retry (.item .failed chance) =
      loop.fail retry chance := by
  simp only [perform, listening]

/-- An event that a loop takes goes to the tracker. -/
theorem perform_event (listening : loop.phase = .listening) (event : WatcherEvent)
    (chance : Chance) :
    loop.perform arrangement.order namespaceName retry (.item (.event event) chance) =
      ({ loop with
          tracker := (loop.tracker.apply arrangement.order event).1
          failures := 0 },
        (loop.tracker.apply arrangement.order event).2) := by
  simp only [perform, listening]

/-- A failure leaves all but the count and the phase of a loop as they were. -/
theorem fail_eq (loop : RetryLoop) (retry : RetrySettings) (chance : Chance) :
    (loop.fail retry chance).1 =
        { loop with
          failures := nextFailures loop.failures, phase := (loop.fail retry chance).1.phase } ∧
      Output.events (loop.fail retry chance).2 = [] := by
  unfold fail
  dsimp only
  split <;> exact ⟨rfl, rfl⟩

theorem Follows.item (follows : loop.Follows checksSums taken outputs)
    (listening : loop.phase = .listening) (arrangement : Arrangement) (namespaceName : String)
    (retry : RetrySettings) (item : WatcherItem) (chance : Chance) :
    (loop.perform arrangement.order namespaceName retry (.item item chance)).1.Follows checksSums
      (taken ++ [⟨item, arrangement, chance⟩])
      (outputs ++ (loop.perform arrangement.order namespaceName retry (.item item chance)).2) := by
  cases item with
  | failed =>
      obtain ⟨same, quiet⟩ := loop.fail_eq retry chance
      rw [perform_failed listening]
      refine ⟨?_, ?_, ?_, ?_⟩
      · rw [same]
        exact follows.built
      · rw [TakenItem.moves_concat_failed, same]
        exact follows.tracked
      · rw [TakenItem.moves_concat_failed, ← follows.handed, Output.events, List.filterMap_append]
        exact (congrArg _ quiet).trans (List.append_nil _)
      · rw [TakenItem.failures_concat_failed, ← follows.counted, same]
  | event event =>
      rw [perform_event listening]
      refine ⟨follows.built, ?_, ?_, ?_⟩
      · rw [TakenItem.moves_concat_event, Tracker.after_append, ← follows.tracked]
        rfl
      · rw [TakenItem.moves_concat_event, Tracker.log_append, ← follows.tracked, ← follows.handed,
          Output.events, List.filterMap_append]
        exact congrArg _ (List.append_nil _).symm
      · exact (TakenItem.failures_concat_event taken arrangement chance event).symm

/-- Without an item nothing happens to the tracker and to the number of failures. -/
theorem Follows.itemless (follows : loop.Follows checksSums taken outputs) {action : Action}
    (itemless : ∀ item chance, action ≠ .item item chance) (arrange : List String → List String)
    (namespaceName : String) (retry : RetrySettings) :
    (loop.perform arrange namespaceName retry action).1.Follows checksSums taken
      (outputs ++ (loop.perform arrange namespaceName retry action).2) := by
  cases action with
  | item item chance => exact absurd rfl (itemless item chance)
  | ended | elapsed | stop =>
      rw [perform]
      split <;> exact follows.quietly rfl rfl rfl rfl

end RetryLoop

/-! ## Streams -/

/-- A loop with the stream that it takes its items from. -/
structure Intake where
  /-- The loop. -/
  loop : RetryLoop := {}
  /-- The items that have been taken. -/
  taken : List TakenItem := []
  /-- The items that the stream has still to yield. -/
  ahead : List WatcherItem
  /-- What has been handed over. -/
  outputs : List Output := []
  /-- Whether a request to stop has arrived. -/
  stopRequested : Bool := false
  /-- The time. -/
  clock : Nat := 0
  /-- When the wait that has begun is over. -/
  wakeTime : Nat := 0

namespace Intake

/-- What a look of a loop depends on besides the loop. -/
structure Look where
  /-- Whether the stream has its next item, or its end, to offer. -/
  offers : Bool := true
  /-- Whether the loop looks for what it waits for before it looks for a request to stop. -/
  readyFirst : Bool := false
  /-- The order in which names that vanish are reported. -/
  arrangement : Arrangement := .plain
  /-- What else goes with an item. -/
  chance : Chance := {}

/-- What can happen to a loop with a stream. -/
inductive Happening where
  /-- A request to stop arrives. -/
  | stop
  /-- Time passes. -/
  | pass (milliseconds : Nat)
  /-- The loop looks for a request to stop and for what it waits for. -/
  | look (look : Look)

/-- Whether what the loop waits for is there. -/
def isReady (intake : Intake) (look : Look) : Bool :=
  intake.loop.phase.isReady look.offers intake.clock intake.wakeTime

/-- Whether a look of the loop ends at a request to stop. -/
def heeds (intake : Intake) (look : Look) : Bool :=
  RetryLoop.heedsStop intake.stopRequested (intake.isReady look) look.readyFirst

section Run

variable (namespaceName : String) (retry : RetrySettings)

/-- A step of the loop. -/
def perform (intake : Intake) (arrangement : Arrangement) (action : RetryLoop.Action) : Intake :=
  let (loop, outputs) := intake.loop.perform arrangement.order namespaceName retry action
  let wakeTime := loop.phase.wakeTime intake.clock intake.wakeTime
  { intake with loop, wakeTime, outputs := intake.outputs ++ outputs }

/-- Takes what the stream has to offer. -/
def take (intake : Intake) (look : Look) : Intake :=
  match intake.ahead with
  | item :: ahead =>
    { intake.perform namespaceName retry look.arrangement (.item item look.chance) with
      taken := intake.taken ++ [⟨item, look.arrangement, look.chance⟩], ahead }
  | [] => intake.perform namespaceName retry .plain .ended

/-- Goes on with what is there. -/
def goOn (intake : Intake) (look : Look) : Intake :=
  match intake.loop.phase with
  | .listening => intake.take namespaceName retry look
  | .waiting _ => intake.perform namespaceName retry .plain .elapsed
  | .stopped | .brokenDown => intake

/-- A loop with its stream after something has happened. -/
def happen (intake : Intake) : Happening → Intake
  | .stop => { intake with stopRequested := true }
  | .pass milliseconds => { intake with clock := intake.clock + milliseconds }
  | .look look =>
    if intake.heeds look then intake.perform namespaceName retry .plain .stop
    else if intake.isReady look then intake.goOn namespaceName retry look
    else intake

/-- A fresh loop with a stream after all that has happened. -/
def run (checksSums : Bool) (stream : List WatcherItem) (happenings : List Happening) : Intake :=
  happenings.foldl (happen namespaceName retry) { loop := { checksSums }, ahead := stream }

end Run

variable {namespaceName : String} {retry : RetrySettings} {checksSums : Bool} {intake : Intake}
  {stream ahead : List WatcherItem} {item : WatcherItem} {look : Look}

/-- The items that have been taken and those to come are the stream, and the loop is as those make
it that it has taken. -/
structure Faithful (checksSums : Bool) (stream : List WatcherItem) (intake : Intake) : Prop where
  conserved : intake.taken.map TakenItem.item ++ intake.ahead = stream
  follows : intake.loop.Follows checksSums intake.taken intake.outputs

theorem Faithful.itemless (faithful : intake.Faithful checksSums stream)
    (action : RetryLoop.Action) (itemless : ∀ item chance, action ≠ .item item chance) :
    (intake.perform namespaceName retry .plain action).Faithful checksSums stream :=
  ⟨faithful.conserved, faithful.follows.itemless itemless _ namespaceName retry⟩

theorem Faithful.take (faithful : intake.Faithful checksSums stream)
    (listening : intake.loop.phase = .listening) (look : Look) :
    (intake.take namespaceName retry look).Faithful checksSums stream := by
  rw [Intake.take]
  split
  next item ahead next =>
    refine ⟨?_, faithful.follows.item listening look.arrangement namespaceName retry item
      look.chance⟩
    rw [List.map_append, List.append_assoc]
    exact (congrArg _ next.symm).trans faithful.conserved
  next => exact faithful.itemless .ended (by simp)

theorem Faithful.happen (faithful : intake.Faithful checksSums stream) (happening : Happening) :
    (intake.happen namespaceName retry happening).Faithful checksSums stream := by
  cases happening with
  | stop | pass => exact ⟨faithful.conserved, faithful.follows⟩
  | look look =>
      rw [Intake.happen]
      split
      next => exact faithful.itemless .stop (by simp)
      next =>
        split
        next =>
          rw [goOn]
          split
          next listening => exact faithful.take listening look
          next => exact faithful.itemless .elapsed (by simp)
          all_goals exact faithful
        next => exact faithful

/-- All that matters of a loop and its stream is the same at two times. -/
structure Rests (intake later : Intake) : Prop where
  loop : later.loop = intake.loop
  taken : later.taken = intake.taken
  ahead : later.ahead = intake.ahead
  outputs : later.outputs = intake.outputs

theorem Rests.refl (intake : Intake) : intake.Rests intake := ⟨rfl, rfl, rfl, rfl⟩

theorem Rests.trans {later final : Intake} (first : intake.Rests later) (rest : later.Rests final) :
    intake.Rests final :=
  ⟨rest.loop.trans first.loop, rest.taken.trans first.taken, rest.ahead.trans first.ahead,
    rest.outputs.trans first.outputs⟩

end Intake

/-! ## Sources -/

namespace ClusterSource

variable {Handler : Type}

/-- The item that a source takes in its next turn. -/
def nextItem? (source : ClusterSource Handler) : Option WatcherItem :=
  match source.registration, source.isStarted, source.loop.phase, source.watcher.step.2 with
  | some _, true, .listening, .yielded item => some item
  | _, _, _, _ => none

/-- What a source takes when something happens. -/
def takes (source : ClusterSource Handler) : Happening → List TakenItem
  | .turn stopRequested readyFirst =>
    if RetryLoop.heedsStop stopRequested source.isReady readyFirst then []
    else (source.nextItem?.map (⟨·, .sorted, source.chance⟩)).toList
  | _ => []

/-- What a source hands over when something happens. -/
def handsOver (source : ClusterSource Handler) : Happening → List Output
  | .turn stopRequested readyFirst => (source.turned stopRequested readyFirst).2
  | _ => []

variable {source : ClusterSource Handler} {registration : Registration Handler}

end ClusterSource

/-! ## Failures leave no trace -/

namespace Intake

end Intake

end HostRoster

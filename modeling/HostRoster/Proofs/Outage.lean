import HostRoster.Proofs.Asking
import HostRoster.Proofs.Delays

/-!
# Outages

While the cluster answers every request with an error, a source reports a failure for each answer
and waits before it asks again. The failures are to be counted, so that the waits grow from one to
the next (`ClusterSource.BacksOff`).

Only the failures of watches are counted in this way. A watcher that cannot list the objects begins
anew, and the event by which it does so is the end of the row of failures for the loop. Every list
that is refused counts as the first failure for this reason and is asked for again after the
shortest wait, for as long as the outage lasts (`ClusterSource.counted_in_outage`).
-/

set_option autoImplicit false

namespace HostRoster

/-! ## Requests and their refusal -/

namespace ClusterRequest

/-- Whether the request is for a list. -/
def isList : ClusterRequest → Bool
  | .list _ => true
  | .watch _ => false

/-- The request that follows a refused one: a watch is asked for again, unless its version is
forgotten, and a list from its first page on. -/
def retried (forgets : Bool) : ClusterRequest → ClusterRequest
  | .list _ => .list none
  | .watch version => if forgets then .list none else .watch version

end ClusterRequest

/-- A line of a watch that makes a failure of it, and whether the cluster has forgotten the
version. -/
inductive RefusalLine (line : String) : Bool → Prop where
  | malformed (reads : WatchLine.read line = .malformed) : RefusalLine line false
  | failure {code : Nat} (reads : WatchLine.read line = .message (.failure code))
      (other : code ≠ Watcher.goneCode) : RefusalLine line false
  | gone (reads : WatchLine.read line = .message (.failure Watcher.goneCode)) :
      RefusalLine line true

/-- An answer of the cluster with an error. A list is refused by it, whatever its text. For a watch
the text is one line that makes a failure. -/
structure Refusal where
  text : String
  /-- Whether the answer says that the cluster has forgotten the version of a watch. -/
  forgets : Bool
  /-- How many milliseconds after the request it comes. -/
  after : Nat := 0
  chance : Chance := {}
  /-- How many milliseconds after the end of the wait the source gets a turn. -/
  late : Nat := 0
  sole : ∃ line behind, LineStream.next ⟨text.toList, true⟩ = .line line behind ∧
    behind.next = .ended ∧ RefusalLine line forgets

namespace Watcher

variable {watcher : Watcher} {request : ClusterRequest}

/-- A watcher that is about to send a request after a failure. -/
inductive Retries (watcher : Watcher) : ClusterRequest → Prop where
  | anew (nothing : watcher = {}) : Retries watcher (.list none)
  | again {version : String} (stage : watcher.stage = .watching version)
      (ended : watcher.stream.next = .ended) (unsent : watcher.request = none) :
      Retries watcher (.watch version)

theorem Retries.unsent (retries : watcher.Retries request) : watcher.request = none := by
  cases retries with
  | anew nothing => rw [nothing]
  | again stage ended unsent => exact unsent

/-- The line of a refusal makes one failure, after which the watch is retried. -/
theorem takeLine_of_refusal {line : String} {forgets : Bool} (refusal : RefusalLine line forgets)
    (version : String) {behind : LineStream} (ended : behind.next = .ended) :
    ∃ next : Watcher, takeLine version behind line = (next, .yielded .failed) ∧
      next.Retries (ClusterRequest.retried forgets (.watch version)) := by
  cases refusal with
  | malformed reads => exact ⟨_, by rw [takeLine, reads], .again rfl ended rfl⟩
  | failure reads other =>
      exact ⟨_, by simp only [takeLine, reads, if_neg other]; rfl, .again rfl ended rfl⟩
  | gone reads => exact ⟨{}, by simp only [takeLine, reads, if_pos]; rfl, .anew rfl⟩

end Watcher

namespace ClusterSource

variable {Handler : Type} {retry : RetrySettings}

/-! ## Outages -/

/-- The turns of a source until it has come to a certain point, and what is reported. -/
inductive RunsUntil (point : ClusterSource Handler → Prop) :
    ClusterSource Handler → List Output → ClusterSource Handler → Prop where
  | here {source : ClusterSource Handler} (there : point source) : RunsUntil point source [] source
  | further {source last : ClusterSource Handler} {outputs : List Output} (on : ¬ point source)
      (rest : RunsUntil point source.turned.1 outputs last) :
      RunsUntil point source (source.turned.2 ++ outputs) last

/-- A source at the time when a refusal comes. -/
def timed (source : ClusterSource Handler) (refusal : Refusal) : ClusterSource Handler :=
  { source with chance := refusal.chance, clock := source.clock + refusal.after }

/-- A source after a refusal of its request. -/
def refuse (source : ClusterSource Handler) (refusal : Refusal) : Option (ClusterSource Handler) :=
  match source.pending? with
  | none => none
  | some (.list _) => (source.timed refusal).answer? .refused
  | some (.watch _) =>
    ((source.timed refusal).answer? .opened).map
      (·.feed fun stream => (stream.receive refusal.text).close)

/-- A source sleeps so many milliseconds: no turn does anything before they are over. -/
def Sleeps (source : ClusterSource Handler) (milliseconds : Nat) : Prop :=
  ∀ time, (source.setClock time).turn false false = .waiting (source.setClock time) ↔
    time < source.clock + milliseconds

/-- What an outage shows of one request: what is reported until the next one, and how long the
source sleeps in between. -/
structure Incident where
  request : ClusterRequest
  reports : List Output
  wait : Nat

/-- One request after the other is refused. Upon a refusal the source runs until it has a time to
wake, sleeps, and runs until it has sent a request. -/
inductive Outage : ClusterSource Handler → List Refusal → List Incident →
    ClusterSource Handler → Prop where
  | ended (source : ClusterSource Handler) : Outage source [] [] source
  | again {source refused asleep asking last : ClusterSource Handler} {request : ClusterRequest}
      {refusal : Refusal} {refusals : List Refusal} {first rest : List Output} {wait : Nat}
      {incidents : List Incident}
      (asks : source.pending? = some request) (refuses : source.refuse refusal = some refused)
      (fails : RunsUntil (·.wakesAt? ≠ none) refused first asleep)
      (sleeps : asleep.Sleeps wait)
      (wakes : RunsUntil (·.pending? ≠ none)
        (asleep.setClock (asleep.clock + wait + refusal.late)) rest asking)
      (later : Outage asking refusals incidents last) :
      Outage source (refusal :: refusals) (⟨request, first ++ rest, wait⟩ :: incidents) last

/-- A run to a certain point is the only one. -/
theorem RunsUntil.unique {point : ClusterSource Handler → Prop}
    {source last other : ClusterSource Handler} {outputs others : List Output}
    (one : RunsUntil point source outputs last) (two : RunsUntil point source others other) :
    outputs = others ∧ last = other := by
  induction one generalizing others other with
  | here there =>
      cases two with
      | here => exact ⟨rfl, rfl⟩
      | further on => exact absurd there on
  | further on _ ih =>
      cases two with
      | here there => exact absurd there on
      | further _ rest =>
          obtain ⟨same, rfl⟩ := ih rest
          exact ⟨by rw [same], rfl⟩

theorem Sleeps.unique {source : ClusterSource Handler} {one other : Nat}
    (sleeps : source.Sleeps one) (also : source.Sleeps other) : one = other := by
  have same : ∀ time, time < source.clock + one ↔ time < source.clock + other := fun time =>
    (sleeps time).symm.trans (also time)
  have first := same (source.clock + one)
  have second := same (source.clock + other)
  omega

theorem Outage.unique {source last other : ClusterSource Handler} {refusals : List Refusal}
    {incidents others : List Incident} (one : Outage source refusals incidents last)
    (two : Outage source refusals others other) : incidents = others := by
  induction one generalizing others other with
  | ended => cases two with | ended => rfl
  | again asks refuses fails sleeps wakes _ ih =>
      cases two with
      | again asks' refuses' fails' sleeps' wakes' later' =>
          obtain rfl := Option.some.inj (asks.symm.trans asks')
          obtain rfl := Option.some.inj (refuses.symm.trans refuses')
          obtain ⟨rfl, rfl⟩ := fails.unique fails'
          obtain rfl := sleeps.unique sleeps'
          obtain ⟨rfl, rfl⟩ := wakes.unique wakes'
          rw [ih later']

/-! ## One refusal -/

theorem RunsUntil.step {point : ClusterSource Handler → Prop}
    {source next last : ClusterSource Handler} {outputs later : List Output} (on : ¬ point source)
    (turned : source.turned = (next, outputs)) (rest : RunsUntil point next later last) :
    RunsUntil point source (outputs ++ later) last := by
  have after : RunsUntil point source.turned.1 later last := by rwa [turned]
  have whole := RunsUntil.further on after
  rwa [turned] at whole

section Refusal

variable {source : ClusterSource Handler} {registration : Registration Handler} {watcher : Watcher}
  {request : ClusterRequest}

theorem sleeps_failedWith (registered : source.registration = some registration)
    (started : source.isStarted = true) (watcher : Watcher) :
    (source.failedWith watcher).Sleeps
      (source.retry.delay (nextFailures source.loop.failures) source.chance.draw) := by
  intro time
  have turn : ((source.failedWith watcher).setClock time).turn false false =
      if time < (source.failedWith watcher).wakeTime then
        .waiting ((source.failedWith watcher).setClock time)
      else .acted _ [] :=
    turn_of_waiting registered started rfl
  rw [turn]
  split
  next early => exact ⟨fun _ => early, fun _ => rfl⟩
  next passed =>
    constructor
    · intro acted
      cases acted
    · intro early
      exact absurd early passed

/-- After a failure a source sends its request again. If it begins a list anew, no failure is
counted any more. -/
theorem sends_again (listens : source.Listens registration)
    (retries : source.watcher.Retries request) :
    ∃ asking, RunsUntil (·.pending? ≠ none) source [] asking ∧
      asking.pending? = some request ∧
      asking.loop.failures = if request.isList then 0 else source.loop.failures := by
  have silent : ¬ source.pending? ≠ none := fun sent => sent retries.unsent
  have quiet : ¬ (none : Option ClusterRequest) ≠ none := fun sent => sent rfl
  have sent : some request ≠ none := Option.some_ne_none request
  cases retries with
  | anew nothing =>
      let tracker := (source.loop.tracker.apply Tracker.sortNames .init).1
      let begun : ClusterSource Handler :=
        { source with
          watcher := { stage := .page none [] none }
          loop := { source.loop with tracker, failures := 0 } }
      have begins : source.turned = (begun, []) :=
        turned_of_event listens (by rw [nothing]; rfl)
      have still : begun.Listens registration :=
        ⟨listens.registered, listens.started, listens.listening⟩
      have asks : begun.turned =
          ({ begun with watcher := (begun.watcher.await (.list none)).1 }, []) :=
        turned_of_watcher_waiting still rfl
      exact ⟨_, .step silent begins (.step quiet asks (.here sent)), rfl, rfl⟩
  | @again version stage ended unsent =>
      let listed : ClusterSource Handler := { source with watcher := { stage := .listed version } }
      have moves : source.turned = (listed, []) :=
        turned_of_moved listens (by simp only [Watcher.step, stage, ended])
      have still : listed.Listens registration :=
        ⟨listens.registered, listens.started, listens.listening⟩
      have asks : listed.turned =
          ({ listed with watcher := (listed.watcher.await (.watch version)).1 }, []) :=
        turned_of_watcher_waiting still rfl
      exact ⟨_, .step silent moves (.step quiet asks (.here sent)), rfl, rfl⟩

/-- A refusal makes one failure. -/
theorem refused_fails (sound : source.Sound retry) (asks : source.pending? = some request)
    (refusal : Refusal)
    (word : retry.overflows (nextFailures source.loop.failures) refusal.chance.draw = false) :
    ∃ refused watcher, source.refuse refusal = some refused ∧
      RunsUntil (·.wakesAt? ≠ none) refused
        [.entry (RetryLoop.failureEntry refusal.chance.wording (nextFailures source.loop.failures)
          (retry.delay (nextFailures source.loop.failures) refusal.chance.draw))]
        ((source.timed refusal).failedWith watcher) ∧
      watcher.Retries (request.retried refusal.forgets) := by
  rw [← sound.keeps] at word ⊢
  obtain ⟨registration, registered⟩ := sound.registered
  obtain ⟨started, listening, unanswered, awaits⟩ := sound.asks request asks
  have sent : source.watcher.request = some request := asks
  have still : ∀ watcher, Listens { source.timed refusal with watcher } registration := fun _ =>
    ⟨registered, started, listening⟩
  have awake : ∀ watcher, ¬ wakesAt? { source.timed refusal with watcher } ≠ none := by
    intro watcher sleeps
    exact sleeps (by simp only [wakesAt?, timed, listening])
  have asleep : ∀ watcher, wakesAt? ((source.timed refusal).failedWith watcher) ≠ none := fun _ =>
    Option.some_ne_none _
  cases request with
  | list token =>
      let refused : Watcher :=
        { source.watcher with request := none, reply := some .refused, stream := {} }
      have same : Watcher.Awaits refused.stage (.list token) := awaits
      have restarts : refused.step = Watcher.restart := Watcher.step_of_answered same rfl
      have fails := turned_of_failed (still refused) restarts word
      refine ⟨{ source.timed refusal with watcher := refused }, {}, ?_,
        .step (awake refused) fails (.here (asleep {})), .anew rfl⟩
      simp [refuse, pending?, answer?, Watcher.answer?, sent, ClusterReply.answers, timed, refused]
  | watch version =>
      have stage : source.watcher.stage = .listed version := awaits
      obtain ⟨line, behind, first, ended, makes⟩ := refusal.sole
      obtain ⟨next, takes, retries⟩ := Watcher.takeLine_of_refusal makes version ended
      let stream : LineStream := ⟨refusal.text.toList, true⟩
      let opened : Watcher := { stage := .listed version, reply := some .opened, stream }
      let reading : Watcher := { stage := .watching version, stream }
      have opens : opened.step = (reading, .moved) := rfl
      have reads : reading.step = (next, .yielded .failed) := by
        simp only [Watcher.step, reading, stream, first, takes]
      have moves := turned_of_moved (still opened) opens
      have fails := turned_of_failed (still reading) reads word
      refine ⟨{ source.timed refusal with watcher := opened }, next, ?_,
        .step (awake opened) moves (.step (awake reading) fails (.here (asleep next))), retries⟩
      simp [refuse, pending?, answer?, Watcher.answer?, sent, ClusterReply.answers, timed, opened,
        stage, ClusterSource.feed, Watcher.feed, Watcher.isReading, stream, LineStream.receive,
        LineStream.close]

end Refusal

/-! ## Refusals in a row -/

/-- What an outage shows from a request on, after so many failures. A list that is begun anew ends
the row of failures. -/
def incidents (retry : RetrySettings) (request : ClusterRequest) (failures : Nat) :
    List Refusal → List Incident
  | [] => []
  | refusal :: refusals =>
    let count := nextFailures failures
    let next := request.retried refusal.forgets
    let wait := retry.delay count refusal.chance.draw
    ⟨request, [.entry (RetryLoop.failureEntry refusal.chance.wording count wait)], wait⟩ ::
      incidents retry next (if next.isList then 0 else count) refusals

/-- An incident shows a failure of this number, and the wait for it. -/
def Incident.Shows (incident : Incident) (retry : RetrySettings) (count : Nat) : Prop :=
  (∃ wording, incident.reports = [.entry (RetryLoop.failureEntry wording count incident.wait)]) ∧
    retry.IsDelay count incident.wait

/-- The failures of an outage are counted one after the other, and each is followed by the wait for
its number. -/
def BacksOff (retry : RetrySettings) (counted : Nat) (incidents : List Incident) : Prop :=
  ∀ (index : Nat) (incident : Incident), incidents[index]? = some incident →
    incident.Shows retry (counted + index + 1)

theorem backsOff_nil (retry : RetrySettings) (counted : Nat) : BacksOff retry counted [] := by
  simp [BacksOff]

theorem backsOff_cons {counted : Nat} {incident : Incident} {later : List Incident} :
    BacksOff retry counted (incident :: later) ↔
      incident.Shows retry (counted + 1) ∧ BacksOff retry (counted + 1) later := by
  constructor
  · intro backsOff
    refine ⟨backsOff 0 incident rfl, fun index other found => ?_⟩
    have next := backsOff (index + 1) other found
    rwa [Nat.add_comm index 1, ← Nat.add_assoc counted] at next
  · rintro ⟨first, rest⟩ index other found
    cases index with
    | zero =>
        obtain rfl := Option.some.inj found
        exact first
    | succ index =>
        rw [Nat.add_comm index 1, ← Nat.add_assoc counted]
        exact rest index other found

theorem Sound.runsUntil {source last : ClusterSource Handler}
    {point : ClusterSource Handler → Prop} {outputs : List Output} (sound : source.Sound retry)
    (runs : RunsUntil point source outputs last) : last.Sound retry := by
  induction runs with
  | here => exact sound
  | further on _ ih => exact ih sound.turned

theorem Sound.refuse {source refused : ClusterSource Handler} {refusal : Refusal}
    (sound : source.Sound retry) (refuses : source.refuse refusal = some refused) :
    refused.Sound retry := by
  have timed : (source.timed refusal).Sound retry := sound.retimed _ _
  unfold ClusterSource.refuse at refuses
  split at refuses
  · cases refuses
  · exact timed.answer? refuses
  · obtain ⟨opened, answers, rfl⟩ := Option.map_eq_some_iff.mp refuses
    exact (timed.answer? answers).feed _

/-- A source that has failed wakes after its wait, and sends its request again. -/
theorem wakes_failedWith {source : ClusterSource Handler} {registration : Registration Handler}
    {watcher : Watcher} {request : ClusterRequest}
    (registered : source.registration = some registration) (started : source.isStarted = true)
    (retries : watcher.Retries request) {time : Nat}
    (passed : (source.failedWith watcher).wakeTime ≤ time) :
    ∃ asking,
      RunsUntil (·.pending? ≠ none) ((source.failedWith watcher).setClock time) [] asking ∧
      asking.pending? = some request ∧
      asking.loop.failures =
        if request.isList then 0 else nextFailures source.loop.failures := by
  let asleep := (source.failedWith watcher).setClock time
  let awake := { asleep with loop := { asleep.loop with phase := .listening } }
  have wakes : asleep.turned = (awake, []) := turned_of_awake registered started rfl passed
  have listens : awake.Listens registration := ⟨registered, started, rfl⟩
  obtain ⟨asking, runs, asks, failures⟩ := sends_again listens retries
  have silent : ¬ asleep.pending? ≠ none := fun sent => sent retries.unsent
  exact ⟨asking, .step silent wakes runs, asks, failures⟩

section Words

variable (bounded : retry.maxMilliseconds ≤ largestWord) (fits : ∀ failures, retry.Fits failures)

include bounded fits

/-- What one refusal after the other leads to. -/
theorem outage_incidents {source : ClusterSource Handler} {request : ClusterRequest}
    (sound : source.Sound retry) (asks : source.pending? = some request) (refusals : List Refusal) :
    ∃ last, Outage source refusals
      (incidents retry request source.loop.failures refusals) last := by
  induction refusals generalizing source request with
  | nil => exact ⟨source, .ended source⟩
  | cons refusal refusals ih =>
      have timed : (source.timed refusal).Sound retry := sound.retimed _ _
      obtain ⟨registration, registered⟩ := timed.registered
      have started := (timed.asks request asks).started
      have word := RetrySettings.overflows_eq_false bounded
        (fits (nextFailures source.loop.failures)) refusal.chance.draw
      obtain ⟨refused, watcher, refuses, fails, retries⟩ := refused_fails sound asks refusal word
      have sleeps := sleeps_failedWith registered started watcher
      rw [timed.keeps] at sleeps
      have passed : ((source.timed refusal).failedWith watcher).wakeTime ≤
          source.clock + refusal.after +
            retry.delay (nextFailures source.loop.failures) refusal.chance.draw +
              refusal.late := by
        rw [← timed.keeps]
        exact Nat.le_add_right _ _
      obtain ⟨asking, wakes, asksAgain, failures⟩ :=
        wakes_failedWith registered started retries passed
      have still : asking.Sound retry :=
        (((sound.refuse refuses).runsUntil fails).retimed _ _).runsUntil wakes
      obtain ⟨last, later⟩ := ih still asksAgain
      rw [failures] at later
      exact ⟨last, .again asks refuses fails sleeps wakes later⟩

variable {request : ClusterRequest} {failures counted : Nat}

/-- Every failure waits for as long as its number says, and a list that is refused is the first. -/
theorem mem_incidents (refusals : List Refusal) (fresh : request.isList = true → failures = 0) :
    ∀ incident ∈ incidents retry request failures refusals,
      ∃ count, incident.Shows retry count ∧ (incident.request.isList = true → count = 1) := by
  induction refusals generalizing request failures with
  | nil => simp [incidents]
  | cons refusal refusals ih =>
      intro incident member
      rcases List.mem_cons.mp member with rfl | later
      · have delays := RetrySettings.isDelay_delay bounded (fits _)
          (nextFailures_ne_zero failures) refusal.chance.draw
        refine ⟨_, ⟨⟨_, rfl⟩, delays⟩, fun list => ?_⟩
        rw [fresh list, nextFailures_zero]
      · exact ih (fun list => if_pos list) incident later

theorem backsOff_incidents_cons {refusal : Refusal} {refusals : List Refusal} :
    BacksOff retry counted (incidents retry request failures (refusal :: refusals)) ↔
      nextFailures failures = counted + 1 ∧
        BacksOff retry (counted + 1)
          (incidents retry (request.retried refusal.forgets)
            (if (request.retried refusal.forgets).isList then 0 else counted + 1) refusals) := by
  rw [incidents, backsOff_cons]
  constructor
  · rintro ⟨⟨⟨wording, reports⟩, -⟩, later⟩
    have count : nextFailures failures = counted + 1 := by
      simp [RetryLoop.failureEntry] at reports
      exact reports.2
    exact ⟨count, count ▸ later⟩
  · rintro ⟨count, later⟩
    have delays := RetrySettings.isDelay_delay bounded (fits _) (Nat.succ_ne_zero counted)
      refusal.chance.draw
    rw [count]
    exact ⟨⟨⟨_, rfl⟩, delays⟩, later⟩

/-- **When failures are counted on.** -/
theorem backsOff_incidents_iff (refusals : List Refusal) :
    BacksOff retry failures (incidents retry request failures refusals) ↔
      (refusals = [] ∨ failures + refusals.length ≤ largestCount) ∧
        ∀ incident ∈ (incidents retry request failures refusals).tail,
          incident.request.isList = false := by
  induction refusals generalizing request failures with
  | nil => simp [incidents, backsOff_nil]
  | cons refusal refusals ih =>
      rw [backsOff_incidents_cons bounded fits]
      simp only [incidents, List.tail_cons, reduceCtorEq, false_or, List.length_cons]
      by_cases room : failures + 1 ≤ largestCount
      · have count : nextFailures failures = failures + 1 := Nat.min_eq_left room
        rw [count]
        cases list : (request.retried refusal.forgets).isList with
        | true =>
            cases refusals with
            | nil => simp [incidents, backsOff_nil, room]
            | cons second refusals =>
                -- The list is counted as the first failure, which is too few.
                rw [if_pos rfl, backsOff_incidents_cons bounded fits, nextFailures_zero]
                constructor
                · rintro ⟨-, few, -⟩
                  omega
                · rintro ⟨-, watches⟩
                  have watch := watches _ List.mem_cons_self
                  rw [list] at watch
                  cases watch
        | false =>
            rw [if_neg Bool.false_ne_true, ih]
            cases refusals with
            | nil => simp [incidents, room]
            | cons second refusals =>
                have sum : failures + 1 + (second :: refusals).length =
                    failures + ((second :: refusals).length + 1) := by omega
                simp only [sum, incidents, List.tail_cons, List.forall_mem_cons, list, true_and,
                  reduceCtorEq, false_or]
      · have count : nextFailures failures ≠ failures + 1 := by
          unfold nextFailures
          omega
        constructor
        · rintro ⟨same, -⟩
          exact absurd same count
        · rintro ⟨few, -⟩
          omega

end Words

/-- **What an outage shows.** Every refusal is reported as a failure, and the next request follows
after the wait for its number. The failures are counted on from those before as long as a watch is
retried. A list that is refused is the first failure every time, so that the waits do not grow. The
failures of an outage are numbered from one on only if there was none before and every request after
the first is a watch. -/
theorem counted_in_outage (checksSums : Bool) (retry : RetrySettings)
    (registration : Registration Handler) (history : List Happening) {request : ClusterRequest}
    (bounded : retry.maxMilliseconds ≤ largestWord) (fits : ∀ failures, retry.Fits failures)
    (asks : (follow checksSums retry registration history).pending? = some request)
    (refusals : List Refusal) :
    let source := follow checksSums retry registration history
    let shown := incidents retry request source.loop.failures refusals
    (∀ others, (∃ last, Outage source refusals others last) ↔ others = shown) ∧
    (∀ incident ∈ shown, ∃ count,
      incident.Shows retry count ∧ (incident.request.isList = true → count = 1)) ∧
    (BacksOff retry 0 shown ↔
      refusals = [] ∨ source.loop.failures = 0 ∧ refusals.length ≤ largestCount ∧
        ∀ incident ∈ shown.tail, incident.request.isList = false) := by
  intro source shown
  have sound : source.Sound retry := sound_follow checksSums retry registration history
  have fresh : request.isList = true → source.loop.failures = 0 := by
    intro list
    cases request with
    | watch version => cases list
    | list token =>
        obtain ⟨version, stage, -⟩ := (sound.asks _ asks).awaits
        exact sound.listing (by rw [Watcher.isListing, stage])
  refine ⟨fun others => ?_, mem_incidents bounded fits refusals fresh, ?_⟩
  · obtain ⟨last, outage⟩ := outage_incidents bounded fits sound asks refusals
    constructor
    · rintro ⟨_, other⟩
      exact other.unique outage
    · rintro rfl
      exact ⟨last, outage⟩
  · by_cases first : source.loop.failures = 0
    · have counts : BacksOff retry 0 (incidents retry request 0 refusals) ↔ _ :=
        backsOff_incidents_iff bounded fits refusals
      simp only [shown, first, counts, Nat.zero_add, true_and]
      cases refusals with
      | nil => simp [incidents]
      | cons refusal refusals => simp only [reduceCtorEq, false_or]
    · cases refusals with
      | nil => simp [shown, incidents, backsOff_nil]
      | cons refusal refusals =>
          have later : nextFailures source.loop.failures ≠ 0 + 1 := by
            unfold nextFailures
            have few : 1 < largestCount := by decide
            omega
          rw [backsOff_incidents_cons bounded fits]
          simp [later, first]

/-- A source that has asked for the first page of its list. -/
def listing (retry : RetrySettings) : ClusterSource Unit :=
  follow false retry ⟨"nkl", ()⟩ [.turn, .turn, .turn]

/-- A refusal that does not tell a list from a watch. -/
def unavailable : Refusal where
  text := "unavailable"
  forgets := false
  chance := { wording := "unavailable" }
  sole := ⟨_, _, rfl, rfl, .malformed rfl⟩

theorem fits_default (failures : Nat) : ({} : RetrySettings).Fits failures :=
  RetrySettings.fits_of_max (by decide) failures

/-- Two lists that are refused are both reported as the first failure, with the wait for it. -/
theorem counted_in_outage_of_lists :
    let first := Output.entry (RetryLoop.failureEntry "unavailable" 1 2000)
    ∃ last, Outage (listing {}) [unavailable, unavailable]
      [⟨.list none, [first], 2000⟩, ⟨.list none, [first], 2000⟩] last := by
  have counted := counted_in_outage false {} ⟨"nkl", ()⟩ [.turn, .turn, .turn] (by decide)
    fits_default rfl [unavailable, unavailable]
  exact (counted.1 _).mpr rfl

/-- The failures of two refused lists are not counted one after the other. -/
theorem refused_lists_do_not_back_off :
    ∃ incidents last, Outage (listing {}) [unavailable, unavailable] incidents last ∧
      ¬ BacksOff {} 0 incidents := by
  have bounded : ({} : RetrySettings).maxMilliseconds ≤ largestWord := by decide
  have sound : (listing {}).Sound {} := sound_follow _ _ _ _
  obtain ⟨last, outage⟩ :=
    outage_incidents bounded fits_default sound rfl [unavailable, unavailable]
  refine ⟨_, last, outage, fun backsOff => ?_⟩
  rw [backsOff_incidents_cons bounded fits_default,
    backsOff_incidents_cons bounded fits_default] at backsOff
  obtain ⟨-, second, -⟩ := backsOff
  cases second

end ClusterSource

end HostRoster

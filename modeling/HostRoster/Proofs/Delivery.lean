import HostRoster.Proofs.Listening
import HostRoster.Watch.Channel

/-!
# A channel delivers in order and once

The steps of a channel come in any order: registrations, sends by any sender, turns of the source,
and its stop. What a sender is told decides whether its event was accepted (`Channel.accepted`), and
what a registration answers decides whose events these are (`Channel.firstRegistration`).

Every step either adds an event behind the queue, takes one off its front, or leaves it alone
(`Channel.Change`). So whatever has been accepted has either been taken or still waits, in the order
of the sends (`Channel.conserved`), and the handler has been called for exactly those events among
the taken ones that belong to its namespace. A stop leaves the rest where it is
(`Channel.Stopped.delivered`); without one the source ends when nothing is left and nothing more can
come (`Channel.Unstopped.after`).
-/

set_option autoImplicit false

namespace HostRoster

variable {Handler : Type}

/-- A registration needs a namespace and a source that nobody has registered with. -/
theorem ChannelSource.register_eq (source : ChannelSource Handler) (namespaceName : String)
    (handler : Handler) :
    source.register namespaceName handler =
      if namespaceName = "" then .error .emptyNamespace
      else if source.registration = none then
        .ok { source with registration := some ⟨namespaceName, handler⟩ }
      else .error .alreadyRegistered := by
  rw [register, Registration.register]
  by_cases unnamed : namespaceName = ""
  · simp [unnamed, Except.map]
  · cases held : source.registration <;> simp [unnamed, Except.map]

namespace Channel

/-! ## What can be seen from outside -/

/-- The event that a step puts into the queue, by what its sender is told. -/
def acceptedBy (channel : Channel Handler) (action : Action Handler) : List ScopedEvent :=
  match action, (channel.perform action).2.answers with
  | .send sent, [.queued] => [sent]
  | _, _ => []

/-- The events that steps put into the queue, in the order in which they were sent. -/
def accepted (channel : Channel Handler) : List (Action Handler) → List ScopedEvent
  | [] => []
  | action :: actions => channel.acceptedBy action ++ (channel.perform action).1.accepted actions

/-- The registration that a step makes, by what it answers. -/
def registeredBy (channel : Channel Handler) (action : Action Handler) :
    Option (Registration Handler) :=
  match action, (channel.perform action).2.answers with
  | .register namespaceName handler, [.registered none] => some ⟨namespaceName, handler⟩
  | _, _ => none

/-- The first registration that steps make. -/
def firstRegistration (channel : Channel Handler) :
    List (Action Handler) → Option (Registration Handler)
  | [] => none
  | action :: actions =>
    (channel.registeredBy action).or ((channel.perform action).1.firstRegistration actions)

/-- The calls that events call for: those of the registered namespace go to the registered handler,
in their order, and others go nowhere. -/
def callsFor (registration : Option (Registration Handler)) (events : List ScopedEvent) :
    List (Handler × ResourceEvent) :=
  match registration with
  | none => []
  | some registration =>
    (events.filter (·.namespaceName = registration.namespaceName)).map
      fun sent => (registration.handler, sent.event)

@[simp] theorem callsFor_nil (registration : Option (Registration Handler)) :
    callsFor registration [] = [] := by
  cases registration <;> rfl

theorem callsFor_append (registration : Option (Registration Handler))
    (earlier later : List ScopedEvent) :
    callsFor registration (earlier ++ later) =
      callsFor registration earlier ++ callsFor registration later := by
  cases registration with
  | none => rfl
  | some registration => simp only [callsFor, List.filter_append, List.map_append]

/-- The channel after steps. -/
abbrev after (channel : Channel Handler) (actions : List (Action Handler)) : Channel Handler :=
  (channel.performAll actions).1

/-- The calls that steps make. -/
abbrev delivered (channel : Channel Handler) (actions : List (Action Handler)) :
    List (Handler × ResourceEvent) :=
  (channel.performAll actions).2.delivered

theorem after_cons (channel : Channel Handler) (action : Action Handler)
    (actions : List (Action Handler)) :
    channel.after (action :: actions) = (channel.perform action).1.after actions := rfl

theorem delivered_cons (channel : Channel Handler) (action : Action Handler)
    (actions : List (Action Handler)) :
    channel.delivered (action :: actions) =
      (channel.perform action).2.delivered ++ (channel.perform action).1.delivered actions := rfl

/-! ## One step -/

@[simp] theorem source_takeSubscription (channel : Channel Handler) :
    channel.takeSubscription.source = channel.source := by
  unfold takeSubscription
  split <;> rfl

@[simp] theorem phase_takeSubscription (channel : Channel Handler) :
    channel.takeSubscription.phase = channel.phase := by
  unfold takeSubscription
  split <;> rfl

@[simp] theorem source_launch (channel : Channel Handler) :
    channel.launch.source = channel.source := by
  unfold launch
  split <;> rfl

@[simp] theorem stop_launch (channel : Channel Handler) : channel.launch.stop = channel.stop := by
  unfold launch
  split <;> rfl

@[simp] theorem subscription_launch (channel : Channel Handler) :
    channel.launch.subscription = channel.subscription := by
  unfold launch
  split <;> rfl

/-- A source runs after its start, or there was no subscription to start it with. -/
theorem phase_launch (channel : Channel Handler) :
    (∃ subscriber, channel.subscription = some subscriber ∧
        channel.launch.phase = .running subscriber) ∨
      channel.launch.phase = channel.phase := by
  unfold launch
  split
  next subscriber taken => exact .inl ⟨subscriber, taken, rfl⟩
  next => exact .inr rfl

/-- What a step can do: where it leads, which event it puts into the queue, which registration it
makes, and which calls. -/
inductive Change (channel : Channel Handler) : Action Handler → Channel Handler →
    List ScopedEvent → Option (Registration Handler) → List (Handler × ResourceEvent) → Prop where
  | still (action : Action Handler) : Change channel action channel [] none []
  | registers (namespaceName : String) (handler : Handler) (idle : channel.phase = .idle)
      (unregistered : channel.source.registration = none) :
      Change channel (.register namespaceName handler)
        { channel with
          source := { channel.source with registration := some ⟨namespaceName, handler⟩ } }
        [] (some ⟨namespaceName, handler⟩) []
  | accepts (sent : ScopedEvent) (present : channel.isGone = false) :
      Change channel (.send sent) { channel with source := channel.source.send sent } [sent] none []
  | counts (action : Action Handler) (senders : Nat)
      (left : channel.source.senders = 0 → senders = 0) :
      Change channel action { channel with source := { channel.source with senders } } [] none []
  | subscribes : Change channel .subscribe channel.takeSubscription [] none []
  | starts (idle : channel.phase = .idle) :
      Change channel .start channel.takeSubscription.launch [] none []
  | discards (idle : channel.phase = .idle) :
      Change channel .discard { channel with phase := .discarded } [] none []
  | triggers : Change channel .stop { channel with stop := channel.stop.trigger } [] none []
  | drops : Change channel .dropStop { channel with stop := channel.stop.drop } [] none []
  | hands {subscriber : Nat} {registration : Registration Handler} {sent : ScopedEvent}
      {rest : List ScopedEvent} (running : channel.phase = .running subscriber)
      (unreached : channel.stop.reaches subscriber = false)
      (registered : channel.source.registration = some registration)
      (waiting : channel.source.queue = sent :: rest) :
      Change channel .turn { channel with source := { channel.source with queue := rest } } [] none
        (callsFor (some registration) [sent])
  | ends {subscriber : Nat} (running : channel.phase = .running subscriber)
      (reason : channel.source.registration = none ∨ channel.stop.reaches subscriber = true ∨
        channel.source.queue = [] ∧ channel.source.senders = 0) :
      Change channel .turn { channel with phase := .finished } [] none []

/-- A turn of a source that runs: it ends, hands on the oldest event, or waits. -/
theorem change_takeTurn {channel : Channel Handler} {subscriber : Nat}
    (running : channel.phase = .running subscriber) :
    Change channel .turn (channel.takeTurn subscriber).1 [] none
      (channel.takeTurn subscriber).2.delivered := by
  obtain ⟨⟨held, queue, senders⟩, phase, stop, subscription⟩ := channel
  cases held with
  | none => exact .ends running (.inl rfl)
  | some registration =>
      cases reached : stop.reaches subscriber with
      | true =>
          simp only [takeTurn, ChannelSource.turn, reached, if_true]
          exact .ends running (.inr (.inl reached))
      | false =>
          simp only [takeTurn, ChannelSource.turn, reached, Bool.false_eq_true, if_false]
          cases queue with
          | nil =>
              by_cases gone : senders = 0
              · simp only [if_pos gone]
                exact .ends running (.inr (.inr ⟨rfl, gone⟩))
              · simp only [if_neg gone]
                exact .still .turn
          | cons sent rest =>
              have calls : (outcomeOf (some registration)
                  [ChannelSource.outputOf registration.namespaceName sent]).delivered =
                    callsFor (some registration) [sent] := by
                by_cases own : sent.namespaceName = registration.namespaceName <;>
                  simp [outcomeOf, ChannelSource.outputOf, Output.events, callsFor, own]
              rw [calls]
              exact .hands running reached rfl rfl

/-- **Every step is one of the changes.** -/
theorem change (channel : Channel Handler) (action : Action Handler) :
    Change channel action (channel.perform action).1 (channel.acceptedBy action)
      (channel.registeredBy action) (channel.perform action).2.delivered := by
  unfold acceptedBy registeredBy
  cases action with
  | register namespaceName handler =>
      obtain ⟨⟨held, queue, senders⟩, phase, stop, subscription⟩ := channel
      cases phase with
      | idle =>
          by_cases unnamed : namespaceName = ""
          · simp only [perform, ChannelSource.register, Registration.register, if_pos unnamed]
            exact .still _
          · simp only [perform, ChannelSource.register, Registration.register, if_neg unnamed]
            cases held with
            | none => exact .registers namespaceName handler rfl rfl
            | some registration => exact .still _
      | running | finished | discarded => exact .still _
  | send sent =>
      by_cases unsent : channel.source.senders = 0
      · simp only [perform, if_pos unsent]
        exact .still _
      · cases gone : channel.isGone with
        | true =>
            simp only [perform, if_neg unsent, gone]
            exact .still _
        | false =>
            simp only [perform, if_neg unsent, gone]
            exact .accepts sent gone
  | cloneSender =>
      by_cases unsent : channel.source.senders = 0
      · simp only [perform, if_pos unsent]
        exact .still _
      · simp only [perform, if_neg unsent]
        exact .counts _ _ fun none => absurd none unsent
  | dropSender => exact .counts _ _ fun none => by simp [none]
  | subscribe => exact .subscribes
  | start =>
      cases idle : channel.phase with
      | idle => simp only [perform, idle]; exact .starts idle
      | running | finished | discarded => simp only [perform, idle]; exact .still _
  | discard =>
      cases idle : channel.phase with
      | idle => simp only [perform, idle]; exact .discards idle
      | running | finished | discarded => simp only [perform, idle]; exact .still _
  | turn =>
      cases phase : channel.phase with
      | running subscriber =>
          simp only [perform, phase]
          exact change_takeTurn phase
      | idle | finished | discarded => simp only [perform, phase]; exact .still _
  | stop => exact .triggers
  | dropStop => exact .drops

section Steps

variable {channel next : Channel Handler} {action : Action Handler}
  {accepted : List ScopedEvent} {registered : Option (Registration Handler)}
  {calls : List (Handler × ResourceEvent)}

/-! ## Order -/

/-- A registration is made once, by the first attempt that succeeds. -/
theorem Change.registration (step : Change channel action next accepted registered calls) :
    next.source.registration = channel.source.registration.or registered := by
  cases step with
  | registers namespaceName handler idle unregistered => rw [unregistered]; rfl
  | starts | subscribes => simp
  | still | accepts | counts | discards | triggers | drops | hands | ends =>
      exact (Option.or_none).symm

/-- What waits and what a step adds has either been taken by it or still waits, in this order; and
the step calls for what it has taken, which it does only with a registration. -/
theorem Change.conserved (step : Change channel action next accepted registered calls) :
    ∃ taken, channel.source.queue ++ accepted = taken ++ next.source.queue ∧
      calls = callsFor channel.source.registration taken ∧
      (taken = [] ∨ channel.source.registration ≠ none) := by
  cases step with
  | @hands subscriber registration sent rest running unreached held waiting =>
      refine ⟨[sent], ?_, ?_, .inr ?_⟩
      · rw [waiting, List.append_nil]
        rfl
      · rw [held]
      · rw [held]
        exact Option.some_ne_none registration
  | starts | subscribes => exact ⟨[], by simp⟩
  | accepts sent => exact ⟨[], rfl, (callsFor_nil _).symm, .inl rfl⟩
  | still | registers | counts | discards | triggers | drops | ends =>
      exact ⟨[], List.append_nil _, (callsFor_nil _).symm, .inl rfl⟩

/-! ## Stopping -/

/-- A source that runs listens under the number of its subscription, which stands behind the signals
that had been sent. -/
structure Sound (channel : Channel Handler) : Prop where
  attends : ∀ subscriber, channel.phase = .running subscriber →
    channel.subscription = some subscriber
  stands : ∀ subscriber, channel.subscription = some subscriber →
    ∃ position, channel.stop.StandsAt subscriber position ∧
      position ≤ channel.stop.broadcast.sent

theorem sound_new : Sound ({} : Channel Handler) := ⟨nofun, nofun⟩

/-- A subscription that has been taken is not taken again. -/
theorem takeSubscription_of_some {subscriber : Nat}
    (taken : channel.subscription = some subscriber) : channel.takeSubscription = channel := by
  simp [takeSubscription, taken]

theorem Sound.takeSubscription (sound : channel.Sound) : channel.takeSubscription.Sound := by
  unfold Channel.takeSubscription
  split
  · exact sound
  next free =>
    have untaken : channel.subscription = none := by
      rw [← Option.not_isSome_iff_eq_none]
      exact fun taken => free (by simp [taken])
    refine ⟨fun subscriber running => ?_, ?_⟩
    · have taken := sound.attends subscriber running
      rw [untaken] at taken
      cases taken
    · rintro subscriber ⟨⟩
      exact ⟨_, Shutdown.standsAt_subscribe _, Nat.le_refl _⟩

/-- Steps keep a channel sound. -/
theorem Change.sound (step : Change channel action next accepted registered calls)
    (sound : channel.Sound) : next.Sound := by
  -- The place of a subscriber stays, and the signals before it only become more.
  have moved (next : Channel Handler) (leads : Shutdown.Leads channel.stop next.stop)
      (same : next.subscription = channel.subscription)
      (attends : ∀ subscriber, next.phase = .running subscriber →
        next.subscription = some subscriber) : next.Sound := by
    refine ⟨attends, fun subscriber taken => ?_⟩
    obtain ⟨position, stands, behind⟩ := sound.stands subscriber (same ▸ taken)
    exact ⟨position, leads.standsAt stands, Nat.le_trans behind leads.sent⟩
  cases step with
  | subscribes => exact sound.takeSubscription
  | starts idle =>
      refine ⟨fun subscriber running => ?_, ?_⟩
      · rcases channel.takeSubscription.phase_launch with ⟨number, taken, runs⟩ | stays
        · rw [running] at runs
          obtain rfl := ChannelPhase.running.inj runs
          rw [subscription_launch, taken]
        · rw [stays, phase_takeSubscription, idle] at running
          cases running
      · rw [subscription_launch, stop_launch]
        exact sound.takeSubscription.stands
  | triggers => exact moved _ (.trigger _) rfl sound.attends
  | drops => exact moved _ (.drop _) rfl sound.attends
  | discards | ends => exact moved _ (.refl _) rfl nofun
  | still | registers | accepts | counts | hands => exact ⟨sound.attends, sound.stands⟩

/-- The stop has reached the source, or there is nothing to subscribe to any more. -/
structure Stopped (channel : Channel Handler) : Prop where
  reached : ∀ subscriber, channel.subscription = some subscriber →
    channel.stop.reaches subscriber = true
  closed : channel.subscription = none → channel.stop.isDropped = true

/-- A stop that is given after the subscription was taken stops the source. -/
theorem Sound.stopped_stop (sound : channel.Sound) (taken : channel.subscription.isSome = true)
    (first : channel.stop.triggered = false) : (channel.perform .stop).1.Stopped := by
  have sent : channel.stop.trigger.broadcast.sent = channel.stop.broadcast.sent + 1 := by
    simp [Shutdown.trigger, first, Broadcast.send]
  refine ⟨fun subscriber held => ?_, fun (missing : channel.subscription = none) => ?_⟩
  · obtain ⟨position, stands, behind⟩ := sound.stands subscriber held
    show channel.stop.trigger.reaches subscriber = true
    rw [((Shutdown.Leads.trigger _).standsAt stands).reaches_iff, sent]
    exact .inr (Nat.lt_succ_of_le behind)
  · simp [missing] at taken

/-- Dropping the stop signal stops the source. -/
theorem stopped_dropStop (channel : Channel Handler) : (channel.perform .dropStop).1.Stopped :=
  ⟨fun subscriber _ => Shutdown.reaches_drop _ subscriber, fun _ => rfl⟩

/-- A stopped source makes no call, and stays stopped. -/
theorem Change.stopped (step : Change channel action next accepted registered calls)
    (sound : channel.Sound) (stopped : channel.Stopped) : next.Stopped ∧ calls = [] := by
  have unchanged : channel.takeSubscription = channel := by
    cases taken : channel.subscription with
    | some subscriber => exact takeSubscription_of_some taken
    | none => simp [takeSubscription, stopped.closed taken]
  have moved (next : Channel Handler) (leads : Shutdown.Leads channel.stop next.stop)
      (same : next.subscription = channel.subscription) : next.Stopped := by
    refine ⟨fun subscriber taken => ?_, fun none => leads.dropped (stopped.closed (same ▸ none))⟩
    obtain ⟨position, stands, -⟩ := sound.stands subscriber (same ▸ taken)
    exact leads.reaches stands (stopped.reached subscriber (same ▸ taken))
  cases step with
  | hands running unreached =>
      rw [stopped.reached _ (sound.attends _ running)] at unreached
      cases unreached
  | subscribes => exact ⟨unchanged.symm ▸ stopped, rfl⟩
  | starts => exact ⟨moved _ (by simp [unchanged, Shutdown.Leads.refl]) (by simp [unchanged]), rfl⟩
  | triggers => exact ⟨moved _ (.trigger _) rfl, rfl⟩
  | drops => exact ⟨moved _ (.drop _) rfl, rfl⟩
  | still | registers | accepts | counts | discards | ends => exact ⟨moved _ (.refl _) rfl, rfl⟩

/-! ## Ending -/

/-- No stop has been given. A source that ended had a handler only if nothing was left for it and
nothing more could come. -/
structure Unstopped (channel : Channel Handler) : Prop where
  unsent : channel.stop.broadcast.sent = 0
  undropped : channel.stop.isDropped = false
  drained : channel.phase = .finished → channel.source.registration ≠ none →
    channel.source.queue = [] ∧ channel.source.senders = 0

theorem unstopped_new : Unstopped ({} : Channel Handler) := ⟨rfl, rfl, nofun⟩

/-- Where no stop has been given, none reaches the source. -/
theorem Unstopped.unreached (unstopped : channel.Unstopped) (sound : channel.Sound)
    {subscriber : Nat} (running : channel.phase = .running subscriber) :
    channel.stop.reaches subscriber = false := by
  obtain ⟨position, stands, -⟩ := sound.stands _ (sound.attends _ running)
  rw [← Bool.not_eq_true, stands.reaches_iff, unstopped.unsent, unstopped.undropped]
  simp

theorem Unstopped.takeSubscription (unstopped : channel.Unstopped) :
    channel.takeSubscription.Unstopped := by
  unfold Channel.takeSubscription
  split
  · exact unstopped
  · exact ⟨unstopped.unsent, unstopped.undropped, unstopped.drained⟩

/-- Steps other than the stop keep a channel unstopped. -/
theorem Change.unstopped (step : Change channel action next accepted registered calls)
    (sound : channel.Sound) (unstopped : channel.Unstopped) (unstopping : action ≠ .stop)
    (undropping : action ≠ .dropStop) : next.Unstopped := by
  -- Only the end of a running source needs an argument; otherwise it has not ended, or not now.
  have kept := unstopped.drained
  cases step with
  | triggers => exact absurd rfl unstopping
  | drops => exact absurd rfl undropping
  | subscribes => exact unstopped.takeSubscription
  | starts idle =>
      refine ⟨?_, ?_, fun finished => ?_⟩
      · simpa using unstopped.takeSubscription.unsent
      · simpa using unstopped.takeSubscription.undropped
      · rcases channel.takeSubscription.phase_launch with ⟨number, -, runs⟩ | stays
        · rw [finished] at runs
          cases runs
        · rw [stays, phase_takeSubscription, idle] at finished
          cases finished
  | registers namespaceName handler idle =>
      exact ⟨unstopped.unsent, unstopped.undropped, fun finished => by simp [idle] at finished⟩
  | accepts sent present =>
      refine ⟨unstopped.unsent, unstopped.undropped, fun (finished : channel.phase = _) => ?_⟩
      simp [isGone, finished] at present
  | counts action senders left =>
      refine ⟨unstopped.unsent, unstopped.undropped, fun finished held => ?_⟩
      obtain ⟨empty, unsent⟩ := kept finished held
      exact ⟨empty, left unsent⟩
  | discards => exact ⟨unstopped.unsent, unstopped.undropped, nofun⟩
  | hands running =>
      exact ⟨unstopped.unsent, unstopped.undropped, fun finished => by simp [running] at finished⟩
  | ends running reason =>
      refine ⟨unstopped.unsent, unstopped.undropped, fun _ held => ?_⟩
      rcases reason with unregistered | reached | drained
      · exact absurd unregistered held
      · rw [unstopped.unreached sound running] at reached
        cases reached
      · exact drained
  | still => exact unstopped

/-- A source that is gone stays so. -/
theorem Change.isGone (step : Change channel action next accepted registered calls)
    (gone : channel.isGone = true) : next.isGone = true := by
  cases step with
  | registers namespaceName handler idle => simp [Channel.isGone, idle] at gone
  | starts idle => simp [Channel.isGone, idle] at gone
  | subscribes => simpa only [Channel.isGone, phase_takeSubscription] using gone
  | discards | ends => rfl
  | still | accepts | counts | triggers | drops | hands => exact gone

end Steps

/-! ## Runs -/

section Runs

variable {channel : Channel Handler}

theorem registration_after (channel : Channel Handler) (actions : List (Action Handler)) :
    (channel.after actions).source.registration =
      channel.source.registration.or (channel.firstRegistration actions) := by
  induction actions generalizing channel with
  | nil => exact (Option.or_none).symm
  | cons action actions ih =>
      rw [after_cons, ih, (channel.change action).registration, Option.or_assoc]
      rfl

/-- **Nothing is lost, doubled or moved.** What waited at first and what was accepted since has
either been taken or still waits, in this order, and the handler was called for what has been
taken. -/
theorem conserved (channel : Channel Handler) (actions : List (Action Handler)) :
    ∃ taken, channel.source.queue ++ channel.accepted actions =
        taken ++ (channel.after actions).source.queue ∧
      channel.delivered actions = callsFor (channel.after actions).source.registration taken := by
  induction actions generalizing channel with
  | nil => exact ⟨[], List.append_nil _, (callsFor_nil _).symm⟩
  | cons action actions ih =>
      obtain ⟨now, queued, called, entitled⟩ := (channel.change action).conserved
      obtain ⟨later, kept, calls⟩ := ih (channel.perform action).1
      refine ⟨now ++ later, ?_, ?_⟩
      · rw [accepted, ← List.append_assoc, queued, List.append_assoc, kept, List.append_assoc]
        rfl
      · -- A registration stays, so that calls made under it read the same at the end.
        have same : callsFor channel.source.registration now =
            callsFor (channel.after (action :: actions)).source.registration now := by
          rcases entitled with rfl | registered
          · simp only [callsFor_nil]
          · obtain ⟨registration, held⟩ := Option.ne_none_iff_exists'.mp registered
            rw [registration_after, held, Option.some_or]
        rw [delivered_cons, called, calls, same, callsFor_append]
        rfl

theorem Sound.after (sound : channel.Sound) (actions : List (Action Handler)) :
    (channel.after actions).Sound := by
  induction actions generalizing channel with
  | nil => exact sound
  | cons action actions ih => exact ih ((channel.change action).sound sound)

/-- **Once a source is stopped, it makes no more calls.** -/
theorem Stopped.delivered (sound : channel.Sound) (stopped : channel.Stopped)
    (actions : List (Action Handler)) : channel.delivered actions = [] := by
  induction actions generalizing channel with
  | nil => rfl
  | cons action actions ih =>
      obtain ⟨still, silent⟩ := (channel.change action).stopped sound stopped
      rw [delivered_cons, silent, ih ((channel.change action).sound sound) still, List.nil_append]

/-- A source that was never stopped has ended only when nothing was left for it. -/
theorem Unstopped.after (sound : channel.Sound) (unstopped : channel.Unstopped)
    {actions : List (Action Handler)} (unstopping : .stop ∉ actions)
    (undropping : .dropStop ∉ actions) : (channel.after actions).Unstopped := by
  induction actions generalizing channel with
  | nil => exact unstopped
  | cons action actions ih =>
      rw [List.mem_cons, not_or] at unstopping undropping
      have step := channel.change action
      have still := step.unstopped sound unstopped (Ne.symm unstopping.1) (Ne.symm undropping.1)
      exact ih (step.sound sound) still unstopping.2 undropping.2

theorem isGone_after (gone : channel.isGone = true) (actions : List (Action Handler)) :
    (channel.after actions).isGone = true := by
  induction actions generalizing channel with
  | nil => exact gone
  | cons action actions ih => exact ih ((channel.change action).isGone gone)

end Runs

/-! ## Going on -/

section Turns

variable {channel : Channel Handler} {subscriber : Nat} {registration : Registration Handler}

/-- A turn of a source that is not stopped takes the oldest event. -/
theorem perform_turn_of_waiting (running : channel.phase = .running subscriber)
    (unreached : channel.stop.reaches subscriber = false)
    (registered : channel.source.registration = some registration) {sent : ScopedEvent}
    {rest : List ScopedEvent} (waiting : channel.source.queue = sent :: rest) :
    (channel.perform .turn).1 =
      { channel with source := { channel.source with queue := rest } } := by
  obtain ⟨⟨held, queue, senders⟩, phase, stop, subscription⟩ := channel
  subst registered running waiting
  have unreached : stop.reaches subscriber = false := unreached
  simp [perform, takeTurn, ChannelSource.turn, unreached]

/-- Turns put nothing into the queue. -/
theorem accepted_turns (channel : Channel Handler) (count : Nat) :
    channel.accepted (List.replicate count .turn) = [] := by
  induction count generalizing channel with
  | zero => rfl
  | succ count ih => exact ih (channel.perform .turn).1

/-- So many turns as there are events leave none. -/
theorem queue_turns (running : channel.phase = .running subscriber)
    (unreached : channel.stop.reaches subscriber = false)
    (registered : channel.source.registration = some registration) {count : Nat}
    (enough : channel.source.queue.length ≤ count) :
    (channel.after (List.replicate count .turn)).source.queue = [] := by
  induction count generalizing channel with
  | zero => exact List.eq_nil_of_length_eq_zero (Nat.le_zero.mp enough)
  | succ count ih =>
      cases waiting : channel.source.queue with
      | nil =>
          -- Nothing waits and nothing is added, so nothing waits at the end.
          obtain ⟨taken, kept, -⟩ := channel.conserved (List.replicate (count + 1) .turn)
          rw [waiting, accepted_turns, List.nil_append] at kept
          exact (List.append_eq_nil_iff.mp kept.symm).2
      | cons sent rest =>
          have turned := perform_turn_of_waiting running unreached registered waiting
          rw [List.replicate_succ, after_cons, turned]
          refine ih running unreached registered ?_
          simpa [waiting] using enough

/-- A source that settles calls for all that waits. -/
theorem delivered_settle (running : channel.phase = .running subscriber)
    (unreached : channel.stop.reaches subscriber = false)
    (registered : channel.source.registration = some registration) :
    channel.settle.2.delivered = callsFor (some registration) channel.source.queue := by
  have empty := queue_turns running unreached registered (Nat.le_succ channel.source.queue.length)
  obtain ⟨taken, kept, calls⟩ :=
    channel.conserved (List.replicate (channel.source.queue.length + 1) .turn)
  rw [accepted_turns, empty, List.append_nil, List.append_nil] at kept
  rw [registration_after, registered, Option.some_or, ← kept] at calls
  exact calls

end Turns

/-! ## Delivery -/

section Attempts

variable {channel : Channel Handler}

/-- What a registration answers before the source is started. -/
theorem answers_register (idle : channel.phase = .idle) (namespaceName : String)
    (handler : Handler) :
    (channel.perform (.register namespaceName handler)).2.answers =
      [.registered (if namespaceName = "" then some .emptyNamespace
        else if channel.source.registration = none then none else some .alreadyRegistered)] := by
  simp only [perform, idle, ChannelSource.register_eq]
  by_cases unnamed : namespaceName = ""
  · simp [unnamed]
  · by_cases free : channel.source.registration = none <;> simp [unnamed, free]

/-- An attempt to register without a namespace, or once more, changes nothing. -/
theorem perform_register_of_refused (namespaceName : String) (handler : Handler)
    (refused : namespaceName = "" ∨ channel.source.registration ≠ none) :
    (channel.perform (.register namespaceName handler)).1 = channel := by
  cases idle : channel.phase with
  | idle =>
      simp only [perform, idle, ChannelSource.register_eq]
      by_cases unnamed : namespaceName = ""
      · simp [unnamed]
      · have held := refused.resolve_left unnamed
        simp [unnamed, held]
  | running | finished | discarded => simp only [perform, idle]

/-- What a sender is told: the event is handed back just when the source is gone. -/
theorem answers_send (present : channel.source.senders ≠ 0) (sent : ScopedEvent) :
    (channel.perform (.send sent)).2.answers =
      if channel.phase = .finished ∨ channel.phase = .discarded then [.rejected sent.event]
      else [.queued] := by
  have gone : channel.isGone = true ↔ channel.phase = .finished ∨ channel.phase = .discarded := by
    rw [isGone]
    cases channel.phase <;> simp
  simp only [perform, if_neg present, gone]
  split <;> rfl

/-- A source that nobody registered with ends in its first turn. -/
theorem finished_of_unregistered {subscriber : Nat} (running : channel.phase = .running subscriber)
    (unregistered : channel.source.registration = none) :
    (channel.perform .turn).1.phase = .finished := by
  simp [perform, running, takeTurn, ChannelSource.turn, unregistered]

end Attempts

/-- **A channel delivers the accepted events of its namespace in their order and once, until it is
stopped.** Whatever steps have been taken with a new channel, the calls so far begin the sequence of
calls that the accepted events call for, under the first registration that succeeded; an attempt
that fails changes nothing. No call follows a stop that comes after the subscription, nor the drop
of the stop signal. A source that nobody registered with ends in its first turn. Without a stop, a
source with a handler ends only when no sender is left and all accepted events have been delivered,
and until then it delivers all of them as long as it gets its turns. Sends are accepted until the
source ends or is thrown away; from then on every event is handed back. -/
theorem delivered_in_order (actions : List (Action Handler)) :
    let channel := ({} : Channel Handler).after actions
    let accepted := ({} : Channel Handler).accepted actions
    let registration := ({} : Channel Handler).firstRegistration actions
    let delivered := ({} : Channel Handler).delivered actions
    delivered <+: callsFor registration accepted ∧
    (∀ namespaceName handler,
      (channel.phase = .idle →
        (channel.perform (.register namespaceName handler)).2.answers =
          [.registered (if namespaceName = "" then some .emptyNamespace
            else if registration = none then none else some .alreadyRegistered)]) ∧
      (namespaceName = "" ∨ registration ≠ none →
        (channel.perform (.register namespaceName handler)).1 = channel)) ∧
    (∀ later, channel.subscription.isSome = true → channel.stop.triggered = false →
      channel.delivered (.stop :: later) = []) ∧
    (∀ later, channel.delivered (.dropStop :: later) = []) ∧
    (registration = none → delivered = [] ∧ ∀ subscriber, channel.phase = .running subscriber →
      (channel.perform .turn).1.phase = .finished) ∧
    (.stop ∉ actions → .dropStop ∉ actions → registration ≠ none →
      (channel.phase = .finished →
        channel.source.senders = 0 ∧ channel.source.queue = [] ∧
          delivered = callsFor registration accepted) ∧
      ∀ subscriber, channel.phase = .running subscriber →
        delivered ++ channel.settle.2.delivered = callsFor registration accepted) ∧
    (∀ sent, channel.source.senders ≠ 0 →
      (channel.perform (.send sent)).2.answers =
        if channel.phase = .finished ∨ channel.phase = .discarded then [.rejected sent.event]
        else [.queued]) ∧
    (channel.isGone = true → ∀ later, (channel.after later).isGone = true) := by
  intro channel accepted registration delivered
  have sound : channel.Sound := sound_new.after actions
  have registered : channel.source.registration = registration :=
    (registration_after {} actions).trans Option.none_or
  obtain ⟨taken, kept, calls⟩ := conserved ({} : Channel Handler) actions
  have kept : accepted = taken ++ channel.source.queue := kept
  have calls : delivered = callsFor registration taken := registered ▸ calls
  -- What has been called for and what waits make up what was accepted.
  have whole : delivered ++ callsFor registration channel.source.queue =
      callsFor registration accepted := by
    rw [calls, ← callsFor_append, ← kept]
  refine ⟨⟨_, whole⟩, fun namespaceName handler => ⟨fun idle => ?_, fun refused => ?_⟩,
    fun later taken first => ?stopped, fun later => ?dropped, fun unregistered => ?unregistered,
    fun unstopping undropping held => ?unstopped, fun sent present => answers_send present sent,
    isGone_after⟩
  · rw [answers_register idle, registered]
  · exact perform_register_of_refused namespaceName handler (registered ▸ refused)
  case stopped =>
    exact (sound.stopped_stop taken first).delivered ((channel.change .stop).sound sound) later
  case dropped =>
    exact (stopped_dropStop channel).delivered ((channel.change .dropStop).sound sound) later
  case unregistered =>
    refine ⟨by rw [calls, unregistered]; rfl, fun subscriber running => ?_⟩
    exact finished_of_unregistered running (registered.trans unregistered)
  case unstopped =>
    have unstopped : channel.Unstopped := unstopped_new.after sound_new unstopping undropping
    refine ⟨fun finished => ?_, fun subscriber running => ?_⟩
    · obtain ⟨empty, unsent⟩ := unstopped.drained finished (registered ▸ held)
      rw [empty, callsFor_nil, List.append_nil] at whole
      exact ⟨unsent, empty, whole⟩
    · obtain ⟨own, known⟩ := Option.ne_none_iff_exists'.mp held
      have unreached := unstopped.unreached sound running
      rw [delivered_settle running unreached (registered.trans known), ← known]
      exact whole

/-- Two senders, an event of another namespace, a registration that fails and a stop while events
wait. -/
theorem delivered_in_order_before_stop :
    let actions : List (Action String) :=
      [.send ⟨"nkl", .added .null⟩, .register "" "nobody", .register "nkl" "first",
        .register "other" "second", .cloneSender, .send ⟨"other", .deleted none⟩, .subscribe,
        .start, .send ⟨"nkl", .updated .null none⟩, .dropSender, .turn, .turn,
        .send ⟨"nkl", .deleted none⟩]
    let channel := Channel.after {} actions
    Channel.firstRegistration {} actions = some ⟨"nkl", "first"⟩ ∧
      Channel.delivered {} actions = [("first", .added .null)] ∧
      Channel.delivered {} actions ++ channel.settle.2.delivered =
        [("first", .added .null), ("first", .updated .null none), ("first", .deleted none)] ∧
      channel.delivered [.stop, .turn, .turn] = [] ∧
      (channel.perform (.register "nkl" "third")).1 = channel ∧
      (channel.perform (.send ⟨"other", .added .null⟩)).2.answers = [.queued] := by
  intro actions channel
  have registered : Channel.firstRegistration {} actions = some ⟨"nkl", "first"⟩ := rfl
  obtain ⟨-, attempts, stop, -, -, ending, sends, -⟩ := delivered_in_order actions
  have running : channel.phase = .running 0 := rfl
  have settled := (ending (by simp [actions]) (by simp [actions]) nofun).2 0 running
  exact ⟨registered, rfl, settled, stop _ rfl rfl, (attempts "nkl" "third").2 (.inr nofun),
    sends _ nofun⟩

end Channel

end HostRoster

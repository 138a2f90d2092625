import HostRoster.Lifecycle.Shutdown
import HostRoster.Watch.Source

/-!
# Channels

A channel is a source that is fed inside the program: senders put events with a namespace into a
queue, and the source hands the events of the namespace it is registered for to its handler, in the
order in which they were sent. Other events are left out. The source ends when it is asked to stop,
which goes before all waiting events, and when the queue is empty and no sender is left.

`ChannelSource.turn` is one round of the source. `Channel` is a source with its stop signal, and
`Channel.perform` says what each possible step does to it, so that the lists of actions are all the
orders in which steps can follow each other.
-/

set_option autoImplicit false

namespace HostRoster

/-! ## The source -/

/-- An event on its way, with the namespace that it belongs to. -/
structure ScopedEvent where
  /-- The namespace. -/
  namespaceName : String
  /-- The event. -/
  event : ResourceEvent
  deriving Repr

/-- A source that is fed through a queue. -/
structure ChannelSource (Handler : Type) where
  /-- Who is registered. -/
  registration : Option (Registration Handler) := none
  /-- The events that have been sent and not been taken, the oldest first. -/
  queue : List ScopedEvent := []
  /-- How many senders there are. -/
  senders : Nat := 1
  deriving Repr

namespace ChannelSource

variable {Handler : Type}

/-- Registers a handler for a namespace. -/
def register (source : ChannelSource Handler) (namespaceName : String) (handler : Handler) :
    Except RegistrationError (ChannelSource Handler) :=
  (Registration.register source.registration namespaceName handler).map
    fun registration => { source with registration := some registration }

/-- Puts an event into the queue. -/
def send (source : ChannelSource Handler) (sent : ScopedEvent) : ChannelSource Handler :=
  { source with queue := source.queue ++ [sent] }

/-- Takes a sender away. -/
def dropSender (source : ChannelSource Handler) : ChannelSource Handler :=
  { source with senders := source.senders - 1 }

/-- What is reported about an event of another namespace. -/
def ignoredEntry (sent : ScopedEvent) : LogEntry :=
  ⟨.trace, .channel, "Ignoring event outside the watched namespace",
    [("namespace", .text sent.namespaceName), ("kind", .quoted sent.event.kind)]⟩

/-- What comes of taking an event from the queue. -/
def outputOf (namespaceName : String) (sent : ScopedEvent) : Output :=
  if sent.namespaceName = namespaceName then .event sent.event else .entry (ignoredEntry sent)

/-- A turn: a request to stop goes first, then the oldest event, then the end of the queue. -/
def turn (stopRequested : Bool) (source : ChannelSource Handler) : Turn (ChannelSource Handler) :=
  match source.registration with
  | none =>
    .ended .returned
      [.entry ⟨.warn, .channel, "Channel watch source started without a handler", []⟩]
  | some registration =>
    if stopRequested then
      .ended .returned [.entry ⟨.debug, .channel, "Channel watch source stopping",
        [("namespace", .text registration.namespaceName)]⟩]
    else match source.queue with
      | sent :: rest =>
        .acted { source with queue := rest } [outputOf registration.namespaceName sent]
      | [] =>
        if source.senders = 0 then
          .ended .returned [.entry ⟨.debug, .channel, "Event channel closed", []⟩]
        else .waiting source

/-- A channel as the source of the host list. -/
instance : WatchSource (ChannelSource Unit) where
  register namespaceName source := source.register namespaceName ()
  turn := turn
  backlog source := source.queue.length + 1

end ChannelSource

/-! ## A source with its stop signal -/

/-- Where a source stands. -/
inductive ChannelPhase where
  /-- It has not been started. -/
  | idle
  /-- It runs and listens to the stop signal under this number. -/
  | running (subscriber : Nat)
  /-- It has ended. -/
  | finished
  /-- It was thrown away before it was started. -/
  | discarded
  deriving DecidableEq, Repr

/-- A source, where it stands, and the signal that stops it. -/
structure Channel (Handler : Type) where
  /-- The source. -/
  source : ChannelSource Handler := {}
  /-- Where it stands. -/
  phase : ChannelPhase := .idle
  /-- The signal that stops it. -/
  stop : Shutdown := {}
  /-- The number under which the source listens to the stop signal once it is started, if the
  subscription has been taken. -/
  subscription : Option Nat := none
  deriving Repr

namespace Channel

variable {Handler : Type}

/-- What can happen to a channel. -/
inductive Action (Handler : Type) where
  /-- A handler is to be registered for a namespace. -/
  | register (namespaceName : String) (handler : Handler)
  /-- An event is sent. -/
  | send (sent : ScopedEvent)
  /-- A sender is doubled. -/
  | cloneSender
  /-- A sender is dropped. -/
  | dropSender
  /-- The subscription to the stop signal is taken that the source is to be started with. -/
  | subscribe
  /-- The source is started. -/
  | start
  /-- The source is thrown away. -/
  | discard
  /-- The source takes a turn. -/
  | turn
  /-- The stop signal is given. -/
  | stop
  /-- The stop signal is dropped. -/
  | dropStop
  deriving Repr

/-- What a step answers. -/
inductive Answer where
  /-- The outcome of a registration. -/
  | registered (failure : Option RegistrationError)
  /-- The event is in the queue. -/
  | queued
  /-- The event is handed back, for the source is gone. -/
  | rejected (event : ResourceEvent)
  /-- There is no sender. -/
  | noSender
  deriving Repr

/-- What steps bring about. -/
structure Outcome (Handler : Type) where
  /-- The answers, of the steps that have one. -/
  answers : List Answer := []
  /-- The events that were handed to a handler. -/
  delivered : List (Handler × ResourceEvent) := []
  /-- What was reported. -/
  entries : List LogEntry := []
  deriving Repr

/-- The outcome of outputs that go to the registered handler. -/
def outcomeOf (registration : Option (Registration Handler)) (outputs : List Output) :
    Outcome Handler where
  delivered := match registration with
    | none => []
    | some registration => (Output.events outputs).map (registration.handler, ·)
  entries := Output.entries outputs

/-- Whether the source takes no more events. -/
def isGone (channel : Channel Handler) : Bool :=
  match channel.phase with
  | .idle | .running _ => false
  | .finished | .discarded => true

/-- A turn of a source that runs. -/
def takeTurn (channel : Channel Handler) (subscriber : Nat) : Channel Handler × Outcome Handler :=
  match channel.source.turn (channel.stop.reaches subscriber) with
  | .waiting source => ({ channel with source }, {})
  | .acted source outputs => ({ channel with source }, outcomeOf source.registration outputs)
  | .ended _ outputs =>
    ({ channel with phase := .finished }, outcomeOf channel.source.registration outputs)

/-- Takes the subscription to the stop signal, once and not after the signal has been dropped. -/
def takeSubscription (channel : Channel Handler) : Channel Handler :=
  if channel.subscription.isSome || channel.stop.isDropped then channel
  else
    let (stop, subscriber) := channel.stop.subscribe
    { channel with stop, subscription := some subscriber }

/-- Starts the source with the subscription that there is. -/
def launch (channel : Channel Handler) : Channel Handler :=
  match channel.subscription with
  | some subscriber => { channel with phase := .running subscriber }
  | none => channel

/-- A step of a channel. -/
def perform (channel : Channel Handler) : Action Handler → Channel Handler × Outcome Handler
  | .register namespaceName handler =>
    match channel.phase with
    | .idle =>
      match channel.source.register namespaceName handler with
      | .ok source => ({ channel with source }, { answers := [.registered none] })
      | .error cause => (channel, { answers := [.registered (some cause)] })
    | _ => (channel, {})
  | .send sent =>
    if channel.source.senders = 0 then (channel, { answers := [.noSender] })
    else if channel.isGone then (channel, { answers := [.rejected sent.event] })
    else ({ channel with source := channel.source.send sent }, { answers := [.queued] })
  | .cloneSender =>
    if channel.source.senders = 0 then (channel, {})
    else
      ({ channel with source := { channel.source with senders := channel.source.senders + 1 } }, {})
  | .dropSender => ({ channel with source := channel.source.dropSender }, {})
  | .subscribe => (channel.takeSubscription, {})
  | .start =>
    match channel.phase with
    | .idle => (channel.takeSubscription.launch, {})
    | _ => (channel, {})
  | .discard =>
    match channel.phase with
    | .idle => ({ channel with phase := .discarded }, {})
    | _ => (channel, {})
  | .turn =>
    match channel.phase with
    | .running subscriber => channel.takeTurn subscriber
    | _ => (channel, {})
  | .stop => ({ channel with stop := channel.stop.trigger }, {})
  | .dropStop => ({ channel with stop := channel.stop.drop }, {})

/-- Puts the outcome of one step before that of the next. -/
def Outcome.append (first second : Outcome Handler) : Outcome Handler where
  answers := first.answers ++ second.answers
  delivered := first.delivered ++ second.delivered
  entries := first.entries ++ second.entries

/-- Steps in their order. -/
def performAll (channel : Channel Handler) : List (Action Handler) →
    Channel Handler × Outcome Handler
  | [] => (channel, {})
  | action :: actions =>
    let (next, outcome) := channel.perform action
    let (last, outcomes) := next.performAll actions
    (last, outcome.append outcomes)

/-- Turns until the source waits or has ended. -/
def settle (channel : Channel Handler) : Channel Handler × Outcome Handler :=
  channel.performAll (List.replicate (channel.source.queue.length + 1) .turn)

end Channel

end HostRoster

import HostRoster.Proofs.Listening
import Mathlib.Data.List.Induction

/-!
# A shutdown signals once

What a subscriber finds is decided by the history alone (`Shutdown.signalled_once`). The signal is
given by the first trigger, if it comes before the drop (`Shutdown.Given`). It is found by those who
subscribed before it, at the first attempt after it (`Shutdown.Pending`), also when the shutdown was
dropped in between. Every other attempt finds an empty shutdown, or a closed one after the drop.

As only one signal is ever sent, and nobody stands beyond it, the one place for signals is enough
and nothing is missed (`Shutdown.Orderly`).
-/

set_option autoImplicit false

namespace HostRoster

namespace Shutdown

/-! ## Histories -/

/-- A new shutdown after actions. -/
def after (history : List Action) : Shutdown := (performAll {} history).2

/-- What an action answers after others. -/
def answer (history : List Action) (action : Action) : Answer :=
  ((after history).perform action).1

/-- The signal was given: a trigger came, and no drop before it. -/
def Given (history : List Action) : Prop :=
  ∃ before after, history = before ++ .trigger :: after ∧ .drop ∉ before

/-- Since a subscriber has subscribed the signal was given, by the first trigger, and the subscriber
has not tried to receive after it. -/
def Pending (subscriber : Nat) (since : List Action) : Prop :=
  ∃ before after, since = before ++ .trigger :: after ∧ .trigger ∉ before ∧ .drop ∉ before ∧
    .receive subscriber ∉ after

/-- A history with one action more is split at this action or before it. -/
theorem concat_eq_split_iff {history before after : List Action} {action pivot : Action} :
    history ++ [action] = before ++ pivot :: after ↔
      (history = before ∧ action = pivot ∧ after = []) ∨
        ∃ rest, after = rest ++ [action] ∧ history = before ++ pivot :: rest := by
  constructor
  · intro split
    rcases List.eq_nil_or_concat after with rfl | ⟨rest, last, rfl⟩
    · obtain ⟨front, back⟩ := List.append_inj' split rfl
      exact .inl ⟨front, List.head_eq_of_cons_eq back, rfl⟩
    · have whole : history ++ [action] = (before ++ pivot :: rest) ++ [last] := by
        simpa using split
      obtain ⟨front, back⟩ := List.append_inj' whole rfl
      obtain rfl := List.head_eq_of_cons_eq back
      exact .inr ⟨rest, List.concat_eq_append, front⟩
  · rintro (⟨rfl, rfl, rfl⟩ | ⟨rest, rfl, rfl⟩)
    · rfl
    · simp

theorem given_iff_mem {history : List Action} (alive : .drop ∉ history) :
    Given history ↔ .trigger ∈ history := by
  constructor
  · rintro ⟨before, after, rfl, -⟩
    simp
  · intro member
    obtain ⟨before, after, rfl⟩ := List.append_of_mem member
    exact ⟨before, after, rfl, fun dropped => alive (List.mem_append_left _ dropped)⟩

theorem given_concat {history : List Action} {action : Action} :
    Given (history ++ [action]) ↔ Given history ∨ action = .trigger ∧ .drop ∉ history := by
  constructor
  · rintro ⟨before, after, split, alive⟩
    rcases concat_eq_split_iff.mp split with ⟨rfl, rfl, -⟩ | ⟨rest, -, rfl⟩
    · exact .inr ⟨rfl, alive⟩
    · exact .inl ⟨before, rest, rfl, alive⟩
  · rintro (⟨before, after, rfl, alive⟩ | ⟨rfl, alive⟩)
    · exact ⟨before, after ++ [action], by simp, alive⟩
    · exact ⟨history, [], rfl, alive⟩

theorem pending_concat {subscriber : Nat} {since : List Action} {action : Action} :
    Pending subscriber (since ++ [action]) ↔
      Pending subscriber since ∧ action ≠ .receive subscriber ∨
        action = .trigger ∧ .trigger ∉ since ∧ .drop ∉ since := by
  constructor
  · rintro ⟨before, after, split, first, alive, unread⟩
    rcases concat_eq_split_iff.mp split with ⟨rfl, rfl, -⟩ | ⟨rest, rfl, rfl⟩
    · exact .inr ⟨rfl, first, alive⟩
    · rw [List.mem_append, List.mem_singleton, not_or] at unread
      exact .inl ⟨⟨before, rest, rfl, first, alive, unread.1⟩, Ne.symm unread.2⟩
  · rintro (⟨⟨before, after, rfl, first, alive, unread⟩, other⟩ | ⟨rfl, first, alive⟩)
    · exact ⟨before, after ++ [action], by simp, first, alive, by simp [unread, Ne.symm other]⟩
    · exact ⟨since, [], rfl, first, alive, List.not_mem_nil⟩

/-! ## Steps -/

theorem performAll_concat (shutdown : Shutdown) (history : List Action) (action : Action) :
    shutdown.performAll (history ++ [action]) =
      ((shutdown.performAll history).1 ++ [((shutdown.performAll history).2.perform action).1],
        ((shutdown.performAll history).2.perform action).2) := by
  induction history generalizing shutdown with
  | nil => rfl
  | cons first history ih => simp only [List.cons_append, performAll, ih]

theorem after_concat (history : List Action) (action : Action) :
    after (history ++ [action]) = ((after history).perform action).2 := by
  rw [after, performAll_concat, after]

section Step

variable {shutdown next : Shutdown} {action : Action}

/-- One signal at most has been sent, there is room for it, and nobody stands beyond it. -/
structure Orderly (shutdown : Shutdown) : Prop where
  room : shutdown.broadcast.room = 1
  once : shutdown.SendsOnce
  behind : ∀ position ∈ shutdown.broadcast.positions, position ≤ shutdown.broadcast.sent

/-- What a subscriber finds at a position. -/
def found (shutdown : Shutdown) (position : Nat) : Received :=
  if position < shutdown.broadcast.sent then .signal
  else if shutdown.isDropped then .closed else .empty

/-- A shutdown of which a subscriber has received everything. -/
def catchUp (shutdown : Shutdown) (subscriber : Nat) : Shutdown :=
  let positions := shutdown.broadcast.positions.set subscriber shutdown.broadcast.sent
  { shutdown with broadcast := { shutdown.broadcast with positions } }

/-- All that an action can do to an orderly shutdown. -/
inductive Change (shutdown : Shutdown) (action : Action) (next : Shutdown) : Prop where
  | joined (asks : action = .subscribe) (alive : shutdown.isDropped = false)
      (becomes : next = shutdown.subscribe.1)
  | gave (asks : action = .trigger) (alive : shutdown.isDropped = false)
      (first : shutdown.triggered = false)
      (becomes : next = { broadcast := shutdown.broadcast.send, triggered := true })
  | vain (asks : action = .trigger ∧ shutdown.triggered = true ∨
        (action = .trigger ∨ action = .subscribe) ∧ shutdown.isDropped = true)
      (becomes : next = shutdown)
  | dropped (asks : action = .drop) (becomes : next = shutdown.drop)
  | stranger (subscriber : Nat) (asks : action = .receive subscriber)
      (unknown : shutdown.broadcast.positions[subscriber]? = none)
      (becomes : next = shutdown)
  | received (subscriber position : Nat) (asks : action = .receive subscriber)
      (stands : shutdown.StandsAt subscriber position)
      (becomes : next = shutdown.catchUp subscriber)

theorem orderly_new : Orderly {} := ⟨rfl, rfl, by simp⟩

/-- Who receives has all signals behind it afterwards, and never misses one. -/
theorem Orderly.receiveAt (orderly : shutdown.Orderly) {subscriber position : Nat}
    (stands : shutdown.StandsAt subscriber position) :
    shutdown.broadcast.receiveAt position =
      (shutdown.found position, shutdown.broadcast.sent) := by
  have behind := orderly.behind position (List.mem_of_getElem? stands)
  have few : shutdown.broadcast.sent ≤ 1 := by
    rw [orderly.once]
    exact Bool.toNat_le shutdown.triggered
  unfold Broadcast.receiveAt found isDropped
  by_cases waiting : position < shutdown.broadcast.sent
  · have ahead : ¬ shutdown.broadcast.sent ≤ position := Nat.not_le_of_lt waiting
    have room : ¬ shutdown.broadcast.room < shutdown.broadcast.sent - position := by
      rw [orderly.room]
      omega
    have next : position + 1 = shutdown.broadcast.sent := by omega
    simp only [if_neg ahead, if_neg room, if_pos waiting, next]
  · have here : position = shutdown.broadcast.sent := by omega
    simp [here]

theorem Orderly.perform_receive (orderly : shutdown.Orderly) {subscriber position : Nat}
    (stands : shutdown.StandsAt subscriber position) :
    shutdown.perform (.receive subscriber) =
      (.received (shutdown.found position), shutdown.catchUp subscriber) := by
  have place : shutdown.broadcast.positions[subscriber]? = some position := stands
  have finds : shutdown.broadcast.receive subscriber =
      (shutdown.found position, (shutdown.catchUp subscriber).broadcast) := by
    rw [Broadcast.receive, place]
    simp only [orderly.receiveAt stands, catchUp]
  rw [perform, receive, finds]
  rfl

theorem perform_receive_of_unknown {subscriber : Nat}
    (unknown : shutdown.broadcast.positions[subscriber]? = none) :
    shutdown.perform (.receive subscriber) = (.received .closed, shutdown) := by
  have finds : shutdown.broadcast.receive subscriber = (.closed, shutdown.broadcast) := by
    rw [Broadcast.receive, unknown]
  rw [perform, receive, finds]

theorem perform_trigger_of_triggered (triggered : shutdown.triggered = true) :
    (shutdown.perform .trigger).2 = shutdown := by
  rw [perform]
  split
  · rfl
  · simp [trigger, triggered]

/-- **All that an action can do to an orderly shutdown.** -/
theorem change (orderly : shutdown.Orderly) (action : Action) :
    Change shutdown action (shutdown.perform action).2 := by
  cases action with
  | subscribe =>
      cases gone : shutdown.isDropped with
      | true => exact .vain (.inr ⟨.inr rfl, gone⟩) (by simp [perform, gone])
      | false => exact .joined rfl gone (by simp [perform, gone])
  | trigger =>
      cases gone : shutdown.isDropped with
      | true => exact .vain (.inr ⟨.inl rfl, gone⟩) (by simp [perform, gone])
      | false =>
          cases triggered : shutdown.triggered with
          | true => exact .vain (.inl ⟨rfl, triggered⟩) (perform_trigger_of_triggered triggered)
          | false => exact .gave rfl gone triggered (by simp [perform, gone, trigger, triggered])
  | drop => exact .dropped rfl rfl
  | receive subscriber =>
      cases place : shutdown.broadcast.positions[subscriber]? with
      | none =>
          rw [perform_receive_of_unknown place]
          exact .stranger subscriber rfl place rfl
      | some position =>
          rw [orderly.perform_receive place]
          exact .received subscriber position rfl place rfl

theorem Change.orderly (changes : Change shutdown action next)
    (orderly : shutdown.Orderly) : next.Orderly := by
  cases changes with
  | joined asks alive becomes =>
      subst becomes
      refine ⟨orderly.room, orderly.once.subscribe, fun position member => ?_⟩
      rcases List.mem_append.mp member with old | new
      · exact orderly.behind position old
      · exact Nat.le_of_eq (List.mem_singleton.mp new)
  | gave asks alive first becomes =>
      subst becomes
      have none : shutdown.broadcast.sent = 0 := by
        rw [orderly.once, first]
        rfl
      refine ⟨orderly.room, ?_, fun position member => ?_⟩
      · simp [SendsOnce, Broadcast.send, none]
      · exact Nat.le_succ_of_le (orderly.behind position member)
  | vain asks becomes | stranger subscriber asks unknown becomes =>
      rw [becomes]
      exact orderly
  | dropped asks becomes =>
      rw [becomes]
      exact ⟨orderly.room, orderly.once.drop, orderly.behind⟩
  | received subscriber position asks stands becomes =>
      subst becomes
      refine ⟨orderly.room, orderly.once, fun place member => ?_⟩
      rcases List.mem_or_eq_of_mem_set member with old | rfl
      · exact orderly.behind place old
      · exact Nat.le_refl _

theorem Change.isDropped_iff (changes : Change shutdown action next) :
    next.isDropped = true ↔ shutdown.isDropped = true ∨ action = .drop := by
  cases changes with
  | joined asks alive becomes | gave asks alive first becomes
  | dropped asks becomes | stranger subscriber asks unknown becomes
  | received subscriber position asks stands becomes =>
      simp [asks, becomes, isDropped, subscribe, Broadcast.subscribe, Broadcast.send, drop,
        Broadcast.close, catchUp]
  | vain asks becomes =>
      rcases asks with ⟨rfl, -⟩ | ⟨rfl | rfl, -⟩ <;> simp [becomes]

theorem Change.triggered_iff (changes : Change shutdown action next) :
    next.triggered = true ↔
      shutdown.triggered = true ∨ action = .trigger ∧ shutdown.isDropped = false := by
  cases changes with
  | joined asks alive becomes | gave asks alive first becomes
  | dropped asks becomes | stranger subscriber asks unknown becomes
  | received subscriber position asks stands becomes =>
      simp_all [subscribe, drop, catchUp]
  | vain asks becomes =>
      rcases asks with ⟨rfl, told⟩ | ⟨rfl | rfl, gone⟩ <;> simp_all

/-- Every subscription gets the next number, until the drop. -/
theorem Change.length_positions (changes : Change shutdown action next)
    (alive : shutdown.isDropped = false) :
    next.broadcast.positions.length =
      shutdown.broadcast.positions.length + [action].count .subscribe := by
  cases changes with
  | joined asks _ becomes | gave asks _ first becomes
  | dropped asks becomes | stranger subscriber asks unknown becomes
  | received subscriber position asks stands becomes =>
      simp [asks, becomes, subscribe, Broadcast.subscribe, Broadcast.send, drop, Broadcast.close,
        catchUp]
  | vain asks becomes =>
      rcases asks with ⟨rfl, -⟩ | ⟨-, gone⟩
      · simp [becomes]
      · rw [alive] at gone
        cases gone

/-- **A signal lies before a subscriber** if it lay there already and the subscriber does not
receive, or if it is given now. -/
theorem Change.standsAt (changes : Change shutdown action next)
    (orderly : shutdown.Orderly) {subscriber position : Nat}
    (stands : shutdown.StandsAt subscriber position) :
    ∃ place, next.StandsAt subscriber place ∧
      (place < next.broadcast.sent ↔
        position < shutdown.broadcast.sent ∧ action ≠ .receive subscriber ∨
          action = .trigger ∧ shutdown.isDropped = false ∧ shutdown.triggered = false) := by
  cases changes with
  | joined asks alive becomes =>
      rw [becomes]
      exact ⟨position, (Leads.subscribe shutdown).standsAt stands, by
        simp [asks, subscribe, Broadcast.subscribe]⟩
  | gave asks alive first becomes =>
      rw [becomes]
      have behind := orderly.behind position (List.mem_of_getElem? stands)
      exact ⟨position, stands, by simp [asks, alive, first, Broadcast.send]; omega⟩
  | vain asks becomes =>
      rw [becomes]
      refine ⟨position, stands, ?_⟩
      rcases asks with ⟨rfl, told⟩ | ⟨rfl | rfl, gone⟩ <;> simp [*]
  | dropped asks becomes =>
      rw [becomes]
      exact ⟨position, (Leads.drop shutdown).standsAt stands, by
        simp [asks, drop, Broadcast.close]⟩
  | stranger other asks unknown becomes =>
      rw [becomes]
      have different : other ≠ subscriber := by
        rintro rfl
        rw [stands] at unknown
        cases unknown
      exact ⟨position, stands, by simp [asks, different]⟩
  | received other _ asks known becomes =>
      rw [becomes]
      by_cases same : other = subscriber
      · subst same
        obtain ⟨inside, -⟩ := List.getElem?_eq_some_iff.mp stands
        exact ⟨shutdown.broadcast.sent, List.getElem?_set_self inside, by simp [asks, catchUp]⟩
      · exact ⟨position, (List.getElem?_set_ne same).trans stands, by
          simp [asks, same, catchUp]⟩

end Step

/-! ## Runs -/

theorem orderly_after (history : List Action) : (after history).Orderly := by
  induction history using List.reverseRecOn with
  | nil => exact orderly_new
  | append_singleton history action ih =>
      rw [after_concat]
      exact (change ih action).orderly ih

theorem isDropped_after (history : List Action) :
    (after history).isDropped = true ↔ .drop ∈ history := by
  induction history using List.reverseRecOn with
  | nil => simp [after, performAll, isDropped]
  | append_singleton history action ih =>
      rw [after_concat, (change (orderly_after history) action).isDropped_iff, ih]
      simp [eq_comm]

theorem alive_after (history : List Action) :
    (after history).isDropped = false ↔ .drop ∉ history := by
  rw [← isDropped_after, Bool.not_eq_true]

theorem triggered_after (history : List Action) :
    (after history).triggered = true ↔ Given history := by
  induction history using List.reverseRecOn with
  | nil => simp [after, performAll, Given]
  | append_singleton history action ih =>
      rw [after_concat, (change (orderly_after history) action).triggered_iff, ih, given_concat,
        alive_after]

theorem length_positions_after {history : List Action} (alive : .drop ∉ history) :
    (after history).broadcast.positions.length = history.count .subscribe := by
  induction history using List.reverseRecOn with
  | nil => rfl
  | append_singleton history action ih =>
      have before : .drop ∉ history := fun dropped => alive (List.mem_append_left _ dropped)
      have changes := change (orderly_after history) action
      rw [after_concat, changes.length_positions ((alive_after history).mpr before), ih before,
        List.count_append]

/-- A trigger gives the signal, and it is the first since a subscription before the drop. -/
theorem gives_iff {history since : List Action} (alive : .drop ∉ history) :
    ((after (history ++ .subscribe :: since)).isDropped = false ∧
        (after (history ++ .subscribe :: since)).triggered = false) ↔
      ¬ Given history ∧ .trigger ∉ since ∧ .drop ∉ since := by
  rw [alive_after, ← Bool.not_eq_true, triggered_after, given_iff_mem alive]
  constructor
  · rintro ⟨undropped, ungiven⟩
    rw [given_iff_mem undropped] at ungiven
    simp_all
  · rintro ⟨before, first, undropped⟩
    have whole : .drop ∉ history ++ .subscribe :: since := by simp [alive, undropped]
    rw [given_iff_mem whole]
    simp [whole, before, first]

/-- **Where a subscriber stands**, after what has happened since it subscribed. -/
theorem standsAt_after {history : List Action} (alive : .drop ∉ history) (since : List Action) :
    ∃ position,
      (after (history ++ .subscribe :: since)).StandsAt (history.count .subscribe) position ∧
        (position < (after (history ++ .subscribe :: since)).broadcast.sent ↔
          ¬ Given history ∧ Pending (history.count .subscribe) since) := by
  induction since using List.reverseRecOn with
  | nil =>
      have joins : after (history ++ [.subscribe]) = (after history).subscribe.1 := by
        rw [after_concat, perform, (alive_after history).mpr alive]
        rfl
      have stands := standsAt_subscribe (after history)
      refine ⟨(after history).broadcast.sent, ?_, ?_⟩
      · rw [joins, ← length_positions_after alive]
        exact stands
      · rw [joins]
        simp [subscribe, Broadcast.subscribe, Pending]
  | append_singleton since action ih =>
      obtain ⟨position, stands, ahead⟩ := ih
      have orderly := orderly_after (history ++ .subscribe :: since)
      obtain ⟨place, moved, still⟩ := (change orderly action).standsAt orderly stands
      have longer : history ++ .subscribe :: (since ++ [action]) =
          (history ++ .subscribe :: since) ++ [action] := by simp
      rw [longer, after_concat]
      refine ⟨place, moved, ?_⟩
      rw [still, ahead, gives_iff alive, pending_concat]
      tauto

/-! ## The signal -/

/-- **A shutdown signals once.** Every subscriber gets a number of its own. Its attempt to receive
finds the signal exactly if it subscribed before the signal was given and this is its first attempt
since then, be the shutdown dropped or not; any other attempt finds the shutdown empty, or closed
once it is dropped. Triggers after the first leave everything as it is, and nobody ever misses a
signal. -/
theorem signalled_once (history : List Action) :
    (.drop ∉ history →
      answer history .subscribe = .subscriber (history.count .subscribe) ∧
        ∀ since,
          (¬ Given history ∧ Pending (history.count .subscribe) since →
            answer (history ++ .subscribe :: since) (.receive (history.count .subscribe)) =
              .received .signal) ∧
          (Given history ∨ ¬ Pending (history.count .subscribe) since →
            answer (history ++ .subscribe :: since) (.receive (history.count .subscribe)) =
              .received (if .drop ∈ since then .closed else .empty))) ∧
    (Given history → after (history ++ [.trigger]) = after history) ∧
    ∀ subscriber count, answer history (.receive subscriber) ≠ .received (.missed count) := by
  have orderly := orderly_after history
  refine ⟨fun alive => ⟨?_, fun since => ?_⟩, fun given => ?_, fun subscriber count => ?_⟩
  · rw [answer, perform, (alive_after history).mpr alive, ← length_positions_after alive]
    rfl
  · obtain ⟨position, stands, ahead⟩ := standsAt_after alive since
    have finds : answer (history ++ .subscribe :: since) (.receive (history.count .subscribe)) =
        .received ((after (history ++ .subscribe :: since)).found position) := by
      rw [answer, (orderly_after _).perform_receive stands]
    rw [finds]
    constructor
    · intro pending
      rw [found, if_pos (ahead.mpr pending)]
    · intro other
      have nothing : ¬ position < (after (history ++ .subscribe :: since)).broadcast.sent := by
        rw [ahead]
        tauto
      rw [found, if_neg nothing]
      simp [isDropped_after, alive]
  · rw [after_concat]
    exact perform_trigger_of_triggered ((triggered_after history).mpr given)
  · rw [answer]
    cases place : (after history).broadcast.positions[subscriber]? with
    | none =>
        rw [perform_receive_of_unknown place]
        simp
    | some position =>
        rw [orderly.perform_receive place, found]
        split
        · simp
        · split <;> simp

/-- The signal given before the drop is found after it, and nothing is found from then on. -/
theorem signalled_once_before_drop :
    answer ([] ++ .subscribe :: [.trigger, .drop]) (.receive 0) = .received .signal ∧
      answer ([] ++ .subscribe :: [.trigger, .drop, .receive 0]) (.receive 0) =
        .received .closed ∧
      after ([.trigger] ++ [.trigger]) = after [.trigger] := by
  have fresh : ¬ Given [] := by simp [Given]
  obtain ⟨_, finds⟩ := (signalled_once []).1 List.not_mem_nil
  refine ⟨(finds _).1 ⟨fresh, [], [.drop], rfl, ?_⟩, (finds _).2 (.inr ?_), ?_⟩
  · simp
  · rw [show [Action.trigger, .drop, .receive 0] = [.trigger, .drop] ++ [.receive 0] from rfl,
      pending_concat]
    simp
  · exact (signalled_once [.trigger]).2.1 ⟨[], [], rfl, List.not_mem_nil⟩

end Shutdown

end HostRoster

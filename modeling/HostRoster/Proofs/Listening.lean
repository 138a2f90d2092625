import HostRoster.Lifecycle.Shutdown

/-!
# Who listens to a shutdown

A subscriber stands behind as many signals as had been sent when it subscribed, and stays there
until it receives. It is to stop once a signal has been sent beyond its place, or once the shutdown
has been dropped (`Shutdown.StandsAt.reaches_iff`). Subscriptions, triggers and drops never take
back that a subscriber is to stop (`Shutdown.Leads.reaches`). As only the first trigger sends, a
shutdown reaches those who stand at its beginning, and nobody else, once it has been triggered.
-/

set_option autoImplicit false

namespace HostRoster

namespace Shutdown

variable {shutdown : Shutdown} {subscriber position : Nat}

/-! ## Places -/

/-- A subscriber stands behind so many signals. -/
def StandsAt (shutdown : Shutdown) (subscriber position : Nat) : Prop :=
  shutdown.broadcast.positions[subscriber]? = some position

/-- A subscriber is to stop when a signal lies before it, or the shutdown is dropped. -/
theorem StandsAt.reaches_iff (stands : shutdown.StandsAt subscriber position) :
    shutdown.reaches subscriber = true ↔
      shutdown.isDropped = true ∨ position < shutdown.broadcast.sent := by
  have look : shutdown.reaches subscriber =
      ((shutdown.broadcast.receiveAt position).1 != .empty) := by
    rw [reaches, Broadcast.isReady, Broadcast.receive, stands]
  rw [look, Broadcast.receiveAt, isDropped]
  by_cases behind : shutdown.broadcast.sent ≤ position
  · cases closed : shutdown.broadcast.isClosed <;> simp [behind]
  · have before : position < shutdown.broadcast.sent := Nat.lt_of_not_le behind
    rw [if_neg behind]
    split <;> simp [before]

/-- Who has not subscribed finds a closed broadcast. -/
theorem reaches_of_unknown (unknown : shutdown.broadcast.positions[subscriber]? = none) :
    shutdown.reaches subscriber = true := by
  rw [reaches, Broadcast.isReady, Broadcast.receive, unknown]
  rfl

/-- Dropping a shutdown reaches everyone. -/
theorem reaches_drop (shutdown : Shutdown) (subscriber : Nat) :
    shutdown.drop.reaches subscriber = true := by
  cases place : shutdown.drop.broadcast.positions[subscriber]? with
  | none => exact reaches_of_unknown place
  | some position => exact (StandsAt.reaches_iff place).mpr (.inl rfl)

/-- A new subscriber stands behind all signals. -/
theorem standsAt_subscribe (shutdown : Shutdown) :
    shutdown.subscribe.1.StandsAt shutdown.subscribe.2 shutdown.broadcast.sent :=
  List.getElem?_concat_length

/-! ## Moving on -/

/-- One shutdown comes from another by subscriptions, triggers and drops: places stay, signals and
a drop are not taken back. -/
structure Leads (before after : Shutdown) : Prop where
  places : before.broadcast.positions <+: after.broadcast.positions
  sent : before.broadcast.sent ≤ after.broadcast.sent
  dropped : before.isDropped = true → after.isDropped = true

namespace Leads

theorem refl (shutdown : Shutdown) : Leads shutdown shutdown :=
  ⟨List.prefix_rfl, Nat.le_refl _, id⟩

theorem trans {first second third : Shutdown} (one : Leads first second)
    (two : Leads second third) : Leads first third :=
  ⟨one.places.trans two.places, Nat.le_trans one.sent two.sent, two.dropped ∘ one.dropped⟩

theorem subscribe (shutdown : Shutdown) : Leads shutdown shutdown.subscribe.1 :=
  ⟨List.prefix_append _ _, Nat.le_refl _, id⟩

theorem trigger (shutdown : Shutdown) : Leads shutdown shutdown.trigger := by
  unfold Shutdown.trigger
  split
  · exact refl shutdown
  · exact ⟨List.prefix_rfl, Nat.le_succ _, id⟩

theorem drop (shutdown : Shutdown) : Leads shutdown shutdown.drop :=
  ⟨List.prefix_rfl, Nat.le_refl _, fun _ => rfl⟩

variable {before after : Shutdown}

/-- A subscriber keeps its place. -/
theorem standsAt (leads : Leads before after) (stands : before.StandsAt subscriber position) :
    after.StandsAt subscriber position := by
  obtain ⟨later, same⟩ := leads.places
  obtain ⟨known, -⟩ := List.getElem?_eq_some_iff.mp stands
  rw [StandsAt, ← same, List.getElem?_append_left known]
  exact stands

/-- **Who is to stop still is later.** -/
theorem reaches (leads : Leads before after) (stands : before.StandsAt subscriber position)
    (reached : before.reaches subscriber = true) : after.reaches subscriber = true := by
  rw [(leads.standsAt stands).reaches_iff]
  rcases stands.reaches_iff.mp reached with dropped | ahead
  · exact .inl (leads.dropped dropped)
  · exact .inr (Nat.lt_of_lt_of_le ahead leads.sent)

end Leads

/-! ## One signal at most -/

/-- As many signals have been sent as a trigger sends. -/
def SendsOnce (shutdown : Shutdown) : Prop :=
  shutdown.broadcast.sent = shutdown.triggered.toNat

theorem sendsOnce_new : SendsOnce {} := rfl

theorem SendsOnce.subscribe (once : shutdown.SendsOnce) : shutdown.subscribe.1.SendsOnce := once

theorem SendsOnce.drop (once : shutdown.SendsOnce) : shutdown.drop.SendsOnce := once

@[simp] theorem triggered_trigger (shutdown : Shutdown) : shutdown.trigger.triggered = true := by
  unfold trigger
  split
  next already => exact already
  next => rfl

@[simp] theorem isDropped_trigger (shutdown : Shutdown) :
    shutdown.trigger.isDropped = shutdown.isDropped := by
  unfold trigger
  split <;> rfl

theorem SendsOnce.trigger (once : shutdown.SendsOnce) : shutdown.trigger.SendsOnce := by
  unfold SendsOnce Shutdown.trigger
  cases triggered : shutdown.triggered with
  | true => simpa [triggered, SendsOnce] using once
  | false =>
      have none : shutdown.broadcast.sent = 0 := by simpa [triggered, SendsOnce] using once
      simp [Broadcast.send, none]

/-- A shutdown reaches a subscriber that stands at its beginning once it has been triggered or
dropped. -/
theorem StandsAt.reaches_iff_of_first (stands : shutdown.StandsAt subscriber 0)
    (once : shutdown.SendsOnce) :
    shutdown.reaches subscriber = true ↔
      shutdown.isDropped = true ∨ shutdown.triggered = true := by
  rw [stands.reaches_iff, once]
  cases shutdown.triggered <;> simp

end Shutdown

end HostRoster

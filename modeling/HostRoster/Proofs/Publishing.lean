import HostRoster.Roster

/-!
# Publishing

An event either asks for a new host list or asks for none (`ResourceEvent.published?`). A roster
that is not frozen publishes what it is asked for, one event after the other, so that its list is a
fold over the events (`Roster.hosts_handleAll`). A frozen roster stays as it is
(`Roster.handle_of_frozen`).
-/

set_option autoImplicit false

namespace HostRoster

/-- The hosts that a payload asks for: those under the key of the host list, if the payload is a
resource that has the key. -/
def Document.hosts? (payload : Document) : Option (List String) :=
  match ConfigResource.fromPayload payload with
  | .error _ => none
  | .ok resource => (resource.get? hostsKey).map parseHosts

/-- The list that an event asks to publish. -/
def ResourceEvent.published? : ResourceEvent → Option (List String)
  | .added resource => resource.hosts?
  | .updated new _ => new.hosts?
  | .deleted _ => some []

/-- The list after events: each puts the list that it asks for in the place of the one before. -/
def publishedAfter (hosts : List String) (events : List ResourceEvent) : List String :=
  events.foldl (fun current event => event.published?.getD current) hosts

@[simp] theorem publishedAfter_nil (hosts : List String) : publishedAfter hosts [] = hosts := rfl

@[simp] theorem publishedAfter_cons (hosts : List String) (event : ResourceEvent)
    (events : List ResourceEvent) :
    publishedAfter hosts (event :: events) =
      publishedAfter (event.published?.getD hosts) events := rfl

theorem publishedAfter_append (hosts : List String) (earlier later : List ResourceEvent) :
    publishedAfter hosts (earlier ++ later) =
      publishedAfter (publishedAfter hosts earlier) later := by
  simp only [publishedAfter, List.foldl_append]

/-- Reading an update from a payload agrees with `Document.hosts?`. -/
theorem HostUpdate.ofPayload_hosts (payload : Document) :
    (match HostUpdate.ofPayload payload with
      | .ok update => some update.hosts
      | .error _ => none) = payload.hosts? := by
  unfold HostUpdate.ofPayload Document.hosts?
  cases ConfigResource.fromPayload payload with
  | error cause => rfl
  | ok resource => cases held : resource.get? hostsKey <;> simp only [held, Option.map]

namespace Roster

/-- No event changes whether a roster is frozen. -/
@[simp] theorem frozen_handle (roster : Roster) (event : ResourceEvent) :
    (roster.handle event).frozen = roster.frozen := by
  have updated : ∀ new old, (roster.onUpdated new old).frozen = roster.frozen := by
    intro new old
    unfold onUpdated
    split
    · rfl
    · split <;> rfl
  cases event with
  | added resource => exact updated resource none
  | updated new old => exact updated new old
  | deleted resource =>
      simp only [handle, onDeleted]
      split <;> rfl

/-- An update of a roster that is not frozen. -/
theorem hosts_onUpdated {roster : Roster} (thawed : roster.frozen = false) (new : Document)
    (old : Option Document) :
    (roster.onUpdated new old).hosts = new.hosts?.getD roster.hosts := by
  rw [← HostUpdate.ofPayload_hosts, onUpdated]
  cases HostUpdate.ofPayload new <;> simp [thawed]

/-- **A roster that is not frozen publishes what an event asks for, and keeps its list when the
event asks for none.** -/
theorem hosts_handle {roster : Roster} (thawed : roster.frozen = false) (event : ResourceEvent) :
    (roster.handle event).hosts = event.published?.getD roster.hosts := by
  cases event with
  | added resource => exact hosts_onUpdated thawed resource none
  | updated new old => exact hosts_onUpdated thawed new old
  | deleted resource => simp [handle, onDeleted, ResourceEvent.published?, thawed]

/-- A frozen roster follows no event. -/
theorem handle_of_frozen {roster : Roster} (frozen : roster.frozen = true)
    (event : ResourceEvent) : roster.handle event = roster := by
  cases event <;> simp [handle, onAdded, onUpdated, onDeleted, frozen]

/-- The list of a roster that is not frozen is a fold over the events. -/
theorem hosts_handleAll {roster : Roster} (thawed : roster.frozen = false)
    (events : List ResourceEvent) :
    (roster.handleAll events).hosts = publishedAfter roster.hosts events := by
  induction events generalizing roster with
  | nil => rfl
  | cons event events ih =>
      have next : (roster.handle event).frozen = false := by rw [frozen_handle, thawed]
      rw [publishedAfter_cons, ← hosts_handle thawed event]
      exact ih next

end Roster

end HostRoster

import HostRoster.Proofs.ChangeLog
import Mathlib.Data.List.Induction

/-!
# The host list and the map that carries it

Of the configuration maps of a namespace one carries the host list (`SoleCarrier`). A roster that
follows the reports of a tracker publishes what is written in the carrier while the tracker knows
it, and the empty list while it does not (`Tracker.hosts_in_step`).

**Deletions of other maps.** A deletion clears the list, whatever is deleted. When a map other than
the carrier is deleted, the list is empty until the carrier is handed over again
(`clearedSince`), although the tracker knows the carrier all the time
(`Tracker.deletion_of_another_clears_hosts`).

The argument looks at reports only: a consumer of them has the list and a view of what there is
(`View.shown_replay`). That the view is what the tracker knows is the matter of its change log.
-/

set_option autoImplicit false

namespace HostRoster

/-! ## The order of a watcher -/

/-- Where a watcher is in the order of its events. -/
inductive WatcherPhase where
  /-- Nothing has come. -/
  | fresh
  /-- A relist is under way. -/
  | listing
  /-- The relist is complete, and changes come. -/
  | following
  deriving DecidableEq, Repr

namespace WatcherPhase

/-- Where a watcher is after an event that may come: a relist begins at any time, objects are
listed up to its end, and changes come after it. -/
def next? : WatcherPhase → WatcherEvent → Option WatcherPhase
  | _, .init => some .listing
  | .listing, .initApply _ => some .listing
  | .listing, .initDone => some .following
  | .following, .apply _ | .following, .delete _ => some .following
  | _, _ => none

/-- Where a watcher is after events, if they come in its order. -/
def after? (events : List WatcherEvent) : Option WatcherPhase := events.foldlM next? .fresh

end WatcherPhase

/-! ## The carrier -/

/-- The object that an event is about. -/
def WatcherEvent.object? : WatcherEvent → Option ConfigMap
  | .initApply resource | .apply resource | .delete resource => some resource
  | .init | .initDone => none

/-- Of the objects that events are about, only those with a name ever have a host list, and they
have one whenever they are handed over. -/
structure SoleCarrier (name : String) (events : List WatcherEvent) : Prop where
  sole : ∀ object ∈ events.filterMap WatcherEvent.object?,
    object.writtenHosts?.isSome = true → object.objectName = name
  carries : ∀ object ∈ events.filterMap WatcherEvent.delivered?,
    object.objectName = name → object.writtenHosts?.isSome = true

/-- An event hands over what it is about. -/
theorem WatcherEvent.object?_of_delivered? {event : WatcherEvent} {object : ConfigMap}
    (delivered : event.delivered? = some object) : event.object? = some object := by
  cases event <;> first | exact delivered | cases delivered

/-- What is handed over has a host list just when it has the name of the carrier. -/
theorem SoleCarrier.isSome_iff {name : String} {events : List WatcherEvent}
    (sole : SoleCarrier name events) {event : WatcherEvent} (member : event ∈ events)
    {object : ConfigMap} (delivered : event.delivered? = some object) :
    object.writtenHosts?.isSome = true ↔ object.objectName = name :=
  ⟨sole.sole object (List.mem_filterMap.mpr ⟨event, member, event.object?_of_delivered? delivered⟩),
    sole.carries object (List.mem_filterMap.mpr ⟨event, member, delivered⟩)⟩

/-! ## Reports about the carrier and about others -/

/-- Whether the deletion of something else was reported after the last report that hands over the
resource with a name. -/
def clearedSince (name : String) (reports : List ResourceEvent) : Bool :=
  reports.foldl (fun cleared report => match report with
    | .added payload | .updated payload _ => cleared && decide (payload.resourceName ≠ name)
    | .deleted payload => cleared || decide (payload.map Document.resourceName ≠ some name)) false

theorem clearedSince_concat (name : String) (reports : List ResourceEvent)
    (report : ResourceEvent) :
    clearedSince name (reports ++ [report]) = match report with
      | .added payload | .updated payload _ =>
        clearedSince name reports && decide (payload.resourceName ≠ name)
      | .deleted payload =>
        clearedSince name reports || decide (payload.map Document.resourceName ≠ some name) := by
  rw [clearedSince, List.foldl_append]
  cases report <;> rfl

/-- Whether a report hands over a configuration map that has a host list just when it has a
name. -/
def ResourceEvent.CarriedBy (name : String) : ResourceEvent → Prop
  | .added payload | .updated payload _ => ∃ resource : ConfigMap, payload = resource.encode ∧
      (resource.writtenHosts?.isSome = true ↔ resource.objectName = name)
  | .deleted _ => True

/-- A host list that is empty when nothing is held of the carrier, or when it was cleared, and
otherwise the one that is written in the payload that is held. -/
structure Shown (held : Option Document) (cleared : Bool) (hosts : List String) : Prop where
  absent : held = none → hosts = []
  present : ∀ payload, held = some payload →
    ∃ text, payload.writtenHosts? = some text ∧ hosts = if cleared then [] else parseHosts text

/-- A map that is handed over shows the list that is written in it, and any other leaves the list
as it is. -/
theorem Shown.handedOver {view : View} {name : String} {cleared : Bool} {hosts : List String}
    (shown : Shown (view name) cleared hosts) {resource : ConfigMap}
    (carried : resource.writtenHosts?.isSome = true ↔ resource.objectName = name) :
    Shown (Function.update view resource.objectName (some resource.encode) name)
      (cleared && decide (resource.objectName ≠ name)) (resource.encode.hosts?.getD hosts) := by
  rw [ConfigMap.hosts?_encode]
  by_cases same : resource.objectName = name
  · obtain ⟨text, written⟩ := Option.isSome_iff_exists.mp (carried.mpr same)
    rw [same, Function.update_self]
    refine ⟨fun absent => (Option.some_ne_none _ absent).elim, fun payload held => ?_⟩
    obtain rfl := Option.some.inj held
    exact ⟨text, by rw [resource.writtenHosts?_encode, written], by simp [written]⟩
  · -- Another map has no list, so that the payload asks for nothing.
    have unwritten : resource.writtenHosts? = none := by
      rw [← Option.not_isSome_iff_eq_none]
      exact fun written => same (carried.mp written)
    rw [Function.update_of_ne (Ne.symm same), unwritten]
    simpa [same] using shown

/-- A deletion shows the empty list, whatever is deleted. -/
theorem Shown.deleted {view : View} {name : String} {cleared : Bool} {hosts : List String}
    (shown : Shown (view name) cleared hosts) (payload : Option Document) :
    Shown (view.record (.deleted payload) name)
      (cleared || decide (payload.map Document.resourceName ≠ some name)) [] := by
  refine ⟨fun _ => rfl, fun other held => ?_⟩
  have others : payload.map Document.resourceName ≠ some name ∧ view name = some other := by
    cases payload with
    | none => exact ⟨nofun, held⟩
    | some gone =>
        rw [View.record, Function.update_apply] at held
        split at held
        next => cases held
        next differs => exact ⟨fun same => differs (Option.some.inj same).symm, held⟩
  -- That the carrier has a text is known from before; which list was shown does not matter.
  obtain ⟨text, written, -⟩ := shown.present other others.2
  exact ⟨text, written, by simp [others.1]⟩

/-- **Reports about one carrier and others show the list of the carrier**, as long as nothing else
is deleted. -/
theorem View.shown_replay {name : String} {reports : List ResourceEvent}
    (carried : ∀ report ∈ reports, report.CarriedBy name) :
    Shown (View.empty.replay reports name) (clearedSince name reports)
      (publishedAfter [] reports) := by
  induction reports using List.reverseRecOn with
  | nil => exact ⟨fun _ => rfl, nofun⟩
  | append_singleton reports report ih =>
      have shown := ih fun other member => carried other (List.mem_append_left _ member)
      have last : report.CarriedBy name := carried report (by simp)
      rw [View.replay_append, publishedAfter_append, clearedSince_concat]
      -- The view, the list and the mark each take one step, by the last report alone.
      cases report with
      | added payload | updated payload old =>
          obtain ⟨resource, rfl, carries⟩ := last
          have step := shown.handedOver carries
          rw [← resource.resourceName_encode] at step
          exact step
      | deleted payload => exact shown.deleted payload

namespace Tracker

/-! ## Runs -/

/-- What a tracker reports was handed over by the move, or is a deletion. -/
theorem carriedBy_reports {tracker : Tracker} (sound : tracker.Sound) {move : Move} {name : String}
    (carried : ∀ object, move.event.delivered? = some object →
      (object.writtenHosts?.isSome = true ↔ object.objectName = name))
    {report : ResourceEvent} (reported : report ∈ tracker.reports move) :
    report.CarriedBy name := by
  cases change sound move with
  | stored resource delivered knows reports =>
      rw [reports, List.mem_singleton, upsertReport] at reported
      split at reported <;> subst reported <;>
        exact ⟨resource, rfl, carried resource delivered⟩
  | removed resource deleted knows reports =>
      rw [reports, List.mem_singleton] at reported
      subst reported
      trivial
  | closed listed gone done listing knows missing reports =>
      rw [reports] at reported
      obtain ⟨entry, -, rfl⟩ := List.mem_map.mp reported
      trivial
  | idle quiet knows reports =>
      rw [reports] at reported
      cases reported

/-- What a tracker reports was handed over by one of the moves, or is a deletion. -/
theorem carriedBy_log {tracker : Tracker} (sound : tracker.Sound) {moves : List Move}
    {name : String}
    (carried : ∀ move ∈ moves, ∀ object, move.event.delivered? = some object →
      (object.writtenHosts?.isSome = true ↔ object.objectName = name)) :
    ∀ report ∈ tracker.log moves, report.CarriedBy name := by
  induction moves generalizing tracker with
  | nil => exact fun _ member => nomatch member
  | cons move moves ih =>
      intro report member
      rcases List.mem_append.mp member with now | later
      · exact carriedBy_reports sound (carried move List.mem_cons_self) now
      · exact ih (sound.next move)
          (fun other member => carried other (List.mem_cons_of_mem _ member)) report later

/-- The host list of a roster that follows what a tracker reports at moves. -/
def hostsAfter (moves : List Move) : List String :=
  (Roster.handleAll {} (Tracker.log {} moves)).hosts

/-- **The host list is in step with the map that carries it, but for deletions of other maps.** At
every moment, whatever the order of events: while the tracker does not know the carrier the list is
empty; and while it does, the list is the one that is written in the payload it knows, unless the
deletion of another map was reported since the carrier was handed over, when the list is empty. -/
theorem hosts_in_step (moves : List Move) (name : String)
    (sole : SoleCarrier name (moves.map Move.event)) :
    ((Tracker.after {} moves).find? name = none → hostsAfter moves = []) ∧
      ∀ payload, (Tracker.after {} moves).find? name = some payload →
        ∃ text, payload.writtenHosts? = some text ∧
          hostsAfter moves =
            if clearedSince name (Tracker.log {} moves) then [] else parseHosts text := by
  have carried := carriedBy_log sound_empty fun move member object delivered =>
    sole.isSome_iff (List.mem_map_of_mem member) delivered
  have view : View.empty.replay (Tracker.log {} moves) = (Tracker.after {} moves).find? :=
    replay_log sound_empty moves
  have hosts : hostsAfter moves = publishedAfter [] (Tracker.log {} moves) :=
    Roster.hosts_handleAll rfl _
  have shown := View.shown_replay carried
  rw [view, ← hosts] at shown
  exact ⟨shown.absent, shown.present⟩

/-- A relist of a carrier and of another map, after which the other map is deleted. -/
def deletionOfAnother : List Move :=
  let carrier : ConfigMap :=
    { data := some [(hostsKey, "a,b")], metadata := { name := some "hosts" } }
  let other : ConfigMap := { metadata := { name := some "other" } }
  [.init, .initApply carrier, .initApply other, .initDone, .delete other].map (⟨·, .plain⟩)

/-- After the deletion of another map the carrier is still known, and its list is not shown. -/
theorem hosts_in_step_at_deletion_of_another :
    SoleCarrier "hosts" (deletionOfAnother.map Move.event) ∧
      ∃ payload text, (Tracker.after {} deletionOfAnother).find? "hosts" = some payload ∧
        payload.writtenHosts? = some text ∧ hostsAfter deletionOfAnother = [] := by
  have sole : SoleCarrier "hosts" (deletionOfAnother.map Move.event) := ⟨by decide, by decide⟩
  obtain ⟨payload, known⟩ : ∃ payload,
      (Tracker.after {} deletionOfAnother).find? "hosts" = some payload := ⟨_, rfl⟩
  obtain ⟨text, written, hosts⟩ := (hosts_in_step deletionOfAnother "hosts" sole).2 payload known
  have cleared : clearedSince "hosts" (Tracker.log {} deletionOfAnother) = true := by decide
  rw [cleared, if_pos rfl] at hosts
  exact ⟨sole, payload, text, known, written, hosts⟩

/-- **The list of the carrier is not always shown while the carrier is known**, even when the events
come in the order of a watcher, no relist is under way, and no other map ever has a list: the
deletion of another map clears it. -/
theorem deletion_of_another_clears_hosts :
    ¬ ∀ (moves : List Move) (name : String),
      WatcherPhase.after? (moves.map Move.event) = some .following →
      SoleCarrier name (moves.map Move.event) →
        ((Tracker.after {} moves).find? name = none → hostsAfter moves = []) ∧
          ∀ payload, (Tracker.after {} moves).find? name = some payload →
            ∃ text, payload.writtenHosts? = some text ∧ hostsAfter moves = parseHosts text := by
  intro always
  have sole : SoleCarrier "hosts" (deletionOfAnother.map Move.event) := ⟨by decide, by decide⟩
  obtain ⟨text, written, shown⟩ := (always deletionOfAnother "hosts" rfl sole).2 _ rfl
  obtain rfl : "a,b" = text := Option.some.inj written
  have cleared : hostsAfter deletionOfAnother = [] := by decide
  rw [cleared] at shown
  exact absurd shown (by decide)

end Tracker

end HostRoster

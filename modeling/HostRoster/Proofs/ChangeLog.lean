import HostRoster.Proofs.Tracking
import Mathlib.Logic.Function.Basic

/-!
# The reports of a tracker are a change log

A consumer who keeps the last payload under each name, and knows nothing but the reports of a
tracker, has a view of what there is. After every move the view is what the tracker knows
(`Tracker.replay_log`), and each report fits the view at its moment: what is added was not there,
what is updated was there as the report says, and so was what vanishes in a relist
(`Tracker.fits_reports`). Only a deletion that the watcher announces may be one of a name that is
not there.
-/

set_option autoImplicit false

namespace HostRoster

/-- What a consumer holds: the last payload under each name. -/
abbrev View := String → Option Document

namespace View

/-- The view that holds nothing. -/
def empty : View := fun _ => none

/-- Takes a report up, under the name of its payload. -/
def record (view : View) : ResourceEvent → View
  | .added payload | .updated payload _ => Function.update view payload.resourceName (some payload)
  | .deleted (some payload) => Function.update view payload.resourceName none
  | .deleted none => view

/-- Takes reports up in their order. -/
def replay (view : View) (reports : List ResourceEvent) : View := reports.foldl record view

/-- What a report says about the moment before it agrees with the view: a name that is added is
absent, and what is updated or deleted is held as the report has it. -/
def Fits (view : View) : ResourceEvent → Prop
  | .added payload => view payload.resourceName = none
  | .updated payload old => ∃ held, old = some held ∧ view payload.resourceName = some held
  | .deleted payload => ∃ held, payload = some held ∧ view held.resourceName = some held

/-- Each of the reports fits the view at its moment. -/
def FitsAll (view : View) : List ResourceEvent → Prop
  | [] => True
  | report :: reports => view.Fits report ∧ (view.record report).FitsAll reports

theorem replay_append (view : View) (earlier later : List ResourceEvent) :
    view.replay (earlier ++ later) = (view.replay earlier).replay later :=
  List.foldl_append

/-! ## Entries that vanish -/

section Gone

variable {view : View} {gone : List (String × Document)}

/-- Recording the deletion of an entry leaves out its name. -/
theorem record_deleted {entry : String × Document} (named : entry.2.resourceName = entry.1) :
    view.record (.deleted (some entry.2)) = Function.update view entry.1 none := by
  rw [record, named]

/-- Recording the deletion of entries leaves out their names. -/
theorem replay_gone (named : ∀ entry ∈ gone, entry.2.resourceName = entry.1) (name : String) :
    view.replay (gone.map fun entry => .deleted (some entry.2)) name =
      if name ∈ gone.map Prod.fst then none else view name := by
  induction gone generalizing view with
  | nil => rfl
  | cons entry gone ih =>
      have rest := @ih (view.record (.deleted (some entry.2)))
        fun other member => named other (List.mem_cons_of_mem _ member)
      rw [List.map_cons, replay, List.foldl_cons]
      refine rest.trans ?_
      rw [record_deleted (named entry List.mem_cons_self), Function.update_apply]
      by_cases same : name = entry.1
      · simp [same]
      · simp only [List.map_cons, List.mem_cons, same, if_false, false_or]

/-- The deletion of entries that are held fits, each at its moment. -/
theorem fitsAll_gone (named : ∀ entry ∈ gone, entry.2.resourceName = entry.1)
    (distinct : (gone.map Prod.fst).Nodup) (held : ∀ entry ∈ gone, view entry.1 = some entry.2) :
    view.FitsAll (gone.map fun entry => .deleted (some entry.2)) := by
  induction gone generalizing view with
  | nil => trivial
  | cons entry gone ih =>
      rw [List.map_cons, List.nodup_cons] at distinct
      have here := named entry List.mem_cons_self
      refine ⟨⟨entry.2, rfl, here ▸ held entry List.mem_cons_self⟩, ?_⟩
      refine ih (fun other member => named other (List.mem_cons_of_mem _ member)) distinct.2 ?_
      -- The names differ, so an entry that is left is still held.
      intro other member
      have differs : other.1 ≠ entry.1 := fun same =>
        distinct.1 (same ▸ List.mem_map_of_mem member)
      rw [record_deleted here, Function.update_of_ne differs]
      exact held other (List.mem_cons_of_mem _ member)

end Gone

end View

namespace Tracker

/-! ## One move -/

section Move

variable {tracker : Tracker}

/-- Recording what is reported about an object puts its payload under its name. -/
theorem record_upsertReport (view : View) (resource : ConfigMap) :
    view.record (tracker.upsertReport resource) =
      Function.update view resource.objectName (some resource.encode) := by
  unfold upsertReport
  split <;> rw [View.record, ConfigMap.resourceName_encode]

/-- The report about an object fits what is known. -/
theorem fits_upsertReport (resource : ConfigMap) :
    View.Fits tracker.find? (tracker.upsertReport resource) := by
  unfold upsertReport
  split
  next previous found =>
    refine ⟨previous, rfl, ?_⟩
    rw [ConfigMap.resourceName_encode, found]
  next absent =>
    show tracker.find? _ = none
    rw [ConfigMap.resourceName_encode, absent]

/-- **A view that holds what is known still does after a move.** -/
theorem replay_reports (sound : tracker.Sound) (move : Move) :
    View.replay tracker.find? (tracker.reports move) = (tracker.next move).find? := by
  funext name
  have after : (tracker.next move).find? name = (tracker.next move).known.lookup name := rfl
  rw [after]
  cases change sound move with
  | stored resource delivered knows reported =>
      rw [knows, reported, lookup_insertKnown]
      show View.record tracker.find? (tracker.upsertReport resource) name = _
      rw [record_upsertReport, Function.update_apply]
      rfl
  | removed resource deleted knows reported =>
      rw [knows, reported, lookup_eraseKnown]
      show View.record tracker.find? (.deleted (some resource.encode)) name = _
      rw [View.record, ConfigMap.resourceName_encode, Function.update_apply]
      rfl
  | closed listed gone done listing knows missing reported =>
      obtain ⟨named, distinct, held⟩ := gone_known sound missing
      rw [knows, reported, View.replay_gone named, lookup_filter fun key => decide (key ∈ listed)]
      by_cases seen : name ∈ listed
      · have kept : name ∉ gone.map Prod.fst := by
          rw [(missing.map Prod.fst).mem_iff, List.mem_map]
          rintro ⟨entry, member, rfl⟩
          exact absurd seen (by simpa using (List.mem_filter.mp member).2)
        simp only [if_neg kept, decide_eq_true seen, if_true]
        rfl
      · simp only [decide_eq_false seen, Bool.false_eq_true, if_false]
        split
        next => rfl
        next kept =>
          rw [find?, lookup_eq_none_iff_not_mem]
          rintro inside
          obtain ⟨entry, member, rfl⟩ := List.mem_map.mp inside
          exact kept ((missing.map Prod.fst).mem_iff.mpr (List.mem_map_of_mem
            (List.mem_filter.mpr ⟨member, decide_eq_true seen⟩)))
  | idle quiet knows reported =>
      rw [knows, reported]
      rfl

/-- **The reports of a move fit what is known, but for a deletion that the watcher announces.** -/
theorem fits_reports (sound : tracker.Sound) (move : Move)
    (unannounced : ∀ resource, move.event ≠ .delete resource) :
    View.FitsAll tracker.find? (tracker.reports move) := by
  cases change sound move with
  | stored resource delivered knows reported =>
      rw [reported]
      exact ⟨fits_upsertReport resource, trivial⟩
  | removed resource deleted => exact absurd deleted (unannounced resource)
  | closed listed gone done listing knows missing reported =>
      obtain ⟨named, distinct, held⟩ := gone_known sound missing
      rw [reported]
      exact View.fitsAll_gone named distinct held
  | idle quiet knows reported =>
      rw [reported]
      trivial

end Move

/-! ## Runs -/

/-- A view that holds what is known still does after moves. -/
theorem replay_log {tracker : Tracker} (sound : tracker.Sound) (moves : List Move) :
    View.replay tracker.find? (tracker.log moves) = (tracker.after moves).find? := by
  induction moves generalizing tracker with
  | nil => rfl
  | cons move moves ih =>
      rw [log, View.replay_append, replay_reports sound, ih (sound.next move), after_cons]

/-- **The reports of a tracker are a change log of what it knows.** After any moves, in whatever
order the events come, the view of the reports is what the tracker knows, each name once. At the
next move each report fits the view at its moment; the only exception is a deletion that the
watcher announces, which is reported with the payload that the watcher gave. -/
theorem log_is_change_log (earlier : List Move) (move : Move) :
    View.empty.replay (Tracker.log {} earlier) = (Tracker.after {} earlier).find? ∧
      ((Tracker.after {} earlier).known.map Prod.fst).Nodup ∧
      match move.event with
      | .delete resource =>
        (Tracker.after {} earlier).reports move = [.deleted (some resource.encode)]
      | .init | .initApply _ | .initDone | .apply _ =>
        (View.empty.replay (Tracker.log {} earlier)).FitsAll
          ((Tracker.after {} earlier).reports move) := by
  have sound := sound_after earlier
  have view : View.empty.replay (Tracker.log {} earlier) = (Tracker.after {} earlier).find? :=
    replay_log sound_empty earlier
  refine ⟨view, sound.distinct, ?_⟩
  rw [view]
  obtain ⟨event, arrangement⟩ := move
  cases event with
  | delete resource => rfl
  | init | initApply | initDone | apply =>
      exact fits_reports sound _ fun resource announced => by cases announced

end Tracker

end HostRoster

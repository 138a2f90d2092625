import HostRoster.Cluster.Tracker
import HostRoster.Proofs.Payload
import Mathlib.Data.List.Nodup
import Mathlib.Data.List.Perm.Basic

/-!
# What a tracker does

A tracker follows the events of a watcher one by one. The names that vanish in a relist are
reported in an order that may be another one each time, so that an event comes with an arrangement
of names (`Tracker.Move`); `Tracker.after` and `Tracker.log` are the tracker after moves and what
it has reported at them.

A sound tracker knows each name once, with a payload of this name. `Tracker.change` says all that a
move can do to a sound tracker: it stores a payload, takes a name away, closes a relist, or does
nothing. Every tracker that is reached from the empty one is sound (`Tracker.sound_after`).
-/

set_option autoImplicit false

namespace HostRoster

/-- The object that an event of the watcher hands over, listed or changed. -/
def WatcherEvent.delivered? : WatcherEvent → Option ConfigMap
  | .initApply resource | .apply resource => some resource
  | .init | .initDone | .delete _ => none

/-- An order for names, which may depend on the names. -/
structure Arrangement where
  /-- The names in this order. -/
  order : List String → List String
  /-- No name is lost, added or repeated. -/
  perm : ∀ names, (order names).Perm names

namespace Arrangement

/-- The names as they stand. -/
def plain : Arrangement := ⟨id, fun names => .refl names⟩

/-- The names in the order of their characters, as a source of the program reports them. -/
def sorted : Arrangement := ⟨Tracker.sortNames, fun names => List.mergeSort_perm names _⟩

end Arrangement

namespace Tracker

/-- An event of the watcher, with the order of the names that vanish at it. -/
structure Move where
  /-- What the watcher says. -/
  event : WatcherEvent
  /-- The order in which names that vanish are reported. -/
  arrangement : Arrangement

/-- The tracker after a move. -/
def next (tracker : Tracker) (move : Move) : Tracker :=
  (tracker.apply move.arrangement.order move.event).1

/-- What the tracker reports at a move. -/
def reports (tracker : Tracker) (move : Move) : List ResourceEvent :=
  Output.events (tracker.apply move.arrangement.order move.event).2

/-- The tracker after moves. -/
def after (tracker : Tracker) (moves : List Move) : Tracker := moves.foldl next tracker

/-- What the tracker reports at moves. -/
def log (tracker : Tracker) : List Move → List ResourceEvent
  | [] => []
  | move :: moves => tracker.reports move ++ (tracker.next move).log moves

@[simp] theorem after_nil (tracker : Tracker) : tracker.after [] = tracker := rfl

@[simp] theorem after_cons (tracker : Tracker) (move : Move) (moves : List Move) :
    tracker.after (move :: moves) = (tracker.next move).after moves := rfl

theorem after_append (tracker : Tracker) (earlier later : List Move) :
    tracker.after (earlier ++ later) = (tracker.after earlier).after later :=
  List.foldl_append

/-! ## Payloads under names -/

section Known

variable {name key : String} {payload : Document} {known : List (String × Document)}

theorem lookup_insertKnown :
    (insertKnown name payload known).lookup key =
      if key = name then some payload else known.lookup key := by
  induction known with
  | nil =>
      by_cases same : key = name
      · simp [insertKnown, same]
      · simp [insertKnown, List.lookup_cons, beq_false_of_ne same, same]
  | cons entry known ih =>
      obtain ⟨other, held⟩ := entry
      by_cases found : other = name
      · subst found
        by_cases same : key = other
        · simp [insertKnown, same]
        · simp [insertKnown, List.lookup_cons, beq_false_of_ne same, same]
      · by_cases here : key = other
        · subst here
          simp [insertKnown, found]
        · simp [insertKnown, found, List.lookup_cons, beq_false_of_ne here, ih]

/-- What stands under a name after only some names were kept. -/
theorem lookup_filter (kept : String → Bool) :
    (known.filter fun entry => kept entry.1).lookup key =
      if kept key then known.lookup key else none := by
  induction known with
  | nil => simp
  | cons entry known ih =>
      obtain ⟨other, held⟩ := entry
      by_cases here : key = other
      · subst here
        cases stays : kept key <;> simp [stays, ih]
      · cases stays : kept other <;>
          simp [stays, List.lookup_cons, beq_false_of_ne here, ih]

theorem lookup_eraseKnown :
    (eraseKnown name known).lookup key = if key = name then none else known.lookup key := by
  rw [eraseKnown, lookup_filter fun other => decide (other ≠ name)]
  by_cases same : key = name <;> simp [same]

/-- A payload that is put under a name takes the place of the one before or comes last. -/
theorem keys_insertKnown :
    (insertKnown name payload known).map Prod.fst =
      if name ∈ known.map Prod.fst then known.map Prod.fst else known.map Prod.fst ++ [name] := by
  induction known with
  | nil => rfl
  | cons entry known ih =>
      obtain ⟨other, held⟩ := entry
      by_cases found : other = name
      · simp [insertKnown, found]
      · rw [insertKnown, if_neg found, List.map_cons, ih]
        by_cases inside : name ∈ known.map Prod.fst
        · simp only [List.map_cons, List.mem_cons, inside, or_true, if_true]
        · simp [inside, Ne.symm found]

theorem mem_insertKnown {entry : String × Document}
    (member : entry ∈ insertKnown name payload known) :
    entry = (name, payload) ∨ entry ∈ known := by
  induction known with
  | nil => exact .inl (List.mem_singleton.mp member)
  | cons first known ih =>
      obtain ⟨other, held⟩ := first
      by_cases found : other = name
      · rw [insertKnown, if_pos found, List.mem_cons] at member
        exact member.imp_right (List.mem_cons_of_mem _)
      · rw [insertKnown, if_neg found, List.mem_cons] at member
        rcases member with rfl | member
        · exact .inr List.mem_cons_self
        · exact (ih member).imp_right (List.mem_cons_of_mem _)

/-- When each name is known once, what is known under a name is found there. -/
theorem lookup_eq_some_iff_mem (distinct : (known.map Prod.fst).Nodup) :
    known.lookup name = some payload ↔ (name, payload) ∈ known := by
  induction known with
  | nil => simp
  | cons entry known ih =>
      obtain ⟨other, held⟩ := entry
      rw [List.map_cons, List.nodup_cons] at distinct
      by_cases here : name = other
      · subst here
        have absent : (name, payload) ∉ known := fun member =>
          distinct.1 (List.mem_map.mpr ⟨_, member, rfl⟩)
        simp [absent, eq_comm]
      · simp [List.lookup_cons, beq_false_of_ne here, ih distinct.2, here]

theorem lookup_eq_none_iff_not_mem :
    known.lookup name = none ↔ name ∉ known.map Prod.fst := by
  simp only [List.lookup_eq_none_iff, List.mem_map, not_exists, not_and, bne_iff_ne, ne_eq]
  exact ⟨fun absent entry member same => absent entry member same.symm,
    fun absent entry member same => absent entry member same.symm⟩

end Known

/-! ## Sound trackers -/

/-- A tracker that knows each name once, with a payload of this name. -/
structure Sound (tracker : Tracker) : Prop where
  distinct : (tracker.known.map Prod.fst).Nodup
  named : ∀ entry ∈ tracker.known, entry.2.resourceName = entry.1

/-- The empty tracker is sound. -/
theorem sound_empty : Sound {} := ⟨List.nodup_nil, by simp⟩

/-- What is reported about an object that is handed over. -/
def upsertReport (tracker : Tracker) (resource : ConfigMap) : ResourceEvent :=
  match tracker.find? resource.objectName with
  | some previous => .updated resource.encode (some previous)
  | none => .added resource.encode

/-- All that an event can do: what is known after it, and what is reported. -/
inductive Change (tracker : Tracker) (event : WatcherEvent) (known : List (String × Document))
    (reports : List ResourceEvent) : Prop where
  | stored (resource : ConfigMap) (delivered : event.delivered? = some resource)
      (knows : known = insertKnown resource.objectName resource.encode tracker.known)
      (reported : reports = [tracker.upsertReport resource])
  | removed (resource : ConfigMap) (deleted : event = .delete resource)
      (knows : known = eraseKnown resource.objectName tracker.known)
      (reported : reports = [.deleted (some resource.encode)])
  | closed (listed : List String) (gone : List (String × Document)) (done : event = .initDone)
      (listing : tracker.relisting = some listed)
      (knows : known = tracker.known.filter fun entry => decide (entry.1 ∈ listed))
      (missing : gone.Perm (tracker.known.filter fun entry => decide (entry.1 ∉ listed)))
      (reported : reports = gone.map fun entry => .deleted (some entry.2))
  | idle (quiet : event = .init ∨ event = .initDone ∧ tracker.relisting = none)
      (knows : known = tracker.known) (reported : reports = [])

/-- Names that are taken away are no longer known, and the others are. -/
theorem known_removeAll (tracker : Tracker) (names : List String) :
    (tracker.removeAll names).1.known =
      tracker.known.filter fun entry => decide (entry.1 ∉ names) := by
  induction names generalizing tracker with
  | nil => simp [removeAll]
  | cons name names ih =>
      rw [removeAll, ih, eraseKnown, List.filter_filter]
      refine List.filter_congr fun entry _ => ?_
      simp [not_or, Bool.and_comm]

/-- A name that is taken away is reported with what was known, whatever was taken away before. -/
theorem events_removeAll (tracker : Tracker) {names : List String} (distinct : names.Nodup) :
    Output.events (tracker.removeAll names).2 =
      names.map fun name => .deleted (tracker.find? name) := by
  induction names generalizing tracker with
  | nil => rfl
  | cons name names ih =>
      rw [List.nodup_cons] at distinct
      -- The names differ, so what is known under the others is still there when their turn comes.
      have others : ∀ other ∈ names,
          ({ tracker with known := eraseKnown name tracker.known } : Tracker).find? other =
            tracker.find? other := by
        intro other member
        have differs : other ≠ name := fun same => distinct.1 (same ▸ member)
        rw [find?, lookup_eraseKnown, if_neg differs, find?]
      have rest := ih { tracker with known := eraseKnown name tracker.known } distinct.2
      have head : Output.events (tracker.removeAll (name :: names)).2 =
          .deleted (tracker.find? name) :: Output.events
            (Tracker.removeAll { tracker with known := eraseKnown name tracker.known } names).2 :=
        rfl
      rw [head, rest, List.map_cons]
      congr 1
      exact List.map_congr_left fun other member => by rw [others other member]

/-- Names that vanish are taken from what is known and was not listed, each once, in any order. -/
theorem exists_gone {tracker : Tracker} {listed names : List String}
    (order : names.Perm (tracker.vanished listed)) :
    ∃ gone : List (String × Document), names = gone.map Prod.fst ∧
      gone.Perm (tracker.known.filter fun entry => decide (entry.1 ∉ listed)) := by
  have vanished : tracker.vanished listed =
      (tracker.known.filter fun entry => decide (entry.1 ∉ listed)).map Prod.fst := by
    rw [Tracker.vanished, List.filter_map]
    rfl
  have related : Relation.Comp (· = List.map Prod.fst ·) List.Perm names
      (tracker.known.filter fun entry => decide (entry.1 ∉ listed)) := by
    rw [List.eq_map_comp_perm]
    show names.Perm _
    rw [← vanished]
    exact order
  exact related

/-- What vanishes in a relist is known, each name once and under the name of its payload. -/
theorem gone_known {tracker : Tracker} (sound : tracker.Sound) {listed : List String}
    {gone : List (String × Document)}
    (missing : gone.Perm (tracker.known.filter fun entry => decide (entry.1 ∉ listed))) :
    (∀ entry ∈ gone, entry.2.resourceName = entry.1) ∧ (gone.map Prod.fst).Nodup ∧
      ∀ entry ∈ gone, tracker.find? entry.1 = some entry.2 := by
  have known : ∀ entry ∈ gone, entry ∈ tracker.known := fun entry member =>
    List.mem_of_mem_filter (missing.mem_iff.mp member)
  refine ⟨fun entry member => sound.named entry (known entry member), ?_, fun entry member =>
    (lookup_eq_some_iff_mem sound.distinct).mpr (known entry member)⟩
  rw [(missing.map Prod.fst).nodup_iff]
  exact sound.distinct.sublist (List.filter_sublist.map Prod.fst)

/-- Closing a relist keeps what was listed and reports the rest. -/
theorem change_close {tracker : Tracker} (sound : tracker.Sound) {listed names : List String}
    (listing : tracker.relisting = some listed) (order : names.Perm (tracker.vanished listed)) :
    Change tracker .initDone
      (Tracker.removeAll { tracker with relisting := none } names).1.known
      (Output.events (Tracker.removeAll { tracker with relisting := none } names).2) := by
  obtain ⟨gone, rfl, missing⟩ := exists_gone order
  obtain ⟨-, distinct, found⟩ := gone_known sound missing
  refine .closed listed gone rfl listing ?knows missing ?reported
  case knows =>
    rw [known_removeAll]
    refine List.filter_congr fun entry member => ?_
    have vanishes : entry.1 ∈ gone.map Prod.fst ↔ entry.1 ∉ listed := by
      rw [order.mem_iff, Tracker.vanished, List.mem_filter, decide_eq_true_iff]
      exact and_iff_right (List.mem_map_of_mem member)
    simp [vanishes]
  case reported =>
    rw [events_removeAll _ distinct, List.map_map]
    exact List.map_congr_left fun entry member =>
      congrArg ResourceEvent.deleted (found entry member)

/-- **All that a move can do to a sound tracker.** -/
theorem change {tracker : Tracker} (sound : tracker.Sound) (move : Move) :
    Change tracker move.event (tracker.next move).known (tracker.reports move) := by
  obtain ⟨event, arrangement⟩ := move
  cases event with
  | init => exact .idle (.inl rfl) rfl rfl
  | initApply resource => exact .stored resource rfl rfl rfl
  | apply resource => exact .stored resource rfl rfl rfl
  | delete resource => exact .removed resource rfl rfl rfl
  | initDone =>
      cases listing : tracker.relisting with
      | none =>
          have still : tracker.apply arrangement.order .initDone = (tracker, []) := by
            rw [apply, listing]
          exact .idle (.inr ⟨rfl, listing⟩) (by rw [next, still]) (by rw [reports, still]; rfl)
      | some listed =>
          have closing : tracker.apply arrangement.order .initDone =
              Tracker.removeAll { tracker with relisting := none }
                (arrangement.order (tracker.vanished listed)) := by
            rw [apply, listing]
          rw [next, reports, closing]
          exact change_close sound listing (arrangement.perm _)

/-- A move keeps a tracker sound. -/
theorem Sound.next {tracker : Tracker} (sound : tracker.Sound) (move : Move) :
    (tracker.next move).Sound := by
  cases change sound move with
  | stored resource delivered knows =>
      refine ⟨?_, fun entry member => ?_⟩
      · rw [knows, keys_insertKnown]
        split
        next => exact sound.distinct
        next absent =>
          rw [← List.concat_eq_append]
          exact List.Nodup.concat absent sound.distinct
      · rw [knows] at member
        rcases mem_insertKnown member with rfl | member
        · exact resource.resourceName_encode
        · exact sound.named entry member
  | removed resource deleted knows | closed listed gone done listing knows =>
      have kept : (tracker.next move).known.Sublist tracker.known := by
        rw [knows]
        exact List.filter_sublist
      exact ⟨sound.distinct.sublist (kept.map Prod.fst),
        fun entry member => sound.named entry (kept.mem member)⟩
  | idle quiet knows =>
      exact ⟨by rw [knows]; exact sound.distinct, by rw [knows]; exact sound.named⟩

/-- Moves keep a tracker sound. -/
theorem Sound.after {tracker : Tracker} (sound : tracker.Sound) (moves : List Move) :
    (tracker.after moves).Sound := by
  induction moves generalizing tracker with
  | nil => exact sound
  | cons move moves ih => exact ih (sound.next move)

/-- **Every tracker that is reached from the empty one is sound.** -/
theorem sound_after (moves : List Move) : (Tracker.after {} moves).Sound :=
  sound_empty.after moves

end Tracker

end HostRoster

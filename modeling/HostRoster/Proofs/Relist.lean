import HostRoster.Proofs.Tracking
import Mathlib.Data.List.Induction

/-!
# Relists

A relist that is complete makes a tracker forget its history: what it knows afterwards is what was
listed, each name with its last payload, just as an empty tracker would know it
(`Tracker.find?_relist`). What was known before and was not listed is reported as deleted, each
name once (`Tracker.reports_close`). A relist that is not complete takes nothing away: a name is
lost only through a deletion that the watcher announces or through the end of a relist that has
begun (`Tracker.lost_only_by`). So a name that a relist mentioned before it was given up stays known
(`Tracker.known_of_mentioned`) until a relist that is complete does not list it and reports it.
-/

set_option autoImplicit false

namespace HostRoster

namespace Tracker

/-- The names that the relist under way has listed, if events leave one under way: its begin has
come, and its end has not. -/
def listedSoFar? (events : List WatcherEvent) : Option (List String) :=
  events.foldl (fun listed event => match event with
    | .init => some []
    | .initApply resource => listed.map (resource.objectName :: ·)
    | .initDone => none
    | .apply _ | .delete _ => listed) none

/-- The moves of a relist up to its end. -/
def listing (objects : List ConfigMap) (arrangement : Arrangement) : List Move :=
  ⟨.init, arrangement⟩ :: objects.map fun object => ⟨.initApply object, arrangement⟩

/-- The end of a relist. -/
def closing (arrangement : Arrangement) : Move := ⟨.initDone, arrangement⟩

/-- The last of the objects with a name. -/
def lastListed? (objects : List ConfigMap) (name : String) : Option ConfigMap :=
  objects.reverse.find? fun object => decide (object.objectName = name)

theorem lastListed?_concat (objects : List ConfigMap) (object : ConfigMap) (name : String) :
    lastListed? (objects ++ [object]) name =
      if object.objectName = name then some object else lastListed? objects name := by
  by_cases same : object.objectName = name
  · simp [lastListed?, same]
  · simp [lastListed?, same]

theorem lastListed?_eq_none {objects : List ConfigMap} {name : String} :
    lastListed? objects name = none ↔ name ∉ objects.map ConfigMap.objectName := by
  simp [lastListed?]

section Relist

variable {tracker : Tracker}

/-! ## Whether a relist is under way -/

/-- Taking names away does not begin or end a relist. -/
theorem relisting_removeAll (tracker : Tracker) (names : List String) :
    (tracker.removeAll names).1.relisting = tracker.relisting := by
  induction names generalizing tracker with
  | nil => rfl
  | cons name names ih => exact ih { tracker with known := eraseKnown name tracker.known }

/-- The end of a relist leaves none under way. -/
theorem relisting_closing (tracker : Tracker) (arrangement : Arrangement) :
    (tracker.next (closing arrangement)).relisting = none := by
  cases under : tracker.relisting with
  | none => simp only [closing, next, apply, under]
  | some listed => simp only [closing, next, apply, under, relisting_removeAll]

theorem listedSoFar?_concat (events : List WatcherEvent) (event : WatcherEvent) :
    listedSoFar? (events ++ [event]) = match event with
      | .init => some []
      | .initApply resource => (listedSoFar? events).map (resource.objectName :: ·)
      | .initDone => none
      | .apply _ | .delete _ => listedSoFar? events := by
  rw [listedSoFar?, List.foldl_append]
  cases event <;> rfl

/-- A tracker keeps track of the relist under way and of the names that it has listed. -/
theorem relisting_after (moves : List Move) :
    (Tracker.after {} moves).relisting = listedSoFar? (moves.map Move.event) := by
  induction moves using List.reverseRecOn with
  | nil => rfl
  | append_singleton moves move ih =>
      rw [List.map_append, List.map_singleton, listedSoFar?_concat, after_append]
      obtain ⟨event, arrangement⟩ := move
      cases event with
      | init => rfl
      | initDone => exact relisting_closing _ arrangement
      | initApply object =>
          rw [← ih]
          rfl
      | apply object | delete object => exact ih

/-! ## Listing -/

/-- What is known after objects were listed: of a name that was listed the last payload. -/
theorem find?_listing (objects : List ConfigMap) (arrangement : Arrangement) (name : String) :
    (tracker.after (listing objects arrangement)).find? name =
      ((lastListed? objects name).map ConfigMap.encode).or (tracker.find? name) := by
  induction objects using List.reverseRecOn with
  | nil => rfl
  | append_singleton objects object ih =>
      have last : tracker.after (listing (objects ++ [object]) arrangement) =
          (tracker.after (listing objects arrangement)).next ⟨.initApply object, arrangement⟩ := by
        rw [listing, List.map_append, List.map_singleton, ← List.cons_append, after_append]
        rfl
      have stored : (tracker.after (listing (objects ++ [object]) arrangement)).find? name =
          (insertKnown object.objectName object.encode
            (tracker.after (listing objects arrangement)).known).lookup name := by
        rw [last]
        rfl
      rw [stored, lookup_insertKnown, lastListed?_concat]
      by_cases same : object.objectName = name
      · simp [same]
      · simp only [if_neg same, if_neg (Ne.symm same)]
        exact ih

/-- The names that count as listed. -/
theorem relisting_listing (objects : List ConfigMap) (arrangement : Arrangement) :
    (tracker.after (listing objects arrangement)).relisting =
      some (objects.map ConfigMap.objectName).reverse := by
  induction objects using List.reverseRecOn with
  | nil => rfl
  | append_singleton objects object ih =>
      rw [listing, List.map_append, List.map_singleton, ← List.cons_append, after_append]
      have step : ∀ before : Tracker, (before.after [⟨.initApply object, arrangement⟩]).relisting =
          before.relisting.map (object.objectName :: ·) := fun _ => rfl
      rw [step]
      show (tracker.after (listing objects arrangement)).relisting.map _ = _
      rw [ih]
      simp

/-- Listing an object changes nothing about what is known under other names. -/
theorem filter_insertKnown {kept : String → Bool} {name : String} (left : kept name = false)
    (payload : Document) (known : List (String × Document)) :
    (insertKnown name payload known).filter (fun entry => kept entry.1) =
      known.filter fun entry => kept entry.1 := by
  induction known with
  | nil => simp [insertKnown, left]
  | cons entry known ih =>
      obtain ⟨other, held⟩ := entry
      by_cases same : other = name
      · subst same
        simp [insertKnown, left]
      · rw [insertKnown, if_neg same, List.filter_cons, List.filter_cons, ih]

/-- What was known under names that are not listed stays, in its order. -/
theorem filter_listing (objects : List ConfigMap) (arrangement : Arrangement)
    (kept : String → Bool) (left : ∀ object ∈ objects, kept object.objectName = false) :
    (tracker.after (listing objects arrangement)).known.filter (fun entry => kept entry.1) =
      tracker.known.filter fun entry => kept entry.1 := by
  rw [listing, after_cons]
  have begun : (tracker.next ⟨.init, arrangement⟩).known = tracker.known := rfl
  rw [← begun]
  generalize tracker.next ⟨.init, arrangement⟩ = before
  induction objects generalizing before with
  | nil => rfl
  | cons object objects ih =>
      rw [List.map_cons, after_cons,
        ih (fun other member => left other (List.mem_cons_of_mem _ member))]
      exact filter_insertKnown (left object List.mem_cons_self) object.encode before.known

/-! ## The end of a relist -/

/-- What the end of a relist keeps and what it reports. -/
theorem close_listing (sound : tracker.Sound) (objects : List ConfigMap)
    (opening ending : Arrangement) :
    ∃ gone : List (String × Document),
      gone.Perm (tracker.known.filter fun entry =>
        decide (entry.1 ∉ objects.map ConfigMap.objectName)) ∧
      ((tracker.after (listing objects opening)).next (closing ending)).known =
        (tracker.after (listing objects opening)).known.filter (fun entry =>
          decide (entry.1 ∈ objects.map ConfigMap.objectName)) ∧
      (tracker.after (listing objects opening)).reports (closing ending) =
        gone.map fun entry => .deleted (some entry.2) := by
  have listed := tracker.relisting_listing objects opening
  cases change (sound.after (listing objects opening)) (closing ending) with
  | stored resource delivered => cases delivered
  | removed resource deleted => cases deleted
  | closed names gone done under knows missing reported =>
      rw [listed, Option.some.injEq] at under
      subst under
      -- Listing has put nothing under the names that vanish, so they stood there before it.
      simp only [List.mem_reverse] at knows missing
      refine ⟨gone, missing.trans (.of_eq ?_), knows, reported⟩
      refine filter_listing objects opening
        (fun key => decide (key ∉ objects.map ConfigMap.objectName)) fun object member => ?_
      simpa using ⟨object, member, rfl⟩
  | idle quiet =>
      rcases quiet with begun | ⟨-, none⟩
      · cases begun
      · rw [listed] at none
        cases none

/-- **The end of a relist reports what was known and was not listed, each name once.** -/
theorem reports_close (sound : tracker.Sound) (objects : List ConfigMap)
    (opening ending : Arrangement) :
    ((tracker.after (listing objects opening)).reports (closing ending)).Perm
      ((tracker.known.filter fun entry =>
        decide (entry.1 ∉ objects.map ConfigMap.objectName)).map fun entry =>
          .deleted (some entry.2)) := by
  obtain ⟨gone, missing, -, reported⟩ := close_listing sound objects opening ending
  rw [reported]
  exact missing.map _

/-- **After a relist exactly what was listed is known, with its last payloads.** -/
theorem find?_relist (sound : tracker.Sound) (objects : List ConfigMap)
    (opening ending : Arrangement) (name : String) :
    ((tracker.after (listing objects opening)).next (closing ending)).find? name =
      (lastListed? objects name).map ConfigMap.encode := by
  obtain ⟨gone, -, knows, -⟩ := close_listing sound objects opening ending
  rw [find?, knows, lookup_filter fun key => decide (key ∈ objects.map ConfigMap.objectName)]
  have listed := tracker.find?_listing objects opening name
  rw [find?] at listed
  rw [listed]
  cases last : lastListed? objects name with
  | none =>
      have absent := lastListed?_eq_none.mp last
      simp only [decide_eq_false absent, Bool.false_eq_true, if_false, Option.map_none]
  | some object =>
      have present : name ∈ objects.map ConfigMap.objectName := by
        by_contra absent
        rw [lastListed?_eq_none.mpr absent] at last
        cases last
      simp only [decide_eq_true present, if_true, Option.map_some, Option.some_or]

/-! ## What takes names away -/

/-- **A name is lost only through a deletion of this name or through the end of a relist that is
under way and has not listed it.** -/
theorem lost_only_by (sound : tracker.Sound) {move : Move} {name : String}
    (known : tracker.find? name ≠ none) (lost : (tracker.next move).find? name = none) :
    (∃ resource, move.event = .delete resource ∧ resource.objectName = name) ∨
      move.event = .initDone ∧ ∃ listed, tracker.relisting = some listed ∧ name ∉ listed := by
  rw [find?] at lost
  cases change sound move with
  | stored resource delivered knows =>
      rw [knows, lookup_insertKnown] at lost
      split at lost
      · cases lost
      · exact absurd lost known
  | removed resource deleted knows =>
      rw [knows, lookup_eraseKnown] at lost
      split at lost
      next same => exact .inl ⟨resource, deleted, same.symm⟩
      next => exact absurd lost known
  | closed listed gone done under knows =>
      rw [knows, lookup_filter fun key => decide (key ∈ listed)] at lost
      refine .inr ⟨done, listed, under, fun seen => known ?_⟩
      rw [decide_eq_true seen, if_pos rfl] at lost
      exact lost
  | idle quiet knows =>
      rw [knows] at lost
      exact absurd lost known

/-- **A deletion is reported only when the watcher announces one or when a relist that is under way
ends.** -/
theorem deleted_only_by (sound : tracker.Sound) {move : Move} {payload : Option Document}
    (reported : .deleted payload ∈ tracker.reports move) :
    (∃ resource, move.event = .delete resource) ∨
      move.event = .initDone ∧ tracker.relisting ≠ none := by
  cases change sound move with
  | stored resource delivered knows reports =>
      rw [reports, List.mem_singleton, upsertReport] at reported
      split at reported <;> cases reported
  | removed resource deleted => exact .inl ⟨resource, deleted⟩
  | closed listed gone done under =>
      rw [under]
      exact .inr ⟨done, Option.some_ne_none listed⟩
  | idle quiet knows reports =>
      rw [reports] at reported
      cases reported

end Relist

/-- Whether moves after others take nothing away under a name: no deletion of it is announced, and
each relist that ends has listed it. -/
def Spared (name : String) (history since : List Move) : Prop :=
  ∀ earlier move later, since = earlier ++ move :: later →
    (∀ resource, move.event = .delete resource → resource.objectName ≠ name) ∧
      (move.event = .initDone → ∀ listed,
        listedSoFar? ((history ++ earlier).map Move.event) = some listed → name ∈ listed)

/-- A name that is known stays so as long as it is spared. -/
theorem known_of_spared {name : String} {history since : List Move}
    (known : (Tracker.after {} history).find? name ≠ none) (spared : Spared name history since) :
    (Tracker.after {} (history ++ since)).find? name ≠ none := by
  induction since using List.reverseRecOn with
  | nil => rwa [List.append_nil]
  | append_singleton since move ih =>
      have before : (Tracker.after {} (history ++ since)).find? name ≠ none := by
        refine ih fun earlier other later split => ?_
        exact spared earlier other (later ++ [move]) (by rw [split]; simp)
      obtain ⟨undeleted, listed⟩ := spared since move [] rfl
      rw [← List.append_assoc, after_append]
      -- The last move is one of the two that can lose the name, and both are excluded.
      intro lost
      rcases lost_only_by (sound_after _) before lost with
        ⟨resource, deleted, same⟩ | ⟨done, names, under, unlisted⟩
      · exact undeleted resource deleted same
      · rw [relisting_after] at under
        exact unlisted (listed done names under)

/-! ## Relists and history -/

/-- A name that a relist mentions is known as long as it is spared. -/
theorem known_of_mentioned (history : List Move) {object : ConfigMap} {arrangement : Arrangement}
    {since : List Move}
    (spared : Spared object.objectName (history ++ [⟨.initApply object, arrangement⟩]) since) :
    (Tracker.after {} (history ++ ⟨.initApply object, arrangement⟩ :: since)).find?
      object.objectName ≠ none := by
  have stored : (Tracker.after {} (history ++ [⟨.initApply object, arrangement⟩])).known =
      insertKnown object.objectName object.encode (Tracker.after {} history).known := by
    rw [after_append]
    rfl
  rw [List.append_cons]
  refine known_of_spared ?_ spared
  rw [find?, stored, lookup_insertKnown, if_pos rfl]
  exact Option.some_ne_none _

/-- **A relist that is complete makes a tracker forget its history, and one that is not takes
nothing away.** From every tracker that is reached by any moves: after a whole relist the same is
known as after this relist alone, of each listed name its last payload; its end reports exactly
what was known before and was not listed, each name once, with the last payload. Deletions are
reported, and names are lost, only by announced deletions and by ends of relists that have begun;
and a name that a relist mentioned, whether or not the relist came to its end, is reported by the
next whole relist that does not list it, unless it was deleted before. -/
theorem relist_forgets_history (history : List Move) :
    (∀ objects opening ending alone,
      let before := Tracker.after {} history
      let listed := before.after (listing objects opening)
      (listed.next (closing ending)).find? =
          (Tracker.after {} (listing objects alone ++ [closing alone])).find? ∧
        (∀ name, (listed.next (closing ending)).find? name =
          (lastListed? objects name).map ConfigMap.encode) ∧
        ((listed.next (closing ending)).known.map Prod.fst).Nodup ∧
        (before.known.map Prod.fst).Nodup ∧
        (listed.reports (closing ending)).Perm
          ((before.known.filter fun entry =>
            decide (entry.1 ∉ objects.map ConfigMap.objectName)).map fun entry =>
              .deleted (some entry.2))) ∧
    (∀ move payload, .deleted payload ∈ (Tracker.after {} history).reports move →
      (∃ resource, move.event = .delete resource) ∨
        move.event = .initDone ∧ listedSoFar? (history.map Move.event) ≠ none) ∧
    (∀ move name, (Tracker.after {} history).find? name ≠ none →
      ((Tracker.after {} history).next move).find? name = none →
        (∃ resource, move.event = .delete resource ∧ resource.objectName = name) ∨
          move.event = .initDone ∧ ∃ listed,
            listedSoFar? (history.map Move.event) = some listed ∧ name ∉ listed) ∧
    ∀ object arrangement since,
      Spared object.objectName (history ++ [⟨.initApply object, arrangement⟩]) since →
      ∀ objects opening ending, object.objectName ∉ objects.map ConfigMap.objectName →
        let before := Tracker.after {} (history ++ ⟨.initApply object, arrangement⟩ :: since)
        ∃ payload, before.find? object.objectName = some payload ∧
          .deleted (some payload) ∈
            (before.after (listing objects opening)).reports (closing ending) := by
  have sound := sound_after history
  refine ⟨fun objects opening ending alone => ⟨?same, find?_relist sound objects opening ending,
    ((sound.after _).next _).distinct, sound.distinct, reports_close sound objects opening ending⟩,
    fun move payload reported => ?_, fun move name known lost => ?_, ?mentioned⟩
  case same =>
    funext name
    rw [find?_relist sound, after_append]
    exact (find?_relist sound_empty objects alone alone name).symm
  · rw [← relisting_after]
    exact deleted_only_by sound reported
  · rw [← relisting_after]
    exact lost_only_by sound known lost
  case mentioned =>
    intro object arrangement since spared objects opening ending unlisted before
    have known : before.find? object.objectName ≠ none := known_of_mentioned history spared
    obtain ⟨payload, found⟩ := Option.ne_none_iff_exists'.mp known
    refine ⟨payload, found, ?_⟩
    have within : before.Sound := sound_after _
    rw [(reports_close within objects opening ending).mem_iff, List.mem_map]
    refine ⟨(object.objectName, payload), List.mem_filter.mpr ⟨?_, decide_eq_true unlisted⟩, rfl⟩
    exact (lookup_eq_some_iff_mem within.distinct).mp found

/-- A name that was mentioned only by a relist that was given up is reported, and so is a name that
was known before. -/
theorem relist_forgets_history_given_up :
    let named : String → ConfigMap := fun name => { metadata := { name := some name } }
    let history : List Move := [.init, .initApply (named "old"), .initDone, .init].map (⟨·, .plain⟩)
    let mention : Move := ⟨.initApply (named "new"), .plain⟩
    let relist := listing [named "kept"] .plain
    Spared "new" (history ++ [mention]) [] ∧
      (∃ payload, .deleted (some payload) ∈
        ((Tracker.after {} (history ++ [mention])).after relist).reports (closing .plain)) ∧
      ((Tracker.after {} history).after relist).reports (closing .plain) =
        [.deleted (some (named "old").encode)] := by
  intro named history mention relist
  have spared : Spared "new" (history ++ [mention]) [] := by
    intro earlier move later split
    simp at split
  obtain ⟨payload, -, reported⟩ := (relist_forgets_history history).2.2.2 (named "new") .plain []
    spared [named "kept"] .plain .plain (by decide)
  have all := ((relist_forgets_history history).1 [named "kept"] .plain .plain .plain).2.2.2.2
  exact ⟨spared, ⟨payload, reported⟩, List.perm_singleton.mp all⟩

end Tracker

end HostRoster

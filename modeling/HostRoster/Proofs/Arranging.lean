import HostRoster.Proofs.HostsInStep
import HostRoster.Proofs.LastEffect
import HostRoster.Proofs.Relist

/-!
# The order of names that vanish

The names that vanish in a relist are reported in any order. The order shows neither in what a
tracker knows (`Tracker.after_eq`) nor in the host list of a roster that follows it
(`Tracker.hostsAfter_eq`).

The list depends on the tracker only through the question which events are effective
(`Tracker.Asks`): a map with a host list that is handed over, a deletion, and the end of a relist
that has missed a name. The last of these decides, whatever came before
(`Tracker.last_effective_event_decides`).
-/

set_option autoImplicit false

namespace HostRoster

namespace Tracker

/-! ## What is known -/

/-- The order of the names that vanish makes no difference to the tracker. -/
theorem next_eq (tracker : Tracker) (event : WatcherEvent) (one other : Arrangement) :
    tracker.next ⟨event, one⟩ = tracker.next ⟨event, other⟩ := by
  cases event with
  | init | initApply resource | apply resource | delete resource => rfl
  | initDone =>
      have relisting := (relisting_closing tracker one).trans (relisting_closing tracker other).symm
      have known : (tracker.next (closing one)).known = (tracker.next (closing other)).known := by
        cases under : tracker.relisting with
        | none => simp only [closing, next, apply, under]
        | some listed =>
            -- What is taken away is the same set of names in both orders.
            have members := (one.perm (tracker.vanished listed)).trans
              (other.perm (tracker.vanished listed)).symm
            simp only [closing, next, apply, under, known_removeAll, members.mem_iff]
      show tracker.next (closing one) = tracker.next (closing other)
      generalize tracker.next (closing one) = first at relisting known
      generalize tracker.next (closing other) = second at relisting known
      cases first
      cases second
      exact congr (congrArg Tracker.mk known) relisting

/-- **What a tracker knows depends on the events alone.** -/
theorem after_eq (tracker : Tracker) {moves others : List Move}
    (same : moves.map Move.event = others.map Move.event) :
    tracker.after moves = tracker.after others := by
  induction moves generalizing tracker others with
  | nil =>
      rw [List.map_nil, eq_comm, List.map_eq_nil_iff] at same
      rw [same]
  | cons move moves ih =>
      obtain ⟨other, rest, rfl, here, later⟩ := List.map_eq_cons_iff.mp same.symm
      have step : tracker.next move = tracker.next other := by
        obtain ⟨event, one⟩ := move
        obtain ⟨_, two⟩ := other
        obtain rfl := here
        exact next_eq tracker _ one two
      rw [after_cons, after_cons, step]
      exact ih _ later.symm

/-! ## What is shown -/

/-- After a history of moves an event asks for a host list: it hands over a map in which one is
written, or it deletes, or it ends a relist that has not listed all names that are known. -/
inductive Asks (history : List Move) : WatcherEvent → List String → Prop where
  | handsOver {event : WatcherEvent} {resource : ConfigMap} {text : String}
      (delivered : event.delivered? = some resource)
      (written : resource.writtenHosts? = some text) : Asks history event (parseHosts text)
  | deletes (resource : ConfigMap) : Asks history (.delete resource) []
  | misses {listed : List String} {name : String}
      (listing : listedSoFar? (history.map Move.event) = some listed)
      (known : (Tracker.after {} history).find? name ≠ none) (unlisted : name ∉ listed) :
      Asks history .initDone []

/-- After a history of moves an event is effective. -/
def IsEffective (history : List Move) (event : WatcherEvent) : Prop :=
  ∃ hosts, Asks history event hosts

/-- What is asked for depends on the events of the history alone. -/
theorem Asks.congr {history other : List Move}
    (same : history.map Move.event = other.map Move.event) {event : WatcherEvent}
    {hosts : List String} (asks : Asks history event hosts) : Asks other event hosts := by
  cases asks with
  | handsOver delivered written => exact .handsOver delivered written
  | deletes resource => exact .deletes resource
  | misses listing known unlisted =>
      rw [same] at listing
      rw [after_eq {} same] at known
      exact .misses listing known unlisted

theorem log_concat (tracker : Tracker) (moves : List Move) (move : Move) :
    tracker.log (moves ++ [move]) = tracker.log moves ++ (tracker.after moves).reports move := by
  induction moves generalizing tracker with
  | nil => simp [log]
  | cons first moves ih => rw [List.cons_append, log, log, ih, List.append_assoc, after_cons]

theorem hostsAfter_concat (moves : List Move) (move : Move) :
    hostsAfter (moves ++ [move]) =
      publishedAfter (hostsAfter moves) ((Tracker.after {} moves).reports move) := by
  have shown : ∀ moves, hostsAfter moves = publishedAfter [] (log {} moves) := fun _ =>
    Roster.hosts_handleAll rfl _
  rw [shown, shown, log_concat, publishedAfter_append]

/-- What is reported about an object that is handed over asks for the list that is written in it. -/
theorem published?_upsertReport (tracker : Tracker) (resource : ConfigMap) :
    (tracker.upsertReport resource).published? = resource.writtenHosts?.map parseHosts := by
  rw [← resource.hosts?_encode, upsertReport]
  split <;> rfl

/-- Deletions leave the empty list, if there are any. -/
theorem publishedAfter_gone (hosts : List String) (gone : List (String × Document)) :
    publishedAfter hosts (gone.map fun entry => .deleted (some entry.2)) =
      if gone = [] then hosts else [] := by
  induction gone generalizing hosts with
  | nil => rfl
  | cons entry gone ih =>
      rw [List.map_cons, publishedAfter_cons, ih]
      exact ite_self []

theorem gone_eq_nil_iff {tracker : Tracker} {listed : List String}
    {gone : List (String × Document)}
    (missing : gone.Perm (tracker.known.filter fun entry => decide (entry.1 ∉ listed))) :
    gone = [] ↔ ∀ name, tracker.find? name ≠ none → name ∈ listed := by
  rw [← List.length_eq_zero_iff, missing.length_eq, List.length_eq_zero_iff,
    List.filter_eq_nil_iff]
  simp only [find?, ne_eq, lookup_eq_none_iff_not_mem, not_not, decide_eq_true_eq]
  constructor
  · intro all name known
    obtain ⟨entry, member, rfl⟩ := List.mem_map.mp known
    exact all entry member
  · intro all entry member
    exact all entry.1 (List.mem_map_of_mem member)

/-- What is reported at a move publishes the list that its event asks for. -/
theorem published_of_asks {history : List Move} {move : Move} {hosts : List String}
    (asks : Asks history move.event hosts) (before : List String) :
    publishedAfter before ((Tracker.after {} history).reports move) = hosts := by
  obtain ⟨event, arrangement⟩ := move
  cases asks with
  | @handsOver _ resource text delivered written =>
      have published : publishedAfter before [(Tracker.after {} history).upsertReport resource] =
          parseHosts text := by
        rw [publishedAfter_cons, published?_upsertReport, written]
        rfl
      cases event with
      | initApply other | apply other =>
          obtain rfl : other = resource := Option.some.inj delivered
          exact published
      | init | initDone | delete other => cases delivered
  | deletes resource => rfl
  | @misses listed name listing known unlisted =>
      cases change (sound_after history) ⟨.initDone, arrangement⟩ with
      | stored resource delivered => cases delivered
      | removed resource deleted => cases deleted
      | closed names gone done under knows missing reported =>
          rw [← relisting_after, under] at listing
          obtain rfl := Option.some.inj listing
          rw [reported, publishedAfter_gone, if_neg]
          exact fun none => unlisted ((gone_eq_nil_iff missing).mp none name known)
      | idle quiet =>
          rcases quiet with begun | ⟨-, none⟩
          · cases begun
          · rw [← relisting_after, none] at listing
            cases listing

/-- What is reported at a move whose event is not effective publishes nothing. -/
theorem published_of_idle {history : List Move} {move : Move}
    (idle : ¬ IsEffective history move.event) (before : List String) :
    publishedAfter before ((Tracker.after {} history).reports move) = before := by
  cases change (sound_after history) move with
  | stored resource delivered knows reported =>
      have unwritten : resource.writtenHosts? = none := by
        by_contra written
        obtain ⟨text, found⟩ := Option.ne_none_iff_exists'.mp written
        exact idle ⟨_, .handsOver delivered found⟩
      rw [reported, publishedAfter_cons, published?_upsertReport, unwritten]
      rfl
  | removed resource deleted =>
      rw [deleted] at idle
      exact absurd ⟨_, .deletes resource⟩ idle
  | closed listed gone done listing knows missing reported =>
      have complete : gone = [] := by
        rw [gone_eq_nil_iff missing]
        intro name known
        by_contra unlisted
        rw [relisting_after] at listing
        rw [done] at idle
        exact idle ⟨_, .misses listing known unlisted⟩
      rw [reported, publishedAfter_gone, if_pos complete]
  | idle quiet knows reported =>
      rw [reported]
      rfl

theorem replaces_hostsAfter :
    Replaces hostsAfter fun history move hosts => Asks history move.event hosts where
  asked history move hosts asks := by rw [hostsAfter_concat, published_of_asks asks]
  quiet history move idle := by rw [hostsAfter_concat, published_of_idle idle]

/-- **What is shown depends on the events alone.** -/
theorem hostsAfter_eq {moves others : List Move}
    (same : moves.map Move.event = others.map Move.event) :
    hostsAfter moves = hostsAfter others := by
  induction moves using List.reverseRecOn generalizing others with
  | nil =>
      rw [List.map_nil, eq_comm, List.map_eq_nil_iff] at same
      rw [same]
  | append_singleton moves move ih =>
      rw [List.map_append, eq_comm, List.map_eq_append_iff] at same
      obtain ⟨earlier, last, rfl, front, back⟩ := same
      obtain ⟨other, rfl, here⟩ := List.map_eq_singleton_iff.mp back
      -- Both last moves are effective and ask for the same, or neither is.
      by_cases effective : IsEffective moves move.event
      · obtain ⟨hosts, asks⟩ := effective
        rw [replaces_hostsAfter.asked _ _ hosts asks]
        rw [← here] at asks
        exact (replaces_hostsAfter.asked _ _ hosts (asks.congr front.symm)).symm
      · rw [replaces_hostsAfter.quiet _ _ effective, ih front.symm]
        refine (replaces_hostsAfter.quiet earlier other ?_).symm
        rintro ⟨hosts, asks⟩
        rw [here] at asks
        exact effective ⟨hosts, asks.congr front⟩

/-- **The last effective event of the watcher decides, and the order of names that vanish does
not.** Whatever events come, in whatever order, and however the names that vanish are arranged each
time: the list of a new roster that follows the tracker is empty when no event is effective, and
otherwise the one that the last effective event asks for. With other arrangements the tracker knows
the same and the list is the same. -/
theorem last_effective_event_decides (moves : List Move) :
    ((∀ earlier move later, moves = earlier ++ move :: later →
        ¬ IsEffective earlier move.event) → hostsAfter moves = []) ∧
      (∀ earlier last later hosts, moves = earlier ++ last :: later →
        Asks earlier last.event hosts →
        (∀ before move after, later = before ++ move :: after →
          ¬ IsEffective (earlier ++ last :: before) move.event) →
        hostsAfter moves = hosts) ∧
      ∀ others, others.map Move.event = moves.map Move.event →
        Tracker.after {} others = Tracker.after {} moves ∧
          hostsAfter others = hostsAfter moves := by
  refine ⟨fun idle => ?_, ?_, fun others same => ?_⟩
  · exact replaces_hostsAfter.of_quiet [] idle
  · rintro earlier last later hosts rfl asks idle
    exact replaces_hostsAfter.of_last asks idle
  · exact ⟨after_eq {} same, hostsAfter_eq same⟩

/-- Two maps vanish in a relist that lists neither of them, one of them the map with the hosts; the
list is empty in whichever order they vanish. -/
theorem last_effective_event_decides_at_relist :
    let named : String → ConfigMap := fun name => { metadata := { name := some name } }
    let carrier : ConfigMap := { named "hosts" with data := some [(hostsKey, "a,b")] }
    let backward : Arrangement := ⟨List.reverse, fun names => names.reverse_perm⟩
    let earlier : List Move :=
      [.init, .initApply carrier, .initApply (named "other"), .initDone, .init,
        .initApply (named "third")].map (⟨·, .plain⟩)
    hostsAfter earlier = ["a", "b"] ∧ Asks earlier .initDone [] ∧
      hostsAfter (earlier ++ [⟨.initDone, .plain⟩]) = [] ∧
      hostsAfter (earlier ++ [⟨.initDone, backward⟩]) = [] := by
  intro named carrier backward earlier
  have known : (Tracker.after {} earlier).find? "hosts" ≠ none :=
    Option.some_ne_none carrier.encode
  have unlisted : "hosts" ∉ ["third"] := by decide
  have asks : Asks earlier .initDone [] := .misses rfl known unlisted
  have forward : hostsAfter (earlier ++ [⟨.initDone, .plain⟩]) = [] :=
    (last_effective_event_decides _).2.1 earlier _ [] [] rfl asks (by simp)
  have same : hostsAfter (earlier ++ [⟨.initDone, backward⟩]) =
      hostsAfter (earlier ++ [⟨.initDone, .plain⟩]) := by
    refine ((last_effective_event_decides _).2.2 _ ?_).2
    rw [List.map_append, List.map_append]
    rfl
  exact ⟨by decide, asks, forward, same.trans forward⟩

end Tracker

end HostRoster

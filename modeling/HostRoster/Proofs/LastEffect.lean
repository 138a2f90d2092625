import HostRoster.Proofs.Publishing
import Mathlib.Data.List.Induction

/-!
# The last effective event decides

A host list is replaced as a whole or stays as it is, so that after any steps it is the list that
was asked for last (`Replaces.of_last`). This holds of whatever shows a host list after a history of
steps, also when what a step asks for depends on the steps before it.

For the events of a roster it does not: an event is effective when it deletes a resource, or hands
over one that carries a host list (`ResourceEvent.Asks`). The roster shows what the last effective
event has asked for, on whichever way the events came (`Roster.last_effective_decides`). All other
events can be left out, and what an event does not look at can be changed, without any effect on the
lists that are shown (`Roster.Reworded`).
-/

set_option autoImplicit false

namespace HostRoster

/-! ## Lists that are replaced as a whole -/

section Replaced

variable {Step : Type} {shown : List Step → List String}
  {Asks : List Step → Step → List String → Prop}

/-- A list is shown after every history of steps. A further step that asks for a list puts it in the
place of the one before, and any other step leaves the list as it is. -/
structure Replaces (shown : List Step → List String)
    (Asks : List Step → Step → List String → Prop) : Prop where
  asked : ∀ earlier step hosts, Asks earlier step hosts → shown (earlier ++ [step]) = hosts
  quiet : ∀ earlier step, (¬ ∃ hosts, Asks earlier step hosts) →
    shown (earlier ++ [step]) = shown earlier

/-- Steps that ask for nothing leave the list as it is. -/
theorem Replaces.of_quiet (replaces : Replaces shown Asks) (earlier : List Step)
    {later : List Step}
    (quiet : ∀ before step after, later = before ++ step :: after →
      ¬ ∃ hosts, Asks (earlier ++ before) step hosts) :
    shown (earlier ++ later) = shown earlier := by
  induction later using List.reverseRecOn with
  | nil => rw [List.append_nil]
  | append_singleton later step ih =>
      have before : shown (earlier ++ later) = shown earlier := by
        refine ih fun first other rest split => ?_
        exact quiet first other (rest ++ [step]) (by rw [split]; simp)
      rw [← List.append_assoc, replaces.quiet _ _ (quiet later step [] rfl), before]

/-- **The list is the one that was asked for last.** -/
theorem Replaces.of_last (replaces : Replaces shown Asks) {earlier later : List Step}
    {last : Step} {hosts : List String} (asks : Asks earlier last hosts)
    (quiet : ∀ before step after, later = before ++ step :: after →
      ¬ ∃ hosts, Asks (earlier ++ last :: before) step hosts) :
    shown (earlier ++ last :: later) = hosts := by
  rw [List.append_cons, replaces.of_quiet _, replaces.asked earlier last hosts asks]
  intro before step after split
  rw [← List.append_cons]
  exact quiet before step after split

end Replaced

/-! ## Effective events -/

/-- A payload can be read as a resource, and this text stands under the key of the host list. -/
def Document.Carries (payload : Document) (text : String) : Prop :=
  ∃ resource, ConfigResource.fromPayload payload = .ok resource ∧
    resource.get? hostsKey = some text

/-- A payload asks for the hosts of the text that it carries, and for none without one. -/
theorem Document.hosts?_eq_some_iff {payload : Document} {hosts : List String} :
    payload.hosts? = some hosts ↔ ∃ text, payload.Carries text ∧ parseHosts text = hosts := by
  unfold hosts? Carries
  cases ConfigResource.fromPayload payload with
  | error cause => simp
  | ok resource => simp

namespace ResourceEvent

/-- The payload that an event hands over. -/
def new? : ResourceEvent → Option Document
  | .added resource => some resource
  | .updated new _ => some new
  | .deleted _ => none

/-- An event asks for a host list: the one in the payload that it hands over, or the empty one. -/
inductive Asks : ResourceEvent → List String → Prop where
  | handsOver {event : ResourceEvent} {payload : Document} {text : String}
      (new : event.new? = some payload) (carries : payload.Carries text) :
      Asks event (parseHosts text)
  | clears (payload : Option Document) : Asks (.deleted payload) []

/-- An event asks for some host list. -/
def IsEffective (event : ResourceEvent) : Prop := ∃ hosts, event.Asks hosts

/-- Two events hand over the same payload, or both delete. What was there before, and whether it is
said to be new, plays no part. -/
inductive Alike : ResourceEvent → ResourceEvent → Prop where
  | handOver {event other : ResourceEvent} {payload : Document}
      (new : event.new? = some payload) (same : other.new? = some payload) : Alike event other
  | delete (payload other : Option Document) : Alike (.deleted payload) (.deleted other)

theorem published?_of_new? {event : ResourceEvent} {payload : Document}
    (new : event.new? = some payload) : event.published? = payload.hosts? := by
  cases event with
  | added resource | updated resource old =>
      obtain rfl := Option.some.inj new
      rfl
  | deleted resource => cases new

theorem asks_iff {event : ResourceEvent} {hosts : List String} :
    event.Asks hosts ↔ event.published? = some hosts := by
  constructor
  · intro asks
    cases asks with
    | handsOver new carries =>
        rw [published?_of_new? new]
        exact Document.hosts?_eq_some_iff.mpr ⟨_, carries, rfl⟩
    | clears payload => rfl
  · intro published
    cases event with
    | added resource | updated resource old =>
        obtain ⟨text, carries, rfl⟩ := Document.hosts?_eq_some_iff.mp published
        exact .handsOver rfl carries
    | deleted resource =>
        obtain rfl := Option.some.inj published
        exact .clears resource

theorem not_isEffective_iff {event : ResourceEvent} :
    ¬ event.IsEffective ↔ event.published? = none := by
  simp only [IsEffective, asks_iff, Option.eq_none_iff_forall_ne_some, not_exists, ne_eq]

/-- What is asked for is empty or stands in one payload. -/
theorem Asks.cases_hosts {event : ResourceEvent} {hosts : List String}
    (asks : event.Asks hosts) :
    hosts = [] ∨ ∃ payload text, event.new? = some payload ∧ payload.Carries text ∧
      hosts = parseHosts text := by
  cases asks with
  | handsOver new carries => exact .inr ⟨_, _, new, carries, rfl⟩
  | clears payload => exact .inl rfl

/-- Events that are alike ask for the same. -/
theorem Alike.published? {event other : ResourceEvent} (alike : event.Alike other) :
    event.published? = other.published? := by
  cases alike with
  | handOver new same => rw [published?_of_new? new, published?_of_new? same]
  | delete payload other => rfl

end ResourceEvent

/-! ## Calls of a roster -/

namespace Roster

/-- A way in which an event reaches a roster: as an event, or through the operation for its
kind. -/
inductive Call where
  | apply (event : ResourceEvent)
  | added (resource : Document)
  | updated (new : Document) (old : Option Document)
  | deleted (resource : Option Document)

/-- The event of a call. -/
def Call.event : Call → ResourceEvent
  | .apply event => event
  | .added resource => .added resource
  | .updated new old => .updated new old
  | .deleted resource => .deleted resource

/-- The roster after a call. -/
def follow (roster : Roster) : Call → Roster
  | .apply event => roster.handle event
  | .added resource => roster.onAdded resource
  | .updated new old => roster.onUpdated new old
  | .deleted resource => roster.onDeleted resource

/-- The list of a new roster after calls. -/
def hostsOf (calls : List Call) : List String := (calls.foldl follow ({} : Roster)).hosts

/-- The way on which an event comes makes no difference. -/
theorem hostsOf_eq (calls : List Call) :
    hostsOf calls = publishedAfter [] (calls.map Call.event) := by
  have same : follow = fun roster call => roster.handle call.event := by
    funext roster call
    cases call <;> rfl
  rw [hostsOf, same, ← List.foldl_map]
  exact hosts_handleAll rfl _

theorem hostsOf_concat (calls : List Call) (call : Call) :
    hostsOf (calls ++ [call]) = call.event.published?.getD (hostsOf calls) := by
  rw [hostsOf_eq, hostsOf_eq, List.map_append, publishedAfter_append]
  rfl

theorem replaces_hostsOf : Replaces hostsOf fun _ call hosts => call.event.Asks hosts where
  asked calls call hosts asks := by
    rw [hostsOf_concat, ResourceEvent.asks_iff.mp asks, Option.getD_some]
  quiet calls call idle := by
    rw [hostsOf_concat, ResourceEvent.not_isEffective_iff.mp idle, Option.getD_none]

/-- Calls of which some that are not effective were left out, and the others may have been replaced
by calls that are alike. -/
inductive Reworded : List Call → List Call → Prop where
  | nil : Reworded [] []
  | left {call : Call} {calls others : List Call} (idle : ¬ call.event.IsEffective)
      (rest : Reworded calls others) : Reworded (call :: calls) others
  | kept {call other : Call} {calls others : List Call} (alike : call.event.Alike other.event)
      (rest : Reworded calls others) : Reworded (call :: calls) (other :: others)

/-- What was reworded shows the same list at its end. -/
theorem Reworded.published {calls others : List Call} (reworded : Reworded calls others)
    (hosts : List String) :
    publishedAfter hosts (calls.map Call.event) = publishedAfter hosts (others.map Call.event) := by
  induction reworded generalizing hosts with
  | nil => rfl
  | left idle rest ih =>
      rw [List.map_cons, publishedAfter_cons, ResourceEvent.not_isEffective_iff.mp idle]
      exact ih hosts
  | kept alike rest ih =>
      rw [List.map_cons, List.map_cons, publishedAfter_cons, publishedAfter_cons, alike.published?]
      exact ih _

/-- A call that remains stands for one of the calls, and what comes before it for what came
before. -/
theorem Reworded.split {calls others : List Call} (reworded : Reworded calls others)
    {earlier later : List Call} {other : Call} (place : others = earlier ++ other :: later) :
    ∃ before call after, calls = before ++ call :: after ∧ Reworded before earlier ∧
      call.event.Alike other.event ∧ Reworded after later := by
  induction reworded generalizing earlier with
  | nil => simp at place
  | @left call calls others idle rest ih =>
      obtain ⟨before, kept, after, rfl, first, alike, second⟩ := ih place
      exact ⟨call :: before, kept, after, rfl, .left idle first, alike, second⟩
  | @kept call head calls others alike rest ih =>
      cases earlier with
      | nil =>
          obtain ⟨rfl, rfl⟩ := List.cons.inj place
          exact ⟨[], call, calls, rfl, .nil, alike, rest⟩
      | cons first earlier =>
          obtain ⟨rfl, tail⟩ := List.cons.inj place
          obtain ⟨before, kept, after, rfl, front, same, second⟩ := ih tail
          exact ⟨call :: before, kept, after, rfl, .kept alike front, same, second⟩

/-- Every list that is shown is empty or stands whole in one payload. -/
theorem hostsOf_cases (calls : List Call) :
    hostsOf calls = [] ∨ ∃ call ∈ calls, ∃ payload text, call.event.new? = some payload ∧
      payload.Carries text ∧ hostsOf calls = parseHosts text := by
  induction calls using List.reverseRecOn with
  | nil => exact .inl rfl
  | append_singleton calls call ih =>
      rw [hostsOf_concat]
      cases asked : call.event.published? with
      | none =>
          refine ih.imp_right ?_
          rintro ⟨other, member, shown⟩
          exact ⟨other, List.mem_append_left _ member, shown⟩
      | some hosts =>
          refine (ResourceEvent.asks_iff.mpr asked).cases_hosts.imp_right ?_
          rintro ⟨payload, text, shown⟩
          exact ⟨call, by simp, payload, text, shown⟩

/-- **The last effective event decides.** Whatever calls a new roster gets: its list is empty when
no call is effective, and otherwise the one that the last effective call asks for. When calls that
are not effective are left out and others are replaced by ones that are alike, the list after every
call that remains is the same. So every list is empty or was read from a single payload. -/
theorem last_effective_decides (calls : List Call) :
    ((∀ call ∈ calls, ¬ call.event.IsEffective) → hostsOf calls = []) ∧
      (∀ earlier last later hosts, calls = earlier ++ last :: later → last.event.Asks hosts →
        (∀ call ∈ later, ¬ call.event.IsEffective) → hostsOf calls = hosts) ∧
      (∀ others earlier other later, Reworded calls others → others = earlier ++ other :: later →
        ∃ before call after, calls = before ++ call :: after ∧ Reworded before earlier ∧
          call.event.Alike other.event ∧ Reworded after later ∧
          hostsOf (before ++ [call]) = hostsOf (earlier ++ [other])) ∧
      (hostsOf calls = [] ∨ ∃ call ∈ calls, ∃ payload text, call.event.new? = some payload ∧
        payload.Carries text ∧ hostsOf calls = parseHosts text) := by
  have quiet : ∀ {calls : List Call}, (∀ call ∈ calls, ¬ call.event.IsEffective) →
      ∀ before call after, calls = before ++ call :: after → ¬ call.event.IsEffective :=
    fun idle before call after split => idle call (by simp [split])
  refine ⟨fun idle => ?_, ?_, ?_, hostsOf_cases calls⟩
  · exact replaces_hostsOf.of_quiet [] (quiet idle)
  · rintro earlier last later hosts rfl asks idle
    exact replaces_hostsOf.of_last asks (quiet idle)
  · intro others earlier other later reworded place
    obtain ⟨before, call, after, split, front, alike, back⟩ := reworded.split place
    refine ⟨before, call, after, split, front, alike, back, ?_⟩
    rw [hostsOf_concat, hostsOf_concat, hostsOf_eq, hostsOf_eq, front.published, alike.published?]

/-- A list is still shown after a payload that is no resource, and it is the same when the resource
comes as an update and the bad payload is left out. -/
theorem last_effective_decides_before_bad_payload :
    let resource : Document := .object [("data", .object [(hostsKey, .string "a,b")])]
    let bad : Call := .updated (.string "a,b") none
    let calls : List Call := [.deleted none, .added resource, bad]
    let others : List Call := [.apply (.deleted (some .null)), .apply (.updated resource none)]
    resource.Carries "a,b" ∧ ¬ bad.event.IsEffective ∧ Reworded calls others ∧
      hostsOf calls = ["a", "b"] ∧
      ∃ before call, before <+: calls ∧ hostsOf (before ++ [call]) = hostsOf others := by
  intro resource bad calls others
  have carries : resource.Carries "a,b" := ⟨_, rfl, rfl⟩
  have idle : ¬ bad.event.IsEffective := ResourceEvent.not_isEffective_iff.mpr rfl
  have reworded : Reworded calls others :=
    .kept (.delete _ _) (.kept (.handOver rfl rfl) (.left idle .nil))
  obtain ⟨-, last, remaining, -⟩ := last_effective_decides calls
  have shown : hostsOf calls = parseHosts "a,b" :=
    last [.deleted none] (.added resource) [bad] _ rfl (.handsOver rfl carries)
      (by simpa using idle)
  obtain ⟨before, call, after, split, -, -, -, same⟩ :=
    remaining others [.apply (.deleted (some .null))] _ [] reworded rfl
  exact ⟨carries, idle, reworded, shown.trans (by decide), before, call, ⟨_, split.symm⟩, same⟩

end Roster

end HostRoster

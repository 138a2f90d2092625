import HostRoster.Proofs.LastEffect
import HostRoster.Proofs.Resources

/-!
# Payloads that are no objects

A payload that is no object stands for a resource only in the other form: it is an array of at most
two elements, with metadata in the first place and data in the second (`Document.IsPositional`). All
other payloads without keys are refused, whatever they hold.

A roster stays as it is on every payload without keys but one that has hosts among the data in its
second place (`Document.PlacesHosts`). Those it publishes, as it does for an object
(`Roster.discarded_unless_placed`).
-/

set_option autoImplicit false

namespace HostRoster

/-! ## Resources by places -/

namespace Document

/-- A document has keys. -/
def IsObject (document : Document) : Prop := ∃ members, document = .object members

/-- A resource by places: nothing, metadata alone, or metadata and data. -/
inductive IsPositional : Document → Prop where
  | nothing : IsPositional (.array [])
  | metadata {metadata : Document} (own : metadata.IsMeta) : IsPositional (.array [metadata])
  | both {metadata data : Document} (own : metadata.IsMeta) (texts : data.IsTexts) :
      IsPositional (.array [metadata, data])

/-- A resource by places that has this text under the key of the host list, in its data. -/
inductive PlacesHosts : Document → String → Prop where
  | intro {metadata : Document} {members : List (String × Document)} {text : String}
      (own : metadata.IsMeta) (texts : (object members).IsTexts)
      (hosts : members.lookup hostsKey = some (.string text)) :
      PlacesHosts (.array [metadata, .object members]) text

variable {payload : Document}

/-- Without keys, a resource is one by places. -/
theorem isResource_iff_isPositional (noObject : ¬ payload.IsObject) :
    payload.IsResource ↔ payload.IsPositional := by
  cases payload with
  | object members => exact absurd ⟨members, rfl⟩ noObject
  | null | boolean | integer | real | string =>
      constructor
      · exact False.elim
      · intro positional
        cases positional
  | array elements =>
      constructor
      · rintro ⟨few, own, texts⟩
        rcases elements with _ | ⟨metadata, _ | ⟨data, _ | ⟨surplus, rest⟩⟩⟩
        · exact .nothing
        · exact .metadata (own metadata rfl)
        · exact .both (own metadata rfl) (texts data rfl)
        · simp at few
      · intro positional
        cases positional with
        | nothing => exact ⟨by simp, by simp, by simp⟩
        | metadata own => exact ⟨by simp, by simpa using own, by simp⟩
        | both own texts => exact ⟨by simp, by simpa using own, by simpa using texts⟩

theorem fails_iff_not_isPositional (noObject : ¬ payload.IsObject)
    (unambiguous : payload.Unambiguous) :
    (∃ cause, ConfigResource.fromPayload payload = .error cause) ↔ ¬ payload.IsPositional := by
  rw [← isResource_iff_isPositional noObject]
  cases read : ConfigResource.fromPayload payload with
  | error cause =>
      have refused : ¬ payload.IsResource := fun accepted => by
        have done := (ConfigResource.fromPayload_eq_ok_iff unambiguous).mpr ⟨accepted, rfl⟩
        rw [read] at done
        cases done
      simp [refused]
  | ok resource =>
      have accepted := ((ConfigResource.fromPayload_eq_ok_iff unambiguous).mp read).1
      simp [accepted]

/-- Without keys, hosts are carried in the second place. -/
theorem carries_iff_placesHosts (noObject : ¬ payload.IsObject)
    (unambiguous : payload.Unambiguous) {text : String} :
    payload.Carries text ↔ payload.PlacesHosts text := by
  constructor
  · rintro ⟨resource, read, held⟩
    obtain ⟨accepted, rfl⟩ := (ConfigResource.fromPayload_eq_ok_iff unambiguous).mp read
    have given := ConfigResource.get?_toResource accepted hostsKey
    rw [held, Option.map_some] at given
    cases (isResource_iff_isPositional noObject).mp accepted with
    | nothing | metadata => cases given
    | @both metadata data own texts =>
        cases data with
        | object members => exact .intro own texts given.symm
        | null => cases given
        | boolean | integer | real | string | array => exact texts.elim
  · intro places
    cases places with
    | @intro metadata members text own texts hosts =>
        have accepted := (isResource_iff_isPositional noObject).mpr (.both own texts)
        refine ⟨_, (ConfigResource.fromPayload_eq_ok_iff unambiguous).mpr ⟨accepted, rfl⟩, ?_⟩
        have given := ConfigResource.get?_toResource accepted hostsKey
        have placed : (Document.array [metadata, .object members]).givenAt "data" 1 =
            some (.object members) := rfl
        rw [placed, Option.bind_some, get?, Document.members, hosts] at given
        obtain ⟨found, held, same⟩ := Option.map_eq_some_iff.mp given
        cases same
        exact held

end Document

/-! ## Rosters -/

namespace Roster

/-- An event that asks for no list leaves a roster as it is. -/
theorem handle_of_silent {event : ResourceEvent} (silent : event.published? = none)
    (roster : Roster) : roster.handle event = roster := by
  cases frozen : roster.frozen with
  | true => exact handle_of_frozen frozen event
  | false =>
      have hosts := hosts_handle frozen event
      have same := frozen_handle roster event
      rw [silent, Option.getD_none] at hosts
      calc roster.handle event
          = ⟨(roster.handle event).hosts, (roster.handle event).frozen⟩ := rfl
        _ = ⟨roster.hosts, roster.frozen⟩ := by rw [hosts, same]
        _ = roster := rfl

/-- **A payload without keys is discarded, unless it is a resource by places.** It is refused unless
it is an array of metadata and data, or the beginning of one. If it does not have hosts in its data,
a roster is the same after it, added or updated; if it has, they are the list of every roster that
is not frozen. -/
theorem discarded_unless_placed {payload : Document} (noObject : ¬ payload.IsObject)
    (unambiguous : payload.Unambiguous) :
    ((∃ cause, ConfigResource.fromPayload payload = .error cause) ↔ ¬ payload.IsPositional) ∧
      ((¬ ∃ text, payload.PlacesHosts text) → ∀ (roster : Roster) (old : Option Document),
        roster.handle (.added payload) = roster ∧
          roster.handle (.updated payload old) = roster) ∧
      ∀ text, payload.PlacesHosts text → ∀ (roster : Roster) (old : Option Document),
        roster.frozen = false →
          (roster.handle (.added payload)).hosts = parseHosts text ∧
            (roster.handle (.updated payload old)).hosts = parseHosts text := by
  refine ⟨Document.fails_iff_not_isPositional noObject unambiguous, ?_, ?_⟩
  · intro placeless roster old
    have silent : payload.hosts? = none := by
      rw [Option.eq_none_iff_forall_ne_some]
      intro hosts asked
      obtain ⟨text, carries, -⟩ := Document.hosts?_eq_some_iff.mp asked
      exact placeless ⟨text, (Document.carries_iff_placesHosts noObject unambiguous).mp carries⟩
    have added : (ResourceEvent.added payload).published? = none := silent
    have updated : (ResourceEvent.updated payload old).published? = none := silent
    exact ⟨handle_of_silent added roster, handle_of_silent updated roster⟩
  · intro text places roster old thawed
    have carries := (Document.carries_iff_placesHosts noObject unambiguous).mpr places
    have asked := Document.hosts?_eq_some_iff.mpr ⟨text, carries, rfl⟩
    rw [hosts_handle thawed, hosts_handle thawed, ResourceEvent.published?,
      ResourceEvent.published?, asked]
    exact ⟨rfl, rfl⟩

/-- A resource by places with hosts. -/
def placedHosts : Document :=
  .array [.object [("name", .string "web")], .object [(hostsKey, .string "a,b")]]

theorem unambiguous_placedHosts : placedHosts.Unambiguous := by
  refine .array ?_
  simp only [List.forall_mem_cons, List.not_mem_nil, false_implies, implies_true, and_true]
  constructor
  · exact .object (by simp) (by simpa using .string "web")
  · exact .object (by simp) (by simpa using .string "a,b")

/-- Placed hosts are published, but not with a third element behind them. -/
theorem discarded_unless_placed_before_surplus :
    let surplus : Document := .array [.null, placedHosts, .null]
    let roster : Roster := { hosts := ["c"] }
    ¬ placedHosts.IsObject ∧ placedHosts.Unambiguous ∧
      (roster.handle (.updated placedHosts none)).hosts = ["a", "b"] ∧
      ¬ surplus.IsObject ∧ surplus.Unambiguous ∧
      (∃ cause, ConfigResource.fromPayload surplus = .error cause) ∧
      roster.handle (.added surplus) = roster := by
  intro surplus roster
  have noObject : ∀ elements, ¬ (Document.array elements).IsObject := by
    rintro elements ⟨members, ⟨⟩⟩
  have unambiguous : surplus.Unambiguous := .array (by
    simpa only [List.forall_mem_cons, List.not_mem_nil, false_implies, implies_true, and_true]
      using ⟨.null, unambiguous_placedHosts, .null⟩)
  have own : (Document.object [("name", .string "web")]).IsMeta :=
    ⟨by simp [Document.IsOptionalText], by simp [List.lookup_cons]⟩
  have places : placedHosts.PlacesHosts "a,b" :=
    .intro own (by simp [Document.IsTexts]) List.lookup_cons_self
  have placeless : ¬ ∃ text, surplus.PlacesHosts text := by
    rintro ⟨text, places⟩
    change (Document.array [_, _, _]).PlacesHosts text at places
    cases places
  obtain ⟨-, -, followed⟩ := discarded_unless_placed (noObject _) unambiguous_placedHosts
  obtain ⟨refused, discarded, -⟩ := discarded_unless_placed (noObject _) unambiguous
  refine ⟨noObject _, unambiguous_placedHosts, ?_, noObject _, unambiguous, ?_,
    (discarded placeless roster none).1⟩
  · exact (followed "a,b" places roster none rfl).2.trans (by decide)
  · refine refused.mpr fun positional => ?_
    change (Document.array [_, _, _]).IsPositional at positional
    cases positional

/-- **Not every payload without keys is discarded.** An array is read as a resource, and its hosts
are published. -/
theorem placed_hosts_are_published :
    ¬ placedHosts.IsObject ∧ placedHosts.Unambiguous ∧
      (¬ ∃ cause, ConfigResource.fromPayload placedHosts = .error cause) ∧
      (({} : Roster).handle (.added placedHosts)).hosts ≠ ({} : Roster).hosts ∧
      (({} : Roster).handle (.updated placedHosts none)).hosts ≠ ({} : Roster).hosts := by
  refine ⟨?_, unambiguous_placedHosts, ?_, by decide, by decide⟩
  · rintro ⟨members, ⟨⟩⟩
  · rintro ⟨cause, ⟨⟩⟩

end Roster

end HostRoster

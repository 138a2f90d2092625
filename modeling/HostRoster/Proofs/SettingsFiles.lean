import HostRoster.Proofs.Loading
import HostRoster.Proofs.Overlay
import HostRoster.Proofs.Violations
import HostRoster.Proofs.WrittenDocuments

/-!
# Settings from files

A file may keep any of the keys of written settings (`Document.keep`); in TOML a path that is absent
has no key. Whatever keys are kept, the document is an excerpt, it is the document of some file, and
the settings that are loaded from it are the written ones at the kept keys and the defaults at all
others, if nothing is wrong with these settings taken together (`Settings.loading_overlays`).
-/

set_option autoImplicit false

namespace HostRoster

/-! ## Kept keys -/

namespace Document

/-- The absent value. -/
def isNull : Document → Bool
  | .null => true
  | _ => false

mutual

/-- The document with the members at kept paths alone, those that are absent left out. -/
def keep (kept : List String → Bool) : Document → Document
  | .object members => .object (keepMembers kept members)
  | other => other

/-- The members at kept paths. -/
def keepMembers (kept : List String → Bool) : List (String × Document) → List (String × Document)
  | [] => []
  | (key, value) :: rest =>
    if kept [key] ∧ value.isNull = false then
      (key, keep (fun path => kept (key :: path)) value) :: keepMembers kept rest
    else keepMembers kept rest

end

/-- The whole way along a path is kept. -/
def keepsWay (kept : List String → Bool) : List String → Bool
  | [] => true
  | key :: path => kept [key] && keepsWay (fun path => kept (key :: path)) path

/-- At the end of a path is a value, which is not absent. -/
inductive Reaches : Document → List String → Prop where
  | here {document : Document} (present : document.isNull = false) : Reaches document []
  | member {members : List (String × Document)} {key : String} {value : Document}
      {path : List String} (found : members.lookup key = some value)
      (below : Reaches value path) : Reaches (.object members) (key :: path)

variable {kept : List String → Bool} {members : List (String × Document)}

theorem Reaches.present {document : Document} {path : List String}
    (reaches : document.Reaches path) : document.isNull = false := by
  cases reaches with
  | here present => exact present
  | member => rfl

/-- The members of a kept part are those whose key is kept and whose value is not absent, with what
is kept of the value. -/
theorem mem_keepMembers_iff {key : String} {value : Document} :
    (key, value) ∈ keepMembers kept members ↔
      ∃ held, (key, held) ∈ members ∧ (kept [key] = true ∧ held.isNull = false) ∧
        value = held.keep fun path => kept (key :: path) := by
  induction members with
  | nil => simp [keepMembers]
  | cons first rest ih =>
      obtain ⟨other, own⟩ := first
      rw [keepMembers]
      split
      next stays =>
        rw [List.mem_cons, ih]
        constructor
        · rintro (⟨⟨⟩⟩ | ⟨held, among, chosen, rfl⟩)
          · exact ⟨own, List.mem_cons_self, stays, rfl⟩
          · exact ⟨held, List.mem_cons_of_mem _ among, chosen, rfl⟩
        · rintro ⟨held, ⟨⟩ | ⟨_, among⟩, chosen, rfl⟩
          · exact .inl rfl
          · exact .inr ⟨held, among, chosen, rfl⟩
      next drops =>
        rw [ih]
        constructor
        · rintro ⟨held, among, chosen, rfl⟩
          exact ⟨held, List.mem_cons_of_mem _ among, chosen, rfl⟩
        · rintro ⟨held, ⟨⟩ | ⟨_, among⟩, chosen, rfl⟩
          · exact absurd chosen drops
          · exact ⟨held, among, chosen, rfl⟩

theorem keys_keepMembers_sublist (kept : List String → Bool) (members : List (String × Document)) :
    ((keepMembers kept members).map Prod.fst).Sublist (members.map Prod.fst) := by
  induction members with
  | nil => exact List.Sublist.refl _
  | cons first rest ih =>
      obtain ⟨key, value⟩ := first
      rw [keepMembers]
      split
      · exact ih.cons_cons key
      · exact ih.cons key

/-- What is kept of a document is an excerpt of it. -/
theorem Unambiguous.excerpt_keep {document : Document} (unambiguous : document.Unambiguous)
    (kept : List String → Bool) : (document.keep kept).Excerpt document := by
  induction unambiguous generalizing kept with
  | null | boolean | integer | real | string | array => exact .same _
  | @object members sole each ih =>
      refine .members (sole.sublist (keys_keepMembers_sublist kept members)) ?_
      intro key value own among found
      obtain ⟨held, member, -, rfl⟩ := mem_keepMembers_iff.mp among
      -- Both stand under the same key, of which there is only one.
      obtain rfl : held = own := by
        rw [lookup_of_mem sole member] at found
        exact Option.some.inj found
      exact ih _ member _

/-- **What is kept is given at the paths to values, where the whole way is kept.** -/
theorem Unambiguous.gives_keep {document : Document} (unambiguous : document.Unambiguous)
    {path : List String} (reaches : document.Reaches path) (kept : List String → Bool) :
    (document.keep kept).gives path = keepsWay kept path := by
  induction reaches generalizing kept with
  | here => rfl
  | @member members key value path found below ih =>
      cases unambiguous with
      | object sole each =>
          have member := mem_of_lookup found
          have inner := ih (each _ member) fun path => kept (key :: path)
          rw [keep, gives, keepsWay, get?, Document.members]
          cases stays : kept [key] with
          | false =>
              have absent : (keepMembers kept members).lookup key = none := by
                refine List.lookup_eq_none_iff.mpr fun entry among => ?_
                obtain ⟨-, -, ⟨own, -⟩, -⟩ := mem_keepMembers_iff.mp among
                exact bne_iff_ne.mpr fun same => by rw [← same, stays] at own; cases own
              rw [absent]
              rfl
          | true =>
              have here := mem_keepMembers_iff.mpr ⟨value, member, ⟨stays, below.present⟩, rfl⟩
              rw [lookup_of_mem (sole.sublist (keys_keepMembers_sublist kept members)) here]
              exact inner

end Document

/-! ## Kept settings -/

section Overlays

open Document (Reaches)

variable {given other : List String → Bool}

/-- An overlay depends on what is given at the paths of values alone. -/
theorem RetrySettings.overlay_congr {retry : RetrySettings}
    (same : ∀ path, retry.document.Reaches path → given path = other path) :
    retry.overlay given = retry.overlay other := by
  have name : given ["name"] = other ["name"] := same _ (.member rfl (.here rfl))
  have base : given ["rate_limiter_base_ms"] = other ["rate_limiter_base_ms"] :=
    same _ (.member rfl (.here rfl))
  have max : given ["rate_limiter_max_ms"] = other ["rate_limiter_max_ms"] :=
    same _ (.member rfl (.here rfl))
  rw [overlay, overlay, name, base, max]

theorem WatcherSettings.overlay_congr {watcher : WatcherSettings}
    (same : ∀ path, watcher.document.Reaches path → given path = other path) :
    watcher.overlay given = watcher.overlay other := by
  have namespaceName : given ["namespace"] = other ["namespace"] :=
    same _ (.member rfl (.here rfl))
  rw [overlay, overlay, namespaceName,
    RetrySettings.overlay_congr fun path reaches => same _ (.member rfl reaches)]

/-- A path that is absent is absent in every overlay. -/
theorem TlsSettings.overlay_path {path : Option String} {there here : Bool}
    (same : path ≠ none → there = here) :
    (if there then path else none) = if here then path else none := by
  cases path with
  | none => rw [ite_self, ite_self]
  | some path => rw [same (Option.some_ne_none path)]

theorem TlsSettings.overlay_congr {tls : TlsSettings}
    (same : ∀ path, tls.document.Reaches path → given path = other path) :
    tls.overlay given = tls.overlay other := by
  have mode : given ["mode"] = other ["mode"] := same _ (.member rfl (.here rfl))
  have present : ∀ path : Option String, path ≠ none → (Document.ofText? path).isNull = false := by
    intro path some
    cases path with
    | none => exact absurd rfl some
    | some path => rfl
  rw [overlay, overlay, mode,
    overlay_path fun some => same _ (.member rfl (.here (present _ some))),
    overlay_path fun some => same _ (.member rfl (.here (present _ some))),
    overlay_path fun some => same _ (.member rfl (.here (present _ some)))]

theorem ObservabilitySettings.overlay_congr {observability : ObservabilitySettings}
    (same : ∀ path, observability.document.Reaches path → given path = other path) :
    observability.overlay given = observability.overlay other := by
  have level : given ["log_level"] = other ["log_level"] := same _ (.member rfl (.here rfl))
  have format : given ["log_format"] = other ["log_format"] := same _ (.member rfl (.here rfl))
  rw [overlay, overlay, level, format]

theorem Settings.overlay_congr {settings : Settings}
    (same : ∀ path, settings.document.Reaches path → given path = other path) :
    settings.overlay given = settings.overlay other := by
  rw [overlay, overlay,
    WatcherSettings.overlay_congr fun path reaches => same _ (.member rfl reaches),
    TlsSettings.overlay_congr fun path reaches => same _ (.member rfl reaches),
    ObservabilitySettings.overlay_congr fun path reaches => same _ (.member rfl reaches)]

end Overlays

/-- What holds of texts, of paths and of both delays, and of an object if it holds of the members,
holds of the document of settings. The objects in it are three deep. -/
theorem Settings.document_induction (settings : Settings) (holds : Nat → Document → Prop)
    (text : ∀ levels text, holds levels (.string text))
    (path : ∀ levels path, holds levels (.ofText? path))
    (base : ∀ levels, holds levels (.integer settings.watcher.retry.baseMilliseconds))
    (max : ∀ levels, holds levels (.integer settings.watcher.retry.maxMilliseconds))
    (object : ∀ levels (members : List (String × Document)), (members.map Prod.fst).Nodup →
      (∀ member ∈ members, holds levels member.2) → holds (levels + 1) (.object members)) :
    holds 3 settings.document := by
  have retry : holds 1 settings.watcher.retry.document := by
    refine object 0 _ (by simp) (List.forall_mem_cons.mpr ⟨text 0 _, ?_⟩)
    exact List.forall_mem_cons.mpr ⟨base 0, List.forall_mem_singleton.mpr (max 0)⟩
  have watcher : holds 2 settings.watcher.document := by
    refine object 1 _ (by simp) (List.forall_mem_cons.mpr ⟨text 1 _, ?_⟩)
    exact List.forall_mem_singleton.mpr retry
  have tls : holds 2 settings.tls.document := by
    refine object 1 _ (by simp) (List.forall_mem_cons.mpr ⟨text 1 _, ?_⟩)
    refine List.forall_mem_cons.mpr ⟨path 1 _, List.forall_mem_cons.mpr ⟨path 1 _, ?_⟩⟩
    exact List.forall_mem_singleton.mpr (path 1 _)
  have observability : holds 2 settings.observability.document := by
    refine object 1 _ (by simp) (List.forall_mem_cons.mpr ⟨text 1 _, ?_⟩)
    exact List.forall_mem_singleton.mpr (text 1 _)
  refine object 2 _ (by simp) (List.forall_mem_cons.mpr ⟨watcher, ?_⟩)
  exact List.forall_mem_cons.mpr ⟨tls, List.forall_mem_singleton.mpr observability⟩

/-- The document of settings has no key twice. -/
theorem Settings.unambiguous_document (settings : Settings) : settings.document.Unambiguous := by
  have path : ∀ path, (Document.ofText? path).Unambiguous := by
    intro path
    cases path with
    | none => exact .null
    | some path => exact .string path
  exact settings.document_induction (fun _ document => document.Unambiguous) (fun _ => .string)
    (fun _ => path) (fun _ => .integer _) (fun _ => .integer _) (fun _ _ => .object)

/-! ## Files -/

namespace Toml

/-- What is kept of a document can be written, whatever is kept. A path that is absent is never
kept, so that nothing is required of it. -/
def IsKeepable (levels : Nat) (document : Document) : Prop :=
  document.isNull = false → ∀ kept, IsWritable levels (document.keep kept)

variable {levels : Nat}

theorem isKeepable_string (text : String) : IsKeepable levels (.string text) :=
  fun _ _ => .string text

theorem isKeepable_text (text : Option String) : IsKeepable levels (.ofText? text) := by
  cases text with
  | none => exact fun present => nomatch present
  | some text => exact isKeepable_string text

theorem isKeepable_word {word : Nat} (small : word < Nat.pow 2 63) :
    IsKeepable levels (.integer word) :=
  fun _ _ => .integer (by omega) (Int.ofNat_lt.mpr small)

theorem isKeepable_object {members : List (String × Document)} (sole : (members.map Prod.fst).Nodup)
    (each : ∀ member ∈ members, IsKeepable levels member.2) :
    IsKeepable (levels + 1) (.object members) := by
  intro _ kept
  refine .object (sole.sublist (Document.keys_keepMembers_sublist kept members)) ?_
  rintro ⟨key, value⟩ among
  obtain ⟨held, member, ⟨-, present⟩, rfl⟩ := Document.mem_keepMembers_iff.mp among
  exact each _ member present _

/-- The content of a file is a text that has this document. -/
def Holds (content : Bytes) (document : Document) : Prop :=
  ∃ text, Bytes.text? content = some text ∧ read text = some document

/-- Every document that can be written is that of a file. -/
theorem exists_holds {members : List (String × Document)} (shallow : levels < nestingLimit)
    (writable : IsWritable (levels + 1) (.object members)) :
    ∃ content, Holds content (.object members) := by
  let text := String.ofList (writeLines members)
  refine ⟨text.toByteArray.data.toList, text, ?_, read_write shallow writable⟩
  rw [Bytes.text?, Array.toArray_toList]
  exact dif_pos text.isValidUTF8

end Toml

/-- **Whatever is kept of settings, there is a file that has it**, if the delays are whole numbers
of TOML. -/
theorem Settings.exists_holds_keep {settings : Settings}
    (small : settings.watcher.retry.InSignedWords) (kept : List String → Bool) :
    ∃ content, Toml.Holds content (settings.document.keep kept) := by
  have keepable : Toml.IsKeepable 3 settings.document :=
    settings.document_induction Toml.IsKeepable (fun _ => Toml.isKeepable_string)
      (fun _ => Toml.isKeepable_text) (fun _ => Toml.isKeepable_word small.1)
      (fun _ => Toml.isKeepable_word small.2) (fun _ _ => Toml.isKeepable_object)
  exact Toml.exists_holds (by decide) (keepable rfl kept)

/-- A file that has a document is loaded to the settings of the document, if nothing is wrong with
them. -/
theorem Settings.load_of_holds {reader : FileReader} {path : String} {content : Bytes}
    {document : Document} {settings : Settings} (found : reader path = .ok content)
    (holds : Toml.Holds content document)
    (read : ofDocument .toml document = .ok settings) :
    load reader path =
      if settings.violations = [] then .ok settings else .error (.invalid settings.violations) := by
  obtain ⟨text, decoded, parsed⟩ := holds
  simp only [load, ofText, found, decoded, parsed, read]

namespace Settings

/-- **Loading overlays the defaults, and then validates all.**

Any excerpt of written settings is read as these settings at the paths that it gives, and as the
defaults at all others. Every choice of keys makes an excerpt that gives just these, which some file
has. The violations of settings are the violated conditions, each once and in order. A file with an
excerpt is loaded to the overlay if this has no violations, and else refused with just these. -/
theorem loading_overlays :
    (∀ (dialect : Dialect) (settings : Settings) (document : Document),
      document.Excerpt settings.document →
        ofDocument dialect document = .ok (settings.overlay document.gives)) ∧
    (∀ (settings : Settings) (kept : List String → Bool),
      (settings.document.keep kept).Excerpt settings.document ∧
      settings.overlay (settings.document.keep kept).gives =
        settings.overlay (Document.keepsWay kept) ∧
      (settings.watcher.retry.InSignedWords →
        ∃ content, Toml.Holds content (settings.document.keep kept))) ∧
    (∀ settings : Settings,
      (∀ violation, violation ∈ settings.violations ↔ settings.Violated violation) ∧
      settings.violations.Pairwise fun earlier later => earlier.place < later.place) ∧
    ∀ (settings : Settings) (document : Document) (reader : FileReader) (path : String)
      (content : Bytes), document.Excerpt settings.document → reader path = .ok content →
      Toml.Holds content document →
      let overlaid := settings.overlay document.gives
      (load reader path = .ok overlaid ↔ overlaid.violations = []) ∧
        (overlaid.violations ≠ [] → load reader path = .error (.invalid overlaid.violations)) := by
  refine ⟨fun dialect settings document => ofDocument_excerpt, fun settings kept => ?_,
    fun settings => ⟨fun _ => mem_violations_iff, violations_ordered settings⟩, ?_⟩
  · have unambiguous := settings.unambiguous_document
    have same : settings.overlay (settings.document.keep kept).gives =
        settings.overlay (Document.keepsWay kept) :=
      overlay_congr fun path reaches => unambiguous.gives_keep reaches kept
    exact ⟨unambiguous.excerpt_keep kept, same, fun small => exists_holds_keep small kept⟩
  · intro settings document reader path content excerpt found holds overlaid
    have loaded := load_of_holds found holds (ofDocument_excerpt excerpt)
    change load reader path = if overlaid.violations = [] then _ else _ at loaded
    by_cases valid : overlaid.violations = []
    · rw [loaded, if_pos valid]
      exact ⟨iff_of_true rfl valid, fun invalid => absurd valid invalid⟩
    · rw [loaded, if_neg valid]
      exact ⟨iff_of_false nofun valid, fun _ => rfl⟩

/-- Of settings with delays of 70000 and 80000 milliseconds and an unknown layout of the log, a file
keeps the first delay and the layout, and has two keys of its own. The longest delay is then the
default, and the file is refused for the order of the delays and for the layout. -/
theorem loading_overlays_before_default_max :
    let settings : Settings :=
      { watcher := { retry := { baseMilliseconds := 70000, maxMilliseconds := 80000 } },
        observability := { logFormat := "xml" } }
    let document : Document := .object [("debug", .boolean true),
      ("watcher", .object [("retry", .object [("rate_limiter_base_ms", .integer 70000),
        ("owner", .array [.string "a"])])]),
      ("observability", .object [("log_format", .string "xml")])]
    document.Excerpt settings.document ∧
      ∃ content, Toml.Holds content document ∧
        load (fun _ => .ok content) "settings.toml" =
          .error (.invalid [.baseExceedsMax 70000 60000, .unknownLogFormat "xml"]) := by
  intro settings document
  have retry : Document.Excerpt (.object [("rate_limiter_base_ms", .integer 70000),
      ("owner", .array [.string "a"])]) settings.watcher.retry.document := by
    refine .members (by simp) fun key value kept among found => ?_
    simp only [List.mem_cons, Prod.mk.injEq, List.not_mem_nil, or_false] at among
    rcases among with ⟨rfl, rfl⟩ | ⟨rfl, rfl⟩ <;> cases found
    exact .same _
  have excerpt : document.Excerpt settings.document := by
    refine .members (by simp) fun key value kept among found => ?_
    simp only [List.mem_cons, Prod.mk.injEq, List.not_mem_nil, or_false] at among
    rcases among with ⟨rfl, rfl⟩ | ⟨rfl, rfl⟩ | ⟨rfl, rfl⟩ <;> cases found
    · refine .members (by simp) fun key value kept among found => ?_
      cases List.mem_singleton.mp among
      cases found
      exact retry
    · refine .members (by simp) fun key value kept among found => ?_
      cases List.mem_singleton.mp among
      cases found
      exact .same _
  have written : Toml.IsWritable 2 (.object [("rate_limiter_base_ms", .integer 70000),
      ("owner", .array [.string "a"])]) :=
    .object (by simp) (List.forall_mem_cons.mpr ⟨.integer (by decide) (by decide),
      List.forall_mem_singleton.mpr (.array (List.forall_mem_singleton.mpr (.string "a")))⟩)
  have writable : Toml.IsWritable 4 document := by
    refine .object (by simp) (List.forall_mem_cons.mpr ⟨.boolean true, ?_⟩)
    refine List.forall_mem_cons.mpr ⟨?_, List.forall_mem_singleton.mpr ?_⟩
    · exact .object (by simp) (List.forall_mem_singleton.mpr written)
    · exact .object (by simp) (List.forall_mem_singleton.mpr (.string "xml"))
  obtain ⟨content, holds⟩ := Toml.exists_holds (by decide) writable
  have violations : (settings.overlay document.gives).violations =
      [.baseExceedsMax 70000 60000, .unknownLogFormat "xml"] := by decide
  have loaded := (loading_overlays.2.2.2 settings document (fun _ => .ok content) "settings.toml"
    content excerpt rfl holds).2
  rw [violations] at loaded
  exact ⟨excerpt, content, holds, loaded (List.cons_ne_nil _ _)⟩

end Settings

end HostRoster

import HostRoster.Proofs.Records
import HostRoster.Settings

/-!
# Settings from a part of a document

Settings are written as a document with a member for each of them. A document that keeps some of
these members, as they are, and has any others besides, is an excerpt (`Document.Excerpt`). The
settings that are read from it are the written ones where a key was kept, and the defaults elsewhere
(`Settings.ofDocument_excerpt`): no key has an effect on what another one sets.
-/

set_option autoImplicit false

namespace HostRoster

/-! ## Excerpts -/

namespace Document

/-- A document keeps a part of another: it is the same, or it has members under different keys, of
which those under a key of the other keep a part of what stands there. Members under other keys are
free. -/
inductive Excerpt : Document → Document → Prop where
  | same (document : Document) : Excerpt document document
  | members {part whole : List (String × Document)} (sole : (part.map Prod.fst).Nodup)
      (each : ∀ key value kept, (key, value) ∈ part → whole.lookup key = some kept →
        Excerpt value kept) :
      Excerpt (.object part) (.object whole)

/-- A document has something at the end of a path. -/
def gives (document : Document) : List String → Bool
  | [] => true
  | key :: path => (document.get? key).any (·.gives path)

@[simp] theorem gives_object_singleton (members : List (String × Document)) (key : String) :
    (object members).gives [key] = (members.lookup key).isSome := by
  rw [gives, get?, Document.members]
  cases members.lookup key <;> rfl

variable {document whole : Document}

/-- Of a document without members only the whole can be kept. -/
theorem Excerpt.eq_of_memberless (excerpt : document.Excerpt whole)
    (memberless : ∀ members, whole ≠ .object members) : document = whole := by
  cases excerpt with
  | same => rfl
  | members => exact absurd rfl (memberless _)

theorem mem_of_lookup {members : List (String × Document)} {key : String} {value : Document}
    (found : members.lookup key = some value) : (key, value) ∈ members := by
  obtain ⟨before, after, rfl, -⟩ := List.lookup_eq_some_iff.mp found
  exact List.mem_append_right _ List.mem_cons_self

theorem lookup_of_mem {members : List (String × Document)} (sole : (members.map Prod.fst).Nodup)
    {key : String} {value : Document} (member : (key, value) ∈ members) :
    members.lookup key = some value := by
  obtain ⟨before, after, rfl⟩ := List.append_of_mem member
  rw [List.map_append, List.map_cons] at sole
  obtain ⟨-, -, apart⟩ := List.nodup_append.mp sole
  refine List.lookup_eq_some_iff.mpr ⟨before, after, rfl, fun other among => ?_⟩
  exact bne_iff_ne.mpr (apart _ (List.mem_map_of_mem among) _ List.mem_cons_self).symm

/-- What an excerpt of an object has under a key of that. -/
theorem Excerpt.of_object {own : List (String × Document)} (sole : (own.map Prod.fst).Nodup)
    (excerpt : document.Excerpt (.object own)) :
    ∃ part, document = .object part ∧ (part.map Prod.fst).Nodup ∧
      ∀ key value kept, part.lookup key = some value → own.lookup key = some kept →
        value.Excerpt kept := by
  cases excerpt with
  | same =>
      refine ⟨own, rfl, sole, fun key value kept found held => ?_⟩
      rw [found] at held
      cases held
      exact .same value
  | members partSole each =>
      exact ⟨_, rfl, partSole, fun key value kept found held =>
        each key value kept (mem_of_lookup found) held⟩

end Document

/-! ## Fields -/

section Fields

variable {Record Value : Type} {given : List (String × Document)} {fields : List (Field Record)}

/-- A field reads a value and puts it into the record, at the place where `get` finds it. -/
structure Field.Stores (field : Field Record) (read : Document → Except ShapeError Value)
    (get : Record → Value) (put : Value → Record → Record) : Prop where
  sets : ∀ value record, field.set value record = (read value).map (put · record)
  keeps : ∀ record, put (get record) record = record

/-- What comes of a value: what is read from what stands under its key, or what it was. -/
def Document.Outcome (given : List (String × Document)) (key : String)
    (read : Document → Except ShapeError Value) (start result : Value) : Prop :=
  match given.lookup key with
  | none => result = start
  | some value => read value = .ok result

/-- A field is set to the outcome of its value. -/
theorem setGiven_cons_of_outcome {field : Field Record} {read : Document → Except ShapeError Value}
    {get : Record → Value} {put : Value → Record → Record} (stores : field.Stores read get put)
    {record : Record} {result : Value}
    (outcome : Document.Outcome given field.name read (get record) result) :
    setGiven given (field :: fields) record = setGiven given fields (put result record) := by
  rw [setGiven]
  rw [Document.Outcome] at outcome
  cases found : given.lookup field.name with
  | none =>
      rw [found] at outcome
      rw [outcome, stores.keeps]
  | some value =>
      rw [found] at outcome
      simp only [stores.sets, outcome, Except.map, Except.bind]

/-- **What is read from members is what they give for the fields.** -/
theorem readRecord_object_eq_ok (distinct : (fields.map Field.name).Nodup)
    (commute : fields.Pairwise Field.Commutes) (sole : (given.map Prod.fst).Nodup)
    {dialect : Dialect} {name : String} {start result : Record}
    (set : setGiven given fields start = .ok result) :
    readRecord dialect name fields start (.object given) = .ok result := by
  refine (readRecord_eq_ok_iff distinct commute ?_).mpr ⟨trivial, set⟩
  rintro members ⟨⟩
  exact sole

end Fields

/-! ## Fields that commute -/

theorem RetrySettings.fields_commute : fields.Pairwise Field.Commutes := by
  simp only [fields, List.pairwise_cons, List.forall_mem_cons, List.not_mem_nil, false_implies,
    implies_true, List.Pairwise.nil, and_true]
  refine ⟨⟨?_, ?_⟩, ?_⟩ <;>
    exact Field.commutes_of_map (fun _ _ => rfl) (fun _ _ => rfl) fun _ _ _ => rfl

theorem WatcherSettings.fields_commute (dialect : Dialect) :
    (fields dialect).Pairwise Field.Commutes :=
  List.pairwise_pair.mpr
    (Field.commutes_of_map (fun _ _ => rfl) (fun _ _ => rfl) fun _ _ _ => rfl)

theorem TlsSettings.fields_commute : fields.Pairwise Field.Commutes := by
  simp only [fields, List.pairwise_cons, List.forall_mem_cons, List.not_mem_nil, false_implies,
    implies_true, List.Pairwise.nil, and_true]
  refine ⟨⟨?_, ?_, ?_⟩, ⟨?_, ?_⟩, ?_⟩ <;>
    exact Field.commutes_of_map (fun _ _ => rfl) (fun _ _ => rfl) fun _ _ _ => rfl

theorem ObservabilitySettings.fields_commute : fields.Pairwise Field.Commutes :=
  List.pairwise_pair.mpr
    (Field.commutes_of_map (fun _ _ => rfl) (fun _ _ => rfl) fun _ _ _ => rfl)

theorem Settings.fields_commute (dialect : Dialect) :
    (fields dialect).Pairwise Field.Commutes := by
  simp only [fields, List.pairwise_cons, List.forall_mem_cons, List.not_mem_nil, false_implies,
    implies_true, List.Pairwise.nil, and_true]
  refine ⟨⟨?_, ?_⟩, ?_⟩ <;>
    exact Field.commutes_of_map (fun _ _ => rfl) (fun _ _ => rfl) fun _ _ _ => rfl

/-! ## Written settings -/

/-- The document of retry settings. -/
def RetrySettings.document (retry : RetrySettings) : Document :=
  .object [("name", .string retry.name), ("rate_limiter_base_ms", .integer retry.baseMilliseconds),
    ("rate_limiter_max_ms", .integer retry.maxMilliseconds)]

/-- The document of watcher settings. -/
def WatcherSettings.document (watcher : WatcherSettings) : Document :=
  .object [("namespace", .string watcher.namespaceName), ("retry", watcher.retry.document)]

/-- The document of connection settings. -/
def TlsSettings.document (tls : TlsSettings) : Document :=
  .object [("mode", .string tls.mode), ("ca_cert_path", .ofText? tls.authorityPath),
    ("client_cert_path", .ofText? tls.certificatePath), ("client_key_path", .ofText? tls.keyPath)]

/-- The document of reporting settings. -/
def ObservabilitySettings.document (observability : ObservabilitySettings) : Document :=
  .object [("log_level", .string observability.logLevel),
    ("log_format", .string observability.logFormat)]

/-- The document of settings. -/
def Settings.document (settings : Settings) : Document :=
  .object [("watcher", settings.watcher.document), ("tls", settings.tls.document),
    ("observability", settings.observability.document)]

/-! ## Overlays

An overlay has the settings at the paths that are given and the defaults at all others. -/

/-- Retry settings where they are given, and the defaults elsewhere. -/
def RetrySettings.overlay (retry : RetrySettings) (given : List String → Bool) :
    RetrySettings where
  name := if given ["name"] then retry.name else ({} : RetrySettings).name
  baseMilliseconds := if given ["rate_limiter_base_ms"] then retry.baseMilliseconds
    else ({} : RetrySettings).baseMilliseconds
  maxMilliseconds := if given ["rate_limiter_max_ms"] then retry.maxMilliseconds
    else ({} : RetrySettings).maxMilliseconds

/-- Watcher settings where they are given, and the defaults elsewhere. -/
def WatcherSettings.overlay (watcher : WatcherSettings) (given : List String → Bool) :
    WatcherSettings where
  namespaceName := if given ["namespace"] then watcher.namespaceName
    else ({} : WatcherSettings).namespaceName
  retry := watcher.retry.overlay fun path => given ("retry" :: path)

/-- Connection settings where they are given, and the defaults elsewhere. -/
def TlsSettings.overlay (tls : TlsSettings) (given : List String → Bool) : TlsSettings where
  mode := if given ["mode"] then tls.mode else ({} : TlsSettings).mode
  authorityPath := if given ["ca_cert_path"] then tls.authorityPath
    else ({} : TlsSettings).authorityPath
  certificatePath := if given ["client_cert_path"] then tls.certificatePath
    else ({} : TlsSettings).certificatePath
  keyPath := if given ["client_key_path"] then tls.keyPath else ({} : TlsSettings).keyPath

/-- Reporting settings where they are given, and the defaults elsewhere. -/
def ObservabilitySettings.overlay (observability : ObservabilitySettings)
    (given : List String → Bool) : ObservabilitySettings where
  logLevel := if given ["log_level"] then observability.logLevel
    else ({} : ObservabilitySettings).logLevel
  logFormat := if given ["log_format"] then observability.logFormat
    else ({} : ObservabilitySettings).logFormat

/-- Settings where they are given, and the defaults elsewhere. -/
def Settings.overlay (settings : Settings) (given : List String → Bool) : Settings where
  watcher := settings.watcher.overlay fun path => given ("watcher" :: path)
  tls := settings.tls.overlay fun path => given ("tls" :: path)
  observability := settings.observability.overlay fun path => given ("observability" :: path)

/-! ## Reading excerpts -/

section Reading

variable {document : Document} {dialect : Dialect}

theorem Document.Excerpt.asText {text : String} {expected : Expectation}
    (excerpt : document.Excerpt (.string text)) : document.asText expected = .ok text := by
  rw [excerpt.eq_of_memberless (by simp)]
  rfl

theorem Document.Excerpt.asWord {word : Nat} (excerpt : document.Excerpt (.integer word)) :
    document.asWord = .ok word := by
  rw [excerpt.eq_of_memberless (by simp)]
  rfl

theorem Document.Excerpt.asOptionalText {text : Option String} {expected : Expectation}
    (excerpt : document.Excerpt (.ofText? text)) :
    document.asOptionalText expected = .ok text := by
  rw [excerpt.eq_of_memberless (by cases text <;> simp [Document.ofText?])]
  cases text <;> rfl

/-- A value is what it was, unless it is given. -/
theorem Document.outcome_leaf {Value : Type} {part : List (String × Document)} {key : String}
    {read : Document → Except ShapeError Value} {own start : Value}
    (reads : ∀ value, part.lookup key = some value → read value = .ok own) :
    Outcome part key read start (if (object part).gives [key] then own else start) := by
  rw [Outcome, gives_object_singleton]
  cases found : part.lookup key with
  | none => rfl
  | some value => exact reads value found

/-- An overlay comes of a record, also if no part of it is given. -/
theorem Document.outcome_overlay {Value : Type} {part : List (String × Document)} {key : String}
    {read : Document → Except ShapeError Value} (overlay : (List String → Bool) → Value)
    (reads : ∀ value, part.lookup key = some value → read value = .ok (overlay value.gives)) :
    Outcome part key read (overlay fun _ => false)
      (overlay fun path => (object part).gives (key :: path)) := by
  have inner : ∀ path, (object part).gives (key :: path) =
      (part.lookup key).any (·.gives path) := fun _ => rfl
  simp only [Outcome, inner]
  cases found : part.lookup key with
  | none => rfl
  | some value => exact reads value found

theorem RetrySettings.readRecord_excerpt {retry : RetrySettings}
    (excerpt : document.Excerpt retry.document) :
    readRecord dialect "WorkQueueSettings" fields {} document =
      .ok (retry.overlay document.gives) := by
  obtain ⟨part, rfl, sole, keeps⟩ := excerpt.of_object (by simp)
  have name : Document.Outcome part "name" (Document.asText .text) _
      (retry.overlay (Document.object part).gives).name :=
    Document.outcome_leaf fun value found => (keeps _ value _ found rfl).asText
  have base : Document.Outcome part "rate_limiter_base_ms" Document.asWord _
      (retry.overlay (Document.object part).gives).baseMilliseconds :=
    Document.outcome_leaf fun value found => (keeps _ value _ found rfl).asWord
  have max : Document.Outcome part "rate_limiter_max_ms" Document.asWord _
      (retry.overlay (Document.object part).gives).maxMilliseconds :=
    Document.outcome_leaf fun value found => (keeps _ value _ found rfl).asWord
  -- The fields are set one after the other, each to what comes of its own value.
  refine readRecord_object_eq_ok (by decide) fields_commute sole ?_
  rw [fields, setGiven_cons_of_outcome ⟨fun _ _ => rfl, fun _ => rfl⟩ name,
    setGiven_cons_of_outcome ⟨fun _ _ => rfl, fun _ => rfl⟩ base,
    setGiven_cons_of_outcome ⟨fun _ _ => rfl, fun _ => rfl⟩ max]
  rfl

theorem WatcherSettings.readRecord_excerpt {watcher : WatcherSettings}
    (excerpt : document.Excerpt watcher.document) :
    readRecord dialect "WatcherSettings" (fields dialect) {} document =
      .ok (watcher.overlay document.gives) := by
  obtain ⟨part, rfl, sole, keeps⟩ := excerpt.of_object (by simp)
  have namespaceName : Document.Outcome part "namespace" (Document.asText .text) _
      (watcher.overlay (Document.object part).gives).namespaceName :=
    Document.outcome_leaf fun value found => (keeps _ value _ found rfl).asText
  have retry : Document.Outcome part "retry"
      (readRecord dialect "WorkQueueSettings" RetrySettings.fields {}) _
      (watcher.overlay (Document.object part).gives).retry :=
    Document.outcome_overlay watcher.retry.overlay fun value found =>
      RetrySettings.readRecord_excerpt (keeps _ value _ found rfl)
  refine readRecord_object_eq_ok (by simp [fields]) (fields_commute dialect) sole ?_
  rw [fields, setGiven_cons_of_outcome ⟨fun _ _ => rfl, fun _ => rfl⟩ namespaceName,
    setGiven_cons_of_outcome ⟨fun _ _ => rfl, fun _ => rfl⟩ retry]
  rfl

theorem TlsSettings.readRecord_excerpt {tls : TlsSettings}
    (excerpt : document.Excerpt tls.document) :
    readRecord dialect "TlsSettings" fields {} document = .ok (tls.overlay document.gives) := by
  obtain ⟨part, rfl, sole, keeps⟩ := excerpt.of_object (by simp)
  have mode : Document.Outcome part "mode" (Document.asText .text) _
      (tls.overlay (Document.object part).gives).mode :=
    Document.outcome_leaf fun value found => (keeps _ value _ found rfl).asText
  have authority : Document.Outcome part "ca_cert_path" (Document.asOptionalText .path) _
      (tls.overlay (Document.object part).gives).authorityPath :=
    Document.outcome_leaf fun value found => (keeps _ value _ found rfl).asOptionalText
  have certificate : Document.Outcome part "client_cert_path" (Document.asOptionalText .path) _
      (tls.overlay (Document.object part).gives).certificatePath :=
    Document.outcome_leaf fun value found => (keeps _ value _ found rfl).asOptionalText
  have key : Document.Outcome part "client_key_path" (Document.asOptionalText .path) _
      (tls.overlay (Document.object part).gives).keyPath :=
    Document.outcome_leaf fun value found => (keeps _ value _ found rfl).asOptionalText
  refine readRecord_object_eq_ok (by decide) fields_commute sole ?_
  rw [fields, setGiven_cons_of_outcome ⟨fun _ _ => rfl, fun _ => rfl⟩ mode,
    setGiven_cons_of_outcome ⟨fun _ _ => rfl, fun _ => rfl⟩ authority,
    setGiven_cons_of_outcome ⟨fun _ _ => rfl, fun _ => rfl⟩ certificate,
    setGiven_cons_of_outcome ⟨fun _ _ => rfl, fun _ => rfl⟩ key]
  rfl

theorem ObservabilitySettings.readRecord_excerpt {observability : ObservabilitySettings}
    (excerpt : document.Excerpt observability.document) :
    readRecord dialect "ObservabilityConfig" fields {} document =
      .ok (observability.overlay document.gives) := by
  obtain ⟨part, rfl, sole, keeps⟩ := excerpt.of_object (by simp)
  have level : Document.Outcome part "log_level" (Document.asText .text) _
      (observability.overlay (Document.object part).gives).logLevel :=
    Document.outcome_leaf fun value found => (keeps _ value _ found rfl).asText
  have format : Document.Outcome part "log_format" (Document.asText .text) _
      (observability.overlay (Document.object part).gives).logFormat :=
    Document.outcome_leaf fun value found => (keeps _ value _ found rfl).asText
  refine readRecord_object_eq_ok (by decide) fields_commute sole ?_
  rw [fields, setGiven_cons_of_outcome ⟨fun _ _ => rfl, fun _ => rfl⟩ level,
    setGiven_cons_of_outcome ⟨fun _ _ => rfl, fun _ => rfl⟩ format]
  rfl

/-- **Reading an excerpt gives the settings where they were kept, and the defaults elsewhere.** -/
theorem Settings.ofDocument_excerpt {settings : Settings}
    (excerpt : document.Excerpt settings.document) :
    ofDocument dialect document = .ok (settings.overlay document.gives) := by
  obtain ⟨part, rfl, sole, keeps⟩ := excerpt.of_object (by simp)
  have watcher : Document.Outcome part "watcher"
      (readRecord dialect "WatcherSettings" (WatcherSettings.fields dialect) {}) _
      (settings.overlay (Document.object part).gives).watcher :=
    Document.outcome_overlay settings.watcher.overlay fun value found =>
      WatcherSettings.readRecord_excerpt (keeps _ value _ found rfl)
  have tls : Document.Outcome part "tls" (readRecord dialect "TlsSettings" TlsSettings.fields {}) _
      (settings.overlay (Document.object part).gives).tls :=
    Document.outcome_overlay settings.tls.overlay fun value found =>
      TlsSettings.readRecord_excerpt (keeps _ value _ found rfl)
  have observability : Document.Outcome part "observability"
      (readRecord dialect "ObservabilityConfig" ObservabilitySettings.fields {}) _
      (settings.overlay (Document.object part).gives).observability :=
    Document.outcome_overlay settings.observability.overlay fun value found =>
      ObservabilitySettings.readRecord_excerpt (keeps _ value _ found rfl)
  refine readRecord_object_eq_ok (by simp [fields]) (fields_commute dialect) sole ?_
  rw [fields, setGiven_cons_of_outcome ⟨fun _ _ => rfl, fun _ => rfl⟩ watcher,
    setGiven_cons_of_outcome ⟨fun _ _ => rfl, fun _ => rfl⟩ tls,
    setGiven_cons_of_outcome ⟨fun _ _ => rfl, fun _ => rfl⟩ observability]
  rfl

end Reading

end HostRoster

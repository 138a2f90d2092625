import HostRoster.Proofs.Payload
import HostRoster.Proofs.Records

/-!
# The payloads that are resources

A payload is a resource in one of two forms: an object with its metadata and its data under their
keys, or an array with the two in their places (`Document.IsResource`). The metadata has the same
two forms (`Document.IsMeta`). What is read from a payload is what stands in either form under a key
or in its place (`Document.givenAt`), so that the two forms carry the same resources, and what no
field asks for changes nothing (`ConfigResource.fromPayload_grammar`).
-/

set_option autoImplicit false

namespace HostRoster

/-! ## Shapes -/

namespace Document

/-- What a document gives for a field of a record: what stands under its key or in its place. -/
def givenAt (document : Document) (key : String) (place : Nat) : Option Document :=
  match document with
  | .object members => members.lookup key
  | .array elements => elements[place]?
  | _ => none

/-- A text, or null for none. -/
def IsOptionalText : Document → Prop
  | .null => True
  | .string _ => True
  | _ => False

/-- An object of texts, or null for none. -/
def IsTexts : Document → Prop
  | .null => True
  | .object members => ∀ member ∈ members, ∃ text, member.2 = .string text
  | _ => False

/-- The identifying part of a resource, by keys or by places. -/
def IsMeta : Document → Prop
  | .object members =>
    (∀ value, members.lookup "name" = some value → value.IsOptionalText) ∧
      ∀ value, members.lookup "namespace" = some value → value.IsOptionalText
  | .array elements => elements.length ≤ 2 ∧ ∀ element ∈ elements, element.IsOptionalText
  | _ => False

/-- A resource, by keys or by places. -/
def IsResource : Document → Prop
  | .object members =>
    (∀ value, members.lookup "metadata" = some value → value.IsMeta) ∧
      ∀ value, members.lookup "data" = some value → value.IsTexts
  | .array elements =>
    elements.length ≤ 2 ∧ (∀ value, elements[0]? = some value → value.IsMeta) ∧
      ∀ value, elements[1]? = some value → value.IsTexts
  | _ => False

/-- The texts under the keys of members. -/
def textsOf : List (String × Document) → List (String × String)
  | [] => []
  | (key, .string text) :: members => (key, text) :: textsOf members
  | _ :: members => textsOf members

/-- The texts of an object of texts. -/
def texts? : Document → Option (List (String × String))
  | .object members => some (textsOf members)
  | _ => none

/-- The identifying part that a document stands for. -/
def toMeta (document : Document) : ResourceMeta where
  name := (document.givenAt "name" 0).bind text?
  namespaceName := (document.givenAt "namespace" 1).bind text?

/-- The resource that a document stands for. -/
def toResource (document : Document) : ConfigResource where
  metadata := (document.givenAt "metadata" 0).elim {} toMeta
  data := (document.givenAt "data" 1).bind texts?

/-! ## Reading values -/

theorem asOptionalText_eq_ok_iff {expected : Expectation} {document : Document}
    {text : Option String} :
    document.asOptionalText expected = .ok text ↔
      document.IsOptionalText ∧ document.text? = text := by
  cases document <;> simp [asOptionalText, asText, Except.map, IsOptionalText, text?]

theorem asTexts_eq_ok_iff {members : List (String × Document)} {texts : List (String × String)} :
    asTexts members = .ok texts ↔
      (∀ member ∈ members, ∃ text, member.2 = .string text) ∧ textsOf members = texts := by
  induction members generalizing texts with
  | nil => simp [asTexts, textsOf]
  | cons member members ih =>
      obtain ⟨key, value⟩ := member
      rw [List.forall_mem_cons]
      cases value with
      | string text =>
          have read : asTexts ((key, .string text) :: members) =
              (asTexts members).map ((key, text) :: ·) := by
            rw [asTexts]
            cases asTexts members <;> rfl
          have first : ∃ own, Document.string text = .string own := ⟨text, rfl⟩
          rw [read, map_eq_ok_iff, textsOf, and_iff_right first]
          simp only [ih, and_assoc, exists_eq_left', exists_and_left]
      | null | boolean | integer | real | array | object =>
          simp [asTexts, asText, bind, Except.bind]

theorem asOptionalTexts_eq_ok_iff {document : Document}
    {texts : Option (List (String × String))} :
    document.asOptionalTexts = .ok texts ↔ document.IsTexts ∧ document.texts? = texts := by
  cases document with
  | object members =>
      rw [asOptionalTexts, map_eq_ok_iff, IsTexts, texts?]
      simp only [asTexts_eq_ok_iff, and_assoc, exists_eq_left', exists_and_left]
  | null | boolean | integer | real | string | array =>
      simp [asOptionalTexts, IsTexts, texts?]

/-- The texts of an object of texts are what stands under its keys. -/
theorem lookup_textsOf {members : List (String × Document)}
    (fit : ∀ member ∈ members, ∃ text, member.2 = .string text) (key : String) :
    ((textsOf members).lookup key).map .string = members.lookup key := by
  induction members with
  | nil => rfl
  | cons member members ih =>
      obtain ⟨other, value⟩ := member
      obtain ⟨⟨text, rfl⟩, later⟩ := List.forall_mem_cons.mp fit
      rw [textsOf, List.lookup_cons, List.lookup_cons]
      by_cases here : key = other
      · simp [here]
      · simp only [beq_false_of_ne here, ih later]

/-! ## Two fields -/

theorem lookup_zip {names : List String} (distinct : names.Nodup) {place : Nat} {name : String}
    (placed : names[place]? = some name) (elements : List Document) :
    (names.zip elements).lookup name = elements[place]? := by
  induction names generalizing place elements with
  | nil => cases placed
  | cons first names ih =>
      obtain ⟨new, distinct⟩ := List.nodup_cons.mp distinct
      cases elements with
      | nil => simp
      | cons element elements =>
          rw [List.zip_cons_cons, List.lookup_cons]
          cases place with
          | zero =>
              obtain rfl : first = name := by simpa using placed
              simp
          | succ place =>
              have later : names[place]? = some name := by simpa using placed
              have other : name ≠ first := fun same => new (same ▸ List.mem_of_getElem? later)
              simpa [beq_false_of_ne other] using ih distinct later elements

/-- What is given for the fields of a record is found by key or by place. -/
theorem lookup_givenFor {names : List String} (distinct : names.Nodup) {place : Nat}
    {name : String} (placed : names[place]? = some name) (document : Document) :
    (document.givenFor names).lookup name = document.givenAt name place := by
  cases document with
  | object members => rfl
  | array elements => exact lookup_zip distinct placed elements
  | null | boolean | integer | real | string => rfl

theorem isMeta_iff {document : Document} :
    document.IsMeta ↔ document.IsRecordLike .json 2 ∧
      (∀ value, document.givenAt "name" 0 = some value → value.IsOptionalText) ∧
        ∀ value, document.givenAt "namespace" 1 = some value → value.IsOptionalText := by
  cases document with
  | object members => exact (and_iff_right trivial).symm
  | array elements =>
      rcases elements with _ | ⟨name, _ | ⟨namespaceName, _ | ⟨surplus, rest⟩⟩⟩ <;>
        simp [IsMeta, IsRecordLike, givenAt, Dialect.json]
  | null | boolean | integer | real | string => exact ⟨False.elim, fun fits => fits.1⟩

theorem isResource_iff {document : Document} :
    document.IsResource ↔ document.IsRecordLike .json 2 ∧
      (∀ value, document.givenAt "metadata" 0 = some value → value.IsMeta) ∧
        ∀ value, document.givenAt "data" 1 = some value → value.IsTexts := by
  cases document with
  | object members => exact (and_iff_right trivial).symm
  | array elements => simp [IsResource, IsRecordLike, givenAt, Dialect.json]
  | null | boolean | integer | real | string => exact ⟨False.elim, fun fits => fits.1⟩

theorem Unambiguous.givenAt {document : Document} (unambiguous : document.Unambiguous)
    {key : String} {place : Nat} {value : Document}
    (given : document.givenAt key place = some value) : value.Unambiguous := by
  cases unambiguous with
  | object sole each =>
      obtain ⟨before, after, rfl, -⟩ := List.lookup_eq_some_iff.mp given
      exact each (key, value) (List.mem_append_right _ List.mem_cons_self)
  | array each => exact each value (List.mem_of_getElem? given)
  | null | boolean | integer | real | string => cases given

end Document

section Pair

variable {Record First Second : Type} {first second : Field Record}
  {readFirst : Document → Except ShapeError First}
  {readSecond : Document → Except ShapeError Second}
  {fitsFirst fitsSecond : Document → Prop} {readingFirst : Document → First}
  {readingSecond : Document → Second}

/-- A record of two fields is read from a document with a fitting part for each of them that is
given. -/
theorem readRecord_pair_eq_ok_iff (differ : first.name ≠ second.name)
    (putFirst : First → Record → Record) (putSecond : Second → Record → Record)
    (setsFirst : ∀ value record, first.set value record = (readFirst value).map (putFirst · record))
    (setsSecond : ∀ value record,
      second.set value record = (readSecond value).map (putSecond · record))
    (apart : ∀ one other record,
      putSecond other (putFirst one record) = putFirst one (putSecond other record))
    (readsFirst : ∀ value : Document, value.Unambiguous →
      ∀ found, readFirst value = .ok found ↔ fitsFirst value ∧ readingFirst value = found)
    (readsSecond : ∀ value : Document, value.Unambiguous →
      ∀ found, readSecond value = .ok found ↔ fitsSecond value ∧ readingSecond value = found)
    {dialect : Dialect} {name : String} {start result : Record} {document : Document}
    (unambiguous : document.Unambiguous) :
    readRecord dialect name [first, second] start document = .ok result ↔
      (document.IsRecordLike dialect 2 ∧
        (∀ value, document.givenAt first.name 0 = some value → fitsFirst value) ∧
          ∀ value, document.givenAt second.name 1 = some value → fitsSecond value) ∧
        ((document.givenAt second.name 1).map readingSecond).elim
          (((document.givenAt first.name 0).map readingFirst).elim start (putFirst · start))
          (putSecond · (((document.givenAt first.name 0).map readingFirst).elim start
            (putFirst · start))) = result := by
  have distinct : ([first, second].map Field.name).Nodup := by simp [differ]
  have commute : [first, second].Pairwise Field.Commutes :=
    List.pairwise_pair.mpr (Field.commutes_of_map setsFirst setsSecond apart)
  have givenFirst : (document.givenFor ([first, second].map Field.name)).lookup first.name =
      document.givenAt first.name 0 := Document.lookup_givenFor distinct rfl document
  have givenSecond : (document.givenFor ([first, second].map Field.name)).lookup second.name =
      document.givenAt second.name 1 := Document.lookup_givenFor distinct rfl document
  rw [readRecord_eq_ok_iff distinct commute unambiguous.sole,
    setGiven_cons_eq_ok_iff setsFirst fun value given =>
      readsFirst value (unambiguous.givenAt (givenFirst ▸ given)),
    setGiven_cons_eq_ok_iff setsSecond fun value given =>
      readsSecond value (unambiguous.givenAt (givenSecond ▸ given)),
    givenFirst, givenSecond, setGiven, Except.ok.injEq, and_assoc, and_assoc]
  rfl

end Pair

/-! ## Reading resources -/

/-- **The identifying part is read from what the grammar accepts.** -/
theorem ResourceMeta.ofDocument_eq_ok_iff {document : Document}
    (unambiguous : document.Unambiguous) {metadata : ResourceMeta} :
    ofDocument document = .ok metadata ↔ document.IsMeta ∧ document.toMeta = metadata := by
  have reads : ∀ value : Document, value.Unambiguous → ∀ text,
      value.asOptionalText .text = .ok text ↔ value.IsOptionalText ∧ value.text? = text :=
    fun _ _ _ => Document.asOptionalText_eq_ok_iff
  refine (readRecord_pair_eq_ok_iff (by decide) (fun name record => { record with name })
    (fun namespaceName record => { record with namespaceName }) (fun _ _ => rfl) (fun _ _ => rfl)
    (fun _ _ _ => rfl) reads reads unambiguous).trans ?_
  rw [Document.isMeta_iff, Document.toMeta]
  cases document.givenAt "name" 0 <;> cases document.givenAt "namespace" 1 <;> rfl

namespace ConfigResource

/-- **A resource is read from what the grammar accepts.** -/
theorem fromPayload_eq_ok_iff {payload : Document} (unambiguous : payload.Unambiguous)
    {resource : ConfigResource} :
    fromPayload payload = .ok resource ↔ payload.IsResource ∧ payload.toResource = resource := by
  have readsMeta : ∀ value : Document, value.Unambiguous → ∀ metadata,
      ResourceMeta.ofDocument value = .ok metadata ↔ value.IsMeta ∧ value.toMeta = metadata :=
    fun _ own _ => ResourceMeta.ofDocument_eq_ok_iff own
  have readsData : ∀ value : Document, value.Unambiguous → ∀ data,
      value.asOptionalTexts = .ok data ↔ value.IsTexts ∧ value.texts? = data :=
    fun _ _ _ => Document.asOptionalTexts_eq_ok_iff
  refine (readRecord_pair_eq_ok_iff (by decide) (fun metadata record => { record with metadata })
    (fun data record => { record with data }) (fun _ _ => rfl) (fun _ _ => rfl)
    (fun _ _ _ => rfl) readsMeta readsData unambiguous).trans ?_
  rw [Document.isResource_iff, Document.toResource]
  cases payload.givenAt "metadata" 0 <;> cases payload.givenAt "data" 1 <;> rfl

/-- What is read from the data of a payload stands there. -/
theorem get?_toResource {payload : Document} (accepted : payload.IsResource) (key : String) :
    (payload.toResource.get? key).map .string = (payload.givenAt "data" 1).bind (·.get? key) := by
  obtain ⟨-, -, fit⟩ := Document.isResource_iff.mp accepted
  rw [get?, Document.toResource]
  cases data : payload.givenAt "data" 1 with
  | none => rfl
  | some value =>
      have texts := fit value data
      cases value with
      | object members => exact Document.lookup_textsOf texts key
      | null => rfl
      | boolean | integer | real | string | array => exact texts.elim

theorem name_toResource (payload : Document) :
    payload.toResource.name =
      (((payload.givenAt "metadata" 0).bind (·.givenAt "name" 0)).bind Document.text?).getD
        "unknown" := by
  rw [name, Document.toResource]
  cases payload.givenAt "metadata" 0 <;> rfl

section Parts

variable {record : ConfigResource} {value : Document}

theorem setMembers_metadata {rest : List (String × Document)} :
    setMembers fields (("metadata", value) :: rest) record =
      (ResourceMeta.ofDocument value).bind fun metadata =>
        setMembers fields rest { record with metadata } := by
  have named : Field.find? fields "metadata" = fields[0]? := rfl
  rw [setMembers, named]
  simp only [fields, List.getElem?_cons_zero]
  cases ResourceMeta.ofDocument value <;> rfl

theorem setMembers_data {rest : List (String × Document)} :
    setMembers fields (("data", value) :: rest) record =
      value.asOptionalTexts.bind fun data => setMembers fields rest { record with data } := by
  have named : Field.find? fields "data" = fields[1]? := rfl
  rw [setMembers, named]
  simp only [fields, List.getElem?_cons_succ, List.getElem?_cons_zero]
  cases value.asOptionalTexts <;> rfl

theorem setElements_metadata {rest : List Document} :
    setElements fields (value :: rest) record =
      (ResourceMeta.ofDocument value).bind fun metadata =>
        setElements fields.tail rest { record with metadata } := by
  rw [fields, setElements, List.tail_cons]
  dsimp only
  cases ResourceMeta.ofDocument value <;> rfl

theorem setElements_data {rest : List Document} :
    setElements fields.tail (value :: rest) record =
      value.asOptionalTexts.map fun data => { record with data } := by
  rw [fields, List.tail_cons, setElements]
  dsimp only
  cases value.asOptionalTexts <;> cases rest <;> rfl

end Parts

/-- The two forms of a resource are read alike. -/
theorem fromPayload_array_iff_object {metadata data : Document} {resource : ConfigResource} :
    fromPayload (.array [metadata, data]) = .ok resource ↔
      fromPayload (.object [("data", data), ("metadata", metadata)]) = .ok resource := by
  rw [fromPayload, fromPayload, readRecord, readRecord]
  simp only [setMembers_data, setMembers_metadata, setElements_metadata, setElements_data]
  cases ResourceMeta.ofDocument metadata <;> cases data.asOptionalTexts <;>
    simp [Except.bind, Except.map, setMembers, fields]

/-! ## Unknown members -/

/-- A member that no field has a name for changes nothing. -/
theorem setMembers_insert_unknown {Record : Type} {fields : List (Field Record)} {key : String}
    (unknown : ∀ field ∈ fields, field.name ≠ key) (value : Document)
    (before after : List (String × Document)) :
    setMembers fields (before ++ (key, value) :: after) = setMembers fields (before ++ after) := by
  have unnamed : Field.find? fields key = none := by simpa [Field.find?] using unknown
  have skipped : setMembers fields ((key, value) :: after) = setMembers fields after := by
    funext next
    rw [setMembers, unnamed]
  funext record
  rw [setMembers_append, setMembers_append, skipped]

theorem fromPayload_insert_unknown {key : String} (noMetadata : key ≠ "metadata")
    (noData : key ≠ "data") (value : Document) (before after : List (String × Document)) :
    fromPayload (.object (before ++ (key, value) :: after)) =
      fromPayload (.object (before ++ after)) := by
  have unknown : ∀ field ∈ fields, field.name ≠ key := by
    simp [fields, noMetadata.symm, noData.symm]
  rw [fromPayload, fromPayload, readRecord, readRecord, setMembers_insert_unknown unknown]

theorem ofDocument_insert_unknown {key : String} (noName : key ≠ "name")
    (noNamespace : key ≠ "namespace") (value : Document)
    (before after : List (String × Document)) :
    ResourceMeta.ofDocument (.object (before ++ (key, value) :: after)) =
      ResourceMeta.ofDocument (.object (before ++ after)) := by
  have unknown : ∀ field ∈ ResourceMeta.fields, field.name ≠ key := by
    simp [ResourceMeta.fields, noName.symm, noNamespace.symm]
  rw [ResourceMeta.ofDocument, ResourceMeta.ofDocument, readRecord, readRecord,
    setMembers_insert_unknown unknown]

/-- Metadata that is read alike gives the same resource, under its key and in its place. -/
theorem fromPayload_congr {one other : Document}
    (alike : ResourceMeta.ofDocument one = ResourceMeta.ofDocument other) :
    (∀ before after,
      fromPayload (.object (before ++ ("metadata", one) :: after)) =
        fromPayload (.object (before ++ ("metadata", other) :: after))) ∧
      ∀ rest, fromPayload (.array (one :: rest)) = fromPayload (.array (other :: rest)) := by
  refine ⟨fun before after => ?_, fun rest => ?_⟩
  · have same : setMembers fields (("metadata", one) :: after) =
        setMembers fields (("metadata", other) :: after) := by
      funext record
      rw [setMembers_metadata, setMembers_metadata, alike]
    rw [fromPayload, fromPayload, readRecord, readRecord, setMembers_append, setMembers_append,
      same]
  · rw [fromPayload, fromPayload, readRecord, readRecord, setElements_metadata,
      setElements_metadata, alike, List.length_cons, List.length_cons]

/-! ## The grammar -/

/-- A value in the data that is no text makes a payload fail, whether anything asks for it or
not. -/
theorem fromPayload_ne_ok_of_mem_data {payload : Document} (unambiguous : payload.Unambiguous)
    {members : List (String × Document)} (data : payload.givenAt "data" 1 = some (.object members))
    {member : String × Document} (among : member ∈ members) (noText : member.2.text? = none)
    (resource : ConfigResource) : fromPayload payload ≠ .ok resource := by
  intro read
  obtain ⟨accepted, -⟩ := (fromPayload_eq_ok_iff unambiguous).mp read
  obtain ⟨-, -, fit⟩ := Document.isResource_iff.mp accepted
  obtain ⟨text, isText⟩ := fit _ data member among
  rw [isText] at noText
  cases noText

/-- **One grammar in two forms.** A payload is read as a resource if and only if it is an object or
an array of the shape of a resource; then every key gives what stands under it in the data, and the
name is the given one or the stand-in. An array of metadata and data gives the resource of the
object that has the two under their keys. Members under other keys change nothing, neither beside
the metadata nor in it, and a single value in the data that is no text makes the payload fail. -/
theorem fromPayload_grammar :
    (∀ payload : Document, payload.Unambiguous →
      ((∃ resource, fromPayload payload = .ok resource) ↔ payload.IsResource) ∧
        ∀ resource, fromPayload payload = .ok resource →
          (∀ key, (resource.get? key).map .string =
            (payload.givenAt "data" 1).bind (·.get? key)) ∧
          resource.name =
            (((payload.givenAt "metadata" 0).bind (·.givenAt "name" 0)).bind Document.text?).getD
              "unknown") ∧
    (∀ metadata data resource,
      fromPayload (.array [metadata, data]) = .ok resource ↔
        fromPayload (.object [("data", data), ("metadata", metadata)]) = .ok resource) ∧
    (∀ key value before after, key ≠ "metadata" → key ≠ "data" →
      fromPayload (.object (before ++ (key, value) :: after)) =
        fromPayload (.object (before ++ after))) ∧
    (∀ key value before after, key ≠ "name" → key ≠ "namespace" →
      (∀ earlier later,
        fromPayload (.object (earlier ++
            ("metadata", .object (before ++ (key, value) :: after)) :: later)) =
          fromPayload (.object (earlier ++ ("metadata", .object (before ++ after)) :: later))) ∧
      ∀ rest, fromPayload (.array (.object (before ++ (key, value) :: after) :: rest)) =
        fromPayload (.array (.object (before ++ after) :: rest))) ∧
    ∀ payload : Document, payload.Unambiguous → ∀ members,
      payload.givenAt "data" 1 = some (.object members) → ∀ member ∈ members,
        member.2.text? = none → ∀ resource, fromPayload payload ≠ .ok resource := by
  refine ⟨fun payload unambiguous => ⟨⟨?_, fun accepted => ?_⟩, fun resource read => ?_⟩,
    fun metadata data resource => fromPayload_array_iff_object,
    fun key value before after noMetadata noData =>
      fromPayload_insert_unknown noMetadata noData value before after,
    fun key value before after noName noNamespace =>
      fromPayload_congr (ofDocument_insert_unknown noName noNamespace value before after),
    fun payload unambiguous members data member among noText resource =>
      fromPayload_ne_ok_of_mem_data unambiguous data among noText resource⟩
  · rintro ⟨resource, read⟩
    exact ((fromPayload_eq_ok_iff unambiguous).mp read).1
  · exact ⟨payload.toResource, (fromPayload_eq_ok_iff unambiguous).mpr ⟨accepted, rfl⟩⟩
  · obtain ⟨accepted, rfl⟩ := (fromPayload_eq_ok_iff unambiguous).mp read
    exact ⟨get?_toResource accepted, name_toResource payload⟩

/-- A payload with unknown members on both levels that names hosts is read as a resource, and fails
with a number in its data. -/
theorem fromPayload_grammar_at_unknown_members :
    let payload (port : Document) := Document.object
      [("data", .object [("nginx-hosts", .string "a,b"), ("port", port)]), ("kind", .null),
        ("metadata", .object [("labels", .array []), ("name", .string "web")])]
    (∃ resource, fromPayload (payload (.string "80")) = .ok resource ∧
      resource.get? "nginx-hosts" = some "a,b" ∧ resource.name = "web") ∧
    fromPayload (payload (.string "80")) =
      fromPayload (.object [("data", .object [("nginx-hosts", .string "a,b"),
        ("port", .string "80")]), ("metadata", .object [("name", .string "web")])]) ∧
    ∀ resource, fromPayload (payload (.integer 80)) ≠ .ok resource := by
  intro payload
  obtain ⟨shape, -, beside, within, refused⟩ := fromPayload_grammar
  have unambiguous : ∀ port : Document, port.Unambiguous → (payload port).Unambiguous := by
    intro port own
    refine .object (by simp) ?_
    simp only [List.forall_mem_cons, List.not_mem_nil, false_implies, implies_true, and_true]
    refine ⟨.object (by simp) ?_, .null, .object (by simp) ?_⟩
    · simpa only [List.forall_mem_cons, List.not_mem_nil, false_implies, implies_true, and_true]
        using ⟨.string "a,b", own⟩
    · simpa only [List.forall_mem_cons, List.not_mem_nil, false_implies, implies_true, and_true]
        using ⟨.array (by simp), .string "web"⟩
  refine ⟨?_, ?_, ?_⟩
  · obtain ⟨-, told⟩ := shape _ (unambiguous (.string "80") (.string "80"))
    have read : ∃ resource, fromPayload (payload (.string "80")) = .ok resource := ⟨_, rfl⟩
    obtain ⟨resource, done⟩ := read
    obtain ⟨texts, named⟩ := told resource done
    have hosts : (resource.get? "nginx-hosts").map Document.string = some (.string "a,b") :=
      texts "nginx-hosts"
    obtain ⟨text, found, same⟩ := Option.map_eq_some_iff.mp hosts
    cases same
    exact ⟨resource, done, found, named⟩
  · exact (beside "kind" .null [_] [_] (by decide) (by decide)).trans
      ((within "labels" (.array []) [] [_] (by decide) (by decide)).1 [_] [])
  · exact refused _ (unambiguous (.integer 80) (.integer 80)) _ rfl ("port", .integer 80)
      (by simp) rfl

end ConfigResource

end HostRoster

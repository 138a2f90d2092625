import HostRoster.Cluster.ConfigMap
import HostRoster.Proofs.Publishing

/-!
# Payloads of configuration maps

A configuration map is encoded into the payload of an event. The payload still says the name of
the map (`ConfigMap.resourceName_encode`), and reading it as a resource gives back the name, the
namespace and the data (`ConfigMap.fromPayload_encode`). So it asks for the hosts that stand in the
data under the key of the host list, and for none without that key (`ConfigMap.hosts?_encode`).
-/

set_option autoImplicit false

namespace HostRoster

/-! ## Names -/

/-- The name of the resource that a payload stands for, which is empty if there is none. -/
def Document.resourceName (payload : Document) : String :=
  (((payload.get? "metadata").bind (·.get? "name")).bind Document.text?).getD ""

/-- What stands under a key of an object with one optional member. -/
@[simp] theorem Document.lookup_optionalMember (key other : String) (value : Option Document) :
    (Document.optionalMember other value).lookup key = if key = other then value else none := by
  cases value with
  | none => simp [Document.optionalMember]
  | some value =>
      by_cases same : key = other
      · simp [Document.optionalMember, same]
      · have differs : (key == other) = false := beq_false_of_ne same
        simp [Document.optionalMember, List.lookup_cons, differs, same]

theorem ObjectMeta.get?_name_encode (metadata : ObjectMeta) :
    metadata.encode.get? "name" = metadata.name.map .string := by
  simp [ObjectMeta.encode, Document.get?, Document.members, List.lookup_append]

theorem ConfigMap.get?_metadata_encode (resource : ConfigMap) :
    resource.encode.get? "metadata" = some resource.metadata.encode := by
  simp [ConfigMap.encode, Document.get?, Document.members, List.lookup_append, List.lookup_cons]

/-- **The payload of a configuration map says the name of the map.** -/
theorem ConfigMap.resourceName_encode (resource : ConfigMap) :
    resource.encode.resourceName = resource.objectName := by
  rw [Document.resourceName, get?_metadata_encode, Option.bind_some,
    ObjectMeta.get?_name_encode, objectName]
  cases resource.metadata.name <;> rfl

/-! ## Reading back -/

section Members

variable {Record : Type} {fields : List (Field Record)}

/-- Members are read one stretch after the other. -/
theorem setMembers_append (earlier later : List (String × Document)) (record : Record) :
    setMembers fields (earlier ++ later) record =
      (setMembers fields earlier record).bind (setMembers fields later) := by
  induction earlier generalizing record with
  | nil => rfl
  | cons member earlier ih =>
      obtain ⟨key, value⟩ := member
      simp only [List.cons_append, setMembers]
      split
      · exact ih record
      · split
        · exact ih _
        · rfl

/-- An optional member that no field has a name for changes nothing. -/
theorem setMembers_optionalMember_of_unknown {key : String}
    (unknown : Field.find? fields key = none) (value : Option Document) (record : Record) :
    setMembers fields (Document.optionalMember key value) record = .ok record := by
  cases value with
  | none => rfl
  | some value => simp [Document.optionalMember, setMembers, unknown]

end Members

/-- The texts of an object of strings are those it was made of. -/
theorem Document.asTexts_ofTexts (texts : List (String × String)) :
    Document.asTexts (texts.map fun (key, text) => (key, Document.string text)) = .ok texts := by
  induction texts with
  | nil => rfl
  | cons member texts ih =>
      obtain ⟨key, text⟩ := member
      simp only [List.map_cons, Document.asTexts, ih]
      rfl

theorem ResourceMeta.ofDocument_encode (metadata : ObjectMeta) :
    ResourceMeta.ofDocument metadata.encode =
      .ok { name := metadata.name, namespaceName := metadata.namespaceName } := by
  have unknown : ∀ key value record, key ≠ "name" → key ≠ "namespace" →
      setMembers fields (Document.optionalMember key value) record = .ok record := by
    intro key value record noName noNamespace
    refine setMembers_optionalMember_of_unknown ?_ value record
    simp [Field.find?, fields, noName.symm, noNamespace.symm]
  have name : ∀ record, setMembers fields
      (Document.optionalMember "name" (metadata.name.map .string)) record =
        .ok { record with name := metadata.name.or record.name } := by
    intro record
    cases metadata.name <;> rfl
  have namespaceName : ∀ record, setMembers fields
      (Document.optionalMember "namespace" (metadata.namespaceName.map .string)) record =
        .ok { record with namespaceName := metadata.namespaceName.or record.namespaceName } := by
    intro record
    cases metadata.namespaceName <;> rfl
  simp [ofDocument, readRecord, ObjectMeta.encode, setMembers_append, unknown, name,
    namespaceName, Except.bind]

/-- **Reading the payload of a configuration map gives back its name, its namespace and its
data.** -/
theorem ConfigMap.fromPayload_encode (resource : ConfigMap) :
    ConfigResource.fromPayload resource.encode =
      .ok { metadata := { name := resource.metadata.name,
                          namespaceName := resource.metadata.namespaceName },
            data := resource.data } := by
  have unknown : ∀ key value record, key ≠ "metadata" → key ≠ "data" →
      setMembers ConfigResource.fields (Document.optionalMember key value) record =
        .ok record := by
    intro key value record noMetadata noData
    refine setMembers_optionalMember_of_unknown ?_ value record
    simp [Field.find?, ConfigResource.fields, noMetadata.symm, noData.symm]
  have version : ∀ rest record,
      setMembers ConfigResource.fields (("apiVersion", .string apiVersion) :: rest) record =
        setMembers ConfigResource.fields rest record := fun _ _ => rfl
  have data : ∀ record, setMembers ConfigResource.fields
      (Document.optionalMember "data" (resource.data.map Document.ofTexts)) record =
        .ok { record with data := resource.data.or record.data } := by
    intro record
    cases resource.data with
    | none => rfl
    | some texts =>
        simp [Document.optionalMember, setMembers, Field.find?, ConfigResource.fields,
          Document.ofTexts, Document.asOptionalTexts, Document.asTexts_ofTexts, Except.map]
  have ending : ∀ record, setMembers ConfigResource.fields
      [("kind", .string kind), ("metadata", resource.metadata.encode)] record =
        .ok { record with metadata := { name := resource.metadata.name,
                                        namespaceName := resource.metadata.namespaceName } } := by
    intro record
    simp [setMembers, Field.find?, ConfigResource.fields, ResourceMeta.ofDocument_encode,
      Except.map]
  simp [ConfigResource.fromPayload, readRecord, ConfigMap.encode, setMembers_append, unknown,
    version, data, ending, Except.bind]

/-- The written host list of a configuration map. -/
def ConfigMap.writtenHosts? (resource : ConfigMap) : Option String :=
  resource.data.bind (·.lookup hostsKey)

/-- The written host list of a payload. -/
def Document.writtenHosts? (payload : Document) : Option String :=
  ((payload.get? "data").bind (·.get? hostsKey)).bind Document.text?

/-- The texts of an object of strings stand under the keys of the texts it was made of. -/
theorem Document.text?_ofTexts (texts : List (String × String)) (key : String) :
    ((Document.ofTexts texts).get? key).bind Document.text? = texts.lookup key := by
  rw [ofTexts, get?, members]
  induction texts with
  | nil => rfl
  | cons member texts ih =>
      obtain ⟨other, text⟩ := member
      by_cases here : key = other
      · simp [here, text?]
      · simp only [List.map_cons, List.lookup_cons, beq_false_of_ne here, ih]

/-- The payload of a configuration map has the host list that is written in the map. -/
theorem ConfigMap.writtenHosts?_encode (resource : ConfigMap) :
    resource.encode.writtenHosts? = resource.writtenHosts? := by
  have data : resource.encode.get? "data" = resource.data.map Document.ofTexts := by
    simp [ConfigMap.encode, Document.get?, Document.members, List.lookup_append, List.lookup_cons]
  rw [Document.writtenHosts?, data, writtenHosts?]
  cases resource.data with
  | none => rfl
  | some texts => exact Document.text?_ofTexts texts hostsKey

/-- **The payload of a configuration map asks for the hosts that are written in the map.** -/
theorem ConfigMap.hosts?_encode (resource : ConfigMap) :
    resource.encode.hosts? = resource.writtenHosts?.map parseHosts := by
  rw [Document.hosts?, fromPayload_encode]
  rfl

end HostRoster

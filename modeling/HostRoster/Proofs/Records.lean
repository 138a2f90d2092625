import HostRoster.Document.Shape
import HostRoster.Json.Reader
import Mathlib.Data.List.Nodup

/-!
# Records by their fields

A record is read from members in their order or from elements in the order of its fields. What comes
of it is a matter of what the document gives for each field (`Document.givenFor`): one field is set
after the other, and a field that is not given stays as it is (`setGiven`).

For elements this is the same reading (`setElements_eq`). For members it is the same up to the error
(`toOption_setMembers`), if no key is there twice and the fields have nothing to do with one another
(`Field.Commutes`).

A property of records that every field keeps is kept by the whole reading (`readRecord_keeps`).

**Documents with one meaning.** A document that is read from a JSON text has no key twice in an
object (`Document.Unambiguous`, `Json.unambiguous_of_read`).
-/

set_option autoImplicit false

namespace HostRoster

variable {Record : Type} {fields : List (Field Record)}

/-! ## Outcomes -/

section Outcomes

variable {ε α β : Type}

theorem map_eq_ok_iff {f : α → β} {outcome : Except ε α} {result : β} :
    outcome.map f = .ok result ↔ ∃ value, outcome = .ok value ∧ f value = result := by
  cases outcome <;> simp [Except.map]

theorem eq_ok_iff_toOption {outcome : Except ε α} {result : α} :
    outcome = .ok result ↔ outcome.toOption = some result := by
  cases outcome <;> simp [Except.toOption]

theorem toOption_bind (first : Except ε α) (next : α → Except ε β) :
    (first.bind next).toOption = first.toOption.bind fun value => (next value).toOption := by
  cases first <;> rfl

end Outcomes

/-! ## Kept properties -/

/-- The documents that a document is made of. -/
def Document.parts : Document → List Document
  | .object members => members.map Prod.snd
  | .array elements => elements
  | _ => []

/-- A field that is set from a document of some class keeps a property of records. -/
def Field.Keeps (fits : Document → Prop) (holds : Record → Prop) (field : Field Record) : Prop :=
  ∀ value record result, fits value → holds record → field.set value record = .ok result →
    holds result

section Kept

variable {fits : Document → Prop} {holds : Record → Prop} {record result : Record}

theorem Field.mem_of_find? {key : String} {field : Field Record}
    (found : Field.find? fields key = some field) : field ∈ fields ∧ field.name = key :=
  ⟨List.mem_of_find?_eq_some found, by simpa using List.find?_some found⟩

theorem setMembers_keeps (keeps : ∀ field ∈ fields, field.Keeps fits holds)
    {members : List (String × Document)} (fit : ∀ member ∈ members, fits member.2)
    (start : holds record) (set : setMembers fields members record = .ok result) :
    holds result := by
  induction members generalizing record with
  | nil =>
      cases set
      exact start
  | cons member members ih =>
      obtain ⟨key, value⟩ := member
      obtain ⟨first, later⟩ := List.forall_mem_cons.mp fit
      rw [setMembers] at set
      split at set
      next => exact ih later start set
      next field found =>
        split at set
        next next done =>
          exact ih later (keeps field (Field.mem_of_find? found).1 value record next first start
            done) set
        next => cases set

theorem setElements_keeps (keeps : ∀ field ∈ fields, field.Keeps fits holds)
    {elements : List Document} (fit : ∀ element ∈ elements, fits element)
    (start : holds record) (set : setElements fields elements record = .ok result) :
    holds result := by
  induction fields generalizing elements record with
  | nil =>
      cases set
      exact start
  | cons field fields ih =>
      cases elements with
      | nil =>
          cases set
          exact start
      | cons element elements =>
          obtain ⟨own, others⟩ := List.forall_mem_cons.mp keeps
          obtain ⟨first, later⟩ := List.forall_mem_cons.mp fit
          rw [setElements] at set
          split at set
          next next done => exact ih others later (own element record next first start done) set
          next => cases set

/-- **What every field keeps, the reading of a record keeps.** -/
theorem readRecord_keeps {dialect : Dialect} {name : String} {document : Document}
    (keeps : ∀ field ∈ fields, field.Keeps fits holds) (start : holds record)
    (fit : ∀ part ∈ document.parts, fits part)
    (read : readRecord dialect name fields record document = .ok result) : holds result := by
  cases document with
  | object members =>
      have each : ∀ member ∈ members, fits member.2 := fun member among =>
        fit _ (List.mem_map_of_mem among)
      exact setMembers_keeps keeps each start read
  | array elements =>
      rw [readRecord] at read
      split at read
      next => cases read
      next done =>
        split at read
        next => cases read
        next =>
          cases read
          exact setElements_keeps keeps fit start done
  | null | boolean | integer | real | string => cases read

end Kept

/-! ## Fields one after the other -/

/-- Sets fields from what is given under their names, the first field first. -/
def setGiven (given : List (String × Document)) :
    List (Field Record) → Record → Except ShapeError Record
  | [], record => .ok record
  | field :: fields, record =>
    match given.lookup field.name with
    | none => setGiven given fields record
    | some value => (field.set value record).bind (setGiven given fields)

section Given

variable {given other : List (String × Document)}

theorem setGiven_congr
    (same : ∀ field ∈ fields, given.lookup field.name = other.lookup field.name)
    (record : Record) : setGiven given fields record = setGiven other fields record := by
  induction fields generalizing record with
  | nil => rfl
  | cons field fields ih =>
      obtain ⟨first, later⟩ := List.forall_mem_cons.mp same
      have rest : setGiven given fields = setGiven other fields := funext (ih later)
      rw [setGiven, setGiven, first, rest]

theorem setGiven_nil (fields : List (Field Record)) (record : Record) :
    setGiven [] fields record = .ok record := by
  induction fields with
  | nil => rfl
  | cons field fields ih => exact ih

theorem setGiven_append (before after : List (Field Record)) (record : Record) :
    setGiven given (before ++ after) record =
      (setGiven given before record).bind (setGiven given after) := by
  induction before generalizing record with
  | nil => rfl
  | cons field before ih =>
      rw [List.cons_append, setGiven, setGiven]
      cases given.lookup field.name with
      | none => exact ih record
      | some value =>
          cases done : field.set value record with
          | error cause => simp only [done, Except.bind]
          | ok next => simp only [done, Except.bind, ih]

/-- What is given for another field does not count. -/
theorem setGiven_cons_of_foreign {key : String} (foreign : ∀ field ∈ fields, field.name ≠ key)
    (value : Document) (record : Record) :
    setGiven ((key, value) :: given) fields record = setGiven given fields record := by
  refine setGiven_congr (fun field among => ?_) record
  rw [List.lookup_cons, beq_false_of_ne (foreign field among)]

/-- A field that reads a value and puts it into the record is set if what is given for it can be
read, and is left as it is if nothing is given. -/
theorem setGiven_cons_eq_ok_iff {Value : Type} {field : Field Record}
    {read : Document → Except ShapeError Value} {put : Value → Record → Record}
    (sets : ∀ value record, field.set value record = (read value).map (put · record))
    {fits : Document → Prop} {reading : Document → Value}
    (reads : ∀ value, given.lookup field.name = some value →
      ∀ found, read value = .ok found ↔ fits value ∧ reading value = found)
    {record result : Record} :
    setGiven given (field :: fields) record = .ok result ↔
      (∀ value, given.lookup field.name = some value → fits value) ∧
        setGiven given fields (((given.lookup field.name).map reading).elim record (put · record)) =
          .ok result := by
  rw [setGiven]
  cases here : given.lookup field.name with
  | none => simp
  | some value =>
      have reads := reads value here
      cases done : read value with
      | error cause =>
          have unfit : ¬fits value := by
            intro fit
            have found := done.symm.trans ((reads _).mpr ⟨fit, rfl⟩)
            cases found
          simp [sets, done, Except.bind, Except.map, unfit]
      | ok found =>
          obtain ⟨fit, rfl⟩ := (reads found).mp done
          simp [sets, done, Except.bind, Except.map, fit]

/-- **Elements set the fields in whose place they stand.** -/
theorem setElements_eq (distinct : (fields.map Field.name).Nodup) (elements : List Document)
    (record : Record) :
    setElements fields elements record =
      setGiven ((fields.map Field.name).zip elements) fields record := by
  induction fields generalizing elements record with
  | nil => cases elements <;> rfl
  | cons field fields ih =>
      obtain ⟨new, distinct⟩ := List.nodup_cons.mp distinct
      cases elements with
      | nil =>
          rw [List.zip_nil_right, setGiven_nil]
          rfl
      | cons element elements =>
          have foreign : ∀ other ∈ fields, other.name ≠ field.name := fun other among same =>
            new (same ▸ List.mem_map_of_mem among)
          have rest : setGiven ((field.name, element) :: (fields.map Field.name).zip elements)
              fields = setElements fields elements := by
            funext next
            rw [ih distinct elements next]
            exact setGiven_cons_of_foreign foreign element next
          simp only [setGiven, List.map_cons, List.zip_cons_cons, List.lookup_cons_self, rest,
            setElements]
          cases field.set element record <;> rfl

end Given

/-! ## Members in any order -/

/-- Two fields have nothing to do with one another: it does not matter which of them is set
first. -/
def Field.Commutes (first second : Field Record) : Prop :=
  ∀ one other record, ((first.set one record).bind (second.set other)).toOption =
    ((second.set other record).bind (first.set one)).toOption

/-- Fields that read a value each and put it in different places commute. -/
theorem Field.commutes_of_map {First Second : Type} {first second : Field Record}
    {readFirst : Document → Except ShapeError First} {putFirst : First → Record → Record}
    {readSecond : Document → Except ShapeError Second} {putSecond : Second → Record → Record}
    (one : ∀ value record, first.set value record = (readFirst value).map (putFirst · record))
    (other : ∀ value record, second.set value record = (readSecond value).map (putSecond · record))
    (apart : ∀ one other record,
      putSecond other (putFirst one record) = putFirst one (putSecond other record)) :
    first.Commutes second := by
  intro value document record
  cases readOne : readFirst value <;> cases readTwo : readSecond document <;>
    simp [Except.map, Except.bind, Except.toOption, one, other, readOne, readTwo, apart]

/-- A field that commutes with others can as well be set before them. -/
theorem toOption_setGiven_bind {field : Field Record} {given : List (String × Document)}
    (commutes : ∀ other ∈ fields, other.Commutes field) (value : Document) (record : Record) :
    ((setGiven given fields record).bind (field.set value)).toOption =
      ((field.set value record).bind (setGiven given fields)).toOption := by
  induction fields generalizing record with
  | nil =>
      have last : setGiven given ([] : List (Field Record)) = .ok := rfl
      rw [last, toOption_bind, toOption_bind]
      exact (Option.bind_fun_some _).symm
  | cons other fields ih =>
      obtain ⟨first, later⟩ := List.forall_mem_cons.mp commutes
      cases given : given.lookup other.name with
      | none => simpa only [setGiven, given] using ih later record
      | some document =>
          have swapped := first document value record
          simp only [toOption_bind] at swapped ih ⊢
          simp only [setGiven, given, toOption_bind, Option.bind_assoc, ih later]
          rw [← Option.bind_assoc, swapped, Option.bind_assoc]

/-- **Members set the fields that they name, in whatever order they come.** -/
theorem toOption_setMembers (distinct : (fields.map Field.name).Nodup)
    (commute : fields.Pairwise Field.Commutes) {members : List (String × Document)}
    (sole : (members.map Prod.fst).Nodup) (record : Record) :
    (setMembers fields members record).toOption = (setGiven members fields record).toOption := by
  induction members generalizing record with
  | nil => rw [setMembers, setGiven_nil]
  | cons member members ih =>
      obtain ⟨key, value⟩ := member
      obtain ⟨new, soleRest⟩ := List.nodup_cons.mp sole
      cases found : Field.find? fields key with
      | none =>
          rw [setMembers, found]
          have foreign : ∀ field ∈ fields, field.name ≠ key := by
            simpa [Field.find?] using found
          rw [setGiven_cons_of_foreign foreign]
          exact ih soleRest record
      | some field =>
          -- The field of the member stands between others. It can as well be set before all of
          -- them, and no later member names it.
          obtain ⟨named, before, after, rfl, -⟩ := List.find?_eq_some_iff_append.mp found
          obtain rfl : field.name = key := by simpa using named
          have commutes : ∀ other ∈ before, other.Commutes field := fun other among =>
            (List.pairwise_append.mp commute).2.2 other among field List.mem_cons_self
          obtain ⟨-, own, apart⟩ := List.nodup_append.mp (List.map_append ▸ distinct)
          have foreign : (∀ other ∈ before, other.name ≠ field.name) ∧
              ∀ other ∈ after, other.name ≠ field.name := by
            refine ⟨fun other among => ?_, fun other among same => ?_⟩
            · exact apart _ (List.mem_map_of_mem among) _ List.mem_cons_self
            · exact (List.nodup_cons.mp own).1 (same ▸ List.mem_map_of_mem among)
          have unnamed : members.lookup field.name = none := by
            rw [List.lookup_eq_none_iff]
            intro member among
            exact bne_iff_ne.mpr fun same => new (List.mem_map.mpr ⟨member, among, same.symm⟩)
          have later : setGiven members (field :: after) = setGiven members after := by
            funext next
            rw [setGiven, unnamed]
          have here : setGiven ((field.name, value) :: members) (field :: after) =
              fun next => (field.set value next).bind (setGiven members after) := by
            funext next
            have rest : setGiven ((field.name, value) :: members) after =
                setGiven members after := funext (setGiven_cons_of_foreign foreign.2 value)
            rw [setGiven, List.lookup_cons_self, rest]
          have swapped : ((setGiven members before record).bind (field.set value)).toOption = _ :=
            toOption_setGiven_bind commutes value record
          have set : (setMembers (before ++ field :: after) ((field.name, value) :: members)
              record) = (field.set value record).bind
                (setMembers (before ++ field :: after) members) := by
            rw [setMembers, found]
            dsimp only
            cases field.set value record <;> rfl
          rw [set, setGiven_append, setGiven_cons_of_foreign foreign.1, here]
          simp only [toOption_bind, ih soleRest, setGiven_append, later] at swapped ⊢
          rw [← Option.bind_assoc, ← swapped, Option.bind_assoc]

/-- What a document gives for fields with these names, in their order. -/
def Document.givenFor (names : List String) : Document → List (String × Document)
  | .object members => members
  | .array elements => names.zip elements
  | _ => []

/-- A document can stand for a record with so many fields, if its parts fit: its elements are not
too many. -/
def Document.IsRecordLike (dialect : Dialect) (count : Nat) : Document → Prop
  | .object _ => True
  | .array elements => dialect.refusesSurplus = true → elements.length ≤ count
  | _ => False

/-- **A record is read from what is given for its fields**, by keys or by places. -/
theorem readRecord_eq_ok_iff (distinct : (fields.map Field.name).Nodup)
    (commute : fields.Pairwise Field.Commutes) {dialect : Dialect} {name : String}
    {start result : Record} {document : Document}
    (sole : ∀ members, document = .object members → (members.map Prod.fst).Nodup) :
    readRecord dialect name fields start document = .ok result ↔
      document.IsRecordLike dialect fields.length ∧
        setGiven (document.givenFor (fields.map Field.name)) fields start = .ok result := by
  cases document with
  | object members =>
      rw [eq_ok_iff_toOption, readRecord, toOption_setMembers distinct commute (sole members rfl),
        ← eq_ok_iff_toOption]
      exact (and_iff_right trivial).symm
  | array elements =>
      rw [readRecord, setElements_eq distinct]
      simp only [Document.IsRecordLike, Document.givenFor]
      cases setGiven ((fields.map Field.name).zip elements) fields start with
      | error cause => simp
      | ok record =>
          by_cases surplus : dialect.refusesSurplus = true ∧ fields.length < elements.length
          · simp [surplus, Nat.not_le.mpr surplus.2]
          · simp only [surplus, if_false]
            have short : dialect.refusesSurplus = true → elements.length ≤ fields.length :=
              fun refuses => Nat.not_lt.mp fun long => surplus ⟨refuses, long⟩
            exact (and_iff_right short).symm
  | null | boolean | integer | real | string =>
      simp [readRecord, Document.IsRecordLike]

/-! ## Documents with one meaning -/

namespace Document

/-- No object of a document has a key twice. -/
inductive Unambiguous : Document → Prop where
  | null : Unambiguous .null
  | boolean (value : Bool) : Unambiguous (.boolean value)
  | integer (value : Int) : Unambiguous (.integer value)
  | real (value : Binary64) : Unambiguous (.real value)
  | string (value : String) : Unambiguous (.string value)
  | array {elements : List Document} (each : ∀ element ∈ elements, Unambiguous element) :
      Unambiguous (.array elements)
  | object {members : List (String × Document)} (sole : (members.map Prod.fst).Nodup)
      (each : ∀ member ∈ members, Unambiguous member.2) : Unambiguous (.object members)

theorem Unambiguous.sole {document : Document} (unambiguous : document.Unambiguous)
    (members : List (String × Document)) (object : document = .object members) :
    (members.map Prod.fst).Nodup := by
  cases unambiguous with
  | object sole =>
      cases object
      exact sole
  | null | boolean | integer | real | string | array => cases object

section Sorted

variable {Value : Type} {key : String} {value : Value} {members : List (String × Value)}

theorem mem_insertSorted {entry : String × Value}
    (member : entry ∈ insertSorted key value members) : entry = (key, value) ∨ entry ∈ members := by
  induction members with
  | nil => exact .inl (List.mem_singleton.mp member)
  | cons first members ih =>
      obtain ⟨other, held⟩ := first
      rw [insertSorted] at member
      split at member
      next => exact List.mem_cons.mp member
      next =>
        split at member
        next =>
          rcases List.mem_cons.mp member with rfl | later
          · exact .inr List.mem_cons_self
          · exact (ih later).imp_right (List.mem_cons_of_mem _)
        next =>
          exact (List.mem_cons.mp member).imp_right (List.mem_cons_of_mem _)

/-- A key is put in its place among sorted keys. -/
theorem pairwise_insertSorted (ordered : members.Pairwise (·.1 < ·.1)) :
    (insertSorted key value members).Pairwise (·.1 < ·.1) := by
  induction members with
  | nil => exact List.pairwise_singleton _ _
  | cons first members ih =>
      obtain ⟨other, held⟩ := first
      obtain ⟨least, rest⟩ := List.pairwise_cons.mp ordered
      rw [insertSorted]
      split
      next before =>
        refine List.pairwise_cons.mpr ⟨fun entry member => ?_, ordered⟩
        rcases List.mem_cons.mp member with rfl | later
        · exact before
        · exact String.lt_trans before (least entry later)
      next notBefore =>
        split
        next behind =>
          refine List.pairwise_cons.mpr ⟨fun entry member => ?_, ih rest⟩
          rcases mem_insertSorted member with rfl | later
          · exact behind
          · exact least entry later
        next notBehind =>
          obtain rfl : key = other :=
            String.le_antisymm (String.not_lt.mp notBehind) (String.not_lt.mp notBefore)
          exact List.pairwise_cons.mpr ⟨least, rest⟩

/-- Sorted members have different keys, and only values that were there. -/
theorem sortMembers_sound (members : List (String × Value)) :
    (sortMembers members).Pairwise (·.1 < ·.1) ∧
      ∀ entry ∈ sortMembers members, entry ∈ members := by
  have grows : ∀ (members sorted : List (String × Value)), sorted.Pairwise (·.1 < ·.1) →
      let final := members.foldl (fun sorted entry => insertSorted entry.1 entry.2 sorted) sorted
      final.Pairwise (·.1 < ·.1) ∧ ∀ entry ∈ final, entry ∈ sorted ∨ entry ∈ members := by
    intro members
    induction members with
    | nil => exact fun sorted ordered => ⟨ordered, fun entry member => .inl member⟩
    | cons member members ih =>
        intro sorted ordered
        obtain ⟨final, among⟩ := ih _ (pairwise_insertSorted ordered)
        refine ⟨final, fun entry present => ?_⟩
        rcases among entry present with early | late
        · rcases mem_insertSorted early with rfl | early
          · exact .inr List.mem_cons_self
          · exact .inl early
        · exact .inr (List.mem_cons_of_mem _ late)
  obtain ⟨ordered, among⟩ := grows members [] List.Pairwise.nil
  exact ⟨ordered, fun entry member => (among entry member).resolve_left List.not_mem_nil⟩

end Sorted

mutual

/-- Among sorted members no key is there twice, in any object of the document. -/
theorem unambiguous_sorted : (document : Document) → document.sorted.Unambiguous
  | .null => .null
  | .boolean value => .boolean value
  | .integer value => .integer value
  | .real value => .real value
  | .string value => .string value
  | .array elements => .array (unambiguous_sortedElements elements)
  | .object members => by
      obtain ⟨ordered, among⟩ := sortMembers_sound (sortedMembers members)
      have sole : ((sortMembers (sortedMembers members)).map Prod.fst).Nodup :=
        (ordered.map Prod.fst fun _ _ before => before).imp String.ne_of_lt
      exact .object sole fun member present =>
        unambiguous_sortedMembers members member (among member present)

theorem unambiguous_sortedElements :
    (elements : List Document) → ∀ element ∈ sortedElements elements, element.Unambiguous
  | [] => by simp [sortedElements]
  | element :: elements => by
      rw [sortedElements, List.forall_mem_cons]
      exact ⟨unambiguous_sorted element, unambiguous_sortedElements elements⟩

theorem unambiguous_sortedMembers : (members : List (String × Document)) →
    ∀ member ∈ sortedMembers members, member.2.Unambiguous
  | [] => by simp [sortedMembers]
  | (key, value) :: members => by
      rw [sortedMembers, List.forall_mem_cons]
      exact ⟨unambiguous_sorted value, unambiguous_sortedMembers members⟩

end

end Document

/-- **A document that is read from a JSON text has no key twice.** -/
theorem Json.unambiguous_of_read {text : String} {document : Document}
    (done : Json.read text = .ok document) : document.Unambiguous := by
  obtain ⟨written, -, rfl⟩ := map_eq_ok_iff.mp done
  exact written.unambiguous_sorted

end HostRoster

import HostRoster.Proofs.SignedWords
import HostRoster.Proofs.WrittenScalars

/-!
# Documents written in TOML

A document of strings, truth values, whole numbers of 64 bits, arrays and objects is written with
one line for each member, and everything below a member on its line (`writeLines`). The reader gives
back the document that was written, if no object has a key twice and nothing is nested too deep
(`read_write`). So every such document is the document of some text.

The fuel of a reader is at least the length of what has been written, since each call takes a
character or more (`ReadsBack`).
-/

set_option autoImplicit false

namespace HostRoster.Toml

/-! ## Writing -/

mutual

/-- A value on one line. -/
def write : Document → List Char
  | .boolean true => ['t', 'r', 'u', 'e']
  | .boolean false => ['f', 'a', 'l', 's', 'e']
  | .integer value => writeInteger value
  | .string value => writeString value
  | .array elements => '[' :: writeElements elements
  | .object members => '\x7b' :: writePairs members
  | .null | .real _ => []

/-- The elements of an array, each with a comma behind it, and the closing bracket. -/
def writeElements : List Document → List Char
  | [] => [']']
  | element :: rest => write element ++ ',' :: writeElements rest

/-- The members of an inline table with commas between them, and the closing bracket. -/
def writePairs : List (String × Document) → List Char
  | [] => ['\x7d']
  | [(key, value)] => writeString key ++ '=' :: (write value ++ ['\x7d'])
  | (key, value) :: rest => writeString key ++ '=' :: (write value ++ ',' :: writePairs rest)

end

theorem writePairs_cons_cons (key : String) (value : Document) (next : String × Document)
    (rest : List (String × Document)) :
    writePairs ((key, value) :: next :: rest) =
      writeString key ++ '=' :: (write value ++ ',' :: writePairs (next :: rest)) := rfl

theorem head_writePairs (member : String × Document) (members : List (String × Document)) :
    ∃ others, writePairs (member :: members) = '"' :: others := by
  cases members <;> exact ⟨_, rfl⟩

/-- The members of a document, each on a line of its own. -/
def writeLines : List (String × Document) → List Char
  | [] => []
  | (key, value) :: rest =>
    writeString key ++ ' ' :: '=' :: ' ' :: (write value ++ '\n' :: writeLines rest)

theorem head_writeLines (member : String × Document) (members : List (String × Document)) :
    ∃ others, writeLines (member :: members) = '"' :: others := ⟨_, rfl⟩

/-- A document can be written, with so many arrays and objects in one another. -/
inductive IsWritable : Nat → Document → Prop where
  | boolean {levels : Nat} (value : Bool) : IsWritable levels (.boolean value)
  | integer {levels : Nat} {value : Int} (least : -(Nat.pow 2 63 : Int) ≤ value)
      (most : value < (Nat.pow 2 63 : Int)) : IsWritable levels (.integer value)
  | string {levels : Nat} (value : String) : IsWritable levels (.string value)
  | array {levels : Nat} {elements : List Document}
      (each : ∀ element ∈ elements, IsWritable levels element) :
      IsWritable (levels + 1) (.array elements)
  | object {levels : Nat} {members : List (String × Document)}
      (sole : (members.map Prod.fst).Nodup)
      (each : ∀ member ∈ members, IsWritable levels member.2) :
      IsWritable (levels + 1) (.object members)

/-! ## Keys -/

section Keys

variable {text : List Char}

/-- A written key is a path, whether a blank follows it or not. -/
theorem readPath_write (key : String) {rest : List Char}
    (next : skipBlanks rest = '=' :: text) :
    readPath (writeString key ++ rest) = some (([], key), '=' :: text) := by
  obtain ⟨inside, written, read⟩ := readQuoted_writeString key rest
  have simple : readSimpleKey (skipBlanks (writeString key ++ rest)) = some (key, rest) := by
    rw [written]
    exact read
  have keys : readKeys ((writeString key ++ rest).length + 1) (writeString key ++ rest) =
      some ([key], '=' :: text) := by
    rw [readKeys, simple]
    simp [next]
  rw [readPath, keys]
  rfl

end Keys

/-! ## First characters -/

/-- A character is no blank, no line end and no start of a comment. -/
def IsSolid (c : Char) : Prop := c ∉ [' ', '\t', '\n', '\r', '#']

instance (c : Char) : Decidable (IsSolid c) :=
  inferInstanceAs (Decidable (c ∉ [' ', '\t', '\n', '\r', '#']))

section Solid

variable {first : Char}

theorem isSolid_of_isDigit (digit : isDigit first = true) : IsSolid first := by
  simp only [IsSolid, List.mem_cons, List.not_mem_nil, or_false, not_or]
  refine ⟨?_, ?_, ?_, ?_, ?_⟩ <;> exact ne_of_isDigit digit rfl

theorem skipBlanks_of_solid (solid : IsSolid first) (others : List Char) :
    skipBlanks (first :: others) = first :: others := by
  simp only [IsSolid, List.mem_cons, List.not_mem_nil, or_false, not_or] at solid
  exact List.dropWhile_cons_of_neg (by simp [isBlank, solid])

theorem readLineEnd_of_solid (solid : IsSolid first) (others : List Char) :
    readLineEnd (first :: others) = none := by
  simp only [IsSolid, List.mem_cons, List.not_mem_nil, or_false, not_or] at solid
  unfold readLineEnd
  split <;> simp_all

theorem skipFiller_of_solid (solid : IsSolid first) (fuel : Nat) (others : List Char) :
    skipFiller (fuel + 1) (first :: others) = some (first :: others) := by
  have line := readLineEnd_of_solid solid others
  rw [skipFiller, skipBlanks_of_solid solid]
  split
  next same =>
    obtain rfl := (List.cons.inj same).1
    exact absurd (by simp) solid
  next => rw [line]

end Solid

/-- A written whole number starts with a sign or a digit. -/
theorem head_writeInteger (value : Int) :
    ∃ first others, writeInteger value = first :: others ∧
      (first = '-' ∨ isDigit first = true) := by
  cases value with
  | negSucc value => exact ⟨'-', _, rfl, .inl rfl⟩
  | ofNat value =>
      cases own : Nat.toDigits 10 value with
      | nil => exact absurd own Nat.toDigits_ne_nil
      | cons first others =>
          have digit := isDigit_of_mem_toDigits first (own ▸ List.mem_cons_self)
          exact ⟨first, others, own, .inr digit⟩

/-! ## Values -/

/-- The readers give back a written value at this depth: it starts with a character that starts
nothing else inside an array, and with enough fuel it is read. -/
structure ReadsBack (depth : Nat) (value : Document) : Prop where
  head : ∃ first others, write value = first :: others ∧ IsSolid first ∧ first ≠ ']'
  read : ∀ fuel rest, Delimited rest → (write value).length ≤ fuel →
    readValue fuel depth (write value ++ rest) = some (value, rest)

/-- A value whose first character takes one step is read back with enough fuel. -/
theorem ReadsBack.of_step {depth : Nat} {value : Document}
    (head : ∃ first others, write value = first :: others ∧ IsSolid first ∧ first ≠ ']')
    (read : ∀ fuel rest, Delimited rest → (write value).length ≤ fuel + 1 →
      readValue (fuel + 1) depth (write value ++ rest) = some (value, rest)) :
    ReadsBack depth value where
  head := head
  read fuel rest delimited enough := by
    obtain ⟨first, others, own, -⟩ := head
    obtain ⟨fuel, rfl⟩ : ∃ less, fuel = less + 1 := by
      rw [own] at enough
      exact Nat.exists_eq_add_of_le' (Nat.le_trans (Nat.le_add_left 1 _) enough)
    exact read fuel rest delimited enough

section Scalars

theorem readsBack_boolean (depth : Nat) (value : Bool) : ReadsBack depth (.boolean value) := by
  cases value <;>
    exact .of_step ⟨_, _, rfl, by decide, by decide⟩ fun _ _ _ _ => rfl

theorem readsBack_string (depth : Nat) (value : String) : ReadsBack depth (.string value) := by
  refine .of_step ⟨_, _, rfl, by decide, by decide⟩ fun fuel rest delimited _ => ?_
  have read := readString_write value delimited
  simp only [writeString, List.cons_append] at read
  simp only [write, writeString, List.cons_append, readValue, read, Option.map_some]

theorem readsBack_integer {value : Int} (least : -(Nat.pow 2 63 : Int) ≤ value)
    (most : value < (Nat.pow 2 63 : Int)) (depth : Nat) : ReadsBack depth (.integer value) := by
  obtain ⟨first, others, own, mark⟩ := head_writeInteger value
  have apart : ∀ other, other ≠ '-' → isDigit other = false → first ≠ other := by
    intro other noSign foreign
    rcases mark with rfl | digit
    · exact noSign.symm
    · exact ne_of_isDigit digit foreign
  have solid : IsSolid first := by
    rcases mark with rfl | digit
    · decide
    · exact isSolid_of_isDigit digit
  have noClose : first ≠ ']' := apart _ (by decide) rfl
  refine .of_step ⟨first, others, own, solid, noClose⟩ fun fuel rest delimited _ => ?_
  have read := readNumberOrMoment_write least most delimited
  rw [own, List.cons_append] at read
  rw [write, own, List.cons_append, readValue]
  · exact read
  all_goals
    intro _ same
    exact apart _ (by decide) rfl (List.cons.inj same).1

end Scalars

section Arrays

variable {fuel depth : Nat} {held : List Document}

theorem readElements_next {element : Document} {first : Char} {others behind : List Char}
    (solid : IsSolid first) (noClose : first ≠ ']')
    (read : readValue fuel depth (first :: others) = some (element, ',' :: behind)) :
    readElements (fuel + 1) depth held (first :: others) =
      readElements fuel depth (element :: held) behind := by
  have comma : IsSolid ',' := by decide
  rw [readElements, skipFiller_of_solid solid]
  split
  next same => cases same
  next same => exact absurd (List.cons.inj (Option.some.inj same)).1 noClose
  next same =>
    cases same
    rw [read]
    dsimp only
    rw [skipFiller_of_solid comma]
    rfl

/-- The elements of an array are read back behind those that are held already. -/
theorem readElements_write {elements : List Document}
    (each : ∀ element ∈ elements, ReadsBack depth element) (rest : List Char)
    (enough : (writeElements elements).length ≤ fuel) :
    readElements fuel depth held (writeElements elements ++ rest) =
      some (.array (held.reverse ++ elements), rest) := by
  induction elements generalizing fuel held with
  | nil =>
      obtain ⟨fuel, rfl⟩ := Nat.exists_eq_add_of_le' enough
      rw [List.append_nil]
      rfl
  | cons element elements ih =>
      obtain ⟨own, later⟩ := List.forall_mem_cons.mp each
      rw [writeElements, List.length_append, List.length_cons] at enough
      obtain ⟨fuel, rfl⟩ := Nat.exists_eq_add_of_le' (Nat.le_trans (by omega : 1 ≤ _) enough)
      have read := own.read fuel (',' :: (writeElements elements ++ rest)) (.comma _) (by omega)
      -- A comma stands behind the last element too, so that every element is read in the same way.
      obtain ⟨first, others, start, solid, noClose⟩ := own.head
      rw [writeElements, List.append_assoc, List.cons_append]
      rw [start, List.cons_append] at read ⊢
      rw [readElements_next solid noClose read, ih later (by omega), List.reverse_cons,
        List.append_assoc, List.singleton_append]

end Arrays

theorem readsBack_array {depth : Nat} {elements : List Document}
    (shallow : depth + 1 < nestingLimit)
    (each : ∀ element ∈ elements, ReadsBack (depth + 1) element) :
    ReadsBack depth (.array elements) := by
  refine .of_step ⟨_, _, rfl, by decide, by decide⟩ fun fuel rest _ enough => ?_
  rw [write, List.length_cons] at enough
  rw [write, List.cons_append, readValue, if_pos shallow,
    readElements_write each rest (Nat.le_of_succ_le_succ enough)]
  rfl

/-! ## Members -/

/-- The entries of a table that has these members as values. -/
def valueEntries (members : List (String × Document)) : Entries :=
  members.map fun member => (member.1, .value member.2)

theorem document_valueEntries (members : List (String × Document)) :
    (valueEntries members).document = .object members := by
  rw [Entries.document, members_eq, valueEntries, List.map_map]
  exact congrArg Document.object (List.map_id members)

/-- A new key is put behind the members that are held. -/
theorem assign_valueEntries {held : List (String × Document)} {key : String}
    (new : key ∉ held.map Prod.fst) (value : Document) :
    (valueEntries held).assign [] key value = some (valueEntries (held ++ [(key, value)])) := by
  have absent : (valueEntries held).lookup key = none := by
    refine List.lookup_eq_none_iff.mpr fun entry among => ?_
    obtain ⟨member, own, rfl⟩ := List.mem_map.mp among
    exact bne_iff_ne.mpr fun same => new (same ▸ List.mem_map_of_mem own)
  have put : (valueEntries held).put key value = some (valueEntries (held ++ [(key, value)])) := by
    rw [Entries.put, absent, valueEntries, valueEntries, List.map_append]
    rfl
  exact put

/-- Of keys that are all different, the first one behind those held is new, and it can be held with
them. -/
theorem new_of_nodup {held members : List (String × Document)} {key : String} {value : Document}
    (sole : ((held ++ (key, value) :: members).map Prod.fst).Nodup) :
    key ∉ held.map Prod.fst ∧ ((held ++ [(key, value)] ++ members).map Prod.fst).Nodup := by
  refine ⟨fun among => ?_, by simpa using sole⟩
  rw [List.map_append, List.map_cons] at sole
  obtain ⟨-, -, apart⟩ := List.nodup_append.mp sole
  exact apart key among key List.mem_cons_self rfl

section Objects

variable {fuel depth : Nat} {held : List (String × Document)}

/-- No blanks stand before a written value. -/
theorem ReadsBack.read_skipBlanks {value : Document} (own : ReadsBack depth value)
    {behind : List Char} (delimited : Delimited behind) (enough : (write value).length ≤ fuel) :
    readValue fuel depth (skipBlanks (write value ++ behind)) = some (value, behind) := by
  have read := own.read fuel behind delimited enough
  obtain ⟨first, others, start, solid, -⟩ := own.head
  rw [start, List.cons_append] at read ⊢
  rw [skipBlanks_of_solid solid, read]

/-- The members of an inline table are read back behind those that are held already. -/
theorem readPairs_write {members : List (String × Document)} (nonempty : members ≠ [])
    (sole : ((held ++ members).map Prod.fst).Nodup)
    (each : ∀ member ∈ members, ReadsBack depth member.2) (rest : List Char)
    (enough : (writePairs members).length ≤ fuel) :
    readPairs fuel depth (valueEntries held) (writePairs members ++ rest) =
      some (.object (held ++ members), rest) := by
  induction members generalizing fuel held with
  | nil => exact absurd rfl nonempty
  | cons member members ih =>
      obtain ⟨key, value⟩ := member
      obtain ⟨own, later⟩ : ReadsBack depth value ∧ ∀ member ∈ members, ReadsBack depth member.2 :=
        List.forall_mem_cons.mp each
      obtain ⟨new, others⟩ := new_of_nodup sole
      cases members with
      | nil =>
          rw [writePairs, List.length_append, List.length_cons, List.length_append] at enough
          obtain ⟨fuel, rfl⟩ := Nat.exists_eq_add_of_le' (Nat.le_trans (by omega : 1 ≤ _) enough)
          have read := own.read_skipBlanks (.brace rest) (by omega : _ ≤ fuel)
          rw [writePairs, List.append_assoc, List.cons_append, List.append_assoc,
            List.singleton_append, readPairs, readPath_write key rfl]
          simp only [read, assign_valueEntries new, document_valueEntries]
          rfl
      | cons next members =>
          rw [writePairs_cons_cons, List.length_append, List.length_cons, List.length_append,
            List.length_cons] at enough
          obtain ⟨fuel, rfl⟩ := Nat.exists_eq_add_of_le' (Nat.le_trans (by omega : 1 ≤ _) enough)
          have read := own.read_skipBlanks (.comma (writePairs (next :: members) ++ rest))
            (by omega : _ ≤ fuel)
          have behind := ih (List.cons_ne_nil _ _) others later (by omega : _ ≤ fuel)
          rw [List.append_assoc, List.singleton_append] at behind
          rw [writePairs_cons_cons, List.append_assoc, List.cons_append, List.append_assoc,
            List.cons_append, readPairs, readPath_write key rfl]
          simp only [read, assign_valueEntries new]
          exact behind

end Objects

theorem readsBack_object {depth : Nat} {members : List (String × Document)}
    (shallow : depth + 1 < nestingLimit) (sole : (members.map Prod.fst).Nodup)
    (each : ∀ member ∈ members, ReadsBack (depth + 1) member.2) :
    ReadsBack depth (.object members) := by
  refine .of_step ⟨_, _, rfl, by decide, by decide⟩ fun fuel rest _ enough => ?_
  rw [write, List.length_cons] at enough
  rw [write, List.cons_append, readValue, if_pos shallow]
  cases members with
  | nil => rfl
  | cons member members =>
      have read : readPairs fuel (depth + 1) (valueEntries []) _ = _ :=
        readPairs_write (List.cons_ne_nil _ _) sole each rest (Nat.le_of_succ_le_succ enough)
      obtain ⟨others, start⟩ := head_writePairs member members
      rw [start, List.cons_append] at read ⊢
      exact read

/-- **Every written value is read back.** -/
theorem readsBack_of_isWritable {levels depth : Nat} {value : Document}
    (writable : IsWritable levels value) (shallow : depth + levels < nestingLimit) :
    ReadsBack depth value := by
  -- An array or object has one level more than what is in it, which is read one deeper.
  induction writable generalizing depth with
  | boolean value => exact readsBack_boolean depth value
  | integer least most => exact readsBack_integer least most depth
  | string value => exact readsBack_string depth value
  | array each ih =>
      exact readsBack_array (by omega) fun element among => ih element among (by omega)
  | object sole each ih =>
      exact readsBack_object (by omega) sole fun member among => ih member among (by omega)

/-! ## Texts -/

section Texts

variable {members held : List (String × Document)}

/-- A line that starts with a quoted key is an assignment. -/
theorem readStatement_quoted {others text line behind : List Char} {key : String} {value : Document}
    (path : readPath ('"' :: others) = some (([], key), '=' :: ' ' :: text))
    (solid : skipBlanks text = text)
    (own : readValue (2 * text.length + 2) 0 text = some (value, line))
    (rest : skipLineRest line = some behind) :
    readStatement ('"' :: others) = some (.assignment [] key value, behind) := by
  have blanks : skipBlanks (' ' :: text) = text := solid
  rw [readStatement, path]
  · simp [skipMark, blanks, own, rest]
  all_goals
    intro _ same
    cases same

theorem readStatement_write (key : String) {value : Document} (own : ReadsBack 0 value)
    (behind : List Char) :
    readStatement (writeString key ++ ' ' :: '=' :: ' ' :: (write value ++ '\n' :: behind)) =
      some (.assignment [] key value, behind) := by
  obtain ⟨first, others, start, solid, -⟩ := own.head
  refine readStatement_quoted (readPath_write key rfl) ?_ (own.read _ _ (.line behind) ?_) rfl
  · rw [start, List.cons_append, skipBlanks_of_solid solid]
  · rw [List.length_append]
    omega

theorem readStatements_quoted (fuel : Nat) (others : List Char) :
    readStatements (fuel + 1) ('"' :: others) =
      match readStatement ('"' :: others) with
      | none => none
      | some (statement, text) => (readStatements fuel text).map (statement :: ·) := rfl

/-- The statements of written lines are assignments of the members. -/
theorem readStatements_write (each : ∀ member ∈ members, ReadsBack 0 member.2) {fuel : Nat}
    (enough : members.length < fuel) :
    readStatements fuel (writeLines members) =
      some (members.map fun member => .assignment [] member.1 member.2) := by
  induction members generalizing fuel with
  | nil =>
      obtain ⟨fuel, rfl⟩ := Nat.exists_eq_add_of_le' enough
      rfl
  | cons member members ih =>
      obtain ⟨key, value⟩ := member
      obtain ⟨own, later⟩ := List.forall_mem_cons.mp each
      obtain ⟨fuel, rfl⟩ := Nat.exists_eq_add_of_le' (Nat.zero_lt_of_lt enough)
      have statement : readStatement (writeLines ((key, value) :: members)) =
          some (.assignment [] key value, writeLines members) := readStatement_write key own _
      obtain ⟨others, start⟩ := head_writeLines (key, value) members
      rw [start] at statement ⊢
      rw [readStatements_quoted, statement]
      dsimp only
      rw [ih later (Nat.lt_of_succ_lt_succ enough)]
      rfl

theorem grow_assignments (sole : ((held ++ members).map Prod.fst).Nodup) :
    (members.map fun member => Statement.assignment [] member.1 member.2).foldlM Growth.step
        ⟨valueEntries held, []⟩ = some ⟨valueEntries (held ++ members), []⟩ := by
  induction members generalizing held with
  | nil => rw [List.append_nil]; rfl
  | cons member members ih =>
      obtain ⟨key, value⟩ := member
      obtain ⟨new, others⟩ := new_of_nodup sole
      have step : Growth.step ⟨valueEntries held, []⟩ (.assignment [] key value) =
          some ⟨valueEntries (held ++ [(key, value)]), []⟩ := by
        rw [Growth.step, Entries.within, assign_valueEntries new value, Option.map_some]
      have rest := ih others
      rw [List.append_assoc, List.singleton_append] at rest
      rw [List.map_cons, List.foldlM_cons, step]
      exact rest

/-- The text of members has at least a character for each. -/
theorem length_le_length_writeLines (members : List (String × Document)) :
    members.length ≤ (writeLines members).length := by
  induction members with
  | nil => exact Nat.le_refl _
  | cons member members ih =>
      obtain ⟨key, value⟩ := member
      simp only [writeLines, List.length_append, List.length_cons]
      omega

theorem read_ofList {characters : List Char} (noMark : ∀ rest, characters ≠ '\uFEFF' :: rest) :
    read (String.ofList characters) =
      (readStatements (characters.length + 1) characters).bind fun statements =>
        (grow statements).map Entries.document := by
  unfold read
  rw [String.toList_ofList]
  dsimp only
  split
  next rest => exact absurd rfl (noMark rest)
  next => rfl

/-- **Reading gives back the members that were written.** -/
theorem read_write {levels : Nat} (shallow : levels < nestingLimit)
    (writable : IsWritable (levels + 1) (.object members)) :
    read (String.ofList (writeLines members)) = some (.object members) := by
  obtain ⟨sole, each⟩ : (members.map Prod.fst).Nodup ∧
      ∀ member ∈ members, IsWritable levels member.2 := by
    cases writable with
    | object sole each => exact ⟨sole, each⟩
  have own : ∀ member ∈ members, ReadsBack 0 member.2 := fun member among =>
    readsBack_of_isWritable (each member among) (by omega)
  have statements : readStatements ((writeLines members).length + 1) (writeLines members) = _ :=
    readStatements_write own (Nat.lt_succ_of_le (length_le_length_writeLines members))
  have steps : _ = some (Growth.mk (valueEntries ([] ++ members)) []) := grow_assignments sole
  have grown : grow (members.map fun member => .assignment [] member.1 member.2) =
      some (valueEntries members) := congrArg (Option.map Growth.root) steps
  have noMark : ∀ rest, writeLines members ≠ '\uFEFF' :: rest := by
    cases members with
    | nil =>
        intro rest same
        cases same
    | cons member members =>
        obtain ⟨others, start⟩ := head_writeLines member members
        intro rest same
        rw [start] at same
        cases same
  rw [read_ofList noMark, statements, Option.bind_some, grown, Option.map_some,
    document_valueEntries]

end Texts

end HostRoster.Toml

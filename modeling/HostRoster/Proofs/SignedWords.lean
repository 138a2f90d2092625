import HostRoster.Proofs.Records
import HostRoster.Toml.Reader

/-!
# The whole numbers of TOML

A whole number in a TOML text fits a signed word of 64 bits. So do all whole numbers of the document
that a text stands for (`Toml.ofSignedWords_read`): they come in by the readers of values, and what
headers and assignments do to the tree adds none.
-/

set_option autoImplicit false

namespace HostRoster

/-! ## Documents -/

namespace Document

/-- All whole numbers of a document are signed words of 64 bits. -/
inductive OfSignedWords : Document → Prop where
  | null : OfSignedWords .null
  | boolean (value : Bool) : OfSignedWords (.boolean value)
  | integer {value : Int} (least : -(Nat.pow 2 63 : Int) ≤ value)
      (most : value < (Nat.pow 2 63 : Int)) : OfSignedWords (.integer value)
  | real (value : Binary64) : OfSignedWords (.real value)
  | string (value : String) : OfSignedWords (.string value)
  | array {elements : List Document} (each : ∀ element ∈ elements, OfSignedWords element) :
      OfSignedWords (.array elements)
  | object {members : List (String × Document)}
      (each : ∀ member ∈ members, OfSignedWords member.2) : OfSignedWords (.object members)

theorem ofSignedWords_array_iff {elements : List Document} :
    (array elements).OfSignedWords ↔ ∀ element ∈ elements, element.OfSignedWords := by
  refine ⟨fun fits => ?_, .array⟩
  cases fits with
  | array each => exact each

theorem ofSignedWords_object_iff {members : List (String × Document)} :
    (object members).OfSignedWords ↔ ∀ member ∈ members, member.2.OfSignedWords := by
  refine ⟨fun fits => ?_, .object⟩
  cases fits with
  | object each => exact each

theorem OfSignedWords.parts {document : Document} (fits : document.OfSignedWords) :
    ∀ part ∈ document.parts, part.OfSignedWords := by
  cases fits with
  | array each => exact each
  | object each =>
      rw [Document.parts, List.forall_mem_map]
      exact each
  | null | boolean | integer | real | string => exact fun part among => nomatch among

theorem OfSignedWords.asWord {document : Document} (fits : document.OfSignedWords) {word : Nat}
    (read : document.asWord = .ok word) : word < Nat.pow 2 63 := by
  cases fits with
  | @integer value least most =>
      cases value with
      | ofNat value =>
          cases read
          exact Int.ofNat_lt.mp most
      | negSucc value => cases read
  | null | boolean | real | string | array | object => cases read

end Document

namespace Toml

/-! ## The tree -/

namespace Entries

/-- All whole numbers in the entries of a table are signed words of 64 bits. -/
def OfSignedWords (entries : Entries) : Prop :=
  ∀ entry ∈ entries, entry.2.document.OfSignedWords

end Entries

theorem members_eq (entries : Entries) :
    members entries = entries.map fun entry => (entry.1, entry.2.document) := by
  induction entries with
  | nil => rfl
  | cons entry entries ih =>
      obtain ⟨key, node⟩ := entry
      rw [members, ih, List.map_cons]

theorem objects_eq (elements : List Entries) :
    objects elements = elements.map Entries.document := by
  induction elements with
  | nil => rfl
  | cons entries elements ih =>
      rw [objects, ih, List.map_cons]
      rfl

theorem Entries.ofSignedWords_document_iff {entries : Entries} :
    entries.document.OfSignedWords ↔ entries.OfSignedWords := by
  rw [document, members_eq, Document.ofSignedWords_object_iff, List.forall_mem_map]
  rfl

theorem ofSignedWords_table_iff {implicit dotted : Bool} {entries : Entries} :
    (Node.table implicit dotted entries).document.OfSignedWords ↔ entries.OfSignedWords := by
  rw [Node.document]
  exact Entries.ofSignedWords_document_iff

theorem ofSignedWords_tables_iff {elements : List Entries} :
    (Node.tables elements).document.OfSignedWords ↔
      ∀ entries ∈ elements, entries.OfSignedWords := by
  rw [Node.document, objects_eq, Document.ofSignedWords_array_iff, List.forall_mem_map]
  simp only [Entries.ofSignedWords_document_iff]

namespace Entries

variable {entries result : Entries}

theorem ofSignedWords_append_iff {later : Entries} :
    OfSignedWords (entries ++ later) ↔ entries.OfSignedWords ∧ later.OfSignedWords :=
  List.forall_mem_append

theorem ofSignedWords_singleton_iff {key : String} {node : Node} :
    OfSignedWords [(key, node)] ↔ node.document.OfSignedWords :=
  List.forall_mem_singleton

/-- What changes one node to a fitting one changes fitting entries to fitting ones. -/
theorem OfSignedWords.change {key : String} {act : Option Node → Option Node}
    (keeps : ∀ old new, (∀ node ∈ old, node.document.OfSignedWords) → act old = some new →
      new.document.OfSignedWords)
    (fits : entries.OfSignedWords) (changed : Entries.change key act entries = some result) :
    result.OfSignedWords := by
  induction entries generalizing result with
  | nil =>
      obtain ⟨node, made, rfl⟩ := Option.map_eq_some_iff.mp changed
      exact ofSignedWords_singleton_iff.mpr (keeps none node (by simp) made)
  | cons entry entries ih =>
      obtain ⟨other, node⟩ := entry
      obtain ⟨first, later⟩ := List.forall_mem_cons.mp fits
      rw [Entries.change] at changed
      split at changed
      next =>
        obtain ⟨new, made, rfl⟩ := Option.map_eq_some_iff.mp changed
        refine List.forall_mem_cons.mpr ⟨keeps (some node) new ?_ made, later⟩
        rintro _ ⟨⟩
        exact first
      next =>
        obtain ⟨rest, made, rfl⟩ := Option.map_eq_some_iff.mp changed
        exact List.forall_mem_cons.mpr ⟨first, ih later made⟩

/-- What changes one table to a fitting one changes the tables around it to fitting ones. -/
theorem OfSignedWords.within {dotted : Bool} {act : Bool → Entries → Option Entries}
    (keeps : ∀ isDotted old new, old.OfSignedWords → act isDotted old = some new →
      new.OfSignedWords)
    {path : List String} {isDotted : Bool} (fits : entries.OfSignedWords)
    (changed : Entries.within dotted act path isDotted entries = some result) :
    result.OfSignedWords := by
  induction path generalizing isDotted entries result with
  | nil => exact keeps isDotted entries result fits changed
  | cons key path ih =>
      rw [Entries.within] at changed
      refine fits.change (fun old new fit made => ?_) changed
      split at made
      next =>
        obtain ⟨grown, done, rfl⟩ := Option.map_eq_some_iff.mp made
        exact ofSignedWords_table_iff.mpr (ih (List.forall_mem_nil _) done)
      next => cases made
      next elements =>
        have each := ofSignedWords_tables_iff.mp (fit _ rfl)
        split at made
        next => cases made
        next last found =>
          obtain ⟨grown, done, rfl⟩ := Option.map_eq_some_iff.mp made
          refine ofSignedWords_tables_iff.mpr (List.forall_mem_append.mpr ⟨?_, ?_⟩)
          · exact fun entries among => each entries (List.dropLast_subset _ among)
          · exact List.forall_mem_singleton.mpr
              (ih (each last (List.mem_of_getLast? found)) done)
      next implicit isDotted inner =>
        split at made
        next => cases made
        next =>
          obtain ⟨grown, done, rfl⟩ := Option.map_eq_some_iff.mp made
          exact ofSignedWords_table_iff.mpr (ih (ofSignedWords_table_iff.mp (fit _ rfl)) done)

theorem OfSignedWords.put {key : String} {value : Document} (fits : entries.OfSignedWords)
    (own : value.OfSignedWords) (done : entries.put key value = some result) :
    result.OfSignedWords := by
  rw [Entries.put] at done
  split at done
  next => cases done
  next =>
    cases done
    exact ofSignedWords_append_iff.mpr ⟨fits, ofSignedWords_singleton_iff.mpr own⟩

theorem OfSignedWords.assign {path : List String} {key : String} {value : Document}
    (fits : entries.OfSignedWords) (own : value.OfSignedWords)
    (done : entries.assign path key value = some result) : result.OfSignedWords := by
  refine fits.within (fun isDotted old new fit made => ?_) done
  split at made
  next => cases made
  next => exact fit.put own made

theorem OfSignedWords.openTable {key : String} (fits : entries.OfSignedWords)
    (done : entries.openTable key = some result) : result.OfSignedWords := by
  rw [Entries.openTable] at done
  split at done
  next =>
    cases done
    refine ofSignedWords_append_iff.mpr ⟨fits, ofSignedWords_singleton_iff.mpr ?_⟩
    exact ofSignedWords_table_iff.mpr (List.forall_mem_nil _)
  next inner found =>
    cases done
    obtain ⟨before, after, rfl, -⟩ := List.lookup_eq_some_iff.mp found
    refine ofSignedWords_append_iff.mpr ⟨?_, ofSignedWords_singleton_iff.mpr ?_⟩
    · exact fun entry among => fits entry (List.mem_filter.mp among).1
    · have held := fits _ (List.mem_append_right _ List.mem_cons_self)
      exact ofSignedWords_table_iff.mpr (ofSignedWords_table_iff.mp held)
  next => cases done

theorem OfSignedWords.addTable {key : String} (fits : entries.OfSignedWords)
    (done : entries.addTable key = some result) : result.OfSignedWords := by
  refine fits.change (fun old new fit made => ?_) done
  split at made
  next =>
    cases made
    exact ofSignedWords_tables_iff.mpr (List.forall_mem_singleton.mpr (List.forall_mem_nil _))
  next elements =>
    cases made
    refine ofSignedWords_tables_iff.mpr (List.forall_mem_append.mpr ⟨?_, ?_⟩)
    · exact ofSignedWords_tables_iff.mp (fit _ rfl)
    · exact List.forall_mem_singleton.mpr (List.forall_mem_nil _)
  next => cases made

end Entries

/-! ## Statements -/

/-- All whole numbers of a statement are signed words of 64 bits. -/
def Statement.OfSignedWords : Statement → Prop
  | .assignment _ _ value => value.OfSignedWords
  | _ => True

theorem ofSignedWords_step {growth result : Growth} {statement : Statement}
    (fits : growth.root.OfSignedWords) (own : statement.OfSignedWords)
    (stepped : growth.step statement = some result) : result.root.OfSignedWords := by
  cases statement with
  | assignment path key value =>
      obtain ⟨root, done, rfl⟩ := Option.map_eq_some_iff.mp stepped
      exact fits.within (fun _ _ _ fit made => fit.assign own made) done
  | tableHeader path key =>
      obtain ⟨root, done, rfl⟩ := Option.map_eq_some_iff.mp stepped
      exact fits.within (fun _ _ _ fit made => fit.openTable made) done
  | elementHeader path key =>
      obtain ⟨root, done, rfl⟩ := Option.map_eq_some_iff.mp stepped
      exact fits.within (fun _ _ _ fit made => fit.addTable made) done

theorem ofSignedWords_steps {statements : List Statement} {growth result : Growth}
    (fits : growth.root.OfSignedWords) (each : ∀ statement ∈ statements, statement.OfSignedWords)
    (done : statements.foldlM Growth.step growth = some result) : result.root.OfSignedWords := by
  induction statements generalizing growth with
  | nil =>
      cases done
      exact fits
  | cons statement statements ih =>
      obtain ⟨first, later⟩ := List.forall_mem_cons.mp each
      rw [List.foldlM_cons] at done
      obtain ⟨next, step, done⟩ := Option.bind_eq_some_iff.mp done
      exact ih (ofSignedWords_step fits first step) later done

/-- **The tree of statements has the whole numbers of the statements.** -/
theorem ofSignedWords_grow {statements : List Statement} {entries : Entries}
    (each : ∀ statement ∈ statements, statement.OfSignedWords)
    (grown : grow statements = some entries) : entries.document.OfSignedWords := by
  obtain ⟨growth, done, rfl⟩ := Option.map_eq_some_iff.mp grown
  have start : Entries.OfSignedWords [] := List.forall_mem_nil _
  exact Entries.ofSignedWords_document_iff.mpr (ofSignedWords_steps start each done)

/-! ## Readers -/

section Scalars

variable {text rest : List Char} {value : Document}

theorem ofSignedWords_integerOf {negative : Bool} {number : Nat}
    (read : integerOf negative number = some value) : value.OfSignedWords := by
  unfold integerOf at read
  have some : 0 < Nat.pow 2 63 := by decide
  split at read
  next =>
    split at read
    next small =>
      cases read
      exact .integer (Int.neg_le_neg (Int.ofNat_le.mpr small)) (by omega)
    next => cases read
  next =>
    split at read
    next small =>
      cases read
      exact .integer (by omega) (Int.ofNat_lt.mpr small)
    next => cases read

theorem ofSignedWords_realOf {negative : Bool} {whole fraction : List Char} {exponent : Int}
    (read : realOf negative whole fraction exponent = some value) : value.OfSignedWords := by
  unfold realOf at read
  split at read
  next => cases read
  next =>
    cases read
    exact .real _

theorem ofSignedWords_readInBase {base : Nat} (read : readInBase base text = some (value, rest)) :
    value.OfSignedWords := by
  unfold readInBase at read
  split at read
  next =>
    obtain ⟨number, done, same⟩ := Option.map_eq_some_iff.mp read
    cases same
    exact ofSignedWords_integerOf done
  next => cases read

theorem ofSignedWords_readDecimal {negative : Bool}
    (read : readDecimal negative text = some (value, rest)) : value.OfSignedWords := by
  unfold readDecimal at read
  split at read
  next => cases read
  next =>
    split at read
    next => cases read
    next =>
      split at read
      next => cases read
      next =>
        split at read
        next =>
          obtain ⟨number, done, same⟩ := Option.map_eq_some_iff.mp read
          cases same
          exact ofSignedWords_integerOf done
        next =>
          obtain ⟨number, done, same⟩ := Option.map_eq_some_iff.mp read
          cases same
          exact ofSignedWords_realOf done

theorem ofSignedWords_readNumber (read : readNumber text = some (value, rest)) :
    value.OfSignedWords := by
  unfold readNumber at read
  split at read
  next => exact ofSignedWords_readInBase read
  next => exact ofSignedWords_readInBase read
  next => exact ofSignedWords_readInBase read
  next =>
    dsimp only at read
    split at read
    next =>
      cases read
      exact .real _
    next =>
      cases read
      exact .real _
    next => exact ofSignedWords_readDecimal read

theorem ofSignedWords_readNumberOrMoment (read : readNumberOrMoment text = some (value, rest)) :
    value.OfSignedWords := by
  unfold readNumberOrMoment at read
  split at read
  next =>
    cases read
    exact .object (List.forall_mem_singleton.mpr (.string _))
  next => exact ofSignedWords_readNumber read

theorem ofSignedWords_readWord {word : List Char} {named : Document}
    (own : named.OfSignedWords) (read : readWord word named text = some (value, rest)) :
    value.OfSignedWords := by
  unfold readWord at read
  split at read
  next =>
    cases read
    exact own
  next => cases read

end Scalars

/-- **Readers of values give signed words.** The readers of arrays and of inline tables call the
reader of values, with less fuel each. -/
theorem ofSignedWords_readers (fuel : Nat) :
    (∀ depth text value rest, readValue fuel depth text = some (value, rest) →
      value.OfSignedWords) ∧
    (∀ depth held text value rest, (∀ element ∈ held, element.OfSignedWords) →
      readElements fuel depth held text = some (value, rest) → value.OfSignedWords) ∧
    ∀ depth entries text value rest, Entries.OfSignedWords entries →
      readPairs fuel depth entries text = some (value, rest) → value.OfSignedWords := by
  induction fuel with
  | zero =>
      refine ⟨?_, ?_, ?_⟩
      · intro depth text value rest read
        cases read
      · intro depth held text value rest fits read
        cases read
      · intro depth entries text value rest fits read
        cases read
  | succ fuel ih =>
      obtain ⟨ofValue, ofElements, ofPairs⟩ := ih
      refine ⟨?_, ?_, ?_⟩
      · intro depth text value rest read
        unfold readValue at read
        split at read
        next =>
          obtain ⟨found, -, same⟩ := Option.map_eq_some_iff.mp read
          cases same
          exact .string _
        next =>
          obtain ⟨found, -, same⟩ := Option.map_eq_some_iff.mp read
          cases same
          exact .string _
        next =>
          split at read
          next => exact ofElements _ _ _ _ _ (List.forall_mem_nil _) read
          next => cases read
        next =>
          split at read
          next =>
            split at read
            next =>
              cases read
              exact .object (List.forall_mem_nil _)
            next => exact ofPairs _ _ _ _ _ (List.forall_mem_nil _) read
          next => cases read
        next => exact ofSignedWords_readWord (.boolean true) read
        next => exact ofSignedWords_readWord (.boolean false) read
        next => exact ofSignedWords_readNumberOrMoment read
      · intro depth held text value rest fits read
        rw [readElements] at read
        split at read
        next => cases read
        next =>
          cases read
          exact .array fun element among => fits element (List.mem_reverse.mp among)
        next =>
          split at read
          next => cases read
          next element behind first =>
            have more : ∀ other ∈ element :: held, other.OfSignedWords :=
              List.forall_mem_cons.mpr ⟨ofValue _ _ _ _ first, fits⟩
            split at read
            next => exact ofElements _ _ _ _ _ more read
            next =>
              cases read
              exact .array fun other among => more other (List.mem_reverse.mp among)
            next => cases read
      · intro depth entries text value rest fits read
        rw [readPairs] at read
        split at read
        next =>
          split at read
          next => cases read
          next first =>
            split at read
            next => cases read
            next grown assigned =>
              have more := Entries.OfSignedWords.assign fits (ofValue _ _ _ _ first) assigned
              split at read
              next => exact ofPairs _ _ _ _ _ more read
              next =>
                cases read
                exact Entries.ofSignedWords_document_iff.mpr more
              next => cases read
        next => cases read

theorem ofSignedWords_readStatement {text rest : List Char} {statement : Statement}
    (read : readStatement text = some (statement, rest)) : statement.OfSignedWords := by
  unfold readStatement at read
  split at read
  next =>
    obtain ⟨header, -, told⟩ := Option.bind_eq_some_iff.mp read
    obtain ⟨behind, -, same⟩ := Option.bind_eq_some_iff.mp told
    cases same
    exact trivial
  next =>
    obtain ⟨header, -, told⟩ := Option.bind_eq_some_iff.mp read
    obtain ⟨behind, -, same⟩ := Option.bind_eq_some_iff.mp told
    cases same
    exact trivial
  next =>
    obtain ⟨⟨⟨path, key⟩, behindPath⟩, -, told⟩ := Option.bind_eq_some_iff.mp read
    obtain ⟨behindMark, -, told⟩ := Option.bind_eq_some_iff.mp told
    obtain ⟨⟨value, behindValue⟩, given, told⟩ := Option.bind_eq_some_iff.mp told
    obtain ⟨behind, -, same⟩ := Option.bind_eq_some_iff.mp told
    cases same
    exact (ofSignedWords_readers _).1 _ _ _ _ given

theorem ofSignedWords_readStatements {fuel : Nat} {text : List Char} {statements : List Statement}
    (read : readStatements fuel text = some statements) :
    ∀ statement ∈ statements, statement.OfSignedWords := by
  induction fuel generalizing text statements with
  | zero => cases read
  | succ fuel ih =>
      unfold readStatements at read
      split at read
      next =>
        cases read
        exact List.forall_mem_nil _
      next =>
        obtain ⟨behind, -, later⟩ := Option.bind_eq_some_iff.mp read
        exact ih later
      next =>
        split at read
        next => exact ih read
        next =>
          split at read
          next => cases read
          next statement behind first =>
            obtain ⟨later, done, rfl⟩ := Option.map_eq_some_iff.mp read
            exact List.forall_mem_cons.mpr ⟨ofSignedWords_readStatement first, ih done⟩

/-- **All whole numbers of a TOML document are signed words of 64 bits.** -/
theorem ofSignedWords_read {text : String} {document : Document}
    (done : read text = some document) : document.OfSignedWords := by
  obtain ⟨statements, found, told⟩ := Option.bind_eq_some_iff.mp done
  obtain ⟨entries, grown, rfl⟩ := Option.map_eq_some_iff.mp told
  exact ofSignedWords_grow (ofSignedWords_readStatements found) grown

end Toml

end HostRoster

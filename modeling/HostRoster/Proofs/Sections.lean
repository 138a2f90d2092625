import HostRoster.Proofs.Boundaries
import HostRoster.Proofs.Sextets

/-!
# Sections of PEM texts

A section is written as an opening line, lines inside, and a closing line with the same label
(`Section`). What a reader makes of it depends on its label and on what stands inside: it is damage,
and ends the reading (`read_damaged`), or it gives an item or none, and the reader goes on behind it
as at the start of a text (`read_section`).
-/

set_option autoImplicit false

namespace HostRoster.Pem

variable {label : Bytes} {kind : Kind}

/-! ## Kinds -/

theorem label_injective {other : Kind} (same : Bytes.ofText kind.label = Bytes.ofText other.label) :
    kind = other := by
  revert same
  cases kind <;> cases other <;> decide +kernel

/-- A label marks a kind exactly if it is the one of the kind. -/
theorem Kind.ofLabel?_eq_some_iff :
    Kind.ofLabel? label = some kind ↔ Bytes.ofText kind.label = label := by
  constructor
  · intro found
    simpa using List.find?_some found
  · rintro rfl
    cases found : Kind.ofLabel? (Bytes.ofText kind.label) with
    | some other =>
        have same : Bytes.ofText other.label = Bytes.ofText kind.label := by
          simpa using List.find?_some found
        rw [label_injective same]
    | none =>
        have member : kind ∈ Kind.all := by cases kind <;> decide
        have other := List.find?_eq_none.mp found kind member
        simp at other

theorem isLabel_of_ofLabel? (marked : Kind.ofLabel? label = some kind) : IsLabel label := by
  obtain rfl := Kind.ofLabel?_eq_some_iff.mp marked
  cases kind <;> decide +kernel

/-! ## Contents -/

/-- The contents with items in front. -/
def Contents.prepend (items : List Item) (contents : Contents) : Contents :=
  { contents with items := items ++ contents.items }

@[simp] theorem Contents.items_prepend (items : List Item) (contents : Contents) :
    (contents.prepend items).items = items ++ contents.items := rfl

@[simp] theorem Contents.undamaged_prepend (items : List Item) (contents : Contents) :
    (contents.prepend items).undamaged = contents.undamaged := rfl

theorem Contents.prepend_prepend (first second : List Item) (contents : Contents) :
    (contents.prepend second).prepend first = contents.prepend (first ++ second) := by
  simp [Contents.prepend]

/-- What a section holds, if it is an item. -/
def Item.listed (item : Item) : List Item := if item.kind.isItem then [item] else []

theorem Contents.push_eq (item : Item) (contents : Contents) :
    contents.push item = contents.prepend item.listed := by
  unfold Contents.push Item.listed
  split <;> rfl

/-! ## Sections -/

/-- A section as it is written. -/
structure Section where
  label : Bytes
  opened : LineEnd
  inner : List Line
  unbroken : ∀ byte ∈ label, isLineEnd byte = false
  isInner : ∀ line ∈ inner, line.IsInner label

namespace Section

def openingLine (written : Section) : Line where
  content := opening ++ written.label ++ fiveDashes
  ending := written.opened
  unbroken := (unbroken_boundary written.unbroken).1

/-- A section up to the end of its closing line, which is not in it. -/
def text (written : Section) : Bytes :=
  written.openingLine.text ++ (textOf written.inner ++ closingOf written.label)

/-- The pieces that a reader finds between the boundaries of a section. -/
def pieces (written : Section) : List Bytes :=
  lines written.opened.rest ++ written.inner.flatMap Line.pieces

/-- What a reader takes for the body of a section. -/
def body? (written : Section) : Option Bytes := Base64.decode (textOf written.inner)

/-- Whether a section is damage: its opening line does not give its label back, or the label marks a
kind and there is no body. -/
def isDamaged (written : Section) : Bool :=
  !IsLabel written.label || (Kind.ofLabel? written.label).isSome && written.body?.isNone

/-- The items of a section: one, or none. -/
def items (written : Section) : List Item :=
  match Kind.ofLabel? written.label, written.body? with
  | some kind, some body => Item.listed ⟨kind, body⟩
  | _, _ => []

theorem lines_text_append (written : Section) (after : Bytes) :
    lines (written.text ++ after) =
      (opening ++ written.label ++ fiveDashes ++ [written.opened.first]) ::
        (written.pieces ++ lines (closingOf written.label ++ after)) := by
  rw [text, List.append_assoc, List.append_assoc, Pem.lines_text_append, lines_textOf_append,
    Line.pieces, pieces]
  simp [openingLine]

theorem inner_of_mem_pieces (written : Section) {piece : Bytes} (member : piece ∈ written.pieces) :
    opens piece = false ∧ closes written.label piece = false := by
  rcases List.mem_append.mp member with extra | among
  · exact inner_of_mem_rest extra
  · obtain ⟨line, among, member⟩ := List.mem_flatMap.mp among
    exact Pem.inner_of_mem_pieces written.unbroken (written.isInner line among) member

theorem decode_pieces (written : Section) :
    Base64.decode written.pieces.flatten = written.body? := by
  refine Base64.decode_congr ?_
  -- The second sign of the end of the opening line is collected as well, but is blank.
  rw [pieces, List.flatten_append, flatten_flatMap_pieces, List.filter_append]
  cases written.opened <;> rfl

variable {written : Section} {body : Bytes}

theorem isDamaged_of_foreign (marked : (Kind.ofLabel? written.label).isSome = true)
    {line : Line} (among : line ∈ written.inner) {byte : UInt8} (member : byte ∈ line.content)
    (foreign : Base64.IsForeign byte) : written.isDamaged = true := by
  have bodiless : written.body? = none :=
    Base64.decode_of_foreign foreign
      (List.mem_flatMap.mpr ⟨line, among, List.mem_append_left _ member⟩)
  simp [isDamaged, marked, bodiless]

/-- With a label and a body, a section is no damage, and has the items of its label. -/
theorem of_body (proper : IsLabel written.label) (held : written.body? = some body) :
    written.isDamaged = false ∧
      written.items = match Kind.ofLabel? written.label with
        | some kind => Item.listed ⟨kind, body⟩
        | none => [] := by
  constructor
  · simp [isDamaged, proper, held]
  · rw [items, held]
    cases Kind.ofLabel? written.label <;> rfl

/-- Without the label of an item, a section is no damage unless its label wants a body. -/
theorem of_unlisted (proper : IsLabel written.label)
    (unlisted : ∀ kind, Kind.ofLabel? written.label = some kind →
      kind.isItem = false ∧ written.body? ≠ none) :
    written.isDamaged = false ∧ written.items = [] := by
  cases marked : Kind.ofLabel? written.label with
  | none => simp [isDamaged, items, proper, marked]
  | some kind =>
      obtain ⟨unlisted, held⟩ := unlisted kind marked
      obtain ⟨body, held⟩ := Option.ne_none_iff_exists'.mp held
      obtain ⟨undamaged, items⟩ := of_body proper held
      refine ⟨undamaged, ?_⟩
      rw [items, marked]
      simp [Item.listed, unlisted]

end Section

/-- A line can end where a text starts: with its first byte, or because there is nothing more. -/
def EndsLine (text : Bytes) : Prop := ∀ byte ∈ text.head?, isLineEnd byte = true

theorem LineEnd.endsLine (ending : LineEnd) (rest : Bytes) :
    EndsLine (ending.first :: (ending.rest ++ rest)) := by
  rintro byte ⟨⟩
  exact ending.isLineEnd_first

theorem read_skip {written : List Line}
    (unopened : ∀ line ∈ written, opens line.content = false) (rest : Bytes) :
    read (textOf written ++ rest) = read rest := by
  rw [read, lines_textOf_append, readLines_skip, read]
  intro piece member
  obtain ⟨line, among, member⟩ := List.mem_flatMap.mp member
  exact opens_of_mem_pieces (unopened line among) member

/-- An end of a line, at the start of a text, is passed over. -/
theorem read_ending (ending : LineEnd) (rest : Bytes) :
    read (ending.first :: (ending.rest ++ rest)) = read rest := by
  let blank : Line := ⟨[], ending, by simp⟩
  have skipped : read (textOf [blank] ++ rest) = read rest := by
    refine read_skip (fun line member => ?_) rest
    rw [List.mem_singleton.mp member]
    rfl
  simpa [textOf, Line.text, blank] using skipped

/-- The piece of a closing line, and what a reader finds behind it. -/
theorem lines_closing (unbroken : ∀ byte ∈ label, isLineEnd byte = false) {after : Bytes}
    (ends : EndsLine after) :
    ∃ tail later, lines (closingOf label ++ after) = (closingOf label ++ tail) :: later ∧
      readLines none later = read after := by
  have marker := (unbroken_boundary unbroken).2
  cases after with
  | nil =>
      have nonempty : closingOf label ≠ [] := by simp [closingOf, closing]
      exact ⟨[], [], by rw [List.append_nil, lines_unbroken nonempty marker], rfl⟩
  | cons byte rest =>
      -- The first byte behind the closing line ends it. At the start of a text it is a blank line.
      have ending : isLineEnd byte = true := ends byte rfl
      refine ⟨[byte], lines rest, lines_unbroken_append marker ending rest, ?_⟩
      have piece : lines (byte :: rest) = [byte] :: lines rest :=
        lines_unbroken_append (List.forall_mem_nil _) ending rest
      have unopened : ∀ piece ∈ [[byte]], opens piece = false := by
        intro piece member
        rw [List.mem_singleton.mp member]
        simp [opens, opening, List.isPrefixOf]
      rw [read, piece]
      exact (readLines_skip unopened).symm

/-- A section that is open ends at its closing line. -/
theorem readLines_closing (unbroken : ∀ byte ∈ label, isLineEnd byte = false) {after : Bytes}
    (ends : EndsLine after) (collected : List Bytes) :
    readLines (some ⟨label, collected⟩) (lines (closingOf label ++ after)) =
      match Kind.ofLabel? label with
      | none => read after
      | some kind =>
        match Base64.decode collected.reverse.flatten with
        | none => .damaged
        | some body => (read after).push ⟨kind, body⟩ := by
  obtain ⟨tail, later, pieces, rest⟩ := lines_closing unbroken ends
  obtain ⟨unopened, closed⟩ := closes_closing label tail
  rw [pieces, readLines, if_neg (by simp [unopened]), if_pos closed, rest]
  rfl

/-- The reader comes to the closing line of a section with all the pieces inside collected. -/
theorem read_text_append (written : Section) (after : Bytes) :
    read (written.text ++ after) =
      if IsLabel written.label then
        readLines (some ⟨written.label, written.pieces.reverse⟩)
          (lines (closingOf written.label ++ after))
      else .damaged := by
  have opened : opens (opening ++ written.label ++ fiveDashes ++ [written.opened.first]) = true := by
    rw [List.append_assoc]
    exact opens_opening written.label _
  rw [read, written.lines_text_append, readLines, if_pos opened,
    openedLabel?_opening written.opened.isLineEnd_first]
  by_cases proper : IsLabel written.label
  · rw [if_pos proper, if_pos proper]
    simp only [Option.map_none, Option.getD_none]
    rw [readLines_collect fun piece => written.inner_of_mem_pieces, List.append_nil]
  · rw [if_neg proper, if_neg proper]

/-- **Damage ends the reading.** -/
theorem read_damaged {written : Section} (damaged : written.isDamaged = true) {after : Bytes}
    (ends : EndsLine after) : read (written.text ++ after) = .damaged := by
  rw [read_text_append]
  by_cases proper : IsLabel written.label
  · rw [if_pos proper, readLines_closing written.unbroken ends, List.reverse_reverse,
      written.decode_pieces]
    simp only [Section.isDamaged, proper, decide_true, Bool.not_true, Bool.false_or,
      Bool.and_eq_true, Option.isSome_iff_exists, Option.isNone_iff_eq_none] at damaged
    obtain ⟨⟨kind, marked⟩, bodiless⟩ := damaged
    rw [marked, bodiless]
  · rw [if_neg proper]

/-- **A section that is no damage gives its items**, and the reader goes on behind it. -/
theorem read_section {written : Section} (undamaged : written.isDamaged = false) {after : Bytes}
    (ends : EndsLine after) :
    read (written.text ++ after) = (read after).prepend written.items := by
  simp only [Section.isDamaged, Bool.or_eq_false_iff, Bool.not_eq_false', decide_eq_true_eq]
    at undamaged
  obtain ⟨proper, whole⟩ := undamaged
  rw [read_text_append, if_pos proper, readLines_closing written.unbroken ends,
    List.reverse_reverse, written.decode_pieces]
  unfold Section.items
  cases marked : Kind.ofLabel? written.label with
  | none => rfl
  | some kind =>
      cases held : written.body? with
      | none => simp [marked, held] at whole
      | some bytes => exact Contents.push_eq ⟨kind, bytes⟩ _

end HostRoster.Pem

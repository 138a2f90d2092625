import HostRoster.Encoding.Pem

/-!
# Lines and boundaries of PEM texts

A reader of PEM texts takes a text apart into pieces that each end behind a line feed or a carriage
return. Written lines (`Line`) may end with either or with both, and the second sign of such an end
is a piece of its own, which is neither inside nor outside of a section a boundary
(`lines_textOf_append`, `opens_of_mem_pieces`).

Lines that open no section are passed over outside of sections (`readLines_skip`), and collected
inside of one that they do not close (`readLines_collect`).

**Labels.** The label of an opening line is what stands before its five dashes. A label may hold
dashes of its own, but none that only blanks divide from those five (`IsLabel`): such a line has too
many dashes at its end, and is damage.
-/

set_option autoImplicit false

namespace HostRoster.Pem

/-! ## Written lines -/

/-- How a line ends: with a line feed, with a carriage return, or with that and then a line feed. -/
inductive LineEnd where
  | lineFeed
  | carriageReturn
  | both
  deriving DecidableEq, Repr

/-- The sign that ends the line for a reader. -/
def LineEnd.first : LineEnd → UInt8
  | .lineFeed => 10
  | .carriageReturn | .both => 13

/-- The sign behind the one that ends the line for a reader. -/
def LineEnd.rest : LineEnd → Bytes
  | .both => [10]
  | .lineFeed | .carriageReturn => []

/-- A line of a text. -/
structure Line where
  content : Bytes
  ending : LineEnd
  unbroken : ∀ byte ∈ content, isLineEnd byte = false

def Line.text (line : Line) : Bytes := line.content ++ line.ending.first :: line.ending.rest

/-- A line as a reader takes it. -/
def Line.pieces (line : Line) : List Bytes :=
  (line.content ++ [line.ending.first]) :: lines line.ending.rest

def textOf (written : List Line) : Bytes := written.flatMap Line.text

variable {label content marker rest : Bytes} {ending : UInt8} {line : Line}

theorem LineEnd.isLineEnd_first (ending : LineEnd) : isLineEnd ending.first = true := by
  cases ending <;> rfl

/-- A piece goes up to the sign that ends it. -/
theorem lines_unbroken_append (unbroken : ∀ byte ∈ content, isLineEnd byte = false)
    (ends : isLineEnd ending = true) (rest : Bytes) :
    lines (content ++ ending :: rest) = (content ++ [ending]) :: lines rest := by
  induction content with
  | nil => simp [lines, pushByte, ends]
  | cons byte content ih =>
      obtain ⟨first, later⟩ := List.forall_mem_cons.mp unbroken
      have pieces := ih later
      simp only [lines] at pieces
      simp [lines, pieces, pushByte, first]

/-- The last line of a text may have no end. -/
theorem lines_unbroken (nonempty : content ≠ [])
    (unbroken : ∀ byte ∈ content, isLineEnd byte = false) : lines content = [content] := by
  induction content with
  | nil => exact absurd rfl nonempty
  | cons byte content ih =>
      obtain ⟨first, later⟩ := List.forall_mem_cons.mp unbroken
      cases content with
      | nil => simp [lines, pushByte, first]
      | cons next content =>
          have piece := ih (List.cons_ne_nil _ _) later
          rw [lines] at piece
          rw [lines, List.foldr_cons, piece, pushByte, first, if_neg Bool.false_ne_true]

theorem lines_text_append (line : Line) (rest : Bytes) :
    lines (line.text ++ rest) = line.pieces ++ lines rest := by
  rw [Line.text, List.append_assoc, List.cons_append,
    lines_unbroken_append line.unbroken line.ending.isLineEnd_first, Line.pieces]
  cases line.ending <;> rfl

/-- **Written lines are taken apart one after the other.** -/
theorem lines_textOf_append (written : List Line) (rest : Bytes) :
    lines (textOf written ++ rest) = written.flatMap Line.pieces ++ lines rest := by
  induction written with
  | nil => rfl
  | cons line written ih =>
      simp only [textOf, List.flatMap_cons, List.append_assoc] at ih ⊢
      rw [lines_text_append, ih]

theorem flatten_pieces (line : Line) : line.pieces.flatten = line.text := by
  rw [Line.pieces, Line.text]
  cases line.ending <;> simp [LineEnd.rest, lines, pushByte, isLineEnd]

theorem flatten_flatMap_pieces (written : List Line) :
    (written.flatMap Line.pieces).flatten = textOf written := by
  induction written with
  | nil => rfl
  | cons line written ih =>
      simp only [textOf, List.flatMap_cons, List.flatten_append, flatten_pieces] at ih ⊢
      rw [ih]

/-! ## Boundaries on lines -/

theorem isPrefixOf_ended (unbroken : ∀ byte ∈ marker, isLineEnd byte = false)
    (ends : isLineEnd ending = true) :
    marker.isPrefixOf (content ++ [ending]) = marker.isPrefixOf content := by
  induction marker generalizing content with
  | nil => simp
  | cons sign marker ih =>
      obtain ⟨first, later⟩ := List.forall_mem_cons.mp unbroken
      cases content with
      | nil =>
          -- The line is over, and the marker cannot go on with the sign that ends it.
          have other : sign ≠ ending := by
            rintro rfl
            rw [first] at ends
            cases ends
          simp [List.isPrefixOf, other]
      | cons byte content => simp [List.isPrefixOf, ih later]

/-- Where the closing line of a label starts. -/
def closingOf (label : Bytes) : Bytes := closing ++ label ++ fiveDashes

theorem closes_eq (label line : Bytes) : closes label line = (closingOf label).isPrefixOf line := rfl

/-- Around a label without line ends, the signs of a boundary hold none either. -/
theorem unbroken_boundary (unbroken : ∀ byte ∈ label, isLineEnd byte = false) :
    (∀ byte ∈ opening ++ label ++ fiveDashes, isLineEnd byte = false) ∧
      ∀ byte ∈ closingOf label, isLineEnd byte = false := by
  have signs : (∀ byte ∈ opening, isLineEnd byte = false) ∧
      (∀ byte ∈ closing, isLineEnd byte = false) ∧
        ∀ byte ∈ fiveDashes, isLineEnd byte = false := by
    simp [opening, closing, fiveDashes, isLineEnd]
  simp only [closingOf, List.forall_mem_append]
  exact ⟨⟨⟨signs.1, unbroken⟩, signs.2.2⟩, ⟨signs.2.1, unbroken⟩, signs.2.2⟩

/-- A line inside of the section with a label: it is neither an opening line nor the closing one. -/
def Line.IsInner (label : Bytes) (line : Line) : Prop :=
  opens line.content = false ∧ closes label line.content = false

theorem inner_of_mem_rest {ending : LineEnd} {piece : Bytes} (member : piece ∈ lines ending.rest) :
    opens piece = false ∧ closes label piece = false := by
  cases ending with
  | both =>
      -- The line feed behind a carriage return is a piece of its own.
      obtain rfl : piece = [10] := List.mem_singleton.mp member
      exact ⟨rfl, rfl⟩
  | lineFeed | carriageReturn => cases member

theorem opens_of_mem_pieces (unopened : opens line.content = false) {piece : Bytes}
    (member : piece ∈ line.pieces) : opens piece = false := by
  rcases List.mem_cons.mp member with rfl | extra
  · have unbroken : ∀ byte ∈ opening, isLineEnd byte = false := by simp [opening, isLineEnd]
    rw [opens, isPrefixOf_ended unbroken line.ending.isLineEnd_first]
    exact unopened
  · exact (inner_of_mem_rest extra : _ ∧ closes [] piece = false).1

theorem inner_of_mem_pieces (unbroken : ∀ byte ∈ label, isLineEnd byte = false)
    (inner : line.IsInner label) {piece : Bytes} (member : piece ∈ line.pieces) :
    opens piece = false ∧ closes label piece = false := by
  refine ⟨opens_of_mem_pieces inner.1 member, ?_⟩
  rcases List.mem_cons.mp member with rfl | extra
  · rw [closes_eq, isPrefixOf_ended (unbroken_boundary unbroken).2 line.ending.isLineEnd_first]
    exact inner.2
  · exact (inner_of_mem_rest extra).2

/-! ## Labels -/

/-- A label that an opening line can give back: no dash stands at its end or before blanks there. -/
def IsLabel (label : Bytes) : Prop := dash ∉ label.reverse.takeWhile isTrailer

instance : Decidable (IsLabel label) :=
  inferInstanceAs (Decidable (dash ∉ label.reverse.takeWhile isTrailer))

theorem isLabel_of_not_mem (undashed : dash ∉ label) : IsLabel label := by
  intro member
  exact undashed (List.mem_reverse.mp ((List.takeWhile_sublist _).subset member))

/-- The trailer of an opening line goes on before the five dashes as in the label. -/
theorem dash_mem_trailer_iff :
    dash ∈ (opening ++ label).reverse.takeWhile isTrailer ↔
      dash ∈ label.reverse.takeWhile isTrailer := by
  rw [List.reverse_append, List.takeWhile_append]
  split
  next whole =>
    have same : label.reverse.takeWhile isTrailer = label.reverse :=
      (List.takeWhile_sublist _).eq_of_length whole
    have blank : opening.reverse.takeWhile isTrailer = [32] := by decide
    rw [same, blank]
    simp [dash]
  next => rfl

theorem isTrailer_of_isLineEnd (ends : isLineEnd ending = true) : isTrailer ending = true := by
  simp [isTrailer, ends]

/-- From the right, an opening line has its end, five dashes, and the trailer that goes on before
them. -/
theorem takeWhile_reverse_opening (ends : isLineEnd ending = true) (head : Bytes) :
    (head ++ fiveDashes ++ [ending]).reverse.takeWhile isTrailer =
        ending :: (fiveDashes ++ head.reverse.takeWhile isTrailer) ∧
      (head ++ fiveDashes ++ [ending]).reverse.dropWhile isTrailer =
        head.reverse.dropWhile isTrailer := by
  have trailer := isTrailer_of_isLineEnd ends
  have dashes : isTrailer 45 = true := by decide
  constructor <;> simp [fiveDashes, trailer, dashes]

/-- A line with five dashes at its end has what stands before them for its label, unless more dashes
stand there. -/
theorem openedLabel?_dashes (ends : isLineEnd ending = true) (head : Bytes) :
    openedLabel? (head ++ fiveDashes ++ [ending]) =
      if dash ∈ head.reverse.takeWhile isTrailer then none else some (head.drop opening.length) := by
  obtain ⟨taken, dropped⟩ := takeWhile_reverse_opening ends head
  simp only [openedLabel?, taken, dropped]
  have undashed : ending ≠ dash := by
    rintro rfl
    cases ends
  have count : (ending :: (fiveDashes ++ head.reverse.takeWhile isTrailer)).reverse.count dash =
      (head.reverse.takeWhile isTrailer).count dash + 5 := by
    rw [List.count_reverse, List.count_cons_of_ne undashed, List.count_append, Nat.add_comm]
    rfl
  -- Exactly five dashes are found unless the head has some in its trailer.
  rw [count]
  by_cases more : dash ∈ head.reverse.takeWhile isTrailer
  · have positive := List.count_pos_iff.mpr more
    rw [if_neg (by omega), if_pos more]
  · have blanks : ∀ byte ∈ (head.reverse.takeWhile isTrailer).reverse, (byte != dash) = true := by
      intro byte member
      rw [bne_iff_ne]
      rintro rfl
      exact more (List.mem_reverse.mp member)
    have upTo : (ending :: (fiveDashes ++ head.reverse.takeWhile isTrailer)).reverse.takeWhile
        (· != dash) = (head.reverse.takeWhile isTrailer).reverse := by
      rw [List.reverse_cons, List.reverse_append, List.append_assoc,
        List.takeWhile_append_of_pos blanks]
      simp [fiveDashes, dash]
    have whole : (head.reverse.dropWhile isTrailer).reverse ++
        (head.reverse.takeWhile isTrailer).reverse = head := by
      rw [← List.reverse_append, List.takeWhile_append_dropWhile, List.reverse_reverse]
    rw [if_pos (by rw [List.count_eq_zero.mpr more]), if_neg more, upTo, whole]

/-- **The label of an opening line is the one that was written**, unless the line has more than five
dashes at its end. -/
theorem openedLabel?_opening (ends : isLineEnd ending = true) (label : Bytes) :
    openedLabel? (opening ++ label ++ fiveDashes ++ [ending]) =
      if IsLabel label then some label else none := by
  rw [openedLabel?_dashes ends, List.drop_left]
  by_cases more : dash ∈ (opening ++ label).reverse.takeWhile isTrailer
  · have improper : ¬ IsLabel label := fun proper => proper (dash_mem_trailer_iff.mp more)
    rw [if_pos more, if_neg improper]
  · have proper : IsLabel label := fun member => more (dash_mem_trailer_iff.mpr member)
    rw [if_neg more, if_pos proper]

theorem opens_opening (label rest : Bytes) : opens (opening ++ label ++ rest) = true := by
  rw [opens, List.isPrefixOf_iff_prefix, List.append_assoc]
  exact List.prefix_append ..

theorem closes_closing (label rest : Bytes) :
    opens (closingOf label ++ rest) = false ∧ closes label (closingOf label ++ rest) = true := by
  constructor
  · rfl
  · rw [closes_eq, List.isPrefixOf_iff_prefix]
    exact List.prefix_append ..

/-! ## What a reader does at a line -/

variable {pieces later : List Bytes} {collected : List Bytes}

/-- Outside of sections, lines that open none are passed over. -/
theorem readLines_skip (unopened : ∀ piece ∈ pieces, opens piece = false) :
    readLines none (pieces ++ later) = readLines none later := by
  induction pieces with
  | nil => rfl
  | cons piece pieces ih =>
      obtain ⟨first, others⟩ := List.forall_mem_cons.mp unopened
      rw [List.cons_append, readLines, if_neg (by simp [first])]
      exact ih others

/-- Inside of a section, lines are collected. -/
theorem readLines_collect
    (inner : ∀ piece ∈ pieces, opens piece = false ∧ closes label piece = false) :
    readLines (some ⟨label, collected⟩) (pieces ++ later) =
      readLines (some ⟨label, pieces.reverse ++ collected⟩) later := by
  induction pieces generalizing collected with
  | nil => rfl
  | cons piece pieces ih =>
      obtain ⟨first, others⟩ := List.forall_mem_cons.mp inner
      rw [List.cons_append, readLines, if_neg (by simp [first]), if_neg (by simp [first]),
        ih others]
      simp

end HostRoster.Pem

import HostRoster.Proofs.FirstItem

/-!
# Which items a PEM text has

The items of a text are said here without the reader: the pieces of a text that are neither outside
of sections nor damage fall into stretches, one from the opening line to the closing line of a
section (`Pem.Stretch`), and a stretch holds what its last label and its collected text say
(`Pem.Holds`).

`Pem.Yields` puts this together, and is what the reader computes: a text is undamaged exactly if all
of its pieces yield items (`Pem.read_eq_iff`), and what is read of a damaged text are the items of a
part of it that is not (`Pem.yields_read`).
-/

set_option autoImplicit false

namespace HostRoster

namespace Pem

/-! ## Sections that may be opened again -/

/-- The pieces of a section behind its opening line, up to the closing line, with the label that
they close and the text that they collect. A section that is opened again keeps what it has
collected, and is to be closed with the new label. -/
inductive Stretch : Bytes → List Bytes → Bytes → Bytes → Prop where
  | close {label piece : Bytes} (unopened : opens piece = false)
      (closed : closes label piece = true) : Stretch label [piece] label []
  | collect {label piece last content : Bytes} {pieces : List Bytes}
      (unopened : opens piece = false) (inside : closes label piece = false)
      (rest : Stretch label pieces last content) :
      Stretch label (piece :: pieces) last (piece ++ content)
  | reopen {label piece other last content : Bytes} {pieces : List Bytes}
      (opened : opens piece = true) (labelled : openedLabel? piece = some other)
      (rest : Stretch other pieces last content) : Stretch label (piece :: pieces) last content

/-- What a section with a label holds: an item, or nothing. -/
inductive Holds (label content : Bytes) : List Item → Prop where
  | nothing (unmarked : Kind.ofLabel? label = none) : Holds label content []
  | body {kind : Kind} {bytes : Bytes} (marked : Kind.ofLabel? label = some kind)
      (decoded : Base64.decode content = some bytes) :
      Holds label content (Item.listed ⟨kind, bytes⟩)

/-- The items of undamaged pieces. -/
inductive Yields : List Bytes → List Item → Prop where
  | ended : Yields [] []
  | outside {piece : Bytes} {pieces : List Bytes} {items : List Item}
      (unopened : opens piece = false) (rest : Yields pieces items) : Yields (piece :: pieces) items
  | inside {piece label last content : Bytes} {inner pieces : List Bytes} {held items : List Item}
      (opened : opens piece = true) (labelled : openedLabel? piece = some label)
      (stretch : Stretch label inner last content) (holds : Holds last content held)
      (rest : Yields pieces items) : Yields (piece :: (inner ++ pieces)) (held ++ items)

/-! ## Reading stretches -/

variable {label last content text : Bytes} {pieces inner before after : List Bytes}
variable {held items : List Item}

/-- The contents of pieces that follow a closed section. -/
def afterSection (label content : Bytes) (rest : List Bytes) : Contents :=
  match Kind.ofLabel? label with
  | none => readLines none rest
  | some kind =>
    match Base64.decode content with
    | none => .damaged
    | some body => (readLines none rest).push ⟨kind, body⟩

theorem afterSection_of_holds (holds : Holds last content held) (rest : List Bytes) :
    afterSection last content rest = (readLines none rest).prepend held := by
  cases holds with
  | nothing unmarked => rw [afterSection, unmarked]; rfl
  | body marked decoded => simp only [afterSection, marked, decoded, Contents.push_eq]

/-- A section that holds nothing it should hold is damage. -/
theorem holds_or_damaged (label content : Bytes) (rest : List Bytes) :
    (∃ held, Holds label content held) ∨ afterSection label content rest = .damaged := by
  cases marked : Kind.ofLabel? label with
  | none => exact .inl ⟨[], .nothing marked⟩
  | some kind =>
      cases decoded : Base64.decode content with
      | none => exact .inr (by simp only [afterSection, marked, decoded])
      | some body => exact .inl ⟨_, .body marked decoded⟩

/-- A stretch is read to its end, with what was collected before it in front. -/
theorem readLines_stretch (stretch : Stretch label inner last content) (collected : List Bytes)
    (rest : List Bytes) :
    readLines (some ⟨label, collected⟩) (inner ++ rest) =
      afterSection last (collected.reverse.flatten ++ content) rest := by
  induction stretch generalizing collected with
  | close unopened closed =>
      rw [List.cons_append, readLines_cons, if_neg (by simp [unopened])]
      simp only [closed, if_true, List.append_nil]
      rfl
  | collect unopened inside _ ih =>
      rw [List.cons_append, readLines_cons, if_neg (by simp [unopened])]
      simp only [inside, Bool.false_eq_true, if_false]
      rw [ih, List.reverse_cons, List.flatten_append, List.flatten_singleton, List.append_assoc]
  | reopen opened labelled _ ih =>
      rw [List.cons_append, readLines_cons, if_pos opened, labelled]
      exact ih collected

/-- An open section either comes to the end of a stretch or is damage. -/
theorem stretch_or_damaged (label : Bytes) (collected pieces : List Bytes) :
    (∃ inner rest last content, pieces = inner ++ rest ∧ Stretch label inner last content) ∨
      readLines (some ⟨label, collected⟩) pieces = .damaged := by
  induction pieces generalizing label collected with
  | nil => exact .inr rfl
  | cons piece pieces ih =>
      rw [readLines_cons]
      cases opened : opens piece with
      | true =>
          cases labelled : openedLabel? piece with
          | none => exact .inr rfl
          | some other =>
              rcases ih other collected with ⟨inner, rest, last, content, rfl, stretch⟩ | damaged
              · exact .inl ⟨_ :: inner, rest, last, content, rfl, .reopen opened labelled stretch⟩
              · exact .inr damaged
      | false =>
          cases closed : closes label piece with
          | true => exact .inl ⟨[piece], pieces, label, [], rfl, .close opened closed⟩
          | false =>
              rcases ih label (piece :: collected) with
                ⟨inner, rest, last, content, rfl, stretch⟩ | damaged
              · exact .inl ⟨_ :: inner, rest, last, _, rfl, .collect opened closed stretch⟩
              · refine .inr ?_
                simp only [closed, Bool.false_eq_true, if_false]
                exact damaged

/-! ## Reading texts -/

/-- **Pieces that yield items are read as these**, and the reader goes on behind them as at the
start. -/
theorem Yields.readLines_append (yields : Yields before items) (after : List Bytes) :
    readLines none (before ++ after) = (readLines none after).prepend items := by
  induction yields with
  | ended => rfl
  | outside unopened _ ih =>
      rw [List.cons_append, readLines_cons, if_neg (by simp [unopened])]
      exact ih
  | @inside piece label last content inner pieces held items opened labelled stretch holds _ ih =>
      rw [List.cons_append, readLines_cons, if_pos opened, labelled, List.append_assoc]
      have read := readLines_stretch stretch [] (pieces ++ after)
      rw [List.reverse_nil, List.flatten_nil, List.nil_append, afterSection_of_holds holds, ih,
        Contents.prepend_prepend] at read
      exact read

/-- Pieces are read as what some of them yield, which are all unless there is damage. -/
theorem yields_readLines (pieces : List Bytes) :
    ∃ before after, pieces = before ++ after ∧ Yields before (readLines none pieces).items ∧
      ((readLines none pieces).undamaged = true → after = []) := by
  have damage : ∀ {pieces : List Bytes}, readLines none pieces = .damaged →
      ∃ before after, pieces = before ++ after ∧ Yields before (readLines none pieces).items ∧
        ((readLines none pieces).undamaged = true → after = []) := by
    intro pieces damaged
    rw [damaged]
    exact ⟨[], pieces, rfl, .ended, by simp [Contents.damaged]⟩
  -- A stretch takes several pieces at once, so the induction is on the number of pieces.
  induction length : pieces.length using Nat.strongRecOn generalizing pieces with
  | _ number ih =>
      subst length
      cases pieces with
      | nil => exact ⟨[], [], rfl, .ended, fun _ => rfl⟩
      | cons piece pieces =>
          cases opened : opens piece with
          | false =>
              have read : readLines none (piece :: pieces) = readLines none pieces := by
                rw [readLines_cons, if_neg (by simp [opened])]
              obtain ⟨before, after, split, yields, whole⟩ :=
                ih pieces.length (Nat.lt_succ_self _) pieces rfl
              rw [read]
              exact ⟨piece :: before, after, by rw [split]; rfl, .outside opened yields, whole⟩
          | true =>
              cases labelled : openedLabel? piece with
              | none =>
                  refine damage ?_
                  rw [readLines_cons, if_pos opened, labelled]
              | some label =>
                  have read : readLines none (piece :: pieces) =
                      readLines (some ⟨label, []⟩) pieces := by
                    rw [readLines_cons, if_pos opened, labelled]
                    rfl
                  rcases stretch_or_damaged label [] pieces with
                    ⟨inner, rest, last, content, rfl, stretch⟩ | damaged
                  · rw [readLines_stretch stretch, List.reverse_nil, List.flatten_nil,
                      List.nil_append] at read
                    rcases holds_or_damaged last content rest with ⟨held, holds⟩ | damaged
                    · have shorter : rest.length < (piece :: (inner ++ rest)).length := by
                        rw [List.length_cons, List.length_append]
                        omega
                      obtain ⟨before, after, rfl, yields, whole⟩ := ih _ shorter rest rfl
                      rw [read, afterSection_of_holds holds]
                      exact ⟨piece :: (inner ++ before), after, by simp,
                        .inside opened labelled stretch holds yields, whole⟩
                    · exact damage (read.trans damaged)
                  · exact damage (read.trans damaged)

/-- **A text is undamaged exactly if all of it yields items, and these are read.** -/
theorem read_eq_iff : read text = ⟨items, true⟩ ↔ Yields (lines text) items := by
  constructor
  · intro whole
    obtain ⟨before, after, split, yields, none⟩ := yields_readLines (lines text)
    rw [← read, whole] at yields none
    rw [split, none rfl, List.append_nil]
    exact yields
  · intro yields
    have whole := yields.readLines_append []
    rw [List.append_nil] at whole
    rw [read, whole]
    simp [Contents.prepend, readLines]

/-- What is read of a text are the items of its undamaged part. -/
theorem yields_read (text : Bytes) :
    ∃ before after, lines text = before ++ after ∧ Yields before (read text).items := by
  obtain ⟨before, after, split, yields, -⟩ := yields_readLines (lines text)
  exact ⟨before, after, split, yields⟩

end Pem

end HostRoster

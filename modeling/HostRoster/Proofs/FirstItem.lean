import HostRoster.Proofs.Precedence
import HostRoster.Proofs.Sections

/-!
# The first item of an authority

A trust root is the first item of a text. The items of a text are the first items of every text that
goes on with it (`Pem.items_append`), wherever it is cut, so nothing behind the first item has a say
(`first_item_decides`).

**Sections that are no items.** A text whose first section is an item of another kind is refused,
whatever follows. A section whose label marks no kind is no item at all: the reader passes over it,
and the next section can name the authority (`first_section_decides`,
`unmarked_section_is_passed_over`).
-/

set_option autoImplicit false

namespace HostRoster

namespace Pem

/-! ## Texts that go on -/

/-- What becomes of the pieces of a text when the text goes on: the last one may go on as well, and
others follow. -/
inductive GoesOn : List Bytes → List Bytes → Prop where
  | more (later : List Bytes) : GoesOn [] later
  | cut (piece rest : Bytes) (later : List Bytes) : GoesOn [piece] ((piece ++ rest) :: later)
  | keep (piece : Bytes) {pieces later : List Bytes} (goesOn : GoesOn pieces later) :
      GoesOn (piece :: pieces) (piece :: later)

theorem GoesOn.pushByte (byte : UInt8) {pieces later : List Bytes} (goesOn : GoesOn pieces later) :
    GoesOn (pushByte byte pieces) (pushByte byte later) := by
  unfold Pem.pushByte
  split
  · exact .keep [byte] goesOn
  · cases goesOn with
    | more later =>
        cases later with
        | nil => exact .cut [byte] [] []
        | cons piece later => exact .cut [byte] piece later
    | cut piece rest later => exact .cut (byte :: piece) rest later
    | keep piece goesOn => exact .keep (byte :: piece) goesOn

theorem goesOn_lines (text rest : Bytes) : GoesOn (lines text) (lines (text ++ rest)) := by
  induction text with
  | nil => exact .more _
  | cons byte text ih => exact ih.pushByte byte

/-- A line that closes a section closes it as well when it goes on, and opens none. -/
theorem closes_append {label piece : Bytes} (closed : closes label piece = true) (rest : Bytes) :
    opens (piece ++ rest) = false ∧ closes label (piece ++ rest) = true := by
  rw [closes_eq, List.isPrefixOf_iff_prefix] at closed
  obtain ⟨tail, rfl⟩ := closed
  rw [List.append_assoc]
  exact closes_closing label (tail ++ rest)

theorem readLines_cons (current : Option OpenSection) (piece : Bytes) (rest : List Bytes) :
    readLines current (piece :: rest) =
      if opens piece then
        match openedLabel? piece with
        | none => .damaged
        | some label => readLines (some ⟨label, (current.map (·.collected)).getD []⟩) rest
      else match current with
        | none => readLines none rest
        | some current =>
          if closes current.label piece then
            match Kind.ofLabel? current.label with
            | none => readLines none rest
            | some kind =>
              match current.body? with
              | none => .damaged
              | some body => (readLines none rest).push ⟨kind, body⟩
          else readLines (some { current with collected := piece :: current.collected }) rest := by
  cases current <;> rfl

theorem items_push_extend {contents other : Contents} (item : Item)
    (extended : contents.items <+: other.items) :
    (contents.push item).items <+: (other.push item).items := by
  rw [Contents.push_eq, Contents.push_eq, Contents.items_prepend, Contents.items_prepend]
  exact List.prefix_append_right_inj _ |>.mpr extended

/-- Reading on never changes the items that have been read. -/
theorem GoesOn.items_extend {pieces later : List Bytes} (goesOn : GoesOn pieces later)
    (current : Option OpenSection) :
    (readLines current pieces).items <+: (readLines current later).items := by
  induction goesOn generalizing current with
  | more later => cases current <;> exact List.nil_prefix
  | cut piece rest later =>
      -- A piece alone gives an item only if it closes a section, which it does when it goes on too.
      rw [readLines_cons]
      split
      · split <;> exact List.nil_prefix
      · split
        next => exact List.nil_prefix
        next current =>
          split
          next closed =>
            obtain ⟨unopened, closed⟩ := closes_append closed rest
            rw [readLines_cons, if_neg (by simp [unopened])]
            simp only [closed, if_true]
            split
            · exact List.nil_prefix
            · split
              · exact List.nil_prefix
              · exact items_push_extend _ List.nil_prefix
          next => exact List.nil_prefix
  | keep piece goesOn ih =>
      rw [readLines_cons, readLines_cons]
      split
      · split
        · exact List.prefix_rfl
        · exact ih _
      · split
        · exact ih none
        · split
          · split
            · exact ih none
            · split
              · exact List.prefix_rfl
              · exact items_push_extend _ (ih none)
          · exact ih _

/-- **The items of a text are the first ones of every text that goes on with it.** -/
theorem items_append (text rest : Bytes) : (read text).items <+: (read (text ++ rest)).items :=
  (goesOn_lines text rest).items_extend none

end Pem

section FirstItem

variable {text other : Bytes} {cause : TrustError}

/-! ## Texts with the same first item -/

theorem firstCertificate_congr (material : Material)
    (same : (Pem.read text).items.head? = (Pem.read other).items.head?) :
    firstCertificate material text = firstCertificate material other := by
  unfold firstCertificate
  cases left : (Pem.read text).items with
  | nil =>
      rw [left, List.head?_nil, eq_comm, List.head?_eq_none_iff] at same
      rw [same]
  | cons item rest =>
      rw [left, List.head?_cons, eq_comm, List.head?_eq_some_iff] at same
      obtain ⟨more, right⟩ := same
      rw [right]

theorem readTrustRoot_congr
    (same : (Pem.read text).items.head? = (Pem.read other).items.head?) :
    readTrustRoot text = readTrustRoot other := by
  rw [readTrustRoot, firstCertificate_congr .authority same, readTrustRoot]

/-- What is supplied as the root depends on the authority alone. -/
theorem suppliedRoots_of_authority {bundle : Bundle} (present : bundle.authority = some text) :
    suppliedRoots bundle = (readTrustRoot text).map fun anchor => .supplied [anchor] := by
  have required : requirePiece bundle .authority = .ok text := requirePiece_eq_ok_iff.mpr present
  rw [suppliedRoots, required]
  cases read : readTrustRoot text <;> simp [bind, Except.bind, pure, Except.pure, Except.map, read]

/-! ## Texts with an item -/

/-- A text whose authority can be read, or is no well-formed certificate, has an item. -/
theorem exists_item_of_readTrustRoot
    (outcome : (∃ anchor, readTrustRoot text = .ok anchor) ∨
      ∃ fault, readTrustRoot text = .error (.certificateParse .authority fault)) :
    ∃ item, (Pem.read text).items.head? = some item := by
  cases items : (Pem.read text).items with
  | cons item rest => exact ⟨item, rfl⟩
  | nil =>
      have refused : readTrustRoot text = .error (.invalidPem .authority) := by
        simp [readTrustRoot, firstCertificate, items]
      simp [refused] at outcome

/-- Lines before a text, and whatever stands behind it, leave its first item the first. -/
theorem head?_items_append {before : List Pem.Line} {item : Pem.Item}
    (unopened : ∀ line ∈ before, Pem.opens line.content = false)
    (first : (Pem.read text).items.head? = some item) (after : Bytes) :
    (Pem.read (Pem.textOf before ++ text ++ after)).items.head? = (Pem.read text).items.head? := by
  rw [List.append_assoc, Pem.read_skip unopened]
  obtain ⟨more, items⟩ := Pem.items_append text after
  rw [← items, List.head?_append, first, Option.some_or]

/-- **The first item decides.** A text whose authority can be read, or is no well-formed
certificate, keeps this outcome whatever is appended to it, and whatever lines that open no section
are put before it. A root store that is read has a single anchor. -/
theorem first_item_decides (text : Bytes) :
    ((∃ anchor, readTrustRoot text = .ok anchor) ∨
        (∃ fault, readTrustRoot text = .error (.certificateParse .authority fault)) →
      ∀ (before : List Pem.Line) (after : Bytes),
        (∀ line ∈ before, Pem.opens line.content = false) →
        readTrustRoot (Pem.textOf before ++ text ++ after) = readTrustRoot text ∧
          ∀ bundle : Bundle, bundle.authority = some text →
            suppliedRoots (bundle.put (Pem.textOf before ++ text ++ after) .authority) =
              suppliedRoots bundle) ∧
    ∀ bundle : Bundle, bundle.authority = some text →
      ∀ roots, suppliedRoots bundle = .ok roots →
        ∃ anchor, readTrustRoot text = .ok anchor ∧ roots = .supplied [anchor] := by
  refine ⟨fun outcome before after unopened => ?same, fun bundle present roots supplied => ?single⟩
  case same =>
    obtain ⟨item, first⟩ := exists_item_of_readTrustRoot outcome
    have alike := readTrustRoot_congr (head?_items_append unopened first after)
    refine ⟨alike, fun bundle present => ?_⟩
    rw [suppliedRoots_of_authority present, ← alike]
    exact suppliedRoots_of_authority rfl
  case single =>
    obtain ⟨found, anchor, present', anchors, rfl⟩ := suppliedRoots_eq_ok_iff.mp supplied
    obtain rfl : found = text := Option.some.inj (present'.symm.trans present)
    exact ⟨anchor, readTrustRoot_eq_ok_iff.mpr anchors, rfl⟩

/-- Between a comment and a section that is never closed, an authority stays what it is. -/
theorem first_item_decides_between :
    let comment : Pem.Line := ⟨Bytes.ofText "the authority", .lineFeed, by decide +kernel⟩
    let text := Pem.textOf [comment] ++ emptyAuthority ++ Bytes.ofText "-----BEGIN CERTIFICATE-----"
    readTrustRoot text = .ok ⟨[], [], none⟩ ∧
      suppliedRoots { authority := some text } = .ok (.supplied [⟨[], [], none⟩]) := by
  intro comment text
  have read := readTrustRoot_eq_ok_iff.mpr anchors_emptyAuthority
  have unopened : ∀ line ∈ [comment], Pem.opens line.content = false := by
    intro line member
    rw [List.mem_singleton.mp member]
    decide +kernel
  obtain ⟨same, supplied⟩ :=
    (first_item_decides emptyAuthority).1 (.inl ⟨_, read⟩) [comment]
      (Bytes.ofText "-----BEGIN CERTIFICATE-----") unopened
  have roots : suppliedRoots { authority := some emptyAuthority } =
      .ok (.supplied [⟨[], [], none⟩]) :=
    suppliedRoots_eq_ok_iff.mpr ⟨_, _, rfl, anchors_emptyAuthority, rfl⟩
  exact ⟨same.trans read, (supplied { authority := some emptyAuthority } rfl).trans roots⟩

/-! ## Texts that start with a section -/

/-- A text is refused as an authority, for a cause. -/
structure Refused (text : Bytes) (cause : TrustError) : Prop where
  certificate : firstCertificate .authority text = .error cause
  root : readTrustRoot text = .error cause
  supplied : ∀ bundle : Bundle, bundle.authority = some text → suppliedRoots bundle = .error cause

theorem refused_of_firstCertificate (failed : firstCertificate .authority text = .error cause) :
    Refused text cause where
  certificate := failed
  root := by rw [readTrustRoot, failed]
  supplied := by
    intro bundle present
    rw [suppliedRoots_of_authority present, readTrustRoot, failed]
    rfl

theorem refused_congr (same : (Pem.read text).items.head? = (Pem.read other).items.head?) :
    Refused text cause ↔ Refused other cause := by
  have alike := firstCertificate_congr .authority same
  constructor
  · intro refused
    exact refused_of_firstCertificate (alike.symm.trans refused.certificate)
  · intro refused
    exact refused_of_firstCertificate (alike.trans refused.certificate)

/-- **What the first section of an authority decides.** Damage is refused whatever follows, and so is
an item of another kind. A section that is no item decides nothing: the authority is the one that is
read behind it. -/
theorem first_section_decides {before : List Pem.Line}
    (unopened : ∀ line ∈ before, Pem.opens line.content = false) (written : Pem.Section)
    {after : Bytes} (ends : Pem.EndsLine after) :
    let text := Pem.textOf before ++ (written.text ++ after)
    (¬ Pem.IsLabel written.label → Refused text (.invalidPem .authority)) ∧
    (∀ kind, Pem.Kind.ofLabel? written.label = some kind →
      (written.body? = none → Refused text (.invalidPem .authority)) ∧
      (written.body? ≠ none → kind.isItem = true → kind ≠ .certificate →
        Refused text (.certificateParse .authority .badEncoding))) ∧
    (Pem.IsLabel written.label →
      (∀ kind, Pem.Kind.ofLabel? written.label = some kind →
        kind.isItem = false ∧ written.body? ≠ none) →
      readTrustRoot text = readTrustRoot after ∧
        ∀ cause, Refused text cause ↔ Refused after cause) := by
  intro text
  have contents : Pem.read text = Pem.read (written.text ++ after) := Pem.read_skip unopened _
  have refused : written.isDamaged = true → Refused text (.invalidPem .authority) := by
    intro damaged
    rw [Pem.read_damaged damaged ends] at contents
    exact refused_of_firstCertificate (by rw [firstCertificate, contents, Pem.Contents.damaged])
  refine ⟨fun improper => refused ?improper, fun kind marked => ⟨fun bodiless => refused ?bodiless,
    fun held item other => ?other⟩, fun proper unlisted => ?passed⟩
  case improper => simp [Pem.Section.isDamaged, improper]
  case bodiless => simp [Pem.Section.isDamaged, marked, bodiless]
  case other =>
    obtain ⟨body, held⟩ := Option.ne_none_iff_exists'.mp held
    obtain ⟨undamaged, items⟩ := Pem.Section.of_body (Pem.isLabel_of_ofLabel? marked) held
    rw [Pem.read_section undamaged ends, items, marked] at contents
    refine refused_of_firstCertificate ?_
    rw [firstCertificate, contents]
    simp [Pem.Item.listed, item, other]
  case passed =>
    obtain ⟨undamaged, items⟩ := Pem.Section.of_unlisted proper unlisted
    rw [Pem.read_section undamaged ends, items] at contents
    have same : (Pem.read text).items.head? = (Pem.read after).items.head? := by
      rw [contents]
      rfl
    exact ⟨readTrustRoot_congr same, fun cause => refused_congr same⟩

/-- Three zero bytes, as a section with a label. -/
def zeroSection (label : Bytes) (unbroken : ∀ byte ∈ label, Pem.isLineEnd byte = false) :
    Pem.Section where
  label := label
  opened := .lineFeed
  inner := [⟨[65, 65, 65, 65], .lineFeed, by simp [Pem.isLineEnd]⟩]
  unbroken := unbroken
  isInner := by
    intro line member
    rw [List.mem_singleton.mp member]
    exact ⟨rfl, rfl⟩

def zeroKey : Pem.Section := zeroSection (Bytes.ofText "PUBLIC KEY") (by decide +kernel)

def zeroNote : Pem.Section := zeroSection (Bytes.ofText "NOTE") (by decide +kernel)

/-- A public key before an authority is refused, and a note before it is passed over. -/
theorem first_section_decides_public_key :
    Refused (zeroKey.text ++ 10 :: emptyAuthority) (.certificateParse .authority .badEncoding) ∧
      readTrustRoot (zeroNote.text ++ 10 :: emptyAuthority) =
        readTrustRoot (10 :: emptyAuthority) := by
  have ends : Pem.EndsLine (10 :: emptyAuthority) := Pem.LineEnd.lineFeed.endsLine emptyAuthority
  constructor
  · exact ((first_section_decides (List.forall_mem_nil _) zeroKey ends).2.1 .publicKey
      (by decide +kernel)).2 (by decide +kernel) (by decide) (by decide)
  · have unmarked : Pem.Kind.ofLabel? zeroNote.label = none := by decide +kernel
    exact ((first_section_decides (List.forall_mem_nil _) zeroNote ends).2.2
      (by decide +kernel) (by simp [unmarked])).1

/-- **Not every first section has to be a certificate.** A note in proper base64 is passed over, and
the authority behind it becomes the root. -/
theorem unmarked_section_is_passed_over :
    ¬ ∀ (before : List Pem.Line) (written : Pem.Section) (after : Bytes),
      (∀ line ∈ before, Pem.opens line.content = false) → Pem.EndsLine after →
      (∀ line ∈ written.inner, ∀ byte ∈ line.content, ¬ Base64.IsForeign byte) →
      written.body? ≠ none → written.label ≠ Bytes.ofText "CERTIFICATE" →
      ∃ cause, Refused (Pem.textOf before ++ (written.text ++ after)) cause := by
  intro always
  have digits : ∀ line ∈ zeroNote.inner, ∀ byte ∈ line.content, ¬ Base64.IsForeign byte := by
    intro line member byte among
    rw [List.mem_singleton.mp member] at among
    obtain rfl : byte = 65 := by simpa using among
    simp [Base64.IsForeign, Base64.value?]
  have ends : Pem.EndsLine (10 :: emptyAuthority) := Pem.LineEnd.lineFeed.endsLine emptyAuthority
  obtain ⟨cause, refused⟩ := always [] zeroNote (10 :: emptyAuthority) (List.forall_mem_nil _) ends
    digits (by decide +kernel) (by decide +kernel)
  have passed : Pem.read (Pem.textOf [] ++ (zeroNote.text ++ 10 :: emptyAuthority)) =
      Pem.read emptyAuthority := by
    decide +kernel
  have alike := readTrustRoot_congr (congrArg (·.items.head?) passed)
  have root := readTrustRoot_eq_ok_iff.mpr anchors_emptyAuthority
  rw [← alike, refused.root] at root
  cases root

end FirstItem

end HostRoster

import HostRoster.Proofs.Sections
import HostRoster.Trust.Identity

/-!
# What is read of written PEM texts

A PEM text is written in segments: lines that open no section, and blocks, which hold a byte string
in base64 on lines of any length between their boundaries. A text of segments is read as the items
of its blocks (`Segment.read_written`).

So the certificates of a client are those that were written, in their order and with repetitions,
and its private key is the first one that was written (`selection_undoes_writing`). A damaged block
costs all certificates, wherever it stands, but no private key that stands before it.
-/

set_option autoImplicit false

namespace HostRoster

namespace Pem

/-! ## Lines of base64 -/

theorem ne_dash_of_mem_encode {byte : UInt8} {bytes : Bytes} (member : byte ∈ Base64.encode bytes) :
    byte ≠ dash := by
  rintro rfl
  rcases Base64.mem_encode_cases member with isDigit | isPadding
  · cases isDigit
  · cases isPadding

/-- A line without dashes is inside of every section. -/
theorem isInner_of_not_mem {line : Line} (undashed : dash ∉ line.content) (label : Bytes) :
    line.IsInner label := by
  unfold Line.IsInner
  cases content : line.content with
  | nil => exact ⟨rfl, rfl⟩
  | cons byte rest =>
      have other : byte ≠ 45 := by
        rintro rfl
        exact undashed (by simp [content, dash])
      constructor
      · simp [opens, opening, List.isPrefixOf, other.symm]
      · simp [closes, closing, List.isPrefixOf, other.symm]

/-- Only what stands on the lines counts in their text: their ends are blanks. -/
theorem filter_textOf (lines : List Line) :
    (textOf lines).filter (! Base64.isBlank ·) =
      (lines.flatMap Line.content).filter (! Base64.isBlank ·) := by
  induction lines with
  | nil => rfl
  | cons line lines ih =>
      have blank : (line.ending.first :: line.ending.rest).filter (! Base64.isBlank ·) = [] := by
        cases line.ending <;> rfl
      rw [textOf, List.flatMap_cons, List.flatMap_cons, List.filter_append, List.filter_append,
        Line.text, List.filter_append, blank, List.append_nil, ← ih, textOf]

/-! ## Blocks -/

/-- A byte string as it is written under a label, in base64 on lines of any length. -/
structure Block where
  label : Bytes
  body : Bytes
  lines : List Line
  opened : LineEnd
  closed : LineEnd
  plain : ∀ byte ∈ label, byte ≠ dash ∧ isLineEnd byte = false
  encoded : lines.flatMap Line.content = Base64.encode body

namespace Block

variable (block : Block)

/-- The boundaries of a block with what stands between them. -/
def toSection : Section where
  label := block.label
  opened := block.opened
  inner := block.lines
  unbroken := fun byte member => (block.plain byte member).2
  isInner := by
    intro line among
    refine isInner_of_not_mem (fun member => ?_) block.label
    have written : dash ∈ Base64.encode block.body := by
      rw [← block.encoded]
      exact List.mem_flatMap.mpr ⟨line, among, member⟩
    exact ne_dash_of_mem_encode written rfl

def text : Bytes := block.toSection.text ++ block.closed.first :: block.closed.rest

theorem body?_toSection : block.toSection.body? = some block.body := by
  refine Base64.decode_of_digits ?_
  rw [filter_textOf, toSection, block.encoded, Base64.filter_encode]

theorem isLabel_label : IsLabel block.label :=
  isLabel_of_not_mem fun member => (block.plain dash member).1 rfl

/-- A block is no damage, and has the item of its label. -/
theorem read_text_append (rest : Bytes) :
    read (block.text ++ rest) = (read rest).prepend block.toSection.items := by
  have undamaged := (Section.of_body block.isLabel_label block.body?_toSection).1
  rw [text, List.append_assoc, List.cons_append,
    read_section undamaged (block.closed.endsLine rest), read_ending]

/-- The certificate that a block was written for. -/
def certificate? : Option Bytes :=
  if block.label = Bytes.ofText "CERTIFICATE" then some block.body else none

/-- The private key that a block was written for. -/
def key? : Option PrivateKey :=
  if block.label = Bytes.ofText "RSA PRIVATE KEY" then some ⟨.rsa, block.body⟩
  else if block.label = Bytes.ofText "PRIVATE KEY" then some ⟨.container, block.body⟩
  else if block.label = Bytes.ofText "EC PRIVATE KEY" then some ⟨.curve, block.body⟩
  else none

theorem label_eq_iff (kind : Kind) :
    block.label = Bytes.ofText kind.label ↔ Kind.ofLabel? block.label = some kind :=
  eq_comm.trans Kind.ofLabel?_eq_some_iff.symm

theorem items_toSection :
    block.toSection.items = match Kind.ofLabel? block.label with
      | some kind => Item.listed ⟨kind, block.body⟩
      | none => [] :=
  (Section.of_body block.isLabel_label block.body?_toSection).2

theorem certificates_items :
    (block.toSection.items.filter (·.kind = .certificate)).map (·.body) =
      block.certificate?.toList := by
  have labelled := block.label_eq_iff .certificate
  rw [items_toSection, certificate?]
  simp only [Kind.label] at labelled
  simp only [labelled]
  cases Kind.ofLabel? block.label with
  | none => rfl
  | some kind => cases kind <;> rfl

theorem findSome?_items :
    block.toSection.items.findSome? PrivateKey.ofItem? = block.key? := by
  have rsa := block.label_eq_iff .rsaKey
  have container := block.label_eq_iff .privateKey
  have curve := block.label_eq_iff .ecKey
  simp only [Kind.label] at rsa container curve
  rw [items_toSection, key?]
  simp only [rsa, container, curve]
  cases Kind.ofLabel? block.label with
  | none => rfl
  | some kind => cases kind <;> rfl

end Block

/-! ## Segments -/

/-- A part of a text: lines that open no section, or a block. -/
inductive Segment where
  | prose (lines : List Line) (unopened : ∀ line ∈ lines, opens line.content = false)
  | block (block : Block)

namespace Segment

def text : Segment → Bytes
  | prose lines _ => textOf lines
  | block written => written.text

def items : Segment → List Item
  | prose _ _ => []
  | block written => written.toSection.items

def certificate? : Segment → Option Bytes
  | prose _ _ => none
  | block written => written.certificate?

def key? : Segment → Option PrivateKey
  | prose _ _ => none
  | block written => written.key?

def written (segments : List Segment) : Bytes := segments.flatMap text

theorem read_text_append (segment : Segment) (rest : Bytes) :
    read (segment.text ++ rest) = (read rest).prepend segment.items := by
  cases segment with
  | prose lines unopened => exact read_skip unopened rest
  | block written => exact written.read_text_append rest

/-- **A text of segments is read as the items of its blocks.** -/
theorem read_written (segments : List Segment) (rest : Bytes) :
    read (written segments ++ rest) = (read rest).prepend (segments.flatMap items) := by
  induction segments with
  | nil => rfl
  | cons segment segments ih =>
      rw [written, List.flatMap_cons, List.append_assoc, read_text_append, ← written, ih,
        Contents.prepend_prepend, List.flatMap_cons]

theorem certificates_items (segments : List Segment) :
    ((segments.flatMap items).filter (·.kind = .certificate)).map (·.body) =
      segments.filterMap certificate? := by
  induction segments with
  | nil => rfl
  | cons segment segments ih =>
      rw [List.flatMap_cons, List.filter_append, List.map_append, ih]
      cases segment with
      | prose lines unopened => rfl
      | block block =>
          rw [items, Block.certificates_items, List.filterMap_cons, certificate?]
          cases block.certificate? <;> rfl

theorem findSome?_items (segments : List Segment) :
    (segments.flatMap items).findSome? PrivateKey.ofItem? = segments.findSome? key? := by
  induction segments with
  | nil => rfl
  | cons segment segments ih =>
      rw [List.flatMap_cons, List.findSome?_append, ih, List.findSome?_cons]
      cases segment with
      | prose lines unopened => rfl
      | block block =>
          rw [items, Block.findSome?_items, key?]
          cases block.key? <;> rfl

end Segment

/-! ## Damaged blocks -/

/-- A block with the label of a kind in which a byte stands that has no place in base64. -/
structure DamagedBlock where
  toSection : Section
  closed : LineEnd
  marked : (Kind.ofLabel? toSection.label).isSome = true
  foreign : ∃ line ∈ toSection.inner, ∃ byte ∈ line.content, Base64.IsForeign byte

def DamagedBlock.text (block : DamagedBlock) : Bytes :=
  block.toSection.text ++ block.closed.first :: block.closed.rest

/-- Nothing is read of a damaged block, and nothing behind it. -/
theorem DamagedBlock.read_text_append (block : DamagedBlock) (rest : Bytes) :
    read (block.text ++ rest) = .damaged := by
  obtain ⟨line, among, byte, member, foreign⟩ := block.foreign
  have damaged := Section.isDamaged_of_foreign block.marked among member foreign
  rw [text, List.append_assoc, List.cons_append,
    read_damaged damaged (block.closed.endsLine rest)]

end Pem

/-! ## Client identities -/

theorem firstPrivateKey_eq (text : Bytes) :
    firstPrivateKey text = ((Pem.read text).items.findSome? PrivateKey.ofItem?).elim
      (.error (.invalidPem .clientKey)) .ok := by
  unfold firstPrivateKey
  cases (Pem.read text).items.findSome? PrivateKey.ofItem? <;> rfl

/-- **What is selected of a text is what was written into it.** The certificate chain is all
certificates that were written, and the private key the first one. A damaged block leaves no chain,
and no private key but one that stands before it, whatever follows. -/
theorem selection_undoes_writing :
    (∀ segments : List Pem.Segment,
      certificateChain (Pem.Segment.written segments) =
        (if segments.filterMap Pem.Segment.certificate? = [] then
          .error (.invalidPem .clientCertificate)
        else .ok (segments.filterMap Pem.Segment.certificate?)) ∧
      firstPrivateKey (Pem.Segment.written segments) =
        (segments.findSome? Pem.Segment.key?).elim (.error (.invalidPem .clientKey)) .ok) ∧
    ∀ (before : List Pem.Segment) (damaged : Pem.DamagedBlock) (rest : Bytes),
      certificateChain (Pem.Segment.written before ++ (damaged.text ++ rest)) =
        .error (.invalidPem .clientCertificate) ∧
      firstPrivateKey (Pem.Segment.written before ++ (damaged.text ++ rest)) =
        (before.findSome? Pem.Segment.key?).elim (.error (.invalidPem .clientKey)) .ok := by
  refine ⟨fun segments => ?whole, fun before damaged rest => ?damaged⟩
  case whole =>
    have contents := Pem.Segment.read_written segments []
    rw [List.append_nil] at contents
    have items : (Pem.read (Pem.Segment.written segments)).items =
        segments.flatMap Pem.Segment.items := by
      rw [contents]
      exact List.append_nil _
    constructor
    · have undamaged : (Pem.read (Pem.Segment.written segments)).undamaged = true := by
        rw [contents]
        rfl
      simp only [certificateChain, items, undamaged, Pem.Segment.certificates_items, true_and,
        ne_eq, ite_not]
    · rw [firstPrivateKey_eq, items, Pem.Segment.findSome?_items]
  case damaged =>
    have contents := Pem.Segment.read_written before (damaged.text ++ rest)
    rw [damaged.read_text_append] at contents
    constructor
    · simp [certificateChain, contents, Pem.Contents.damaged]
    · rw [firstPrivateKey_eq, contents, Pem.Contents.items_prepend, Pem.Contents.damaged,
        List.append_nil, Pem.Segment.findSome?_items]

namespace Pem

def commentLine : Line := ⟨Bytes.ofText "a comment", .lineFeed, by decide +kernel⟩

/-- A certificate of one byte, on two lines with different ends. -/
def certificateBlock : Block where
  label := Bytes.ofText "CERTIFICATE"
  body := [0]
  lines := [⟨Bytes.ofText "AA", .both, by decide +kernel⟩,
    ⟨Bytes.ofText "==", .lineFeed, by decide +kernel⟩]
  opened := .lineFeed
  closed := .both
  plain := by decide +kernel
  encoded := by decide +kernel

/-- A private key of three bytes, with a label for keys of any algorithm. -/
def keyBlock : Block where
  label := Bytes.ofText "PRIVATE KEY"
  body := [0, 0, 0]
  lines := [⟨Bytes.ofText "AAAA", .lineFeed, by decide +kernel⟩]
  opened := .both
  closed := .lineFeed
  plain := by decide +kernel
  encoded := by decide +kernel

/-- A key block with an exclamation mark in it. -/
def damagedKeyBlock : DamagedBlock where
  toSection :=
    { label := Bytes.ofText "EC PRIVATE KEY"
      opened := .lineFeed
      inner := [⟨Bytes.ofText "A!AA", .lineFeed, by decide +kernel⟩]
      unbroken := by decide +kernel
      isInner := by
        intro line among
        obtain rfl := List.mem_singleton.mp among
        exact ⟨by decide +kernel, by decide +kernel⟩ }
  closed := .lineFeed
  marked := by decide +kernel
  foreign := ⟨_, List.mem_singleton_self _, 33, by decide +kernel, rfl, by decide, rfl⟩

def writtenIdentity : List Segment :=
  [.prose [commentLine] (by decide +kernel), .block certificateBlock, .block keyBlock,
    .block certificateBlock]

end Pem

/-- A certificate that is written twice is selected twice, with the key between them. With a damaged
key block behind them only the key is. -/
theorem selection_undoes_writing_of_identity :
    certificateChain (Pem.Segment.written Pem.writtenIdentity) = .ok [[0], [0]] ∧
      firstPrivateKey (Pem.Segment.written Pem.writtenIdentity) =
        .ok ⟨.container, [0, 0, 0]⟩ ∧
      certificateChain
          (Pem.Segment.written Pem.writtenIdentity ++ (Pem.damagedKeyBlock.text ++ [])) =
        .error (.invalidPem .clientCertificate) ∧
      firstPrivateKey
          (Pem.Segment.written Pem.writtenIdentity ++ (Pem.damagedKeyBlock.text ++ [])) =
        .ok ⟨.container, [0, 0, 0]⟩ := by
  obtain ⟨chain, key⟩ := selection_undoes_writing.1 Pem.writtenIdentity
  obtain ⟨none, keyBefore⟩ := selection_undoes_writing.2 Pem.writtenIdentity Pem.damagedKeyBlock []
  have certificates : Pem.writtenIdentity.filterMap Pem.Segment.certificate? = [[0], [0]] := by
    decide +kernel
  have first : Pem.writtenIdentity.findSome? Pem.Segment.key? = some ⟨.container, [0, 0, 0]⟩ := by
    decide +kernel
  rw [certificates, if_neg (List.cons_ne_nil _ _)] at chain
  rw [first] at key keyBefore
  exact ⟨chain, key, none, keyBefore⟩

example :
    (certificateChain (Bytes.ofText ("a comment\n-----BEGIN CERTIFICATE-----\r\nAA\r\n==\r\n" ++
      "-----END CERTIFICATE-----\r\n-----BEGIN CERTIFICATE-----\nAAAA\n" ++
      "-----END CERTIFICATE-----\n-----BEGIN NOTE-----\n-----END NOTE-----\n"))).toOption =
      some [[0], [0, 0, 0]] := by
  decide +kernel

end HostRoster

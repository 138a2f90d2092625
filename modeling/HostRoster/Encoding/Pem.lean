import HostRoster.Encoding.Base64

/-!
# PEM texts

A PEM text carries labelled byte strings between boundary lines. `read` gives the items of a text
in their order, up to the first damage.

**Lines.** A line ends behind a line feed or a carriage return.

**Boundaries.** A line that starts with `-----BEGIN ` opens a section. Its last signs, blanks and
line ends aside, have to be exactly five dashes; the label stands between. A line that starts with
`-----END `, the label of the open section and five dashes closes it. A section may be opened
while another one is open; what the first one has collected stays.

**Items.** The labels of `Kind` mark what sections hold, in base64. All but one kind of them are
items. Sections with other labels are skipped whatever they hold, and so is all text outside of
sections.

**Damage.** An opening line without its five dashes, a section with the label of a kind whose body
is not base64, and a section that is never closed.
-/

set_option autoImplicit false

namespace HostRoster.Pem

/-! ## Lines -/

/-- Whether a byte ends a line. -/
def isLineEnd (byte : UInt8) : Bool := byte == 10 || byte == 13

/-- Puts a byte before the lines that follow it. -/
def pushByte (byte : UInt8) (lines : List Bytes) : List Bytes :=
  if isLineEnd byte then [byte] :: lines
  else match lines with
    | [] => [[byte]]
    | line :: rest => (byte :: line) :: rest

/-- The lines of a text, each with the byte that ends it. -/
def lines (text : Bytes) : List Bytes := text.foldr pushByte []

/-! ## Boundaries -/

/-- What sections can hold. -/
inductive Kind where
  /-- A certificate. -/
  | certificate
  /-- A public key. -/
  | publicKey
  /-- A private key in the form for RSA keys alone. -/
  | rsaKey
  /-- A private key in the form for keys of any algorithm. -/
  | privateKey
  /-- A private key in the form for elliptic curve keys alone. -/
  | ecKey
  /-- A list of revoked certificates. -/
  | revocationList
  /-- A request for a certificate. -/
  | certificateRequest
  /-- A configuration for encrypted greetings. -/
  | greetingConfiguration
  deriving DecidableEq, Repr

/-- The label of a kind. -/
def Kind.label : Kind → String
  | .certificate => "CERTIFICATE"
  | .publicKey => "PUBLIC KEY"
  | .rsaKey => "RSA PRIVATE KEY"
  | .privateKey => "PRIVATE KEY"
  | .ecKey => "EC PRIVATE KEY"
  | .revocationList => "X509 CRL"
  | .certificateRequest => "CERTIFICATE REQUEST"
  | .greetingConfiguration => "ECHCONFIG"

/-- All kinds. -/
def Kind.all : List Kind :=
  [.certificate, .publicKey, .rsaKey, .privateKey, .ecKey, .revocationList, .certificateRequest,
    .greetingConfiguration]

/-- The kind that a label marks. -/
def Kind.ofLabel? (label : Bytes) : Option Kind :=
  Kind.all.find? fun kind => Bytes.ofText kind.label == label

/-- Whether sections of a kind are items. -/
def Kind.isItem (kind : Kind) : Bool := kind != .greetingConfiguration

/-- The sign `-` of boundary lines. -/
def dash : UInt8 := 45

/-- How an opening line starts. -/
def opening : Bytes := [45, 45, 45, 45, 45, 66, 69, 71, 73, 78, 32]

/-- How a closing line starts. -/
def closing : Bytes := [45, 45, 45, 45, 45, 69, 78, 68, 32]

/-- The five dashes that end a boundary. -/
def fiveDashes : Bytes := [45, 45, 45, 45, 45]

/-- Whether a line opens a section. -/
def opens (line : Bytes) : Bool := opening.isPrefixOf line

/-- Whether a byte may stand at the end of an opening line: a dash, a space or a line end. -/
def isTrailer (byte : UInt8) : Bool := byte == dash || byte == 32 || isLineEnd byte

/-- The label of an opening line, if the line ends with exactly five dashes. -/
def openedLabel? (line : Bytes) : Option Bytes :=
  let reversed := line.reverse
  let trailer := (reversed.takeWhile isTrailer).reverse
  let before := (reversed.dropWhile isTrailer).reverse
  if trailer.count dash = 5 then
    some ((before ++ trailer.takeWhile (· != dash)).drop opening.length)
  else none

/-- Whether a line closes the section with a label. -/
def closes (label line : Bytes) : Bool := (closing ++ label ++ fiveDashes).isPrefixOf line

/-! ## Reading -/

/-- A labelled byte string. -/
structure Item where
  /-- What it is. -/
  kind : Kind
  /-- The byte string. -/
  body : Bytes
  deriving DecidableEq, Repr

/-- An open section: its label, and the lines collected in it, the last one first. -/
structure OpenSection where
  /-- The label of the opening line. -/
  label : Bytes
  /-- The collected lines, the last one first. -/
  collected : List Bytes
  deriving DecidableEq, Repr

/-- What a text holds: its items up to the first damage, and whether there is none. -/
structure Contents where
  /-- The items before any damage. -/
  items : List Item
  /-- Whether the text was read to its end. -/
  undamaged : Bool
  deriving DecidableEq, Repr

/-- The contents of a damaged rest. -/
def Contents.damaged : Contents := ⟨[], false⟩

/-- The contents with what a section holds in front, if it is an item. -/
def Contents.push (item : Item) (contents : Contents) : Contents :=
  if item.kind.isItem then { contents with items := item :: contents.items } else contents

/-- The body of a closed section. -/
def OpenSection.body? (current : OpenSection) : Option Bytes :=
  Base64.decode current.collected.reverse.flatten

/-- The contents of lines that follow an open section, or no section. -/
def readLines : Option OpenSection → List Bytes → Contents
  | none, [] => ⟨[], true⟩
  | some _, [] => .damaged
  | current, line :: rest =>
    if opens line then
      match openedLabel? line with
      | none => .damaged
      | some label => readLines (some ⟨label, (current.map (·.collected)).getD []⟩) rest
    else match current with
      | none => readLines none rest
      | some current =>
        if closes current.label line then
          match Kind.ofLabel? current.label with
          | none => readLines none rest
          | some kind =>
            match current.body? with
            | none => .damaged
            | some body => (readLines none rest).push ⟨kind, body⟩
        else readLines (some { current with collected := line :: current.collected }) rest

/-- The contents of a text. -/
def read (text : Bytes) : Contents := readLines none (lines text)

/-! ## Writing -/

/-- A boundary block around lines of base64, with the given line end. -/
def block (label : Bytes) (body : List Bytes) (lineEnd : Bytes) : Bytes :=
  opening ++ label ++ fiveDashes ++ lineEnd ++
    body.flatMap (· ++ lineEnd) ++
    closing ++ label ++ fiveDashes ++ lineEnd

end HostRoster.Pem

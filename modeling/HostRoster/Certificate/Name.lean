import HostRoster.Certificate

/-!
# Names of servers

The names that a server is addressed by, the names that certificates give their subjects, and
when one stands for the other.

**Domain names.** Letters are compared without case. A star that makes up the whole first label
stands for one label; at least two labels have to follow it. A name of a certificate never ends in
a dot, a name that a server is addressed by may.

**Addresses.** An address stands for itself alone.

**Constraints.** A certificate of an authority may name subtrees that names below it have to lie
in, and subtrees that they must not lie in. Constraints on names that cannot be compared refuse
every such name.
-/

set_option autoImplicit false

namespace HostRoster

/-! ## Names in certificates -/

/-- A name that a certificate gives its subject. -/
inductive GeneralName where
  /-- A domain name. -/
  | domain (name : Bytes)
  /-- A name in a directory. -/
  | directory
  /-- An address, or an address with a mask in a constraint. -/
  | address (octets : Bytes)
  /-- A resource locator. -/
  | locator (text : Bytes)
  /-- Another kind of name, by its number. -/
  | other (number : UInt8)
  deriving DecidableEq, Repr

namespace GeneralName

/-- The name that an element stands for. -/
def ofElement? (tag : UInt8) (content : Bytes) : Option GeneralName :=
  if tag = 0x82 then some (.domain content)
  else if tag = 0xA4 then some .directory
  else if tag = 0x87 then some (.address content)
  else if tag = 0x86 then some (.locator content)
  else if tag = 0xA0 ∨ tag = 0x81 ∨ tag = 0xA3 ∨ tag = 0xA5 ∨ tag = 0x88 then
    some (.other (tag &&& 0x1F))
  else none

/-- Reads a name. -/
def read (bytes : Bytes) : Option (GeneralName × Bytes) :=
  match Der.readElement .certificate bytes with
  | some ((tag, content), rest) => (ofElement? tag content).map (·, rest)
  | none => none

/-- Reads names one after the other, up to the first that cannot be read. The bound is at least
their number. -/
def readAll : Nat → Bytes → List (Option GeneralName)
  | _, [] => []
  | 0, _ => []
  | bound + 1, bytes =>
    match read bytes with
    | some (name, rest) => some name :: readAll bound rest
    | none => [none]

/-- The names of a subject, ending in nothing where they cannot be read on. -/
def ofExtension (extension : Option Bytes) : List (Option GeneralName) :=
  match extension with
  | some content => readAll content.length content
  | none => []

end GeneralName

/-! ## Texts of addresses -/

/-- Groups of sixteen bits of octets. -/
def addressGroups : Bytes → List Nat
  | a :: b :: rest => (a.toNat * 256 + b.toNat) :: addressGroups rest
  | _ => []

/-- Texts with another one between them. -/
def joinWith (separator : String) (texts : List String) : String := separator.intercalate texts

/-- A number in lower-case hexadecimal without leading zeros. -/
def hexText (value : Nat) : String := String.ofList (Nat.toDigits 16 value)

/-- The text of octets with dots between them. -/
def dottedText (octets : Bytes) : String :=
  joinWith "." (octets.map fun octet => toString octet.toNat)

/-- The text of groups in a message about a certificate: every run of zero groups behind the first
group is left out, and two colons stand before the group that follows it. -/
def shownGroups : Bool → Bool → List Nat → String
  | _, _, [] => ""
  | true, skipping, group :: rest => hexText group ++ shownGroups false skipping rest
  | false, skipping, group :: rest =>
    if group = 0 then shownGroups false true rest
    else if skipping then "::" ++ hexText group ++ shownGroups false false rest
    else ":" ++ hexText group ++ shownGroups false false rest

/-- The text of an address in a message about a certificate. -/
def shownAddress (octets : Bytes) : String :=
  if octets.length = 4 then dottedText octets
  else if octets.length = 16 then shownGroups true false (addressGroups octets)
  else "[invalid: " ++ joinWith ", " (octets.map fun octet =>
    String.ofList (Bytes.hexByte octet)) ++ "]"

/-- The text of a domain name in a message, each byte that is not ASCII replaced. -/
def shownText (bytes : Bytes) : String :=
  match Bytes.text? bytes with
  | some text => text
  | none => String.ofList (bytes.map fun byte =>
      if byte < 0x80 then Char.ofNat byte.toNat else Char.ofNat 0xFFFD)

/-- How a message shows a name of a certificate. -/
def GeneralName.shown : GeneralName → String
  | .domain name => "DnsName(\"" ++ shownText name ++ "\")"
  | .directory => "DirectoryName"
  | .address octets => "IpAddress(" ++ shownAddress octets ++ ")"
  | .locator text => "UniformResourceIdentifier(\"" ++ shownText text ++ "\")"
  | .other number => "Unsupported(0x" ++ String.ofList (Bytes.hexByte number) ++ ")"

/-! ## Names that servers are addressed by -/

/-- The name that a server is addressed by. -/
inductive ServerName where
  /-- A domain name. -/
  | domain (name : String)
  /-- An address of four or sixteen octets. -/
  | address (octets : Bytes)
  deriving DecidableEq, Repr

/-- The length and the place of the first longest run of zeros, as `(length, place)`. -/
def longestZeroRun : List Nat → Nat → Nat × Nat → Nat × Nat → Nat × Nat
  | [], _, _, best => best
  | group :: rest, place, current, best =>
    let current := if group = 0 then
        (if current.1 = 0 then (1, place) else (current.1 + 1, current.2))
      else (0, 0)
    longestZeroRun rest (place + 1) current (if best.1 < current.1 then current else best)

/-- The text of an address of sixteen octets: the first longest run of two zero groups or more is
left out. -/
def groupsText (groups : List Nat) : String :=
  let (length, place) := longestZeroRun groups 0 (0, 0) (0, 0)
  let texts := groups.map hexText
  if length < 2 then joinWith ":" texts
  else joinWith ":" (texts.take place) ++ "::" ++ joinWith ":" (texts.drop (place + length))

/-- The text of an address. An address of sixteen octets that stands for one of four is written
with dots. -/
def addressText (octets : Bytes) : String :=
  if octets.length = 4 then dottedText octets
  else if octets.take 12 = List.replicate 10 0 ++ [0xFF, 0xFF] then
    "::ffff:" ++ dottedText (octets.drop 12)
  else groupsText (addressGroups octets)

/-- The text of a server name. -/
def ServerName.text : ServerName → String
  | .domain name => name
  | .address octets => addressText octets

/-- The octet of a decimal text without leading zeros. -/
def octet? (digits : List Char) : Option UInt8 :=
  if digits.isEmpty || 3 < digits.length || !digits.all Char.isDigit then none
  else if 1 < digits.length && digits.head? == some '0' then none
  else
    let value := digits.foldl (fun value c => value * 10 + (c.toNat - 48)) 0
    if value < 256 then some (UInt8.ofNat value) else none

/-- The octets of a text with three dots. -/
def dotted? (text : String) : Option Bytes :=
  let parts := text.splitOn "."
  if parts.length = 4 then parts.mapM fun part => octet? part.toList else none

/-- The value of a group of up to four hexadecimal digits. -/
def group? (text : String) : Option Nat :=
  let digits := text.toList
  let value? (c : Char) : Option Nat :=
    if '0' ≤ c ∧ c ≤ '9' then some (c.toNat - 48)
    else if 'a' ≤ c ∧ c ≤ 'f' then some (c.toNat - 87)
    else if 'A' ≤ c ∧ c ≤ 'F' then some (c.toNat - 55)
    else none
  if digits.isEmpty || 4 < digits.length then none
  else (digits.mapM value?).map fun values => values.foldl (fun total value => total * 16 + value) 0

/-- The octets of groups with colons between them; the last may be two groups written with dots. -/
def groupOctets? : List String → Option Bytes
  | [] => some []
  | [last] =>
    match group? last with
    | some value => some (Bytes.ofNumber 2 value)
    | none => dotted? last
  | part :: rest => do
    let value ← group? part
    let octets ← groupOctets? rest
    some (Bytes.ofNumber 2 value ++ octets)

/-- The octets of the groups of a text, none for the empty text. -/
def side? (text : String) : Option Bytes :=
  if text = "" then some [] else groupOctets? (text.splitOn ":")

/-- The sixteen octets of a text with colons; two colons stand for zero groups. -/
def colons? (text : String) : Option Bytes :=
  match text.splitOn "::" with
  | [whole] => do
    let octets ← side? whole
    if octets.length = 16 then some octets else none
  | [left, right] => do
    let left ← if left.toList.contains '.' then none else side? left
    let right ← side? right
    if left.length + right.length ≤ 14 then
      some (left ++ List.replicate (16 - left.length - right.length) 0 ++ right)
    else none
  | _ => none

/-! ## Domain names -/

namespace DomainName

/-- Whether a byte may stand in a label. -/
def isLabelByte (byte : UInt8) : Bool :=
  (48 ≤ byte && byte ≤ 57) || (65 ≤ byte && byte ≤ 90) || (97 ≤ byte && byte ≤ 122) ||
    byte == 45 || byte == 95

/-- Whether a byte is a decimal digit. -/
def isDigitByte (byte : UInt8) : Bool := 48 ≤ byte && byte ≤ 57

/-- The labels between the dots of a name. -/
def labels (name : Bytes) : List Bytes :=
  name.foldr (fun byte labels =>
    if byte = 46 then [] :: labels
    else match labels with
      | label :: rest => (byte :: label) :: rest
      | [] => [[byte]]) [[]]

/-- Whether a label is well formed: up to 63 letters, digits, hyphens and low lines, with no
hyphen at either end. -/
def isLabel (label : Bytes) : Bool :=
  label != [] && label.length ≤ 63 && label.all isLabelByte &&
    label.head? != some 45 && label.getLast? != some 45

/-- Whether labels make up a name; the last is not a number. -/
def areLabels (labels : List Bytes) : Bool :=
  match labels.getLast? with
  | none => false
  | some last => labels.all isLabel && !last.all isDigitByte

/-- What a name is used for. -/
inductive Role where
  /-- A server is addressed by it. -/
  | reference
  /-- A certificate gives it to its subject. -/
  | presented
  /-- A certificate of an authority names a subtree by it. -/
  | subtree
  deriving DecidableEq, Repr

/-- Whether a name is well formed for its use. -/
def isValid (role : Role) (name : Bytes) : Bool :=
  if 253 < name.length then false
  else
    let parts := labels name
    match role with
    | .reference =>
      if parts.getLast? = some [] then areLabels parts.dropLast else areLabels parts
    | .presented =>
      if parts.head? = some [42] then 3 ≤ parts.length && areLabels parts.tail
      else areLabels parts
    | .subtree =>
      if name = [] then true
      else if parts.head? = some [] then areLabels parts.tail
      else areLabels parts

/-- A letter without case. -/
def lower (byte : UInt8) : UInt8 := if 65 ≤ byte ∧ byte ≤ 90 then byte + 32 else byte

/-- Whether two names are equal without case. -/
def sameText (left right : Bytes) : Bool := left.map lower == right.map lower

/-- Why names cannot be compared. -/
inductive Fault where
  /-- The name of the certificate is malformed. -/
  | malformedName
  /-- The name of the subtree is malformed. -/
  | malformedSubtree
  deriving DecidableEq, Repr

/-- Whether a name of a certificate stands for the name that a server is addressed by. -/
def matchesReference (presented reference : Bytes) : Except Fault Bool :=
  if !isValid .presented presented then .error .malformedName
  else if !isValid .reference reference then .error .malformedName
  else
    let relative := if reference.getLast? = some 46 then reference.dropLast else reference
    match presented with
    | 42 :: rest => .ok (sameText rest (relative.dropWhile (· != 46)))
    | _ => .ok (sameText presented relative)

/-- Whether a name of a certificate lies in a subtree. A star stands for a label of the subtree
only where `starStands` holds. -/
def inSubtree (starStands : Bool) (presented subtree : Bytes) : Except Fault Bool :=
  if !isValid .presented presented then .error .malformedName
  else if !isValid .subtree subtree then .error .malformedSubtree
  else if subtree = [] then .ok true
  else if subtree.length < presented.length then
    let tail := presented.drop (presented.length - subtree.length)
    let before := (presented.take (presented.length - subtree.length)).getLast?
    .ok (sameText tail subtree && (subtree.head? == some 46 || before == some 46))
  else match presented with
    | 42 :: rest => .ok (starStands && sameText rest ((subtree.drop 1).dropWhile (· != 46)))
    | _ => .ok (sameText presented subtree)

end DomainName

/-- The name that a text addresses a server by: a domain name, or else an address. -/
def ServerName.parse? (text : String) : Option ServerName :=
  if DomainName.isValid .reference (Bytes.ofText text) then some (.domain text)
  else ((dotted? text <|> colons? text)).map .address

/-! ## Subtrees of addresses -/

/-- Whether a mask is a row of ones and then a row of zeros. -/
def isMask (mask : Bytes) : Bool :=
  let rest := mask.dropWhile (· == 0xFF)
  match rest with
  | [] => true
  | first :: rest =>
    [0x00, 0x80, 0xC0, 0xE0, 0xF0, 0xF8, 0xFC, 0xFE].contains first && rest.all (· == 0)

/-- Whether an address agrees with another one where a mask has ones. -/
def agreesUnder (mask address other : Bytes) : Bool :=
  ((address.zip other).zip mask).all fun ((a, b), m) => (a ^^^ b) &&& m == 0

end HostRoster

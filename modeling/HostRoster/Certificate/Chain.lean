import HostRoster.Certificate.Name
import HostRoster.Certificate.Time
import HostRoster.Crypto.Signature
import HostRoster.Text.Quoted

/-!
# Certificate chains

A server presents a leaf certificate and others that may lie between the leaf and a trust anchor.
`findAnchor` looks for a chain from the leaf to an anchor; `checkServer` also compares the name
that the server is addressed by.

**Search.** Every certificate of a chain is checked by itself when it joins the chain. Then each
anchor with the name of its issuer is tried, and then each other certificate with that name, up to
six of them in a chain. A chain is good when all signatures and all name constraints on it hold.

**Errors.** Of the errors of several attempts the most specific one is kept, the earliest of
several equally specific ones. Only running out of the bound on signature checks ends the search
at once.
-/

set_option autoImplicit false

namespace HostRoster

/-! ## Errors -/

/-- A purpose that a certificate is issued for. -/
inductive Purpose where
  /-- To authenticate servers. -/
  | server
  /-- To authenticate clients. -/
  | client
  /-- Another purpose, by the numbers of its name. -/
  | other (numbers : List Nat)
  deriving DecidableEq, Repr

/-- The wording of a purpose. -/
def Purpose.message : Purpose → String
  | .server => "server authentication"
  | .client => "client authentication"
  | .other numbers => joinWith ", " (numbers.map toString)

/-- Why a server is not accepted. -/
inductive ChainError where
  /-- A certificate cannot be used. -/
  | certificate (fault : CertificateFault)
  /-- The validity of a certificate ends before it begins. -/
  | emptyValidity
  /-- A certificate is not valid yet. -/
  | notYetValid (time notBefore : Nat)
  /-- A certificate is not valid any more. -/
  | expired (time notAfter : Nat)
  /-- No chain ends at an anchor. -/
  | unknownIssuer
  /-- A signature is wrong. -/
  | badSignature
  /-- A signature algorithm does not go with the key. -/
  | algorithmUnfitForKey (algorithm keyAlgorithm : Bytes)
  /-- A signature algorithm is not supported. -/
  | unsupportedAlgorithm (algorithm : Bytes)
  /-- A certificate is not issued for servers. -/
  | wrongPurpose (present : List Purpose)
  /-- The certificate of an authority is used as a leaf. -/
  | authorityAsLeaf
  /-- A leaf is used as the certificate of an authority. -/
  | leafAsAuthority
  /-- There are more authorities below an authority than it allows. -/
  | pathTooLong
  /-- A chain has more certificates than any chain may have. -/
  | pathTooDeep
  /-- A name lies outside of what an authority may speak for. -/
  | nameConstraintViolation
  /-- A name is malformed. -/
  | malformedName
  /-- A constraint is malformed. -/
  | malformedConstraint
  /-- The mask of a constraint is malformed. -/
  | malformedMask
  /-- Too many signatures would have to be checked. -/
  | tooManySignatures
  /-- The leaf is issued for other names. -/
  | wrongName (expected : String) (presented : List String)
  deriving DecidableEq, Repr

/-- Bytes as decimal numbers in a list. -/
def shownBytes (bytes : Bytes) : String :=
  "[" ++ joinWith ", " (bytes.map fun byte => toString byte.toNat) ++ "]"

/-- Names with commas between them and a word before the last. -/
def alternatives : List String → String
  | [] => ""
  | [name] => name
  | [name, last] => name ++ " or " ++ last
  | name :: rest => name ++ ", " ++ alternatives rest

namespace ChainError

/-- The wording of an error. -/
def message : ChainError → String
  | .certificate fault => fault.message
  | .emptyValidity => "Expired"
  | .notYetValid time notBefore =>
    "certificate not valid yet: verification time " ++ toString time ++
      " (UNIX), but certificate is not valid before " ++ toString notBefore ++ " (" ++
      toString (notBefore - time) ++ " seconds in future)"
  | .expired time notAfter =>
    "certificate expired: verification time " ++ toString time ++
      " (UNIX), but certificate is not valid after " ++ toString notAfter ++ " (" ++
      toString (time - notAfter) ++ " seconds ago)"
  | .unknownIssuer => "UnknownIssuer"
  | .badSignature => "BadSignature"
  | .algorithmUnfitForKey algorithm keyAlgorithm =>
    "UnsupportedSignatureAlgorithmForPublicKeyContext \x7b signature_algorithm_id: " ++
      shownBytes algorithm ++ ", public_key_algorithm_id: " ++ shownBytes keyAlgorithm ++ " \x7d"
  | .unsupportedAlgorithm algorithm =>
    "UnsupportedSignatureAlgorithmContext \x7b signature_algorithm_id: " ++
      shownBytes algorithm ++ ", supported_algorithms: [" ++
      joinWith ", " (SignatureAlgorithm.supported.map fun known => "0x" ++ Bytes.hex known.name) ++
      "] \x7d"
  | .wrongPurpose present =>
    "certificate does not allow extended key usage for server authentication, allows " ++
      joinWith ", " (present.map Purpose.message)
  | .authorityAsLeaf => "Other(OtherError(CaUsedAsEndEntity))"
  | .leafAsAuthority => "Other(OtherError(EndEntityUsedAsCa))"
  | .pathTooLong => "Other(OtherError(PathLenConstraintViolated))"
  | .pathTooDeep => "Other(OtherError(MaximumPathDepthExceeded))"
  | .nameConstraintViolation => "Other(OtherError(NameConstraintViolation))"
  | .malformedName => "Other(OtherError(MalformedDnsIdentifier))"
  | .malformedConstraint => "Other(OtherError(MalformedNameConstraint))"
  | .malformedMask => "Other(OtherError(InvalidNetworkMaskConstraint))"
  | .tooManySignatures => "Other(OtherError(MaximumSignatureChecksExceeded))"
  | .wrongName expected presented =>
    "certificate not valid for name " ++ Quoted.quote expected ++ "; certificate " ++
      (if presented = [] then
        "is not valid for any names (according to its subjectAltName extension)"
      else "is only valid for " ++ alternatives presented)

/-- How specific an error is. -/
def rank : ChainError → Nat
  | .notYetValid _ _ | .expired _ _ => 290
  | .wrongName _ _ => 280
  | .badSignature => 260
  | .certificate .signatureAlgorithmMismatch => 250
  | .wrongPurpose _ => 240
  | .nameConstraintViolation => 230
  | .pathTooLong => 220
  | .authorityAsLeaf | .leafAsAuthority => 210
  | .emptyValidity => 190
  | .malformedMask => 180
  | .algorithmUnfitForKey _ _ => 150
  | .unsupportedAlgorithm _ => 140
  | .certificate .unsupportedCriticalExtension => 130
  | .certificate .unsupportedVersion => 130
  | .pathTooDeep => 61
  | .malformedName => 60
  | .malformedConstraint => 50
  | .certificate .repeatedExtension => 30
  | .certificate .badEncoding => 10
  | .tooManySignatures => 0
  | .unknownIssuer => 0

/-- The more specific of two errors, the first of equally specific ones. -/
def mostSpecific (first second : ChainError) : ChainError :=
  if second.rank ≤ first.rank then first else second

end ChainError

/-- What a check of a chain gives. -/
abbrev ChainCheck (α : Type) := Except ChainError α

/-- Takes what is there, and calls an encoding bad that lacks it. -/
def wellFormed {α : Type} : Option α → ChainCheck α
  | some part => .ok part
  | none => .error (.certificate .badEncoding)

/-! ## Checks of one certificate -/

/-- The place of a certificate in a chain. -/
inductive ChainRole where
  /-- The certificate of the server itself. -/
  | leaf
  /-- A certificate that signs others. -/
  | authority
  deriving DecidableEq, Repr

/-- Checks that a time lies in the validity of a certificate, its ends included. -/
def checkValidity (time : Nat) (validity : Bytes) : ChainCheck Unit := do
  let (notBefore, rest) ← wellFormed (Calendar.read validity)
  let (notAfter, rest) ← wellFormed (Calendar.read rest)
  if notAfter < notBefore then .error .emptyValidity
  else if time < notBefore then .error (.notYetValid time notBefore)
  else if notAfter < time then .error (.expired time notAfter)
  else if rest ≠ [] then .error (.certificate .badEncoding)
  else .ok ()

/-- Checks that a certificate may stand at its place, with so many authorities below it. -/
def checkBasicConstraints (role : ChainRole) (below : Nat) (constraints : Option Bytes) :
    ChainCheck Unit := do
  let (isAuthority, most, rest) ← (match constraints with
    | none => .ok (false, none, [])
    | some content =>
      match readFlag content with
      | .error fault => .error (.certificate fault)
      | .ok (flag, []) => .ok (flag, none, [])
      | .ok (flag, rest) =>
        (wellFormed (Der.smallNatural .certificate rest)).map fun (most, rest) =>
          (flag, some most, rest)
    : ChainCheck (Bool × Option Nat × Bytes))
  match role, isAuthority, most with
  | .leaf, true, _ => .error .authorityAsLeaf
  | .authority, false, _ => .error .leafAsAuthority
  | .authority, true, some most =>
    if most < below then .error .pathTooLong
    else if rest ≠ [] then .error (.certificate .badEncoding) else .ok ()
  | _, _, _ => if rest ≠ [] then .error (.certificate .badEncoding) else .ok ()

/-- The numbers of an object name. -/
def objectNumbers (content : Bytes) : List Nat :=
  let groups := (content.foldl (fun (done : List Nat × Nat) byte =>
    let value := done.2 * 128 + byte.toNat % 128
    if byte < 128 then (value :: done.1, 0) else (done.1, value)) ([], 0)).1.reverse
  match groups with
  | [] => []
  | first :: rest =>
    let high := min (first / 40) 2
    high :: (first - 40 * high) :: rest

/-- The purpose that an object names. -/
def Purpose.ofName : Bytes → Purpose
  | [0x2B, 0x06, 0x01, 0x05, 0x05, 0x07, 0x03, 0x01] => .server
  | [0x2B, 0x06, 0x01, 0x05, 0x05, 0x07, 0x03, 0x02] => .client
  | name => .other (objectNumbers name)

/-- Checks that purposes hold that of servers. The bound is at least their number. -/
def checkPurposes : Nat → List Purpose → Bytes → ChainCheck Unit
  | 0, _, _ => .error (.certificate .badEncoding)
  | bound + 1, before, bytes => do
    let (name, rest) ← wellFormed (Der.expect .certificate Der.objectIdentifier bytes)
    let purpose := Purpose.ofName name
    if purpose = .server then .ok ()
    else if rest = [] then .error (.wrongPurpose (before ++ [purpose]))
    else checkPurposes bound (before ++ [purpose]) rest

/-- Checks a certificate by itself. -/
def checkAlone (time : Nat) (role : ChainRole) (below : Nat) (certificate : Certificate) :
    ChainCheck Unit := do
  checkValidity time certificate.validity
  checkBasicConstraints role below certificate.extensions.basicConstraints
  match certificate.extensions.extendedKeyUsage with
  | none => .ok ()
  | some content => checkPurposes (content.length + 1) [] content

/-! ## Signatures -/

/-- The name of the algorithm and the bits of a public key. -/
def readPublicKeyInfo (info : Bytes) : ChainCheck (Bytes × Bytes) := do
  let (name, rest) ← wellFormed (Der.expect .certificate Der.sequence info)
  let (bits, rest) ← wellFormed (Der.bits .certificate rest)
  if rest = [] then .ok (name, bits) else .error (.certificate .badEncoding)

/-- Checks a signature with the algorithms of one name, the first that goes with the key. -/
def checkWith (info message signature : Bytes) : List SignatureAlgorithm → ChainCheck Unit
  | [] => .error .unknownIssuer
  | algorithm :: rest => do
    let (name, bits) ← readPublicKeyInfo info
    if algorithm.keyName = name then
      if algorithm.verify bits message signature then .ok () else .error .badSignature
    else if rest = [] then .error (.algorithmUnfitForKey algorithm.name name)
    else checkWith info message signature rest

/-- Checks the signature of a certificate against the key of its issuer. -/
def checkSignature (info : Bytes) (certificate : Certificate) : ChainCheck Unit :=
  match SignatureAlgorithm.supported.filter fun known =>
    known.name == certificate.signatureAlgorithm with
  | [] => .error (.unsupportedAlgorithm certificate.signatureAlgorithm)
  | algorithms => checkWith info certificate.signedPart certificate.signature algorithms

/-- How many signatures may be checked in one search. -/
def signatureBudget : Nat := 100

/-- Checks the signatures of a chain from the anchor down, and gives what is left of the bound. -/
def checkSignatures (info : Bytes) : List Certificate → Nat → ChainCheck Unit × Nat
  | [], budget => (.ok (), budget)
  | certificate :: below, budget =>
    match budget with
    | 0 => (.error .tooManySignatures, 0)
    | budget + 1 =>
      match checkSignature info certificate with
      | .error cause => (.error cause, budget)
      | .ok () => checkSignatures certificate.publicKeyInfo below budget

/-! ## Name constraints -/

/-- The subtrees of a constraint. -/
structure Subtrees where
  /-- The subtrees that names have to lie in. -/
  permitted : Option Bytes
  /-- The subtrees that names must not lie in. -/
  excluded : Option Bytes
  deriving DecidableEq, Repr

/-- Reads subtrees with a tag, if they are there. -/
def readSubtrees (tag : UInt8) (bytes : Bytes) : ChainCheck (Option Bytes × Bytes) :=
  if Der.nextIs tag bytes then
    (wellFormed (Der.expect .certificate tag bytes)).map fun (content, rest) => (some content, rest)
  else .ok (none, bytes)

/-- Reads a name constraint. -/
def Subtrees.read (content : Bytes) : ChainCheck (Subtrees × Bytes) := do
  let (permitted, rest) ← readSubtrees (Der.contextConstructed 0) content
  let (excluded, rest) ← readSubtrees (Der.contextConstructed 1) rest
  return (⟨permitted, excluded⟩, rest)

/-- Reads the base of a subtree. -/
def readBase (bytes : Bytes) : ChainCheck (GeneralName × Bytes) := do
  let (content, rest) ← wellFormed (Der.expect .certificate Der.sequence bytes)
  let (name, behind) ← wellFormed (GeneralName.read content)
  if behind = [] then .ok (name, rest) else .error (.certificate .badEncoding)

/-- Whether a name lies in a subtree, or nothing if the two are of different kinds. -/
def liesIn (permitted : Bool) (name base : GeneralName) : ChainCheck (Option Bool) :=
  match name, base with
  | .domain name, .domain base =>
    match DomainName.inSubtree (!permitted) name base with
    | .ok inside => .ok (some inside)
    | .error .malformedName => .error .malformedName
    | .error .malformedSubtree => .error .malformedConstraint
  | .directory, .directory => .ok (some (!permitted))
  | .address name, .address base =>
    if name.length = 4 ∧ base.length = 8 ∨ name.length = 16 ∧ base.length = 32 then
      let address := base.take name.length
      let mask := base.drop name.length
      if isMask mask then .ok (some (agreesUnder mask name address))
      else .error .malformedMask
    else if name.length = 4 ∧ base.length = 32 ∨ name.length = 16 ∧ base.length = 8 then
      .ok (some false)
    else if name.length = 4 ∨ name.length = 16 then .error .malformedMask
    else .error (.certificate .badEncoding)
  | .locator _, .locator _ => .error .nameConstraintViolation
  | .other name, .other base =>
    if name = base then .error .nameConstraintViolation else .ok none
  | _, _ => .ok none

/-- Checks that a name lies in one of the permitted subtrees of its kind, if there are any. -/
def checkPermitted (name : GeneralName) : Nat → Bool → Bool → Bytes → ChainCheck Unit
  | _, inside, outside, [] =>
    if outside && !inside then .error .nameConstraintViolation else .ok ()
  | 0, _, _, _ => .error (.certificate .badEncoding)
  | bound + 1, inside, outside, bytes => do
    let (base, rest) ← readBase bytes
    match ← liesIn true name base with
    | none => checkPermitted name bound inside outside rest
    | some true => checkPermitted name bound true outside rest
    | some false => checkPermitted name bound inside true rest

/-- Checks that a name lies in none of the excluded subtrees. -/
def checkExcluded (name : GeneralName) : Nat → Bytes → ChainCheck Unit
  | _, [] => .ok ()
  | 0, _ => .error (.certificate .badEncoding)
  | bound + 1, bytes => do
    let (base, rest) ← readBase bytes
    match ← liesIn false name base with
    | some true => .error .nameConstraintViolation
    | _ => checkExcluded name bound rest

/-- Checks a name against subtrees. -/
def Subtrees.check (subtrees : Subtrees) (name : GeneralName) : ChainCheck Unit := do
  match subtrees.permitted with
  | none => .ok ()
  | some content => checkPermitted name content.length false false content
  match subtrees.excluded with
  | none => .ok ()
  | some content => checkExcluded name content.length content

/-- Checks all names of a certificate against subtrees: the other names of the subject, and its
name in a directory. -/
def Subtrees.checkCertificate (subtrees : Subtrees) (certificate : Certificate) :
    ChainCheck Unit := do
  (GeneralName.ofExtension certificate.extensions.alternativeNames).forM fun name =>
    match name with
    | none => .error (.certificate .badEncoding)
    | some name => subtrees.check name
  subtrees.check .directory

/-- Checks the names of certificates against a constraint, if there is one. -/
def checkConstraint (constraint : Option Bytes) (below : List Certificate) : ChainCheck Unit := do
  match constraint with
  | none => .ok ()
  | some content =>
    let (subtrees, rest) ← Subtrees.read content
    below.forM subtrees.checkCertificate
    if rest = [] then .ok () else .error (.certificate .badEncoding)

/-- Checks the name constraints of a chain from the anchor down. -/
def checkNameConstraints (constraint : Option Bytes) : List Certificate → ChainCheck Unit
  | [] => .ok ()
  | certificate :: below => do
    checkConstraint constraint (certificate :: below)
    checkNameConstraints certificate.extensions.nameConstraints below

/-! ## Search -/

/-- The most certificates that may lie between a leaf and an anchor. -/
def longestPath : Nat := 6

/-- What a search gives, with what is left of the bound on signature checks. -/
abbrev Search := ChainCheck TrustAnchor × Nat

/-- Tries values one after the other until one succeeds, and keeps the most specific error. -/
def tryEach {α : Type} (attempt : α → Nat → Search) : ChainError → List α → Nat → Search
  | cause, [], budget => (.error cause, budget)
  | cause, value :: rest, budget =>
    match attempt value budget with
    | (.ok anchor, budget) => (.ok anchor, budget)
    | (.error .tooManySignatures, budget) => (.error .tooManySignatures, budget)
    | (.error other, budget) => tryEach attempt (cause.mostSpecific other) rest budget

/-- Tries to end a chain at an anchor. The chain has the certificate next to the anchor first. -/
def tryAnchor (chain : List Certificate) (anchor : TrustAnchor) (budget : Nat) : Search :=
  match chain with
  | [] => (.error .unknownIssuer, budget)
  | head :: _ =>
    if head.issuer = anchor.subject then
      match checkSignatures anchor.publicKeyInfo chain budget with
      | (.error cause, budget) => (.error cause, budget)
      | (.ok (), budget) =>
        match checkNameConstraints anchor.nameConstraints chain with
        | .error cause => (.error cause, budget)
        | .ok () => (.ok anchor, budget)
    else (.error .unknownIssuer, budget)

/-- Searches for an anchor from a chain on. `room` more certificates fit into the chain, and
`below` of those in it are authorities that others lie above. -/
def search (time : Nat) (anchors : List TrustAnchor) (others : List Bytes) (role : ChainRole)
    (below : Nat) : Nat → List Certificate → Nat → Search
  | _, [], budget => (.error .unknownIssuer, budget)
  | room, head :: tail, budget =>
    match checkAlone time role below head with
    | .error cause => (.error cause, budget)
    | .ok () =>
      match tryEach (tryAnchor (head :: tail)) .unknownIssuer anchors budget with
      | (.ok anchor, budget) => (.ok anchor, budget)
      | (.error .tooManySignatures, budget) => (.error .tooManySignatures, budget)
      | (.error cause, budget) =>
        let below := match role with
          | .leaf => below
          | .authority => below + 1
        tryEach (fun encoded budget =>
          match Certificate.read encoded with
          | .error fault => (.error (.certificate fault), budget)
          | .ok issuer =>
            if issuer.subject ≠ head.issuer then (.error .unknownIssuer, budget)
            else if (head :: tail).any fun held =>
                held.publicKeyInfo == issuer.publicKeyInfo && held.subject == issuer.subject then
              (.error .unknownIssuer, budget)
            else match room with
              | 0 => (.error .pathTooDeep, budget)
              | room + 1 =>
                search time anchors others .authority below room (issuer :: head :: tail) budget)
          cause others budget

/-- The anchor that a chain of certificates leads to. -/
def findAnchor (time : Nat) (anchors : List TrustAnchor) (leaf : Certificate)
    (others : List Bytes) : ChainCheck TrustAnchor :=
  (search time anchors others .leaf 0 longestPath [leaf] signatureBudget).1

/-! ## Names -/

/-- Whether a name of a certificate stands for a server name. -/
def standsFor (name : GeneralName) (server : ServerName) : Bool :=
  match name, server with
  | .domain presented, .domain reference =>
    match DomainName.matchesReference presented (Bytes.ofText reference) with
    | .ok found => found
    | .error _ => false
  | .address presented, .address octets => presented == octets
  | _, _ => false

/-- Looks for a server name among the names of a certificate. -/
def checkNames (server : ServerName) (shown : List String) :
    List (Option GeneralName) → ChainCheck Unit
  | [] => .error (.wrongName server.text shown)
  | none :: _ => .error (.certificate .badEncoding)
  | some name :: rest => if standsFor name server then .ok () else checkNames server shown rest

/-- Checks that a leaf is issued for a server name. -/
def checkName (server : ServerName) (leaf : Certificate) : ChainCheck Unit :=
  let names := GeneralName.ofExtension leaf.extensions.alternativeNames
  checkNames server (names.filterMap (·.map GeneralName.shown)) names

/-- Reads the certificate of a server. -/
def readLeaf (encoded : Bytes) : ChainCheck Certificate :=
  match Certificate.read encoded with
  | .ok certificate => .ok certificate
  | .error fault => .error (.certificate fault)

/-- Checks the certificates that a server presents. -/
def checkServer (time : Nat) (anchors : List TrustAnchor) (server : ServerName)
    (presented : List Bytes) : ChainCheck Unit := do
  let leaf ← readLeaf (presented.headD [])
  let _ ← findAnchor time anchors leaf presented.tail
  checkName server leaf

end HostRoster

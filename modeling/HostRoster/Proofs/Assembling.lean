import HostRoster.Trust.Configuration

/-!
# Configurations do what their mode says

A mode that verifies servers needs roots and perhaps an identity, and takes each of them from the
bundle or does without (`assemble_eq`). So a configuration can be taken apart again
(`assemble_eq_ok_iff`), and what an assembly misses is a piece that the mode requires and the bundle
lacks (`requires_of_missing`, `assemble_fails`).

`TrustConfiguration.Serves` is what holds of every configuration that is assembled: it is as strict
as its mode, and rendering it cannot fail, because the identity has passed the check already that
rendering makes (`checkKeyPair_of_readIdentity`).
-/

set_option autoImplicit false

namespace HostRoster

/-! ## Chains of checks -/

section Checks

variable {ε α β : Type} {first : Except ε α} {next : α → Except ε β}

theorem bind_eq_ok_iff {result : β} :
    (first >>= next) = .ok result ↔ ∃ value, first = .ok value ∧ next value = .ok result := by
  cases first <;> simp [bind, Except.bind]

theorem bind_eq_error_iff {cause : ε} :
    (first >>= next) = .error cause ↔
      first = .error cause ∨ ∃ value, first = .ok value ∧ next value = .error cause := by
  cases first <;> simp [bind, Except.bind]

end Checks

/-! ## Selectors -/

namespace TrustMode

/-- A selector names a mode exactly if it is the text of the mode. -/
theorem ofSelector?_eq_some_iff {text : String} {mode : TrustMode} :
    ofSelector? text = some mode ↔ mode.selector = text := by
  constructor
  · intro found
    simpa using List.find?_some found
  · rintro rfl
    cases mode <;> decide

/-- The selectors of the modes that verify servers. -/
def verifying : List String := ["ca-tls", "ca-mtls", "ss-tls", "ss-mtls"]

theorem selector_mem_verifying_iff {mode : TrustMode} :
    mode.selector ∈ verifying ↔ mode ≠ .unverified := by
  cases mode <;> decide

/-- A text that selects a mode which verifies servers is one of the four selectors. -/
theorem ofSelector_ne_unverified_iff {text : String} :
    ofSelector text ≠ .unverified ↔ text ∈ verifying := by
  cases found : ofSelector? text with
  | some mode =>
      obtain rfl := ofSelector?_eq_some_iff.mp found
      rw [ofSelector, found, Option.getD_some, selector_mem_verifying_iff]
  | none =>
      -- Each of the four texts names a mode, so a text that names none is not among them.
      have unnamed : text ∉ verifying := by
        intro member
        have named : ∃ mode : TrustMode, mode.selector = text := by
          simp only [verifying, List.mem_cons, List.not_mem_nil, or_false] at member
          rcases member with rfl | rfl | rfl | rfl
          · exact ⟨.publicRoots, rfl⟩
          · exact ⟨.publicRootsMutual, rfl⟩
          · exact ⟨.suppliedRoot, rfl⟩
          · exact ⟨.suppliedRootMutual, rfl⟩
        obtain ⟨mode, named⟩ := named
        rw [ofSelector?_eq_some_iff.mpr named] at found
        cases found
      simp [ofSelector, found, unnamed]

/-- Whether a mode requires a piece of a bundle. -/
def requires (mode : TrustMode) : Material → Bool
  | .authority => mode.requiresAuthority
  | .clientCertificate | .clientKey => mode.requiresIdentity

end TrustMode

/-! ## Roots and identities -/

section Assembling

variable {mode : TrustMode} {bundle : Bundle} {configuration : TrustConfiguration}

theorem requirePiece_eq_ok_iff {material : Material} {text : Bytes} :
    requirePiece bundle material = .ok text ↔ bundle.get? material = some text := by
  unfold requirePiece
  cases bundle.get? material <;> simp

theorem requirePiece_eq_error_iff {material : Material} {cause : TrustError} :
    requirePiece bundle material = .error cause ↔
      bundle.get? material = none ∧ cause = .missingMaterial material := by
  unfold requirePiece
  cases bundle.get? material <;> simp [eq_comm]

/-- A text names an authority: its first item is a certificate that reads as this anchor. -/
def Anchors (text : Bytes) (anchor : TrustAnchor) : Prop :=
  ∃ item rest, (Pem.read text).items = item :: rest ∧ item.kind = .certificate ∧
    TrustAnchor.read item.body = .ok anchor

theorem readTrustRoot_eq_ok_iff {text : Bytes} {anchor : TrustAnchor} :
    readTrustRoot text = .ok anchor ↔ Anchors text anchor := by
  unfold readTrustRoot firstCertificate Anchors
  cases items : (Pem.read text).items with
  | nil => simp
  | cons item rest =>
      by_cases certificate : item.kind = .certificate
      · cases read : TrustAnchor.read item.body <;> simp [certificate, read]
      · simp [certificate]

theorem suppliedRoots_eq_ok_iff {roots : TrustRoots} :
    suppliedRoots bundle = .ok roots ↔
      ∃ text anchor, bundle.authority = some text ∧ Anchors text anchor ∧
        roots = .supplied [anchor] := by
  simp only [suppliedRoots, bind_eq_ok_iff, requirePiece_eq_ok_iff, readTrustRoot_eq_ok_iff,
    Bundle.get?, pure, Except.pure, Except.ok.injEq]
  constructor
  · rintro ⟨text, present, anchor, anchors, rfl⟩
    exact ⟨text, anchor, present, anchors, rfl⟩
  · rintro ⟨text, anchor, present, anchors, rfl⟩
    exact ⟨text, present, anchor, anchors, rfl⟩

/-- An identity that could be read has passed the check of its key. -/
theorem checkKeyPair_of_readIdentity {certificates key : Bytes} {identity : ClientIdentity}
    (read : readIdentity certificates key = .ok identity) :
    checkKeyPair identity.chain identity.key = .ok () := by
  simp only [readIdentity, bind_eq_ok_iff, pure, Except.pure, Except.ok.injEq] at read
  obtain ⟨chain, -, stored, -, ⟨⟩, checked, rfl⟩ := read
  exact checked

theorem checkKeyPair_of_bundleIdentity {identity : ClientIdentity}
    (read : bundleIdentity bundle = .ok identity) :
    checkKeyPair identity.chain identity.key = .ok () := by
  simp only [bundleIdentity, bind_eq_ok_iff] at read
  obtain ⟨certificates, -, key, -, paired⟩ := read
  exact checkKeyPair_of_readIdentity paired

/-! ## What a mode makes of a bundle -/

/-- The roots of a mode that verifies servers. -/
def rootsFor (mode : TrustMode) (bundle : Bundle) : Except TrustError TrustRoots :=
  if mode.requiresAuthority then suppliedRoots bundle else .ok .publicAuthorities

/-- The identity that a mode presents. -/
def identityFor (mode : TrustMode) (bundle : Bundle) :
    Except TrustError (Option ClientIdentity) :=
  if mode.requiresIdentity then (bundleIdentity bundle).map some else .ok none

/-- A mode that verifies servers takes what it requires from the bundle, the roots first. -/
theorem assemble_eq (verifies : mode ≠ .unverified) (bundle : Bundle) :
    assemble mode bundle = (do
      let roots ← rootsFor mode bundle
      let identity ← identityFor mode bundle
      return .verified roots identity) := by
  cases mode with
  | unverified => exact absurd rfl verifies
  | publicRoots | suppliedRoot => rfl
  | publicRootsMutual =>
      simp only [assemble, rootsFor, identityFor, TrustMode.requiresAuthority,
        TrustMode.requiresIdentity]
      cases bundleIdentity bundle <;> rfl
  | suppliedRootMutual =>
      simp only [assemble, rootsFor, identityFor, TrustMode.requiresAuthority,
        TrustMode.requiresIdentity]
      cases suppliedRoots bundle <;> cases bundleIdentity bundle <;> rfl

/-- **What an assembled configuration is made of.** -/
theorem assemble_eq_ok_iff :
    assemble mode bundle = .ok configuration ↔
      mode = .unverified ∧ configuration = .unverified ∨
        mode ≠ .unverified ∧ ∃ roots identity, rootsFor mode bundle = .ok roots ∧
          identityFor mode bundle = .ok identity ∧ configuration = .verified roots identity := by
  by_cases unverified : mode = .unverified
  · subst unverified
    simp [assemble, eq_comm]
  · rw [assemble_eq unverified]
    simp only [bind_eq_ok_iff, pure, Except.pure, Except.ok.injEq, unverified, false_and, false_or,
      not_false_eq_true, true_and, ne_eq]
    constructor
    · rintro ⟨roots, rooted, identity, identified, rfl⟩
      exact ⟨roots, identity, rooted, identified, rfl⟩
    · rintro ⟨roots, identity, rooted, identified, rfl⟩
      exact ⟨roots, rooted, identity, identified, rfl⟩

/-! ## What is assembled serves its mode -/

/-- A configuration is as strict as a mode, from a bundle, and can be rendered. -/
structure TrustConfiguration.Serves (configuration : TrustConfiguration) (mode : TrustMode)
    (bundle : Bundle) : Prop where
  skips : configuration.skipsVerification = true ↔ configuration.roots = .none
  supplied : (∃ anchors, configuration.roots = .supplied anchors) ↔ mode.requiresAuthority = true
  anchored : ∀ anchors, configuration.roots = .supplied anchors →
    ∃ text anchor, bundle.authority = some text ∧ Anchors text anchor ∧ anchors = [anchor]
  identified : configuration.identity.isSome = mode.requiresIdentity
  presented : ∀ identity, configuration.identity = some identity →
    bundleIdentity bundle = .ok identity
  /-- The check of the server is there unless it is skipped, and has the roots. -/
  verifies : configuration.serverVerifier =
    .ok (if configuration.skipsVerification then none else some ⟨configuration.roots⟩)
  /-- Clients check the server like that, and present the identity. -/
  renders : ∃ settings, configuration.clientSettings = .ok settings ∧
    configuration.serverVerifier = .ok settings.verifier ∧
    settings.identity = configuration.identity

/-- The roots of a mode are the public ones, or one authority if the mode requires it. -/
theorem rootsFor_eq_ok_iff {roots : TrustRoots} :
    rootsFor mode bundle = .ok roots ↔
      mode.requiresAuthority = false ∧ roots = .publicAuthorities ∨
        mode.requiresAuthority = true ∧
          ∃ text anchor, bundle.authority = some text ∧ Anchors text anchor ∧
            roots = .supplied [anchor] := by
  unfold rootsFor
  cases mode.requiresAuthority with
  | false => simp [eq_comm]
  | true => simp [suppliedRoots_eq_ok_iff]

theorem identityFor_eq_ok_iff {identity : Option ClientIdentity} :
    identityFor mode bundle = .ok identity ↔
      mode.requiresIdentity = false ∧ identity = none ∨
        mode.requiresIdentity = true ∧
          ∃ presented, bundleIdentity bundle = .ok presented ∧ identity = some presented := by
  unfold identityFor
  cases mode.requiresIdentity with
  | false => simp [eq_comm]
  | true => cases bundleIdentity bundle <;> simp [Except.map, eq_comm]

/-- A configuration whose check of the server can be rendered and whose identity holds together can
be rendered. -/
theorem clientSettings_of_checked {verifier : Option ServerVerifier}
    (verified : configuration.serverVerifier = .ok verifier)
    (checked : ∀ identity, configuration.identity = some identity →
      checkKeyPair identity.chain identity.key = .ok ()) :
    configuration.clientSettings = .ok ⟨verifier, configuration.identity⟩ := by
  simp only [TrustConfiguration.clientSettings, verified, bind, Except.bind]
  cases presented : configuration.identity with
  | none => rfl
  | some identity =>
      simp only [checked identity presented]
      rfl

theorem serves_unverified (bundle : Bundle) :
    TrustConfiguration.unverified.Serves .unverified bundle where
  skips := iff_of_true rfl rfl
  supplied := by simp [TrustConfiguration.unverified, TrustMode.requiresAuthority]
  anchored := by simp [TrustConfiguration.unverified]
  identified := rfl
  presented := by simp [TrustConfiguration.unverified]
  verifies := rfl
  renders := ⟨⟨none, none⟩, rfl, rfl, rfl⟩

theorem serves_verified {roots : TrustRoots} {identity : Option ClientIdentity}
    (rooted : rootsFor mode bundle = .ok roots)
    (identified : identityFor mode bundle = .ok identity) :
    (TrustConfiguration.verified roots identity).Serves mode bundle := by
  have rooted := rootsFor_eq_ok_iff.mp rooted
  have identified := identityFor_eq_ok_iff.mp identified
  have presented : ∀ held, identity = some held → bundleIdentity bundle = .ok held := by
    rintro held rfl
    obtain ⟨-, ⟨⟩⟩ | ⟨-, presented, read, ⟨⟩⟩ := identified
    exact read
  have check : (TrustConfiguration.verified roots identity).serverVerifier =
      .ok (some ⟨roots⟩) := by
    obtain ⟨-, rfl⟩ | ⟨-, text, anchor, -, -, rfl⟩ := rooted <;> rfl
  -- Rendering repeats the check that the identity passed when it was read.
  have rendered := clientSettings_of_checked check fun held is =>
    checkKeyPair_of_bundleIdentity (presented held is)
  refine ⟨?skips, ?supplied, ?anchored, ?identified, presented, check, ⟨_, rendered, check, rfl⟩⟩
  case skips =>
    obtain ⟨-, rfl⟩ | ⟨-, text, anchor, -, -, rfl⟩ := rooted <;>
      simp [TrustConfiguration.verified]
  case supplied =>
    obtain ⟨required, rfl⟩ | ⟨required, text, anchor, -, -, rfl⟩ := rooted <;>
      simp [TrustConfiguration.verified, required]
  case anchored =>
    rintro anchors held
    obtain ⟨-, rfl⟩ | ⟨-, text, anchor, present, named, rfl⟩ := rooted
    · cases held
    · cases held
      exact ⟨text, anchor, present, named, rfl⟩
  case identified =>
    obtain ⟨required, rfl⟩ | ⟨required, held, -, rfl⟩ := identified <;>
      simp [TrustConfiguration.verified, required]

/-- **Every configuration that is assembled serves its mode.** -/
theorem serves_of_assemble (assembled : assemble mode bundle = .ok configuration) :
    configuration.Serves mode bundle := by
  rcases assemble_eq_ok_iff.mp assembled with
    ⟨rfl, rfl⟩ | ⟨-, roots, identity, rooted, identified, rfl⟩
  · exact serves_unverified bundle
  · exact serves_verified rooted identified

/-- Servers are verified exactly by the modes that say so. -/
theorem skipsVerification_of_assemble (assembled : assemble mode bundle = .ok configuration) :
    configuration.skipsVerification = true ↔ mode = .unverified := by
  rcases assemble_eq_ok_iff.mp assembled with ⟨rfl, rfl⟩ | ⟨verifies, roots, identity, -, -, rfl⟩
  · exact iff_of_true rfl rfl
  · exact iff_of_false (by simp [TrustConfiguration.verified]) verifies

/-- **What comes of a selector.** Servers are verified exactly for the four selectors that name a
mode with roots, and every other text gives the configuration without verification, whatever is in
the bundle. What is assembled for a text or for a mode serves that mode. -/
theorem assembled_serves (bundle : Bundle) :
    (∀ selector : String,
      ((∃ configuration, assembleSelector selector bundle = .ok configuration ∧
          configuration.skipsVerification = false) ↔
        selector ∈ ["ca-tls", "ca-mtls", "ss-tls", "ss-mtls"] ∧
          ∃ configuration, assembleSelector selector bundle = .ok configuration) ∧
      (selector ∉ ["ca-tls", "ca-mtls", "ss-tls", "ss-mtls"] →
        assembleSelector selector bundle = .ok ⟨.none, none, true⟩) ∧
      ∀ configuration, assembleSelector selector bundle = .ok configuration →
        configuration.Serves (.ofSelector selector) bundle) ∧
    ∀ mode configuration, assemble mode bundle = .ok configuration →
      configuration.Serves mode bundle := by
  refine ⟨fun selector => ⟨?strict, ?lenient, fun _ => serves_of_assemble⟩,
    fun _ _ => serves_of_assemble⟩
  case strict =>
    constructor
    · rintro ⟨configuration, assembled, verified⟩
      refine ⟨TrustMode.ofSelector_ne_unverified_iff.mp fun unverified => ?_,
        configuration, assembled⟩
      rw [(skipsVerification_of_assemble assembled).mpr unverified] at verified
      cases verified
    · rintro ⟨member, configuration, assembled⟩
      refine ⟨configuration, assembled, Bool.eq_false_iff.mpr fun skips => ?_⟩
      exact TrustMode.ofSelector_ne_unverified_iff.mpr member
        ((skipsVerification_of_assemble assembled).mp skips)
  case lenient =>
    intro other
    have unverified : TrustMode.ofSelector selector = .unverified := by
      rw [← TrustMode.verifying, ← TrustMode.ofSelector_ne_unverified_iff] at other
      exact Decidable.not_not.mp other
    rw [assembleSelector, unverified]
    rfl

/-- The text of a chain, each certificate on one line. -/
def chainText (chain : List Bytes) : Bytes :=
  chain.flatMap fun encoded => Pem.block (Bytes.ofText "CERTIFICATE") [Base64.encode encoded] [10]

/-- A certificate in which all but the public key is as short as it can be. -/
def bareCertificate (publicKeyInfo : Bytes) : Bytes :=
  let nothing := Der.element Der.sequence []
  Der.element Der.sequence
    (Der.element Der.sequence
        ([0xA0, 3, 2, 1, 2] ++ [2, 1, 1] ++ nothing ++ nothing ++ nothing ++ nothing ++
          Der.element Der.sequence publicKeyInfo) ++
      nothing ++ Der.bitsElement [])

/-- The signing key whose public half is the base point of its curve. -/
def unitSigningKey : SigningKey := .curve .p256 (Curve.p256.encodePoint Curve.p256.base)

/-- The private key with the number one. -/
def unitKey : PrivateKey where
  form := .curve
  encoded := Der.element Der.sequence
    ([2, 1, 1] ++ Der.element Der.octetString (Bytes.ofNumber 32 1) ++
      Der.element (Der.contextConstructed 1) (Der.bitsElement unitSigningKey.publicBits))

def unitKeyText : Bytes :=
  Pem.block (Bytes.ofText "EC PRIVATE KEY") [Base64.encode unitKey.encoded] [10]

/-- The certificate that the key belongs to. -/
def unitCertificate : Bytes := bareCertificate unitSigningKey.publicKeyInfo

/-- The key and its certificate are an identity. -/
theorem readIdentity_unitKey :
    readIdentity (chainText [unitCertificate]) unitKeyText = .ok ⟨[unitCertificate], unitKey⟩ := by
  have read : (readIdentity (chainText [unitCertificate]) unitKeyText).toOption =
      some ⟨[unitCertificate], unitKey⟩ := by
    decide +kernel
  cases outcome : readIdentity (chainText [unitCertificate]) unitKeyText with
  | error cause => simp [outcome, Except.toOption] at read
  | ok identity =>
      rw [outcome] at read
      exact congrArg Except.ok (Option.some.inj read)

/-- A supplied authority of the first version, followed by something that is no certificate, serves
with and without the identity that the bundle holds. -/
theorem assembled_serves_supplied :
    let text := Bytes.ofText ("-----BEGIN CERTIFICATE-----\nMBQwDQIBATAAMAAwADAAMAAwAAMBAA==\n" ++
      "-----END CERTIFICATE-----\nrest")
    let bundle : Bundle :=
      { authority := some text, clientCertificate := some (chainText [unitCertificate]),
        clientKey := some unitKeyText }
    let roots := TrustRoots.supplied [⟨[], [], none⟩]
    let identity : ClientIdentity := ⟨[unitCertificate], unitKey⟩
    assembleSelector "ss-tls" bundle = .ok (.verified roots none) ∧
      (TrustConfiguration.verified roots none).Serves .suppliedRoot bundle ∧
      assembleSelector "ss-mtls" bundle = .ok (.verified roots (some identity)) ∧
      (TrustConfiguration.verified roots (some identity)).Serves .suppliedRootMutual bundle := by
  intro text bundle roots identity
  have items : (Pem.read text).items = [⟨.certificate,
      [48, 20, 48, 13, 2, 1, 1, 48, 0, 48, 0, 48, 0, 48, 0, 48, 0, 48, 0, 3, 1, 0]⟩] := by
    decide +kernel
  have anchors : Anchors text ⟨[], [], none⟩ := ⟨_, _, items, rfl, rfl⟩
  have rooted (mode : TrustMode) (required : mode.requiresAuthority = true) :
      rootsFor mode bundle = .ok roots :=
    rootsFor_eq_ok_iff.mpr (.inr ⟨required, text, _, rfl, anchors, rfl⟩)
  have identified : identityFor .suppliedRootMutual bundle = .ok (some identity) :=
    identityFor_eq_ok_iff.mpr (.inr ⟨rfl, identity, readIdentity_unitKey, rfl⟩)
  have alone : assembleSelector "ss-tls" bundle = .ok (.verified roots none) :=
    assemble_eq_ok_iff.mpr (.inr ⟨by decide, _, none, rooted _ rfl, rfl, rfl⟩)
  have paired : assembleSelector "ss-mtls" bundle = .ok (.verified roots (some identity)) :=
    assemble_eq_ok_iff.mpr (.inr ⟨by decide, _, _, rooted _ rfl, identified, rfl⟩)
  have serves := (assembled_serves bundle).1
  exact ⟨alone, (serves "ss-tls").2.2 _ alone, paired, (serves "ss-mtls").2.2 _ paired⟩

end Assembling

end HostRoster

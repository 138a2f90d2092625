import HostRoster.Proofs.Assembling

/-!
# Why an assembly fails

Ten things can be wrong with the pieces of a bundle (`BundleFault`). Whether one of them is there is
a matter of its own pieces, whatever else is wrong (`BundleFault.Reports`). A mode has the faults of
the pieces that it requires, in an order of their own (`TrustMode.faults`).

**Precedence.** The error of a failed assembly is that of the first fault that is there. The faults
of a chain of checks are those of its links, one link after the other (`FailsFirst.bind`), so the
order of the faults is read off the order of the checks.

**Indifference.** A mode looks at no piece that it does not require (`assemble_congr`).
-/

set_option autoImplicit false

namespace HostRoster

/-! ## Pieces that are not required -/

section Indifference

variable {mode : TrustMode} {left right : Bundle}

theorem requirePiece_congr {material : Material}
    (same : left.get? material = right.get? material) :
    requirePiece left material = requirePiece right material := by
  rw [requirePiece, same, requirePiece]

theorem suppliedRoots_congr (same : left.get? .authority = right.get? .authority) :
    suppliedRoots left = suppliedRoots right := by
  rw [suppliedRoots, requirePiece_congr same, suppliedRoots]

theorem bundleIdentity_congr
    (chain : left.get? .clientCertificate = right.get? .clientCertificate)
    (key : left.get? .clientKey = right.get? .clientKey) :
    bundleIdentity left = bundleIdentity right := by
  rw [bundleIdentity, requirePiece_congr chain, requirePiece_congr key, bundleIdentity]

/-- **Bundles that agree on the pieces a mode requires are assembled alike.** -/
theorem assemble_congr
    (same : ∀ material, mode.requires material = true →
      left.get? material = right.get? material) :
    assemble mode left = assemble mode right := by
  have authority := same .authority
  have chain := same .clientCertificate
  have key := same .clientKey
  cases mode with
  | unverified | publicRoots => rfl
  | publicRootsMutual =>
      rw [assemble, bundleIdentity_congr (chain rfl) (key rfl), assemble]
  | suppliedRoot => rw [assemble, suppliedRoots_congr (authority rfl), assemble]
  | suppliedRootMutual =>
      rw [assemble, suppliedRoots_congr (authority rfl),
        bundleIdentity_congr (chain rfl) (key rfl), assemble]

end Indifference

/-! ## Faults -/

/-- The leaf of the certificate chain in a bundle. -/
def Bundle.HasLeaf (bundle : Bundle) (leaf : Bytes) : Prop :=
  ∃ text rest, bundle.clientCertificate = some text ∧ certificateChain text = .ok (leaf :: rest)

/-- The private key in a bundle. -/
def Bundle.HasKey (bundle : Bundle) (key : PrivateKey) : Prop :=
  ∃ text, bundle.clientKey = some text ∧ firstPrivateKey text = .ok key

/-- What can be wrong with the pieces of a bundle. -/
inductive BundleFault where
  /-- There is no authority. -/
  | authorityAbsent
  /-- No item can be read of the authority. -/
  | authorityWithoutItem
  /-- The first item of the authority is no well-formed certificate. -/
  | authorityMalformed
  /-- There is no certificate chain. -/
  | chainAbsent
  /-- There is no private key. -/
  | keyAbsent
  /-- The text of the chain is damaged or holds no certificate. -/
  | chainUnreadable
  /-- The text of the key holds no private key before any damage. -/
  | keyUnreadable
  /-- The key cannot be loaded. -/
  | keyUnloadable
  /-- The leaf of the chain is no well-formed certificate. -/
  | leafMalformed
  /-- The key is not the one of the leaf. -/
  | keyForeign
  deriving DecidableEq, Repr

namespace BundleFault

/-- A fault is there, and is reported by an error. -/
def Reports (bundle : Bundle) (cause : TrustError) : BundleFault → Prop
  | authorityAbsent => bundle.authority = none ∧ cause = .missingMaterial .authority
  | authorityWithoutItem =>
    (∃ text, bundle.authority = some text ∧ (Pem.read text).items = []) ∧
      cause = .invalidPem .authority
  | authorityMalformed =>
    ∃ text item rest fault, bundle.authority = some text ∧
      (Pem.read text).items = item :: rest ∧
      (if item.kind = .certificate then TrustAnchor.read item.body = .error fault
        else fault = .badEncoding) ∧
      cause = .certificateParse .authority fault
  | chainAbsent => bundle.clientCertificate = none ∧ cause = .missingMaterial .clientCertificate
  | keyAbsent => bundle.clientKey = none ∧ cause = .missingMaterial .clientKey
  | chainUnreadable =>
    (∃ text, bundle.clientCertificate = some text ∧
      ((Pem.read text).undamaged = false ∨
        ∀ item ∈ (Pem.read text).items, item.kind ≠ .certificate)) ∧
      cause = .invalidPem .clientCertificate
  | keyUnreadable =>
    (∃ text, bundle.clientKey = some text ∧
      ∀ item ∈ (Pem.read text).items, KeyForm.ofKind? item.kind = none) ∧
      cause = .invalidPem .clientKey
  | keyUnloadable => (∃ key, bundle.HasKey key ∧ key.load = none) ∧ cause = .privateKeyParse
  | leafMalformed =>
    ∃ leaf fault, bundle.HasLeaf leaf ∧ Certificate.read leaf = .error fault ∧
      cause = .certificateParse .clientCertificate fault
  | keyForeign =>
    (∃ leaf certificate key signingKey, bundle.HasLeaf leaf ∧
      Certificate.read leaf = .ok certificate ∧ bundle.HasKey key ∧ key.load = some signingKey ∧
      certificate.publicKeyInfo ≠ signingKey.publicKeyInfo) ∧ cause = .keyPairMismatch

/-- A fault is not there. -/
def IsAbsent (bundle : Bundle) (fault : BundleFault) : Prop :=
  ∀ cause, ¬ fault.Reports bundle cause

/-- The faults of an authority, in the order in which they are looked for. -/
def ofRoots : List BundleFault := [authorityAbsent, authorityWithoutItem, authorityMalformed]

/-- The faults of an identity, in the order in which they are looked for. -/
def ofIdentity : List BundleFault :=
  [chainAbsent, keyAbsent, chainUnreadable, keyUnreadable, keyUnloadable, leafMalformed, keyForeign]

end BundleFault

/-- The faults of the pieces that a mode requires, in the order in which they are looked for. -/
def TrustMode.faults (mode : TrustMode) : List BundleFault :=
  (if mode.requiresAuthority then BundleFault.ofRoots else []) ++
    if mode.requiresIdentity then BundleFault.ofIdentity else []

/-! ## The first fault -/

section FirstFault

variable {α β : Type} {bundle : Bundle} {cause : TrustError}
variable {fault : BundleFault} {faults later : List BundleFault}

/-- An error reports the first fault of a list that is there. -/
def FirstFault (bundle : Bundle) (faults : List BundleFault) (cause : TrustError) : Prop :=
  ∃ before fault after, faults = before ++ fault :: after ∧ fault.Reports bundle cause ∧
    ∀ earlier ∈ before, earlier.IsAbsent bundle

theorem firstFault_nil : ¬ FirstFault bundle [] cause := by
  rintro ⟨before, fault, after, split, -⟩
  simp at split

theorem firstFault_cons :
    FirstFault bundle (fault :: faults) cause ↔
      fault.Reports bundle cause ∨ fault.IsAbsent bundle ∧ FirstFault bundle faults cause := by
  constructor
  · rintro ⟨before, found, after, split, reports, absent⟩
    cases before with
    | nil =>
        obtain ⟨rfl, -⟩ : fault = found ∧ faults = after := by simpa using split
        exact .inl reports
    | cons first before =>
        obtain ⟨rfl, rfl⟩ : fault = first ∧ faults = before ++ found :: after := by
          simpa using split
        obtain ⟨first, absent⟩ := List.forall_mem_cons.mp absent
        exact .inr ⟨first, before, found, after, rfl, reports, absent⟩
  · rintro (reports | ⟨first, before, found, after, rfl, reports, absent⟩)
    · exact ⟨[], fault, faults, rfl, reports, by simp⟩
    · exact ⟨fault :: before, found, after, rfl, reports, List.forall_mem_cons.mpr ⟨first, absent⟩⟩

theorem firstFault_append :
    FirstFault bundle (faults ++ later) cause ↔
      FirstFault bundle faults cause ∨
        (∀ fault ∈ faults, fault.IsAbsent bundle) ∧ FirstFault bundle later cause := by
  induction faults with
  | nil => simp [firstFault_nil]
  | cons fault faults ih =>
      rw [List.cons_append, firstFault_cons, firstFault_cons, ih, List.forall_mem_cons,
        and_or_left, or_assoc, and_assoc]

/-- Some fault of a list is the first, unless all are absent. -/
theorem forall_isAbsent_iff :
    (∀ fault ∈ faults, fault.IsAbsent bundle) ↔ ∀ cause, ¬ FirstFault bundle faults cause := by
  induction faults with
  | nil => simp [firstFault_nil]
  | cons fault faults ih =>
      simp only [List.forall_mem_cons, ih, firstFault_cons, not_or, not_and]
      constructor
      · rintro ⟨first, rest⟩ cause
        exact ⟨first cause, fun _ => rest cause⟩
      · intro none
        have first : fault.IsAbsent bundle := fun cause => (none cause).1
        exact ⟨first, fun cause => (none cause).2 first⟩

/-! ## Checks and their faults -/

/-- A check fails exactly if one of its faults is there, and reports the first of them. -/
def FailsFirst (bundle : Bundle) (faults : List BundleFault) (check : Except TrustError α) : Prop :=
  ∀ cause, check = .error cause ↔ FirstFault bundle faults cause

theorem failsFirst_ok (value : α) : FailsFirst bundle [] (Except.ok value) := by
  intro cause
  simp [firstFault_nil]

/-- A check fails first for a fault that is there. -/
theorem failsFirst_of_reports {found : TrustError}
    (reports : ∀ cause, fault.Reports bundle cause ↔ cause = found) :
    FailsFirst bundle (fault :: faults) (Except.error found : Except TrustError α) := by
  intro cause
  have present : ¬ fault.IsAbsent bundle := fun absent => absent found ((reports found).mpr rfl)
  rw [firstFault_cons, reports, Except.error.injEq, eq_comm]
  simp [present]

/-- A check never fails for a fault that is not there. -/
theorem FailsFirst.of_isAbsent {check : Except TrustError α}
    (fails : FailsFirst bundle faults check) (absent : fault.IsAbsent bundle) :
    FailsFirst bundle (fault :: faults) check := by
  intro cause
  rw [firstFault_cons, fails cause]
  simp [absent, absent cause]

theorem FailsFirst.isAbsent {check : Except TrustError α} {value : α}
    (fails : FailsFirst bundle faults check) (passed : check = .ok value) :
    ∀ fault ∈ faults, fault.IsAbsent bundle := by
  rw [forall_isAbsent_iff]
  intro cause first
  rw [(fails cause).mpr first] at passed
  cases passed

/-- **A check that follows another has its faults behind those of the other.** -/
theorem FailsFirst.bind {first : Except TrustError α} {next : α → Except TrustError β}
    (firsts : FailsFirst bundle faults first)
    (nexts : ∀ value, first = .ok value → FailsFirst bundle later (next value)) :
    FailsFirst bundle (faults ++ later) (first >>= next) := by
  intro cause
  rw [bind_eq_error_iff, firstFault_append, firsts cause]
  refine or_congr Iff.rfl ⟨?passed, ?absent⟩
  case passed =>
    rintro ⟨value, passed, failed⟩
    exact ⟨firsts.isAbsent passed, (nexts value passed cause).mp failed⟩
  case absent =>
    rintro ⟨absent, found⟩
    cases passed : first with
    | error other => exact absurd ((firsts other).mp passed) (forall_isAbsent_iff.mp absent other)
    | ok value => exact ⟨value, rfl, (nexts value passed cause).mpr found⟩

end FirstFault

/-! ## The links of an assembly -/

section Links

variable {bundle : Bundle} {text : Bytes} {chain : List Bytes} {key : PrivateKey}

theorem failsFirst_requirePiece {material : Material} {fault : BundleFault}
    (reports : ∀ cause, fault.Reports bundle cause ↔
      bundle.get? material = none ∧ cause = .missingMaterial material) :
    FailsFirst bundle [fault] (requirePiece bundle material) := by
  unfold requirePiece
  cases piece : bundle.get? material with
  | none => exact failsFirst_of_reports fun cause => by simp [reports, piece]
  | some text => exact (failsFirst_ok text).of_isAbsent fun cause => by simp [reports, piece]

theorem failsFirst_readTrustRoot (present : bundle.authority = some text) :
    FailsFirst bundle [.authorityWithoutItem, .authorityMalformed] (readTrustRoot text) := by
  unfold readTrustRoot firstCertificate
  cases items : (Pem.read text).items with
  | nil => exact failsFirst_of_reports fun cause => by simp [BundleFault.Reports, present, items]
  | cons item rest =>
      refine FailsFirst.of_isAbsent ?_ fun cause => by simp [BundleFault.Reports, present, items]
      by_cases certificate : item.kind = .certificate
      · simp only [certificate, if_true]
        cases read : TrustAnchor.read item.body with
        | error fault =>
            exact failsFirst_of_reports fun cause => by
              simp [BundleFault.Reports, present, items, certificate, read]
        | ok anchor =>
            exact (failsFirst_ok anchor).of_isAbsent fun cause => by
              simp [BundleFault.Reports, present, items, certificate, read]
      · simp only [certificate, if_false]
        exact failsFirst_of_reports fun cause => by
          simp [BundleFault.Reports, present, items, certificate]

theorem failsFirst_certificateChain (present : bundle.clientCertificate = some text) :
    FailsFirst bundle [.chainUnreadable] (certificateChain text) := by
  have unreadable_iff : ((Pem.read text).undamaged = false ∨
        ∀ item ∈ (Pem.read text).items, item.kind ≠ .certificate) ↔
      ¬ ((Pem.read text).undamaged = true ∧
        ((Pem.read text).items.filter (·.kind = .certificate)).map (·.body) ≠ []) := by
    rw [Classical.not_and_iff_not_or_not]
    simp
  simp only [certificateChain]
  split
  next readable =>
    refine (failsFirst_ok _).of_isAbsent fun cause => ?_
    simp only [BundleFault.Reports, present, Option.some.injEq, exists_eq_left', unreadable_iff]
    simp [readable]
  next unreadable =>
    refine failsFirst_of_reports fun cause => ?_
    simp only [BundleFault.Reports, present, Option.some.injEq, exists_eq_left', unreadable_iff]
    simp only [unreadable, not_false_eq_true, true_and]

theorem failsFirst_firstPrivateKey (present : bundle.clientKey = some text) :
    FailsFirst bundle [.keyUnreadable] (firstPrivateKey text) := by
  have none_iff : (Pem.read text).items.findSome? PrivateKey.ofItem? = none ↔
      ∀ item ∈ (Pem.read text).items, KeyForm.ofKind? item.kind = none := by
    simp [List.findSome?_eq_none_iff, PrivateKey.ofItem?]
  unfold firstPrivateKey
  cases found : (Pem.read text).items.findSome? PrivateKey.ofItem? with
  | none =>
      refine failsFirst_of_reports fun cause => ?_
      simp [BundleFault.Reports, present, ← none_iff, found]
  | some key =>
      refine (failsFirst_ok key).of_isAbsent fun cause => ?_
      simp [BundleFault.Reports, present, ← none_iff, found]

/-- A chain that could be read is not empty, so it has a leaf. -/
theorem hasLeaf_of_certificateChain (present : bundle.clientCertificate = some text)
    (read : certificateChain text = .ok chain) (leaf : Bytes) :
    bundle.HasLeaf leaf ↔ leaf = chain.headD [] := by
  simp only [Bundle.HasLeaf, present, Option.some.injEq]
  have nonempty : chain ≠ [] := by
    simp only [certificateChain] at read
    split at read
    next readable =>
      cases read
      exact readable.2
    next => cases read
  obtain ⟨first, others, rfl⟩ := List.exists_cons_of_ne_nil nonempty
  simp [read, eq_comm]

theorem hasKey_of_firstPrivateKey (present : bundle.clientKey = some text)
    (read : firstPrivateKey text = .ok key) (other : PrivateKey) :
    bundle.HasKey other ↔ other = key := by
  simp [Bundle.HasKey, present, read, eq_comm]

theorem failsFirst_checkKeyPair
    (leaf : ∀ encoded, bundle.HasLeaf encoded ↔ encoded = chain.headD [])
    (stored : ∀ other, bundle.HasKey other ↔ other = key) :
    FailsFirst bundle [.keyUnloadable, .leafMalformed, .keyForeign] (checkKeyPair chain key) := by
  unfold checkKeyPair
  cases loaded : key.load with
  | none => exact failsFirst_of_reports fun cause => by simp [BundleFault.Reports, stored, loaded]
  | some signingKey =>
      refine FailsFirst.of_isAbsent ?_ fun cause => by simp [BundleFault.Reports, stored, loaded]
      cases read : Certificate.read (chain.headD []) with
      | error fault =>
          refine failsFirst_of_reports fun cause => ?_
          simp only [BundleFault.Reports, leaf, exists_and_left, exists_eq_left, read]
          simp
      | ok certificate =>
          refine FailsFirst.of_isAbsent ?_ fun cause => ?absent
          case absent =>
            simp only [BundleFault.Reports, leaf, exists_and_left, exists_eq_left, read]
            simp
          by_cases own : certificate.publicKeyInfo = signingKey.publicKeyInfo
          · simp only [own, if_true]
            refine (failsFirst_ok ()).of_isAbsent fun cause => ?_
            simp only [BundleFault.Reports, leaf, stored, exists_and_left, exists_eq_left, read]
            simp [loaded, own]
          · simp only [own, if_false]
            refine failsFirst_of_reports fun cause => ?_
            simp only [BundleFault.Reports, leaf, stored, exists_and_left, exists_eq_left, read]
            simp [loaded, own]

/-! ## Chains of links -/

theorem failsFirst_suppliedRoots : FailsFirst bundle BundleFault.ofRoots (suppliedRoots bundle) := by
  refine (failsFirst_requirePiece fun _ => Iff.rfl).bind fun text required => ?_
  have present := requirePiece_eq_ok_iff.mp required
  exact (failsFirst_readTrustRoot present).bind fun anchor _ => failsFirst_ok _

theorem failsFirst_bundleIdentity : FailsFirst bundle BundleFault.ofIdentity (bundleIdentity bundle) := by
  refine (failsFirst_requirePiece fun _ => Iff.rfl).bind fun certificates required => ?_
  have chainPresent := requirePiece_eq_ok_iff.mp required
  refine (failsFirst_requirePiece fun _ => Iff.rfl).bind fun keyText required => ?_
  have keyPresent := requirePiece_eq_ok_iff.mp required
  refine (failsFirst_certificateChain chainPresent).bind fun chain readChain => ?_
  refine (failsFirst_firstPrivateKey keyPresent).bind fun key readKey => ?_
  have pair := failsFirst_checkKeyPair (hasLeaf_of_certificateChain chainPresent readChain)
    (hasKey_of_firstPrivateKey keyPresent readKey)
  exact pair.bind fun _ _ => failsFirst_ok _

theorem failsFirst_assemble (mode : TrustMode) :
    FailsFirst bundle mode.faults (assemble mode bundle) := by
  cases mode with
  | unverified | publicRoots => exact failsFirst_ok _
  | publicRootsMutual => exact failsFirst_bundleIdentity.bind fun _ _ => failsFirst_ok _
  | suppliedRoot => exact failsFirst_suppliedRoots.bind fun _ _ => failsFirst_ok _
  | suppliedRootMutual =>
      refine failsFirst_suppliedRoots.bind fun _ _ => ?_
      exact failsFirst_bundleIdentity.bind fun _ _ => failsFirst_ok _

/-- **The first fault decides.** What a mode makes of a bundle depends on no piece that the mode does
not require, and a mode that requires none never fails. An assembly fails exactly if one of the faults
of its mode is there, and its error is that of the first one in their order. So a fault of the
authority hides all faults of the identity, and a private key that is absent is reported even if the
certificate chain cannot be read. -/
theorem first_fault_decides (mode : TrustMode) (bundle : Bundle) :
    (∀ other : Bundle,
      (∀ material, mode.requires material = true →
        other.get? material = bundle.get? material) →
      assemble mode other = assemble mode bundle) ∧
    (mode = .unverified ∨ mode = .publicRoots →
      ∃ configuration, assemble mode bundle = .ok configuration) ∧
    (∀ cause, assemble mode bundle = .error cause ↔ FirstFault bundle mode.faults cause) ∧
    ((∃ cause, assemble mode bundle = .error cause) ↔
      ∃ fault ∈ mode.faults, ∃ cause, fault.Reports bundle cause) ∧
    (mode.requiresAuthority = true →
      ∀ cause, FirstFault bundle BundleFault.ofRoots cause →
        assemble mode bundle = .error cause) ∧
    (mode.requiresIdentity = true →
      (mode.requiresAuthority = true → ∃ roots, suppliedRoots bundle = .ok roots) →
      bundle.clientCertificate ≠ none → bundle.clientKey = none →
        assemble mode bundle = .error (.missingMaterial .clientKey)) := by
  have fails : FailsFirst bundle mode.faults (assemble mode bundle) := failsFirst_assemble mode
  refine ⟨fun other => assemble_congr, ?never, fails, ?some, ?authority, ?key⟩
  case never =>
    rintro (rfl | rfl)
    · exact ⟨.unverified, rfl⟩
    · exact ⟨.verified .publicAuthorities none, rfl⟩
  case some =>
    have none : (∀ fault ∈ mode.faults, fault.IsAbsent bundle) ↔ _ := forall_isAbsent_iff
    simpa [BundleFault.IsAbsent, fails _] using (not_congr none).symm
  case authority =>
    intro required cause first
    rw [fails cause, TrustMode.faults, if_pos required, firstFault_append]
    exact .inl first
  case key =>
    intro required rooted chain key
    rw [fails _, TrustMode.faults, if_pos required, firstFault_append]
    have roots : ∀ fault ∈ if mode.requiresAuthority then BundleFault.ofRoots else [],
        fault.IsAbsent bundle := by
      split
      next authority =>
        obtain ⟨roots, read⟩ := rooted authority
        exact failsFirst_suppliedRoots.isAbsent read
      next => simp
    refine .inr ⟨roots, firstFault_cons.mpr (.inr ⟨?_, firstFault_cons.mpr (.inl ⟨key, rfl⟩)⟩)⟩
    exact fun cause reports => chain reports.1

/-- The text of a certificate of the first version in which all that can be empty is. -/
def emptyAuthority : Bytes :=
  Bytes.ofText ("-----BEGIN CERTIFICATE-----\nMBQwDQIBATAAMAAwADAAMAAwAAMBAA==\n" ++
    "-----END CERTIFICATE-----\n")

theorem anchors_emptyAuthority : Anchors emptyAuthority ⟨[], [], none⟩ := by
  have items : (Pem.read emptyAuthority).items = [⟨.certificate,
      [48, 20, 48, 13, 2, 1, 1, 48, 0, 48, 0, 48, 0, 48, 0, 48, 0, 48, 0, 3, 1, 0]⟩] := by
    decide +kernel
  exact ⟨_, _, items, rfl, rfl⟩

/-- A bundle with an authority, with a text that holds no certificate, and without a private key. -/
theorem first_fault_decides_without_key :
    let bundle : Bundle := { authority := some emptyAuthority, clientCertificate := some [] }
    let other : Bundle := { authority := some emptyAuthority, clientKey := some [0] }
    assemble .suppliedRoot other = assemble .suppliedRoot bundle ∧
      (∃ configuration, assemble .publicRoots bundle = .ok configuration) ∧
      assemble .suppliedRootMutual { bundle with authority := some [] } =
        .error (.invalidPem .authority) ∧
      assemble .suppliedRootMutual bundle = .error (.missingMaterial .clientKey) := by
  intro bundle other
  refine ⟨?alike, ?never, ?hidden, ?key⟩
  case alike =>
    refine (first_fault_decides .suppliedRoot bundle).1 other fun material required => ?_
    cases material with
    | authority => rfl
    | clientCertificate | clientKey => cases required
  case never => exact (first_fault_decides .publicRoots bundle).2.1 (.inr rfl)
  case hidden =>
    refine (first_fault_decides .suppliedRootMutual _).2.2.2.2.1 rfl _ ?_
    exact ⟨[.authorityAbsent], .authorityWithoutItem, _, rfl, ⟨⟨[], rfl, rfl⟩, rfl⟩,
      by simp [BundleFault.IsAbsent, BundleFault.Reports]⟩
  case key =>
    have rooted : ∃ roots, suppliedRoots bundle = .ok roots :=
      ⟨_, suppliedRoots_eq_ok_iff.mpr ⟨_, _, rfl, anchors_emptyAuthority, rfl⟩⟩
    exact (first_fault_decides .suppliedRootMutual bundle).2.2.2.2.2 rfl (fun _ => rooted)
      (by simp [bundle]) rfl

end Links

end HostRoster

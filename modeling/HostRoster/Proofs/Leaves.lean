import HostRoster.Proofs.Items
import HostRoster.Proofs.Selection

/-!
# Identities and their leaves

A client identity is issued for the leaf of its certificate chain, which is the first certificate of
the chain. The certificates behind the leaf are handed on as they are, and none of them is looked
at: chains with the same leaf have the same fate, and a key that belongs to a later certificate is
refused all the same (`leaf_decides`).

Which certificates and which key a text has is said by the items that the text yields
(`CertifiesAs`, `HasFirstKey`), without the reader.
-/

set_option autoImplicit false

namespace HostRoster

/-! ## What a text holds -/

/-- The certificates of an undamaged text, in their order. -/
def CertifiesAs (text : Bytes) (chain : List Bytes) : Prop :=
  ∃ items, Pem.Yields (Pem.lines text) items ∧
    chain = (items.filter (·.kind = .certificate)).map (·.body)

/-- The first private key of a text. There may be damage behind it. -/
def HasFirstKey (text : Bytes) (key : PrivateKey) : Prop :=
  ∃ before after earlier later, Pem.lines text = before ++ after ∧
    Pem.Yields before (earlier ++ ⟨key.form.kind, key.encoded⟩ :: later) ∧
    ∀ item ∈ earlier, KeyForm.ofKind? item.kind = none

section Texts

variable {text : Bytes} {chain : List Bytes} {key : PrivateKey} {item : Pem.Item}

theorem certificateChain_eq_ok_iff :
    certificateChain text = .ok chain ↔ CertifiesAs text chain ∧ chain ≠ [] := by
  have whole_iff : (Pem.read text).undamaged = true ↔
      Pem.Yields (Pem.lines text) (Pem.read text).items := by
    rw [← Pem.read_eq_iff]
    exact ⟨fun whole => by rw [← whole], fun whole => by rw [whole]⟩
  simp only [certificateChain, CertifiesAs]
  constructor
  · intro read
    split at read
    next present =>
      cases read
      exact ⟨⟨_, whole_iff.mp present.1, rfl⟩, present.2⟩
    next => cases read
  · rintro ⟨⟨items, yields, rfl⟩, nonempty⟩
    rw [Pem.read_eq_iff.mpr yields, if_pos ⟨rfl, nonempty⟩]

theorem ofItem?_eq_some_iff :
    PrivateKey.ofItem? item = some key ↔ item = ⟨key.form.kind, key.encoded⟩ := by
  obtain ⟨kind, body⟩ := item
  obtain ⟨form, encoded⟩ := key
  cases kind <;> cases form <;>
    simp [PrivateKey.ofItem?, KeyForm.ofKind?, KeyForm.kind]

theorem firstPrivateKey_eq_ok_iff : firstPrivateKey text = .ok key ↔ HasFirstKey text key := by
  have found_iff : firstPrivateKey text = .ok key ↔
      (Pem.read text).items.findSome? PrivateKey.ofItem? = some key := by
    unfold firstPrivateKey
    cases (Pem.read text).items.findSome? PrivateKey.ofItem? <;> simp
  have none_iff : ∀ item, PrivateKey.ofItem? item = none ↔ KeyForm.ofKind? item.kind = none := by
    simp [PrivateKey.ofItem?]
  rw [found_iff, List.findSome?_eq_some_iff]
  simp only [ofItem?_eq_some_iff, none_iff]
  constructor
  · rintro ⟨earlier, item, later, items, rfl, keyless⟩
    obtain ⟨before, after, split, yields⟩ := Pem.yields_read text
    rw [items] at yields
    exact ⟨before, after, earlier, later, split, yields, keyless⟩
  · rintro ⟨before, after, earlier, later, split, yields, keyless⟩
    refine ⟨earlier, _, later ++ (Pem.readLines none after).items, ?_, rfl, keyless⟩
    rw [Pem.read, split, yields.readLines_append]
    simp

end Texts

/-! ## Keys and leaves -/

namespace PrivateKey

/-- A key can be loaded, and a certificate can be read and has its public half. -/
def BelongsTo (key : PrivateKey) (encoded : Bytes) : Prop :=
  ∃ signing certificate, key.load = some signing ∧ Certificate.read encoded = .ok certificate ∧
    certificate.publicKeyInfo = signing.publicKeyInfo

/-- A key can be loaded, and a certificate can be read and has another public half. -/
def IsForeignTo (key : PrivateKey) (encoded : Bytes) : Prop :=
  ∃ signing certificate, key.load = some signing ∧ Certificate.read encoded = .ok certificate ∧
    certificate.publicKeyInfo ≠ signing.publicKeyInfo

end PrivateKey

section Leaves

variable {certificates other text : Bytes} {leaf : Bytes} {rest others chain : List Bytes}
variable {key : PrivateKey}

theorem checkKeyPair_eq_ok_iff : checkKeyPair (leaf :: rest) key = .ok () ↔ key.BelongsTo leaf := by
  unfold checkKeyPair PrivateKey.BelongsTo
  cases key.load with
  | none => simp
  | some signing =>
      cases read : Certificate.read leaf with
      | error fault => simp [read]
      | ok certificate =>
          by_cases own : certificate.publicKeyInfo = signing.publicKeyInfo <;> simp [read, own]

theorem checkKeyPair_eq_mismatch_iff :
    checkKeyPair (leaf :: rest) key = .error .keyPairMismatch ↔ key.IsForeignTo leaf := by
  unfold checkKeyPair PrivateKey.IsForeignTo
  cases key.load with
  | none => simp
  | some signing =>
      cases read : Certificate.read leaf with
      | error fault => simp [read]
      | ok certificate =>
          by_cases own : certificate.publicKeyInfo = signing.publicKeyInfo <;> simp [read, own]

/-- Nothing but the leaf of a chain is checked. -/
theorem checkKeyPair_congr (leaf : Bytes) (rest others : List Bytes) (key : PrivateKey) :
    checkKeyPair (leaf :: rest) key = checkKeyPair (leaf :: others) key := rfl

theorem readIdentity_of_chain (read : certificateChain certificates = .ok chain) (text : Bytes) :
    readIdentity certificates text = do
      let key ← firstPrivateKey text
      checkKeyPair chain key
      return ⟨chain, key⟩ := by
  rw [readIdentity, read]
  rfl

theorem readIdentity_eq_ok_iff {identity : ClientIdentity} :
    readIdentity certificates text = .ok identity ↔
      CertifiesAs certificates identity.chain ∧ HasFirstKey text identity.key ∧
        ∃ leaf rest, identity.chain = leaf :: rest ∧ identity.key.BelongsTo leaf := by
  simp only [readIdentity, bind_eq_ok_iff, certificateChain_eq_ok_iff, firstPrivateKey_eq_ok_iff,
    pure, Except.pure, Except.ok.injEq]
  constructor
  · rintro ⟨chain, ⟨certifies, nonempty⟩, key, first, ⟨⟩, checked, rfl⟩
    obtain ⟨leaf, rest, rfl⟩ := List.exists_cons_of_ne_nil nonempty
    exact ⟨certifies, first, leaf, rest, rfl, checkKeyPair_eq_ok_iff.mp checked⟩
  · rintro ⟨certifies, first, leaf, rest, chain, belongs⟩
    refine ⟨identity.chain, ⟨certifies, by simp [chain]⟩, identity.key, first, (), ?_, rfl⟩
    rw [chain]
    exact checkKeyPair_eq_ok_iff.mpr belongs

theorem certificateChain_ne_mismatch :
    certificateChain certificates ≠ .error .keyPairMismatch := by
  simp only [certificateChain]
  split <;> simp

theorem firstPrivateKey_ne_mismatch : firstPrivateKey text ≠ .error .keyPairMismatch := by
  unfold firstPrivateKey
  split <;> simp

theorem readIdentity_eq_mismatch_iff :
    readIdentity certificates text = .error .keyPairMismatch ↔
      ∃ leaf rest key, CertifiesAs certificates (leaf :: rest) ∧ HasFirstKey text key ∧
        key.IsForeignTo leaf := by
  simp only [readIdentity, bind_eq_error_iff, certificateChain_ne_mismatch, false_or,
    firstPrivateKey_ne_mismatch, certificateChain_eq_ok_iff, firstPrivateKey_eq_ok_iff, pure,
    Except.pure, reduceCtorEq, and_false, exists_false, or_false]
  constructor
  · rintro ⟨chain, ⟨certifies, nonempty⟩, key, first, mismatch⟩
    obtain ⟨leaf, rest, rfl⟩ := List.exists_cons_of_ne_nil nonempty
    exact ⟨leaf, rest, key, certifies, first, checkKeyPair_eq_mismatch_iff.mp mismatch⟩
  · rintro ⟨leaf, rest, key, certifies, first, foreign⟩
    exact ⟨_, ⟨certifies, by simp⟩, key, first, checkKeyPair_eq_mismatch_iff.mpr foreign⟩

/-- Texts whose chains have the same leaf are paired with a key alike. -/
theorem readIdentity_alike (certifies : CertifiesAs certificates (leaf :: rest))
    (alike : CertifiesAs other (leaf :: others)) (text : Bytes) :
    (∃ key, readIdentity certificates text = .ok ⟨leaf :: rest, key⟩ ∧
      readIdentity other text = .ok ⟨leaf :: others, key⟩) ∨
    ∃ cause, readIdentity certificates text = .error cause ∧
      readIdentity other text = .error cause := by
  have one := readIdentity_of_chain (certificateChain_eq_ok_iff.mpr ⟨certifies, by simp⟩) text
  have two := readIdentity_of_chain (certificateChain_eq_ok_iff.mpr ⟨alike, by simp⟩) text
  rw [one, two]
  cases firstPrivateKey text with
  | error cause => exact .inr ⟨cause, rfl, rfl⟩
  | ok key =>
      cases checked : checkKeyPair (leaf :: rest) key with
      | error cause =>
          refine .inr ⟨cause, ?_, ?_⟩
          · simp only [bind, Except.bind, checked]
          · simp only [bind, Except.bind, checkKeyPair_congr leaf others rest, checked]
      | ok _ =>
          refine .inl ⟨key, ?_, ?_⟩
          · simp only [bind, Except.bind, checked, pure, Except.pure]
          · simp only [bind, Except.bind, checkKeyPair_congr leaf others rest, checked, pure,
              Except.pure]

/-- **Only the leaf decides.** An identity is issued exactly for all certificates of one text and
the first private key of another, if the key can be loaded and its public half is the one of the
first certificate. Texts whose chains begin with the same certificate both give an identity or both
fail for the same reason, whatever else their chains hold. A mismatch is reported exactly if there
are a chain and a key, the key can be loaded, the leaf can be read, and their public halves
differ. -/
theorem leaf_decides :
    (∀ (certificates text : Bytes) (identity : ClientIdentity),
      readIdentity certificates text = .ok identity ↔
        CertifiesAs certificates identity.chain ∧ HasFirstKey text identity.key ∧
          ∃ leaf rest, identity.chain = leaf :: rest ∧ identity.key.BelongsTo leaf) ∧
    (∀ (certificates other text leaf : Bytes) (rest others : List Bytes),
      CertifiesAs certificates (leaf :: rest) → CertifiesAs other (leaf :: others) →
        (∃ key, readIdentity certificates text = .ok ⟨leaf :: rest, key⟩ ∧
          readIdentity other text = .ok ⟨leaf :: others, key⟩) ∨
        ∃ cause, readIdentity certificates text = .error cause ∧
          readIdentity other text = .error cause) ∧
    ∀ certificates text : Bytes,
      readIdentity certificates text = .error .keyPairMismatch ↔
        ∃ leaf rest key, CertifiesAs certificates (leaf :: rest) ∧ HasFirstKey text key ∧
          key.IsForeignTo leaf := by
  refine ⟨fun certificates text identity => readIdentity_eq_ok_iff, ?_, fun certificates text =>
    readIdentity_eq_mismatch_iff⟩
  intro certificates other text leaf rest others certifies alike
  exact readIdentity_alike certifies alike text

theorem load_unitKey : unitKey.load = some unitSigningKey := by
  decide +kernel

theorem exists_read (encoded publicKeyInfo : Bytes)
    (read : (Certificate.read encoded).toOption.map (·.publicKeyInfo) = some publicKeyInfo) :
    ∃ certificate, Certificate.read encoded = .ok certificate ∧
      certificate.publicKeyInfo = publicKeyInfo := by
  cases parsed : Certificate.read encoded with
  | error fault => simp [parsed, Except.toOption] at read
  | ok certificate =>
      rw [parsed] at read
      exact ⟨certificate, rfl, Option.some.inj read⟩

theorem belongsTo_unitCertificate : unitKey.BelongsTo unitCertificate := by
  obtain ⟨-, -, leaf, rest, ⟨⟩, belongs⟩ := readIdentity_eq_ok_iff.mp readIdentity_unitKey
  exact belongs

/-- A key that belongs to the second certificate of a chain is refused as it is without that. -/
theorem leaf_decides_before_own_certificate :
    unitKey.BelongsTo unitCertificate ∧
      readIdentity (chainText [bareCertificate [], unitCertificate]) unitKeyText =
        .error .keyPairMismatch ∧
      readIdentity (chainText [bareCertificate []]) unitKeyText = .error .keyPairMismatch := by
  have both : CertifiesAs (chainText [bareCertificate [], unitCertificate])
      [bareCertificate [], unitCertificate] :=
    ⟨[⟨.certificate, bareCertificate []⟩, ⟨.certificate, unitCertificate⟩],
      Pem.read_eq_iff.mp (by decide +kernel), rfl⟩
  have leafAlone : CertifiesAs (chainText [bareCertificate []]) [bareCertificate []] :=
    ⟨[⟨.certificate, bareCertificate []⟩], Pem.read_eq_iff.mp (by decide +kernel), rfl⟩
  have key : HasFirstKey unitKeyText unitKey :=
    (readIdentity_eq_ok_iff.mp readIdentity_unitKey).2.1
  obtain ⟨leaf, readLeaf, keyless⟩ :=
    exists_read (bareCertificate []) [] (by decide +kernel)
  have foreign : unitKey.IsForeignTo (bareCertificate []) :=
    ⟨_, leaf, load_unitKey, readLeaf, by rw [keyless]; decide +kernel⟩
  have refused := (leaf_decides.2.2 _ _).mpr ⟨_, _, _, both, key, foreign⟩
  refine ⟨belongsTo_unitCertificate, refused, ?_⟩
  rcases leaf_decides.2.1 _ _ unitKeyText _ _ _ both leafAlone with
    ⟨_, issued, -⟩ | ⟨cause, failed, alike⟩
  · rw [refused] at issued
    cases issued
  · rw [refused] at failed
    cases failed
    exact alike

end Leaves

end HostRoster

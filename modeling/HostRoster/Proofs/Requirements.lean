import HostRoster.Cluster.Session
import HostRoster.Proofs.Assembling
import HostRoster.Proofs.Loading
import HostRoster.Watch.Channel

/-!
# Valid settings can be used

What a trust mode requires is said in several places: the validation looks at the paths, the loading
of a bundle at the files, and the assembly at the pieces of the bundle. A piece is in the bundle
exactly if its path is in the settings (`TlsSettings.get?_of_loadBundle`), so that a piece that an
assembly misses has been reported as a violation, and a violation makes every assembly fail
(`Settings.requirements_agree`).
-/

set_option autoImplicit false

namespace HostRoster

/-! ## Pieces that are missing -/

section Missing

variable {mode : TrustMode} {bundle : Bundle} {missing : Material} {text key : Bytes}

/-- Reading an authority can fail, but not for want of a piece. -/
theorem readTrustRoot_ne_missing : readTrustRoot text ≠ .error (.missingMaterial missing) := by
  unfold readTrustRoot firstCertificate
  cases (Pem.read text).items with
  | nil => simp
  | cons item rest =>
      by_cases certificate : item.kind = .certificate
      · cases read : TrustAnchor.read item.body <;> simp [certificate, read]
      · simp [certificate]

theorem checkKeyPair_ne_missing {chain : List Bytes} {stored : PrivateKey} :
    checkKeyPair chain stored ≠ .error (.missingMaterial missing) := by
  unfold checkKeyPair
  split
  · simp
  · split
    · simp
    · split <;> simp

/-- Reading an identity can fail, but not for want of a piece. -/
theorem readIdentity_ne_missing : readIdentity text key ≠ .error (.missingMaterial missing) := by
  intro failed
  simp only [readIdentity, bind_eq_error_iff, pure, Except.pure, reduceCtorEq, and_false, or_false,
    exists_false] at failed
  rcases failed with chain | ⟨chain, -, stored | ⟨stored, -, check⟩⟩
  · simp only [certificateChain] at chain
    split at chain <;> simp at chain
  · unfold firstPrivateKey at stored
    split at stored <;> simp at stored
  · exact checkKeyPair_ne_missing check

theorem suppliedRoots_missing
    (failed : suppliedRoots bundle = .error (.missingMaterial missing)) :
    missing = .authority ∧ bundle.authority = none := by
  simp only [suppliedRoots, bind_eq_error_iff, requirePiece_eq_error_iff, pure, Except.pure,
    reduceCtorEq, and_false, or_false, exists_false] at failed
  rcases failed with ⟨absent, same⟩ | ⟨text, -, unread⟩
  · cases same
    exact ⟨rfl, absent⟩
  · exact absurd unread readTrustRoot_ne_missing

theorem bundleIdentity_missing
    (failed : bundleIdentity bundle = .error (.missingMaterial missing)) :
    (missing = .clientCertificate ∨ missing = .clientKey) ∧ bundle.get? missing = none := by
  simp only [bundleIdentity, bind_eq_error_iff, requirePiece_eq_error_iff] at failed
  rcases failed with ⟨absent, same⟩ | ⟨text, -, ⟨absent, same⟩ | ⟨key, -, unread⟩⟩
  · cases same
    exact ⟨.inl rfl, absent⟩
  · cases same
    exact ⟨.inr rfl, absent⟩
  · exact absurd unread readIdentity_ne_missing

/-- **What an assembly misses is a piece that the mode requires and the bundle lacks.** -/
theorem requires_of_missing
    (failed : assemble mode bundle = .error (.missingMaterial missing)) :
    mode.requires missing = true ∧ bundle.get? missing = none := by
  by_cases verifies : mode = .unverified
  · subst verifies
    cases failed
  · rw [assemble_eq verifies] at failed
    simp only [bind_eq_error_iff, pure, Except.pure, reduceCtorEq, and_false, or_false,
      exists_false] at failed
    rcases failed with rooted | ⟨roots, -, identified⟩
    · unfold rootsFor at rooted
      split at rooted
      next required =>
        obtain ⟨rfl, absent⟩ := suppliedRoots_missing rooted
        exact ⟨required, absent⟩
      next => cases rooted
    · unfold identityFor at identified
      split at identified
      next required =>
        have failed : bundleIdentity bundle = .error (.missingMaterial missing) := by
          cases read : bundleIdentity bundle with
          | error cause => simpa [read, Except.map] using identified
          | ok identity => simp [read, Except.map] at identified
        obtain ⟨rfl | rfl, absent⟩ := bundleIdentity_missing failed
        · exact ⟨required, absent⟩
        · exact ⟨required, absent⟩
      next => cases identified

/-- **An assembly fails if the bundle lacks a piece that the mode requires**, though perhaps for
another reason. -/
theorem assemble_fails {material : Material} (required : mode.requires material = true)
    (absent : bundle.get? material = none) : ∃ cause, assemble mode bundle = .error cause := by
  cases result : assemble mode bundle with
  | error cause => exact ⟨cause, rfl⟩
  | ok configuration =>
      -- It would serve its mode, and so have been made of a piece that is not there.
      have serves := serves_of_assemble result
      exfalso
      cases material with
      | authority =>
          obtain ⟨anchors, supplied⟩ := serves.supplied.mpr required
          obtain ⟨text, -, present, -⟩ := serves.anchored anchors supplied
          rw [Bundle.get?, present] at absent
          cases absent
      | clientCertificate | clientKey =>
          obtain ⟨identity, presented⟩ :=
            Option.isSome_iff_exists.mp (serves.identified.trans required)
          have read := serves.presented identity presented
          simp only [bundleIdentity, bind_eq_ok_iff, requirePiece_eq_ok_iff] at read
          obtain ⟨certificates, held, key, kept, -⟩ := read
          simp_all

end Missing

/-! ## Paths and pieces -/

/-- The path of the file of a piece. -/
def TlsSettings.path? (settings : TlsSettings) : Material → Option String
  | .authority => settings.authorityPath
  | .clientCertificate => settings.certificatePath
  | .clientKey => settings.keyPath

theorem Bundle.isSome_of_readPiece {reader : FileReader} {material : Material}
    {path : Option String} {piece : Option Bytes}
    (read : readPiece reader material path = .ok piece) : piece.isSome = path.isSome := by
  unfold readPiece at read
  split at read
  · cases read
    rfl
  · split at read
    · cases read
      rfl
    · cases read

/-- A bundle that could be loaded has exactly the pieces whose paths are given. -/
theorem TlsSettings.get?_of_loadBundle {settings : TlsSettings} {reader : FileReader}
    {bundle : Bundle} (loaded : settings.loadBundle reader = .ok bundle) (material : Material) :
    bundle.get? material = none ↔ settings.path? material = none := by
  simp only [loadBundle, Bundle.ofFiles, bind_eq_ok_iff, pure, Except.pure,
    Except.ok.injEq] at loaded
  obtain ⟨authority, first, certificate, second, key, third, rfl⟩ := loaded
  rw [← Option.isNone_iff_eq_none, ← Option.isNone_iff_eq_none, ← Option.not_isSome,
    ← Option.not_isSome]
  cases material with
  | authority => rw [Bundle.get?, path?, Bundle.isSome_of_readPiece first]
  | clientCertificate => rw [Bundle.get?, path?, Bundle.isSome_of_readPiece second]
  | clientKey => rw [Bundle.get?, path?, Bundle.isSome_of_readPiece third]

/-! ## Violations -/

namespace Settings

variable {settings : Settings} {mode : TrustMode}

theorem missing_mem_violations_iff :
    (.missingAuthorityPath mode ∈ settings.violations ↔
      TrustMode.ofSelector? settings.tls.mode = some mode ∧ mode.requiresAuthority = true ∧
        settings.tls.authorityPath = none) ∧
    (.missingIdentityPaths mode ∈ settings.violations ↔
      TrustMode.ofSelector? settings.tls.mode = some mode ∧ mode.requiresIdentity = true ∧
        (settings.tls.certificatePath = none ∨ settings.tls.keyPath = none)) := by
  -- Neither the watcher nor the log can be blamed for a missing path.
  have elsewhere (violation : Violation)
      (other : violation = .missingAuthorityPath mode ∨ violation = .missingIdentityPaths mode) :
      violation ∈ settings.violations ↔ violation ∈ settings.tls.violations := by
    have outside : violation ∉ settings.watcher.violations ∧
        violation ∉ settings.observability.violations := by
      unfold WatcherSettings.violations ObservabilitySettings.violations
      rcases other with rfl | rfl <;> constructor <;> simp
    simp [Settings.violations, outside]
  rw [elsewhere _ (.inl rfl), elsewhere _ (.inr rfl), TlsSettings.violations]
  cases TrustMode.ofSelector? settings.tls.mode with
  | none => simp
  | some named =>
      by_cases same : named = mode
      · subst same
        constructor <;> simp
      · constructor <;> simp [same, Ne.symm same]

/-- A selector that names no mode is no violation, and stands for the mode that requires nothing. -/
theorem lenient_of_unknown (unknown : TrustMode.ofSelector? settings.tls.mode = none) :
    settings.tls.violations = [] ∧ settings.tls.trustMode.1 = .unverified := by
  constructor
  · rw [TlsSettings.violations, unknown]
  · rw [TlsSettings.trustMode, unknown]

theorem trustMode_of_named (named : TrustMode.ofSelector? settings.tls.mode = some mode) :
    settings.tls.trustMode.1 = mode := by
  rw [TlsSettings.trustMode, named]

/-- A mode that requires something is named by its selector. -/
theorem named_of_requires {material : Material}
    (required : settings.tls.trustMode.1.requires material = true) :
    TrustMode.ofSelector? settings.tls.mode = some settings.tls.trustMode.1 := by
  cases named : TrustMode.ofSelector? settings.tls.mode with
  | some mode => rw [trustMode_of_named named]
  | none =>
      rw [(lenient_of_unknown named).2] at required
      cases material <;> cases required

/-- Settings are loaded only if there is nothing wrong with them. -/
theorem violations_of_load {reader : FileReader} {path : String}
    (loaded : Settings.load reader path = .ok settings) : settings.violations = [] := by
  obtain ⟨_, _, _, -, -, -, -, valid⟩ := load_eq_ok_iff.mp loaded
  exact valid

theorem namespaceName_of_load {reader : FileReader} {path : String}
    (loaded : Settings.load reader path = .ok settings) : settings.watcher.namespaceName ≠ "" := by
  intro unnamed
  have reported : .emptyNamespace ∈ settings.violations := by
    simp [Settings.violations, WatcherSettings.violations, unnamed]
  rw [violations_of_load loaded] at reported
  cases reported

section Loaded

variable {reader : FileReader} {bundle : Bundle}

/-- A piece that an assembly misses has been reported. -/
theorem violation_of_missing (loaded : settings.tls.loadBundle reader = .ok bundle)
    {missing : Material}
    (failed : assemble settings.tls.trustMode.1 bundle = .error (.missingMaterial missing)) :
    (missing = .authority ∧ .missingAuthorityPath settings.tls.trustMode.1 ∈ settings.violations) ∨
      (missing ≠ .authority ∧
        .missingIdentityPaths settings.tls.trustMode.1 ∈ settings.violations) := by
  obtain ⟨required, absent⟩ := requires_of_missing failed
  have named := named_of_requires required
  have pathless := (TlsSettings.get?_of_loadBundle loaded missing).mp absent
  cases missing with
  | authority => exact .inl ⟨rfl, missing_mem_violations_iff.1.mpr ⟨named, required, pathless⟩⟩
  | clientCertificate =>
      exact .inr ⟨by simp, missing_mem_violations_iff.2.mpr ⟨named, required, .inl pathless⟩⟩
  | clientKey =>
      exact .inr ⟨by simp, missing_mem_violations_iff.2.mpr ⟨named, required, .inr pathless⟩⟩

/-- A piece that has been reported makes every assembly fail. -/
theorem assemble_fails_of_violation (loaded : settings.tls.loadBundle reader = .ok bundle)
    (reported : .missingAuthorityPath mode ∈ settings.violations ∨
      .missingIdentityPaths mode ∈ settings.violations) :
    mode = settings.tls.trustMode.1 ∧
      ∃ cause, assemble settings.tls.trustMode.1 bundle = .error cause := by
  have lacks (material : Material) := TlsSettings.get?_of_loadBundle loaded material
  rcases reported with reported | reported
  · obtain ⟨named, required, pathless⟩ := missing_mem_violations_iff.1.mp reported
    obtain rfl := trustMode_of_named named
    have absent := (lacks .authority).mpr pathless
    exact ⟨rfl, assemble_fails (show TrustMode.requires _ .authority = true from required) absent⟩
  · obtain ⟨named, required, pathless⟩ := missing_mem_violations_iff.2.mp reported
    obtain rfl := trustMode_of_named named
    have requires : settings.tls.trustMode.1.requires .clientCertificate = true ∧
        settings.tls.trustMode.1.requires .clientKey = true := ⟨required, required⟩
    refine ⟨rfl, ?_⟩
    rcases pathless with certificate | key
    · exact assemble_fails requires.1 ((lacks .clientCertificate).mpr certificate)
    · exact assemble_fails requires.2 ((lacks .clientKey).mpr key)

end Loaded

/-! ## Namespaces -/

/-- A source that nobody has registered with accepts every namespace with a name. -/
theorem register_fresh {Handler : Type} {held : Option (Registration Handler)}
    (fresh : held = none) {namespaceName : String} (named : namespaceName ≠ "")
    (handler : Handler) :
    Registration.register held namespaceName handler = .ok ⟨namespaceName, handler⟩ := by
  rw [Registration.register, if_neg named, fresh]
  rfl

theorem setUp_ok {Source : Type} [WatchSource Source] {namespaceName : String}
    {source registered : Source}
    (accepted : WatchSource.register namespaceName source = .ok registered) :
    (Session.setUp namespaceName source).2 = none := by
  rw [Session.setUp, accepted]

/-- **The validation of settings and their later use agree.** For a bundle loaded from the paths of
settings, an assembly that misses a piece has been reported as the violation that tells of it, for
the mode in use; and whenever one of these violations is reported, the assembly fails, though an
earlier error may hide which piece is missing. Settings that have been loaded never miss a piece,
whatever the files hold by then, and their namespace is accepted by every source that nobody has
registered with. A selector that names no mode is no violation, and nothing is required for it. -/
theorem requirements_agree :
    (∀ (settings : Settings) (reader : FileReader) (bundle : Bundle),
      settings.tls.loadBundle reader = .ok bundle →
      let mode := settings.tls.trustMode.1
      (assemble mode bundle = .error (.missingMaterial .authority) →
        .missingAuthorityPath mode ∈ settings.violations) ∧
      (assemble mode bundle = .error (.missingMaterial .clientCertificate) ∨
          assemble mode bundle = .error (.missingMaterial .clientKey) →
        .missingIdentityPaths mode ∈ settings.violations) ∧
      ∀ reported, .missingAuthorityPath reported ∈ settings.violations ∨
          .missingIdentityPaths reported ∈ settings.violations →
        reported = mode ∧ ∃ cause, assemble mode bundle = .error cause) ∧
    (∀ (reader : FileReader) (path : String) (settings : Settings),
      Settings.load reader path = .ok settings →
      (∀ (later : FileReader) (bundle : Bundle), settings.tls.loadBundle later = .ok bundle →
        ∀ missing, assemble settings.tls.trustMode.1 bundle ≠ .error (.missingMaterial missing)) ∧
      (∀ source : ChannelSource Unit, source.registration = none →
        (Session.setUp settings.watcher.namespaceName source).2 = none) ∧
      ∀ source : ClusterSource Unit, source.registration = none →
        (Session.setUp settings.watcher.namespaceName source).2 = none) ∧
    ∀ settings : Settings, TrustMode.ofSelector? settings.tls.mode = none →
      settings.tls.violations = [] ∧ settings.tls.trustMode.1 = .unverified ∧
        ∀ bundle, assemble settings.tls.trustMode.1 bundle = .ok .unverified := by
  refine ⟨fun settings reader bundle loaded => ⟨?authority, ?identity, ?reported⟩,
    fun reader path settings loaded => ⟨?complete, ?channel, ?cluster⟩, ?unknown⟩
  case authority =>
    intro failed
    rcases violation_of_missing loaded failed with ⟨-, reported⟩ | ⟨other, -⟩
    · exact reported
    · exact absurd rfl other
  case identity =>
    rintro (failed | failed) <;>
    · rcases violation_of_missing loaded failed with ⟨⟨⟩, -⟩ | ⟨-, reported⟩
      exact reported
  case reported => exact fun reported => assemble_fails_of_violation loaded
  case complete =>
    intro later bundle there missing failed
    rcases violation_of_missing there failed with ⟨-, reported⟩ | ⟨-, reported⟩ <;>
    · rw [violations_of_load loaded] at reported
      cases reported
  case channel =>
    intro source fresh
    have accepted := register_fresh fresh (namespaceName_of_load loaded) ()
    exact setUp_ok (congrArg (Except.map _) accepted)
  case cluster =>
    intro source fresh
    have accepted := register_fresh fresh (namespaceName_of_load loaded) ()
    exact setUp_ok (congrArg (Except.map _) accepted)
  case unknown =>
    intro settings unknown
    obtain ⟨valid, unverified⟩ := lenient_of_unknown unknown
    refine ⟨valid, unverified, fun bundle => ?_⟩
    rw [unverified]
    rfl

/-- Settings for a mode that requires both an authority and an identity, with paths for all but the
private key, over files that hold nothing: the violation is reported, and the assembly fails at the
authority before it comes to the key. The settings of an empty file can be used. -/
theorem requirements_agree_without_key :
    let tls : TlsSettings :=
      { mode := "ss-mtls", authorityPath := some "ca.pem", certificatePath := some "client.pem" }
    let settings : Settings := { tls }
    let reader : FileReader := fun _ => .ok []
    let bundle : Bundle := { authority := some [], clientCertificate := some [] }
    settings.tls.loadBundle reader = .ok bundle ∧
      .missingIdentityPaths .suppliedRootMutual ∈ settings.violations ∧
      (∃ cause, assemble .suppliedRootMutual bundle = .error cause) ∧
      Settings.load reader "settings.toml" = .ok {} ∧
      (Session.setUp "nkl" ({} : ChannelSource Unit)).2 = none := by
  intro tls settings reader bundle
  have loaded : settings.tls.loadBundle reader = .ok bundle := rfl
  have reported : .missingIdentityPaths .suppliedRootMutual ∈ settings.violations := by decide
  have fails := (requirements_agree.1 settings reader bundle loaded).2.2 _ (.inr reported)
  have defaults : Settings.load reader "settings.toml" = .ok {} := rfl
  have accepted := (requirements_agree.2.1 reader "settings.toml" {} defaults).2.1 {} rfl
  exact ⟨loaded, reported, fails.2, defaults, accepted⟩

end Settings

end HostRoster

import HostRoster.Proofs.Assembling
import HostRoster.Settings.Validation

/-!
# What is wrong with settings

Six conditions make settings invalid (`Settings.Violated`). The validation lists those that hold and
no others, each once and in their order (`Settings.mem_violations_iff`,
`Settings.violations_ordered`), so that none hides another.
-/

set_option autoImplicit false

namespace HostRoster

/-- The place of a violation among the kinds of violations. -/
def Violation.place : Violation → Nat
  | .emptyNamespace => 0
  | .zeroBase => 1
  | .baseExceedsMax _ _ => 2
  | .missingAuthorityPath _ => 3
  | .missingIdentityPaths _ => 4
  | .unknownLogFormat _ => 5

namespace Settings

/-- The conditions that settings can violate. What a trust mode requires counts for the mode that
the settings name. -/
inductive Violated (settings : Settings) : Violation → Prop where
  | emptyNamespace (empty : settings.watcher.namespaceName = "") : Violated settings .emptyNamespace
  | zeroBase (zero : settings.watcher.retry.baseMilliseconds = 0) : Violated settings .zeroBase
  | baseExceedsMax
      (exceeds : settings.watcher.retry.maxMilliseconds < settings.watcher.retry.baseMilliseconds) :
      Violated settings (.baseExceedsMax settings.watcher.retry.baseMilliseconds
        settings.watcher.retry.maxMilliseconds)
  | missingAuthorityPath {mode : TrustMode} (named : mode.selector = settings.tls.mode)
      (required : mode.requiresAuthority = true) (pathless : settings.tls.authorityPath = none) :
      Violated settings (.missingAuthorityPath mode)
  | missingIdentityPaths {mode : TrustMode} (named : mode.selector = settings.tls.mode)
      (required : mode.requiresIdentity = true)
      (pathless : settings.tls.certificatePath = none ∨ settings.tls.keyPath = none) :
      Violated settings (.missingIdentityPaths mode)
  | unknownLogFormat (notPretty : settings.observability.logFormat ≠ "pretty")
      (notJson : settings.observability.logFormat ≠ "json") :
      Violated settings (.unknownLogFormat settings.observability.logFormat)

variable {settings : Settings} {violation : Violation}

theorem mem_watcher_violations_iff {watcher : WatcherSettings} :
    violation ∈ watcher.violations ↔
      (watcher.namespaceName = "" ∧ violation = .emptyNamespace) ∨
        (watcher.retry.baseMilliseconds = 0 ∧ violation = .zeroBase) ∨
          (watcher.retry.maxMilliseconds < watcher.retry.baseMilliseconds ∧
            violation =
              .baseExceedsMax watcher.retry.baseMilliseconds watcher.retry.maxMilliseconds) := by
  simp only [WatcherSettings.violations, List.mem_append, List.mem_ite_nil_right,
    List.mem_singleton, or_assoc]

theorem mem_tls_violations_iff {tls : TlsSettings} :
    violation ∈ tls.violations ↔
      ∃ mode : TrustMode, mode.selector = tls.mode ∧
        ((mode.requiresAuthority = true ∧ tls.authorityPath = none ∧
            violation = .missingAuthorityPath mode) ∨
          (mode.requiresIdentity = true ∧ (tls.certificatePath = none ∨ tls.keyPath = none) ∧
            violation = .missingIdentityPaths mode)) := by
  simp only [← TrustMode.ofSelector?_eq_some_iff, TlsSettings.violations]
  cases TrustMode.ofSelector? tls.mode with
  | none => simp
  | some mode =>
      simp only [List.mem_append, List.mem_ite_nil_right, List.mem_singleton, Bool.and_eq_true,
        Bool.or_eq_true, Option.isNone_iff_eq_none, Option.some.injEq, exists_eq_left', and_assoc]

theorem mem_observability_violations_iff {observability : ObservabilitySettings} :
    violation ∈ observability.violations ↔
      (observability.logFormat ≠ "pretty" ∧ observability.logFormat ≠ "json") ∧
        violation = .unknownLogFormat observability.logFormat := by
  simp only [ObservabilitySettings.violations, knownLogFormats, List.mem_ite_nil_left,
    List.mem_cons, List.not_mem_nil, or_false, not_or, ne_eq]

/-- **The violations are the conditions that are violated.** -/
theorem mem_violations_iff : violation ∈ settings.violations ↔ settings.Violated violation := by
  rw [violations, List.mem_append, List.mem_append, mem_watcher_violations_iff,
    mem_tls_violations_iff, mem_observability_violations_iff]
  constructor
  · rintro (((⟨empty, rfl⟩ | ⟨zero, rfl⟩ | ⟨exceeds, rfl⟩) |
      ⟨mode, named, ⟨required, pathless, rfl⟩ | ⟨required, pathless, rfl⟩⟩) |
      ⟨⟨notPretty, notJson⟩, rfl⟩)
    · exact .emptyNamespace empty
    · exact .zeroBase zero
    · exact .baseExceedsMax exceeds
    · exact .missingAuthorityPath named required pathless
    · exact .missingIdentityPaths named required pathless
    · exact .unknownLogFormat notPretty notJson
  · intro violated
    cases violated with
    | emptyNamespace empty => exact .inl (.inl (.inl ⟨empty, rfl⟩))
    | zeroBase zero => exact .inl (.inl (.inr (.inl ⟨zero, rfl⟩)))
    | baseExceedsMax exceeds => exact .inl (.inl (.inr (.inr ⟨exceeds, rfl⟩)))
    | missingAuthorityPath named required pathless =>
        exact .inl (.inr ⟨_, named, .inl ⟨required, pathless, rfl⟩⟩)
    | missingIdentityPaths named required pathless =>
        exact .inl (.inr ⟨_, named, .inr ⟨required, pathless, rfl⟩⟩)
    | unknownLogFormat notPretty notJson => exact .inr ⟨⟨notPretty, notJson⟩, rfl⟩

/-! ## The order -/

/-- What is listed on a condition has the place of its kind, or none. -/
theorem places_ite (condition : Prop) [Decidable condition] (violation : Violation) :
    ((if condition then [violation] else []).map Violation.place).Sublist [violation.place] := by
  by_cases holds : condition
  · rw [if_pos holds]
    exact List.Sublist.refl _
  · rw [if_neg holds]
    exact List.nil_sublist _

theorem places_sublist (settings : Settings) :
    (settings.violations.map Violation.place).Sublist (List.range 6) := by
  -- Each part of the settings has its own places, those of the earlier part first.
  have watcher : (settings.watcher.violations.map Violation.place).Sublist [0, 1, 2] := by
    rw [WatcherSettings.violations, List.map_append, List.map_append]
    exact ((places_ite _ _).append (places_ite _ _)).append (places_ite _ _)
  have tls : (settings.tls.violations.map Violation.place).Sublist [3, 4] := by
    rw [TlsSettings.violations]
    cases TrustMode.ofSelector? settings.tls.mode with
    | none => exact List.nil_sublist _
    | some mode =>
        rw [List.map_append]
        exact (places_ite _ _).append (places_ite _ _)
  have observability :
      (settings.observability.violations.map Violation.place).Sublist [5] := by
    rw [ObservabilitySettings.violations, ← ite_not]
    exact places_ite _ _
  rw [violations, List.map_append, List.map_append]
  exact (watcher.append tls).append observability

/-- **The violations are in order**, and no kind of violation is listed twice. -/
theorem violations_ordered (settings : Settings) :
    settings.violations.Pairwise fun earlier later => earlier.place < later.place :=
  List.pairwise_map.mp (List.pairwise_lt_range.sublist (places_sublist settings))

end Settings

end HostRoster

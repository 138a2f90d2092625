import HostRoster.Proofs.SignedWords
import HostRoster.Settings.Loading

/-!
# Settings that have been loaded

Settings are loaded from the document of a TOML text, and only if nothing is wrong with them
(`Settings.load_eq_ok_iff`).

Their delays are whole numbers of the document, or defaults. So they lie below half the range of
words, besides being in order (`Settings.delays_of_load`).
-/

set_option autoImplicit false

namespace HostRoster

/-- Settings are loaded if there is a text in the file, a document in the text and settings in the
document, and nothing is wrong with them. -/
theorem Settings.load_eq_ok_iff {reader : FileReader} {path : String} {settings : Settings} :
    Settings.load reader path = .ok settings ↔
      ∃ content text document, reader path = .ok content ∧ Bytes.text? content = some text ∧
        Toml.read text = some document ∧ Settings.ofDocument .toml document = .ok settings ∧
        settings.violations = [] := by
  constructor
  · intro loaded
    unfold load ofText at loaded
    split at loaded
    next => cases loaded
    next content found =>
      split at loaded
      next => cases loaded
      next text decoded =>
        split at loaded
        next => cases loaded
        next document parsed =>
          split at loaded
          next => cases loaded
          next read =>
            split at loaded
            next valid =>
              cases loaded
              exact ⟨content, text, document, found, decoded, parsed, read, valid⟩
            next => cases loaded
  · rintro ⟨content, text, document, found, decoded, parsed, read, valid⟩
    simp only [load, ofText, found, decoded, parsed, read, valid, if_true]

/-! ## Delays -/

/-- Both delays are below half the range of words. -/
def RetrySettings.InSignedWords (retry : RetrySettings) : Prop :=
  retry.baseMilliseconds < Nat.pow 2 63 ∧ retry.maxMilliseconds < Nat.pow 2 63

theorem RetrySettings.inSignedWords_default : ({} : RetrySettings).InSignedWords :=
  ⟨by decide, by decide⟩

theorem RetrySettings.fields_keep :
    ∀ field ∈ fields, field.Keeps Document.OfSignedWords InSignedWords := by
  simp only [fields, List.forall_mem_cons, List.not_mem_nil, false_implies, implies_true, and_true]
  refine ⟨?_, ?_, ?_⟩ <;> intro value record result fits holds set <;>
    obtain ⟨found, read, rfl⟩ := map_eq_ok_iff.mp set
  · exact holds
  · exact ⟨fits.asWord read, holds.2⟩
  · exact ⟨holds.1, fits.asWord read⟩

theorem WatcherSettings.fields_keep (dialect : Dialect) :
    ∀ field ∈ fields dialect, field.Keeps Document.OfSignedWords (·.retry.InSignedWords) := by
  simp only [fields, List.forall_mem_cons, List.not_mem_nil, false_implies, implies_true, and_true]
  refine ⟨?_, ?_⟩ <;> intro value record result fits holds set <;>
    obtain ⟨found, read, rfl⟩ := map_eq_ok_iff.mp set
  · exact holds
  · exact readRecord_keeps RetrySettings.fields_keep RetrySettings.inSignedWords_default fits.parts
      read

theorem Settings.fields_keep (dialect : Dialect) :
    ∀ field ∈ fields dialect,
      field.Keeps Document.OfSignedWords (·.watcher.retry.InSignedWords) := by
  have start : ({} : WatcherSettings).retry.InSignedWords := RetrySettings.inSignedWords_default
  simp only [fields, List.forall_mem_cons, List.not_mem_nil, false_implies, implies_true, and_true]
  refine ⟨?_, ?_, ?_⟩ <;> intro value record result fits holds set <;>
    obtain ⟨found, read, rfl⟩ := map_eq_ok_iff.mp set
  · have kept := readRecord_keeps (WatcherSettings.fields_keep dialect) start fits.parts read
    exact kept
  · exact holds
  · exact holds

/-- **The delays of loaded settings are in order**: the first is not zero and not longer than the
longest, which is below half the range of words. -/
theorem Settings.delays_of_load {reader : FileReader} {path : String} {settings : Settings}
    (loaded : Settings.load reader path = .ok settings) :
    0 < settings.watcher.retry.baseMilliseconds ∧
      settings.watcher.retry.baseMilliseconds ≤ settings.watcher.retry.maxMilliseconds ∧
      settings.watcher.retry.maxMilliseconds < Nat.pow 2 63 := by
  obtain ⟨content, text, document, -, -, parsed, read, valid⟩ := load_eq_ok_iff.mp loaded
  have start : ({} : Settings).watcher.retry.InSignedWords := RetrySettings.inSignedWords_default
  have fits := Toml.ofSignedWords_read parsed
  have kept := readRecord_keeps (fields_keep .toml) start fits.parts read
  simp only [violations, WatcherSettings.violations, List.append_eq_nil_iff] at valid
  obtain ⟨⟨⟨⟨-, base⟩, ordered⟩, -⟩, -⟩ := valid
  refine ⟨?_, ?_, kept.2⟩
  · by_contra zero
    rw [if_pos (by omega)] at base
    cases base
  · by_contra longer
    rw [if_pos (by omega)] at ordered
    cases ordered

end HostRoster

import HostRoster.HostList
import Mathlib.Data.Set.Function

/-!
# Written host lists

A text is taken apart at its commas, and hosts without commas are put together with commas between
them. The two undo each other, on all texts and on all lists of hosts that are not empty
(`parseHosts_bijective`). So nothing of a text is lost, added or moved, be it a blank, an empty host
or a host that is there twice.

Taking apart is the splitting of lists at one element (`splitAtCommas_eq_splitOn`), and what the two
directions need of that is known of lists.
-/

set_option autoImplicit false

namespace HostRoster

/-! ## Characters -/

theorem splitAtCommas_eq_splitOn (text : List Char) : splitAtCommas text = text.splitOn ',' := by
  induction text with
  | nil => rfl
  | cons c text ih =>
      rw [splitAtCommas, List.splitOn_cons_eq_if_modifyHead, ih]
      by_cases comma : c = ','
      · rw [if_pos comma, if_pos (beq_iff_eq.mpr comma)]
      · rw [if_neg comma, if_neg (mt beq_iff_eq.mp comma)]
        -- Any other character goes to the first piece, and there always is one.
        cases split : text.splitOn ',' with
        | nil => exact absurd split (List.splitOn_ne_nil ',' text)
        | cons piece pieces => rfl

/-- No piece has a comma, and there is one piece more than there are commas. -/
theorem splitAtCommas_pieces (text : List Char) :
    (∀ piece ∈ splitAtCommas text, ',' ∉ piece) ∧
      (splitAtCommas text).length = text.count ',' + 1 := by
  induction text with
  | nil => simp [splitAtCommas]
  | cons c text ih =>
      rw [splitAtCommas]
      by_cases comma : c = ','
      · simpa [comma] using ih
      · cases split : splitAtCommas text with
        | nil => simp [split] at ih
        | cons piece pieces =>
            rw [split, List.forall_mem_cons] at ih
            obtain ⟨⟨own, others⟩, count⟩ := ih
            rw [if_neg comma, List.forall_mem_cons, List.count_cons_of_ne comma]
            exact ⟨⟨List.not_mem_cons_of_ne_of_not_mem (Ne.symm comma) own, others⟩, count⟩

/-! ## Hosts -/

/-- A list of hosts can be written as a text: it is not empty, and no host has a comma. -/
structure IsHostList (hosts : List String) : Prop where
  nonempty : hosts ≠ []
  commaFree : ∀ host ∈ hosts, ',' ∉ host.toList

theorem map_toList_parseHosts (raw : String) :
    (parseHosts raw).map String.toList = splitAtCommas raw.toList := by
  rw [parseHosts, List.map_map]
  exact (List.map_congr_left fun piece _ => String.toList_ofList).trans (List.map_id _)

theorem toList_joinHosts (hosts : List String) :
    (joinHosts hosts).toList = [','].intercalate (hosts.map String.toList) :=
  String.toList_intercalate

theorem length_parseHosts (raw : String) :
    (parseHosts raw).length = raw.toList.count ',' + 1 := by
  rw [parseHosts, List.length_map]
  exact (splitAtCommas_pieces raw.toList).2

theorem isHostList_parseHosts (raw : String) : IsHostList (parseHosts raw) where
  nonempty := by
    refine List.ne_nil_of_length_pos ?_
    rw [length_parseHosts]
    exact Nat.succ_pos _
  commaFree host among := by
    refine (splitAtCommas_pieces raw.toList).1 _ ?_
    rw [← map_toList_parseHosts]
    exact List.mem_map_of_mem among

/-- **What was taken apart can be put together again.** -/
theorem joinHosts_parseHosts (raw : String) : joinHosts (parseHosts raw) = raw := by
  rw [← String.toList_inj, toList_joinHosts, map_toList_parseHosts, splitAtCommas_eq_splitOn]
  exact List.intercalate_splitOn ','

/-- **What was put together is taken apart into the same hosts.** -/
theorem parseHosts_joinHosts {hosts : List String} (written : IsHostList hosts) :
    parseHosts (joinHosts hosts) = hosts := by
  have commaFree : ∀ piece ∈ hosts.map String.toList, ',' ∉ piece :=
    List.forall_mem_map.mpr written.commaFree
  have nonempty : hosts.map String.toList ≠ [] := mt List.map_eq_nil_iff.mp written.nonempty
  rw [parseHosts, toList_joinHosts, splitAtCommas_eq_splitOn,
    List.splitOn_intercalate ',' commaFree nonempty, List.map_map]
  exact (List.map_congr_left fun host _ => String.ofList_toList).trans (List.map_id _)

/-- **Texts and host lists are the same thing.** The hosts of a text, joined, are the text; no host
has a comma, and there is one host more than the text has commas. The hosts of a text that was
joined from a host list are that list. So texts and host lists stand for one another, one to one. -/
theorem parseHosts_bijective :
    (∀ raw, joinHosts (parseHosts raw) = raw ∧ (∀ host ∈ parseHosts raw, ',' ∉ host.toList) ∧
      (parseHosts raw).length = raw.toList.count ',' + 1) ∧
    (∀ hosts, hosts ≠ [] → (∀ host ∈ hosts, ',' ∉ host.toList) →
      parseHosts (joinHosts hosts) = hosts) ∧
    Set.BijOn parseHosts Set.univ {hosts | IsHostList hosts} := by
  have undone : Set.InvOn joinHosts parseHosts Set.univ {hosts | IsHostList hosts} :=
    ⟨fun raw _ => joinHosts_parseHosts raw, fun hosts written => parseHosts_joinHosts written⟩
  refine ⟨fun raw => ⟨joinHosts_parseHosts raw, (isHostList_parseHosts raw).commaFree,
    length_parseHosts raw⟩, fun hosts nonempty commaFree =>
      parseHosts_joinHosts ⟨nonempty, commaFree⟩, ?_⟩
  exact undone.bijOn (fun raw _ => isHostList_parseHosts raw) fun hosts _ => Set.mem_univ _

/-- Blanks, empty hosts and a host that is there twice come back from the text, in their places. -/
theorem parseHosts_bijective_blank_and_twice :
    let hosts := ["", " a", "b", "", "b", ""]
    hosts ≠ [] ∧ (∀ host ∈ hosts, ',' ∉ host.toList) ∧ joinHosts hosts = ", a,b,,b," ∧
      parseHosts ", a,b,,b," = hosts := by
  intro hosts
  have nonempty : hosts ≠ [] := by decide
  have commaFree : ∀ host ∈ hosts, ',' ∉ host.toList := by decide
  have joined : joinHosts hosts = ", a,b,,b," := by decide
  exact ⟨nonempty, commaFree, joined, joined ▸ parseHosts_bijective.2.1 hosts nonempty commaFree⟩

end HostRoster

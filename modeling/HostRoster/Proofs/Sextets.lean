import HostRoster.Encoding.Base64

/-!
# Base64 texts are read back

A byte string is written in digits, each for six of its bits (`sextets`), and in as many padding
signs as its last group of four is short of digits (`encode_eq`). The digits stand for their values
again (`value?_digit`), and the values for the bytes (`bytesOfValues_sextets`), so that a text is
read back whatever blanks have been put into it (`decode_of_digits`).

A text with a sign that is neither a digit nor padding nor a blank is never read
(`decode_of_foreign`).
-/

set_option autoImplicit false

namespace HostRoster.Base64

variable {bytes text : Bytes} {byte : UInt8}

/-! ## Digits -/

theorem value?_digit {value : Nat} (small : value < 64) : value? (digit value) = some value := by
  revert value
  decide

theorem ne_padding_of_value? (isDigit : (value? byte).isSome = true) : byte ≠ padding := by
  rintro rfl
  cases isDigit

theorem isBlank_of_value? (isDigit : (value? byte).isSome = true) : isBlank byte = false := by
  rw [Bool.eq_false_iff]
  intro blank
  have small : byte.toNat = 32 ∨ 9 ≤ byte.toNat ∧ byte.toNat ≤ 13 := by
    simpa [isBlank, UInt8.le_iff_toNat_le, ← UInt8.toNat_inj] using blank
  have cases : byte ∈ ([32, 9, 10, 11, 12, 13] : Bytes) := by
    simp only [List.mem_cons, List.not_mem_nil, or_false, ← UInt8.toNat_inj]
    simp only [UInt8.reduceToNat]
    omega
  have none : ∀ blank ∈ ([32, 9, 10, 11, 12, 13] : Bytes), value? blank = none := by
    simp [value?, UInt8.le_iff_toNat_le]
  rw [none byte cases] at isDigit
  cases isDigit

/-! ## Groups -/

/-- The values of the digits that a byte string is written in. -/
def sextets : Bytes → List Nat
  | [] => []
  | [a] =>
    let group := a.toNat * 65536
    [group / 262144, group / 4096 % 64]
  | [a, b] =>
    let group := a.toNat * 65536 + b.toNat * 256
    [group / 262144, group / 4096 % 64, group / 64 % 64]
  | a :: b :: c :: rest =>
    let group := a.toNat * 65536 + b.toNat * 256 + c.toNat
    group / 262144 :: group / 4096 % 64 :: group / 64 % 64 :: group % 64 :: sextets rest

/-- How many digits the last group is short of. -/
def shortfall : Bytes → Nat
  | [] => 0
  | [_] => 2
  | [_, _] => 1
  | _ :: _ :: _ :: rest => shortfall rest

theorem encode_eq (bytes : Bytes) :
    encode bytes = (sextets bytes).map digit ++ List.replicate (shortfall bytes) padding := by
  induction bytes using shortfall.induct with
  | case1 | case2 | case3 => rfl
  | case4 a b c rest ih => simp only [encode, sextets, shortfall, ih, List.map_cons, List.cons_append]

theorem shortfall_le (bytes : Bytes) : shortfall bytes ≤ 2 := by
  induction bytes using shortfall.induct with
  | case1 | case2 | case3 => simp [shortfall]
  | case4 a b c rest ih => exact ih

theorem length_add_shortfall (bytes : Bytes) :
    ((sextets bytes).length + shortfall bytes) % 4 = 0 := by
  induction bytes using shortfall.induct with
  | case1 | case2 | case3 => simp [sextets, shortfall]
  | case4 a b c rest ih =>
      simp only [sextets, shortfall, List.length_cons]
      omega

theorem lt_of_mem_sextets {value : Nat} (member : value ∈ sextets bytes) : value < 64 := by
  induction bytes using shortfall.induct with
  | case1 => cases member
  | case2 a =>
      have := a.toNat_lt
      simp only [sextets, List.mem_cons, List.not_mem_nil, or_false] at member
      omega
  | case3 a b =>
      have := a.toNat_lt
      have := b.toNat_lt
      simp only [sextets, List.mem_cons, List.not_mem_nil, or_false] at member
      omega
  | case4 a b c rest ih =>
      have := a.toNat_lt
      have := b.toNat_lt
      have := c.toNat_lt
      simp only [sextets, List.mem_cons] at member
      rcases member with same | same | same | same | later
      · omega
      · omega
      · omega
      · omega
      · exact ih later

theorem ofNat_of_eq {number : Nat} (same : number = byte.toNat) : UInt8.ofNat number = byte := by
  rw [same, UInt8.ofNat_toNat]

/-- **The values of the digits stand for the bytes.** -/
theorem bytesOfValues_sextets (bytes : Bytes) : bytesOfValues (sextets bytes) = some bytes := by
  induction bytes using shortfall.induct with
  | case1 => rfl
  | case2 a =>
      have := a.toNat_lt
      simp only [sextets, bytesOfValues, Option.some.injEq, List.cons.injEq, and_true]
      exact ofNat_of_eq (by omega)
  | case3 a b =>
      have := a.toNat_lt
      have := b.toNat_lt
      simp only [sextets, bytesOfValues, Option.some.injEq, List.cons.injEq, and_true]
      exact ⟨ofNat_of_eq (by omega), ofNat_of_eq (by omega)⟩
  | case4 a b c rest ih =>
      have := a.toNat_lt
      have := b.toNat_lt
      have := c.toNat_lt
      simp only [sextets, bytesOfValues, ih, Option.map_some, Option.some.injEq, List.cons.injEq,
        and_true]
      exact ⟨ofNat_of_eq (by omega), ofNat_of_eq (by omega), ofNat_of_eq (by omega)⟩

/-! ## Texts -/

/-- Only what is no blank counts in a text. -/
theorem decode_congr {left right : Bytes}
    (same : left.filter (! isBlank ·) = right.filter (! isBlank ·)) :
    decode left = decode right := by
  simp only [decode, same]

theorem isDigit_digit {value : Nat} (small : value < 64) :
    (value? (digit value)).isSome = true := by
  rw [value?_digit small]
  rfl

theorem mem_encode_cases (member : byte ∈ encode bytes) :
    (value? byte).isSome = true ∨ byte = padding := by
  rw [encode_eq, List.mem_append] at member
  refine member.imp (fun among => ?_) fun among => (List.mem_replicate.mp among).2
  obtain ⟨value, listed, rfl⟩ := List.mem_map.mp among
  exact isDigit_digit (lt_of_mem_sextets listed)

theorem filter_encode (bytes : Bytes) : (encode bytes).filter (! isBlank ·) = encode bytes := by
  rw [List.filter_eq_self]
  intro byte member
  rcases mem_encode_cases member with isDigit | rfl
  · simp [isBlank_of_value? isDigit]
  · rfl

theorem mapM_value?_digits {values : List Nat} (small : ∀ value ∈ values, value < 64) :
    (values.map digit).mapM value? = some values := by
  induction values with
  | nil => rfl
  | cons value values ih =>
      obtain ⟨first, others⟩ := List.forall_mem_cons.mp small
      simp [value?_digit first, ih others]

/-- **A text that has the digits of a byte string is read as that byte string**, whatever blanks
stand between them. -/
theorem decode_of_digits (digits : text.filter (! isBlank ·) = encode bytes) :
    decode text = some bytes := by
  have others : ∀ sign ∈ (sextets bytes).map digit, (sign != padding) = true := by
    intro sign member
    obtain ⟨value, listed, rfl⟩ := List.mem_map.mp member
    rw [bne_iff_ne]
    exact ne_padding_of_value? (isDigit_digit (lt_of_mem_sextets listed))
  -- All digits stand before the padding, so the text falls apart where the padding starts.
  have stop : (List.replicate (shortfall bytes) padding).takeWhile (· != padding) = [] ∧
      (List.replicate (shortfall bytes) padding).dropWhile (· != padding) =
        List.replicate (shortfall bytes) padding := by
    cases shortfall bytes <;> simp [List.replicate_succ]
  have whole := length_add_shortfall bytes
  have short := shortfall_le bytes
  simp only [decode, digits, encode_eq, List.takeWhile_append_of_pos others,
    List.dropWhile_append_of_pos others, stop.1, stop.2, List.append_nil]
  rw [if_pos, mapM_value?_digits fun _ => lt_of_mem_sextets]
  · exact bytesOfValues_sextets bytes
  · simp [whole, short]

/-- Whether a byte has no place in a text: it is neither a digit nor padding nor a blank. -/
def IsForeign (byte : UInt8) : Prop :=
  value? byte = none ∧ byte ≠ padding ∧ isBlank byte = false

theorem mapM_value?_eq_none (noDigit : value? byte = none) (member : byte ∈ text) :
    text.mapM value? = none := by
  induction text with
  | nil => cases member
  | cons sign text ih =>
      rcases List.mem_cons.mp member with rfl | later
      · simp [noDigit]
      · cases value? sign <;> simp [ih later]

/-- **A text with a byte that has no place in it is not read.** -/
theorem decode_of_foreign (foreign : IsForeign byte) (member : byte ∈ text) :
    decode text = none := by
  obtain ⟨noDigit, noPadding, noBlank⟩ := foreign
  have among : byte ∈ text.filter (! isBlank ·) := by simp [member, noBlank]
  have split := List.takeWhile_append_dropWhile (p := (· != padding))
    (l := text.filter (! isBlank ·))
  rw [← split, List.mem_append] at among
  simp only [decode]
  split
  next complete =>
    -- All that stands behind the digits is padding, so the byte stands among them.
    rcases among with body | tail
    · rw [mapM_value?_eq_none noDigit body, Option.bind_none]
    · rcases Bool.or_eq_true_iff.mp complete with empty | padded
      · rw [List.isEmpty_iff.mp empty] at tail
        cases tail
      · simp only [Bool.and_eq_true, List.all_eq_true] at padded
        exact absurd (eq_of_beq (padded.1.1 byte tail)) noPadding
  next => rfl

end HostRoster.Base64

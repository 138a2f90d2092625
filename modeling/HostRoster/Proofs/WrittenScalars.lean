import HostRoster.Json.Printer
import HostRoster.Toml.Scalar

/-!
# Strings and whole numbers written in TOML

A string is written between quotes on one line, a whole number with decimal digits. The readers of
scalars read back what was written, and stop where it ends (`readString_write`,
`readNumberOrMoment_write`).
-/

set_option autoImplicit false

namespace HostRoster.Toml

/-- A text goes on behind a value: with a comma, a line end or a closing bracket. -/
inductive Delimited : List Char → Prop where
  | comma (rest : List Char) : Delimited (',' :: rest)
  | line (rest : List Char) : Delimited ('\n' :: rest)
  | bracket (rest : List Char) : Delimited (']' :: rest)
  | brace (rest : List Char) : Delimited ('\x7d' :: rest)

/-! ## Strings -/

/-- How one character is written in a string. -/
def writeChar (c : Char) : List Char :=
  if c = '"' ∨ c = '\\' then ['\\', c]
  else if isPlain c then [c]
  else '\\' :: 'u' :: Json.fourDigits c.toNat

/-- A string between quotes. -/
def writeString (text : String) : List Char :=
  '"' :: (text.toList.flatMap writeChar ++ ['"'])

theorem fourDigits_of_small : ∀ code < 0x80,
    (Json.fourDigits code).length = 4 ∧ (Json.fourDigits code).all (isDigitIn 16) = true ∧
      numberIn 16 (Json.fourDigits code) = code := by
  decide

/-- A character that is not plain is a control. -/
theorem toNat_lt_of_not_isPlain {c : Char} (control : isPlain c = false) : c.toNat < 0x80 := by
  simp only [isPlain, Bool.or_eq_false_iff, Bool.and_eq_false_iff, decide_eq_false_iff_not,
    bne_eq_false_iff_eq] at control
  omega

theorem readCodePoint_fourDigits {c : Char} (control : isPlain c = false) (rest : List Char) :
    readCodePoint 4 (Json.fourDigits c.toNat ++ rest) = some (c, rest) := by
  have small := toNat_lt_of_not_isPlain control
  obtain ⟨length, digits, number⟩ := fourDigits_of_small c.toNat small
  have taken : (Json.fourDigits c.toNat ++ rest).take 4 = Json.fourDigits c.toNat :=
    List.take_left' length
  have dropped : (Json.fourDigits c.toNat ++ rest).drop 4 = rest := List.drop_left' length
  rw [readCodePoint, taken, dropped, number, if_pos ⟨length, digits, by omega, by omega⟩,
    Char.ofNat_toNat]

section Quoted

variable {fuel : Nat} {held : List Char}

theorem readQuoted_writeChar (c : Char) (rest : List Char) :
    readQuoted (fuel + 1) held (writeChar c ++ rest) = readQuoted fuel (c :: held) rest := by
  rw [writeChar]
  split
  next special =>
    rcases special with rfl | rfl <;> rfl
  next ordinary =>
    obtain ⟨noQuote, noSlash⟩ := not_or.mp ordinary
    split
    next plain => simp [readQuoted, plain]
    next control =>
      have read := readCodePoint_fourDigits (by simpa using control) rest
      simp [readQuoted, readEscape, read]

theorem readQuoted_write {characters : List Char} (rest : List Char)
    (short : characters.length < fuel) :
    readQuoted fuel held (characters.flatMap writeChar ++ '"' :: rest) =
      some (String.ofList (held.reverse ++ characters), rest) := by
  induction characters generalizing fuel held with
  | nil =>
      obtain ⟨fuel, rfl⟩ := Nat.exists_eq_succ_of_ne_zero (Nat.ne_of_gt short)
      simp [readQuoted]
  | cons c characters ih =>
      obtain ⟨fuel, rfl⟩ := Nat.exists_eq_succ_of_ne_zero (Nat.ne_of_gt (Nat.zero_lt_of_lt short))
      rw [List.flatMap_cons, List.append_assoc, readQuoted_writeChar,
        ih (Nat.lt_of_succ_lt_succ short), List.reverse_cons, List.append_assoc]
      rfl

end Quoted

/-- Every character takes at least one of its own. -/
theorem length_le_length_flatMap_writeChar (characters : List Char) :
    characters.length ≤ (characters.flatMap writeChar).length := by
  induction characters with
  | nil => exact Nat.le_refl _
  | cons c characters ih =>
      have some : 1 ≤ (writeChar c).length := by
        rw [writeChar]
        split
        · simp
        · split <;> simp
      rw [List.flatMap_cons, List.length_append, List.length_cons]
      omega

/-- **A quoted text is read back behind its quote.** -/
theorem readQuoted_writeString (text : String) (rest : List Char) :
    ∃ inside, writeString text = '"' :: inside ∧
      readQuoted ((inside ++ rest).length + 1) [] (inside ++ rest) = some (text, rest) := by
  refine ⟨_, rfl, ?_⟩
  have short := length_le_length_flatMap_writeChar text.toList
  rw [List.append_assoc, List.singleton_append, readQuoted_write]
  · rw [List.reverse_nil, List.nil_append, String.ofList_toList]
  · rw [List.length_append]
    omega

theorem head_writeChar (c : Char) :
    ∃ first others, writeChar c = first :: others ∧ first ≠ '"' := by
  rw [writeChar]
  split
  next => exact ⟨'\\', [c], rfl, by decide⟩
  next ordinary =>
    split
    next => exact ⟨c, [], rfl, fun quote => ordinary (.inl quote)⟩
    next => exact ⟨'\\', _, rfl, by decide⟩

theorem readString_of_single {inside : List Char}
    (single : ∀ behind, inside ≠ '"' :: '"' :: behind) :
    readString ('"' :: inside) = readQuoted (inside.length + 1) [] inside := by
  unfold readString
  split
  next behind same => exact absurd (List.cons.inj same).2 (single behind)
  next same => cases same
  next same => rw [(List.cons.inj same).2]
  next same => cases same
  next other _ => exact absurd rfl (other inside)

/-- **A written string is read back.** -/
theorem readString_write (text : String) {rest : List Char} (delimited : Delimited rest) :
    readString (writeString text ++ rest) = some (text, rest) := by
  obtain ⟨inside, written, read⟩ := readQuoted_writeString text rest
  have single : ∀ behind, inside ++ rest ≠ '"' :: '"' :: behind := by
    obtain rfl : text.toList.flatMap writeChar ++ ['"'] = inside := (List.cons.inj written).2
    intro behind same
    cases characters : text.toList with
    | nil =>
        rw [characters] at same
        cases delimited <;> cases same
    | cons c characters =>
        obtain ⟨first, others, own, noQuote⟩ := head_writeChar c
        rw [characters, List.flatMap_cons, own] at same
        exact noQuote (List.cons.inj same).1
  rw [written, List.cons_append, readString_of_single single, read]

/-! ## Whole numbers -/

/-- A whole number in decimal digits. -/
def writeInteger : Int → List Char
  | .ofNat value => Nat.toDigits 10 value
  | .negSucc value => '-' :: Nat.toDigits 10 (value + 1)

section Digits

variable {digits rest : List Char}

theorem ne_of_isDigit {c other : Char} (digit : isDigit c = true)
    (foreign : isDigit other = false) : c ≠ other := by
  rintro rfl
  rw [digit] at foreign
  cases foreign

theorem digitValue_of_isDigit {c : Char} (digit : isDigit c = true) :
    digitValue c = c.toNat - '0'.toNat := by
  rw [digitValue, if_pos digit]
  rfl

theorem isDigitIn_ten {c : Char} (digit : isDigit c = true) : isDigitIn 10 c = true := by
  have value := digitValue_of_isDigit digit
  simp only [isDigit, Bool.and_eq_true, decide_eq_true_eq] at digit
  have most : c.toNat ≤ 57 := digit.2
  have zero : '0'.toNat = 48 := rfl
  rw [isDigitIn, decide_eq_true_eq]
  omega

theorem numberIn_ten (each : ∀ c ∈ digits, isDigit c = true) :
    numberIn 10 digits = Nat.ofDigitChars 10 digits 0 := by
  have grows : ∀ digits : List Char, (∀ c ∈ digits, isDigit c = true) → ∀ start,
      digits.foldl (fun value c => value * 10 + digitValue c) start =
        Nat.ofDigitChars 10 digits start := by
    intro digits each
    induction digits with
    | nil => exact fun start => rfl
    | cons c digits ih =>
        obtain ⟨first, later⟩ := List.forall_mem_cons.mp each
        intro start
        rw [List.foldl_cons, ih later, Nat.ofDigitChars_cons, digitValue_of_isDigit first,
          Nat.mul_comm]
  exact grows digits each 0

theorem takeDigits_append (each : ∀ c ∈ digits, isDigit c = true) (delimited : Delimited rest)
    (held : List Char) :
    takeDigits 10 held (digits ++ rest) = some (held.reverse ++ digits, rest) := by
  induction digits generalizing held with
  | nil =>
      rw [List.nil_append, List.append_nil]
      cases delimited <;> simp [takeDigits, isDigitIn, digitValue, isDigit]
  | cons c digits ih =>
      obtain ⟨first, later⟩ := List.forall_mem_cons.mp each
      have noMark : c ≠ '_' := ne_of_isDigit first rfl
      rw [List.cons_append, takeDigits, if_pos (isDigitIn_ten first), ih later, List.reverse_cons,
        List.append_assoc]
      · rfl
      · exact fun _ _ mark => absurd mark noMark

/-- A field of a point of time ends among the digits, so that no mark follows it. -/
theorem skipMark_of_readField {width least most value : Nat} {mark : Char} {behind : List Char}
    (each : ∀ c ∈ digits, isDigit c = true) (delimited : Delimited rest)
    (foreign : isDigit mark = false) (noDelimiter : ∀ text, rest ≠ mark :: text)
    (read : readField width least most (digits ++ rest) = some (value, behind)) :
    skipMark mark behind = none := by
  simp only [readField, Option.ite_none_right_eq_some, Option.some.injEq, Prod.mk.injEq] at read
  obtain ⟨⟨length, taken, -, -⟩, -, rfl⟩ := read
  -- A field that reached beyond the digits would have taken a delimiter for a digit.
  have inside : width ≤ digits.length := by
    refine Nat.le_of_not_lt fun beyond => ?_
    obtain ⟨more, rfl⟩ := Nat.exists_eq_add_of_lt beyond
    rw [List.all_eq_true] at taken
    have last : ∀ c behind, rest = c :: behind → isDigit c = true := by
      rintro c behind rfl
      refine taken c ?_
      rw [Nat.add_assoc, List.take_length_add_append]
      exact List.mem_append_right _ List.mem_cons_self
    cases delimited <;> cases last _ _ rfl
  rw [List.drop_append_of_le_length inside]
  cases remaining : digits.drop width with
  | nil =>
      cases rest with
      | nil => rfl
      | cons c behind =>
          have differs : c ≠ mark := fun same => noDelimiter behind (same ▸ rfl)
          rw [List.nil_append, skipMark, if_neg differs]
  | cons c others =>
      have own : c ∈ digits := List.mem_of_mem_drop (remaining ▸ List.mem_cons_self)
      rw [List.cons_append, skipMark, if_neg (ne_of_isDigit (each c own) foreign)]

/-- Digits alone are no point of time. -/
theorem skipMoment_digits (each : ∀ c ∈ digits, isDigit c = true) (delimited : Delimited rest) :
    skipMoment (digits ++ rest) = none := by
  have noDash : ∀ text, rest ≠ '-' :: text := by
    rintro text rfl
    cases delimited
  have noColon : ∀ text, rest ≠ ':' :: text := by
    rintro text rfl
    cases delimited
  have date : skipDate (digits ++ rest) = none := by
    unfold skipDate
    cases read : readField 4 0 9999 (digits ++ rest) with
    | none => rfl
    | some reading =>
        simp [skipMark_of_readField each delimited rfl noDash read]
  have time : skipTime (digits ++ rest) = none := by
    unfold skipTime
    cases read : readField 2 0 23 (digits ++ rest) with
    | none => rfl
    | some reading =>
        simp [skipMark_of_readField each delimited rfl noColon read]
  rw [skipMoment, date, time]

theorem skipMoment_minus (text : List Char) : skipMoment ('-' :: text) = none := by
  have field : ∀ width least most, readField (width + 1) least most ('-' :: text) = none := by
    intro width least most
    simp [readField, isDigit]
  simp [skipMoment, skipDate, skipTime, field]

end Digits

theorem toDigits_head {value : Nat} (positive : 0 < value) :
    ∃ first others, Nat.toDigits 10 value = first :: others ∧ first ≠ '0' := by
  induction value using Nat.strongRecOn with
  | ind value ih =>
      rw [Nat.toDigits_eq_if (by decide)]
      split
      next small => exact ⟨_, [], rfl, mt Nat.digitChar_eq_zero.mp (Nat.ne_of_gt positive)⟩
      next large =>
        obtain ⟨first, others, own, noZero⟩ := ih (value / 10) (by omega) (by omega)
        exact ⟨first, _, by rw [own, List.cons_append], noZero⟩

theorem isDigit_of_mem_toDigits {value : Nat} : ∀ c ∈ Nat.toDigits 10 value, isDigit c = true :=
  fun _ among => Nat.isDigit_of_mem_toDigits (by decide) (by decide) among

theorem readWhole_toDigits (value : Nat) {rest : List Char} (delimited : Delimited rest) :
    readWhole (Nat.toDigits 10 value ++ rest) = some (Nat.toDigits 10 value, rest) := by
  rcases Nat.eq_zero_or_pos value with rfl | positive
  · rfl
  · obtain ⟨first, others, own, noZero⟩ := toDigits_head positive
    have taken : takeDigits 10 [] (Nat.toDigits 10 value ++ rest) =
        some ([].reverse ++ Nat.toDigits 10 value, rest) :=
      takeDigits_append isDigit_of_mem_toDigits delimited []
    rw [own] at taken ⊢
    rw [List.cons_append] at taken ⊢
    rw [readWhole, readDigits, taken]
    · rfl
    · simpa using noZero

theorem readDecimal_toDigits (negative : Bool) (value : Nat) {rest : List Char}
    (delimited : Delimited rest) :
    readDecimal negative (Nat.toDigits 10 value ++ rest) =
      (integerOf negative value).map (·, rest) := by
  have fraction : readFraction rest = some (none, rest) := by cases delimited <;> rfl
  have exponent : readExponent rest = some (none, rest) := by cases delimited <;> rfl
  rw [readDecimal, readWhole_toDigits value delimited]
  simp only [fraction, exponent]
  rw [numberIn_ten isDigit_of_mem_toDigits, Nat.ofDigitChars_ten_toDigits]

/-- A number that starts with a digit behind its sign, and not with a mark of its base, is
decimal. -/
theorem readNumber_eq_readDecimal {text behind : List Char} {sign : Option Bool} {first : Char}
    (noBase : ∀ text', text ≠ '0' :: text') (signed : readSign text = (sign, first :: behind))
    (digit : isDigit first = true) :
    readNumber text = readDecimal (sign == some true) (first :: behind) := by
  have noInfinity : first ≠ 'i' := ne_of_isDigit digit rfl
  have noNumber : first ≠ 'n' := ne_of_isDigit digit rfl
  unfold readNumber
  split
  next => exact absurd rfl (noBase _)
  next => exact absurd rfl (noBase _)
  next => exact absurd rfl (noBase _)
  next =>
    rw [signed]
    dsimp only
    split
    next same => exact absurd (List.cons.inj same).1 noInfinity
    next same => exact absurd (List.cons.inj same).1 noNumber
    next => rfl

theorem readNumber_toDigits (value : Nat) {rest : List Char} (delimited : Delimited rest) :
    readNumber (Nat.toDigits 10 value ++ rest) = (integerOf false value).map (·, rest) := by
  have decimal := readDecimal_toDigits false value delimited
  rcases Nat.eq_zero_or_pos value with rfl | positive
  · cases delimited <;> exact decimal
  · obtain ⟨first, others, own, noZero⟩ := toDigits_head positive
    have digit : isDigit first = true :=
      isDigit_of_mem_toDigits first (own ▸ List.mem_cons_self)
    rw [own, List.cons_append] at decimal ⊢
    have unsigned : readSign (first :: (others ++ rest)) = (none, first :: (others ++ rest)) := by
      have noPlus : first ≠ '+' := ne_of_isDigit digit rfl
      have noMinus : first ≠ '-' := ne_of_isDigit digit rfl
      simp [readSign, noPlus, noMinus]
    rw [readNumber_eq_readDecimal (fun _ same => noZero (List.cons.inj same).1) unsigned digit]
    exact decimal

theorem readNumber_minus_toDigits (value : Nat) {rest : List Char} (delimited : Delimited rest) :
    readNumber ('-' :: (Nat.toDigits 10 value ++ rest)) =
      (integerOf true value).map (·, rest) := by
  have decimal := readDecimal_toDigits true value delimited
  cases own : Nat.toDigits 10 value with
  | nil => exact absurd own Nat.toDigits_ne_nil
  | cons first others =>
      have digit : isDigit first = true :=
        isDigit_of_mem_toDigits first (own ▸ List.mem_cons_self)
      rw [own, List.cons_append] at decimal
      rw [List.cons_append, readNumber_eq_readDecimal (fun _ same => by cases same) rfl digit]
      exact decimal

/-- **A written whole number of 64 bits is read back.** -/
theorem readNumberOrMoment_write {value : Int} (least : -(Nat.pow 2 63 : Int) ≤ value)
    (most : value < (Nat.pow 2 63 : Int)) {rest : List Char} (delimited : Delimited rest) :
    readNumberOrMoment (writeInteger value ++ rest) = some (.integer value, rest) := by
  cases value with
  | ofNat value =>
      have small : value < Nat.pow 2 63 := Int.ofNat_lt.mp most
      rw [writeInteger, readNumberOrMoment, skipMoment_digits isDigit_of_mem_toDigits delimited]
      dsimp only
      rw [readNumber_toDigits value delimited, integerOf, if_neg Bool.false_ne_true, if_pos small]
      rfl
  | negSucc value =>
      have small : value + 1 ≤ Nat.pow 2 63 := by omega
      rw [writeInteger, readNumberOrMoment, List.cons_append, skipMoment_minus]
      dsimp only
      rw [readNumber_minus_toDigits (value + 1) delimited, integerOf, if_pos rfl, if_pos small]
      rfl

end HostRoster.Toml

import Catalog.Json.Printer
import Catalog.Json.Token
import Catalog.Proofs.Json.Document

/-!
Cutting the text of a scalar gives back the one token that it was written for, whatever stands behind
it.
-/

namespace Catalog.Json

/-! ### Cutting one token -/

theorem tokens_of_isSpace {c : Char} (h : isSpace c = true) (s : List Char) :
    tokens (c :: s) = tokens s := by
  rw [tokens, if_pos h]

theorem tokens_of_lexeme {c : Char} {s behind : List Char} {token : Token} (h : isSpace c = false)
    (hlexeme : lexeme c s = (token, some behind)) : tokens (c :: s) = token :: tokens behind := by
  rw [tokens, h, if_neg Bool.false_ne_true]
  split
  · rename_i heq
    rw [hlexeme] at heq
    cases heq
  · rename_i heq
    rw [hlexeme] at heq
    cases heq
    rfl

theorem tokens_newline (level : Nat) (s : List Char) : tokens (newline level ++ s) = tokens s := by
  have hspaces : ∀ n, tokens (List.replicate n ' ' ++ s) = tokens s := by
    intro n
    induction n with
    | zero => rfl
    | succ n ih => rw [List.replicate_succ, List.cons_append, tokens_of_isSpace rfl, ih]
  rw [newline, List.cons_append, tokens_of_isSpace rfl, hspaces]

/-! ### Strings -/

/-- A control character is written as a code unit of two digits. -/
theorem hexNumber?_control : ∀ n < 32,
    hexNumber? ['0', '0', hexDigit (n / 16), hexDigit (n % 16)] = some n := by
  decide

/-- A character of a string is read as it was written. -/
theorem lexString_escapeChar (c : Char) (sofar behind : List Char) :
    lexString (.text sofar) (escapeChar c ++ behind) = lexString (.text (c :: sofar)) behind := by
  unfold escapeChar
  split
  case h_8 hquote hbackslash _ _ _ _ _ =>
    split
    · rename_i hcontrol
      simp only [List.cons_append, List.nil_append]
      rw [lexString, hexNumber?_control c.toNat hcontrol]
      simp only [StringText.pushUnit]
      rw [if_neg (by simp; omega), if_neg (by simp; omega), Char.ofNat_toNat]
    · rename_i hcontrol
      rw [List.singleton_append, lexString, if_neg hcontrol, StringText.push]
      all_goals simp_all
  all_goals rfl

theorem lexString_flatMap (sofar behind : List Char) : ∀ text : List Char,
    lexString (.text sofar) (text.flatMap escapeChar ++ '"' :: behind)
      = (.string (.ok (String.ofList (sofar.reverse ++ text))), some behind)
  | [] => by simp [lexString, StringText.close]
  | c :: text => by
    rw [List.flatMap_cons, List.append_assoc, lexString_escapeChar, lexString_flatMap _ behind text]
    simp

theorem tokens_quote (s : String) (behind : List Char) :
    tokens (quote s ++ behind) = .string (.ok s) :: tokens behind := by
  rw [quote, List.append_assoc, List.cons_append]
  refine tokens_of_lexeme rfl ?_
  have h := lexString_flatMap [] behind s.toList
  rw [List.reverse_nil, List.nil_append, String.ofList_toList] at h
  exact h

/-! ### Numbers -/

/-- A text in front of which a number ends. -/
def EndsNumber (behind : List Char) : Prop :=
  ∀ c ∈ behind.head?, c.isDigit = false ∧ c ≠ '.' ∧ c ≠ 'e' ∧ c ≠ 'E'

/-- The digits of a whole number: not none, and zero only alone in front. -/
structure WholeDigits (digits : List Char) : Prop where
  isDigit : ∀ c ∈ digits, c.isDigit = true
  ne_nil : digits ≠ []
  zero_alone : ∀ c rest, digits ≠ '0' :: c :: rest

theorem takeWhile_digits {digits behind : List Char} (h : ∀ c ∈ digits, c.isDigit = true)
    (hbehind : ∀ c ∈ behind.head?, c.isDigit = false) :
    (digits ++ behind).takeWhile Char.isDigit = digits
      ∧ (digits ++ behind).dropWhile Char.isDigit = behind := by
  rw [List.takeWhile_append_of_pos h, List.dropWhile_append_of_pos h]
  cases behind with
  | nil => simp
  | cons c rest => simp [hbehind c rfl]

theorem lexNumber_digits {digits behind : List Char} (h : WholeDigits digits)
    (hbehind : ∀ c ∈ behind.head?, c.isDigit = false) (negative : Bool) :
    lexNumber negative (digits ++ behind) = lexAfterWhole ⟨negative, digits, [], none⟩ behind := by
  obtain ⟨htake, hdrop⟩ := takeWhile_digits h.isDigit hbehind
  unfold lexNumber
  rw [htake, hdrop]
  split
  · exact absurd rfl h.ne_nil
  · exact absurd rfl (h.zero_alone _ _)
  · rfl

theorem lexTail_end {behind : List Char} (h : EndsNumber behind) (n : Numeral) :
    lexTail n behind = (.number n.read, some behind) := by
  unfold lexTail
  split
  · exact absurd rfl (h 'e' rfl).2.2.1
  · exact absurd rfl (h 'E' rfl).2.2.2
  · rfl

theorem lexAfterWhole_end {behind : List Char} (h : EndsNumber behind) (n : Numeral) :
    lexAfterWhole n behind = (.number n.read, some behind) := by
  unfold lexAfterWhole
  split
  · exact absurd rfl (h '.' rfl).2.1
  · exact lexTail_end h n

/-- A number starts with a minus or with its first digit. -/
theorem tokens_number {negative : Bool} {digits behind rest : List Char} {token : Token}
    (hdigits : WholeDigits digits)
    (h : lexNumber negative (digits ++ behind) = (token, some rest)) :
    tokens ((if negative then ['-'] else []) ++ (digits ++ behind)) = token :: tokens rest := by
  cases negative with
  | true => exact tokens_of_lexeme rfl h
  | false =>
    obtain _ | ⟨c, digits⟩ := digits
    · exact absurd rfl hdigits.ne_nil
    · have hdigit := hdigits.isDigit c List.mem_cons_self
      refine tokens_of_lexeme ?_ ?_
      · unfold isSpace
        simp only [Bool.or_eq_false_iff, decide_eq_false_iff_not]
        refine ⟨⟨⟨?_, ?_⟩, ?_⟩, ?_⟩ <;> (rintro rfl; cases hdigit)
      · rw [← h]
        unfold lexeme
        split
        all_goals first | cases hdigit | skip
        rw [if_pos hdigit]
        rfl

theorem toDigits_zero_alone (n : Nat) : ∀ c rest, Nat.toDigits 10 n ≠ '0' :: c :: rest := by
  induction n using Nat.strongRecOn with
  | ind n ih =>
    intro c rest h
    rw [Nat.toDigits_eq_if (by decide)] at h
    split at h
    · simp at h
    · -- Without its last digit the number still starts with the zero, so it would be zero.
      rename_i hge
      rcases hfront : Nat.toDigits 10 (n / 10) with _ | ⟨first, later⟩
      · exact Nat.toDigits_ne_nil hfront
      · rw [hfront, List.cons_append] at h
        obtain ⟨rfl, hlater⟩ := List.cons.inj h
        obtain _ | ⟨second, later⟩ := later
        · have hzero : n / 10 = 0 := by
            rw [← Nat.ofDigitChars_ten_toDigits (n := n / 10), hfront]
            rfl
          omega
        · exact ih (n / 10) (by omega) second later hfront

theorem wholeDigits_digitChars (n : Nat) : WholeDigits (Decimal.digitChars n) where
  isDigit _ hc := Nat.isDigit_of_mem_toDigits (by decide) (by decide) hc
  ne_nil := Nat.toDigits_ne_nil
  zero_alone := toDigits_zero_alone n

theorem digitsValue_digitChars (n : Nat) : digitsValue (Decimal.digitChars n) = n := by
  have h : ∀ (digits : List Char) (sofar : Nat),
      digits.foldl (fun value c => value * 10 + (c.toNat - 0x30)) sofar
        = Nat.ofDigitChars 10 digits sofar := by
    intro digits
    induction digits with
    | nil => exact fun _ => rfl
    | cons c rest ih =>
      intro sofar
      rw [List.foldl_cons, ih, Nat.mul_comm]
      rfl
  rw [digitsValue, h]
  exact Nat.ofDigitChars_ten_toDigits

/-- The digits of a whole number that fits 64 bits read as that number. -/
theorem read_digitChars {n : Int} (h : fitsWord n) :
    Numeral.read ⟨n < 0, Decimal.digitChars n.natAbs, [], none⟩ = .ok (.int n) := by
  obtain ⟨hleast, hmost⟩ := h
  have hsixtyThree : Decimal.twoTo 63 = 9223372036854775808 := rfl
  have hlimit : wordLimit = 18446744073709551615 := rfl
  simp only [Numeral.read, digitsValue_digitChars, hsixtyThree, hlimit]
  by_cases hnegative : n < 0
  · have hfits : 0 < n.natAbs ∧ n.natAbs ≤ 9223372036854775808 := by omega
    have hvalue : -(n.natAbs : Int) = n := by omega
    rw [hvalue]
    simp [hnegative, hfits]
  · have hfits : n.natAbs ≤ 18446744073709551615 := by omega
    have hvalue : (n.natAbs : Int) = n := by omega
    rw [hvalue]
    simp [hnegative, hfits]

theorem tokens_intChars {n : Int} (h : fitsWord n) {behind : List Char}
    (hbehind : EndsNumber behind) :
    tokens (Decimal.intChars n ++ behind) = .number (.ok (.int n)) :: tokens behind := by
  have hdigits := wholeDigits_digitChars n.natAbs
  have hlex : lexNumber (n < 0) (Decimal.digitChars n.natAbs ++ behind)
      = (.number (.ok (.int n)), some behind) := by
    rw [lexNumber_digits hdigits (fun c hc => (hbehind c hc).1), lexAfterWhole_end hbehind,
      read_digitChars h]
  rw [← tokens_number hdigits hlex, Decimal.intChars]
  by_cases hnegative : n < 0 <;> simp [hnegative]

end Catalog.Json

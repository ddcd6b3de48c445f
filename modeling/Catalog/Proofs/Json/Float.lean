import Catalog.Proofs.Decimal.Reading
import Catalog.Proofs.Json.Token

/-!
The text of a float is one token, a number that is a float again. It need not be the same float, since
reading rounds up to three times.
-/

namespace Catalog.Json

open Decimal (digitChars tenTo)

/-! ### Collecting digits -/

theorem digit_le {c : Char} (h : c.isDigit = true) : c.toNat - 0x30 ≤ 9 := by
  simp only [Char.isDigit, Bool.and_eq_true, decide_eq_true_eq] at h
  have := UInt32.le_iff_toNat_le.1 h.2
  simp only [Char.toNat]
  exact Nat.sub_le_of_le_add this

/-- All digits are collected as long as there are few of them. -/
theorem collect_of_few : ∀ {digits : List Char} (value : Nat), (∀ c ∈ digits, c.isDigit = true) →
    (value + 1) * tenTo digits.length ≤ wordLimit + 1 →
    collect value digits
        = (digits.foldl (fun value c => value * 10 + (c.toNat - 0x30)) value, [])
      ∧ (collect value digits).1 + 1 ≤ (value + 1) * tenTo digits.length
  | [], value, _, _ => ⟨rfl, by simp [collect, tenTo]⟩
  | c :: rest, value, hdigits, h => by
    have hdigit := digit_le (hdigits c List.mem_cons_self)
    have hnext : (value * 10 + (c.toNat - 0x30) + 1) * tenTo rest.length
        ≤ (value + 1) * tenTo (c :: rest).length := by
      have hten : tenTo 1 = 10 := rfl
      rw [List.length_cons, Nat.add_comm rest.length, Decimal.tenTo_add, ← Nat.mul_assoc, hten]
      exact Nat.mul_le_mul_right _ (by omega)
    have hfits : value * 10 + (c.toNat - 0x30) + 1 ≤ wordLimit + 1 :=
      (Nat.le_mul_of_pos_right _ (Decimal.tenTo_pos _)).trans (hnext.trans h)
    have ih := collect_of_few (value * 10 + (c.toNat - 0x30))
      (fun d hd => hdigits d (List.mem_cons_of_mem _ hd)) (hnext.trans h)
    rw [collect, if_neg (by omega)]
    exact ⟨ih.1, ih.2.trans hnext⟩

theorem length_collect_le (value : Nat) (digits : List Char) :
    (collect value digits).2.length ≤ digits.length := by
  induction digits generalizing value with
  | nil => rfl
  | cons c rest ih =>
    rw [collect]
    split
    · exact le_rfl
    · exact (ih _).trans (Nat.le_succ _)

/-! ### Numbers with a fraction or an exponent -/

/-- A number with a fraction or an exponent is no whole number. -/
theorem exists_read_float {n : Numeral} (hmark : n.fraction ≠ [] ∨ n.exponent ≠ none)
    (hsome : n.toFloat?.isSome = true) : ∃ y, n.read = .ok (.float y) := by
  obtain ⟨y, hy⟩ := Option.isSome_iff_exists.1 hsome
  refine ⟨y, ?_⟩
  unfold Numeral.read
  dsimp only
  rw [if_neg (by obtain h | h := hmark <;> simp [h]), hy]

/-- A number with a fraction and few digits in front of it is in range. -/
theorem isSome_toFloat?_fraction {negative : Bool} {whole fraction : List Char}
    (hwhole : ∀ c ∈ whole, c.isDigit = true) (hfew : whole.length ≤ 16)
    (hfraction : ∀ c ∈ fraction, c.isDigit = true) (hne : fraction ≠ []) :
    (Numeral.toFloat? ⟨negative, whole, fraction, none⟩).isSome = true := by
  obtain ⟨c, rest, rfl⟩ := List.exists_cons_of_ne_nil hne
  have hlimit : wordLimit + 1 = 2 ^ 64 := rfl
  have hsixteen : tenTo whole.length ≤ tenTo 16 := Decimal.tenTo_le_tenTo hfew
  have hpower : tenTo 16 = 10 ^ 16 := rfl
  obtain ⟨hall, hmost⟩ := collect_of_few 0 hwhole (by omega)
  have hdigit := digit_le (hfraction c List.mem_cons_self)
  rw [hall] at hmost
  generalize whole.foldl (fun value c => value * 10 + (c.toNat - 0x30)) 0 = value at hall hmost
  have hunread := length_collect_le (value * 10 + (c.toNat - 0x30)) rest
  have hstep : collect value (c :: rest) = collect (value * 10 + (c.toNat - 0x30)) rest := by
    rw [collect, if_neg (by omega)]
  simp only [Numeral.toFloat?, hall, hstep, Option.isSome_map, Decimal.scaled?]
  rw [if_pos]
  · rfl
  · simp
    omega

/-- A number with all its digits and an exponent is the decimal that they stand for. -/
theorem toFloat?_scientific {negative : Bool} {first : Char} {rest : List Char} {n : Nat}
    {exponent : Int} (hdigits : first :: rest = digitChars n) (hn : n ≤ tenTo 17) :
    Numeral.toFloat? ⟨negative, [first], rest, some exponent⟩
      = (Decimal.scaled? n (exponent - rest.length)).map fun x => if negative then -x else x := by
  have hlimit : wordLimit + 1 = 2 ^ 64 := rfl
  have hpower : tenTo 18 = 10 ^ 18 ∧ tenTo 17 = 10 ^ 17 := ⟨rfl, rfl⟩
  have hlength : (first :: rest).length ≤ 18 := by
    rw [hdigits]
    exact (Nat.length_toDigits_le_iff (by decide) (by decide)).2 (by omega)
  have hisDigit : ∀ c ∈ first :: rest, c.isDigit = true :=
    hdigits ▸ (wholeDigits_digitChars n).isDigit
  have hten := Decimal.tenTo_le_tenTo hlength
  have hall := (collect_of_few 0 hisDigit (by omega)).1
  have hfirst := digit_le (hisDigit first List.mem_cons_self)
  have hstep : collect 0 [first] = (first.toNat - 0x30, []) := by
    rw [collect, if_neg (by omega)]
    simp [collect]
  have hrest : collect (first.toNat - 0x30) rest = (n, []) := by
    rw [collect, if_neg (by omega), Nat.zero_mul, Nat.zero_add] at hall
    rw [hall, hdigits]
    exact congrArg (·, []) (digitsValue_digitChars n)
  simp [Numeral.toFloat?, hstep, hrest]

/-! ### Cutting -/

theorem lexAfterWhole_fraction {fraction behind : List Char}
    (hfraction : ∀ c ∈ fraction, c.isDigit = true) (hne : fraction ≠ [])
    (hbehind : ∀ c ∈ behind.head?, c.isDigit = false) (n : Numeral) :
    lexAfterWhole n ('.' :: (fraction ++ behind)) = lexTail { n with fraction } behind := by
  obtain ⟨htake, hdrop⟩ := takeWhile_digits hfraction hbehind
  rw [lexAfterWhole, lexFraction, htake, hdrop, if_neg (by simpa using hne)]

/-- The text of an exponent. -/
def exponentChars (exponent : Int) : List Char :=
  'e' :: (if exponent < 0 then '-' else '+') :: digitChars exponent.natAbs

theorem lexTail_exponent {behind : List Char} (hbehind : EndsNumber behind) (n : Numeral)
    (exponent : Int) : lexTail n (exponentChars exponent ++ behind)
      = (.number ({ n with exponent := some exponent } : Numeral).read, some behind) := by
  have hdigits := wholeDigits_digitChars exponent.natAbs
  obtain ⟨htake, hdrop⟩ := takeWhile_digits hdigits.isDigit fun c hc => (hbehind c hc).1
  have hsign : ∀ s, exponentSign ((if exponent < 0 then '-' else '+') :: s)
      = (decide (exponent < 0), s) := by
    intro s
    split <;> simp [exponentSign, *]
  have hraised : n.raised (decide (exponent < 0)) (digitChars exponent.natAbs)
      = { n with exponent := some exponent } := by
    rw [Numeral.raised, digitsValue_digitChars]
    congr 2
    split <;> rename_i hsign <;> rw [decide_eq_true_eq] at hsign <;> omega
  rw [exponentChars, List.cons_append, List.cons_append, lexTail, lexExponentDigits, hsign, htake,
    hdrop, if_neg (by simpa using hdigits.ne_nil), hraised]

/-! ### The texts of a float -/

/-- Some first digits of a whole number are the digits of a whole number. -/
theorem WholeDigits.take {digits : List Char} (h : WholeDigits digits) {n : Nat} (hn : 0 < n) :
    WholeDigits (digits.take n) where
  isDigit c hc := h.isDigit c (List.mem_of_mem_take hc)
  ne_nil := by simpa using ⟨hn.ne', h.ne_nil⟩
  zero_alone c rest heq := by
    have hsplit := List.take_append_drop n digits
    rw [heq] at hsplit
    exact h.zero_alone c _ hsplit.symm

/-- The zeros behind the digits of a whole number that is not zero. -/
theorem WholeDigits.append_zeros {digits : List Char} (h : WholeDigits digits) (n : Nat)
    (hne : n ≠ 0 → digits ≠ ['0']) : WholeDigits (digits ++ List.replicate n '0') where
  isDigit c hc := by
    obtain hc | hc := List.mem_append.1 hc
    · exact h.isDigit c hc
    · rw [List.eq_of_mem_replicate hc]
      rfl
  ne_nil := by simp [h.ne_nil]
  zero_alone c rest heq := by
    obtain ⟨first, later, rfl⟩ := List.exists_cons_of_ne_nil h.ne_nil
    obtain ⟨rfl, htail⟩ := List.cons.inj heq
    cases later with
    | nil =>
      refine hne ?_ rfl
      rintro rfl
      cases htail
    | cons next later => exact h.zero_alone next later rfl

/-- The digits of a fraction with enough zeros in front: the part before the point and the one behind
it. -/
theorem exists_split_padded {digits : List Char} (h : WholeDigits digits) (places : Nat)
    (hplaces : 0 < places) : ∃ whole fraction,
      (List.replicate (places + 1 - digits.length) '0' ++ digits).take
          ((List.replicate (places + 1 - digits.length) '0' ++ digits).length - places) = whole
      ∧ (List.replicate (places + 1 - digits.length) '0' ++ digits).drop
          ((List.replicate (places + 1 - digits.length) '0' ++ digits).length - places) = fraction
      ∧ WholeDigits whole ∧ whole.length ≤ max 1 (digits.length - places)
      ∧ (∀ c ∈ fraction, c.isDigit = true) ∧ fraction ≠ [] := by
  have hdigits : ∀ c ∈ List.replicate (places + 1 - digits.length) '0' ++ digits,
      c.isDigit = true := by
    intro c hc
    obtain hc | hc := List.mem_append.1 hc
    · rw [List.eq_of_mem_replicate hc]
      rfl
    · exact h.isDigit c hc
  refine ⟨_, _, rfl, rfl, ?_, ?_, fun c hc => hdigits c (List.mem_of_mem_drop hc), ?_⟩
  · by_cases hlong : places < digits.length
    · have hnone : places + 1 - digits.length = 0 := by omega
      simp only [hnone, List.replicate_zero, List.nil_append]
      exact h.take (by omega)
    · have hone : (places + 1 - digits.length + digits.length) - places = 1 := by omega
      obtain ⟨n, hn⟩ : ∃ n, places + 1 - digits.length = n + 1 := ⟨places - digits.length, by omega⟩
      rw [List.length_append, List.length_replicate, hone, hn, List.replicate_succ, List.cons_append,
        List.take_succ_cons, List.take_zero]
      exact ⟨by simp, by simp, by simp⟩
  · rw [List.length_take, List.length_append, List.length_replicate]
    omega
  · rw [← List.length_pos_iff, List.length_drop, List.length_append, List.length_replicate]
    omega

/-- The positional text of a decimal with at most sixteen digits before the point: a sign, those digits,
a point and more digits. -/
theorem exists_positional {d : Decimal} (hzero : d.digits = 0 → d.exponent = 0)
    (hlead : d.digits ≠ 0 → d.leadExponent < 16) : ∃ whole fraction,
      d.positional = (if d.negative then ['-'] else []) ++ (whole ++ '.' :: fraction)
      ∧ WholeDigits whole ∧ whole.length ≤ 16
      ∧ (∀ c ∈ fraction, c.isDigit = true) ∧ fraction ≠ [] := by
  have hdigits := wholeDigits_digitChars d.digits
  have hfew : (digitChars d.digits).length + d.exponent ≤ 16 := by
    by_cases hne : d.digits = 0
    · rw [hzero hne, hne]
      decide
    · have := hlead hne
      rw [Decimal.leadExponent] at this
      omega
  by_cases hsign : 0 ≤ d.exponent
  · refine ⟨digitChars d.digits ++ List.replicate d.exponent.toNat '0', ['0'], ?_,
      hdigits.append_zeros _ ?_, ?_, List.forall_mem_singleton.2 rfl, List.cons_ne_nil _ _⟩
    · simp [Decimal.positional, Decimal.sign, hsign]
    · intro hexponent hzeroDigits
      have hvalue := digitsValue_digitChars d.digits
      rw [hzeroDigits] at hvalue
      exact hexponent (by rw [hzero hvalue.symm]; rfl)
    · rw [List.length_append, List.length_replicate]
      omega
  · obtain ⟨whole, fraction, hwhole, hfraction, hdigits, hlength, h⟩ :=
      exists_split_padded hdigits (-d.exponent).toNat (by omega)
    refine ⟨whole, fraction, ?_, hdigits, hlength.trans (by omega), h⟩
    simp only [Decimal.positional, if_neg hsign, hwhole, hfraction, Decimal.sign]

/-- The scientific text of a decimal: a sign, one digit before the point if others follow it, and the
exponent. -/
theorem exists_scientific (d : Decimal) : ∃ first rest, digitChars d.digits = first :: rest
    ∧ d.scientific = (if d.negative then ['-'] else []) ++ ([first]
      ++ ((if rest = [] then [] else '.' :: rest) ++ exponentChars d.leadExponent)) := by
  obtain ⟨first, rest, hdigits⟩ := List.exists_cons_of_ne_nil (wholeDigits_digitChars d.digits).ne_nil
  refine ⟨first, rest, hdigits, ?_⟩
  cases rest <;> simp [Decimal.scientific, hdigits, Decimal.sign, exponentChars]

/-- The tokens of a positional text. -/
theorem tokens_fraction {negative : Bool} {whole fraction : List Char} (hwhole : WholeDigits whole)
    (hfraction : ∀ c ∈ fraction, c.isDigit = true) (hne : fraction ≠ []) {behind : List Char}
    (hbehind : EndsNumber behind) :
    tokens ((if negative then ['-'] else []) ++ (whole ++ '.' :: fraction) ++ behind)
      = .number (Numeral.read ⟨negative, whole, fraction, none⟩) :: tokens behind := by
  have hlex : lexNumber negative (whole ++ '.' :: (fraction ++ behind))
      = (.number (Numeral.read ⟨negative, whole, fraction, none⟩), some behind) := by
    rw [lexNumber_digits hwhole (by simp),
      lexAfterWhole_fraction hfraction hne fun c hc => (hbehind c hc).1, lexTail_end hbehind]
  rw [← tokens_number hwhole hlex]
  simp only [List.append_assoc, List.cons_append]

/-- The tokens of a scientific text. -/
theorem tokens_exponent {negative : Bool} {first : Char} {rest : List Char} {n : Nat}
    (hdigits : digitChars n = first :: rest) (exponent : Int) {behind : List Char}
    (hbehind : EndsNumber behind) :
    tokens ((if negative then ['-'] else []) ++ ([first]
        ++ ((if rest = [] then [] else '.' :: rest) ++ exponentChars exponent)) ++ behind)
      = .number (Numeral.read ⟨negative, [first], rest, some exponent⟩) :: tokens behind := by
  have hall := hdigits ▸ wholeDigits_digitChars n
  have hfirst : WholeDigits [first] := hall.take (n := 1) Nat.one_pos
  have hlex : lexNumber negative ([first]
      ++ ((if rest = [] then [] else '.' :: rest) ++ (exponentChars exponent ++ behind)))
      = (.number (Numeral.read ⟨negative, [first], rest, some exponent⟩), some behind) := by
    rw [lexNumber_digits hfirst (by split <;> simp [exponentChars])]
    by_cases hrest : rest = []
    · rw [if_pos hrest, hrest, List.nil_append]
      exact lexTail_exponent hbehind _ _
    · rw [if_neg hrest, List.cons_append, lexAfterWhole_fraction
        (fun c hc => hall.isDigit c (List.mem_cons_of_mem _ hc)) hrest (by simp [exponentChars]),
        lexTail_exponent hbehind]
  rw [← tokens_number hfirst hlex]
  simp only [List.append_assoc]

/-- The text of a finite float is one number, which is read as a float. -/
theorem exists_tokens_floatChars {x : Float} (h : x.isFinite = true) : ∃ y, ∀ behind,
    EndsNumber behind → tokens (floatChars x ++ behind) = .number (.ok (.float y)) :: tokens behind := by
  have hscaled := Decimal.isSome_scaled?_shortest h
  have hfits := Decimal.exists_fits_shortest .toEven (.ofFloat x)
  unfold floatChars
  dsimp only
  generalize Decimal.shortest .toEven (.ofFloat x) = d at hscaled hfits
  obtain ⟨i, hzero, hdigits, -⟩ := hfits
  split
  · rename_i hlead
    obtain ⟨whole, fraction, htext, hwhole, hfew, hfraction, hne⟩ := exists_positional hzero (by
      intro hne
      simp_all)
    obtain ⟨y, hy⟩ := exists_read_float (n := ⟨d.negative, whole, fraction, none⟩) (.inl hne)
      (isSome_toFloat?_fraction hwhole.isDigit hfew hfraction hne)
    refine ⟨y, fun behind hbehind => ?_⟩
    rw [htext, tokens_fraction hwhole hfraction hne hbehind, hy]
  · rename_i hlead
    obtain ⟨first, rest, hchars, htext⟩ := exists_scientific d
    have hexponent : d.leadExponent - rest.length = d.exponent := by
      rw [Decimal.leadExponent, hchars, List.length_cons]
      omega
    obtain ⟨y, hy⟩ := exists_read_float (n := ⟨d.negative, [first], rest, some d.leadExponent⟩)
      (.inr nofun) (by
        rw [toFloat?_scientific hchars.symm hdigits, hexponent, Option.isSome_map]
        exact hscaled (by simp_all))
    refine ⟨y, fun behind hbehind => ?_⟩
    rw [htext, tokens_exponent hchars _ hbehind, hy]

/-- The float that the text of a float reads back as. -/
def rereadFloat (x : Float) : Float :=
  match tokens (floatChars x) with
  | [.number (.ok (.float y))] => y
  | _ => x

theorem tokens_floatChars {x : Float} (h : x.isFinite = true) {behind : List Char}
    (hbehind : EndsNumber behind) :
    tokens (floatChars x ++ behind) = .number (.ok (.float (rereadFloat x))) :: tokens behind := by
  obtain ⟨y, hy⟩ := exists_tokens_floatChars h
  have halone := hy [] nofun
  rw [List.append_nil, tokens] at halone
  rw [hy behind hbehind, rereadFloat, halone]

end Catalog.Json

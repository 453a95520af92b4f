import LiveSwap.Text.Numeral
import Mathlib.Data.List.Induction
import Mathlib.Tactic.IntervalCases

/-!
# Signed 32-bit numerals

`Numeral.Spells` says which texts are numerals of a value: an optional sign, then one or more digits.
A value has many numerals; `Numeral.Canonical` rules out a plus sign, leading zeros and a signed zero.

* **`Numeral.read?_eq_some_iff`** — a numeral is read as the value that it spells, if that fits in 32
  bits, and nothing else is read.
* **`Numeral.write_eq_iff`** — of all numerals of a value the canonical one is written.
-/

namespace LiveSwap.Text.Numeral

/-! ## What a numeral is -/

/-- One or more decimal digits. -/
structure Digits (ds : List Char) : Prop where
  ne_nil : ds ≠ []
  isDigit : ∀ d ∈ ds, d.isDigit = true

/-- The text is a numeral of the value: an optional sign and one or more digits. -/
inductive Spells : List Char → Int → Prop where
  | plain {ds : List Char} (h : Digits ds) : Spells ds (Nat.ofDigitChars 10 ds 0)
  | plus {ds : List Char} (h : Digits ds) : Spells ('+' :: ds) (Nat.ofDigitChars 10 ds 0)
  | minus {ds : List Char} (h : Digits ds) : Spells ('-' :: ds) (-(Nat.ofDigitChars 10 ds 0 : Int))

/-- The text is a numeral of a value that fits in 32 bits. -/
def IsNumeral (cs : List Char) : Prop := ∃ z, Spells cs z ∧ -2 ^ 31 ≤ z ∧ z ≤ 2 ^ 31 - 1

/-- The numeral has no plus sign and no leading zeros, and is not a zero with a sign. -/
structure Canonical (cs : List Char) : Prop where
  unsigned : cs.head? ≠ some '+'
  no_zeros : ∀ ds, cs = '0' :: ds ∨ cs = '-' :: '0' :: ds → ds = []
  no_signed_zero : cs ≠ ['-', '0']

variable {cs ds : List Char} {n : Int32}

/-! ## Reading -/

theorem Digits.head_isDigit {d : Char} (h : Digits (d :: ds)) : d.isDigit = true :=
  h.isDigit d List.mem_cons_self

theorem magnitude?_eq_some_iff {m : Nat} :
    magnitude? ds = some m ↔ Digits ds ∧ m = Nat.ofDigitChars 10 ds 0 := by
  have hvalue : digitsValue ds = Nat.ofDigitChars 10 ds 0 := Nat.ofDigitChars_eq_foldl.symm
  have hdigits : (ds.isEmpty = false ∧ ds.all Char.isDigit) ↔ Digits ds := by
    rw [List.isEmpty_eq_false_iff, List.all_eq_true]
    exact ⟨fun h => ⟨h.1, h.2⟩, fun h => ⟨h.ne_nil, h.isDigit⟩⟩
  rw [magnitude?, Option.ite_none_right_eq_some, hdigits, hvalue, Option.some.injEq, eq_comm (a := m)]

theorem signed?_minus (ds : List Char) :
    signed? ('-' :: ds) = (magnitude? ds).map fun m : Nat => -(m : Int) := by
  rw [signed?]
  cases magnitude? ds <;> rfl

theorem signed?_plus (ds : List Char) : signed? ('+' :: ds) = (magnitude? ds).map Int.ofNat := rfl

theorem signed?_plain (hminus : ∀ ds, cs ≠ '-' :: ds) (hplus : ∀ ds, cs ≠ '+' :: ds) :
    signed? cs = (magnitude? cs).map Int.ofNat := by
  rw [signed?]
  · exact fun ds h => hminus ds h
  · exact fun ds h => hplus ds h

theorem signed?_eq_some_iff {z : Int} : signed? cs = some z ↔ Spells cs z := by
  constructor
  · intro h
    -- the cases are told apart by the first character
    by_cases hminus : ∃ ds, cs = '-' :: ds
    · obtain ⟨ds, rfl⟩ := hminus
      rw [signed?_minus] at h
      obtain ⟨m, hm, rfl⟩ := Option.map_eq_some_iff.mp h
      obtain ⟨hds, rfl⟩ := magnitude?_eq_some_iff.mp hm
      exact .minus hds
    · by_cases hplus : ∃ ds, cs = '+' :: ds
      · obtain ⟨ds, rfl⟩ := hplus
        rw [signed?_plus] at h
        obtain ⟨m, hm, rfl⟩ := Option.map_eq_some_iff.mp h
        obtain ⟨hds, rfl⟩ := magnitude?_eq_some_iff.mp hm
        exact .plus hds
      · rw [signed?_plain (not_exists.mp hminus) (not_exists.mp hplus)] at h
        obtain ⟨m, hm, rfl⟩ := Option.map_eq_some_iff.mp h
        obtain ⟨hds, rfl⟩ := magnitude?_eq_some_iff.mp hm
        exact .plain hds
  · intro h
    cases h with
    | minus hds =>
      rw [signed?_minus, magnitude?_eq_some_iff.mpr ⟨hds, rfl⟩]
      rfl
    | plus hds =>
      rw [signed?_plus, magnitude?_eq_some_iff.mpr ⟨hds, rfl⟩]
      rfl
    -- a digit in front is no sign
    | plain hds =>
      rw [signed?_plain, magnitude?_eq_some_iff.mpr ⟨hds, rfl⟩]
      · rfl
      · rintro ds rfl
        exact absurd hds.head_isDigit (by decide)
      · rintro ds rfl
        exact absurd hds.head_isDigit (by decide)

/-- **A numeral is read as the value that it spells.** -/
theorem read?_eq_some_iff : read? cs = some n ↔ Spells cs n.toInt := by
  rw [read?, Option.bind_eq_some_iff]
  simp only [Option.ite_none_right_eq_some, Option.some.injEq, signed?_eq_some_iff]
  constructor
  · rintro ⟨z, hz, ⟨hle, hge⟩, rfl⟩
    rwa [Int32.toInt_ofInt_of_le hle (by omega)]
  · intro h
    have hle := n.le_toInt
    have hlt := n.toInt_lt
    exact ⟨n.toInt, h, ⟨by omega, by omega⟩, n.ofInt_toInt⟩

theorem isNumeral_iff : IsNumeral cs ↔ ∃ n : Int32, Spells cs n.toInt := by
  constructor
  · rintro ⟨z, hz, hle, hge⟩
    refine ⟨Int32.ofInt z, ?_⟩
    rwa [Int32.toInt_ofInt_of_le hle (by omega)]
  · rintro ⟨n, h⟩
    have hlt := n.toInt_lt
    exact ⟨n.toInt, h, n.le_toInt, by omega⟩

/-- **Nothing else is read.** -/
theorem read?_eq_none_iff : read? cs = none ↔ ¬ IsNumeral cs := by
  rw [isNumeral_iff, Option.eq_none_iff_forall_ne_some, not_exists]
  simp only [ne_eq, read?_eq_some_iff]

theorem Spells.inj {y z : Int} (hy : Spells cs y) (hz : Spells cs z) : y = z :=
  Option.some.inj ((signed?_eq_some_iff.mpr hy).symm.trans (signed?_eq_some_iff.mpr hz))

/-! ## Writing -/

theorem digitChar_sub {d : Char} (h : d.isDigit = true) :
    (d.toNat - '0'.toNat).digitChar = d ∧ d.toNat - '0'.toNat < 10 := by
  obtain ⟨hle, hge⟩ := Char.isDigit_iff_toNat.mp h
  have hlow : '0'.toNat = 48 := rfl
  have hhigh : '9'.toNat = 57 := rfl
  obtain ⟨k, hk⟩ : ∃ k, d.toNat = 48 + k := ⟨d.toNat - 48, by omega⟩
  have hlt : k < 10 := by omega
  rw [hlow, hk, Nat.add_sub_cancel_left]
  refine ⟨?_, hlt⟩
  rw [← Char.ofNat_toNat d, hk]
  interval_cases k <;> rfl

theorem digits_toDigits (m : Nat) : Digits (Nat.toDigits 10 m) :=
  ⟨Nat.toDigits_ne_nil, fun _ => Nat.isDigit_of_mem_toDigits (by omega) (by omega)⟩

theorem toDigits_eq_zero_cons {m : Nat} (h : Nat.toDigits 10 m = '0' :: ds) : ds = [] ∧ m = 0 := by
  induction m using Nat.strong_induction_on generalizing ds with
  | _ m ih =>
    by_cases hm : m < 10
    · rw [Nat.toDigits_of_lt_base hm, List.cons.injEq] at h
      refine ⟨h.2.symm, ?_⟩
      have hzero := h.1
      clear h ih
      interval_cases m <;> first | rfl | exact absurd hzero (by decide)
    · -- what stands before the last digit starts with the zero as well
      rw [Nat.toDigits_of_base_le (by omega) (by omega)] at h
      obtain ⟨front, hfront⟩ : ∃ front, Nat.toDigits 10 (m / 10) = '0' :: front := by
        cases hq : Nat.toDigits 10 (m / 10) with
        | nil => exact absurd hq Nat.toDigits_ne_nil
        | cons d front =>
          rw [hq, List.cons_append, List.cons.injEq] at h
          exact ⟨front, by rw [h.1]⟩
      have hzero := (ih (m / 10) (by omega) hfront).2
      omega

/-- **Digits without leading zeros** are the digits of their value. -/
theorem toDigits_ofDigitChars (h : Digits ds) (hzeros : ∀ rest, ds = '0' :: rest → rest = []) :
    Nat.toDigits 10 (Nat.ofDigitChars 10 ds 0) = ds := by
  induction ds using List.reverseRecOn with
  | nil => exact absurd rfl h.ne_nil
  | append_singleton front d ih =>
    obtain ⟨hchar, hlt⟩ := digitChar_sub (h.isDigit d (by simp))
    rw [Nat.ofDigitChars_append, Nat.ofDigitChars_cons, Nat.ofDigitChars_nil]
    by_cases hfront : front = []
    · subst hfront
      rw [Nat.ofDigitChars_nil, Nat.mul_zero, Nat.zero_add, Nat.toDigits_of_lt_base hlt, hchar]
      rfl
    · have hdigits : Digits front := ⟨hfront, fun c hc => h.isDigit c (List.mem_append_left _ hc)⟩
      -- a zero in front would stand before the last digit
      have hhead : ∀ rest, front ≠ '0' :: rest := by
        rintro rest rfl
        exact absurd (hzeros (rest ++ [d]) rfl) (by simp)
      have hvalue := ih hdigits fun rest hrest => absurd hrest (hhead rest)
      have hpos : 0 < Nat.ofDigitChars 10 front 0 := by
        rw [Nat.pos_iff_ne_zero]
        intro hzero
        rw [hzero, Nat.toDigits_zero] at hvalue
        exact hhead [] hvalue.symm
      rw [← Nat.toDigits_append_toDigits (by omega) hpos hlt, hvalue, Nat.toDigits_of_lt_base hlt, hchar]

theorem spells_write (n : Int32) : Spells (write n) n.toInt := by
  have hvalue : Nat.ofDigitChars 10 (Nat.toDigits 10 n.toInt.natAbs) 0 = n.toInt.natAbs :=
    Nat.ofDigitChars_ten_toDigits
  rw [write]
  split
  · have hminus := Spells.minus (digits_toDigits n.toInt.natAbs)
    rwa [hvalue, show -(n.toInt.natAbs : Int) = n.toInt by omega] at hminus
  · have hplain := Spells.plain (digits_toDigits n.toInt.natAbs)
    rwa [hvalue, show (n.toInt.natAbs : Int) = n.toInt by omega] at hplain

theorem canonical_write (n : Int32) : Canonical (write n) := by
  -- a sign is written only in front of a number below zero, and its digits start with no zero
  have hdigits := digits_toDigits n.toInt.natAbs
  rw [write]
  split
  · refine ⟨by simp, ?_, ?_⟩
    · rintro ds (h | h)
      · exact absurd h (by simp)
      · exact (toDigits_eq_zero_cons (List.cons.inj h).2).1
    · intro h
      have hzero := (toDigits_eq_zero_cons (List.cons.inj h).2).2
      omega
  · refine ⟨?_, ?_, ?_⟩
    · intro h
      exact absurd (hdigits.isDigit _ (List.mem_of_mem_head? h)) (by decide)
    · rintro ds (h | h)
      · exact (toDigits_eq_zero_cons h).1
      · exact absurd (hdigits.isDigit '-' (by simp [h])) (by decide)
    · intro h
      exact absurd (hdigits.isDigit '-' (by simp [h])) (by decide)

/-- **The canonical numeral of a value is what is written.** -/
theorem write_eq_iff (h : Spells cs n.toInt) : write n = cs ↔ Canonical cs := by
  constructor
  · rintro rfl
    exact canonical_write n
  · intro hc
    rw [write]
    generalize hz : n.toInt = z at h
    -- a numeral with a plus sign is never written, and one with a minus sign is not zero
    cases h with
    | plain hds =>
      rw [if_neg (by omega), Int.natAbs_natCast,
        toDigits_ofDigitChars hds fun rest hrest => hc.no_zeros rest (Or.inl hrest)]
    | plus hds => exact absurd rfl hc.unsigned
    | @minus ds hds =>
      have hdigits := toDigits_ofDigitChars hds fun rest hrest =>
        hc.no_zeros rest (Or.inr (congrArg (List.cons '-') hrest))
      have hne : Nat.ofDigitChars 10 ds 0 ≠ 0 := by
        intro hzero
        rw [hzero, Nat.toDigits_zero] at hdigits
        exact hc.no_signed_zero (by rw [← hdigits])
      rw [if_pos (by omega), Int.natAbs_neg, Int.natAbs_natCast, hdigits]

theorem Spells.dot_notMem {z : Int} (h : Spells cs z) : '.' ∉ cs := by
  have hdot : ∀ {ds : List Char}, Digits ds → '.' ∉ ds := fun hds hmem =>
    absurd (hds.isDigit '.' hmem) (by decide)
  cases h with
  | plain hds => exact hdot hds
  | plus hds => simpa using hdot hds
  | minus hds => simpa using hdot hds

end LiveSwap.Text.Numeral

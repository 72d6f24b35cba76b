import LvglPlatform.Foundation.KeyLines
import LvglPlatform.Package.CanonicalJson

namespace LvglPlatform

open Foundation

def isSpace (c : UInt8) : Bool := c = 32 || (9 ≤ c && c ≤ 13)

/-- `std::strtoull` in base ten, of a text that is a number as a whole and in range. -/
def strtoull (digits : Bytes) : Option UInt64 :=
  let unsigned := (digits.takeWhile (· ≠ 0)).dropWhile isSpace
  let negative := unsigned.head? = some (chr '-')
  let magnitude := if negative ∨ unsigned.head? = some (chr '+') then unsigned.tail else unsigned
  if magnitude = [] ∨ !magnitude.all isDigit ∨ digitsValue magnitude ≥ 2 ^ 64 then none
  else
    let value := UInt64.ofNat (digitsValue magnitude)
    some (if negative then 0 - value else value)

/-- `std::strtol` in base ten, of a text that is a number as a whole and in range. -/
def strtol (digits : Bytes) : Option ℤ :=
  let unsigned := (digits.takeWhile (· ≠ 0)).dropWhile isSpace
  let negative := unsigned.head? = some (chr '-')
  let magnitude := if negative ∨ unsigned.head? = some (chr '+') then unsigned.tail else unsigned
  let value : ℤ := if negative then -digitsValue magnitude else digitsValue magnitude
  if magnitude = [] ∨ !magnitude.all isDigit ∨ value < -2 ^ 63 ∨ value ≥ 2 ^ 63 then none else some value

lemma digit_plain {c : UInt8} (h : isDigit c = true) : c ≠ 0 ∧ isSpace c = false := by
  rw [isDigit, Bool.and_eq_true, decide_eq_true_eq, decide_eq_true_eq] at h
  have hlow : 48 ≤ c.toNat := UInt8.le_iff_toNat_le.mp h.1
  rw [isSpace, Bool.or_eq_false_iff, Bool.and_eq_false_iff, decide_eq_false_iff_not,
    decide_eq_false_iff_not, decide_eq_false_iff_not]
  refine ⟨?_, ?_, Or.inr fun hle => ?_⟩
  · rintro rfl
    exact absurd hlow (by decide)
  · rintro rfl
    exact absurd hlow (by decide)
  · have hle : c.toNat ≤ 13 := UInt8.le_iff_toNat_le.mp hle
    omega

section

variable {digits : Bytes} (hne : digits ≠ []) (hall : ∀ c ∈ digits, isDigit c = true)

include hne hall

lemma digits_scanned : (digits.takeWhile (· ≠ 0)).dropWhile isSpace = digits ∧
    digits.head? ≠ some (chr '-') ∧ digits.head? ≠ some (chr '+') ∧ digits.all isDigit = true := by
  have htake : digits.takeWhile (· ≠ 0) = digits := by
    rw [List.takeWhile_eq_self_iff]
    exact fun c hc => decide_eq_true (digit_plain (hall c hc)).1
  have hdrop : digits.dropWhile isSpace = digits := by
    obtain ⟨c, rest, rfl⟩ := List.exists_cons_of_ne_nil hne
    rw [List.dropWhile_cons_of_neg (by simp [(digit_plain (hall c List.mem_cons_self)).2])]
  refine ⟨by rw [htake, hdrop], ?_, ?_, List.all_eq_true.mpr hall⟩
  · intro hc
    exact absurd (hall _ (List.mem_of_head? hc)) (by decide)
  · intro hc
    exact absurd (hall _ (List.mem_of_head? hc)) (by decide)

lemma strtoull_digits (h : digitsValue digits < 2 ^ 64) :
    strtoull digits = some (UInt64.ofNat (digitsValue digits)) := by
  obtain ⟨hscan, hminus, hplus, hdigits⟩ := digits_scanned hne hall
  simp only [strtoull, hscan, hminus, hplus, false_or, if_false, hdigits]
  simpa [hne] using h

lemma strtol_digits (h : digitsValue digits < 2 ^ 63) : strtol digits = some (digitsValue digits : ℤ) := by
  obtain ⟨hscan, hminus, hplus, hdigits⟩ := digits_scanned hne hall
  simp only [strtol, hscan, hminus, hplus, false_or, if_false, hdigits]
  rw [if_neg]
  simp only [hne, Bool.not_true, Bool.false_eq_true, false_or, not_or, not_lt, not_le]
  omega

end

lemma decimal_digit {n : ℕ} : ∀ c ∈ decimal n, isDigit c = true := by
  intro c hc
  obtain ⟨hlow, hhigh⟩ := decimal_range hc
  rw [isDigit, Bool.and_eq_true, decide_eq_true_eq, decide_eq_true_eq]
  exact ⟨UInt8.le_iff_toNat_le.mpr hlow, UInt8.le_iff_toNat_le.mpr hhigh⟩

lemma strtoull_decimal {n : ℕ} (h : n < 2 ^ 64) : strtoull (decimal n) = some (UInt64.ofNat n) := by
  have hne : decimal n ≠ [] := by simp [decimal]
  have hvalue : digitsValue (decimal n) = n := digitsValue_toDigits n
  have hread := strtoull_digits hne decimal_digit (by rwa [hvalue])
  rwa [hvalue] at hread

lemma strtol_decimal {n : ℕ} (h : n < 2 ^ 63) : strtol (decimal n) = some (n : ℤ) := by
  have hne : decimal n ≠ [] := by simp [decimal]
  have hvalue : digitsValue (decimal n) = n := digitsValue_toDigits n
  have hread := strtol_digits hne decimal_digit (by rwa [hvalue])
  rwa [hvalue] at hread

end LvglPlatform

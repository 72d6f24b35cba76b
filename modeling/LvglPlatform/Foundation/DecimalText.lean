import LvglPlatform.Foundation.KeyLines

/-! Decimal numbers in texts, as `std::from_chars` reads them into a type of bounded integers. -/

namespace Foundation

structure IntegerType where
  signed : Bool
  lowest : ℤ
  highest : ℤ

def int32 : IntegerType := ⟨true, -2 ^ 31, 2 ^ 31 - 1⟩

def uint32 : IntegerType := ⟨false, 0, 2 ^ 32 - 1⟩

def uint16 : IntegerType := ⟨false, 0, 2 ^ 16 - 1⟩

/-- The number at the start of a text and what follows it; none if there is none or it does not fit. -/
def IntegerType.fromChars (type : IntegerType) (text : Bytes) : Option (ℤ × Bytes) :=
  let negative := type.signed && text.head? = some (chr '-')
  let unsigned := if negative then text.tail else text
  let digits := unsigned.takeWhile isDigit
  let number : ℤ := if negative then -digitsValue digits else digitsValue digits
  if digits = [] ∨ number < type.lowest ∨ number > type.highest then none
  else some (number, unsigned.dropWhile isDigit)

/-- The text is the decimal notation of the number: digits, with a minus before them if the type has
one. -/
inductive Decimal (signed : Bool) : Bytes → ℤ → Prop
  | natural (digits : Bytes) : digits ≠ [] → (∀ c ∈ digits, isDigit c = true) →
      Decimal signed digits (digitsValue digits)
  | negative (digits : Bytes) : signed = true → digits ≠ [] → (∀ c ∈ digits, isDigit c = true) →
      Decimal signed (chr '-' :: digits) (-digitsValue digits)

lemma minus_not_digit : isDigit (chr '-') = false := by decide

lemma digits_head {digits : Bytes} (h : ∀ c ∈ digits, isDigit c = true) :
    digits.head? ≠ some (chr '-') := by
  intro hhead
  have hdigit := h _ (List.mem_of_head? hhead)
  rw [minus_not_digit] at hdigit
  cases hdigit

lemma takeWhile_dropWhile_digits {text : Bytes} (h : text.dropWhile isDigit = []) :
    text.takeWhile isDigit = text ∧ ∀ c ∈ text, isDigit c = true := by
  have hall := List.dropWhile_eq_nil_iff.mp h
  exact ⟨List.takeWhile_eq_self_iff.mpr hall, hall⟩

lemma takeWhile_digits {digits : Bytes} (h : ∀ c ∈ digits, isDigit c = true) :
    digits.takeWhile isDigit = digits ∧ digits.dropWhile isDigit = [] :=
  ⟨List.takeWhile_eq_self_iff.mpr h, List.dropWhile_eq_nil_iff.mpr h⟩

lemma IntegerType.fromChars_all {type : IntegerType} {text : Bytes} {number : ℤ} :
    type.fromChars text = some (number, []) ↔
      Decimal type.signed text number ∧ type.lowest ≤ number ∧ number ≤ type.highest := by
  constructor
  · intro h
    cases hnegative : (type.signed && text.head? = some (chr '-')) with
    | true =>
      simp only [IntegerType.fromChars, hnegative, if_true, Option.ite_none_left_eq_some, not_or,
        not_lt, Option.some.injEq, Prod.mk.injEq] at h
      obtain ⟨⟨hdigits, hlowest, hhighest⟩, hnumber, hrest⟩ := h
      obtain ⟨htake, hall⟩ := takeWhile_dropWhile_digits hrest
      rw [hnumber] at hlowest hhighest
      rw [htake] at hnumber hdigits
      simp only [Bool.and_eq_true, decide_eq_true_eq] at hnegative
      obtain ⟨hsigned, hhead⟩ := hnegative
      obtain ⟨tail, rfl⟩ := List.head?_eq_some_iff.mp hhead
      refine ⟨?_, hlowest, hhighest⟩
      rw [← hnumber]
      exact .negative tail hsigned hdigits hall
    | false =>
      simp only [IntegerType.fromChars, hnegative, Bool.false_eq_true, if_false,
        Option.ite_none_left_eq_some, not_or, not_lt, Option.some.injEq, Prod.mk.injEq] at h
      obtain ⟨⟨hdigits, hlowest, hhighest⟩, hnumber, hrest⟩ := h
      obtain ⟨htake, hall⟩ := takeWhile_dropWhile_digits hrest
      rw [hnumber] at hlowest hhighest
      rw [htake] at hnumber hdigits
      refine ⟨?_, hlowest, hhighest⟩
      rw [← hnumber]
      exact .natural text hdigits hall
  · rintro ⟨hdecimal, hlowest, hhighest⟩
    rw [IntegerType.fromChars]
    cases hdecimal with
    | natural _ hne hall =>
      obtain ⟨htake, hdrop⟩ := takeWhile_digits hall
      have hpositive : (type.signed && decide (text.head? = some (chr '-'))) = false := by
        simp [digits_head hall]
      simp only [hpositive, Bool.false_eq_true, if_false, htake, hdrop]
      rw [if_neg (by simp only [not_or, not_lt]; exact ⟨hne, hlowest, hhighest⟩)]
    | negative digits hsigned hne hall =>
      obtain ⟨htake, hdrop⟩ := takeWhile_digits hall
      simp only [hsigned, List.head?_cons, decide_true, Bool.and_self, if_true, List.tail_cons, htake,
        hdrop]
      rw [if_neg (by simp only [not_or, not_lt]; exact ⟨hne, hlowest, hhighest⟩)]

lemma Decimal.ne_nil {signed : Bool} {text : Bytes} {n : ℤ} (h : Decimal signed text n) :
    text ≠ [] := by
  cases h with
  | natural _ hne => exact hne
  | negative => exact List.cons_ne_nil _ _

lemma Decimal.unique {signed : Bool} {text : Bytes} {m n : ℤ} (hm : Decimal signed text m)
    (hn : Decimal signed text n) : m = n := by
  cases hm with
  | natural _ _ hall =>
    cases hn with
    | natural => rfl
    | negative digits =>
      have hdigit := hall _ List.mem_cons_self
      rw [minus_not_digit] at hdigit
      cases hdigit
  | negative digits =>
    cases hn with
    | natural _ _ hall =>
      have hdigit := hall _ List.mem_cons_self
      rw [minus_not_digit] at hdigit
      cases hdigit
    | negative => rfl

lemma Decimal.digits {signed : Bool} {text : Bytes} {n : ℤ} (h : Decimal signed text n) (hn : 0 < n) :
    text ≠ [] ∧ (∀ c ∈ text, isDigit c = true) ∧ (digitsValue text : ℤ) = n := by
  cases h with
  | natural _ hne hall => exact ⟨hne, hall, rfl⟩
  | negative digits => omega

end Foundation

import LvglPlatform.Foundation.KeyLines

/-! Fields between separators, found from a running position; numbers that are read digit by digit under a bound. -/

namespace Foundation

lemma drop_field {α : Type} {separator : α} {s field rest : List α} {start : ℕ}
    (hfield : s.drop start = field ++ separator :: rest) : s.drop (start + field.length + 1) = rest := by
  rw [Nat.add_assoc, ← List.drop_drop, hfield, ← List.drop_drop, List.drop_left, List.drop_one, List.tail_cons]

section

variable {α : Type} [DecidableEq α] {separator : α} {s field rest : List α} {start : ℕ}

def findFrom (separator : α) (s : List α) (start : ℕ) : Option ℕ :=
  ((s.drop start).idxOf? separator).map (start + ·)

lemma findFrom_eq_none : findFrom separator s start = none ↔ separator ∉ s.drop start := by
  rw [findFrom, Option.map_eq_none_iff, List.idxOf?_eq_none_iff]

lemma findFrom_of_field (hfield : s.drop start = field ++ separator :: rest) (hfree : separator ∉ field) :
    findFrom separator s start = some (start + field.length) := by
  have hindex : (s.drop start).idxOf? separator = some field.length := by
    rw [hfield, List.idxOf?_eq_some_iff]
    refine ⟨by simp, by simp, fun j hj heq => hfree ?_⟩
    rw [List.getElem_append_left hj] at heq
    rw [← heq]
    apply List.getElem_mem
  rw [findFrom, hindex, Option.map_some]

end

def digitsFrom (number : ℕ) (digits : Bytes) : ℕ := digits.foldl (fun n c => 10 * n + (c.toNat - 48)) number

lemma digitsFrom_cons (number : ℕ) (c : UInt8) (digits : Bytes) :
    digitsFrom number (c :: digits) = digitsFrom (10 * number + (c.toNat - 48)) digits := by
  rw [digitsFrom, List.foldl_cons, digitsFrom]

lemma le_digitsFrom (number : ℕ) (digits : Bytes) : number ≤ digitsFrom number digits := by
  induction digits generalizing number with
  | nil => exact le_rfl
  | cons c digits ih =>
    have hrest := ih (10 * number + (c.toNat - 48))
    rw [digitsFrom_cons]
    omega

/-- A guard by division is exact: it holds where one digit more would exceed the bound. -/
lemma div_lt_iff_exceeds {bound number digit : ℕ} (h : digit ≤ bound) :
    (bound - digit) / 10 < number ↔ bound < number * 10 + digit := by
  rw [Nat.div_lt_iff_lt_mul (by decide)]
  omega

lemma map_lt_map {α β : Type} [LT α] [LT β] {f : α → β} (hlt : ∀ {a b}, f a < f b ↔ a < b)
    (hf : Function.Injective f) {l l' : List α} : l.map f < l'.map f ↔ l < l' := by
  induction l generalizing l' with
  | nil =>
    cases l' with
    | nil => exact iff_of_false (List.not_lt_nil _) (List.not_lt_nil _)
    | cons b l' => exact iff_of_true (List.nil_lt_cons _ _) (List.nil_lt_cons _ _)
  | cons a l ih =>
    cases l' with
    | nil => exact iff_of_false (List.not_lt_nil _) (List.not_lt_nil _)
    | cons b l' =>
      rw [List.map_cons, List.map_cons, List.cons_lt_cons_iff, List.cons_lt_cons_iff, hlt, hf.eq_iff, ih]

end Foundation

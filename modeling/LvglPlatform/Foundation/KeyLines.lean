import LvglPlatform.Foundation.Bytes

namespace Foundation

section

variable {α : Type} [DecidableEq α] (separator : α)

/-- The lines of a text; what follows the last separator is a line unless it is empty. -/
def linesOf : List α → List (List α)
  | [] => []
  | a :: rest =>
    if a = separator then [] :: linesOf rest
    else match linesOf rest with
      | [] => [[a]]
      | line :: lines => (a :: line) :: lines

def splitFirst : List α → Option (List α × List α)
  | [] => none
  | a :: rest =>
    if a = separator then some ([], rest)
    else (splitFirst rest).map fun parts => (a :: parts.1, parts.2)

variable {separator}

lemma linesOf_line {line : List α} (h : separator ∉ line) (rest : List α) :
    linesOf separator (line ++ separator :: rest) = line :: linesOf separator rest := by
  induction line with
  | nil => rw [List.nil_append, linesOf, if_pos rfl]
  | cons a line ih =>
    obtain ⟨ha, hline⟩ := List.ne_and_not_mem_of_not_mem_cons h
    rw [List.cons_append, linesOf, if_neg ha.symm, ih hline]

lemma linesOf_flatMap {lines : List (List α)} (h : ∀ line ∈ lines, separator ∉ line) :
    linesOf separator (lines.flatMap fun line => line ++ [separator]) = lines := by
  induction lines with
  | nil => rfl
  | cons line lines ih =>
    obtain ⟨hline, hlines⟩ := List.forall_mem_cons.mp h
    rw [List.flatMap_cons, List.append_assoc, List.singleton_append, linesOf_line hline, ih hlines]

lemma linesOf_free (s : List α) : ∀ line ∈ linesOf separator s, separator ∉ line := by
  induction s with
  | nil => simp [linesOf]
  | cons a s ih =>
    rw [linesOf]
    split <;> rename_i ha
    · exact List.forall_mem_cons.mpr ⟨List.not_mem_nil, ih⟩
    · cases hlines : linesOf separator s with
      | nil => simpa using Ne.symm ha
      | cons line lines =>
        obtain ⟨hline, hrest⟩ := List.forall_mem_cons.mp (hlines ▸ ih)
        refine List.forall_mem_cons.mpr ⟨?_, hrest⟩
        exact List.not_mem_cons_of_ne_of_not_mem (Ne.symm ha) hline

lemma linesOf_terminated {s : List α} (h : ∀ a ∈ s.getLast?, a = separator) :
    (linesOf separator s).flatMap (fun line => line ++ [separator]) = s := by
  induction s with
  | nil => rfl
  | cons a s ih =>
    have hrest : ∀ b ∈ s.getLast?, b = separator := by
      intro b hb
      cases s with
      | nil => cases hb
      | cons c s => exact h b (by rwa [List.getLast?_cons_cons])
    rw [linesOf]
    split <;> rename_i ha
    · rw [List.flatMap_cons, ih hrest, ha]
      rfl
    · have hs := ih hrest
      cases hlines : linesOf separator s with
      | nil =>
        -- the last unit of such a text would not be a separator
        rw [hlines] at hs
        subst hs
        exact absurd (h a rfl) ha
      | cons line lines =>
        rw [hlines] at hs
        rw [← hs]
        rfl

lemma splitFirst_some {s key value : List α} (h : splitFirst separator s = some (key, value)) :
    s = key ++ separator :: value ∧ separator ∉ key := by
  induction s generalizing key with
  | nil => cases h
  | cons a s ih =>
    rw [splitFirst] at h
    split at h <;> rename_i ha
    · obtain ⟨rfl, rfl⟩ := Prod.mk.inj (Option.some.inj h)
      exact ⟨by rw [ha]; rfl, List.not_mem_nil⟩
    · obtain ⟨⟨first, rest⟩, hsplit, he⟩ := Option.map_eq_some_iff.mp h
      obtain ⟨rfl, rfl⟩ := Prod.mk.inj he
      obtain ⟨rfl, hfree⟩ := ih hsplit
      exact ⟨rfl, List.not_mem_cons_of_ne_of_not_mem (Ne.symm ha) hfree⟩

lemma find?_key {β : Type} {fields : List (List α × β)} {key : List α} {value : β}
    (hkeys : (fields.map Prod.fst).Nodup) (h : (key, value) ∈ fields) :
    fields.find? (fun field => field.1 = key) = some (key, value) := by
  induction fields with
  | nil => cases h
  | cons field fields ih =>
    obtain ⟨hfirst, hrest⟩ := List.nodup_cons.mp hkeys
    rcases List.mem_cons.mp h with rfl | h
    · rw [List.find?_cons_of_pos (by simp)]
    · have hne : field.1 ≠ key := by
        rintro rfl
        exact hfirst (List.mem_map.mpr ⟨_, h, rfl⟩)
      rw [List.find?_cons_of_neg (by simpa using hne), ih hrest h]

lemma splitFirst_append {key : List α} (h : separator ∉ key) (value : List α) :
    splitFirst separator (key ++ separator :: value) = some (key, value) := by
  induction key with
  | nil => rw [List.nil_append, splitFirst, if_pos rfl]
  | cons a key ih =>
    obtain ⟨ha, hkey⟩ := List.ne_and_not_mem_of_not_mem_cons h
    rw [List.cons_append, splitFirst, if_neg ha.symm, ih hkey, Option.map_some]

end

def digitsValue (digits : Bytes) : ℕ := digits.foldl (fun n c => 10 * n + (c.toNat - 48)) 0

lemma digitsValue_toDigits (n : ℕ) : digitsValue ((Nat.toDigits 10 n).map chr) = n := by
  have hfold : ∀ (cs : List Char) (k : ℕ), (∀ c ∈ cs, c.isDigit = true) →
      (cs.map chr).foldl (fun n (c : UInt8) => 10 * n + (c.toNat - 48)) k = Nat.ofDigitChars 10 cs k := by
    intro cs
    induction cs with
    | nil => exact fun _ _ => rfl
    | cons c cs ih =>
      intro k hcs
      obtain ⟨hc, hcs⟩ := List.forall_mem_cons.mp hcs
      simp only [Char.isDigit, Bool.and_eq_true, decide_eq_true_eq] at hc
      have hhigh : c.toNat ≤ 57 := UInt32.le_iff_toNat_le.mp hc.2
      have hchr : (chr c).toNat = c.toNat := by
        rw [chr, UInt8.toNat_ofNat', Nat.mod_eq_of_lt (by omega)]
      rw [List.map_cons, List.foldl_cons, Nat.ofDigitChars_cons, hchr]
      exact ih _ hcs
  have hdigits := hfold (Nat.toDigits 10 n) 0 fun c hc =>
    Nat.isDigit_of_mem_toDigits (by omega) (by omega) hc
  rw [digitsValue, hdigits, Nat.ofDigitChars_ten_toDigits]

end Foundation

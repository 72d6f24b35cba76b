import LvglPlatform.Foundation.SortUnique

/-! A list that is fetched element by element, each from another state of what is listed. -/

namespace Foundation

variable {ε α : Type}

/-- Asking for so many elements, from an index on, until an answer fails. -/
def collect (answer : ℕ → Except ε α) : ℕ → ℕ → Except ε (List α)
  | _, 0 => .ok []
  | index, remaining + 1 =>
    match answer index with
    | .error e => .error e
    | .ok a =>
      match collect answer (index + 1) remaining with
      | .error e => .error e
      | .ok rest => .ok (a :: rest)

lemma collect_length {answer : ℕ → Except ε α} {index n : ℕ} {l : List α}
    (h : collect answer index n = .ok l) : l.length = n := by
  induction n generalizing index l with
  | zero =>
    obtain rfl := Except.ok.inj h
    rfl
  | succ n ih =>
    rw [collect] at h
    split at h
    · cases h
    split at h
    · cases h
    rename_i rest hrest
    obtain rfl := Except.ok.inj h
    rw [List.length_cons, ih hrest]

lemma collect_answer {answer : ℕ → Except ε α} {index n : ℕ} {l : List α}
    (h : collect answer index n = .ok l) {i : ℕ} {a : α} (ha : l[i]? = some a) :
    answer (index + i) = .ok a := by
  induction n generalizing index l i with
  | zero =>
    obtain rfl := Except.ok.inj h
    cases ha
  | succ n ih =>
    rw [collect] at h
    split at h
    · cases h
    rename_i first hfirst
    split at h
    · cases h
    rename_i rest hrest
    obtain rfl := Except.ok.inj h
    cases i with
    | zero =>
      obtain rfl := Option.some.inj ha
      exact hfirst
    | succ i =>
      have hlater := ih hrest ha
      rw [Nat.add_right_comm] at hlater
      exact hlater

lemma collect_succeeds {answer : ℕ → Except ε α} {index n : ℕ}
    (h : ∀ i < n, ∃ a, answer (index + i) = .ok a) : ∃ l, collect answer index n = .ok l := by
  induction n generalizing index with
  | zero => exact ⟨[], rfl⟩
  | succ n ih =>
    obtain ⟨a, ha⟩ := h 0 (Nat.succ_pos n)
    have hlater : ∀ i < n, ∃ a, answer (index + 1 + i) = .ok a := by
      intro i hi
      obtain ⟨b, hb⟩ := h (i + 1) (by omega)
      rw [← Nat.add_assoc, Nat.add_right_comm] at hb
      exact ⟨b, hb⟩
    obtain ⟨rest, hrest⟩ := ih hlater
    refine ⟨a :: rest, ?_⟩
    rw [collect, ← Nat.add_zero index, ha]
    simp only [Nat.add_zero, hrest]

section

variable {β : Type} [DecidableEq β]

def place (key : α → β) (le : β → β → Bool) (l : List α) (a : α) : ℕ :=
  l.countP fun b => le (key b) (key a) && key b ≠ key a

/-- Where the elements were `lists 0` when they were counted and `lists (i + 1)` when the one at index `i`
was fetched: between one of these lists, of the counted size, and the fetching of its elements none of
them has gone or has moved. -/
def Undisplaced (key : α → β) (le : β → β → Bool) (lists : ℕ → Option (List α)) (count : ℕ) : Prop :=
  ∃ j ≤ count, ∃ l, lists j = some l ∧ l.length = count ∧ ∀ a ∈ l, ∃ later,
    lists (place key le l a + 1) = some later ∧ a ∈ later ∧ place key le later a = place key le l a

variable {key : α → β} {le : β → β → Bool}

lemma undisplaced_unchanged {lists : ℕ → Option (List α)} {l : List α} (h : ∀ n, lists n = some l) :
    Undisplaced key le lists l.length :=
  ⟨0, Nat.zero_le _, l, h 0, rfl, fun _ ha => ⟨l, h _, ha, rfl⟩⟩

variable (hle : LinearKeys le)

include hle

lemma place_head {a : α} {l : List α} (h : ∀ b ∈ l, le (key a) (key b) = true ∧ key a ≠ key b) :
    place key le (a :: l) a = 0 := by
  rw [place, List.countP_eq_zero]
  intro b hb
  rcases List.mem_cons.mp hb with rfl | hb
  · simp
  · obtain ⟨hab, hne⟩ := h b hb
    have hba : le (key b) (key a) = false := by
      by_contra hba
      exact hne (hle.antisymm _ _ hab ((Bool.not_eq_false _).mp hba))
    simp [hba]

omit hle in
lemma place_tail {a b : α} {l : List α} (hab : le (key a) (key b) = true) (hne : key a ≠ key b) :
    place key le (a :: l) b = place key le l b + 1 := by
  rw [place, List.countP_cons, if_pos (by simp [hab, hne])]
  rfl

lemma getElem?_iff_place {l : List α} {i : ℕ} {a : α}
    (h : l.Pairwise fun a b => le (key a) (key b) = true ∧ key a ≠ key b) :
    l[i]? = some a ↔ a ∈ l ∧ place key le l a = i := by
  induction l generalizing i with
  | nil => simp
  | cons b rest ih =>
    obtain ⟨hhead, hrest⟩ := List.pairwise_cons.mp h
    have hfirst : place key le (b :: rest) b = 0 := place_head hle hhead
    have hlater : a ∈ rest → place key le (b :: rest) a = place key le rest a + 1 :=
      fun ha => place_tail (hhead a ha).1 (hhead a ha).2
    cases i with
    | zero =>
      rw [List.getElem?_cons_zero, Option.some.injEq]
      constructor
      · rintro rfl
        exact ⟨List.mem_cons_self, hfirst⟩
      · rintro ⟨ha, hplace⟩
        rcases List.mem_cons.mp ha with rfl | ha
        · rfl
        · rw [hlater ha] at hplace
          cases hplace
    | succ i =>
      rw [List.getElem?_cons_succ, ih hrest]
      constructor
      · rintro ⟨ha, hplace⟩
        exact ⟨List.mem_cons_of_mem _ ha, (hlater ha).trans (congrArg (· + 1) hplace)⟩
      · rintro ⟨ha, hplace⟩
        rcases List.mem_cons.mp ha with rfl | ha
        · rw [hfirst] at hplace
          cases hplace
        · rw [hlater ha] at hplace
          exact ⟨ha, Nat.succ.inj hplace⟩

lemma undisplaced_iff {lists : ℕ → Option (List α)} {count : ℕ} {fetched : List α}
    (hsorted : ∀ n l, lists n = some l →
      l.Pairwise fun a b => le (key a) (key b) = true ∧ key a ≠ key b)
    (hlength : fetched.length = count)
    (hfetched : ∀ i < count, ∃ later, lists (i + 1) = some later ∧ later[i]? = fetched[i]?) :
    Undisplaced key le lists count ↔ ∃ j ≤ count, lists j = some fetched := by
  constructor
  · rintro ⟨j, hj, l, hl, hsize, hkept⟩
    have hsame : l = fetched := by
      apply List.ext_getElem?
      intro i
      by_cases hi : i < count
      · have ha : l[i]? = some l[i] := List.getElem?_eq_getElem (hsize ▸ hi)
        obtain ⟨hmem, hplace⟩ := (getElem?_iff_place hle (hsorted j l hl)).mp ha
        obtain ⟨later, hlater, hstays, hplaces⟩ := hkept _ hmem
        rw [hplace] at hlater hplaces
        obtain ⟨other, hother, hget⟩ := hfetched i hi
        obtain rfl := Option.some.inj (hlater.symm.trans hother)
        rw [ha, ← hget]
        exact ((getElem?_iff_place hle (hsorted _ later hlater)).mpr ⟨hstays, hplaces⟩).symm
      · rw [List.getElem?_eq_none (by omega), List.getElem?_eq_none (by omega)]
    exact ⟨j, hj, hsame ▸ hl⟩
  · rintro ⟨j, hj, hl⟩
    refine ⟨j, hj, fetched, hl, hlength, fun a ha => ?_⟩
    have hget := (getElem?_iff_place hle (hsorted j fetched hl)).mpr ⟨ha, rfl⟩
    generalize place key le fetched a = i at hget ⊢
    have hi : i < count := hlength ▸ (List.getElem?_eq_some_iff.mp hget).1
    obtain ⟨later, hlater, hsame⟩ := hfetched i hi
    rw [hget] at hsame
    exact ⟨later, hlater, (getElem?_iff_place hle (hsorted _ later hlater)).mp hsame⟩

end

end Foundation

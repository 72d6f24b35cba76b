import Mathlib

/-! Lists cut from the left into pairs of neighbours with one key, and what is left between them. -/

namespace Foundation

variable {α β κ : Type*}

inductive Piece (α : Type*)
  | single (a : α)
  | pair (a b : α)

namespace Piece

def toList : Piece α → List α
  | single a => [a]
  | pair a b => [a, b]

def first : Piece α → α
  | single a => a
  | pair a _ => a

def isPair : Piece α → Bool
  | single _ => false
  | pair _ _ => true

def map (f : α → β) : Piece α → Piece β
  | single a => single (f a)
  | pair a b => pair (f a) (f b)

lemma first_mem (p : Piece α) : p.first ∈ p.toList := by
  cases p <;> exact List.mem_cons_self

lemma length_toList (p : Piece α) : p.toList.length = 1 + p.isPair.toNat := by
  cases p <;> rfl

end Piece

variable [DecidableEq κ] {key : α → κ} {l : List α}

def pieces (key : α → κ) : List α → List (Piece α)
  | [] => []
  | [a] => [.single a]
  | a :: b :: rest =>
    if key b = key a then .pair a b :: pieces key rest else .single a :: pieces key (b :: rest)

lemma pieces_flatten (key : α → κ) (l : List α) : (pieces key l).flatMap Piece.toList = l := by
  induction l using pieces.induct key with
  | case1 => rfl
  | case2 a => rfl
  | case3 a b rest h ih =>
    rw [pieces, if_pos h, List.flatMap_cons, ih]
    rfl
  | case4 a b rest h ih =>
    rw [pieces, if_neg h, List.flatMap_cons, ih]
    rfl

lemma pieces_map (key : β → κ) (f : α → β) (l : List α) :
    pieces key (l.map f) = (pieces (key ∘ f) l).map (Piece.map f) := by
  induction l using pieces.induct (key ∘ f) with
  | case1 => rfl
  | case2 a => rfl
  | case3 a b rest h ih =>
    have hkey : key (f b) = key (f a) := h
    rw [List.map_cons, List.map_cons, pieces, if_pos hkey, pieces, if_pos h, ih]
    rfl
  | case4 a b rest h ih =>
    have hkey : key (f b) ≠ key (f a) := h
    rw [List.map_cons, List.map_cons, pieces, if_neg hkey, pieces, if_neg h, List.map_cons, ← ih]
    rfl

lemma key_of_pair {a b : α} (h : .pair a b ∈ pieces key l) : key b = key a := by
  induction l using pieces.induct key with
  | case1 => simp [pieces] at h
  | case2 c => simp [pieces] at h
  | case3 c d rest hkey ih =>
    rw [pieces, if_pos hkey] at h
    rcases List.mem_cons.mp h with h | h
    · obtain ⟨rfl, rfl⟩ := Piece.pair.inj h
      exact hkey
    · exact ih h
  | case4 c d rest hkey ih =>
    rw [pieces, if_neg hkey] at h
    rcases List.mem_cons.mp h with h | h
    · exact absurd h nofun
    · exact ih h

lemma pieces_length (key : α → κ) (l : List α) :
    (pieces key l).length + (pieces key l).countP Piece.isPair = l.length := by
  have hflatten := congrArg List.length (pieces_flatten key l)
  rw [List.length_flatMap] at hflatten
  rw [← hflatten]
  induction pieces key l with
  | nil => rfl
  | cons p ps ih =>
    rw [List.map_cons, List.sum_cons, ← ih, Piece.length_toList, List.length_cons, List.countP_cons]
    cases p.isPair
    · simp only [Bool.toNat_false, Bool.false_eq_true, if_false]
      omega
    · simp only [Bool.toNat_true, if_true]
      omega

lemma pieces_length_le (key : α → κ) (l : List α) : (pieces key l).length ≤ l.length := by
  have hlength := pieces_length key l
  omega

lemma pieces_length_eq_iff :
    (pieces key l).length = l.length ↔ l.IsChain fun a b => key b ≠ key a := by
  induction l using pieces.induct key with
  | case1 => simp [pieces]
  | case2 a => simp [pieces]
  | case3 a b rest h ih =>
    rw [pieces, if_pos h, List.isChain_cons_cons]
    have hle := pieces_length_le key rest
    simp only [List.length_cons]
    refine iff_of_false (by omega) fun hchain => hchain.1 h
  | case4 a b rest h ih =>
    rw [pieces, if_neg h, List.isChain_cons_cons, List.length_cons, List.length_cons, Nat.add_right_cancel_iff,
      ih]
    exact (and_iff_right h).symm

lemma pieces_eq_single (h : (pieces key l).length = l.length) : pieces key l = l.map .single := by
  induction l using pieces.induct key with
  | case1 => rfl
  | case2 a => rfl
  | case3 a b rest hkey ih =>
    rw [pieces, if_pos hkey, List.length_cons, List.length_cons, List.length_cons] at h
    have hle := pieces_length_le key rest
    omega
  | case4 a b rest hkey ih =>
    rw [pieces, if_neg hkey, List.length_cons, List.length_cons, Nat.add_right_cancel_iff] at h
    rw [pieces, if_neg hkey, ih h]
    rfl

lemma filter_flatMap_zipIdx {f : α → ℕ → List β} {p : β → Bool} {n k : ℕ}
    (h : ∀ x ∈ l.zipIdx n, ∀ b ∈ f x.1 x.2, (p b = true ↔ x.2 = k)) :
    ((l.zipIdx n).flatMap fun x => f x.1 x.2).filter p =
      if n ≤ k then (l[k - n]?).elim [] (f · k) else [] := by
  induction l generalizing n with
  | nil => simp
  | cons a l ih =>
    rw [List.zipIdx_cons, List.forall_mem_cons] at h
    rw [List.zipIdx_cons, List.flatMap_cons, List.filter_append, ih h.2]
    rcases lt_trichotomy n k with hlt | rfl | hgt
    · rw [List.filter_eq_nil_iff.mpr fun b hb hp => hlt.ne ((h.1 b hb).mp hp), if_pos (by omega),
        if_pos hlt.le, show k - n = (k - (n + 1)) + 1 by omega]
      rfl
    · rw [List.filter_eq_self.mpr fun b hb => (h.1 b hb).mpr rfl, if_neg (by omega), if_pos le_rfl,
        Nat.sub_self]
      exact List.append_nil _
    · rw [List.filter_eq_nil_iff.mpr fun b hb hp => hgt.ne' ((h.1 b hb).mp hp), if_neg (by omega),
        if_neg (by omega)]
      rfl

omit [DecidableEq κ] in
lemma flatMap_eq_of_unique {f : α → List β} {a : α} (hnodup : l.Nodup) (ha : a ∈ l)
    (h : ∀ b ∈ l, b ≠ a → f b = []) : l.flatMap f = f a := by
  obtain ⟨before, after, rfl⟩ := List.append_of_mem ha
  obtain ⟨-, hafter, hdisjoint⟩ := List.nodup_append.mp hnodup
  have hbefore : before.flatMap f = [] := List.flatMap_eq_nil_iff.mpr fun b hb =>
    h b (List.mem_append_left _ hb) (hdisjoint b hb a List.mem_cons_self)
  have hrest : after.flatMap f = [] := List.flatMap_eq_nil_iff.mpr fun b hb =>
    h b (List.mem_append_right _ (List.mem_cons_of_mem _ hb))
      fun he => (List.nodup_cons.mp hafter).1 (he ▸ hb)
  rw [List.flatMap_append, List.flatMap_cons, hbefore, hrest, List.nil_append, List.append_nil]

omit [DecidableEq κ] in
lemma sum_map_fiber [Fintype β] [DecidableEq β] (part : α → β) (f : α → ℕ) (l : List α) :
    ∑ b, ((l.filter (part · = b)).map f).sum = (l.map f).sum := by
  induction l with
  | nil => simp
  | cons a l ih =>
    have hstep : ∀ b, (((a :: l).filter (part · = b)).map f).sum =
        (if part a = b then f a else 0) + ((l.filter (part · = b)).map f).sum := by
      intro b
      by_cases h : part a = b
      · simp [h]
      · simp [h]
    simp only [hstep, Finset.sum_add_distrib, ih, Finset.sum_ite_eq, Finset.mem_univ, if_true,
      List.map_cons, List.sum_cons]

omit [DecidableEq κ] in
lemma sum_map_eq_sum_fin (f : α → ℕ) {n : ℕ} (h : l.length ≤ n) :
    (l.map f).sum = ∑ k : Fin n, (l[k.val]?).elim 0 f := by
  induction n generalizing l with
  | zero =>
    rw [List.length_eq_zero_iff.mp (Nat.le_zero.mp h)]
    rfl
  | succ n ih =>
    rw [Fin.sum_univ_succ]
    cases l with
    | nil => simp
    | cons a l =>
      rw [List.map_cons, List.sum_cons, ih (Nat.le_of_succ_le_succ h)]
      rfl

end Foundation

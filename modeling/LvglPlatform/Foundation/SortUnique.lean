import Mathlib

namespace Foundation

section

variable {α β : Type} [DecidableEq β] (key : α → β)

def uniqueAfter : Option β → List α → List α
  | _, [] => []
  | last, a :: rest =>
    if last = some (key a) then uniqueAfter last rest else a :: uniqueAfter (some (key a)) rest

def uniqueBy (l : List α) : List α := uniqueAfter key none l

def sortBy (le : β → β → Bool) (l : List α) : List α := l.mergeSort fun a b => le (key a) (key b)

def sortUnique (le : β → β → Bool) (l : List α) : List α := uniqueBy key (sortBy key le l)

variable {key} {le : β → β → Bool}

structure LinearKeys (le : β → β → Bool) : Prop where
  trans : ∀ a b c, le a b = true → le b c = true → le a c = true
  total : ∀ a b, (le a b || le b a) = true
  antisymm : ∀ a b, le a b = true → le b a = true → a = b

section

variable (hle : LinearKeys le)

include hle

lemma mem_uniqueAfter {last : Option β} {l : List α} {a : α}
    (hsorted : l.Pairwise fun a b => le (key a) (key b) = true)
    (hlast : ∀ k ∈ last, ∀ b ∈ l, le k (key b) = true) :
    a ∈ uniqueAfter key last l ↔ l.find? (fun b => key b = key a) = some a ∧ last ≠ some (key a) := by
  induction l generalizing last with
  | nil => simp [uniqueAfter]
  | cons b rest ih =>
    obtain ⟨hhead, hrest⟩ := List.pairwise_cons.mp hsorted
    have hrestLast : ∀ k ∈ last, ∀ c ∈ rest, le k (key c) = true :=
      fun k hk c hc => hlast k hk c (List.mem_cons_of_mem _ hc)
    rw [uniqueAfter]
    by_cases hb : key b = key a
    · rw [List.find?_cons_of_pos (by simpa using hb)]
      by_cases hl : last = some (key b)
      · rw [if_pos hl, ih hrest hrestLast, hl, hb]
        simp
      · rw [if_neg hl, List.mem_cons, ih hrest (by rintro _ ⟨⟩; exact hhead)]
        simp only [hb, ne_eq, not_true_eq_false, and_false, or_false, Option.some.injEq]
        rw [hb] at hl
        simp [hl, eq_comm]
    · rw [List.find?_cons_of_neg (by simpa using hb)]
      by_cases hl : last = some (key b)
      · rw [if_pos hl, ih hrest hrestLast]
      · rw [if_neg hl, List.mem_cons, ih hrest (by rintro _ ⟨⟩; exact hhead)]
        have hne : a ≠ b := by
          rintro rfl
          exact hb rfl
        simp only [hne, false_or, ne_eq, Option.some.injEq, hb, not_false_eq_true, and_true]
        constructor
        · intro hfind
          refine ⟨hfind, ?_⟩
          -- the last key is at most that of `b`, which is at most that of `a`
          rintro rfl
          have hab := hlast (key a) rfl b List.mem_cons_self
          have hba := hhead a (List.mem_of_find?_eq_some hfind)
          exact hb (hle.antisymm _ _ hba hab)
        · exact fun h => h.1

omit [DecidableEq β] in
lemma sortBy_pairwise (l : List α) :
    (sortBy key le l).Pairwise fun a b => le (key a) (key b) = true := by
  apply List.pairwise_mergeSort
  · exact fun _ _ _ => hle.trans _ _ _
  · exact fun _ _ => hle.total _ _

omit [DecidableEq β] in
lemma sortBy_strict {l : List α} (h : (l.map key).Nodup) :
    (sortBy key le l).Pairwise fun a b => le (key a) (key b) = true ∧ key a ≠ key b := by
  have hdistinct : (sortBy key le l).Pairwise fun a b => key a ≠ key b :=
    List.pairwise_map.mp (((List.mergeSort_perm l _).map key).nodup_iff.mpr h)
  exact (sortBy_pairwise hle l).and hdistinct

lemma sortBy_filter (l : List α) (k : β) :
    (sortBy key le l).filter (fun a => key a = k) = l.filter fun a => key a = k := by
  have hpairwise : (l.filter fun a => key a = k).Pairwise fun a b => le (key a) (key b) = true := by
    refine List.pairwise_iff_forall_sublist.mpr fun {a b} hab => ?_
    have ha := List.of_mem_filter (hab.subset List.mem_cons_self)
    have hb := List.of_mem_filter (hab.subset (List.mem_cons_of_mem _ List.mem_cons_self))
    simp only [decide_eq_true_eq] at ha hb
    rw [ha, hb]
    exact (Bool.or_self _).symm.trans (hle.total k k)
  have hsub : (l.filter fun a => key a = k).Sublist (sortBy key le l) := by
    apply List.sublist_mergeSort
    · exact fun _ _ _ => hle.trans _ _ _
    · exact fun _ _ => hle.total _ _
    · exact hpairwise
    · exact List.filter_sublist
  have hfilter := hsub.filter fun a => decide (key a = k)
  simp only [List.filter_filter, Bool.and_self] at hfilter
  have hlength : ((sortBy key le l).filter fun a => key a = k).length =
      (l.filter fun a => key a = k).length :=
    ((List.mergeSort_perm l _).filter _).length_eq
  exact (hfilter.eq_of_length hlength.symm).symm

/-- What sorting and dropping repeated keys leaves: the first element of each key. -/
lemma mem_sortUnique {l : List α} {a : α} :
    a ∈ sortUnique key le l ↔ l.find? (fun b => key b = key a) = some a := by
  rw [sortUnique, uniqueBy, mem_uniqueAfter hle (sortBy_pairwise hle l) (by simp)]
  simp only [ne_eq, reduceCtorEq, not_false_eq_true, and_true]
  rw [← List.head?_filter, ← List.head?_filter, sortBy_filter hle]

lemma uniqueAfter_strict {last : Option β} {l : List α}
    (hsorted : l.Pairwise fun a b => le (key a) (key b) = true)
    (hlast : ∀ k ∈ last, ∀ b ∈ l, le k (key b) = true) :
    (uniqueAfter key last l).Pairwise fun a b => le (key a) (key b) = true ∧ key a ≠ key b := by
  induction l generalizing last with
  | nil => exact .nil
  | cons b rest ih =>
    obtain ⟨hhead, hrest⟩ := List.pairwise_cons.mp hsorted
    rw [uniqueAfter]
    split
    · exact ih hrest fun k hk c hc => hlast k hk c (List.mem_cons_of_mem _ hc)
    · refine List.pairwise_cons.mpr ⟨?_, ih hrest (by rintro _ ⟨⟩; exact hhead)⟩
      intro c hc
      obtain ⟨hfind, hne⟩ := (mem_uniqueAfter hle hrest (by rintro _ ⟨⟩; exact hhead)).mp hc
      exact ⟨hhead c (List.mem_of_find?_eq_some hfind), fun h => hne (congrArg some h)⟩

lemma sortUnique_strict (l : List α) : (sortUnique key le l).Pairwise fun a b =>
    le (key a) (key b) = true ∧ key a ≠ key b :=
  uniqueAfter_strict hle (sortBy_pairwise hle l) (by simp)

end

end

section

variable {α β : Type} [DecidableEq β] {key : α → β}

lemma uniqueAfter_sublist (last : Option β) (l : List α) : (uniqueAfter key last l).Sublist l := by
  induction l generalizing last with
  | nil => exact List.Sublist.refl _
  | cons a rest ih =>
    rw [uniqueAfter]
    split
    · exact (ih _).cons _
    · exact (ih _).cons_cons _

lemma sortUnique_length (le : β → β → Bool) (l : List α) :
    (sortUnique key le l).length ≤ l.length := by
  have hsublist := (@uniqueAfter_sublist α β _ key none (sortBy key le l)).length_le
  rw [sortBy, List.length_mergeSort] at hsublist
  exact hsublist

omit [DecidableEq β] in
lemma sortBy_of_sorted {le : β → β → Bool} {l : List α}
    (h : l.Pairwise fun a b => le (key a) (key b) = true) : sortBy key le l = l :=
  List.mergeSort_of_pairwise h

lemma uniqueAfter_of_distinct {last : Option β} {l : List α}
    (hlast : ∀ a ∈ l, last ≠ some (key a)) (h : l.Pairwise fun a b => key a ≠ key b) :
    uniqueAfter key last l = l := by
  induction l generalizing last with
  | nil => rfl
  | cons a rest ih =>
    obtain ⟨hhead, hrest⟩ := List.pairwise_cons.mp h
    rw [uniqueAfter, if_neg (hlast a List.mem_cons_self), ih ?_ hrest]
    intro b hb heq
    exact hhead b hb (Option.some.inj heq)

lemma sortUnique_of_strict {le : β → β → Bool} {l : List α}
    (h : l.Pairwise fun a b => le (key a) (key b) = true ∧ key a ≠ key b) :
    sortUnique key le l = l := by
  have hdistinct : l.Pairwise fun a b => key a ≠ key b := h.imp fun h => h.2
  rw [sortUnique, sortBy_of_sorted (h.imp fun h => h.1), uniqueBy]
  exact uniqueAfter_of_distinct (fun a _ h => Option.some_ne_none _ h.symm) hdistinct

end

end Foundation

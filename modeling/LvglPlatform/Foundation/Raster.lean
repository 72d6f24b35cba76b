import Mathlib

namespace Foundation

def rowMajor (stride row column : ℕ) : ℕ := row * stride + column

section

variable {stride row row' column column' height : ℕ}

lemma rowMajor_lt (hrow : row < height) (hcolumn : column < stride) :
    rowMajor stride row column < stride * height := by
  calc rowMajor stride row column < row * stride + stride := Nat.add_lt_add_left hcolumn _
    _ = stride * (row + 1) := by ring
    _ ≤ stride * height := Nat.mul_le_mul_left stride hrow

lemma rowMajor_inj (h : column < stride) (h' : column' < stride) :
    rowMajor stride row column = rowMajor stride row' column' ↔ row = row' ∧ column = column' := by
  constructor
  · intro heq
    have hstride : 0 < stride := Nat.zero_lt_of_lt h
    have hrow : ∀ r c, c < stride → rowMajor stride r c / stride = r := by
      intro r c hc
      rw [rowMajor, Nat.mul_comm, Nat.mul_add_div hstride, Nat.div_eq_of_lt hc, Nat.add_zero]
    have hrows : row = row' := by rw [← hrow row column h, heq, hrow row' column' h']
    rw [rowMajor, rowMajor, hrows] at heq
    exact ⟨hrows, Nat.add_left_cancel heq⟩
  · rintro ⟨rfl, rfl⟩
    rfl

end

section

variable {α β : Type}

def writeAll (writes : List (ℕ × β)) (memory : List β) : List β :=
  writes.foldl (fun memory write => memory.set write.1 write.2) memory

variable {writes : List (ℕ × β)} {memory : List β}

@[simp] lemma length_writeAll : (writeAll writes memory).length = memory.length := by
  induction writes generalizing memory with
  | nil => rfl
  | cons write writes ih => exact ih.trans List.length_set

lemma writeAll_of_notMem {i : ℕ} (h : i ∉ writes.map Prod.fst) :
    (writeAll writes memory)[i]? = memory[i]? := by
  induction writes generalizing memory with
  | nil => rfl
  | cons write writes ih =>
    rw [List.map_cons, List.mem_cons, not_or] at h
    obtain ⟨hfirst, hrest⟩ := h
    exact (ih hrest).trans (List.getElem?_set_ne (Ne.symm hfirst))

lemma writeAll_of_mem {i : ℕ} {a : β} (hnodup : (writes.map Prod.fst).Nodup) (h : (i, a) ∈ writes)
    (hi : i < memory.length) : (writeAll writes memory)[i]? = some a := by
  induction writes generalizing memory with
  | nil => cases h
  | cons write writes ih =>
    rw [List.map_cons, List.nodup_cons] at hnodup
    obtain ⟨hfirst, hrest⟩ := hnodup
    rcases List.mem_cons.mp h with rfl | h
    · exact (writeAll_of_notMem hfirst).trans (List.getElem?_set_self hi)
    · exact ih hrest h (by rwa [List.length_set])

lemma foldlM_eq_writeAll {step : List β → α → Option (List β)} {address : α → ℕ} {value : α → β}
    {cells : List α} (h : ∀ a ∈ cells, ∀ other : List β, other.length = memory.length →
      step other a = some (other.set (address a) (value a))) :
    cells.foldlM step memory = some (writeAll (cells.map fun a => (address a, value a)) memory) := by
  induction cells generalizing memory with
  | nil => rfl
  | cons a cells ih =>
    obtain ⟨hfirst, hrest⟩ := List.forall_mem_cons.mp h
    rw [List.foldlM_cons, hfirst memory rfl, Option.bind_eq_bind, Option.bind_some]
    refine ih fun b hb other hother => hrest b hb other ?_
    rw [hother, List.length_set]

end

end Foundation

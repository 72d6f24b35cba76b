import Mathlib

/-! Two slots for the versions of one value. A version goes first to the slot its generation
selects and then to the other one; a write may stop after any of the two replacements. -/

namespace Foundation

inductive Side
  | a
  | b
  deriving DecidableEq, Repr

def Side.other : Side → Side
  | .a => .b
  | .b => .a

def Side.home (generation : ℕ) : Side := if generation % 2 = 0 then .b else .a

@[simp] lemma Side.other_ne (side : Side) : side.other ≠ side := by cases side <;> simp [Side.other]

@[simp] lemma Side.other_other (side : Side) : side.other.other = side := by cases side <;> rfl

lemma Side.home_succ (generation : ℕ) :
    Side.home (generation + 1) = (Side.home generation).other := by
  rcases Nat.mod_two_eq_zero_or_one generation with h | h
  · have hs : (generation + 1) % 2 ≠ 0 := by omega
    rw [Side.home, Side.home, if_pos h, if_neg hs, Side.other]
  · have hn : generation % 2 ≠ 0 := by omega
    have hs : (generation + 1) % 2 = 0 := by omega
    rw [Side.home, Side.home, if_pos hs, if_neg hn, Side.other]

structure Slots (α : Type*) where
  a : Option α
  b : Option α
  deriving DecidableEq

namespace Slots

variable {α β : Type*}

def empty : Slots α := ⟨none, none⟩

def get (s : Slots α) : Side → Option α
  | .a => s.a
  | .b => s.b

def put (s : Slots α) (v : α) : Side → Slots α
  | .a => ⟨some v, s.b⟩
  | .b => ⟨s.a, some v⟩

def map (f : α → β) (s : Slots α) : Slots β := ⟨s.a.map f, s.b.map f⟩

@[simp] lemma get_put (s : Slots α) (v : α) (side : Side) : (s.put v side).get side = some v := by
  cases side <;> rfl

@[simp] lemma get_put_other (s : Slots α) (v : α) (side : Side) :
    (s.put v side).get side.other = s.get side.other := by
  cases side <;> rfl

lemma map_put (f : α → β) (s : Slots α) (v : α) (side : Side) :
    (s.put v side).map f = (s.map f).put (f v) side := by
  cases side <;> rfl

/-- A write of `v` that stops after `replacements` of its two replacements. -/
def write (s : Slots α) (generation : ℕ) (v : α) : ℕ → Slots α
  | 0 => s
  | 1 => s.put v (Side.home generation)
  | _ + 2 => (s.put v (Side.home generation)).put v (Side.home generation).other

lemma map_write (f : α → β) (s : Slots α) (generation : ℕ) (v : α) (replacements : ℕ) :
    (s.write generation v replacements).map f = (s.map f).write generation (f v) replacements := by
  match replacements with
  | 0 => rfl
  | 1 => exact map_put f s v _
  | _ + 2 => simp only [write, map_put]

def All (P : α → Prop) (s : Slots α) : Prop := ∀ side, ∀ v ∈ s.get side, P v

lemma All.put {P : α → Prop} {s : Slots α} (hs : s.All P) {v : α} (hv : P v) (side : Side) :
    (s.put v side).All P := by
  intro at_ u hu
  by_cases h : at_ = side
  · rw [h, get_put, Option.mem_some_iff] at hu
    exact hu ▸ hv
  · have ho : at_ = side.other := by revert h; cases at_ <;> cases side <;> simp [Side.other]
    rw [ho, get_put_other] at hu
    exact hs _ u hu

lemma All.write {P : α → Prop} {s : Slots α} (hs : s.All P) {v : α} (hv : P v) (generation : ℕ)
    (replacements : ℕ) : (s.write generation v replacements).All P := by
  match replacements with
  | 0 => exact hs
  | 1 => exact hs.put hv _
  | _ + 2 => exact (hs.put hv _).put hv _

variable (generation : α → ℕ)

/-- The newest version is in the slot its generation selects; the other slot is not newer. -/
structure Holds (s : Slots α) (v : α) : Prop where
  home : s.get (Side.home (generation v)) = some v
  away : ∀ u ∈ s.get (Side.home (generation v)).other, u = v ∨ generation u < generation v

variable {generation}

lemma Holds.both (s : Slots α) (v : α) :
    Holds generation ((s.put v (Side.home (generation v))).put v
      (Side.home (generation v)).other) v := by
  have hhome := get_put_other (s.put v (Side.home (generation v))) v (Side.home (generation v)).other
  rw [Side.other_other, get_put] at hhome
  refine ⟨hhome, ?_⟩
  rw [get_put]
  rintro u ⟨⟩
  exact Or.inl rfl

lemma Holds.first (v : α) (replacements : ℕ) :
    Holds generation (empty.write (generation v) v (replacements + 1)) v := by
  cases replacements with
  | zero =>
    refine ⟨get_put _ _ _, ?_⟩
    simp only [write, get_put_other]
    cases (Side.home (generation v)).other <;> simp [empty, get]
  | succ _ => exact .both _ v

lemma Holds.write {s : Slots α} {u v : α} (h : Holds generation s u)
    (hv : v = u ∨ generation v = generation u + 1) (replacements : ℕ) :
    Holds generation (s.write (generation v) v (replacements + 1)) v := by
  cases replacements with
  | succ _ => exact .both _ v
  | zero =>
    refine ⟨get_put _ _ _, ?_⟩
    simp only [Slots.write, get_put_other]
    rcases hv with rfl | hv
    · exact h.away
    · -- the successor lives where the held version does not, so it leaves that one in place
      rw [hv, Side.home_succ, Side.other_other, h.home]
      rintro w ⟨⟩
      exact Or.inr (Nat.lt_succ_self _)

/-- The version to load, with whether the other slot is missing; `none` when there is none or two
slots of one generation disagree. -/
def newest [DecidableEq α] (generation : α → ℕ) (s : Slots α) : Option (α × Bool) :=
  match s.a, s.b with
  | none, none => none
  | some x, none => some (x, true)
  | none, some y => some (y, true)
  | some x, some y =>
    if generation x = generation y ∧ x ≠ y then none
    else if generation y ≤ generation x then some (x, false)
    else some (y, false)

lemma Holds.newest [DecidableEq α] {s : Slots α} {v : α} (h : Holds generation s v) :
    ∃ degraded, s.newest generation = some (v, degraded) := by
  obtain ⟨x, y⟩ := s
  obtain ⟨hhome, haway⟩ := h
  cases hside : Side.home (generation v) with
  | a =>
    simp only [hside, get, Side.other] at hhome haway
    subst hhome
    cases y with
    | none => exact ⟨true, rfl⟩
    | some y =>
      refine ⟨false, ?_⟩
      rcases haway y rfl with rfl | hlt
      · simp [Slots.newest]
      · simp [Slots.newest, hlt.ne', hlt.le]
  | b =>
    simp only [hside, get, Side.other] at hhome haway
    subst hhome
    cases x with
    | none => exact ⟨true, rfl⟩
    | some x =>
      refine ⟨false, ?_⟩
      rcases haway x rfl with rfl | hlt
      · simp [Slots.newest]
      · simp [Slots.newest, hlt.ne, hlt]

end Slots

end Foundation

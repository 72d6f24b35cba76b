import Mathlib

/-! Deterministic machines driven by a list of inputs, and the invariants of their runs. -/

namespace Foundation

structure Machine (State Input : Type*) where
  initial : State
  step : State → Input → State

namespace Machine

variable {State Input : Type*} (M : Machine State Input)

def runFrom (s : State) (inputs : List Input) : State := inputs.foldl M.step s

def run (inputs : List Input) : State := M.runFrom M.initial inputs

@[simp] lemma runFrom_nil (s : State) : M.runFrom s [] = s := rfl

@[simp] lemma runFrom_cons (s : State) (i : Input) (inputs : List Input) :
    M.runFrom s (i :: inputs) = M.runFrom (M.step s i) inputs := rfl

lemma run_append (before after : List Input) :
    M.run (before ++ after) = M.runFrom (M.run before) after := by
  simp [run, runFrom]

lemma runFrom_append (s : State) (before after : List Input) :
    M.runFrom s (before ++ after) = M.runFrom (M.runFrom s before) after := by
  simp [runFrom]

def Preserves (P : State → Prop) : Prop := ∀ s i, P s → P (M.step s i)

variable {M}

lemma Preserves.runFrom {P : State → Prop} (h : M.Preserves P) {s : State} (hs : P s)
    (inputs : List Input) : P (M.runFrom s inputs) := by
  induction inputs generalizing s with
  | nil => exact hs
  | cons i inputs ih => exact ih (h s i hs)

lemma Preserves.run {P : State → Prop} (h : M.Preserves P) (h₀ : P M.initial)
    (inputs : List Input) : P (M.run inputs) := h.runFrom h₀ inputs

end Machine

end Foundation

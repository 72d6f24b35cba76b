import LvglPlatform.Foundation.Bytes

/-! Computations over a buffer: they stop early with an answer, or touch a byte that is not there. -/

namespace Foundation

inductive Checked (ε α : Type)
  | outOfBounds
  | stopped (answer : ε)
  | done (a : α)
  deriving DecidableEq

namespace Checked

variable {ε α β : Type}

def bind (x : Checked ε α) (f : α → Checked ε β) : Checked ε β :=
  match x with
  | .outOfBounds => .outOfBounds
  | .stopped answer => .stopped answer
  | .done a => f a

instance : Monad (Checked ε) where
  pure := .done
  bind := bind

def answer : Checked α α → Option α
  | .outOfBounds => none
  | .stopped a => some a
  | .done a => some a

def guard (condition : Bool) (answer : ε) : Checked ε Unit :=
  if condition then .done () else .stopped answer

def read (buffer : Bytes) (offset length : ℕ) : Checked ε Bytes :=
  if offset + length ≤ buffer.length then .done (slice buffer offset length) else .outOfBounds

lemma bind_eq_done {x : Checked ε α} {f : α → Checked ε β} {b : β} :
    (x >>= f) = .done b ↔ ∃ a, x = .done a ∧ f a = .done b := by
  change x.bind f = .done b ↔ _
  cases x with
  | outOfBounds => simp [bind]
  | stopped answer => simp [bind]
  | done a => simp [bind]

@[simp] lemma done_bind (a : α) (f : α → Checked ε β) : (Checked.done a >>= f) = f a := rfl

@[simp] lemma pure_eq_done {a b : α} : (pure a : Checked ε α) = .done b ↔ a = b := by
  change Checked.done a = .done b ↔ a = b
  simp

lemma bind_ne_outOfBounds {x : Checked ε α} {f : α → Checked ε β} (hx : x ≠ .outOfBounds)
    (hf : ∀ a, x = .done a → f a ≠ .outOfBounds) : (x >>= f) ≠ .outOfBounds := by
  change x.bind f ≠ .outOfBounds
  cases x with
  | outOfBounds => exact absurd rfl hx
  | stopped answer => simp [bind]
  | done a => exact hf a rfl

@[simp] lemma guard_eq_done {condition : Bool} {answer : ε} {u : Unit} :
    guard condition answer = .done u ↔ condition = true := by
  cases condition <;> simp [guard]

@[simp] lemma guard_ne_outOfBounds {condition : Bool} {answer : ε} :
    guard condition answer ≠ .outOfBounds := by
  cases condition <;> simp [guard]

lemma read_eq_done {buffer : Bytes} {offset length : ℕ} {bytes : Bytes} :
    (read buffer offset length : Checked ε Bytes) = .done bytes ↔
      offset + length ≤ buffer.length ∧ bytes = slice buffer offset length := by
  rw [read]
  split <;> rename_i h
  · simp [h, eq_comm]
  · simp [h]

lemma read_of_le {buffer : Bytes} {offset length : ℕ} (h : offset + length ≤ buffer.length) :
    (read buffer offset length : Checked ε Bytes) = .done (slice buffer offset length) := if_pos h

lemma answer_eq_some {x : Checked α α} {a : α} :
    x.answer = some a ↔ x = .stopped a ∨ x = .done a := by
  cases x <;> simp [answer]

/-- Every answer a computation stops with satisfies `P`. -/
def StopsWith (P : ε → Prop) (x : Checked ε α) : Prop := ∀ answer, x = .stopped answer → P answer

section

variable {P : ε → Prop}

lemma stopsWith_done (a : α) : StopsWith P (.done a) := by
  rintro answer ⟨⟩

lemma stopsWith_stopped {answer : ε} (h : P answer) : StopsWith P (.stopped answer : Checked ε α) := by
  rintro _ ⟨⟩
  exact h

lemma stopsWith_bind {x : Checked ε α} {f : α → Checked ε β} (hx : x.StopsWith P)
    (hf : ∀ a, (f a).StopsWith P) : (x >>= f).StopsWith P := by
  change (x.bind f).StopsWith P
  cases x with
  | outOfBounds => rintro answer ⟨⟩
  | stopped answer => exact stopsWith_stopped (hx answer rfl)
  | done a => exact hf a

lemma stopsWith_guard {condition : Bool} {answer : ε} (h : P answer) :
    (guard condition answer).StopsWith P := by
  cases condition with
  | true => exact stopsWith_done ()
  | false => exact stopsWith_stopped h

lemma stopsWith_read {buffer : Bytes} {offset length : ℕ} :
    (read buffer offset length : Checked ε Bytes).StopsWith P := by
  rw [read]
  split
  · exact stopsWith_done _
  · rintro answer ⟨⟩

end

end Checked

lemma except_bind_eq_ok {ε α β : Type} {x : Except ε α} {f : α → Except ε β} {b : β} :
    (x >>= f) = .ok b ↔ ∃ a, x = .ok a ∧ f a = .ok b := by
  cases x with
  | error e =>
    refine ⟨fun h => ?_, fun ⟨a, ha, _⟩ => ?_⟩
    · cases h
    · cases ha
  | ok a =>
    refine ⟨fun h => ⟨a, rfl, h⟩, fun ⟨c, hc, h⟩ => ?_⟩
    cases hc
    exact h

lemma except_bind_eq_error {ε α β : Type} {x : Except ε α} {f : α → Except ε β} {e : ε}
    (h : (x >>= f) = .error e) : x = .error e ∨ ∃ a, x = .ok a ∧ f a = .error e := by
  cases x with
  | error e' =>
    cases h
    exact .inl rfl
  | ok a => exact .inr ⟨a, rfl, h⟩

end Foundation

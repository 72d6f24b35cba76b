import Mathlib

/-! Filter programs of the classic packet filter: straight code with forward jumps. -/

namespace Foundation

namespace Bpf

inductive Instruction
  | load (offset : UInt32)
  | and (mask : UInt32)
  | jumpEqual (k : UInt32) (onTrue onFalse : UInt8)
  | ret (k : UInt32)
  deriving DecidableEq, Repr

/-- What a program returns after it has skipped some instructions; it must not leave its code. -/
def run (word : UInt32 → Option UInt32) : ℕ → List Instruction → UInt32 → Option UInt32
  | _, [], _ => none
  | skip + 1, _ :: rest, accumulator => run word skip rest accumulator
  | 0, .load offset :: rest, _ =>
    match word offset with
    | none => none
    | some accumulator => run word 0 rest accumulator
  | 0, .and mask :: rest, accumulator => run word 0 rest (accumulator &&& mask)
  | 0, .jumpEqual k onTrue onFalse :: rest, accumulator =>
    run word (if accumulator = k then onTrue else onFalse).toNat rest accumulator
  | 0, .ret k :: _, _ => some k

def exec (word : UInt32 → Option UInt32) (program : List Instruction) : Option UInt32 :=
  run word 0 program 0

/-- Every jump lands at most `beyond` instructions behind the last one. -/
def jumpsWithin (beyond : ℕ) : List Instruction → Bool
  | [] => true
  | .jumpEqual _ onTrue onFalse :: rest =>
    onTrue.toNat < rest.length + beyond && onFalse.toNat < rest.length + beyond &&
      jumpsWithin beyond rest
  | _ :: rest => jumpsWithin beyond rest

section

variable {word : UInt32 → Option UInt32} {rest : List Instruction} {accumulator : UInt32}

@[simp] lemma run_load {offset : UInt32} {loaded : UInt32} (h : word offset = some loaded) :
    run word 0 (.load offset :: rest) accumulator = run word 0 rest loaded := by
  rw [run, h]

@[simp] lemma run_and {mask : UInt32} :
    run word 0 (.and mask :: rest) accumulator = run word 0 rest (accumulator &&& mask) := rfl

@[simp] lemma run_ret {k : UInt32} : run word 0 (.ret k :: rest) accumulator = some k := rfl

lemma run_jumpEqual {k : UInt32} {onTrue onFalse : UInt8} :
    run word 0 (.jumpEqual k onTrue onFalse :: rest) accumulator =
      if accumulator = k then run word onTrue.toNat rest accumulator
      else run word onFalse.toNat rest accumulator := by
  rw [run, apply_ite UInt8.toNat, apply_ite fun skip => run word skip rest accumulator]

lemma jumpsWithin_mono {program : List Instruction} {m n : ℕ} (hle : m ≤ n)
    (h : jumpsWithin m program = true) : jumpsWithin n program = true := by
  induction program with
  | nil => rfl
  | cons instruction program ih =>
    cases instruction with
    | jumpEqual k onTrue onFalse =>
      simp only [jumpsWithin, Bool.and_eq_true, decide_eq_true_eq] at h ⊢
      exact ⟨⟨by omega, by omega⟩, ih h.2⟩
    | _ => exact ih h

lemma jumpsWithin_append {block : List Instruction} {beyond : ℕ}
    (hblock : jumpsWithin (rest.length + beyond) block = true)
    (hrest : jumpsWithin beyond rest = true) : jumpsWithin beyond (block ++ rest) = true := by
  induction block with
  | nil => exact hrest
  | cons instruction block ih =>
    cases instruction with
    | jumpEqual k onTrue onFalse =>
      simp only [jumpsWithin, Bool.and_eq_true, decide_eq_true_eq] at hblock
      simp only [List.cons_append, jumpsWithin, Bool.and_eq_true, decide_eq_true_eq, List.length_append]
      exact ⟨⟨by omega, by omega⟩, ih hblock.2⟩
    | _ => exact ih hblock

/-- Blocks whose jumps end at most right after them can be put before any code. -/
lemma jumpsWithin_flatMap {ι : Type*} {blocks : ι → List Instruction} (items : List ι)
    (hblocks : ∀ item ∈ items, jumpsWithin 1 (blocks item) = true) (hne : rest ≠ [])
    (hrest : jumpsWithin 0 rest = true) : jumpsWithin 0 (items.flatMap blocks ++ rest) = true := by
  have hpos : 0 < rest.length := List.length_pos_iff.mpr hne
  induction items with
  | nil => exact hrest
  | cons item items ih =>
    obtain ⟨hitem, hitems⟩ := List.forall_mem_cons.mp hblocks
    rw [List.flatMap_cons, List.append_assoc]
    refine jumpsWithin_append (jumpsWithin_mono ?_ hitem) (ih hitems)
    simp only [List.length_append]
    omega

end

end Bpf

end Foundation

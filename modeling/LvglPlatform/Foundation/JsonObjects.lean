import LvglPlatform.Foundation.Json

/-! The objects of a value that a dialect reads: their names are what the dialect leaves of repeated ones. -/

namespace Foundation

namespace Json

section

variable {σ : Type}

mutual

def Value.Objects (P : List σ → Prop) : Value σ → Prop
  | .array items => ObjectsItems P items
  | .object members => P (members.map Prod.fst) ∧ ObjectsFields P members
  | _ => True

def ObjectsItems (P : List σ → Prop) : List (Value σ) → Prop
  | [] => True
  | v :: vs => Value.Objects P v ∧ ObjectsItems P vs

def ObjectsFields (P : List σ → Prop) : List (σ × Value σ) → Prop
  | [] => True
  | (_, v) :: ms => Value.Objects P v ∧ ObjectsFields P ms

end

lemma objectsFields_iff {P : List σ → Prop} {ms : List (σ × Value σ)} :
    ObjectsFields P ms ↔ ∀ m ∈ ms, m.2.Objects P := by
  induction ms with
  | nil => simp [ObjectsFields]
  | cons m ms ih =>
    obtain ⟨name, v⟩ := m
    rw [ObjectsFields, ih, List.forall_mem_cons]

end

namespace Dialect

variable {α : Type} {D : Dialect α}

/-- What a dialect makes of the members of an object: some of them, under names that satisfy `P`. -/
structure Keeps (D : Dialect α) (P : List (List α) → Prop) : Prop where
  nil : P []
  names : ∀ ms, P ((D.members ms).map Prod.fst)
  subset : ∀ ms, D.members ms ⊆ ms

variable {P : List (List α) → Prop} (hP : D.Keeps P)

include hP

lemma Keeps.object {ms : List (List α × Value (List α))} (h : ObjectsFields P ms) :
    (Value.object (D.members ms)).Objects P :=
  ⟨hP.names ms, objectsFields_iff.mpr fun m hm => objectsFields_iff.mp h m (hP.subset ms hm)⟩

lemma Keeps.parses : D.Inductive (Value.Objects P) (ObjectsItems P) (ObjectsFields P) where
  null := trivial
  bool _ := trivial
  number _ := trivial
  string _ _ _ _ _ := trivial
  array _ h := h
  empty := ⟨hP.nil, trivial⟩
  object _ h := hP.object h
  itemsNil := trivial
  itemsCons _ _ hv hvs := ⟨hv, hvs⟩
  fieldsNil := trivial
  fieldsCons _ _ _ _ _ _ _ hv hms := ⟨hv, hms⟩

lemma Keeps.parse {s : List α} {v : Value (List α)} (h : D.parse s = some v) : v.Objects P :=
  hP.parses.parse h

end Dialect

end Json

end Foundation

import Mathlib

/-! Records of what a system does, in the order it happens, and rules about a record and the ones before
it. -/

namespace Foundation

variable {α : Type}

/-- Every record keeps the rule with respect to the records before it. -/
def Clean (rule : List α → α → Prop) (log : List α) : Prop :=
  ∀ before record after, log = before ++ record :: after → rule before record

variable {rule : List α → α → Prop} {log : List α}

lemma clean_nil : Clean rule [] := by
  intro before record after h
  exact absurd h.symm (List.append_ne_nil_of_right_ne_nil _ (List.cons_ne_nil _ _))

lemma Clean.snoc {record : α} (h : Clean rule log) (hrecord : rule log record) :
    Clean rule (log ++ [record]) := by
  intro before other after hlog
  rcases List.eq_nil_or_concat after with rfl | ⟨rest, last, rfl⟩
  · obtain ⟨rfl, hother⟩ := List.append_inj' hlog rfl
    rw [← List.singleton_inj.mp hother]
    exact hrecord
  · rw [List.concat_eq_append, ← List.cons_append, ← List.append_assoc] at hlog
    exact h before other rest (List.append_inj' hlog rfl).1

def since (kind : α → Bool) (log : List α) : List α := log.reverse.takeWhile fun a => !kind a

def latest (kind : α → Bool) (log : List α) : Option α := log.reverse.find? kind

variable {kind : α → Bool} {record : α}

lemma since_snoc (hkind : kind record = false) (log : List α) :
    since kind (log ++ [record]) = record :: since kind log := by
  rw [since, List.reverse_append, List.reverse_singleton, List.singleton_append,
    List.takeWhile_cons_of_pos (by rw [hkind]; rfl)]
  rfl

lemma latest_snoc (hkind : kind record = false) (log : List α) :
    latest kind (log ++ [record]) = latest kind log := by
  rw [latest, List.reverse_append, List.reverse_singleton, List.singleton_append,
    List.find?_cons_of_neg (by rw [hkind]; exact Bool.false_ne_true)]
  rfl

lemma latest_kind (hkind : kind record = true) (log : List α) :
    latest kind (log ++ [record]) = some record := by
  rw [latest, List.reverse_append, List.reverse_singleton, List.singleton_append,
    List.find?_cons_of_pos hkind]

end Foundation

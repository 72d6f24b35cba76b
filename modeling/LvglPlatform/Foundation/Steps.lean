import Mathlib

/-! Computations that change a state in atomic steps and may be cut off after any of them. -/

namespace Foundation

structure Trace (σ α : Type) where
  visited : List σ
  final : σ
  result : α

def Steps (σ α : Type) := σ → Trace σ α

namespace Steps

variable {σ τ α β : Type}

def done (a : α) : Steps σ α := fun s => ⟨[], s, a⟩

def next (m : Steps σ α) (f : α → Steps σ β) : Steps σ β := fun s =>
  let first := m s
  let rest := f first.result first.final
  ⟨first.visited ++ rest.visited, rest.final, rest.result⟩

instance : Monad (Steps σ) where
  pure := done
  bind := next

def step (change : σ → σ) : Steps σ Unit := fun s => ⟨[change s], change s, ()⟩

def current : Steps σ σ := fun s => ⟨[], s, s⟩

def zoom (get : σ → τ) (set : τ → σ → σ) (m : Steps τ α) : Steps σ α := fun s =>
  let part := m (get s)
  ⟨part.visited.map fun t => set t s, set part.final s, part.result⟩

def run (m : Steps σ α) (s : σ) : σ × α := ((m s).final, (m s).result)

/-- Where a computation stands that is cut off after so many steps, or runs to its end. -/
def stop (m : Steps σ α) (s : σ) : Option ℕ → σ
  | none => (m s).final
  | some n => (s :: (m s).visited).getD n (m s).final

/-- A computation that gives up at a failing call, after so many of its steps. -/
def failing (failed : α) (m : Steps σ α) : Option ℕ → Steps σ α
  | none => m
  | some n => fun s => ⟨(m s).visited.take n, m.stop s (some n), failed⟩

def Visits (m : Steps σ α) (s t : σ) : Prop := t ∈ (m s).visited

/-- From the state, every step leads to a crash state, and the end to a result as specified. -/
def Spec (s : σ) (m : Steps σ α) (crash : σ → Prop) (post : α → σ → Prop) : Prop :=
  (∀ t ∈ (m s).visited, crash t) ∧ post (m s).result (m s).final

section

variable {s : σ} {m : Steps σ α}

@[simp] lemma run_pure (a : α) (s : σ) : (pure a : Steps σ α).run s = (s, a) := rfl

@[simp] lemma run_bind (m : Steps σ α) (f : α → Steps σ β) (s : σ) :
    (m >>= f).run s = (f (m.run s).2).run (m.run s).1 := rfl

@[simp] lemma run_step (change : σ → σ) (s : σ) : (step change).run s = (change s, ()) := rfl

@[simp] lemma run_current (s : σ) : (current : Steps σ σ).run s = (s, s) := rfl

@[simp] lemma run_zoom (get : σ → τ) (set : τ → σ → σ) (m : Steps τ α) (s : σ) :
    (zoom get set m).run s = (set (m.run (get s)).1 s, (m.run (get s)).2) := rfl

end

section

variable {s : σ} {m : Steps σ α} {crash : σ → Prop} {post : α → σ → Prop}

lemma spec_pure {a : α} (h : post a s) : Spec s (pure a) crash post := ⟨nofun, h⟩

lemma spec_bind {f : α → Steps σ β} {post : β → σ → Prop}
    (h : Spec s m crash fun a t => Spec t (f a) crash post) : Spec s (m >>= f) crash post := by
  obtain ⟨hfirst, hrest, hpost⟩ := h
  refine ⟨fun t ht => ?_, hpost⟩
  rcases List.mem_append.mp ht with hm | hf
  · exact hfirst t hm
  · exact hrest t hf

lemma spec_step {change : σ → σ} {post : Unit → σ → Prop} (hcrash : crash (change s))
    (hpost : post () (change s)) : Spec s (step change) crash post := by
  refine ⟨fun t ht => ?_, hpost⟩
  obtain rfl := List.mem_singleton.mp ht
  exact hcrash

lemma spec_current {post : σ → σ → Prop} (h : post s s) : Spec s current crash post := ⟨nofun, h⟩

lemma spec_zoom {get : σ → τ} {set : τ → σ → σ} {m : Steps τ α}
    (h : Spec (get s) m (fun t => crash (set t s)) fun a t => post a (set t s)) :
    Spec s (zoom get set m) crash post := by
  refine ⟨fun t ht => ?_, h.2⟩
  obtain ⟨part, hpart, rfl⟩ := List.mem_map.mp ht
  exact h.1 part hpart

lemma Spec.run {post' : α → σ → Prop} (h : Spec s m crash post) (hpost : post' (m.run s).2 (m.run s).1) :
    Spec s m crash post' := ⟨h.1, hpost⟩

lemma spec_run (hcrash : ∀ t, crash t) (hpost : post (m.run s).2 (m.run s).1) : Spec s m crash post :=
  ⟨fun t _ => hcrash t, hpost⟩

lemma Spec.weaken {crash' : σ → Prop} {post' : α → σ → Prop} (h : Spec s m crash post)
    (hcrash : ∀ t, crash t → crash' t) (hpost : ∀ a t, post a t → post' a t) :
    Spec s m crash' post' :=
  ⟨fun t ht => hcrash t (h.1 t ht), hpost _ _ h.2⟩

lemma Spec.and {crash' : σ → Prop} {post' : α → σ → Prop} (h : Spec s m crash post)
    (h' : Spec s m crash' post') :
    Spec s m (fun t => crash t ∧ crash' t) fun a t => post a t ∧ post' a t :=
  ⟨fun t ht => ⟨h.1 t ht, h'.1 t ht⟩, h.2, h'.2⟩

lemma Spec.stop {m : Steps σ α} (h : Spec s m crash fun _ t => crash t) (hs : crash s)
    (cut : Option ℕ) : crash (m.stop s cut) := by
  cases cut with
  | none => exact h.2
  | some n =>
    rw [Steps.stop, List.getD_eq_getElem?_getD]
    cases hget : (s :: (m s).visited)[n]? with
    | none => exact h.2
    | some t =>
      rcases List.mem_cons.mp (List.mem_of_getElem? hget) with rfl | ht
      · exact hs
      · exact h.1 t ht

/-- Where a call fails the computation may have been stopped; otherwise it ends as it does anyway. -/
lemma Spec.failing {m : Steps σ α} {post' : α → σ → Prop} {failed : α} {calls : Option ℕ}
    (h : Spec s m crash post) (hs : crash s) (hend : ∀ a t, post a t → crash t)
    (hfailed : calls ≠ none → ∀ t, crash t → post' failed t) (hpost : ∀ a t, calls = none → post a t → post' a t) :
    Spec s (m.failing failed calls) crash post' := by
  cases calls with
  | none => exact h.weaken (fun _ => id) fun a t => hpost a t rfl
  | some n =>
    refine ⟨fun t ht => h.1 t (List.mem_of_mem_take ht), hfailed nofun _ ?_⟩
    exact (h.weaken (fun _ => id) hend).stop hs (some n)

end

section

variable {s t : σ} {m : Steps σ α}

lemma visits_step (change : σ → σ) (s : σ) : Visits (step change) s (change s) := List.mem_singleton_self _

lemma Visits.bind (h : Visits m s t) (f : α → Steps σ β) : Visits (m >>= f) s t :=
  List.mem_append_left _ h

lemma Visits.rest {f : α → Steps σ β} (h : Visits (f (m.run s).2) (m.run s).1 t) : Visits (m >>= f) s t :=
  List.mem_append_right _ h

lemma Visits.zoom {get : σ → τ} {set : τ → σ → σ} {m : Steps τ α} {part : τ} (h : Visits m (get s) part) :
    Visits (zoom get set m) s (set part s) := List.mem_map_of_mem h

lemma Visits.stop (h : Visits m s t) : ∃ cut, m.stop s cut = t := by
  obtain ⟨n, hn, rfl⟩ := List.mem_iff_getElem.mp h
  refine ⟨some (n + 1), ?_⟩
  rw [Steps.stop, List.getD_cons_succ, List.getD_eq_getElem _ _ hn]

end

end Steps

end Foundation

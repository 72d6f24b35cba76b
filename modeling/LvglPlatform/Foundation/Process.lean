import Mathlib

/-! Systems whose events are enabled in some states only, and what their runs keep. -/

namespace Foundation

structure Process (State Event : Type*) where
  step : State → Event → Option State

namespace Process

variable {State Event : Type*} (P : Process State Event)

def run : State → List Event → Option State
  | s, [] => some s
  | s, e :: events => (P.step s e).bind fun t => run t events

@[simp] lemma run_nil (s : State) : P.run s [] = some s := rfl

lemma run_cons {s t : State} {e : Event} {events : List Event} :
    P.run s (e :: events) = some t ↔ ∃ u, P.step s e = some u ∧ P.run u events = some t :=
  Option.bind_eq_some_iff

lemma run_append {s t : State} {before after : List Event} :
    P.run s (before ++ after) = some t ↔
      ∃ u, P.run s before = some u ∧ P.run u after = some t := by
  induction before generalizing s with
  | nil => simp
  | cons e before ih =>
    rw [List.cons_append, run_cons]
    constructor
    · rintro ⟨u, hstep, hrun⟩
      obtain ⟨v, hbefore, hafter⟩ := ih.mp hrun
      exact ⟨v, P.run_cons.mpr ⟨u, hstep, hbefore⟩, hafter⟩
    · rintro ⟨v, hbefore, hafter⟩
      obtain ⟨u, hstep, hrun⟩ := P.run_cons.mp hbefore
      exact ⟨u, hstep, ih.mpr ⟨v, hrun, hafter⟩⟩

/-- Every step of the run meets a condition on the state before it and its event. -/
def Along (condition : State → Event → Prop) : State → List Event → Prop
  | _, [] => True
  | s, e :: events => condition s e ∧ ∀ t, P.step s e = some t → Along condition t events

variable {P}

lemma along_cons {condition : State → Event → Prop} {s u : State} {e : Event} {events : List Event}
    (hstep : P.step s e = some u) :
    P.Along condition s (e :: events) ↔ condition s e ∧ P.Along condition u events := by
  rw [Along]
  refine and_congr_right fun _ => ⟨fun h => h u hstep, fun h v hv => ?_⟩
  obtain rfl := Option.some.inj (hstep.symm.trans hv)
  exact h

lemma along_of_forall {condition : State → Event → Prop} {s : State} {events : List Event}
    (h : ∀ e ∈ events, ∀ s, condition s e) : P.Along condition s events := by
  induction events generalizing s with
  | nil => trivial
  | cons e events ih =>
    obtain ⟨he, hevents⟩ := List.forall_mem_cons.mp h
    exact ⟨he s, fun t _ => ih hevents⟩

def allAlong (P : Process State Event) (check : State → Event → Bool) : State → List Event → Bool
  | _, [] => true
  | s, e :: events => check s e && (P.step s e).all fun t => P.allAlong check t events

lemma along_of_all {condition : State → Event → Prop} {check : State → Event → Bool}
    (hcheck : ∀ s e, check s e = true → condition s e) {s : State} {events : List Event}
    (h : P.allAlong check s events = true) : P.Along condition s events := by
  induction events generalizing s with
  | nil => trivial
  | cons e events ih =>
    obtain ⟨he, hrest⟩ := (Bool.and_eq_true _ _).mp h
    refine ⟨hcheck s e he, fun t ht => ?_⟩
    rw [ht] at hrest
    exact ih hrest

/-- An invariant that the steps meeting a condition keep holds after a run of such steps. -/
lemma run_invariant {condition : State → Event → Prop} {invariant : State → Prop}
    (hstep : ∀ s e t, invariant s → condition s e → P.step s e = some t → invariant t)
    {s t : State} {events : List Event} (hs : invariant s) (hcondition : P.Along condition s events)
    (hrun : P.run s events = some t) : invariant t := by
  induction events generalizing s with
  | nil =>
    obtain rfl := Option.some.inj hrun
    exact hs
  | cons e events ih =>
    obtain ⟨u, he, hrest⟩ := P.run_cons.mp hrun
    exact ih (hstep s e u hs hcondition.1 he) (hcondition.2 u he) hrest

lemma run_keeps {invariant : State → Prop}
    (hstep : ∀ s e t, invariant s → P.step s e = some t → invariant t) {s t : State}
    {events : List Event} (hs : invariant s) (hrun : P.run s events = some t) : invariant t := by
  have hevents : P.Along (fun _ _ => True) s events := along_of_forall fun _ _ _ => trivial
  exact run_invariant (fun s e t hs _ => hstep s e t hs) hs hevents hrun

end Process

end Foundation

import Mathlib

/-! Logs in which every key opens, continues and closes its strokes in that order. -/

namespace Foundation

open Computability

inductive Mark
  | opening
  | inner
  | closing
  deriving DecidableEq

section

variable {φ : Type} (mark : φ → Mark)

def letters (m : Mark) : Language φ := {w | ∃ a, mark a = m ∧ w = [a]}

/-- One opening letter, any inner letters and one closing letter. -/
def stroke : Language φ := letters mark .opening * (letters mark .inner)∗ * letters mark .closing

/-- A log that some continuation completes to a sequence of strokes. -/
def StrokePrefix (log : List φ) : Prop := ∃ rest, log ++ rest ∈ (stroke mark)∗

/-- Whether a stroke is open after a letter; `none` is a letter out of place. -/
def strokeStep (active : Bool) (a : φ) : Option Bool :=
  match mark a with
  | .opening => if active then none else some true
  | .inner => if active then some true else none
  | .closing => if active then some false else none

def strokeRun : Bool → List φ → Option Bool
  | active, [] => some active
  | active, a :: log =>
    match strokeStep mark active a with
    | some active => strokeRun active log
    | none => none

variable {mark}

lemma strokeRun_append {active : Bool} {log rest : List φ} :
    strokeRun mark active (log ++ rest) =
      (strokeRun mark active log).bind fun active => strokeRun mark active rest := by
  induction log generalizing active with
  | nil => rfl
  | cons a log ih =>
    rw [List.cons_append, strokeRun, strokeRun]
    cases strokeStep mark active a with
    | none => rfl
    | some active => exact ih

lemma strokeRun_inner {log : List φ} (h : log ∈ (letters mark .inner)∗) :
    strokeRun mark true log = some true := by
  obtain ⟨words, rfl, hwords⟩ := Language.mem_kstar.mp h
  clear h
  induction words with
  | nil => rfl
  | cons word words ih =>
    obtain ⟨a, ha, rfl⟩ := hwords word List.mem_cons_self
    have hrest := ih fun y hy => hwords y (List.mem_cons_of_mem _ hy)
    rw [List.flatten_cons, List.cons_append, List.nil_append, strokeRun, strokeStep, ha]
    exact hrest

lemma strokeRun_stroke {log : List φ} (h : log ∈ stroke mark) :
    strokeRun mark false log = some false := by
  obtain ⟨front, ⟨first, ⟨a, ha, rfl⟩, inner, hinner, rfl⟩, last, ⟨b, hb, rfl⟩, rfl⟩ := h
  have hopen : strokeRun mark false [a] = some true := by simp [strokeRun, strokeStep, ha]
  have hclose : strokeRun mark true [b] = some false := by simp [strokeRun, strokeStep, hb]
  change strokeRun mark false ([a] ++ inner ++ [b]) = some false
  rw [strokeRun_append, strokeRun_append, hopen, Option.bind_some, strokeRun_inner hinner,
    Option.bind_some, hclose]

lemma strokeRun_strokes {log : List φ} (h : log ∈ (stroke mark)∗) :
    strokeRun mark false log = some false := by
  obtain ⟨words, rfl, hwords⟩ := Language.mem_kstar.mp h
  clear h
  induction words with
  | nil => rfl
  | cons word words ih =>
    rw [List.flatten_cons, strokeRun_append, strokeRun_stroke (hwords word List.mem_cons_self)]
    exact ih fun y hy => hwords y (List.mem_cons_of_mem _ hy)

lemma append_mem_kstar {language : Language φ} {word log : List φ} (hword : word ∈ language)
    (hlog : log ∈ language∗) : word ++ log ∈ language∗ := by
  obtain ⟨words, rfl, hwords⟩ := Language.mem_kstar.mp hlog
  exact Language.mem_kstar.mpr ⟨word :: words, rfl, List.forall_mem_cons.mpr ⟨hword, hwords⟩⟩

def Completes (mark : φ → Mark) (active : Bool) (rest : List φ) : Prop :=
  if active then rest ∈ (letters mark .inner)∗ * letters mark .closing * (stroke mark)∗
  else rest ∈ (stroke mark)∗

lemma Completes.cons {active next : Bool} {a : φ} {rest : List φ}
    (hstep : strokeStep mark active a = some next) (h : Completes mark next rest) :
    Completes mark active (a :: rest) := by
  have hletter : ∀ m, mark a = m → [a] ∈ letters mark m := fun m hm => ⟨a, hm, rfl⟩
  cases hm : mark a with
  | opening =>
    cases active with
    | true => simp [strokeStep, hm] at hstep
    | false =>
      obtain rfl : next = true := by simpa [strokeStep, hm, eq_comm] using hstep
      obtain ⟨front, ⟨inner, hinner, last, hlast, rfl⟩, tail, htail, rfl⟩ := h
      have hstroke : [a] ++ inner ++ last ∈ stroke mark :=
        Language.append_mem_mul (Language.append_mem_mul (hletter _ hm) hinner) hlast
      have hrest := append_mem_kstar hstroke htail
      simpa [Completes] using hrest
  | inner =>
    cases active with
    | false => simp [strokeStep, hm] at hstep
    | true =>
      obtain rfl : next = true := by simpa [strokeStep, hm, eq_comm] using hstep
      obtain ⟨front, ⟨inner, hinner, last, hlast, rfl⟩, tail, htail, rfl⟩ := h
      have hmore : [a] ++ inner ∈ (letters mark .inner)∗ :=
        append_mem_kstar (hletter _ hm) hinner
      exact Language.append_mem_mul (Language.append_mem_mul hmore hlast) htail
  | closing =>
    cases active with
    | false => simp [strokeStep, hm] at hstep
    | true =>
      obtain rfl : next = false := by simpa [strokeStep, hm, eq_comm] using hstep
      have hfront : [] ++ [a] ∈ (letters mark .inner)∗ * letters mark .closing :=
        Language.append_mem_mul (Language.nil_mem_kstar _) (hletter _ hm)
      exact Language.append_mem_mul hfront h

lemma Completes.of_run {active final : Bool} {log rest : List φ}
    (hrun : strokeRun mark active log = some final) (h : Completes mark final rest) :
    Completes mark active (log ++ rest) := by
  induction log generalizing active with
  | nil =>
    obtain rfl := Option.some.inj hrun
    exact h
  | cons a log ih =>
    rw [strokeRun] at hrun
    cases hstep : strokeStep mark active a with
    | none => simp [hstep] at hrun
    | some next =>
      rw [hstep] at hrun
      exact (ih hrun).cons hstep

theorem strokePrefix_iff (hclosing : ∃ a, mark a = .closing) {log : List φ} :
    StrokePrefix mark log ↔ ∃ active, strokeRun mark false log = some active := by
  constructor
  · rintro ⟨rest, hrest⟩
    have hrun := strokeRun_strokes hrest
    rw [strokeRun_append] at hrun
    obtain ⟨active, hactive, -⟩ := Option.bind_eq_some_iff.mp hrun
    exact ⟨active, hactive⟩
  · rintro ⟨active, hrun⟩
    obtain ⟨b, hb⟩ := hclosing
    cases active with
    | false =>
      have hnil : Completes mark false [] := Language.nil_mem_kstar _
      exact ⟨[], hnil.of_run hrun⟩
    | true =>
      have hlast : ([] ++ [b]) ++ [] ∈
          (letters mark .inner)∗ * letters mark .closing * (stroke mark)∗ :=
        Language.append_mem_mul
          (Language.append_mem_mul (Language.nil_mem_kstar _) ⟨b, hb, rfl⟩) (Language.nil_mem_kstar _)
      have hb : Completes mark true [b] := hlast
      exact ⟨[b], hb.of_run hrun⟩

lemma StrokePrefix.head {a : φ} {log : List φ} (hclosing : ∃ a, mark a = .closing)
    (h : StrokePrefix mark (a :: log)) : mark a = .opening := by
  obtain ⟨active, hrun⟩ := (strokePrefix_iff hclosing).mp h
  rw [strokeRun] at hrun
  cases hm : mark a with
  | opening => rfl
  | inner => simp [strokeStep, hm] at hrun
  | closing => simp [strokeStep, hm] at hrun

end

section

variable {φ : Type} {mark : φ → Mark}

def openings (mark : φ → Mark) (log : List φ) : ℕ := log.countP fun a => mark a = .opening

def bounds (mark : φ → Mark) (log : List φ) : ℕ := log.countP fun a => mark a ≠ .inner

/-- Whether a stroke has been opened, for an observer who only sees the states at both ends. -/
def rise (before after : Bool) : ℕ := if !before && after then 1 else 0

lemma strokeRun_counts {active final : Bool} {log : List φ} (h : strokeRun mark active log = some final) :
    2 * openings mark log + active.toNat = bounds mark log + final.toNat := by
  induction log generalizing active with
  | nil =>
    obtain rfl := Option.some.inj h
    simp [openings, bounds]
  | cons a log ih =>
    rw [strokeRun] at h
    cases hstep : strokeStep mark active a with
    | none => simp [hstep] at h
    | some next =>
      rw [hstep] at h
      have hrest := ih h
      simp only [openings, bounds, List.countP_cons] at hrest ⊢
      rw [strokeStep] at hstep
      cases hm : mark a <;> cases active <;> simp [hm] at hstep <;> subst hstep <;> simp at hrest ⊢ <;> omega

/-- Who only sees the states at both ends sees every opening if no other letter than this one, or than one
closing letter, bounds a stroke. -/
lemma rise_eq_openings {active final : Bool} {log : List φ} (h : strokeRun mark active log = some final) :
    rise active final ≤ openings mark log ∧ (rise active final = openings mark log ↔ bounds mark log ≤ 1) := by
  have hcounts := strokeRun_counts h
  cases active <;> cases final <;> simp [rise] at hcounts ⊢ <;> omega

def seenOpenings : Bool → List Bool → ℕ
  | _, [] => 0
  | before, after :: states => rise before after + seenOpenings after states

def statesAfter (mark : φ → Mark) : Bool → List (List φ) → List Bool
  | _, [] => []
  | active, batch :: batches =>
    let final := (strokeRun mark active batch).getD active
    final :: statesAfter mark final batches

/-- An observer who looks after each batch sees every opening if and only if no batch holds two letters that
bound a stroke. -/
theorem seenOpenings_eq_iff {active : Bool} {batches : List (List φ)}
    (h : ∃ final, strokeRun mark active batches.flatten = some final) :
    seenOpenings active (statesAfter mark active batches) ≤ openings mark batches.flatten ∧
      (seenOpenings active (statesAfter mark active batches) = openings mark batches.flatten ↔
        ∀ batch ∈ batches, bounds mark batch ≤ 1) := by
  induction batches generalizing active with
  | nil => simp [seenOpenings, statesAfter, openings]
  | cons batch batches ih =>
    obtain ⟨final, hfinal⟩ := h
    rw [List.flatten_cons, strokeRun_append] at hfinal
    obtain ⟨next, hnext, hrest⟩ := Option.bind_eq_some_iff.mp hfinal
    obtain ⟨hle, hiff⟩ := rise_eq_openings hnext
    obtain ⟨hle', hiff'⟩ := ih ⟨final, hrest⟩
    have happend : openings mark (batch ++ batches.flatten) =
        openings mark batch + openings mark batches.flatten := List.countP_append
    rw [statesAfter, hnext, Option.getD_some, seenOpenings, List.flatten_cons, happend, List.forall_mem_cons,
      ← hiff, ← hiff']
    omega

end

section

variable {κ φ : Type} [DecidableEq κ] {mark : φ → Mark}

def logOf (key : κ) (log : List (κ × φ)) : List φ :=
  (log.filter fun entry => entry.1 = key).map Prod.snd

lemma logOf_append (key : κ) (log rest : List (κ × φ)) :
    logOf key (log ++ rest) = logOf key log ++ logOf key rest := by
  simp [logOf]

end

end Foundation

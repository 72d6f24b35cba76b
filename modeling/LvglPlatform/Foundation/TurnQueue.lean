import Mathlib

/-! A queue from which every turn takes the packet that has waited longest, and the packets that are left
when a log of arrivals and turns has ended. -/

namespace Foundation

inductive QueueEvent (α : Type*)
  | arrives (a : α)
  | turn
  deriving DecidableEq

namespace QueueEvent

variable {α : Type*}

def after (queue : List α) : QueueEvent α → List α
  | .arrives a => queue ++ [a]
  | .turn => queue.tail

def isTurn : QueueEvent α → Bool
  | .arrives _ => false
  | .turn => true

def turns (log : List (QueueEvent α)) : ℕ := log.countP isTurn

def arrivals (log : List (QueueEvent α)) : ℕ := log.countP fun event => !event.isTurn

def left (log : List (QueueEvent α)) : List α := log.foldl after []

/-- From wherever one starts to count, fewer packets arrive before one of the kind than turns follow. -/
def Timely (kind : α → Bool) (log : List (QueueEvent α)) : Prop :=
  ∀ before stretch a after, log = before ++ stretch ++ .arrives a :: after → kind a = true →
    arrivals stretch < turns (stretch ++ after)

variable {kind : α → Bool} {log before stretch rest : List (QueueEvent α)} {event other : QueueEvent α}
  {m : ℕ}

@[simp] lemma turns_append : turns (log ++ rest) = turns log + turns rest := List.countP_append

@[simp] lemma arrivals_append : arrivals (log ++ rest) = arrivals log + arrivals rest := List.countP_append

@[simp] lemma turns_nil : turns ([] : List (QueueEvent α)) = 0 := rfl

@[simp] lemma arrivals_nil : arrivals ([] : List (QueueEvent α)) = 0 := rfl

@[simp] lemma turns_turn : turns [(turn : QueueEvent α)] = 1 := rfl

@[simp] lemma arrivals_turn : arrivals [(turn : QueueEvent α)] = 0 := rfl

@[simp] lemma turns_arrives (a : α) : turns [arrives a] = 0 := rfl

@[simp] lemma arrivals_arrives (a : α) : arrivals [arrives a] = 1 := rfl

@[simp] lemma left_nil : left ([] : List (QueueEvent α)) = [] := rfl

lemma left_concat : left (log ++ [event]) = event.after (left log) := by
  rw [left, List.foldl_append]
  rfl

lemma concat_eq_append : log ++ [event] = before ++ stretch ↔
    stretch = [] ∧ before = log ++ [event] ∨ ∃ most, stretch = most ++ [event] ∧ log = before ++ most := by
  constructor
  · intro h
    rcases List.eq_nil_or_concat stretch with rfl | ⟨most, last, rfl⟩
    · exact .inl ⟨rfl, (List.append_nil before ▸ h).symm⟩
    · rw [List.concat_eq_append, ← List.append_assoc] at h
      obtain ⟨hlog, hlast⟩ := List.append_inj' h rfl
      exact .inr ⟨most, by rw [List.concat_eq_append, hlast], hlog⟩
  · rintro (⟨rfl, rfl⟩ | ⟨most, rfl, rfl⟩)
    · rw [List.append_nil]
    · rw [List.append_assoc]

/-- The queue is as long as the stretch up to the end asks that has the most arrivals over its turns. -/
lemma le_length_left : m ≤ (left log).length ↔
    ∃ before stretch, log = before ++ stretch ∧ turns stretch + m ≤ arrivals stretch := by
  induction log using List.reverseRecOn generalizing m with
  | nil =>
    constructor
    · intro h
      exact ⟨[], [], rfl, by simpa using h⟩
    · rintro ⟨before, stretch, hlog, hcount⟩
      obtain ⟨-, rfl⟩ := List.append_eq_nil_iff.mp hlog.symm
      simpa using hcount
  | append_singleton log event ih =>
    rw [left_concat]
    cases event with
    | arrives a =>
      rw [after, List.length_append, List.length_singleton]
      constructor
      · intro h
        obtain ⟨before, stretch, rfl, hcount⟩ := ih.mp (by omega : m - 1 ≤ (left log).length)
        refine ⟨before, stretch ++ [.arrives a], by rw [List.append_assoc], ?_⟩
        simp only [turns_append, arrivals_append, turns_arrives, arrivals_arrives]
        omega
      · rintro ⟨before, stretch, hlog, hcount⟩
        rcases concat_eq_append.mp hlog with ⟨rfl, -⟩ | ⟨most, rfl, rfl⟩
        · simp only [turns_nil, arrivals_nil] at hcount
          omega
        · rcases Nat.eq_zero_or_pos m with rfl | hpositive
          · exact Nat.zero_le _
          have hshort : m - 1 ≤ (left (before ++ most)).length := by
            refine ih.mpr ⟨before, most, rfl, ?_⟩
            simp only [turns_append, arrivals_append, turns_arrives, arrivals_arrives] at hcount
            omega
          omega
    | turn =>
      rw [after, List.length_tail]
      constructor
      · intro h
        by_cases hzero : m = 0
        · exact ⟨log ++ [.turn], [], (List.append_nil _).symm, by simp [hzero]⟩
        · obtain ⟨before, stretch, rfl, hcount⟩ := ih.mp (by omega : m + 1 ≤ (left log).length)
          refine ⟨before, stretch ++ [.turn], by rw [List.append_assoc], ?_⟩
          simp only [turns_append, arrivals_append, turns_turn, arrivals_turn]
          omega
      · rintro ⟨before, stretch, hlog, hcount⟩
        rcases concat_eq_append.mp hlog with ⟨rfl, -⟩ | ⟨most, rfl, rfl⟩
        · simp only [turns_nil, arrivals_nil] at hcount
          omega
        · have hlong : m + 1 ≤ (left (before ++ most)).length := by
            refine ih.mpr ⟨before, most, rfl, ?_⟩
            simp only [turns_append, arrivals_append, turns_turn, arrivals_turn] at hcount
            omega
          omega

lemma mem_drop_left : (∃ a ∈ (left log).drop m, kind a = true) ↔
    ∃ before stretch a after, log = before ++ stretch ++ .arrives a :: after ∧ kind a = true ∧
      turns (stretch ++ after) + m ≤ arrivals stretch := by
  induction log using List.reverseRecOn generalizing m with
  | nil =>
    simp only [left_nil, List.drop_nil, List.not_mem_nil, false_and, exists_false, false_iff]
    rintro ⟨before, stretch, a, after, hlog, -⟩
    cases List.append_eq_nil_iff.mp hlog.symm |>.2
  | append_singleton log event ih =>
    have hsplit : ∀ before stretch a after, log ++ [event] = before ++ stretch ++ .arrives a :: after ↔
        event = .arrives a ∧ after = [] ∧ log = before ++ stretch ∨
          ∃ most, after = most ++ [event] ∧ log = before ++ stretch ++ .arrives a :: most := by
      intro before stretch a after
      rw [concat_eq_append]
      constructor
      · rintro (⟨hnil, -⟩ | ⟨most, hmost, hlog⟩)
        · cases hnil
        · cases most with
          | nil =>
            obtain ⟨hevent, hafter⟩ := List.cons.inj hmost
            exact .inl ⟨hevent.symm, hafter, by rw [hlog, List.append_nil]⟩
          | cons first most =>
            obtain ⟨rfl, rfl⟩ := List.cons.inj hmost
            exact .inr ⟨most, rfl, hlog⟩
      · rintro (⟨rfl, rfl, rfl⟩ | ⟨most, rfl, rfl⟩)
        · exact .inr ⟨[], rfl, (List.append_nil _).symm⟩
        · exact .inr ⟨.arrives a :: most, rfl, rfl⟩
    rw [left_concat]
    simp only [hsplit]
    cases event with
    | arrives last =>
      constructor
      · rintro ⟨a, hmem, hkind⟩
        by_cases hshort : m ≤ (left log).length
        · rw [after, List.drop_append_of_le_length hshort] at hmem
          rcases List.mem_append.mp hmem with hmem | hmem
          · obtain ⟨before, stretch, a, most, hlog, hkind, hcount⟩ := ih.mp ⟨a, hmem, hkind⟩
            refine ⟨before, stretch, a, most ++ [.arrives last], .inr ⟨most, rfl, hlog⟩, hkind, ?_⟩
            rw [← List.append_assoc, turns_append, turns_arrives]
            exact hcount
          · obtain rfl := List.mem_singleton.mp hmem
            obtain ⟨before, stretch, hlog, hcount⟩ := le_length_left.mp hshort
            exact ⟨before, stretch, a, [], .inl ⟨rfl, rfl, hlog⟩, hkind, by rwa [List.append_nil]⟩
        · rw [after, List.drop_eq_nil_of_le (by simp; omega)] at hmem
          cases hmem
      · rintro ⟨before, stretch, a, rest, ⟨hlast', rfl, hlog⟩ | ⟨most, rfl, hlog⟩, hkind, hcount⟩
        · cases hlast'
          have hshort : m ≤ (left log).length := by
            rw [List.append_nil] at hcount
            exact le_length_left.mpr ⟨before, stretch, hlog, hcount⟩
          refine ⟨last, ?_, hkind⟩
          rw [after, List.drop_append_of_le_length hshort]
          exact List.mem_append_right _ (List.mem_singleton_self _)
        · rw [← List.append_assoc, turns_append, turns_arrives] at hcount
          obtain ⟨b, hmem, hkind⟩ := ih.mpr ⟨before, stretch, a, most, hlog, hkind, hcount⟩
          refine ⟨b, ?_, hkind⟩
          rw [after, List.drop_append]
          exact List.mem_append_left _ hmem
    | turn =>
      rw [after, List.drop_tail, ih]
      constructor
      · rintro ⟨before, stretch, a, most, hlog, hkind, hcount⟩
        refine ⟨before, stretch, a, most ++ [.turn], .inr ⟨most, rfl, hlog⟩, hkind, ?_⟩
        rw [← List.append_assoc, turns_append, turns_turn]
        omega
      · rintro ⟨before, stretch, a, rest, ⟨hnone, -, -⟩ | ⟨most, rfl, hlog⟩, hkind, hcount⟩
        · cases hnone
        · rw [← List.append_assoc, turns_append, turns_turn] at hcount
          exact ⟨before, stretch, a, most, hlog, hkind, by omega⟩

/-- The log is timely exactly when nothing of the kind is left. -/
theorem timely_iff : Timely kind log ↔ ∀ a ∈ left log, kind a = false := by
  have hleft : (∃ a ∈ left log, kind a = true) ↔ _ := @mem_drop_left α kind log 0
  constructor
  · intro htimely a hmem
    by_contra hkind
    obtain ⟨before, stretch, b, after, hlog, hb, hcount⟩ :=
      hleft.mp ⟨a, hmem, Bool.not_eq_false _ |>.mp hkind⟩
    exact absurd (htimely before stretch b after hlog hb) (Nat.not_lt.mpr hcount)
  · intro hnone before stretch a after hlog hkind
    by_contra hcount
    obtain ⟨b, hmem, hb⟩ := hleft.mpr ⟨before, stretch, a, after, hlog, hkind, Nat.not_lt.mp hcount⟩
    rw [hnone b hmem] at hb
    cases hb

end QueueEvent

end Foundation

import Mathlib

/-! A high-water mark over an ordered set of versions: it only rises, each retreat bans the version
it leaves, and no banned version is ever current or kept for a retreat again. -/

namespace Foundation

structure HighWater (α : Type*) where
  high : α
  current : α
  previous : Option α
  banned : Set α

namespace HighWater

variable {α : Type*} [LinearOrder α]

inductive Step : HighWater α → HighWater α → Prop
  | stay (s : HighWater α) : Step s s
  | advance (s : HighWater α) (r : α) : s.high < r → Step s ⟨r, r, some s.current, s.banned⟩
  | retreat (s : HighWater α) (p : α) : s.previous = some p →
      Step s ⟨s.high, p, none, insert s.current s.banned⟩

structure Safe (s : HighWater α) : Prop where
  current_le : s.current ≤ s.high
  previous_lt : ∀ p ∈ s.previous, p < s.current
  banned_le : ∀ b ∈ s.banned, b ≤ s.high
  current_free : s.current ∉ s.banned
  previous_free : ∀ p ∈ s.previous, p ∉ s.banned

lemma Safe.step {s t : HighWater α} (hs : Safe s) (h : Step s t) : Safe t := by
  cases h with
  | stay => exact hs
  | advance r hr =>
    refine ⟨le_rfl, ?_, fun b hb => ((hs.banned_le b hb).trans_lt hr).le, ?_, ?_⟩
    · rintro p ⟨⟩
      exact hs.current_le.trans_lt hr
    · exact fun hb => absurd (hs.banned_le r hb) (not_le.mpr hr)
    · rintro p ⟨⟩
      exact hs.current_free
  | retreat p hp =>
    have hlt := hs.previous_lt p hp
    refine ⟨hlt.le.trans hs.current_le, by simp, ?_, ?_, by simp⟩
    · rintro b (rfl | hb)
      · exact hs.current_le
      · exact hs.banned_le b hb
    · rintro (rfl | hb)
      · exact lt_irrefl _ hlt
      · exact hs.previous_free p hp hb

lemma Safe.avoids {s : HighWater α} (hs : Safe s) {b : α} (hb : b ∈ s.banned) :
    s.current ≠ b ∧ s.previous ≠ some b :=
  ⟨fun he => hs.current_free (he ▸ hb), fun he => hs.previous_free b he hb⟩

end HighWater

end Foundation

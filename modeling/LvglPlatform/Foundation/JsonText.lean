import LvglPlatform.Foundation.Json

/-! The printed text of a value determines it, whatever units its strings have: the printer of a
dialect is also the printer of one that reads every unit back. -/

namespace Foundation

namespace Json

namespace Dialect

variable {α : Type}

/-- The dialect that takes every unit of a string literal as it stands. -/
def raw (D : Dialect α) : Dialect α where
  code := D.code
  unit := D.unit
  code_unit := D.code_unit
  code_injective := D.code_injective
  plain
    | [] => none
    | u :: rest => some ([u], rest)
  plain_ascii _ _ _ _ := rfl
  exact _ := true
  inexact := D.inexact
  members := id
  encode := D.encode
  encode_ascii := D.encode_ascii
  pairs := D.pairs
  ended := D.ended
  ended_nil := D.ended_nil

variable {D : Dialect α}

lemma raw_quote (s : List α) : D.raw.quote s = D.quote s := rfl

lemma raw_readable (s : List α) : D.raw.Readable s := by
  induction s with
  | nil => exact .nil
  | cons u s ih =>
    by_cases hu : D.code u < 128
    · exact .ascii u s hu ih
    · refine .plain [u] s (List.cons_ne_nil u []) ?_ (fun _ => rfl) ih
      intro w hw
      obtain rfl := List.mem_singleton.mp hw
      exact not_lt.mp hu

mutual

lemma raw_print : ∀ v : Value (List α), D.raw.print v = D.print v
  | .null => rfl
  | .bool _ => rfl
  | .number (.integer _) => rfl
  | .number .real => rfl
  | .string _ => rfl
  | .array items => by
    rw [print, print, raw_printItems items]
    rfl
  | .object members => by
    rw [print, print, raw_printFields members]
    rfl

lemma raw_printItems : ∀ vs : List (Value (List α)), D.raw.printItems vs = D.printItems vs
  | [] => rfl
  | [v] => by
    rw [printItems, printItems, raw_print v]
  | v :: w :: vs => by
    rw [printItems, printItems, raw_print v, raw_printItems (w :: vs)]
    rfl

lemma raw_printFields : ∀ ms : List (List α × Value (List α)), D.raw.printFields ms = D.printFields ms
  | [] => rfl
  | [(name, v)] => by
    rw [printFields, printFields, raw_print v, raw_quote]
    rfl
  | (name, v) :: m :: ms => by
    rw [printFields, printFields, raw_print v, raw_quote, raw_printFields (m :: ms)]
    rfl

end

theorem print_injective {v w : Value (List α)} (hv : D.raw.Printable v) (hw : D.raw.Printable w)
    (h : D.print v = D.print w) : v = w := by
  have hread := parse_print hv
  rw [raw_print, h, ← raw_print, parse_print hw] at hread
  exact (Option.some.inj hread).symm

lemma quote_injective {s t : List α} (h : D.quote s = D.quote t) : s = t := by
  have hv : D.raw.Printable (.string s) := by
    rw [Printable]
    exact raw_readable s
  have hw : D.raw.Printable (.string t) := by
    rw [Printable]
    exact raw_readable t
  have heq := print_injective (D := D) hv hw (by rw [print, print, h])
  exact Value.string.inj heq

end Dialect

end Json

end Foundation

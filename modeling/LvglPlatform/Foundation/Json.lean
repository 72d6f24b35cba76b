import LvglPlatform.Foundation.Bytes

/-! JSON over any code unit: values, a printer without blanks, and a parser that differs between
implementations only in how it reads the characters of a string literal, which numbers it keeps
exactly and what it does with repeated members. -/

namespace Foundation

namespace Json

inductive Number
  | integer (n : ℤ)
  | real
  deriving DecidableEq, Repr

inductive Value (σ : Type)
  | null
  | bool (b : Bool)
  | number (n : Number)
  | string (s : σ)
  | array (items : List (Value σ))
  | object (members : List (σ × Value σ))

mutual

def Value.All {σ : Type} (P : σ → Prop) : Value σ → Prop
  | .string s => P s
  | .array items => AllItems P items
  | .object members => AllFields P members
  | _ => True

def AllItems {σ : Type} (P : σ → Prop) : List (Value σ) → Prop
  | [] => True
  | v :: vs => Value.All P v ∧ AllItems P vs

def AllFields {σ : Type} (P : σ → Prop) : List (σ × Value σ) → Prop
  | [] => True
  | (name, v) :: ms => P name ∧ Value.All P v ∧ AllFields P ms

end

structure Dialect (α : Type) where
  code : α → ℕ
  unit : ℕ → α
  code_unit : ∀ n < 128, code (unit n) = n
  code_injective : Function.Injective code
  /-- One unescaped character of a string literal, and what follows it. -/
  plain : List α → Option (List α × List α)
  plain_ascii : ∀ u rest, 32 ≤ code u → code u < 128 → plain (u :: rest) = some ([u], rest)
  exact : ℤ → Bool
  inexact : List α → Number
  members : List (List α × Value (List α)) → List (List α × Value (List α))
  /-- The characters of a code point that was written with escapes, if it may stand alone. -/
  encode : ℕ → Option (List α)
  encode_ascii : ∀ n < 128, encode n = some [unit n]
  pairs : Bool
  ended : List α → Bool
  ended_nil : ended [] = true

section

variable {α : Type} (D : Dialect α)

namespace Dialect

def peek : List α → ℕ
  | [] => 0
  | u :: _ => D.code u

def blank (u : α) : Bool := D.code u = 32 || D.code u = 10 || D.code u = 13 || D.code u = 9

def skip (s : List α) : List α := s.dropWhile D.blank

def digit (u : α) : Bool := 48 ≤ D.code u && D.code u ≤ 57

def literal (s : String) : List α := s.toList.map fun c => D.unit c.toNat

def consume (word : String) (s : List α) : Option (List α) :=
  if (s.take word.toList.length).map D.code = word.toList.map Char.toNat then
    some (s.drop word.toList.length)
  else none

def hexValue (n : ℕ) : Option ℕ :=
  if 48 ≤ n ∧ n ≤ 57 then some (n - 48)
  else if 65 ≤ n ∧ n ≤ 70 then some (n - 55)
  else if 97 ≤ n ∧ n ≤ 102 then some (n - 87)
  else none

def hex4 : List α → Option (ℕ × List α)
  | a :: b :: c :: d :: rest => do
    let a ← hexValue (D.code a)
    let b ← hexValue (D.code b)
    let c ← hexValue (D.code c)
    let d ← hexValue (D.code d)
    some (4096 * a + 256 * b + 16 * c + d, rest)
  | _ => none

/-- The code point after `\u`; a dialect with `pairs` reads both halves of a surrogate pair. -/
def escapedPoint (s : List α) : Option (ℕ × List α) := do
  let (high, rest) ← hex4 D s
  if D.pairs && 0xD800 ≤ high && high ≤ 0xDBFF then
    if D.peek rest = 92 ∧ D.peek rest.tail = 117 then
      let (low, rest) ← hex4 D rest.tail.tail
      if 0xDC00 ≤ low ∧ low ≤ 0xDFFF then
        some ((high - 0xD800) * 1024 + (low - 0xDC00) + 0x10000, rest)
      else none
    else none
  else some (high, rest)

def escape (s : List α) : Option (List α × List α) :=
  match D.peek s with
  | 34 | 92 | 47 => some (s.take 1, s.tail)
  | 98 => some ([D.unit 8], s.tail)
  | 102 => some ([D.unit 12], s.tail)
  | 110 => some ([D.unit 10], s.tail)
  | 114 => some ([D.unit 13], s.tail)
  | 116 => some ([D.unit 9], s.tail)
  | 117 => do
    let (point, rest) ← escapedPoint D s.tail
    let units ← D.encode point
    some (units, rest)
  | _ => none

def string : ℕ → List α → Option (List α × List α)
  | 0, _ => none
  | _ + 1, [] => none
  | fuel + 1, u :: s =>
    if D.code u = 34 then some ([], s)
    else if D.code u = 92 then do
      let (units, rest) ← D.escape s
      let (tail, rest) ← string fuel rest
      some (units ++ tail, rest)
    else if D.code u < 32 then none
    else do
      let (units, rest) ← D.plain (u :: s)
      let (tail, rest) ← string fuel rest
      some (units ++ tail, rest)

def natural (digits : List α) : ℕ := digits.foldl (fun n u => 10 * n + (D.code u - 48)) 0

def digits (s : List α) : Option (List α) :=
  if s.takeWhile D.digit = [] then none else some (s.dropWhile D.digit)

def fraction (s : List α) : Option (Bool × List α) :=
  if D.peek s = 46 then (D.digits s.tail).map (true, ·) else some (false, s)

def exponent (s : List α) : Option (Bool × List α) :=
  if D.peek s = 101 ∨ D.peek s = 69 then
    if D.peek s.tail = 43 ∨ D.peek s.tail = 45 then (D.digits s.tail.tail).map (true, ·)
    else (D.digits s.tail).map (true, ·)
  else some (false, s)

def whole (s : List α) : List α :=
  if D.peek s = 48 then s.take 1 else s.takeWhile D.digit

def number (s : List α) : Option (Number × List α) := do
  let negative := D.peek s = 45
  let body := if negative then s.tail else s
  let whole := D.whole body
  if whole = [] then none
  else
    let (fractional, rest) ← D.fraction (body.drop whole.length)
    let (scaled, rest) ← D.exponent rest
    let n : ℤ := if negative then -(D.natural whole : ℤ) else D.natural whole
    if fractional || scaled || !D.exact n then
      some (D.inexact (s.take (s.length - rest.length)), rest)
    else some (.integer n, rest)

mutual

def value : ℕ → List α → Option (Value (List α) × List α)
  | 0, _ => none
  | fuel + 1, s =>
    match D.peek s with
    | 110 => (D.consume "null" s).map (.null, ·)
    | 116 => (D.consume "true" s).map (.bool true, ·)
    | 102 => (D.consume "false" s).map (.bool false, ·)
    | 34 => (D.string s.length s.tail).map fun (t, rest) => (.string t, rest)
    | 91 =>
      if D.peek (D.skip s.tail) = 93 then some (.array [], (D.skip s.tail).tail)
      else (items fuel (D.skip s.tail)).map fun (vs, rest) => (.array vs, rest)
    | 123 =>
      if D.peek (D.skip s.tail) = 125 then some (.object [], (D.skip s.tail).tail)
      else (fields fuel (D.skip s.tail)).map fun (ms, rest) => (.object (D.members ms), rest)
    | _ => (D.number s).map fun (n, rest) => (.number n, rest)

def items : ℕ → List α → Option (List (Value (List α)) × List α)
  | 0, _ => none
  | fuel + 1, s => do
    let (v, rest) ← value fuel s
    if D.peek (D.skip rest) = 44 then
      let (vs, rest) ← items fuel (D.skip (D.skip rest).tail)
      some (v :: vs, rest)
    else if D.peek (D.skip rest) = 93 then some ([v], (D.skip rest).tail)
    else none

def fields : ℕ → List α → Option (List (List α × Value (List α)) × List α)
  | 0, _ => none
  | fuel + 1, s => do
    if D.peek s ≠ 34 then none
    let (name, rest) ← D.string s.length s.tail
    if D.peek (D.skip rest) ≠ 58 then none
    let (v, rest) ← value fuel (D.skip (D.skip rest).tail)
    if D.peek (D.skip rest) = 44 then
      let (ms, rest) ← fields fuel (D.skip (D.skip rest).tail)
      some ((name, v) :: ms, rest)
    else if D.peek (D.skip rest) = 125 then some ([(name, v)], (D.skip rest).tail)
    else none

end

def parse (s : List α) : Option (Value (List α)) := do
  let (v, rest) ← D.value (2 * s.length + 2) (D.skip s)
  if D.ended (D.skip rest) then some v else none

def spell (u : α) : List α :=
  match D.code u with
  | 34 => D.literal "\\\""
  | 92 => D.literal "\\\\"
  | 8 => D.literal "\\b"
  | 12 => D.literal "\\f"
  | 10 => D.literal "\\n"
  | 13 => D.literal "\\r"
  | 9 => D.literal "\\t"
  | n =>
    if n < 32 then
      D.literal "\\u00" ++ [D.unit (Nat.digitChar (n / 16)).toNat, D.unit (Nat.digitChar (n % 16)).toNat]
    else [u]

def quote (s : List α) : List α := D.unit 34 :: (s.flatMap D.spell ++ [D.unit 34])

def natText (n : ℕ) : List α := (Nat.toDigits 10 n).map fun c => D.unit c.toNat

def intText (n : ℤ) : List α :=
  if n < 0 then D.unit 45 :: D.natText n.natAbs else D.natText n.natAbs

mutual

def print : Value (List α) → List α
  | .null => D.literal "null"
  | .bool b => D.literal (if b then "true" else "false")
  | .number (.integer n) => D.intText n
  | .number .real => []
  | .string s => D.quote s
  | .array items => D.unit 91 :: (printItems items ++ [D.unit 93])
  | .object members => D.unit 123 :: (printFields members ++ [D.unit 125])

def printItems : List (Value (List α)) → List α
  | [] => []
  | [v] => print v
  | v :: w :: vs => print v ++ D.unit 44 :: printItems (w :: vs)

def printFields : List (List α × Value (List α)) → List α
  | [] => []
  | [(name, v)] => D.quote name ++ D.unit 58 :: print v
  | (name, v) :: m :: ms => D.quote name ++ D.unit 58 :: (print v ++ D.unit 44 :: printFields (m :: ms))

end

inductive Readable : List α → Prop
  | nil : Readable []
  | ascii (u : α) (s : List α) : D.code u < 128 → Readable s → Readable (u :: s)
  | plain (chunk s : List α) : chunk ≠ [] → (∀ u ∈ chunk, 128 ≤ D.code u) →
      (∀ rest, D.plain (chunk ++ rest) = some (chunk, rest)) → Readable s → Readable (chunk ++ s)

mutual

def Printable : Value (List α) → Prop
  | .null => True
  | .bool _ => True
  | .number (.integer n) => D.exact n = true
  | .number .real => False
  | .string s => D.Readable s
  | .array items => PrintableItems items
  | .object members => D.members members = members ∧ PrintableFields members

def PrintableItems : List (Value (List α)) → Prop
  | [] => True
  | v :: vs => Printable v ∧ PrintableItems vs

def PrintableFields : List (List α × Value (List α)) → Prop
  | [] => True
  | (name, v) :: ms => D.Readable name ∧ Printable v ∧ PrintableFields ms

end

variable {D}

@[simp] lemma peek_cons (u : α) (s : List α) : D.peek (u :: s) = D.code u := rfl

lemma unit_code {u : α} {n : ℕ} (h : D.code u = n) (hn : n < 128) : D.unit n = u :=
  D.code_injective ((D.code_unit n hn).trans h.symm)

lemma digitChar_code : ∀ k < 16, (Nat.digitChar k).toNat < 128 ∧
    hexValue (Nat.digitChar k).toNat = some k := by decide

lemma hex4_control {n : ℕ} (h : n < 32) (rest : List α) :
    hex4 D (D.unit 48 :: D.unit 48 :: D.unit (Nat.digitChar (n / 16)).toNat ::
      D.unit (Nat.digitChar (n % 16)).toNat :: rest) = some (n, rest) := by
  obtain ⟨hhigh, hhigh'⟩ := digitChar_code (n / 16) (by omega)
  obtain ⟨hlow, hlow'⟩ := digitChar_code (n % 16) (by omega)
  have hsum : 16 * (n / 16) + n % 16 = n := Nat.div_add_mod n 16
  simp [hex4, D.code_unit, hhigh, hlow, hhigh', hlow', show hexValue 48 = some 0 from rfl, hsum]

lemma string_spell {u : α} (hu : D.code u < 128) (fuel : ℕ) (s t rest : List α)
    (h : D.string fuel s = some (t, rest)) :
    D.string (fuel + 1) (D.spell u ++ s) = some (u :: t, rest) := by
  have hunit : ∀ n < 128, D.code u = n → D.unit n = u := fun n hn he => unit_code he hn
  have hcode := D.code_unit
  rw [spell]
  split
  · rename_i he
    simp [literal, string, escape, hcode, h, hunit 34 (by omega) he, he]
  · rename_i he
    simp [literal, string, escape, h, hunit 92 (by omega) he, he]
  · rename_i he
    simp [literal, string, escape, hcode, h, hunit 8 (by omega) he]
  · rename_i he
    simp [literal, string, escape, hcode, h, hunit 12 (by omega) he]
  · rename_i he
    simp [literal, string, escape, hcode, h, hunit 10 (by omega) he]
  · rename_i he
    simp [literal, string, escape, hcode, h, hunit 13 (by omega) he]
  · rename_i he
    simp [literal, string, escape, hcode, h, hunit 9 (by omega) he]
  · rename_i hquote hslash _ _ _ _ _
    split
    · rename_i hlow
      simp [literal, string, escape, hcode, escapedPoint, hex4_control hlow, D.encode_ascii _ hu, h,
        hunit _ hu rfl, show ¬ 55296 ≤ D.code u by omega]
    · rename_i hlow
      simp [string, show D.code u ≠ 34 from hquote, show D.code u ≠ 92 from hslash, hlow,
        D.plain_ascii u _ (by omega) hu, h]

lemma spell_high {u : α} (h : 128 ≤ D.code u) : D.spell u = [u] := by
  rw [spell]
  split
  all_goals try omega
  rw [if_neg (by omega)]

lemma spell_length_pos (u : α) : 0 < (D.spell u).length := by
  rw [spell]
  split
  all_goals try simp [literal]
  split <;> simp

lemma string_readable {s : List α} (hs : D.Readable s) (rest : List α) (fuel : ℕ)
    (hf : (s.flatMap D.spell).length < fuel) :
    D.string fuel (s.flatMap D.spell ++ D.unit 34 :: rest) = some (s, rest) := by
  induction hs generalizing fuel with
  | nil =>
    obtain ⟨fuel, rfl⟩ : ∃ n, fuel = n + 1 := ⟨fuel - 1, by omega⟩
    simp [string, D.code_unit]
  | ascii u s hu _ ih =>
    have hpos := spell_length_pos (D := D) u
    rw [List.flatMap_cons, List.length_append] at hf
    obtain ⟨fuel, rfl⟩ : ∃ n, fuel = n + 1 := ⟨fuel - 1, by omega⟩
    rw [List.flatMap_cons, List.append_assoc]
    exact string_spell hu fuel _ _ _ (ih fuel (by omega))
  | plain chunk s hne hhigh hplain _ ih =>
    have hchunk : chunk.flatMap D.spell = chunk := by
      clear hne hplain hf
      induction chunk with
      | nil => rfl
      | cons u chunk ihc =>
        rw [List.flatMap_cons, spell_high (hhigh u List.mem_cons_self),
          ihc fun v hv => hhigh v (List.mem_cons_of_mem u hv)]
        rfl
    have hpos := List.length_pos_iff.mpr hne
    rw [List.flatMap_append, hchunk, List.length_append] at hf
    obtain ⟨fuel, rfl⟩ : ∃ n, fuel = n + 1 := ⟨fuel - 1, by omega⟩
    rw [List.flatMap_append, hchunk, List.append_assoc]
    cases chunk with
    | nil => exact absurd rfl hne
    | cons u chunk =>
      have hu := hhigh u List.mem_cons_self
      have hread := hplain (s.flatMap D.spell ++ D.unit 34 :: rest)
      rw [List.cons_append] at hread ⊢
      rw [string, if_neg (by omega), if_neg (by omega), if_neg (by omega), hread]
      simp [ih fuel (by omega)]

lemma string_quote {s : List α} (hs : D.Readable s) (rest : List α) :
    ∃ t, D.quote s ++ rest = D.unit 34 :: t ∧
      D.string (t.length + 1) t = some (s, rest) := by
  refine ⟨s.flatMap D.spell ++ D.unit 34 :: rest, by simp [quote], ?_⟩
  exact string_readable hs rest _ (by simp)

structure Stops (D : Dialect α) (s : List α) : Prop where
  digit : ∀ u ∈ s.head?, D.digit u = false
  point : D.peek s ≠ 46
  exponent : D.peek s ≠ 101 ∧ D.peek s ≠ 69

lemma stops_nil : D.Stops [] := ⟨by simp, by simp [peek], by simp [peek]⟩

lemma stops_unit {n : ℕ} (h : n = 44 ∨ n = 93 ∨ n = 125) (s : List α) : D.Stops (D.unit n :: s) := by
  have hcode := D.code_unit n (by omega)
  refine ⟨?_, ?_, ?_⟩
  · rintro u ⟨⟩
    simp only [digit, hcode, Bool.and_eq_false_iff, decide_eq_false_iff_not]
    omega
  · rw [peek_cons, hcode]
    omega
  · rw [peek_cons, hcode]
    omega

lemma toDigits_head {n : ℕ} (h : 0 < n) : ∀ c ∈ (Nat.toDigits 10 n).head?, c ≠ '0' := by
  induction n using Nat.strong_induction_on with
  | _ n ih =>
    by_cases hn : n < 10
    · rw [Nat.toDigits_of_lt_base hn]
      rintro c ⟨⟩
      simp only [ne_eq, Nat.digitChar_eq_zero]
      omega
    · rw [Nat.toDigits_of_base_le (by omega) (by omega)]
      have hhead := ih (n / 10) (by omega) (by omega)
      rwa [List.head?_append_of_ne_nil _ Nat.toDigits_ne_nil]

lemma natural_natText (n : ℕ) : D.natural (D.natText n) = n := by
  have hfold : ∀ (cs : List Char) (k : ℕ), (∀ c ∈ cs, c.isDigit = true) →
      (cs.map fun c => D.unit c.toNat).foldl (fun n u => 10 * n + (D.code u - 48)) k =
        Nat.ofDigitChars 10 cs k := by
    intro cs
    induction cs with
    | nil => simp
    | cons c cs ih =>
      intro k hall
      have hc := hall c List.mem_cons_self
      have hlt : c.toNat < 128 := by
        simp only [Char.isDigit, Bool.and_eq_true, decide_eq_true_eq] at hc
        have := UInt32.le_iff_toNat_le.mp hc.2
        simp at this
        omega
      rw [List.map_cons, List.foldl_cons, Nat.ofDigitChars_cons, D.code_unit _ hlt,
        ih _ fun d hd => hall d (List.mem_cons_of_mem c hd)]
      rfl
  rw [natural, natText, hfold _ _ fun c hc => Nat.isDigit_of_mem_toDigits (by omega) (by omega) hc,
    Nat.ofDigitChars_ten_toDigits]

lemma natText_digits (n : ℕ) : ∀ u ∈ D.natText n, D.digit u = true := by
  intro u hu
  obtain ⟨c, hc, rfl⟩ := List.mem_map.mp hu
  have hdigit := Nat.isDigit_of_mem_toDigits (by omega) (by omega) hc
  simp only [Char.isDigit, Bool.and_eq_true, decide_eq_true_eq] at hdigit
  have hlow : 48 ≤ c.toNat := UInt32.le_iff_toNat_le.mp hdigit.1
  have hhigh : c.toNat ≤ 57 := UInt32.le_iff_toNat_le.mp hdigit.2
  rw [digit, D.code_unit _ (by omega)]
  simp [hlow, hhigh]

lemma natText_ne_nil (n : ℕ) : D.natText n ≠ [] := by
  rw [natText, ne_eq, List.map_eq_nil_iff]
  exact Nat.toDigits_ne_nil

lemma peek_natText (n : ℕ) (rest : List α) :
    48 ≤ D.peek (D.natText n ++ rest) ∧ D.peek (D.natText n ++ rest) ≤ 57 := by
  cases ht : D.natText n with
  | nil => exact absurd ht (natText_ne_nil n)
  | cons u us =>
    have hu := natText_digits n u (ht ▸ List.mem_cons_self)
    simpa [digit] using hu

lemma takeWhile_digits {s rest : List α} (hs : ∀ u ∈ s, D.digit u = true)
    (hrest : ∀ u ∈ rest.head?, D.digit u = false) : (s ++ rest).takeWhile D.digit = s := by
  rw [List.takeWhile_append_of_pos hs]
  cases rest with
  | nil => simp
  | cons u rest => simp [hrest u rfl]

lemma whole_natText (n : ℕ) {rest : List α} (hrest : D.Stops rest) :
    D.whole (D.natText n ++ rest) = D.natText n := by
  rw [whole]
  rcases Nat.eq_zero_or_pos n with rfl | hn
  · have hzero : D.natText 0 = [D.unit 48] := rfl
    rw [hzero, List.singleton_append, peek_cons, if_pos (D.code_unit 48 (by omega))]
    rfl
  · have hpeek : D.peek (D.natText n ++ rest) ≠ 48 := by
      cases ht : Nat.toDigits 10 n with
      | nil => exact absurd ht Nat.toDigits_ne_nil
      | cons c cs =>
        have hc := toDigits_head hn c (by rw [ht]; rfl)
        have hmem : c ∈ Nat.toDigits 10 n := ht ▸ List.mem_cons_self
        have hdigit := Nat.isDigit_of_mem_toDigits (by omega) (by omega) hmem
        simp only [Char.isDigit, Bool.and_eq_true, decide_eq_true_eq] at hdigit
        have hhigh : c.toNat ≤ 57 := UInt32.le_iff_toNat_le.mp hdigit.2
        rw [natText, ht, List.map_cons, List.cons_append, peek_cons, D.code_unit _ (by omega)]
        intro he
        exact hc (Char.toNat_inj.mp he)
    rw [if_neg hpeek, takeWhile_digits (natText_digits n) hrest.digit]

lemma fraction_stops {s : List α} (h : D.Stops s) : D.fraction s = some (false, s) := by
  rw [fraction, if_neg h.point]

lemma exponent_stops {s : List α} (h : D.Stops s) : D.exponent s = some (false, s) := by
  rw [exponent, if_neg (not_or.mpr h.exponent)]

lemma number_intText {n : ℤ} (h : D.exact n = true) {rest : List α} (hrest : D.Stops rest) :
    D.number (D.intText n ++ rest) = some (.integer n, rest) := by
  have hwhole := whole_natText (D := D) n.natAbs hrest
  have hne := natText_ne_nil (D := D) n.natAbs
  have hbounds := peek_natText (D := D) n.natAbs rest
  rw [intText]
  by_cases hneg : n < 0
  · rw [if_pos hneg, List.cons_append, number]
    simp [D.code_unit, hwhole, hne, fraction_stops hrest, exponent_stops hrest, natural_natText,
      abs_of_neg hneg, h]
  · have habs : (n.natAbs : ℤ) = n := by omega
    have hminus : D.peek (D.natText n.natAbs ++ rest) ≠ 45 := by omega
    rw [if_neg hneg, number]
    simp [hminus, hwhole, hne, fraction_stops hrest, exponent_stops hrest, natural_natText, habs, h]

lemma skip_of_not_blank {s : List α} (h : ∀ u ∈ s.head?, D.blank u = false) : D.skip s = s := by
  cases s with
  | nil => rfl
  | cons u s => rw [skip, List.dropWhile_cons, if_neg (by simp [h u rfl])]

lemma skip_of_peek {s : List α} (h : 32 < D.peek s) : D.skip s = s := by
  apply skip_of_not_blank
  cases s with
  | nil => simp
  | cons u s =>
    rintro v ⟨⟩
    rw [peek_cons] at h
    simp only [blank, Bool.or_eq_false_iff, decide_eq_false_iff_not]
    omega

lemma peek_print {v : Value (List α)} (hv : D.Printable v) (rest : List α) :
    32 < D.peek (D.print v ++ rest) ∧ D.peek (D.print v ++ rest) ≠ 93 := by
  cases v with
  | null => simp [print, literal, D.code_unit]
  | bool b => cases b <;> simp [print, literal, D.code_unit]
  | number n =>
    cases n with
    | real => exact absurd hv (by simp [Printable])
    | integer n =>
      have hbounds := peek_natText (D := D) n.natAbs rest
      rw [print, intText]
      split
      · simp [D.code_unit]
      · omega
  | string s => simp [print, quote, D.code_unit]
  | array items => simp [print, D.code_unit]
  | object members => simp [print, D.code_unit]

lemma print_length_pos {v : Value (List α)} (hv : D.Printable v) : 0 < (D.print v).length := by
  have h := (peek_print hv []).1
  rw [List.append_nil] at h
  cases hp : D.print v with
  | nil => simp [hp, peek] at h
  | cons u s => simp

lemma consume_literal (w : String) (h : ∀ c ∈ w.toList, c.toNat < 128) (rest : List α) :
    D.consume w (D.literal w ++ rest) = some rest := by
  have hlen : w.toList.length = (D.literal w).length := by rw [literal, List.length_map]
  have hcodes : (D.literal w).map D.code = w.toList.map Char.toNat := by
    rw [literal, List.map_map]
    exact List.map_congr_left fun c hc => D.code_unit _ (h c hc)
  rw [consume, hlen, List.take_left, if_pos hcodes, List.drop_left]

lemma number_peek {n : ℤ} (rest : List α) : D.peek (D.intText n ++ rest) = 45 ∨
    48 ≤ D.peek (D.intText n ++ rest) ∧ D.peek (D.intText n ++ rest) ≤ 57 := by
  rw [intText]
  split
  · left
    simp [D.code_unit]
  · exact Or.inr (peek_natText n.natAbs rest)

lemma peek_printItems {vs : List (Value (List α))} (hne : vs ≠ []) (h : D.PrintableItems vs)
    (rest : List α) : 32 < D.peek (D.printItems vs ++ rest) ∧ D.peek (D.printItems vs ++ rest) ≠ 93 := by
  match vs with
  | [] => exact absurd rfl hne
  | [v] =>
    rw [printItems]
    exact peek_print h.1 rest
  | v :: w :: vs =>
    rw [printItems, List.append_assoc]
    exact peek_print h.1 _

lemma peek_printFields (m : List α × Value (List α)) (ms : List (List α × Value (List α)))
    (rest : List α) : D.peek (D.printFields (m :: ms) ++ rest) = 34 := by
  obtain ⟨name, v⟩ := m
  cases ms <;> simp [printFields, quote, D.code_unit]

mutual

lemma value_print : ∀ (v : Value (List α)), D.Printable v → ∀ (rest : List α) (fuel : ℕ),
    D.Stops rest → 2 * (D.print v).length ≤ fuel →
      D.value fuel (D.print v ++ rest) = some (v, rest)
  | .null, _, rest, fuel, _, hf => by
    obtain ⟨fuel, rfl⟩ : ∃ n, fuel = n + 1 := ⟨fuel - 1, by simp [print, literal] at hf; omega⟩
    rw [value, print]
    simp [consume_literal "null" (by simp), show D.peek (D.literal "null" ++ rest) = 110 by simp [literal, D.code_unit]]
  | .bool b, _, rest, fuel, _, hf => by
    cases b with
    | false =>
      obtain ⟨fuel, rfl⟩ : ∃ n, fuel = n + 1 := ⟨fuel - 1, by simp [print, literal] at hf; omega⟩
      rw [value, print]
      simp [consume_literal "false" (by simp),
        show D.peek (D.literal "false" ++ rest) = 102 by simp [literal, D.code_unit]]
    | true =>
      obtain ⟨fuel, rfl⟩ : ∃ n, fuel = n + 1 := ⟨fuel - 1, by simp [print, literal] at hf; omega⟩
      rw [value, print]
      simp [consume_literal "true" (by simp),
        show D.peek (D.literal "true" ++ rest) = 116 by simp [literal, D.code_unit]]
  | .number .real, hv, _, _, _, _ => absurd hv (by simp [Printable])
  | .number (.integer n), hv, rest, fuel, hrest, hf => by
    have hpos := print_length_pos (v := .number (.integer n)) hv
    obtain ⟨fuel, rfl⟩ : ∃ n, fuel = n + 1 := ⟨fuel - 1, by omega⟩
    have hpeek := number_peek (D := D) (n := n) rest
    rw [value, print]
    split
    all_goals try omega
    rw [number_intText (by simpa only [Printable] using hv) hrest, Option.map_some]
  | .string s, hv, rest, fuel, _, hf => by
    have hpos := print_length_pos (v := .string s) hv
    obtain ⟨fuel, rfl⟩ : ∃ n, fuel = n + 1 := ⟨fuel - 1, by omega⟩
    obtain ⟨t, ht, hread⟩ := string_quote (by simpa only [Printable] using hv) rest
    rw [value, print, ht]
    simp only [peek_cons, D.code_unit 34 (by omega), List.length_cons, List.tail_cons, hread,
      Option.map_some]
  | .array [], _, rest, fuel, _, hf => by
    obtain ⟨fuel, rfl⟩ : ∃ n, fuel = n + 1 := ⟨fuel - 1, by simp [print, printItems] at hf; omega⟩
    have hskip : D.skip (D.unit 93 :: rest) = D.unit 93 :: rest :=
      skip_of_peek (by simp [D.code_unit])
    rw [value, print, printItems]
    simp [D.code_unit, hskip]
  | .array (v :: vs), hv, rest, fuel, _, hf => by
    have hitems : D.PrintableItems (v :: vs) := by simpa only [Printable] using hv
    obtain ⟨hpeek, hclose⟩ := peek_printItems (by simp) hitems (D.unit 93 :: rest)
    rw [print, List.length_cons, List.length_append, List.length_singleton] at hf
    obtain ⟨fuel, rfl⟩ : ∃ n, fuel = n + 1 := ⟨fuel - 1, by omega⟩
    have hread := items_print (v :: vs) hitems (by simp) rest fuel (by omega)
    have htext : D.print (.array (v :: vs)) ++ rest =
        D.unit 91 :: (D.printItems (v :: vs) ++ D.unit 93 :: rest) := by simp [print]
    rw [htext, value]
    simp only [peek_cons, D.code_unit 91 (by omega), List.tail_cons, skip_of_peek hpeek, hclose,
      if_false, hread, Option.map_some]
  | .object [], hv, rest, fuel, _, hf => by
    obtain ⟨fuel, rfl⟩ : ∃ n, fuel = n + 1 := ⟨fuel - 1, by simp [print, printFields] at hf; omega⟩
    have hskip : D.skip (D.unit 125 :: rest) = D.unit 125 :: rest :=
      skip_of_peek (by simp [D.code_unit])
    rw [value, print, printFields]
    simp [D.code_unit, hskip]
  | .object (m :: ms), hv, rest, fuel, _, hf => by
    obtain ⟨hmembers, hfields⟩ : D.members (m :: ms) = m :: ms ∧ D.PrintableFields (m :: ms) := by
      simpa only [Printable] using hv
    have hquote := peek_printFields (D := D) m ms (D.unit 125 :: rest)
    rw [print, List.length_cons, List.length_append, List.length_singleton] at hf
    obtain ⟨fuel, rfl⟩ : ∃ n, fuel = n + 1 := ⟨fuel - 1, by omega⟩
    have hread := fields_print (m :: ms) hfields (by simp) rest fuel (by omega)
    have htext : D.print (.object (m :: ms)) ++ rest =
        D.unit 123 :: (D.printFields (m :: ms) ++ D.unit 125 :: rest) := by simp [print]
    have hskip := skip_of_peek (D := D) (s := D.printFields (m :: ms) ++ D.unit 125 :: rest) (by omega)
    rw [htext, value]
    simp only [peek_cons, D.code_unit 123 (by omega), List.tail_cons, hskip, hquote,
      show ¬ (34 = 125) by omega, if_false, hread, Option.map_some, hmembers]

lemma items_print : ∀ (vs : List (Value (List α))), D.PrintableItems vs → vs ≠ [] →
    ∀ (rest : List α) (fuel : ℕ), 2 * (D.printItems vs).length + 1 ≤ fuel →
      D.items fuel (D.printItems vs ++ D.unit 93 :: rest) = some (vs, rest)
  | [], _, hne, _, _, _ => absurd rfl hne
  | [v], hvs, _, rest, fuel, hf => by
    obtain ⟨fuel, rfl⟩ : ∃ n, fuel = n + 1 := ⟨fuel - 1, by omega⟩
    rw [printItems] at hf
    have hread := value_print v hvs.1 (D.unit 93 :: rest) fuel (stops_unit (by omega) rest) (by omega)
    have hskip : D.skip (D.unit 93 :: rest) = D.unit 93 :: rest :=
      skip_of_peek (by simp [D.code_unit])
    rw [items, printItems, hread]
    simp [hskip, D.code_unit]
  | v :: w :: vs, hvs, _, rest, fuel, hf => by
    obtain ⟨fuel, rfl⟩ : ∃ n, fuel = n + 1 := ⟨fuel - 1, by omega⟩
    rw [printItems, List.length_append, List.length_cons] at hf
    have hread := value_print v hvs.1 (D.unit 44 :: (D.printItems (w :: vs) ++ D.unit 93 :: rest)) fuel
      (stops_unit (by omega) _) (by omega)
    have hrest := items_print (w :: vs) hvs.2 (by simp) rest fuel (by omega)
    have hcomma : D.skip (D.unit 44 :: (D.printItems (w :: vs) ++ D.unit 93 :: rest)) =
        D.unit 44 :: (D.printItems (w :: vs) ++ D.unit 93 :: rest) :=
      skip_of_peek (by simp [D.code_unit])
    have hskip := skip_of_peek (peek_printItems (by simp) hvs.2 (D.unit 93 :: rest)).1
    rw [items, printItems, List.append_assoc, List.cons_append, hread]
    simp [hcomma, D.code_unit, hskip, hrest]

lemma fields_print : ∀ (ms : List (List α × Value (List α))), D.PrintableFields ms → ms ≠ [] →
    ∀ (rest : List α) (fuel : ℕ), 2 * (D.printFields ms).length + 1 ≤ fuel →
      D.fields fuel (D.printFields ms ++ D.unit 125 :: rest) = some (ms, rest)
  | [], _, hne, _, _, _ => absurd rfl hne
  | [(name, v)], hms, _, rest, fuel, hf => by
    obtain ⟨fuel, rfl⟩ : ∃ n, fuel = n + 1 := ⟨fuel - 1, by omega⟩
    obtain ⟨hname, hv, -⟩ := hms
    rw [printFields, List.length_append, List.length_cons] at hf
    obtain ⟨t, ht, hstring⟩ := string_quote hname (D.unit 58 :: (D.print v ++ D.unit 125 :: rest))
    have hread := value_print v hv (D.unit 125 :: rest) fuel (stops_unit (by omega) rest) (by omega)
    have hcolon : D.skip (D.unit 58 :: (D.print v ++ D.unit 125 :: rest)) =
        D.unit 58 :: (D.print v ++ D.unit 125 :: rest) := skip_of_peek (by simp [D.code_unit])
    have hvalue := skip_of_peek (peek_print hv (D.unit 125 :: rest)).1
    have hclose : D.skip (D.unit 125 :: rest) = D.unit 125 :: rest :=
      skip_of_peek (by simp [D.code_unit])
    rw [printFields, List.append_assoc, List.cons_append, ht, fields]
    simp only [peek_cons, D.code_unit 34 (by omega), List.tail_cons, ne_eq, not_true_eq_false, if_false]
    simp [hstring, hcolon, D.code_unit, hvalue, hread, hclose]
  | (name, v) :: m :: ms, hms, _, rest, fuel, hf => by
    obtain ⟨fuel, rfl⟩ : ∃ n, fuel = n + 1 := ⟨fuel - 1, by omega⟩
    obtain ⟨hname, hv, hfields⟩ := hms
    rw [printFields, List.length_append, List.length_cons, List.length_append, List.length_cons] at hf
    obtain ⟨t, ht, hstring⟩ := string_quote hname
      (D.unit 58 :: (D.print v ++ D.unit 44 :: (D.printFields (m :: ms) ++ D.unit 125 :: rest)))
    have hread := value_print v hv (D.unit 44 :: (D.printFields (m :: ms) ++ D.unit 125 :: rest)) fuel
      (stops_unit (by omega) _) (by omega)
    have hrest := fields_print (m :: ms) hfields (by simp) rest fuel (by omega)
    have hcolon : D.skip (D.unit 58 :: (D.print v ++ D.unit 44 ::
        (D.printFields (m :: ms) ++ D.unit 125 :: rest))) = D.unit 58 :: (D.print v ++ D.unit 44 ::
          (D.printFields (m :: ms) ++ D.unit 125 :: rest)) := skip_of_peek (by simp [D.code_unit])
    have hvalue := skip_of_peek (peek_print hv (D.unit 44 ::
      (D.printFields (m :: ms) ++ D.unit 125 :: rest))).1
    have hcomma : D.skip (D.unit 44 :: (D.printFields (m :: ms) ++ D.unit 125 :: rest)) =
        D.unit 44 :: (D.printFields (m :: ms) ++ D.unit 125 :: rest) :=
      skip_of_peek (by simp [D.code_unit])
    have hquote := peek_printFields (D := D) m ms (D.unit 125 :: rest)
    have hskip := skip_of_peek (D := D) (s := D.printFields (m :: ms) ++ D.unit 125 :: rest) (by omega)
    have htext : D.printFields ((name, v) :: m :: ms) ++ D.unit 125 :: rest = D.quote name ++
        D.unit 58 :: (D.print v ++ D.unit 44 :: (D.printFields (m :: ms) ++ D.unit 125 :: rest)) := by
      simp [printFields]
    rw [htext, ht, fields]
    simp only [peek_cons, D.code_unit 34 (by omega), List.tail_cons, ne_eq, not_true_eq_false, if_false]
    simp [hstring, hcolon, D.code_unit, hvalue, hread, hcomma, hskip, hrest]

end

theorem parse_print {v : Value (List α)} (hv : D.Printable v) : D.parse (D.print v) = some v := by
  have hpeek := (peek_print hv []).1
  have hread := value_print v hv [] (2 * (D.print v).length + 2) stops_nil (by omega)
  rw [List.append_nil] at hpeek hread
  rw [parse, skip_of_peek hpeek, hread]
  simp [skip, D.ended_nil]

structure Inductive (D : Dialect α) (V : Value (List α) → Prop) (I : List (Value (List α)) → Prop)
    (F : List (List α × Value (List α)) → Prop) : Prop where
  null : V .null
  bool : ∀ b, V (.bool b)
  number : ∀ n, V (.number n)
  string : ∀ fuel s t rest, D.string fuel s = some (t, rest) → V (.string t)
  array : ∀ vs, I vs → V (.array vs)
  empty : V (.object [])
  object : ∀ ms, F ms → V (.object (D.members ms))
  itemsNil : I []
  itemsCons : ∀ v vs, V v → I vs → I (v :: vs)
  fieldsNil : F []
  fieldsCons : ∀ fuel s name rest v ms, D.string fuel s = some (name, rest) → V v → F ms → F ((name, v) :: ms)

lemma Inductive.values {V : Value (List α) → Prop} {I : List (Value (List α)) → Prop}
    {F : List (List α × Value (List α)) → Prop} (h : D.Inductive V I F) (fuel : ℕ) :
    (∀ s v rest, D.value fuel s = some (v, rest) → V v) ∧
      (∀ s vs rest, D.items fuel s = some (vs, rest) → I vs) ∧
      (∀ s ms rest, D.fields fuel s = some (ms, rest) → F ms) := by
  induction fuel with
  | zero => refine ⟨?_, ?_, ?_⟩ <;> intro s v rest hread <;> simp [value, items, fields] at hread
  | succ fuel ih =>
    obtain ⟨ihv, ihi, ihf⟩ := ih
    refine ⟨?_, ?_, ?_⟩
    · intro s v rest hread
      rw [value] at hread
      split at hread
      · obtain ⟨_, -, he⟩ := Option.map_eq_some_iff.mp hread
        obtain ⟨rfl, -⟩ := Prod.mk.inj he
        exact h.null
      · obtain ⟨_, -, he⟩ := Option.map_eq_some_iff.mp hread
        obtain ⟨rfl, -⟩ := Prod.mk.inj he
        exact h.bool true
      · obtain ⟨_, -, he⟩ := Option.map_eq_some_iff.mp hread
        obtain ⟨rfl, -⟩ := Prod.mk.inj he
        exact h.bool false
      · obtain ⟨⟨t, r⟩, hstring, he⟩ := Option.map_eq_some_iff.mp hread
        obtain ⟨rfl, -⟩ := Prod.mk.inj he
        exact h.string _ _ _ _ hstring
      · split at hread
        · obtain ⟨rfl, -⟩ := Prod.mk.inj (Option.some.inj hread)
          exact h.array [] h.itemsNil
        · obtain ⟨⟨vs, r⟩, hitems, he⟩ := Option.map_eq_some_iff.mp hread
          obtain ⟨rfl, -⟩ := Prod.mk.inj he
          exact h.array vs (ihi _ _ _ hitems)
      · split at hread
        · obtain ⟨rfl, -⟩ := Prod.mk.inj (Option.some.inj hread)
          exact h.empty
        · obtain ⟨⟨ms, r⟩, hfields, he⟩ := Option.map_eq_some_iff.mp hread
          obtain ⟨rfl, -⟩ := Prod.mk.inj he
          exact h.object ms (ihf _ _ _ hfields)
      · obtain ⟨⟨n, r⟩, -, he⟩ := Option.map_eq_some_iff.mp hread
        obtain ⟨rfl, -⟩ := Prod.mk.inj he
        exact h.number n
    · intro s vs rest hread
      rw [items] at hread
      obtain ⟨⟨v, r⟩, hv, hread⟩ := Option.bind_eq_some_iff.mp hread
      dsimp only at hread
      split at hread
      · obtain ⟨⟨vs', r'⟩, hvs, hread⟩ := Option.bind_eq_some_iff.mp hread
        obtain ⟨rfl, -⟩ := Prod.mk.inj (Option.some.inj hread)
        exact h.itemsCons _ _ (ihv _ _ _ hv) (ihi _ _ _ hvs)
      split at hread
      · obtain ⟨rfl, -⟩ := Prod.mk.inj (Option.some.inj hread)
        exact h.itemsCons _ _ (ihv _ _ _ hv) h.itemsNil
      · simp at hread
    · intro s ms rest hread
      rw [fields] at hread
      split at hread
      · simp at hread
      obtain ⟨⟨name, r⟩, hname, hread⟩ := Option.bind_eq_some_iff.mp hread
      dsimp only at hread
      split at hread
      · simp at hread
      obtain ⟨⟨v, r'⟩, hv, hread⟩ := Option.bind_eq_some_iff.mp hread
      dsimp only at hread
      split at hread
      · obtain ⟨⟨ms', r''⟩, hms, hread⟩ := Option.bind_eq_some_iff.mp hread
        obtain ⟨rfl, -⟩ := Prod.mk.inj (Option.some.inj hread)
        exact h.fieldsCons _ _ _ _ _ _ hname (ihv _ _ _ hv) (ihf _ _ _ hms)
      split at hread
      · obtain ⟨rfl, -⟩ := Prod.mk.inj (Option.some.inj hread)
        exact h.fieldsCons _ _ _ _ _ _ hname (ihv _ _ _ hv) h.fieldsNil
      · simp at hread

lemma Inductive.parse {V : Value (List α) → Prop} {I : List (Value (List α)) → Prop}
    {F : List (List α × Value (List α)) → Prop} (h : D.Inductive V I F) {s : List α} {v : Value (List α)}
    (hread : D.parse s = some v) : V v := by
  obtain ⟨⟨w, rest⟩, hw, hread⟩ := Option.bind_eq_some_iff.mp hread
  dsimp only at hread
  split at hread
  · obtain rfl := Option.some.inj hread
    exact (h.values _).1 _ _ _ hw
  · simp at hread

structure Closed (D : Dialect α) (P : List α → Prop) : Prop where
  nil : P []
  append : ∀ s t, P s → P t → P (s ++ t)
  ascii : ∀ u, D.code u < 128 → P [u]
  plain : ∀ s t rest, D.plain s = some (t, rest) → P t
  encode : ∀ n t, n < 0x110000 → D.encode n = some t → P t
  members : ∀ ms, AllFields P ms → AllFields P (D.members ms)

lemma hexValue_lt {n k : ℕ} (h : hexValue n = some k) : k < 16 := by
  unfold hexValue at h
  split_ifs at h <;> obtain rfl := Option.some.inj h <;> omega

lemma hex4_lt {s rest : List α} {n : ℕ} (h : hex4 D s = some (n, rest)) : n < 0x10000 := by
  unfold hex4 at h
  split at h
  · obtain ⟨a, ha, h⟩ := Option.bind_eq_some_iff.mp h
    obtain ⟨b, hb, h⟩ := Option.bind_eq_some_iff.mp h
    obtain ⟨c, hc, h⟩ := Option.bind_eq_some_iff.mp h
    obtain ⟨d, hd, h⟩ := Option.bind_eq_some_iff.mp h
    obtain ⟨rfl, -⟩ := Prod.mk.inj (Option.some.inj h)
    have := hexValue_lt ha
    have := hexValue_lt hb
    have := hexValue_lt hc
    have := hexValue_lt hd
    omega
  · simp at h

lemma escapedPoint_lt {s rest : List α} {n : ℕ} (h : D.escapedPoint s = some (n, rest)) :
    n < 0x110000 := by
  obtain ⟨⟨high, r⟩, hhigh, h⟩ := Option.bind_eq_some_iff.mp h
  have hlt := hex4_lt hhigh
  dsimp only at h
  split at h <;> rename_i hpair
  · simp only [Bool.and_eq_true, decide_eq_true_eq] at hpair
    split at h
    · obtain ⟨⟨low, r'⟩, -, h⟩ := Option.bind_eq_some_iff.mp h
      dsimp only at h
      split at h
      · obtain ⟨rfl, -⟩ := Prod.mk.inj (Option.some.inj h)
        omega
      · simp at h
    · simp at h
  · obtain ⟨rfl, -⟩ := Prod.mk.inj (Option.some.inj h)
    omega

section

variable {P : List α → Prop} (hP : D.Closed P)

include hP

lemma Closed.escape {s t rest : List α} (h : D.escape s = some (t, rest)) : P t := by
  have hunit : ∀ n < 128, P [D.unit n] := fun n hn => hP.ascii _ (by rwa [D.code_unit n hn])
  have htake : D.peek s < 128 → P (s.take 1) := by
    intro hs
    cases s with
    | nil => exact hP.nil
    | cons u s => exact hP.ascii u hs
  unfold Dialect.escape at h
  split at h
  case h_9 =>
    obtain ⟨⟨point, r⟩, hpoint, h⟩ := Option.bind_eq_some_iff.mp h
    obtain ⟨units, hunits, h⟩ := Option.bind_eq_some_iff.mp h
    obtain ⟨rfl, -⟩ := Prod.mk.inj (Option.some.inj h)
    exact hP.encode point _ (escapedPoint_lt hpoint) hunits
  case h_10 => simp at h
  all_goals obtain ⟨rfl, -⟩ := Prod.mk.inj (Option.some.inj h)
  all_goals first
    | exact htake (by omega)
    | exact hunit _ (by omega)

lemma Closed.string {fuel : ℕ} {s t rest : List α} (h : D.string fuel s = some (t, rest)) : P t := by
  induction fuel generalizing s t rest with
  | zero => simp [Dialect.string] at h
  | succ fuel ih =>
    cases s with
    | nil => simp [Dialect.string] at h
    | cons u s =>
      rw [Dialect.string] at h
      split at h
      · obtain ⟨rfl, -⟩ := Prod.mk.inj (Option.some.inj h)
        exact hP.nil
      split at h
      · obtain ⟨⟨units, r⟩, hescape, h⟩ := Option.bind_eq_some_iff.mp h
        obtain ⟨⟨tail, r'⟩, htail, h⟩ := Option.bind_eq_some_iff.mp h
        obtain ⟨rfl, -⟩ := Prod.mk.inj (Option.some.inj h)
        exact hP.append _ _ (hP.escape hescape) (ih htail)
      split at h
      · simp at h
      · obtain ⟨⟨units, r⟩, hplain, h⟩ := Option.bind_eq_some_iff.mp h
        obtain ⟨⟨tail, r'⟩, htail, h⟩ := Option.bind_eq_some_iff.mp h
        obtain ⟨rfl, -⟩ := Prod.mk.inj (Option.some.inj h)
        exact hP.append _ _ (hP.plain _ _ _ hplain) (ih htail)

lemma Closed.parses : D.Inductive (Value.All P) (AllItems P) (AllFields P) where
  null := trivial
  bool _ := trivial
  number _ := trivial
  string _ _ _ _ h := hP.string h
  array _ h := h
  empty := trivial
  object _ h := hP.members _ h
  itemsNil := trivial
  itemsCons _ _ hv hvs := ⟨hv, hvs⟩
  fieldsNil := trivial
  fieldsCons _ _ _ _ _ _ hname hv hms := ⟨hP.string hname, hv, hms⟩

lemma Closed.parse {s : List α} {v : Value (List α)} (h : D.parse s = some v) : v.All P :=
  hP.parses.parse h

end

end Dialect

end

end Json

end Foundation

import LvglPlatform.Foundation.JsonText
import LvglPlatform.Foundation.Unicode

/-! Encodings of characters that write ASCII as single units, JSON values over different strings, and the
texts of one value in different encodings. -/

namespace Foundation

structure Encoding (α : Type) where
  code : α → ℕ
  unit : ℕ → α
  code_unit : ∀ n < 128, code (unit n) = n
  code_injective : Function.Injective code
  char : Char → List α
  ascii : ∀ c : Char, c.toNat < 128 → char c = [unit c.toNat]
  high : ∀ c : Char, 128 ≤ c.toNat → ∀ u ∈ char c, 128 ≤ code u

namespace Encoding

variable {α : Type} (E : Encoding α)

def encode (cs : List Char) : List α := cs.flatMap E.char

@[simp] lemma encode_nil : E.encode [] = [] := rfl

@[simp] lemma encode_cons (c : Char) (cs : List Char) : E.encode (c :: cs) = E.char c ++ E.encode cs := rfl

lemma encode_append (cs ds : List Char) : E.encode (cs ++ ds) = E.encode cs ++ E.encode ds := by
  simp [encode]

lemma encode_of_ascii {cs : List Char} (h : ∀ c ∈ cs, c.toNat < 128) :
    E.encode cs = cs.map fun c => E.unit c.toNat := by
  induction cs with
  | nil => rfl
  | cons c cs ih =>
    obtain ⟨hc, hcs⟩ := List.forall_mem_cons.mp h
    rw [encode_cons, E.ascii c hc, ih hcs]
    rfl

lemma toNat_ofNat_ascii {n : ℕ} (h : n < 128) : (Char.ofNat n).toNat = n := by
  rw [Char.toNat_ofNat, if_pos (Or.inl (by omega))]

end Encoding

lemma utf16Char_high {c : Char} (h : 128 ≤ c.toNat) : ∀ u ∈ utf16Char c, 128 ≤ u.toNat := by
  intro u hu
  have hv := char_bounds c
  rw [utf16Char] at hu
  split at hu <;> simp only [List.mem_cons, List.not_mem_nil, or_false] at hu
  · rw [hu, toNat_ofNat_unit (by omega)]
    exact h
  · rcases hu with rfl | rfl <;> rw [toNat_ofNat_unit (by omega)] <;> omega

lemma utf16Char_ascii {c : Char} (h : c.toNat < 128) : utf16Char c = [UInt16.ofNat c.toNat] := by
  rw [utf16Char, if_pos (by omega)]

def utf8Encoding : Encoding UInt8 where
  code := UInt8.toNat
  unit := UInt8.ofNat
  code_unit n h := toNat_ofNat_byte (by omega)
  code_injective _ _ h := UInt8.toNat_inj.mp h
  char := utf8Char
  ascii _ h := utf8Char_ascii (by omega)
  high _ h := utf8Char_high (by omega)

def utf16Encoding : Encoding UInt16 where
  code := UInt16.toNat
  unit := UInt16.ofNat
  code_unit n h := toNat_ofNat_unit (by omega)
  code_injective _ _ h := UInt16.toNat_inj.mp h
  char := utf16Char
  ascii _ h := utf16Char_ascii h
  high _ h := utf16Char_high h

namespace Json

section

variable {σ τ υ : Type}

mutual

def Value.map (f : σ → τ) : Value σ → Value τ
  | .null => .null
  | .bool b => .bool b
  | .number n => .number n
  | .string s => .string (f s)
  | .array items => .array (mapItems f items)
  | .object members => .object (mapFields f members)

def mapItems (f : σ → τ) : List (Value σ) → List (Value τ)
  | [] => []
  | v :: vs => Value.map f v :: mapItems f vs

def mapFields (f : σ → τ) : List (σ × Value σ) → List (τ × Value τ)
  | [] => []
  | (name, v) :: ms => (f name, Value.map f v) :: mapFields f ms

end

lemma mapFields_eq (f : σ → τ) (ms : List (σ × Value σ)) :
    mapFields f ms = ms.map fun m => (f m.1, Value.map f m.2) := by
  induction ms with
  | nil => rfl
  | cons m ms ih => rw [mapFields, ih, List.map_cons]

mutual

lemma Value.map_map (f : σ → τ) (g : τ → υ) : ∀ v : Value σ, (v.map f).map g = v.map (g ∘ f)
  | .null => rfl
  | .bool _ => rfl
  | .number _ => rfl
  | .string _ => rfl
  | .array items => congrArg Value.array (mapItems_map f g items)
  | .object members => congrArg Value.object (mapFields_map f g members)

lemma mapItems_map (f : σ → τ) (g : τ → υ) : ∀ vs : List (Value σ),
    mapItems g (mapItems f vs) = mapItems (g ∘ f) vs
  | [] => rfl
  | v :: vs => congrArg₂ List.cons (Value.map_map f g v) (mapItems_map f g vs)

lemma mapFields_map (f : σ → τ) (g : τ → υ) : ∀ ms : List (σ × Value σ),
    mapFields g (mapFields f ms) = mapFields (g ∘ f) ms
  | [] => rfl
  | (name, v) :: ms => by
    rw [mapFields, mapFields, mapFields, Value.map_map f g v, mapFields_map f g ms]
    rfl

end

mutual

lemma Value.All.preimage {P : τ → Prop} {f : σ → τ} (hf : ∀ s, P s → ∃ t, f t = s) :
    ∀ v : Value τ, v.All P → ∃ w : Value σ, w.map f = v
  | .null, _ => ⟨.null, rfl⟩
  | .bool b, _ => ⟨.bool b, rfl⟩
  | .number n, _ => ⟨.number n, rfl⟩
  | .string s, h => by
    obtain ⟨t, rfl⟩ := hf s h
    exact ⟨.string t, rfl⟩
  | .array items, h => by
    obtain ⟨ws, rfl⟩ := AllItems.preimage hf items h
    exact ⟨.array ws, rfl⟩
  | .object members, h => by
    obtain ⟨ws, rfl⟩ := AllFields.preimage hf members h
    exact ⟨.object ws, rfl⟩

lemma AllItems.preimage {P : τ → Prop} {f : σ → τ} (hf : ∀ s, P s → ∃ t, f t = s) :
    ∀ vs : List (Value τ), AllItems P vs →
    ∃ ws : List (Value σ), mapItems f ws = vs
  | [], _ => ⟨[], rfl⟩
  | v :: vs, h => by
    obtain ⟨w, rfl⟩ := Value.All.preimage hf v h.1
    obtain ⟨ws, rfl⟩ := AllItems.preimage hf vs h.2
    exact ⟨w :: ws, rfl⟩

lemma AllFields.preimage {P : τ → Prop} {f : σ → τ} (hf : ∀ s, P s → ∃ t, f t = s) :
    ∀ ms : List (τ × Value τ), AllFields P ms →
    ∃ ws : List (σ × Value σ), mapFields f ws = ms
  | [], _ => ⟨[], rfl⟩
  | (name, v) :: ms, h => by
    obtain ⟨name, rfl⟩ := hf name h.1
    obtain ⟨w, rfl⟩ := Value.All.preimage hf v h.2.1
    obtain ⟨ws, rfl⟩ := AllFields.preimage hf ms h.2.2
    exact ⟨(name, w) :: ws, rfl⟩

end

mutual

lemma Value.all_map {P : τ → Prop} (f : σ → τ) (hf : ∀ s, P (f s)) : ∀ v : Value σ, (v.map f).All P
  | .null => trivial
  | .bool _ => trivial
  | .number _ => trivial
  | .string s => hf s
  | .array items => allItems_map f hf items
  | .object members => allFields_map f hf members

lemma allItems_map {P : τ → Prop} (f : σ → τ) (hf : ∀ s, P (f s)) : ∀ vs : List (Value σ),
    AllItems P (mapItems f vs)
  | [] => trivial
  | v :: vs => ⟨Value.all_map f hf v, allItems_map f hf vs⟩

lemma allFields_map {P : τ → Prop} (f : σ → τ) (hf : ∀ s, P (f s)) : ∀ ms : List (σ × Value σ),
    AllFields P (mapFields f ms)
  | [] => trivial
  | (name, v) :: ms => ⟨hf name, Value.all_map f hf v, allFields_map f hf ms⟩

end

lemma allFields_iff {P : σ → Prop} {ms : List (σ × Value σ)} :
    AllFields P ms ↔ ∀ m ∈ ms, P m.1 ∧ m.2.All P := by
  induction ms with
  | nil => simp [AllFields]
  | cons m ms ih =>
    obtain ⟨name, v⟩ := m
    rw [AllFields, ih, List.forall_mem_cons, and_assoc]

end

namespace Dialect

def characters : Dialect Char where
  code := Char.toNat
  unit := Char.ofNat
  code_unit _ h := Encoding.toNat_ofNat_ascii h
  code_injective _ _ h := Char.toNat_inj.mp h
  plain
    | [] => none
    | c :: rest => some ([c], rest)
  plain_ascii _ _ _ _ := rfl
  exact _ := true
  inexact _ := .real
  members := id
  encode n := some [Char.ofNat n]
  encode_ascii _ _ := rfl
  pairs := true
  ended := List.isEmpty
  ended_nil := rfl

lemma characters_unit (c : Char) : characters.unit c.toNat = c := Char.ofNat_toNat c

/-- A dialect over the units of an encoding. -/
structure Over {α : Type} (D : Dialect α) (E : Encoding α) : Prop where
  code : D.code = E.code
  unit : D.unit = E.unit

variable {α : Type} {D : Dialect α} {E : Encoding α}

lemma spell_other {u : α} (h : D.code u ∉ [34, 92, 8, 12, 10, 13, 9]) :
    D.spell u = if D.code u < 32 then D.literal "\\u00" ++
      [D.unit (Nat.digitChar (D.code u / 16)).toNat, D.unit (Nat.digitChar (D.code u % 16)).toNat]
    else [u] := by
  rw [spell]
  split
  all_goals first
    | rfl
    | rename_i he
      simp [he] at h

variable (h : D.Over E)

include h

lemma Over.ascii {cs : List Char} (hcs : ∀ c ∈ cs, c.toNat < 128) :
    cs.map (fun c => D.unit c.toNat) = E.encode (cs.map fun c => characters.unit c.toNat) := by
  rw [funext characters_unit, List.map_id', E.encode_of_ascii hcs, h.unit]

lemma Over.literal {s : String} (hs : ∀ c ∈ s.toList, c.toNat < 128) :
    D.literal s = E.encode (characters.literal s) := h.ascii hs

lemma Over.unit_eq {n : ℕ} (hn : n < 128) : [D.unit n] = E.encode [characters.unit n] := by
  have hsingle := @Over.ascii α D E h [Char.ofNat n] (by simpa [Encoding.toNat_ofNat_ascii hn] using hn)
  simpa [Encoding.toNat_ofNat_ascii hn] using hsingle

lemma Over.cons {n : ℕ} (hn : n < 128) (cs : List Char) :
    D.unit n :: E.encode cs = E.encode (characters.unit n :: cs) := by
  have hunit := h.unit_eq hn
  rw [Encoding.encode_cons, ← List.singleton_append, hunit]
  simp

lemma Over.snoc {n : ℕ} (hn : n < 128) (cs : List Char) :
    E.encode cs ++ [D.unit n] = E.encode (cs ++ [characters.unit n]) := by
  rw [Encoding.encode_append, ← h.unit_eq hn]

lemma Over.spell (c : Char) : (E.char c).flatMap D.spell = E.encode (characters.spell c) := by
  by_cases hc : c.toNat < 128
  · have hcode : D.code (E.unit c.toNat) = c.toNat := by rw [h.code, E.code_unit _ hc]
    have hchar : characters.code c = c.toNat := rfl
    rw [E.ascii c hc, List.flatMap_singleton]
    by_cases hspecial : c.toNat ∈ [34, 92, 8, 12, 10, 13, 9]
    · rw [Dialect.spell, Dialect.spell, hcode, hchar]
      simp only [List.mem_cons, List.not_mem_nil, or_false] at hspecial
      rcases hspecial with he | he | he | he | he | he | he <;> rw [he] <;>
        exact h.literal (by simp)
    · rw [spell_other (by rwa [hcode]), spell_other (by rwa [hchar]), hcode, hchar]
      split <;> rename_i hlow
      · obtain ⟨hhigh, -⟩ := digitChar_code (c.toNat / 16) (by omega)
        obtain ⟨hrest, -⟩ := digitChar_code (c.toNat % 16) (by omega)
        rw [Encoding.encode_append, h.literal (by simp)]
        refine congrArg _ (@Over.ascii α D E h [_, _] ?_)
        simp [hhigh, hrest]
      · rw [← E.ascii c hc]
        simp
  · have hhigh := E.high c (by omega)
    have hsame : ∀ u ∈ E.char c, D.spell u = [u] := fun u hu =>
      spell_high (by rw [h.code]; exact hhigh u hu)
    have hchar : characters.spell c = [c] := spell_high (D := characters) (not_lt.mp hc)
    rw [List.flatMap_congr hsame, List.flatMap_singleton', hchar]
    simp

lemma Over.quote (cs : List Char) : D.quote (E.encode cs) = E.encode (characters.quote cs) := by
  have hspell : (E.encode cs).flatMap D.spell = E.encode (cs.flatMap characters.spell) := by
    induction cs with
    | nil => rfl
    | cons c cs ih =>
      rw [Encoding.encode_cons, List.flatMap_append, h.spell, ih, List.flatMap_cons,
        Encoding.encode_append]
  rw [Dialect.quote, Dialect.quote, hspell, h.snoc (by omega), h.cons (by omega)]

omit h in
lemma digits_ascii (n : ℕ) : ∀ c ∈ Nat.toDigits 10 n, c.toNat < 128 := by
  intro c hc
  have hdigit := Nat.isDigit_of_mem_toDigits (by omega) (by omega) hc
  simp only [Char.isDigit, Bool.and_eq_true, decide_eq_true_eq] at hdigit
  have hle : c.val.toNat ≤ (57 : UInt32).toNat := hdigit.2
  exact lt_of_le_of_lt hle (by decide)

lemma Over.intText (n : ℤ) : D.intText n = E.encode (characters.intText n) := by
  have hnat : ∀ k, D.natText k = E.encode (characters.natText k) := fun k => h.ascii (digits_ascii k)
  rw [Dialect.intText, Dialect.intText]
  split
  · rw [hnat, h.cons (by omega)]
  · rw [hnat]

mutual

lemma Over.print : ∀ v : Value (List Char), D.print (v.map E.encode) = E.encode (characters.print v)
  | .null => h.literal (by simp)
  | .bool true => h.literal (by simp)
  | .bool false => h.literal (by simp)
  | .number (.integer n) => h.intText n
  | .number .real => rfl
  | .string cs => h.quote cs
  | .array items => by
    rw [Value.map, Dialect.print, Dialect.print, Over.printItems items, h.snoc (by omega), h.cons (by omega)]
  | .object members => by
    rw [Value.map, Dialect.print, Dialect.print, Over.printFields members, h.snoc (by omega),
      h.cons (by omega)]

lemma Over.printItems : ∀ vs : List (Value (List Char)),
    D.printItems (mapItems E.encode vs) = E.encode (characters.printItems vs)
  | [] => rfl
  | [v] => Over.print v
  | v :: w :: vs => by
    have hrest := Over.printItems (w :: vs)
    rw [mapItems, mapItems, Dialect.printItems, ← mapItems, hrest, Over.print v, h.cons (by omega),
      ← Encoding.encode_append]
    rfl

lemma Over.printFields : ∀ ms : List (List Char × Value (List Char)),
    D.printFields (mapFields E.encode ms) = E.encode (characters.printFields ms)
  | [] => rfl
  | [(name, v)] => by
    rw [mapFields, mapFields, Dialect.printFields, h.quote, Over.print v, h.cons (by omega),
      ← Encoding.encode_append]
    rfl
  | (name, v) :: m :: ms => by
    have hrest := Over.printFields (m :: ms)
    obtain ⟨other, w⟩ := m
    rw [mapFields, mapFields, Dialect.printFields, ← mapFields, hrest, h.quote, Over.print v,
      h.cons (by omega), ← Encoding.encode_append, h.cons (by omega), ← Encoding.encode_append]
    rfl

end

end Dialect

end Json

end Foundation

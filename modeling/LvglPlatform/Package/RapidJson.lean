import LvglPlatform.Foundation.Json
import LvglPlatform.Foundation.Unicode

namespace LvglPlatform

open Foundation

abbrev JsonValue := Json.Value Bytes

def rangeOf (n : ℕ) : ℕ :=
  if n < 0x80 then 0
  else if n < 0x90 then 0x10
  else if n < 0xA0 then 0x40
  else if n < 0xC0 then 0x20
  else if n < 0xC2 then 8
  else if n < 0xE0 then 2
  else if n = 0xE0 then 10
  else if n < 0xED then 3
  else if n = 0xED then 4
  else if n < 0xF0 then 3
  else if n = 0xF0 then 11
  else if n < 0xF4 then 6
  else if n = 0xF4 then 5
  else 8

def getRange (c : UInt8) : ℕ := rangeOf c.toNat

def tails : List ℕ → Bytes → Option (Bytes × Bytes)
  | [], s => some ([], s)
  | _ :: _, [] => none
  | mask :: masks, c :: s =>
    if getRange c &&& mask = 0 then none else (tails masks s).map fun (t, rest) => (c :: t, rest)

def validate : Bytes → Option (Bytes × Bytes)
  | [] => none
  | c :: s =>
    if c.toNat < 0x80 then some ([c], s)
    else
      let continued (masks : List ℕ) := (tails masks s).map fun (t, rest) => (c :: t, rest)
      match getRange c with
      | 2 => continued [0x70]
      | 3 => continued [0x70, 0x70]
      | 4 => continued [0x50, 0x70]
      | 5 => continued [0x10, 0x70, 0x70]
      | 6 => continued [0x70, 0x70, 0x70]
      | 10 => continued [0x20, 0x70]
      | 11 => continued [0x60, 0x70, 0x70]
      | _ => none

lemma getRange_leads (c : UInt8) :
    (getRange c = 2 ↔ 0xC2 ≤ c.toNat ∧ c.toNat < 0xE0) ∧
    (getRange c = 3 ↔ 0xE1 ≤ c.toNat ∧ c.toNat < 0xF0 ∧ c.toNat ≠ 0xED) ∧
    (getRange c = 4 ↔ c.toNat = 0xED) ∧
    (getRange c = 5 ↔ c.toNat = 0xF4) ∧
    (getRange c = 6 ↔ 0xF1 ≤ c.toNat ∧ c.toNat < 0xF4) ∧
    (getRange c = 10 ↔ c.toNat = 0xE0) ∧
    (getRange c = 11 ↔ c.toNat = 0xF0) := by
  have hall : ∀ n < 256,
      (rangeOf n = 2 ↔ 0xC2 ≤ n ∧ n < 0xE0) ∧
      (rangeOf n = 3 ↔ 0xE1 ≤ n ∧ n < 0xF0 ∧ n ≠ 0xED) ∧
      (rangeOf n = 4 ↔ n = 0xED) ∧
      (rangeOf n = 5 ↔ n = 0xF4) ∧
      (rangeOf n = 6 ↔ 0xF1 ≤ n ∧ n < 0xF4) ∧
      (rangeOf n = 10 ↔ n = 0xE0) ∧
      (rangeOf n = 11 ↔ n = 0xF0) := by decide +kernel
  exact hall c.toNat c.toNat_lt

lemma getRange_masks (c : UInt8) :
    (getRange c &&& 0x70 ≠ 0 ↔ 0x80 ≤ c.toNat ∧ c.toNat < 0xC0) ∧
    (getRange c &&& 0x50 ≠ 0 ↔ 0x80 ≤ c.toNat ∧ c.toNat < 0xA0) ∧
    (getRange c &&& 0x10 ≠ 0 ↔ 0x80 ≤ c.toNat ∧ c.toNat < 0x90) ∧
    (getRange c &&& 0x20 ≠ 0 ↔ 0xA0 ≤ c.toNat ∧ c.toNat < 0xC0) ∧
    (getRange c &&& 0x60 ≠ 0 ↔ 0x90 ≤ c.toNat ∧ c.toNat < 0xC0) := by
  have hall : ∀ n < 256,
      (rangeOf n &&& 0x70 ≠ 0 ↔ 0x80 ≤ n ∧ n < 0xC0) ∧
      (rangeOf n &&& 0x50 ≠ 0 ↔ 0x80 ≤ n ∧ n < 0xA0) ∧
      (rangeOf n &&& 0x10 ≠ 0 ↔ 0x80 ≤ n ∧ n < 0x90) ∧
      (rangeOf n &&& 0x20 ≠ 0 ↔ 0xA0 ≤ n ∧ n < 0xC0) ∧
      (rangeOf n &&& 0x60 ≠ 0 ↔ 0x90 ≤ n ∧ n < 0xC0) := by decide +kernel
  exact hall c.toNat c.toNat_lt

def Tail (c : UInt8) : Prop := 0x80 ≤ c.toNat ∧ c.toNat < 0xC0

/-- The byte strings the encoding check takes for one character. -/
inductive Shape : Bytes → Prop
  | one (a : UInt8) : a.toNat < 0x80 → Shape [a]
  | two (a b : UInt8) : 0xC2 ≤ a.toNat ∧ a.toNat < 0xE0 → Tail b → Shape [a, b]
  | three (a b c : UInt8) : 0xE0 ≤ a.toNat ∧ a.toNat < 0xF0 → Tail b → Tail c →
      (a.toNat = 0xE0 → 0xA0 ≤ b.toNat) → (a.toNat = 0xED → b.toNat < 0xA0) → Shape [a, b, c]
  | four (a b c d : UInt8) : 0xF0 ≤ a.toNat ∧ a.toNat < 0xF5 → Tail b → Tail c → Tail d →
      (a.toNat = 0xF0 → 0x90 ≤ b.toNat) → (a.toNat = 0xF4 → b.toNat < 0x90) → Shape [a, b, c, d]

lemma Tail.ofNat (n : ℕ) : Tail (UInt8.ofNat (n % 64 + 0x80)) := by
  rw [Tail, toNat_ofNat_byte (by omega)]
  omega

lemma Shape.utf8Char (c : Char) : Shape (utf8Char c) := by
  have hv := char_bounds c
  rw [Foundation.utf8Char, utf8Code]
  split_ifs with h1 h2 h3
  · refine .one _ ?_
    rw [toNat_ofNat_byte (by omega)]
    omega
  · refine .two _ _ ?_ (.ofNat _)
    rw [toNat_ofNat_byte (by omega)]
    omega
  · refine .three _ _ _ ?_ (.ofNat _) (.ofNat _) ?_ ?_
    · rw [toNat_ofNat_byte (by omega)]
      omega
    · rw [toNat_ofNat_byte (by omega), toNat_ofNat_byte (by omega)]
      omega
    · rw [toNat_ofNat_byte (by omega), toNat_ofNat_byte (by omega)]
      omega
  · refine .four _ _ _ _ ?_ (.ofNat _) (.ofNat _) (.ofNat _) ?_ ?_
    · rw [toNat_ofNat_byte (by omega)]
      omega
    · rw [toNat_ofNat_byte (by omega), toNat_ofNat_byte (by omega)]
      omega
    · rw [toNat_ofNat_byte (by omega), toNat_ofNat_byte (by omega)]
      omega

lemma Tail.bits {c : UInt8} (h : Tail c) : tailBits c = some (c.toNat - 0x80) := if_pos h

lemma Shape.char {chunk : Bytes} (h : Shape chunk) : ∃ c, chunk = Foundation.utf8Char c := by
  have hnext : ∃ c, utf8Next chunk = some (c, []) := by
    cases h with
    | one a ha =>
      simp only [utf8Next]
      rw [if_pos ha]
      exact utf8Scalar_pos (by omega) []
    | two a b ha hb =>
      have hb' := hb
      simp only [Tail] at hb'
      simp only [utf8Next]
      rw [if_neg (by omega), if_neg (by omega), if_pos (by omega), hb.bits, Option.bind_some]
      exact utf8Scalar_pos (by omega) []
    | three a b c ha hb hc hlow hhigh =>
      have hb' := hb
      have hc' := hc
      simp only [Tail] at hb' hc'
      simp only [utf8Next]
      rw [if_neg (by omega), if_neg (by omega), if_neg (by omega), if_pos (by omega), hb.bits,
        Option.bind_some, hc.bits, Option.bind_some]
      exact utf8Scalar_pos (by omega) []
    | four a b c d ha hb hc hd hlow hhigh =>
      have hb' := hb
      have hc' := hc
      have hd' := hd
      simp only [Tail] at hb' hc' hd'
      simp only [utf8Next]
      rw [if_neg (by omega), if_neg (by omega), if_neg (by omega), if_neg (by omega),
        if_pos (by omega), hb.bits, Option.bind_some, hc.bits, Option.bind_some, hd.bits,
        Option.bind_some]
      exact utf8Scalar_pos (by omega) []
  obtain ⟨c, hc⟩ := hnext
  have hs := utf8Next_some hc
  rw [List.append_nil] at hs
  exact ⟨c, hs⟩

lemma tails_split {masks : List ℕ} {s t rest : Bytes} (h : tails masks s = some (t, rest)) :
    s = t ++ rest := by
  induction masks generalizing s t with
  | nil =>
    obtain ⟨rfl, rfl⟩ := Prod.mk.inj (Option.some.inj h)
    rfl
  | cons mask masks ih =>
    cases s with
    | nil => simp [tails] at h
    | cons c s =>
      rw [tails] at h
      split at h
      · simp at h
      · obtain ⟨⟨t', r⟩, ht, he⟩ := Option.map_eq_some_iff.mp h
        obtain ⟨rfl, rfl⟩ := Prod.mk.inj he
        rw [ih ht, List.cons_append]

lemma tails_cons {mask : ℕ} {masks : List ℕ} {s t rest : Bytes}
    (h : tails (mask :: masks) s = some (t, rest)) :
    ∃ c s' t', t = c :: t' ∧ getRange c &&& mask ≠ 0 ∧ tails masks s' = some (t', rest) := by
  cases s with
  | nil => simp [tails] at h
  | cons c s =>
    rw [tails] at h
    split at h <;> rename_i hc
    · simp at h
    · obtain ⟨⟨t', r⟩, ht, he⟩ := Option.map_eq_some_iff.mp h
      obtain ⟨rfl, rfl⟩ := Prod.mk.inj he
      exact ⟨c, s, t', rfl, hc, ht⟩

lemma tails_one {mask : ℕ} {s t rest : Bytes} (h : tails [mask] s = some (t, rest)) :
    ∃ b, t = [b] ∧ getRange b &&& mask ≠ 0 := by
  obtain ⟨b, s', t', rfl, hb, h⟩ := tails_cons h
  obtain ⟨rfl, -⟩ := Prod.mk.inj (Option.some.inj h)
  exact ⟨b, rfl, hb⟩

lemma tails_two {mask : ℕ} {s t rest : Bytes} (h : tails [mask, 0x70] s = some (t, rest)) :
    ∃ b c, t = [b, c] ∧ getRange b &&& mask ≠ 0 ∧ Tail c := by
  obtain ⟨b, s', t', rfl, hb, h⟩ := tails_cons h
  obtain ⟨c, rfl, hc⟩ := tails_one h
  exact ⟨b, c, rfl, hb, (getRange_masks c).1.mp hc⟩

lemma tails_three {mask : ℕ} {s t rest : Bytes} (h : tails [mask, 0x70, 0x70] s = some (t, rest)) :
    ∃ b c d, t = [b, c, d] ∧ getRange b &&& mask ≠ 0 ∧ Tail c ∧ Tail d := by
  obtain ⟨b, s', t', rfl, hb, h⟩ := tails_cons h
  obtain ⟨c, d, rfl, hc, hd⟩ := tails_two h
  exact ⟨b, c, d, rfl, hb, (getRange_masks c).1.mp hc, hd⟩

@[simp] lemma tails_nil (s : Bytes) : tails [] s = some ([], s) := rfl

lemma tails_pos {mask : ℕ} {c : UInt8} (h : getRange c &&& mask ≠ 0) (masks : List ℕ) (s : Bytes) :
    tails (mask :: masks) (c :: s) = (tails masks s).map fun (t, rest) => (c :: t, rest) := if_neg h

lemma validate_shape {s chunk rest : Bytes} (h : validate s = some (chunk, rest)) :
    Shape chunk ∧ s = chunk ++ rest := by
  cases s with
  | nil => simp [validate] at h
  | cons a s =>
    obtain ⟨htwo, hthree, hed, hf4, hsix, he0, hf0⟩ := getRange_leads a
    rw [validate] at h
    split at h <;> rename_i hascii
    · obtain ⟨rfl, rfl⟩ := Prod.mk.inj (Option.some.inj h)
      exact ⟨.one a hascii, rfl⟩
    dsimp only at h
    split at h <;> rename_i hclass
    case h_8 => simp at h
    all_goals
      obtain ⟨⟨t, r⟩, ht, he⟩ := Option.map_eq_some_iff.mp h
      obtain ⟨rfl, rfl⟩ := Prod.mk.inj he
      refine ⟨?_, by rw [tails_split ht, List.cons_append]⟩
    · obtain ⟨b, rfl, hb⟩ := tails_one ht
      exact .two a b (htwo.mp hclass) ((getRange_masks b).1.mp hb)
    · obtain ⟨b, c, rfl, hb, hc⟩ := tails_two ht
      have ha := hthree.mp hclass
      exact .three a b c (by omega) ((getRange_masks b).1.mp hb) hc (by omega) (by omega)
    · obtain ⟨b, c, rfl, hb, hc⟩ := tails_two ht
      have ha := hed.mp hclass
      have hb := (getRange_masks b).2.1.mp hb
      exact .three a b c (by omega) ⟨by omega, by omega⟩ hc (by omega) (by omega)
    · obtain ⟨b, c, d, rfl, hb, hc, hd⟩ := tails_three ht
      have ha := hf4.mp hclass
      have hb := (getRange_masks b).2.2.1.mp hb
      exact .four a b c d (by omega) ⟨by omega, by omega⟩ hc hd (by omega) (by omega)
    · obtain ⟨b, c, d, rfl, hb, hc, hd⟩ := tails_three ht
      have ha := hsix.mp hclass
      exact .four a b c d (by omega) ((getRange_masks b).1.mp hb) hc hd (by omega) (by omega)
    · obtain ⟨b, c, rfl, hb, hc⟩ := tails_two ht
      have ha := he0.mp hclass
      have hb := (getRange_masks b).2.2.2.1.mp hb
      exact .three a b c (by omega) ⟨by omega, by omega⟩ hc (by omega) (by omega)
    · obtain ⟨b, c, d, rfl, hb, hc, hd⟩ := tails_three ht
      have ha := hf0.mp hclass
      have hb := (getRange_masks b).2.2.2.2.mp hb
      exact .four a b c d (by omega) ⟨by omega, by omega⟩ hc hd (by omega) (by omega)

lemma validate_of_shape {chunk : Bytes} (h : Shape chunk) (rest : Bytes) :
    validate (chunk ++ rest) = some (chunk, rest) := by
  cases h with
  | one a ha => rw [List.singleton_append, validate, if_pos ha]
  | two a b ha hb =>
    have hclass := (getRange_leads a).1.mpr ha
    have hmask := (getRange_masks b).1.mpr hb
    rw [List.cons_append, validate, if_neg (by omega)]
    simp only [hclass, List.cons_append, List.nil_append, tails_pos hmask, tails_nil, Option.map_some]
  | three a b c ha hb hc hlow hhigh =>
    have hleads := getRange_leads a
    have hmaskb := getRange_masks b
    have hmask := (getRange_masks c).1.mpr hc
    have hbounds := hb
    simp only [Tail] at hbounds
    rw [List.cons_append, validate, if_neg (by omega)]
    rcases show a.toNat = 0xE0 ∨ a.toNat = 0xED ∨ (0xE1 ≤ a.toNat ∧ a.toNat < 0xF0 ∧ a.toNat ≠ 0xED) by
      omega with he | he | he
    · have hclass := hleads.2.2.2.2.2.1.mpr he
      have hmask' := hmaskb.2.2.2.1.mpr (by omega)
      simp only [hclass, List.cons_append, List.nil_append, tails_pos hmask', tails_pos hmask, tails_nil,
        Option.map_some]
    · have hclass := hleads.2.2.1.mpr he
      have hmask' := hmaskb.2.1.mpr (by omega)
      simp only [hclass, List.cons_append, List.nil_append, tails_pos hmask', tails_pos hmask, tails_nil,
        Option.map_some]
    · have hclass := hleads.2.1.mpr he
      have hmask' := hmaskb.1.mpr (by omega)
      simp only [hclass, List.cons_append, List.nil_append, tails_pos hmask', tails_pos hmask, tails_nil,
        Option.map_some]
  | four a b c d ha hb hc hd hlow hhigh =>
    have hleads := getRange_leads a
    have hmaskb := getRange_masks b
    have hmask := (getRange_masks c).1.mpr hc
    have hmaskd := (getRange_masks d).1.mpr hd
    have hbounds := hb
    simp only [Tail] at hbounds
    rw [List.cons_append, validate, if_neg (by omega)]
    rcases show a.toNat = 0xF0 ∨ a.toNat = 0xF4 ∨ (0xF1 ≤ a.toNat ∧ a.toNat < 0xF4) by
      omega with he | he | he
    · have hclass := hleads.2.2.2.2.2.2.mpr he
      have hmask' := hmaskb.2.2.2.2.mpr (by omega)
      simp only [hclass, List.cons_append, List.nil_append, tails_pos hmask', tails_pos hmask,
        tails_pos hmaskd, tails_nil, Option.map_some]
    · have hclass := hleads.2.2.2.1.mpr he
      have hmask' := hmaskb.2.2.1.mpr (by omega)
      simp only [hclass, List.cons_append, List.nil_append, tails_pos hmask', tails_pos hmask,
        tails_pos hmaskd, tails_nil, Option.map_some]
    · have hclass := hleads.2.2.2.2.1.mpr he
      have hmask' := hmaskb.1.mpr (by omega)
      simp only [hclass, List.cons_append, List.nil_append, tails_pos hmask', tails_pos hmask,
        tails_pos hmaskd, tails_nil, Option.map_some]

/-- The encoding check accepts exactly the code of one character. -/
lemma validate_iff {s chunk rest : Bytes} :
    validate s = some (chunk, rest) ↔ ∃ c, chunk = utf8Char c ∧ s = utf8Char c ++ rest := by
  constructor
  · intro h
    obtain ⟨hshape, hs⟩ := validate_shape h
    obtain ⟨c, rfl⟩ := hshape.char
    exact ⟨c, rfl, hs⟩
  · rintro ⟨c, rfl, rfl⟩
    exact validate_of_shape (.utf8Char c) rest

lemma byte_code : ∀ n < 128, (UInt8.ofNat n).toNat = n := fun n hn => by
  rw [toNat_ofNat_byte (by omega)]

lemma toNat_injective : Function.Injective UInt8.toNat := fun _ _ h => UInt8.toNat_inj.mp h

lemma validate_ascii : ∀ (u : UInt8) rest, 32 ≤ u.toNat → u.toNat < 128 → validate (u :: rest) = some ([u], rest) :=
  fun u rest _ h => validate_of_shape (.one u h) rest

lemma escaped_ascii : ∀ n < 128,
    (if 0xD800 ≤ n ∧ n ≤ 0xDFFF then none else some (utf8Code n)) = some [UInt8.ofNat n] := fun n h => by
  rw [if_neg (by omega), utf8Code, if_pos (by omega)]

lemma ended_empty : ([] : Bytes).head?.all (· == 0) = true := rfl

def rapidJson : Json.Dialect UInt8 where
  code := UInt8.toNat
  unit := UInt8.ofNat
  code_unit := byte_code
  code_injective := toNat_injective
  plain := validate
  plain_ascii := validate_ascii
  exact n := -2 ^ 63 ≤ n && n < 2 ^ 64
  inexact _ := .real
  members := id
  encode n := if 0xD800 ≤ n ∧ n ≤ 0xDFFF then none else some (utf8Code n)
  encode_ascii := escaped_ascii
  pairs := true
  ended s := s.head?.all (· == 0)
  ended_nil := ended_empty

/-- The stream drops what it takes for a byte order mark, one byte at a time. -/
def skipMark (s : Bytes) : Bytes :=
  let drop (b : UInt8) (s : Bytes) := if s.head? = some b then s.tail else s
  drop 0xBF (drop 0xBB (drop 0xEF s))

def parseDocument (s : Bytes) : Option JsonValue := rapidJson.parse (skipMark s)

def IsUtf8 (s : Bytes) : Prop := ∃ cs, s = utf8 cs

lemma rapidJson_closed : rapidJson.Closed IsUtf8 where
  nil := ⟨[], rfl⟩
  append := by
    rintro _ _ ⟨cs, rfl⟩ ⟨ds, rfl⟩
    exact ⟨cs ++ ds, (utf8_append cs ds).symm⟩
  ascii u hu := by
    refine ⟨[Char.ofNat u.toNat], ?_⟩
    have hu : u.toNat < 128 := hu
    have hn : (Char.ofNat u.toNat).toNat = u.toNat := by
      rw [Char.toNat_ofNat, if_pos (Or.inl (by omega))]
    rw [utf8_cons, utf8_nil, utf8Char_ascii (by omega), hn, UInt8.ofNat_toNat, List.append_nil]
  plain s t rest h := by
    obtain ⟨c, rfl, -⟩ := validate_iff.mp h
    exact ⟨[c], by simp⟩
  encode n t hn h := by
    dsimp only [rapidJson] at h
    split at h <;> rename_i hs
    · simp at h
    · obtain rfl := Option.some.inj h
      have hc : (Char.ofNat n).toNat = n := by
        rw [Char.toNat_ofNat, if_pos]
        change _ < _ ∨ _ < _ ∧ _ < _
        omega
      exact ⟨[Char.ofNat n], by rw [utf8_cons, utf8_nil, utf8Char, hc, List.append_nil]⟩
  members ms h := h

end LvglPlatform

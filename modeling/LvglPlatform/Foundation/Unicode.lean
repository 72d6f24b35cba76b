import LvglPlatform.Foundation.Bytes

/-! UTF-8 and UTF-16: encoders, strict decoders, and strings of 16-bit units that need not be well
formed. -/

namespace Foundation

def utf8Code (n : ℕ) : Bytes :=
  if n ≤ 0x7f then [UInt8.ofNat n]
  else if n ≤ 0x7ff then [UInt8.ofNat (n / 64 % 32 + 0xC0), UInt8.ofNat (n % 64 + 0x80)]
  else if n ≤ 0xffff then
    [UInt8.ofNat (n / 4096 % 16 + 0xE0), UInt8.ofNat (n / 64 % 64 + 0x80),
      UInt8.ofNat (n % 64 + 0x80)]
  else
    [UInt8.ofNat (n / 262144 % 8 + 0xF0), UInt8.ofNat (n / 4096 % 64 + 0x80),
      UInt8.ofNat (n / 64 % 64 + 0x80), UInt8.ofNat (n % 64 + 0x80)]

def utf8Char (c : Char) : Bytes := utf8Code c.toNat

def utf8 (cs : List Char) : Bytes := cs.flatMap utf8Char

@[simp] lemma utf8_nil : utf8 [] = [] := rfl

@[simp] lemma utf8_cons (c : Char) (cs : List Char) : utf8 (c :: cs) = utf8Char c ++ utf8 cs := rfl

lemma utf8_append (cs ds : List Char) : utf8 (cs ++ ds) = utf8 cs ++ utf8 ds := by simp [utf8]

lemma char_bounds (c : Char) : c.toNat < 0xD800 ∨ 0xDFFF < c.toNat ∧ c.toNat < 0x110000 := c.valid

lemma toNat_ofNat_byte {n : ℕ} (h : n < 256) : (UInt8.ofNat n).toNat = n := by
  rw [UInt8.toNat_ofNat', Nat.mod_eq_of_lt h]

lemma ofNat_eq_byte {n : ℕ} {b : UInt8} (h : n = b.toNat) : UInt8.ofNat n = b := by
  rw [h, UInt8.ofNat_toNat]

lemma utf8Char_ne_nil (c : Char) : utf8Char c ≠ [] := by
  rw [utf8Char, utf8Code]
  split_ifs <;> simp

lemma utf8Char_ascii {c : Char} (h : c.toNat ≤ 0x7f) : utf8Char c = [UInt8.ofNat c.toNat] := by
  rw [utf8Char, utf8Code, if_pos h]

lemma utf8Char_high {c : Char} (h : 0x7f < c.toNat) : ∀ b ∈ utf8Char c, 128 ≤ b.toNat := by
  intro b hb
  have hv := char_bounds c
  rw [utf8Char, utf8Code, if_neg (by omega)] at hb
  split_ifs at hb
  · simp only [List.mem_cons, List.not_mem_nil, or_false] at hb
    rcases hb with rfl | rfl <;> rw [toNat_ofNat_byte (by omega)] <;> omega
  · simp only [List.mem_cons, List.not_mem_nil, or_false] at hb
    rcases hb with rfl | rfl | rfl <;> rw [toNat_ofNat_byte (by omega)] <;> omega
  · simp only [List.mem_cons, List.not_mem_nil, or_false] at hb
    rcases hb with rfl | rfl | rfl | rfl <;> rw [toNat_ofNat_byte (by omega)] <;> omega

def utf8Scalar (least n : ℕ) (rest : Bytes) : Option (Char × Bytes) :=
  if least ≤ n ∧ (n < 0xD800 ∨ 0xDFFF < n ∧ n < 0x110000) then some (Char.ofNat n, rest) else none

def tailBits (b : UInt8) : Option ℕ :=
  if 0x80 ≤ b.toNat ∧ b.toNat < 0xC0 then some (b.toNat - 0x80) else none

/-- The first character of a byte string, without overlong codes or surrogates. -/
def utf8Next : Bytes → Option (Char × Bytes)
  | [] => none
  | a :: s =>
    if a.toNat < 0x80 then utf8Scalar 0 a.toNat s
    else if a.toNat < 0xC0 then none
    else if a.toNat < 0xE0 then
      match s with
      | b :: s => (tailBits b).bind fun x => utf8Scalar 0x80 ((a.toNat - 0xC0) * 64 + x) s
      | _ => none
    else if a.toNat < 0xF0 then
      match s with
      | b :: c :: s => (tailBits b).bind fun x => (tailBits c).bind fun y =>
          utf8Scalar 0x800 ((a.toNat - 0xE0) * 4096 + x * 64 + y) s
      | _ => none
    else if a.toNat < 0xF8 then
      match s with
      | b :: c :: d :: s => (tailBits b).bind fun x => (tailBits c).bind fun y =>
          (tailBits d).bind fun z =>
            utf8Scalar 0x10000 ((a.toNat - 0xF0) * 262144 + x * 4096 + y * 64 + z) s
      | _ => none
    else none

lemma utf8Scalar_toNat {least n : ℕ} (c : Char) (hn : n = c.toNat) (h : least ≤ n) (rest : Bytes) :
    utf8Scalar least n rest = some (c, rest) := by
  subst hn
  rw [utf8Scalar, if_pos ⟨h, char_bounds c⟩, Char.ofNat_toNat]

lemma utf8Scalar_some {least n : ℕ} {rest rest' : Bytes} {c : Char}
    (h : utf8Scalar least n rest = some (c, rest')) : least ≤ n ∧ c.toNat = n ∧ rest' = rest := by
  rw [utf8Scalar] at h
  split at h <;> rename_i hn
  · obtain ⟨rfl, rfl⟩ := Prod.mk.inj (Option.some.inj h)
    exact ⟨hn.1, by rw [Char.toNat_ofNat, if_pos hn.2], rfl⟩
  · simp at h

lemma utf8Scalar_pos {least n : ℕ} (h : least ≤ n ∧ (n < 0xD800 ∨ 0xDFFF < n ∧ n < 0x110000))
    (rest : Bytes) : ∃ c, utf8Scalar least n rest = some (c, rest) := ⟨Char.ofNat n, if_pos h⟩

lemma tailBits_ofNat {n : ℕ} (h : n < 64) : tailBits (UInt8.ofNat (n + 0x80)) = some n := by
  rw [tailBits, toNat_ofNat_byte (by omega), if_pos (by omega), Nat.add_sub_cancel]

lemma tailBits_some {b : UInt8} {x : ℕ} (h : tailBits b = some x) :
    b.toNat = x + 0x80 ∧ x < 64 := by
  rw [tailBits] at h
  split at h <;> rename_i hb
  · obtain rfl := Option.some.inj h
    omega
  · simp at h

lemma utf8Next_append (c : Char) (rest : Bytes) :
    utf8Next (utf8Char c ++ rest) = some (c, rest) := by
  have hv := char_bounds c
  rw [utf8Char, utf8Code]
  split_ifs with h1 h2 h3
  · simp only [List.cons_append, List.nil_append, utf8Next]
    rw [toNat_ofNat_byte (by omega), if_pos (by omega), utf8Scalar_toNat c rfl (by omega)]
  · simp only [List.cons_append, List.nil_append, utf8Next]
    rw [toNat_ofNat_byte (by omega), if_neg (by omega), if_neg (by omega), if_pos (by omega),
      tailBits_ofNat (by omega), Option.bind_some, utf8Scalar_toNat c (by omega) (by omega)]
  · simp only [List.cons_append, List.nil_append, utf8Next]
    rw [toNat_ofNat_byte (by omega), if_neg (by omega), if_neg (by omega), if_neg (by omega),
      if_pos (by omega), tailBits_ofNat (by omega), Option.bind_some, tailBits_ofNat (by omega),
      Option.bind_some, utf8Scalar_toNat c (by omega) (by omega)]
  · simp only [List.cons_append, List.nil_append, utf8Next]
    rw [toNat_ofNat_byte (by omega), if_neg (by omega), if_neg (by omega), if_neg (by omega),
      if_neg (by omega), if_pos (by omega), tailBits_ofNat (by omega), Option.bind_some,
      tailBits_ofNat (by omega), Option.bind_some, tailBits_ofNat (by omega), Option.bind_some,
      utf8Scalar_toNat c (by omega) (by omega)]

lemma utf8Next_some {s rest : Bytes} {c : Char} (h : utf8Next s = some (c, rest)) :
    s = utf8Char c ++ rest := by
  cases s with
  | nil => simp [utf8Next] at h
  | cons a s =>
    have hv := char_bounds c
    have ha := a.toNat_lt
    unfold utf8Next at h
    dsimp only at h
    split_ifs at h with h1 h2 h3 h4 h5
    · obtain ⟨-, hc, rfl⟩ := utf8Scalar_some h
      rw [utf8Char_ascii (by omega), hc, UInt8.ofNat_toNat, List.singleton_append]
    · rcases s with _ | ⟨b, s⟩
      · simp at h
      obtain ⟨x, hx, h⟩ := Option.bind_eq_some_iff.mp h
      obtain ⟨hb, hx'⟩ := tailBits_some hx
      obtain ⟨hl, hc, rfl⟩ := utf8Scalar_some h
      rw [utf8Char, utf8Code, if_neg (by omega), if_pos (by omega), ofNat_eq_byte (b := a) (by omega),
        ofNat_eq_byte (b := b) (by omega)]
      rfl
    · rcases s with _ | ⟨b, _ | ⟨d, s⟩⟩
      · simp at h
      · simp at h
      obtain ⟨x, hx, h⟩ := Option.bind_eq_some_iff.mp h
      obtain ⟨y, hy, h⟩ := Option.bind_eq_some_iff.mp h
      obtain ⟨hb, hx'⟩ := tailBits_some hx
      obtain ⟨hd, hy'⟩ := tailBits_some hy
      obtain ⟨hl, hc, rfl⟩ := utf8Scalar_some h
      rw [utf8Char, utf8Code, if_neg (by omega), if_neg (by omega), if_pos (by omega),
        ofNat_eq_byte (b := a) (by omega), ofNat_eq_byte (b := b) (by omega),
        ofNat_eq_byte (b := d) (by omega)]
      rfl
    · rcases s with _ | ⟨b, _ | ⟨d, _ | ⟨e, s⟩⟩⟩
      · simp at h
      · simp at h
      · simp at h
      obtain ⟨x, hx, h⟩ := Option.bind_eq_some_iff.mp h
      obtain ⟨y, hy, h⟩ := Option.bind_eq_some_iff.mp h
      obtain ⟨z, hz, h⟩ := Option.bind_eq_some_iff.mp h
      obtain ⟨hb, hx'⟩ := tailBits_some hx
      obtain ⟨hd, hy'⟩ := tailBits_some hy
      obtain ⟨he, hz'⟩ := tailBits_some hz
      obtain ⟨hl, hc, rfl⟩ := utf8Scalar_some h
      rw [utf8Char, utf8Code, if_neg (by omega), if_neg (by omega), if_neg (by omega),
        ofNat_eq_byte (b := a) (by omega), ofNat_eq_byte (b := b) (by omega),
        ofNat_eq_byte (b := d) (by omega), ofNat_eq_byte (b := e) (by omega)]
      rfl

def utf8Scan : ℕ → Bytes → Option (List Char)
  | _, [] => some []
  | 0, _ :: _ => none
  | fuel + 1, a :: s =>
    match utf8Next (a :: s) with
    | none => none
    | some (c, rest) => (utf8Scan fuel rest).map (c :: ·)

def decodeUtf8 (s : Bytes) : Option (List Char) := utf8Scan s.length s

lemma utf8Scan_utf8 (cs : List Char) (fuel : ℕ) (h : (utf8 cs).length ≤ fuel) :
    utf8Scan fuel (utf8 cs) = some cs := by
  induction cs generalizing fuel with
  | nil => cases fuel <;> rfl
  | cons c cs ih =>
    have hne := List.length_pos_iff.mpr (utf8Char_ne_nil c)
    have hnext := utf8Next_append c (utf8 cs)
    rw [utf8_cons, List.length_append] at h
    cases hs : utf8Char c ++ utf8 cs with
    | nil => simp [utf8Char_ne_nil] at hs
    | cons a s =>
      rw [hs] at hnext
      obtain ⟨fuel, rfl⟩ : ∃ n, fuel = n + 1 := ⟨fuel - 1, by omega⟩
      rw [utf8_cons, hs, utf8Scan, hnext]
      simp only [ih fuel (by omega), Option.map_some]

lemma utf8Scan_some {fuel : ℕ} {s : Bytes} {cs : List Char} (h : utf8Scan fuel s = some cs) :
    s = utf8 cs := by
  induction fuel generalizing s cs with
  | zero =>
    cases s with
    | nil =>
      obtain rfl := Option.some.inj h
      rfl
    | cons a s => simp [utf8Scan] at h
  | succ fuel ih =>
    cases s with
    | nil =>
      obtain rfl := Option.some.inj h
      rfl
    | cons a s =>
      rw [utf8Scan] at h
      cases hn : utf8Next (a :: s) with
      | none => simp [hn] at h
      | some p =>
        obtain ⟨c, rest⟩ := p
        simp only [hn] at h
        obtain ⟨ds, hds, rfl⟩ := Option.map_eq_some_iff.mp h
        rw [utf8Next_some hn, ih hds, utf8_cons]

lemma decodeUtf8_eq_some {s : Bytes} {cs : List Char} : decodeUtf8 s = some cs ↔ s = utf8 cs := by
  constructor
  · exact utf8Scan_some
  · rintro rfl
    exact utf8Scan_utf8 cs _ le_rfl

lemma utf8_injective {cs ds : List Char} (h : utf8 cs = utf8 ds) : cs = ds := by
  have hd := decodeUtf8_eq_some.mpr h
  rw [decodeUtf8_eq_some.mpr rfl] at hd
  exact Option.some.inj hd

abbrev Units := List UInt16

instance : LawfulBEq Units := inferInstance

def utf16Char (c : Char) : Units :=
  if c.toNat < 0x10000 then [UInt16.ofNat c.toNat]
  else [UInt16.ofNat ((c.toNat - 0x10000) / 1024 + 0xD800),
    UInt16.ofNat ((c.toNat - 0x10000) % 1024 + 0xDC00)]

def utf16 (cs : List Char) : Units := cs.flatMap utf16Char

@[simp] lemma utf16_nil : utf16 [] = [] := rfl

@[simp] lemma utf16_cons (c : Char) (cs : List Char) : utf16 (c :: cs) = utf16Char c ++ utf16 cs := rfl

lemma utf16_append (cs ds : List Char) : utf16 (cs ++ ds) = utf16 cs ++ utf16 ds := by simp [utf16]

def isHigh (u : UInt16) : Bool := 0xD800 ≤ u.toNat && u.toNat < 0xDC00

def isLow (u : UInt16) : Bool := 0xDC00 ≤ u.toNat && u.toNat < 0xE000

def codePoint (u : UInt16) : Char ⊕ UInt16 :=
  if isHigh u || isLow u then .inr u else .inl (Char.ofNat u.toNat)

def pairedChar (u v : UInt16) : Char :=
  Char.ofNat (0x10000 + (u.toNat - 0xD800) * 1024 + (v.toNat - 0xDC00))

/-- The characters of a string; a surrogate without its partner stays a unit. -/
def codePoints : Units → List (Char ⊕ UInt16)
  | [] => []
  | [u] => [codePoint u]
  | u :: v :: s =>
    if isHigh u && isLow v then .inl (pairedChar u v) :: codePoints s
    else codePoint u :: codePoints (v :: s)

def codeUnits : Char ⊕ UInt16 → Units
  | .inl c => utf16Char c
  | .inr u => [u]

lemma toNat_ofNat_unit {n : ℕ} (h : n < 65536) : (UInt16.ofNat n).toNat = n := by
  rw [UInt16.toNat_ofNat', Nat.mod_eq_of_lt h]

lemma pairedChar_toNat {u v : UInt16} (hu : isHigh u = true) (hv : isLow v = true) :
    (pairedChar u v).toNat = 0x10000 + (u.toNat - 0xD800) * 1024 + (v.toNat - 0xDC00) := by
  simp only [isHigh, isLow, Bool.and_eq_true, decide_eq_true_eq] at hu hv
  rw [pairedChar, Char.toNat_ofNat, if_pos]
  change _ < _ ∨ _ < _ ∧ _ < _
  omega

lemma utf16Char_paired {u v : UInt16} (hu : isHigh u = true) (hv : isLow v = true) :
    utf16Char (pairedChar u v) = [u, v] := by
  have hn := pairedChar_toNat hu hv
  simp only [isHigh, isLow, Bool.and_eq_true, decide_eq_true_eq] at hu hv
  rw [utf16Char, if_neg (by omega), hn,
    show (0x10000 + (u.toNat - 0xD800) * 1024 + (v.toNat - 0xDC00) - 0x10000) / 1024 + 0xD800 =
      u.toNat by omega,
    show (0x10000 + (u.toNat - 0xD800) * 1024 + (v.toNat - 0xDC00) - 0x10000) % 1024 + 0xDC00 =
      v.toNat by omega, UInt16.ofNat_toNat, UInt16.ofNat_toNat]

lemma codeUnits_codePoint (u : UInt16) : codeUnits (codePoint u) = [u] := by
  have hu := u.toNat_lt
  rw [codePoint]
  split <;> rename_i h
  · rfl
  · simp only [isHigh, isLow, Bool.or_eq_true, Bool.and_eq_true, decide_eq_true_eq, not_or,
      not_and] at h
    have hn : (Char.ofNat u.toNat).toNat = u.toNat := by
      rw [Char.toNat_ofNat, if_pos]
      change _ < _ ∨ _ < _ ∧ _ < _
      omega
    rw [codeUnits, utf16Char, hn, if_pos hu, UInt16.ofNat_toNat]

lemma codePoints_flatMap (s : Units) : (codePoints s).flatMap codeUnits = s := by
  induction s using codePoints.induct with
  | case1 => rfl
  | case2 u => simp [codePoints, codeUnits_codePoint]
  | case3 u v s h ih =>
    obtain ⟨hu, hv⟩ := Bool.and_eq_true_iff.mp h
    rw [codePoints, if_pos h, List.flatMap_cons, ih, codeUnits, utf16Char_paired hu hv]
    rfl
  | case4 u v s h ih =>
    rw [codePoints, if_neg h, List.flatMap_cons, ih, codeUnits_codePoint]
    rfl

lemma codePoints_utf16_append (c : Char) (s : Units) :
    codePoints (utf16Char c ++ s) = .inl c :: codePoints s := by
  have hc := char_bounds c
  rw [utf16Char]
  split <;> rename_i h
  · have hn := toNat_ofNat_unit h
    have hlone : codePoint (UInt16.ofNat c.toNat) = .inl c := by
      rw [codePoint, if_neg, hn, Char.ofNat_toNat]
      simp only [isHigh, isLow, hn, Bool.or_eq_true, Bool.and_eq_true, decide_eq_true_eq]
      omega
    have hhigh : isHigh (UInt16.ofNat c.toNat) = false := by
      simp only [isHigh, hn, Bool.and_eq_false_iff, decide_eq_false_iff_not]
      omega
    cases s with
    | nil => simp [codePoints, hlone]
    | cons v s => simp [codePoints, hlone, hhigh]
  · have hu : (UInt16.ofNat ((c.toNat - 0x10000) / 1024 + 0xD800)).toNat = _ :=
      toNat_ofNat_unit (by omega)
    have hv : (UInt16.ofNat ((c.toNat - 0x10000) % 1024 + 0xDC00)).toNat = _ :=
      toNat_ofNat_unit (by omega)
    have hhigh : isHigh (UInt16.ofNat ((c.toNat - 0x10000) / 1024 + 0xD800)) = true := by
      simp only [isHigh, hu, Bool.and_eq_true, decide_eq_true_eq]
      omega
    have hlow : isLow (UInt16.ofNat ((c.toNat - 0x10000) % 1024 + 0xDC00)) = true := by
      simp only [isLow, hv, Bool.and_eq_true, decide_eq_true_eq]
      omega
    have hpair : pairedChar (UInt16.ofNat ((c.toNat - 0x10000) / 1024 + 0xD800))
        (UInt16.ofNat ((c.toNat - 0x10000) % 1024 + 0xDC00)) = c := by
      rw [pairedChar, hu, hv]
      have hn : 0x10000 + ((c.toNat - 0x10000) / 1024 + 0xD800 - 0xD800) * 1024 +
          ((c.toNat - 0x10000) % 1024 + 0xDC00 - 0xDC00) = c.toNat := by omega
      rw [hn, Char.ofNat_toNat]
    simp only [List.cons_append, List.nil_append, codePoints, hhigh, hlow, Bool.and_self, if_true,
      hpair]

lemma codePoints_utf16 (cs : List Char) : codePoints (utf16 cs) = cs.map .inl := by
  induction cs with
  | nil => rfl
  | cons c cs ih => rw [utf16_cons, codePoints_utf16_append, ih, List.map_cons]

lemma utf16_injective {cs ds : List Char} (h : utf16 cs = utf16 ds) : cs = ds := by
  have hp := congrArg codePoints h
  rw [codePoints_utf16, codePoints_utf16] at hp
  exact List.map_injective_iff.mpr Sum.inl_injective hp

def wellFormed (s : Units) : Bool := (codePoints s).all Sum.isLeft

lemma wellFormed_iff {s : Units} : wellFormed s = true ↔ ∃ cs, s = utf16 cs := by
  constructor
  · intro h
    have hall : ∀ points : List (Char ⊕ UInt16), points.all Sum.isLeft = true →
        ∃ cs : List Char, points = cs.map .inl := by
      intro points hp
      induction points with
      | nil => exact ⟨[], rfl⟩
      | cons p points ih =>
        obtain ⟨hleft, hrest⟩ := Bool.and_eq_true_iff.mp hp
        obtain ⟨cs, rfl⟩ := ih hrest
        obtain ⟨c, rfl⟩ := Sum.isLeft_iff.mp hleft
        exact ⟨c :: cs, rfl⟩
    obtain ⟨cs, hcs⟩ := hall _ h
    refine ⟨cs, ?_⟩
    rw [← codePoints_flatMap s, hcs, List.flatMap_map]
    rfl
  · rintro ⟨cs, rfl⟩
    simp [wellFormed, codePoints_utf16]

/-- The UTF-8 of a string, with the replacement character for every unpaired surrogate. -/
def unitsUtf8 (s : Units) : Bytes :=
  (codePoints s).flatMap fun
    | .inl c => utf8Char c
    | .inr _ => [0xEF, 0xBF, 0xBD]

lemma unitsUtf8_utf16 (cs : List Char) : unitsUtf8 (utf16 cs) = utf8 cs := by
  rw [unitsUtf8, codePoints_utf16, List.flatMap_map]
  rfl

end Foundation

import LvglPlatform.Package.RapidJson
import LvglPlatform.Platform.Primitives

namespace LvglPlatform

open Foundation

def canonicalChar (byte : UInt8) : Bytes :=
  if byte = chr '"' then text "\\\""
  else if byte = chr '\\' then text "\\\\"
  else if byte = 8 then text "\\b"
  else if byte = 12 then text "\\f"
  else if byte = chr '\n' then text "\\n"
  else if byte = chr '\r' then text "\\r"
  else if byte = chr '\t' then text "\\t"
  else if byte < 0x20 then
    text "\\u00" ++ [hexDigit (byte.toNat / 16), hexDigit (byte.toNat % 16)]
  else [byte]

def canonicalString (value : Bytes) : Bytes :=
  chr '"' :: (value.flatMap canonicalChar ++ [chr '"'])

def decimal (n : ℕ) : Bytes := (Nat.toDigits 10 n).map chr

def signedDecimal (n : ℤ) : Bytes :=
  if n < 0 then chr '-' :: decimal n.natAbs else decimal n.natAbs

def maximumSafeInteger : ℤ := 9007199254740991

mutual

def canonicalJson : JsonValue → Option Bytes
  | .null => some (text "null")
  | .bool b => some (if b then text "true" else text "false")
  | .string s => some (canonicalString s)
  | .number (.integer n) =>
    if n < -maximumSafeInteger ∨ n > maximumSafeInteger then none else some (signedDecimal n)
  | .number .real => none
  | .array items => (canonicalItems true items).map fun t => chr '[' :: (t ++ [chr ']'])
  | .object members => (canonicalMembers none members).map fun t => chr '{' :: (t ++ [chr '}'])

def canonicalItems : Bool → List JsonValue → Option Bytes
  | _, [] => some []
  | first, v :: vs => do
    let t ← canonicalJson v
    let ts ← canonicalItems false vs
    some ((if first then [] else [chr ',']) ++ t ++ ts)

def canonicalMembers : Option Bytes → List (Bytes × JsonValue) → Option Bytes
  | _, [] => some []
  | previous, (name, v) :: ms =>
    if previous.any (fun p => !decide (p < name)) then none
    else do
      let t ← canonicalJson v
      let ts ← canonicalMembers (some name) ms
      some ((if previous.isNone then [] else [chr ',']) ++ canonicalString name ++ [chr ':'] ++ t ++ ts)

end

def Ascending (names : List Bytes) : Prop := names.Pairwise (· < ·)

instance (names : List Bytes) : Decidable (Ascending names) :=
  inferInstanceAs (Decidable (names.Pairwise (· < ·)))

mutual

def Canonical : JsonValue → Prop
  | .number (.integer n) => -maximumSafeInteger ≤ n ∧ n ≤ maximumSafeInteger
  | .number .real => False
  | .array items => CanonicalItems items
  | .object members => Ascending (members.map Prod.fst) ∧ CanonicalMembers members
  | _ => True

def CanonicalItems : List JsonValue → Prop
  | [] => True
  | v :: vs => Canonical v ∧ CanonicalItems vs

def CanonicalMembers : List (Bytes × JsonValue) → Prop
  | [] => True
  | (_, v) :: ms => Canonical v ∧ CanonicalMembers ms

end

lemma canonicalChar_eq (byte : UInt8) : canonicalChar byte = rapidJson.spell byte := by
  have hall : ∀ n : Fin 256, canonicalChar (UInt8.ofNat n) = rapidJson.spell (UInt8.ofNat n) := by
    decide +kernel
  have h := hall ⟨byte.toNat, byte.toNat_lt⟩
  rwa [UInt8.ofNat_toNat] at h

lemma canonicalString_eq (s : Bytes) : canonicalString s = rapidJson.quote s := by
  rw [canonicalString, Json.Dialect.quote, funext canonicalChar_eq]
  rfl

lemma any_not_lt {previous : Option Bytes} {name : Bytes} :
    previous.any (fun p => !decide (p < name)) = false ↔ ∀ p ∈ previous, p < name := by
  cases previous <;> simp

lemma ascending_cons {name : Bytes} {names : List Bytes} :
    Ascending (name :: names) ↔ (∀ next ∈ names.head?, name < next) ∧ Ascending names := by
  cases names with
  | nil => simp [Ascending]
  | cons next names =>
    constructor
    · intro h
      obtain ⟨hlt, hrest⟩ := List.pairwise_cons.mp h
      refine ⟨?_, hrest⟩
      rintro n ⟨⟩
      exact hlt next List.mem_cons_self
    · rintro ⟨hlt, hrest⟩
      have hnext := hlt next rfl
      refine List.pairwise_cons.mpr ⟨?_, hrest⟩
      intro n hn
      rcases List.mem_cons.mp hn with rfl | hn
      · exact hnext
      · exact List.lt_trans hnext ((List.pairwise_cons.mp hrest).1 n hn)

def comma (goesOn : Bool) : Bytes := if goesOn then [chr ','] else []

mutual

lemma canonicalJson_iff : ∀ (v : JsonValue) (t : Bytes),
    canonicalJson v = some t ↔ Canonical v ∧ t = rapidJson.print v
  | .null, t => by
    simp only [canonicalJson, Canonical, true_and, Option.some.injEq]
    exact eq_comm
  | .bool b, t => by
    simp only [canonicalJson, Canonical, true_and, Option.some.injEq]
    cases b <;> exact eq_comm
  | .string s, t => by
    simp only [canonicalJson, Canonical, true_and, Option.some.injEq, canonicalString_eq]
    exact eq_comm
  | .number .real, t => by simp [canonicalJson, Canonical]
  | .number (.integer n), t => by
    simp only [canonicalJson, Canonical]
    split <;> rename_i h
    · have : ¬ (-maximumSafeInteger ≤ n ∧ n ≤ maximumSafeInteger) := by omega
      simp [this]
    · have : -maximumSafeInteger ≤ n ∧ n ≤ maximumSafeInteger := by omega
      simp only [this, and_self, true_and, Option.some.injEq]
      exact eq_comm
  | .array items, t => by
    have hitems := canonicalItems_iff items true
    simp only [canonicalJson, Canonical, Option.map_eq_some_iff, hitems, Json.Dialect.print]
    constructor
    · rintro ⟨_, ⟨hc, rfl⟩, rfl⟩
      exact ⟨hc, rfl⟩
    · rintro ⟨hc, rfl⟩
      exact ⟨_, ⟨hc, rfl⟩, rfl⟩
  | .object members, t => by
    have hmembers := canonicalMembers_iff members none
    simp only [canonicalJson, Canonical, Option.map_eq_some_iff, hmembers, Json.Dialect.print]
    constructor
    · rintro ⟨_, ⟨-, ha, hc, rfl⟩, rfl⟩
      exact ⟨⟨ha, hc⟩, rfl⟩
    · rintro ⟨⟨ha, hc⟩, rfl⟩
      exact ⟨_, ⟨by simp, ha, hc, rfl⟩, rfl⟩

lemma canonicalItems_iff : ∀ (vs : List JsonValue) (first : Bool) (t : Bytes),
    canonicalItems first vs = some t ↔
      CanonicalItems vs ∧ t = comma (!first && !vs.isEmpty) ++ rapidJson.printItems vs
  | [], first, t => by
    simp only [canonicalItems, CanonicalItems, true_and, Option.some.injEq, List.isEmpty_nil,
      Bool.not_true, Bool.and_false]
    exact eq_comm
  | v :: vs, first, t => by
    have hv := canonicalJson_iff v
    have hvs := canonicalItems_iff vs false
    have hprint : rapidJson.printItems (v :: vs) =
        rapidJson.print v ++ (comma (!vs.isEmpty) ++ rapidJson.printItems vs) := by
      cases vs with
      | nil => simp [Json.Dialect.printItems, comma]
      | cons w vs => rfl
    have hcomma : comma (!first && !(v :: vs).isEmpty) = if first then [] else [chr ','] := by
      cases first <;> rfl
    rw [canonicalItems, hprint, hcomma]
    simp only [Option.bind_eq_bind, Option.bind_eq_some_iff, hv, hvs, Option.some.injEq,
      CanonicalItems, Bool.not_false, Bool.true_and]
    constructor
    · rintro ⟨_, ⟨hc, rfl⟩, _, ⟨hcs, rfl⟩, rfl⟩
      exact ⟨⟨hc, hcs⟩, by simp⟩
    · rintro ⟨⟨hc, hcs⟩, rfl⟩
      exact ⟨_, ⟨hc, rfl⟩, _, ⟨hcs, rfl⟩, by simp⟩

lemma canonicalMembers_iff : ∀ (ms : List (Bytes × JsonValue)) (previous : Option Bytes) (t : Bytes),
    canonicalMembers previous ms = some t ↔
      (∀ p ∈ previous, ∀ name ∈ (ms.map Prod.fst).head?, p < name) ∧
        Ascending (ms.map Prod.fst) ∧ CanonicalMembers ms ∧
        t = comma (previous.isSome && !ms.isEmpty) ++ rapidJson.printFields ms
  | [], previous, t => by
    simp only [canonicalMembers, CanonicalMembers, true_and, Option.some.injEq, List.isEmpty_nil,
      Bool.not_true, Bool.and_false, Ascending, List.map_nil, List.head?_nil, Option.mem_def,
      reduceCtorEq, false_imp_iff, implies_true, List.Pairwise.nil]
    exact eq_comm
  | (name, v) :: ms, previous, t => by
    have hv := canonicalJson_iff v
    have hms := canonicalMembers_iff ms (some name)
    have hprint : rapidJson.printFields ((name, v) :: ms) = rapidJson.quote name ++ chr ':' ::
        (rapidJson.print v ++ (comma (!ms.isEmpty) ++ rapidJson.printFields ms)) := by
      cases ms with
      | nil => simp [Json.Dialect.printFields, comma]; rfl
      | cons m ms => rfl
    have hcomma : comma (previous.isSome && !((name, v) :: ms).isEmpty) =
        if previous.isNone then [] else [chr ','] := by
      cases previous <;> rfl
    rw [canonicalMembers, hprint, hcomma, List.map_cons, ascending_cons, List.head?_cons]
    split <;> rename_i hlt
    · have hlt' : ¬ ∀ p ∈ previous, p < name := by
        intro hall
        rw [any_not_lt.mpr hall] at hlt
        cases hlt
      simp only [Option.mem_def, Option.some.injEq, forall_eq'] at hlt' ⊢
      simp [hlt']
    · have hlt' := any_not_lt.mp (Bool.not_eq_true _ ▸ hlt)
      simp only [Option.bind_eq_bind, Option.bind_eq_some_iff, hv, hms, Option.some.injEq,
        CanonicalMembers, Option.isSome_some, Bool.true_and, canonicalString_eq]
      constructor
      · rintro ⟨_, ⟨hc, rfl⟩, _, ⟨hnext, ha, hcs, rfl⟩, rfl⟩
        refine ⟨?_, ⟨fun n hn => hnext name rfl n hn, ha⟩, ⟨hc, hcs⟩, by simp⟩
        rintro p hp n ⟨⟩
        exact hlt' p hp
      · rintro ⟨-, ⟨hnext, ha⟩, ⟨hc, hcs⟩, rfl⟩
        refine ⟨_, ⟨hc, rfl⟩, _, ⟨?_, ha, hcs, rfl⟩, by simp⟩
        rintro p ⟨⟩ n hn
        exact hnext n hn

end

lemma readable_utf8 (cs : List Char) : rapidJson.Readable (utf8 cs) := by
  induction cs with
  | nil => exact .nil
  | cons c cs ih =>
    rw [utf8_cons]
    by_cases hc : c.toNat ≤ 0x7f
    · rw [utf8Char_ascii hc]
      refine .ascii _ _ ?_ ih
      change (UInt8.ofNat c.toNat).toNat < 128
      rw [toNat_ofNat_byte (by omega)]
      omega
    · exact .plain _ _ (utf8Char_ne_nil c) (utf8Char_high (by omega))
        (fun rest => validate_of_shape (.utf8Char c) rest) ih

mutual

lemma printable_of_canonical : ∀ v : JsonValue, Canonical v → v.All IsUtf8 → rapidJson.Printable v
  | .null, _, _ => by simp [Json.Dialect.Printable]
  | .bool b, _, _ => by simp [Json.Dialect.Printable]
  | .string s, _, hs => by
    obtain ⟨cs, rfl⟩ : IsUtf8 s := hs
    rw [Json.Dialect.Printable]
    exact readable_utf8 cs
  | .number .real, hc, _ => hc.elim
  | .number (.integer n), hc, _ => by
    simp only [Canonical, maximumSafeInteger] at hc
    rw [Json.Dialect.Printable]
    simp only [rapidJson, Bool.and_eq_true, decide_eq_true_eq]
    omega
  | .array items, hc, hs => by
    rw [Json.Dialect.Printable]
    exact printableItems_of_canonical items hc hs
  | .object members, hc, hs => by
    rw [Json.Dialect.Printable]
    exact ⟨rfl, printableFields_of_canonical members hc.2 hs⟩

lemma printableItems_of_canonical : ∀ vs : List JsonValue, CanonicalItems vs →
    Json.AllItems IsUtf8 vs → rapidJson.PrintableItems vs
  | [], _, _ => trivial
  | v :: vs, hc, hs => ⟨printable_of_canonical v hc.1 hs.1, printableItems_of_canonical vs hc.2 hs.2⟩

lemma printableFields_of_canonical : ∀ ms : List (Bytes × JsonValue), CanonicalMembers ms →
    Json.AllFields IsUtf8 ms → rapidJson.PrintableFields ms
  | [], _, _ => trivial
  | (name, v) :: ms, hc, hs => by
    obtain ⟨cs, rfl⟩ : IsUtf8 name := hs.1
    exact ⟨readable_utf8 cs, printable_of_canonical v hc.1 hs.2.1,
      printableFields_of_canonical ms hc.2 hs.2.2⟩

end

lemma parseDocument_print {members : List (Bytes × JsonValue)} (hc : Canonical (.object members))
    (hs : Json.AllFields IsUtf8 members) :
    parseDocument (rapidJson.print (.object members)) = some (.object members) := by
  have hp := printable_of_canonical (.object members) hc hs
  have hmark : skipMark (rapidJson.print (.object members)) = rapidJson.print (.object members) := by
    rw [Json.Dialect.print]
    rfl
  rw [parseDocument, hmark, Json.Dialect.parse_print hp]

lemma parseDocument_utf8 {s : Bytes} {v : JsonValue} (h : parseDocument s = some v) : v.All IsUtf8 :=
  rapidJson_closed.parse h

lemma chr_digit {digit : Char} (h : digit.isDigit = true) :
    48 ≤ (chr digit).toNat ∧ (chr digit).toNat ≤ 57 ∧ Char.ofNat (chr digit).toNat = digit := by
  simp only [Char.isDigit, Bool.and_eq_true, decide_eq_true_eq] at h
  have hlow : (48 : UInt32).toNat ≤ digit.val.toNat := h.1
  have hhigh : digit.val.toNat ≤ (57 : UInt32).toNat := h.2
  have hvalue : digit.val.toNat = digit.toNat := rfl
  simp only [UInt32.reduceToNat] at hlow hhigh
  have hchr : (chr digit).toNat = digit.toNat := by
    rw [chr, UInt8.toNat_ofNat']
    omega
  rw [hchr]
  exact ⟨by omega, by omega, Char.ofNat_toNat digit⟩

lemma decimal_range {n : ℕ} {c : UInt8} (h : c ∈ decimal n) : 48 ≤ c.toNat ∧ c.toNat ≤ 57 := by
  obtain ⟨digit, hdigit, rfl⟩ := List.mem_map.mp h
  have hrange := chr_digit (Nat.isDigit_of_mem_toDigits (by omega) (by omega) hdigit)
  exact ⟨hrange.1, hrange.2.1⟩

lemma decimal_injective {m n : ℕ} (h : decimal m = decimal n) : m = n := by
  have hback : ∀ n, (decimal n).map (fun c => Char.ofNat c.toNat) = Nat.toDigits 10 n := by
    intro n
    rw [decimal, List.map_map]
    refine (List.map_congr_left fun digit hdigit => ?_).trans (List.map_id _)
    exact (chr_digit (Nat.isDigit_of_mem_toDigits (by omega) (by omega) hdigit)).2.2
  have hdigits := (hback m).symm.trans ((congrArg _ h).trans (hback n))
  have hvalue := congrArg (fun digits => Nat.ofDigitChars 10 digits 0) hdigits
  simpa only [Nat.ofDigitChars_toDigits (show 1 < 10 by omega) (le_refl 10)] using hvalue

end LvglPlatform

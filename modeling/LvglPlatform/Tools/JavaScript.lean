import LvglPlatform.Foundation.JsonEncoding
import LvglPlatform.Package.CanonicalJson

/-! The values of the packaging tool: strings of 16-bit units, `JSON.parse`, `JSON.stringify` and the
canonical text of a value. -/

namespace LvglPlatform

open Foundation

namespace Lvapp

/-- A value of `JSON.parse`. A number is its integer if that is safe, and `real` otherwise. -/
abbrev JsValue := Json.Value Units

def units (s : String) : Units := utf16 s.toList

def byteOrderMark : Char := Char.ofNat 0xFEFF

/-- `textDecoder.decode`: fails on anything but UTF-8, and drops a byte order mark. -/
def decodeText (bytes : Bytes) : Option Units :=
  (decodeUtf8 bytes).map fun cs => utf16 (if cs.head? = some byteOrderMark then cs.tail else cs)

def roundHalfEven (a b : ℕ) : ℕ :=
  if 2 * (a % b) < b ∨ 2 * (a % b) = b ∧ a / b % 2 = 0 then a / b else a / b + 1

/-- The natural number below 2^53 that is the double nearest to a quotient. -/
def nearestSafe (a b : ℕ) : Option ℕ :=
  if a / b ≥ 2 ^ 53 then none
  else
    -- the bits of the fraction in a double of this size; a subnormal has no more of them
    let bits := if b ≤ a then 52 - Nat.log 2 (a / b) else min (52 + Nat.clog 2 ((b + a - 1) / a)) 1074
    let mantissa := roundHalfEven (a * 2 ^ bits) b
    if mantissa % 2 ^ bits = 0 ∧ mantissa / 2 ^ bits < 2 ^ 53 then some (mantissa / 2 ^ bits) else none

def isDigitUnit (u : UInt16) : Bool := 48 ≤ u.toNat && u.toNat ≤ 57

def naturalOf (digits : Units) : ℕ := digits.foldl (fun n u => 10 * n + (u.toNat - 48)) 0

def exponentOf : Units → ℤ
  | 43 :: digits => naturalOf digits
  | 45 :: digits => -naturalOf digits
  | digits => naturalOf digits

/-- A number whose text is not a safe integer as it stands: the double nearest to it. -/
def roundedNumber (s : Units) : Json.Number :=
  let negative := s.head? = some 45
  let body := if negative then s.tail else s
  let whole := body.takeWhile isDigitUnit
  let rest := body.dropWhile isDigitUnit
  let fraction := if rest.head? = some 46 then rest.tail.takeWhile isDigitUnit else []
  let rest := if rest.head? = some 46 then rest.tail.dropWhile isDigitUnit else rest
  let scale := exponentOf rest.tail - fraction.length
  let mantissa := naturalOf (whole ++ fraction)
  match nearestSafe (mantissa * 10 ^ scale.toNat) (10 ^ (-scale).toNat) with
  | some n => .integer (if negative then -n else n)
  | none => .real

/-- A property that is set again keeps its place. -/
def setMember (members : List (Units × JsValue)) (member : Units × JsValue) : List (Units × JsValue) :=
  if member.1 ∈ members.map Prod.fst then members.map fun m => if m.1 = member.1 then member else m
  else members ++ [member]

def ownMembers (members : List (Units × JsValue)) : List (Units × JsValue) :=
  members.foldl setMember []

/-- `JSON.parse` over the units of a string, paired or not. -/
def jsJson : Json.Dialect UInt16 where
  code := UInt16.toNat
  unit := UInt16.ofNat
  code_unit := utf16Encoding.code_unit
  code_injective := utf16Encoding.code_injective
  plain
    | [] => none
    | u :: rest => some ([u], rest)
  plain_ascii _ _ _ _ := rfl
  exact n := -maximumSafeInteger ≤ n && n ≤ maximumSafeInteger
  inexact := roundedNumber
  members := ownMembers
  encode n := some [UInt16.ofNat n]
  encode_ascii _ _ := rfl
  pairs := false
  ended := List.isEmpty
  ended_nil := rfl

def hexUnits (n : ℕ) : Units :=
  [n / 4096 % 16, n / 256 % 16, n / 16 % 16, n % 16].map fun k => UInt16.ofNat (Nat.digitChar k).toNat

/-- `JSON.stringify` of a string, which escapes the surrogates that stand alone. -/
def stringify (s : Units) : Units :=
  jsJson.unit 34 :: ((codePoints s).flatMap fun
    | .inl c => (utf16Char c).flatMap jsJson.spell
    | .inr u => units "\\u" ++ hexUnits u.toNat) ++ [jsJson.unit 34]

section

variable {β : Type}

/-- `Buffer.compare` of two names. -/
def NotAfter (a b : Units × β) : Prop := unitsUtf8 a.1 ≤ unitsUtf8 b.1

instance : DecidableRel (@NotAfter β) := fun a b =>
  inferInstanceAs (Decidable (unitsUtf8 a.1 ≤ unitsUtf8 b.1))

def sortMembers (members : List (Units × β)) : List (Units × β) := members.insertionSort NotAfter

end

mutual

def canonicalJson : JsValue → Option Units
  | .null => some (units "null")
  | .bool b => some (units (if b then "true" else "false"))
  | .string s => some (stringify s)
  | .number (.integer n) =>
    if -maximumSafeInteger ≤ n ∧ n ≤ maximumSafeInteger then some (jsJson.intText n) else none
  | .number .real => none
  | .array items => (canonicalItems items).map fun texts =>
      jsJson.unit 91 :: ([jsJson.unit 44].intercalate texts ++ [jsJson.unit 93])
  | .object members => (canonicalMembers members).map fun texts =>
      jsJson.unit 123 :: ([jsJson.unit 44].intercalate ((sortMembers texts).map fun (key, text) =>
        stringify key ++ jsJson.unit 58 :: text) ++ [jsJson.unit 125])

def canonicalItems : List JsValue → Option (List Units)
  | [] => some []
  | v :: vs => do
    let text ← canonicalJson v
    let texts ← canonicalItems vs
    some (text :: texts)

def canonicalMembers : List (Units × JsValue) → Option (List (Units × Units))
  | [] => some []
  | (key, v) :: ms => do
    let text ← canonicalJson v
    let texts ← canonicalMembers ms
    some ((key, text) :: texts)

end

mutual

def sorted : JsValue → JsValue
  | .array items => .array (sortedItems items)
  | .object members => .object (sortMembers (sortedFields members))
  | v => v

def sortedItems : List JsValue → List JsValue
  | [] => []
  | v :: vs => sorted v :: sortedItems vs

def sortedFields : List (Units × JsValue) → List (Units × JsValue)
  | [] => []
  | (key, v) :: ms => (key, sorted v) :: sortedFields ms

end

mutual

def SafeNumbers : JsValue → Prop
  | .number (.integer n) => -maximumSafeInteger ≤ n ∧ n ≤ maximumSafeInteger
  | .number .real => False
  | .array items => SafeItems items
  | .object members => SafeFields members
  | _ => True

def SafeItems : List JsValue → Prop
  | [] => True
  | v :: vs => SafeNumbers v ∧ SafeItems vs

def SafeFields : List (Units × JsValue) → Prop
  | [] => True
  | (_, v) :: ms => SafeNumbers v ∧ SafeFields ms

end

def WellFormed (s : Units) : Prop := wellFormed s = true

lemma stringify_of_wellFormed {s : Units} (h : WellFormed s) : stringify s = jsJson.quote s := by
  obtain ⟨cs, rfl⟩ := wellFormed_iff.mp h
  rw [stringify, codePoints_utf16, List.flatMap_map, Json.Dialect.quote, utf16, List.flatMap_assoc]
  rfl

lemma printItems_eq (vs : List JsValue) :
    jsJson.printItems vs = [jsJson.unit 44].intercalate (vs.map jsJson.print) := by
  induction vs with
  | nil => rfl
  | cons v vs ih =>
    cases vs with
    | nil => simp [Json.Dialect.printItems, List.intercalate]
    | cons w vs =>
      change _ = List.intercalate _ (jsJson.print v :: (w :: vs).map jsJson.print)
      rw [Json.Dialect.printItems, ih, List.intercalate_cons_of_ne_nil (by simp), List.append_assoc]
      rfl

lemma printFields_eq (ms : List (Units × JsValue)) :
    jsJson.printFields ms = [jsJson.unit 44].intercalate (ms.map fun m =>
      jsJson.quote m.1 ++ jsJson.unit 58 :: jsJson.print m.2) := by
  induction ms with
  | nil => rfl
  | cons m ms ih =>
    obtain ⟨key, v⟩ := m
    cases ms with
    | nil => simp [Json.Dialect.printFields, List.intercalate]
    | cons other ms =>
      change _ = List.intercalate _ ((jsJson.quote key ++ jsJson.unit 58 :: jsJson.print v) ::
        (other :: ms).map fun m => jsJson.quote m.1 ++ jsJson.unit 58 :: jsJson.print m.2)
      rw [Json.Dialect.printFields, ih, List.intercalate_cons_of_ne_nil (by simp)]
      simp only [List.append_assoc, List.cons_append, List.nil_append]

lemma sortMembers_map {β γ : Type} (f : Units × β → γ) (members : List (Units × β)) :
    sortMembers (members.map fun m => (m.1, f m)) = (sortMembers members).map fun m => (m.1, f m) :=
  (List.map_insertionSort NotAfter NotAfter (fun m : Units × β => (m.1, f m)) members
    fun _ _ _ _ => Iff.rfl).symm

lemma mem_sortMembers {β : Type} {m : Units × β} {members : List (Units × β)} :
    m ∈ sortMembers members ↔ m ∈ members := List.mem_insertionSort NotAfter

mutual

lemma all_sorted {P : Units → Prop} : ∀ v : JsValue, v.All P → (sorted v).All P
  | .null, _ => trivial
  | .bool _, _ => trivial
  | .number _, _ => trivial
  | .string _, h => h
  | .array items, h => all_sortedItems items h
  | .object members, h =>
    have hfields := all_sortedFields members h
    Json.allFields_iff.mpr fun m hm => Json.allFields_iff.mp hfields m (mem_sortMembers.mp hm)

lemma all_sortedItems {P : Units → Prop} : ∀ vs : List JsValue, Json.AllItems P vs →
    Json.AllItems P (sortedItems vs)
  | [], _ => trivial
  | v :: vs, h => ⟨all_sorted v h.1, all_sortedItems vs h.2⟩

lemma all_sortedFields {P : Units → Prop} : ∀ ms : List (Units × JsValue), Json.AllFields P ms →
    Json.AllFields P (sortedFields ms)
  | [], _ => trivial
  | (_, v) :: ms, h => ⟨h.1, all_sorted v h.2.1, all_sortedFields ms h.2.2⟩

end

mutual

/-- The canonical text of a value without lone surrogates is the text of the sorted value. -/
lemma canonicalJson_iff : ∀ (v : JsValue) (t : Units), v.All WellFormed →
    (canonicalJson v = some t ↔ SafeNumbers v ∧ t = jsJson.print (sorted v))
  | .null, t, _ => by
    rw [canonicalJson, Option.some.injEq, eq_comm]
    exact (and_iff_right trivial).symm
  | .bool b, t, _ => by
    rw [canonicalJson, Option.some.injEq, eq_comm]
    cases b <;> exact (and_iff_right trivial).symm
  | .string s, t, hs => by
    rw [canonicalJson, Option.some.injEq, eq_comm, stringify_of_wellFormed hs]
    exact (and_iff_right trivial).symm
  | .number .real, t, _ => by simp [canonicalJson, SafeNumbers]
  | .number (.integer n), t, _ => by
    rw [canonicalJson, SafeNumbers]
    split <;> rename_i hn
    · rw [Option.some.injEq, eq_comm, and_iff_right hn]
      rfl
    · simp [hn]
  | .array items, t, hs => by
    have hitems := canonicalItems_iff items
    simp only [canonicalJson, SafeNumbers, sorted, Json.Dialect.print, Option.map_eq_some_iff, printItems_eq]
    constructor
    · rintro ⟨texts, htexts, rfl⟩
      obtain ⟨hsafe, rfl⟩ := (hitems texts hs).mp htexts
      exact ⟨hsafe, rfl⟩
    · rintro ⟨hsafe, rfl⟩
      exact ⟨_, (hitems _ hs).mpr ⟨hsafe, rfl⟩, rfl⟩
  | .object members, t, hs => by
    have hmembers := canonicalMembers_iff members
    have hkeys : ∀ m ∈ sortMembers (sortedFields members), WellFormed m.1 := fun m hm =>
      (Json.allFields_iff.mp (all_sorted (.object members) hs) m hm).1
    have htext : jsJson.printFields (sortMembers (sortedFields members)) =
        [jsJson.unit 44].intercalate ((sortMembers ((sortedFields members).map fun m =>
          (m.1, jsJson.print m.2))).map fun m => stringify m.1 ++ jsJson.unit 58 :: m.2) := by
      rw [printFields_eq, sortMembers_map, List.map_map]
      refine congrArg _ (List.map_congr_left fun m hm => ?_)
      rw [Function.comp_apply, stringify_of_wellFormed (hkeys m hm)]
    simp only [canonicalJson, SafeNumbers, sorted, Json.Dialect.print, Option.map_eq_some_iff, htext]
    constructor
    · rintro ⟨texts, htexts, rfl⟩
      obtain ⟨hsafe, rfl⟩ := (hmembers texts hs).mp htexts
      exact ⟨hsafe, rfl⟩
    · rintro ⟨hsafe, rfl⟩
      exact ⟨_, (hmembers _ hs).mpr ⟨hsafe, rfl⟩, rfl⟩

lemma canonicalItems_iff : ∀ (vs : List JsValue) (texts : List Units), Json.AllItems WellFormed vs →
    (canonicalItems vs = some texts ↔ SafeItems vs ∧ texts = (sortedItems vs).map jsJson.print)
  | [], texts, _ => by
    rw [canonicalItems, Option.some.injEq, eq_comm]
    exact (and_iff_right trivial).symm
  | v :: vs, texts, hs => by
    have hv := canonicalJson_iff v
    have hvs := canonicalItems_iff vs
    simp only [canonicalItems, Option.bind_eq_bind, Option.bind_eq_some_iff, Option.some.injEq, SafeItems]
    constructor
    · rintro ⟨text, htext, texts', htexts, rfl⟩
      obtain ⟨hsafe, rfl⟩ := (hv text hs.1).mp htext
      obtain ⟨hrest, rfl⟩ := (hvs texts' hs.2).mp htexts
      exact ⟨⟨hsafe, hrest⟩, rfl⟩
    · rintro ⟨⟨hsafe, hrest⟩, rfl⟩
      exact ⟨_, (hv _ hs.1).mpr ⟨hsafe, rfl⟩, _, (hvs _ hs.2).mpr ⟨hrest, rfl⟩, rfl⟩

lemma canonicalMembers_iff : ∀ (ms : List (Units × JsValue)) (texts : List (Units × Units)),
    Json.AllFields WellFormed ms → (canonicalMembers ms = some texts ↔
      SafeFields ms ∧ texts = (sortedFields ms).map fun m => (m.1, jsJson.print m.2))
  | [], texts, _ => by
    rw [canonicalMembers, Option.some.injEq, eq_comm]
    exact (and_iff_right trivial).symm
  | (key, v) :: ms, texts, hs => by
    have hv := canonicalJson_iff v
    have hms := canonicalMembers_iff ms
    simp only [canonicalMembers, Option.bind_eq_bind, Option.bind_eq_some_iff, Option.some.injEq, SafeFields]
    constructor
    · rintro ⟨text, htext, texts', htexts, rfl⟩
      obtain ⟨hsafe, rfl⟩ := (hv text hs.2.1).mp htext
      obtain ⟨hrest, rfl⟩ := (hms texts' hs.2.2).mp htexts
      exact ⟨⟨hsafe, hrest⟩, rfl⟩
    · rintro ⟨⟨hsafe, hrest⟩, rfl⟩
      exact ⟨_, (hv _ hs.2.1).mpr ⟨hsafe, rfl⟩, _, (hms _ hs.2.2).mpr ⟨hrest, rfl⟩, rfl⟩

end

lemma jsJson_over : jsJson.Over utf16Encoding := ⟨rfl, rfl⟩

lemma rapidJson_over : rapidJson.Over utf8Encoding := ⟨rfl, rfl⟩

lemma jsJson_readable (s : Units) : jsJson.Readable s := by
  induction s with
  | nil => exact .nil
  | cons u s ih =>
    by_cases hu : jsJson.code u < 128
    · exact .ascii u s hu ih
    · refine .plain [u] s (List.cons_ne_nil u []) ?_ (fun _ => rfl) ih
      intro w hw
      obtain rfl := List.mem_singleton.mp hw
      exact not_lt.mp hu

lemma ownMembers_of_nodup {members : List (Units × JsValue)} (h : (members.map Prod.fst).Nodup) :
    ownMembers members = members := by
  have hfold : ∀ before : List (Units × JsValue), ((before ++ members).map Prod.fst).Nodup →
      members.foldl setMember before = before ++ members := by
    clear h
    induction members with
    | nil => simp
    | cons m members ih =>
      intro before h
      have hnew : m.1 ∉ before.map Prod.fst := by
        rw [List.map_append, List.map_cons] at h
        exact fun hm => List.disjoint_of_nodup_append h hm List.mem_cons_self
      rw [List.foldl_cons, setMember, if_neg hnew, ih _ (by simpa using h)]
      simp
  exact hfold [] h

def unitsOf (bytes : Bytes) : Units := ((decodeUtf8 bytes).map utf16).getD []

def unitsValue (v : JsonValue) : JsValue := v.map unitsOf

def bytesValue (v : JsValue) : JsonValue := (sorted v).map unitsUtf8

lemma unitsOf_utf8 (cs : List Char) : unitsOf (utf8 cs) = utf16 cs := by
  rw [unitsOf, decodeUtf8_eq_some.mpr rfl]
  rfl

lemma unitsValue_map (c : Json.Value (List Char)) : unitsValue (c.map utf8) = c.map utf16 := by
  rw [unitsValue, Json.Value.map_map, funext (f := unitsOf ∘ utf8) unitsOf_utf8]

lemma map_unitsUtf8 (c : Json.Value (List Char)) : (c.map utf16).map unitsUtf8 = c.map utf8 := by
  rw [Json.Value.map_map, funext (f := unitsUtf8 ∘ utf16) unitsUtf8_utf16]

lemma utf8_chars {v : JsonValue} (h : v.All IsUtf8) : ∃ c : Json.Value (List Char), c.map utf8 = v :=
  Json.Value.All.preimage (fun _ ⟨cs, hs⟩ => ⟨cs, hs.symm⟩) v h

lemma utf16_chars {v : JsValue} (h : v.All WellFormed) : ∃ c : Json.Value (List Char), c.map utf16 = v :=
  Json.Value.All.preimage (fun _ hs => (wellFormed_iff.mp hs).imp fun _ he => he.symm) v h

lemma ascending_sorted {ms : List (List Char × Json.Value (List Char))}
    (h : Ascending ((Json.mapFields utf8 ms).map Prod.fst)) :
    sortMembers (Json.mapFields utf16 ms) = Json.mapFields utf16 ms ∧
      ((Json.mapFields utf16 ms).map Prod.fst).Nodup := by
  have hpairs : (Json.mapFields utf16 ms).Pairwise fun a b => unitsUtf8 a.1 < unitsUtf8 b.1 := by
    rw [Json.mapFields_eq, Ascending, List.map_map, List.pairwise_map] at h
    rw [Json.mapFields_eq, List.pairwise_map]
    refine h.imp fun hab => ?_
    rw [unitsUtf8_utf16, unitsUtf8_utf16]
    exact hab
  constructor
  · exact (hpairs.imp fun hab => List.le_of_lt hab).insertionSort_eq
  · rw [List.Nodup, List.pairwise_map]
    refine hpairs.imp fun {a b} hab (he : a.1 = b.1) => ?_
    rw [he] at hab
    exact List.lt_irrefl _ hab

mutual

lemma canonical_units : ∀ c : Json.Value (List Char), Canonical (c.map utf8) →
    sorted (c.map utf16) = c.map utf16 ∧ SafeNumbers (c.map utf16) ∧ jsJson.Printable (c.map utf16)
  | .null, _ => ⟨rfl, trivial, trivial⟩
  | .bool _, _ => ⟨rfl, trivial, trivial⟩
  | .string _, _ => ⟨rfl, trivial, jsJson_readable _⟩
  | .number .real, h => h.elim
  | .number (.integer n), h => by
    have hn : -maximumSafeInteger ≤ n ∧ n ≤ maximumSafeInteger := h
    refine ⟨rfl, hn, ?_⟩
    simpa [Json.Value.map, Json.Dialect.Printable, jsJson] using hn
  | .array items, h => by
    obtain ⟨hsorted, hsafe, hprintable⟩ := canonical_unitsItems items h
    refine ⟨?_, hsafe, hprintable⟩
    rw [Json.Value.map, sorted, hsorted]
  | .object members, h => by
    obtain ⟨hsorted, hsafe, hprintable⟩ := canonical_unitsFields members h.2
    obtain ⟨horder, hnodup⟩ := ascending_sorted h.1
    refine ⟨?_, hsafe, ownMembers_of_nodup hnodup, hprintable⟩
    rw [Json.Value.map, sorted, hsorted, horder]

lemma canonical_unitsItems : ∀ vs : List (Json.Value (List Char)),
    CanonicalItems (Json.mapItems utf8 vs) → sortedItems (Json.mapItems utf16 vs) = Json.mapItems utf16 vs ∧
      SafeItems (Json.mapItems utf16 vs) ∧ jsJson.PrintableItems (Json.mapItems utf16 vs)
  | [], _ => ⟨rfl, trivial, trivial⟩
  | v :: vs, h => by
    obtain ⟨hsorted, hsafe, hprintable⟩ := canonical_units v h.1
    obtain ⟨hsorteds, hsafes, hprintables⟩ := canonical_unitsItems vs h.2
    exact ⟨congrArg₂ List.cons hsorted hsorteds, ⟨hsafe, hsafes⟩, ⟨hprintable, hprintables⟩⟩

lemma canonical_unitsFields : ∀ ms : List (List Char × Json.Value (List Char)),
    CanonicalMembers (Json.mapFields utf8 ms) →
      sortedFields (Json.mapFields utf16 ms) = Json.mapFields utf16 ms ∧
        SafeFields (Json.mapFields utf16 ms) ∧ jsJson.PrintableFields (Json.mapFields utf16 ms)
  | [], _ => ⟨rfl, trivial, trivial⟩
  | (name, v) :: ms, h => by
    obtain ⟨hsorted, hsafe, hprintable⟩ := canonical_units v h.1
    obtain ⟨hsorteds, hsafes, hprintables⟩ := canonical_unitsFields ms h.2
    refine ⟨?_, ⟨hsafe, hsafes⟩, ⟨jsJson_readable _, hprintable, hprintables⟩⟩
    rw [Json.mapFields, sortedFields, hsorted, hsorteds]

end

/-- The canonical text of a value in the tool is the verifier's text of it. -/
lemma canonicalJson_text {v : JsValue} {t : Units} {cs : List Char} (hv : v.All WellFormed)
    (ht : canonicalJson v = some t) (hcs : utf16 cs = t) : utf8 cs = rapidJson.print (bytesValue v) := by
  obtain ⟨-, rfl⟩ := (canonicalJson_iff v t hv).mp ht
  obtain ⟨c, hc⟩ := utf16_chars (all_sorted v hv)
  have hprint : jsJson.print (c.map utf16) = utf16 (Json.Dialect.characters.print c) := jsJson_over.print c
  rw [← hc, hprint] at hcs
  rw [utf16_injective hcs, bytesValue, ← hc, map_unitsUtf8]
  exact (rapidJson_over.print c).symm

lemma canonical_read {v : JsonValue} (hc : Canonical v) (hv : v.All IsUtf8) :
    ∃ cs, rapidJson.print v = utf8 cs ∧ jsJson.parse (utf16 cs) = some (unitsValue v) ∧
      canonicalJson (unitsValue v) = some (utf16 cs) := by
  obtain ⟨c, rfl⟩ := utf8_chars hv
  obtain ⟨hsorted, hsafe, hprintable⟩ := canonical_units c hc
  have hprint : jsJson.print (c.map utf16) = utf16 (Json.Dialect.characters.print c) := jsJson_over.print c
  rw [unitsValue_map]
  refine ⟨Json.Dialect.characters.print c, rapidJson_over.print c, ?_, ?_⟩
  · rw [← hprint]
    exact Json.Dialect.parse_print hprintable
  · refine (canonicalJson_iff _ _ ?_).mpr ⟨hsafe, by rw [hsorted, hprint]⟩
    exact Json.Value.all_map utf16 (fun cs => wellFormed_iff.mpr ⟨cs, rfl⟩) c

lemma bytesValue_unitsValue {v : JsonValue} (hc : Canonical v) (hv : v.All IsUtf8) :
    bytesValue (unitsValue v) = v := by
  obtain ⟨c, rfl⟩ := utf8_chars hv
  rw [unitsValue_map, bytesValue, (canonical_units c hc).1, map_unitsUtf8]

end Lvapp

end LvglPlatform

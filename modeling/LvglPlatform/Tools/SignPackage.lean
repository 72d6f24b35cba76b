import LvglPlatform.Tools.ManifestRules

namespace LvglPlatform

open Foundation

namespace Lvapp

/-- `keyId.toString('hex')`. -/
def hexString (keyId : Bytes) : Units := (hexText keyId).map fun byte => UInt16.ofNat byte.toNat

/-- The manifest under the signing key; the package keeps the place of the manifest it had. -/
def signedManifest (manifest : JsValue) (manifestSize : ℕ) (keyId : Bytes) : Option Bytes := do
  let manifest ← validateManifest (setProperty manifest "signingKeyId" (.string (hexString keyId))) false
  let manifestBytes := unitsUtf8 (← canonicalJson manifest)
  if manifestBytes.length ≠ manifestSize then none else some manifestBytes

lemma codePoints_append {s t : Units} (h : ∀ u ∈ t.head?, isLow u = false) :
    codePoints (s ++ t) = codePoints s ++ codePoints t := by
  induction s using codePoints.induct with
  | case1 => rfl
  | case2 u =>
    cases t with
    | nil => rfl
    | cons v t =>
      have hv : isLow v = false := h v rfl
      simp [codePoints, hv]
  | case3 u v s hpair ih =>
    rw [List.cons_append, List.cons_append, codePoints, if_pos hpair, ih, codePoints, if_pos hpair]
    rfl
  | case4 u v s hpair ih =>
    rw [List.cons_append, List.cons_append, codePoints, if_neg hpair, ← List.cons_append, ih, codePoints,
      if_neg hpair]
    rfl

lemma unitsUtf8_append {s t : Units} (h : ∀ u ∈ t.head?, isLow u = false) :
    unitsUtf8 (s ++ t) = unitsUtf8 s ++ unitsUtf8 t := by
  rw [unitsUtf8, codePoints_append h, List.flatMap_append]
  rfl

lemma hexText_chars (keyId : Bytes) : ∃ cs : List Char, utf8 cs = hexText keyId ∧ utf16 cs = hexString keyId ∧
    ∀ c ∈ cs, 48 ≤ c.toNat ∧ c.toNat < 128 ∧ c.toNat ≠ 92 := by
  have hhex : ∀ byte ∈ hexText keyId, 48 ≤ byte.toNat ∧ byte.toNat < 128 ∧ byte.toNat ≠ 92 := by
    intro byte hbyte
    obtain ⟨b, -, hbyte⟩ := List.mem_flatMap.mp hbyte
    have hdigit : ∀ n < 16, 48 ≤ (hexDigit n).toNat ∧ (hexDigit n).toNat < 128 ∧ (hexDigit n).toNat ≠ 92 := by
      decide
    have hb := b.toNat_lt
    simp only [hexByte, List.mem_cons, List.not_mem_nil, or_false] at hbyte
    rcases hbyte with rfl | rfl
    · exact hdigit _ (by omega)
    · exact hdigit _ (by omega)
  have hchar : ∀ byte ∈ hexText keyId, (Char.ofNat byte.toNat).toNat = byte.toNat := fun byte hbyte =>
    Encoding.toNat_ofNat_ascii (hhex byte hbyte).2.1
  have hascii : ∀ c ∈ (hexText keyId).map fun byte => Char.ofNat byte.toNat,
      48 ≤ c.toNat ∧ c.toNat < 128 ∧ c.toNat ≠ 92 := by
    refine List.forall_mem_map.mpr fun byte hbyte => ?_
    rw [hchar byte hbyte]
    exact hhex byte hbyte
  refine ⟨_, ?_, ?_, hascii⟩
  · refine (utf8Encoding.encode_of_ascii fun c hc => (hascii c hc).2.1).trans ?_
    rw [List.map_map]
    refine (List.map_congr_left fun byte hbyte => ?_).trans (List.map_id _)
    change UInt8.ofNat (Char.ofNat byte.toNat).toNat = byte
    rw [hchar byte hbyte, UInt8.ofNat_toNat]
  · refine (utf16Encoding.encode_of_ascii fun c hc => (hascii c hc).2.1).trans ?_
    rw [List.map_map]
    refine List.map_congr_left fun byte hbyte => ?_
    change UInt16.ofNat (Char.ofNat byte.toNat).toNat = UInt16.ofNat byte.toNat
    rw [hchar byte hbyte]

lemma stringify_hexString (keyId : Bytes) :
    stringify (hexString keyId) = jsJson.unit 34 :: (hexString keyId ++ [jsJson.unit 34]) := by
  obtain ⟨cs, -, hunits, hcs⟩ := hexText_chars keyId
  have hspell : cs.flatMap Json.Dialect.characters.spell = cs := by
    refine (List.flatMap_congr fun c hc => ?_).trans (List.flatMap_singleton' cs)
    obtain ⟨hlow, hhigh, hne⟩ := hcs c hc
    have hcode : Json.Dialect.characters.code c = c.toNat := rfl
    rw [Json.Dialect.spell_other, if_neg] <;> rw [hcode]
    · omega
    · simp only [List.mem_cons, List.not_mem_nil, or_false]
      omega
  have hquote : jsJson.quote (utf16 cs) = utf16 (Json.Dialect.characters.quote cs) := jsJson_over.quote cs
  rw [stringify_of_wellFormed (wellFormed_iff.mpr ⟨cs, hunits.symm⟩), ← hunits, hquote,
    Json.Dialect.quote, hspell, utf16_cons, utf16_append]
  rfl

lemma unitsUtf8_hexString (keyId : Bytes) : unitsUtf8 (hexString keyId) = hexText keyId := by
  obtain ⟨cs, hbytes, hunits, -⟩ := hexText_chars keyId
  rw [← hunits, unitsUtf8_utf16, hbytes]

lemma intercalate_place {α : Type} (separator : List α) (left right : List (List α)) :
    ∃ before after, ∀ part, separator.intercalate (left ++ part :: right) = before ++ part ++ after := by
  induction left with
  | nil =>
    cases right with
    | nil => exact ⟨[], [], fun part => by simp⟩
    | cons next right =>
      refine ⟨[], separator ++ separator.intercalate (next :: right), fun part => ?_⟩
      rw [List.nil_append, List.intercalate_cons_of_ne_nil (by simp)]
      simp
  | cons first left ih =>
    obtain ⟨before, after, hplace⟩ := ih
    refine ⟨first ++ separator ++ before, after, fun part => ?_⟩
    rw [List.cons_append, List.intercalate_cons_of_ne_nil (by simp), hplace]
    simp

lemma map_place {β : Type} {left right : List (Units × β)} {key : Units} {v w : β}
    (h : ((left ++ (key, v) :: right).map Prod.fst).Nodup) :
    (left ++ (key, v) :: right).map (fun m => (m.1, if m.1 = key then w else m.2)) =
      left ++ (key, w) :: right := by
  rw [List.map_append, List.map_cons] at h
  obtain ⟨-, hright, hdisjoint⟩ := List.nodup_append.mp h
  have hleft : ∀ m ∈ left, m.1 ≠ key := fun m hm =>
    hdisjoint m.1 (List.mem_map_of_mem hm) key List.mem_cons_self
  have hrest : ∀ m ∈ right, m.1 ≠ key := fun m hm he =>
    (List.nodup_cons.mp hright).1 (List.mem_map.mpr ⟨m, hm, he⟩)
  rw [List.map_append, List.map_cons, if_pos rfl]
  refine congrArg₂ _ ((List.map_congr_left fun m hm => ?_).trans (List.map_id _)) (congrArg _
    ((List.map_congr_left fun m hm => ?_).trans (List.map_id _)))
  · rw [if_neg (hleft m hm)]
    rfl
  · rw [if_neg (hrest m hm)]
    rfl

lemma canonicalMembers_names {ms : List (Units × JsValue)} {texts : List (Units × Units)}
    (h : canonicalMembers ms = some texts) : texts.map Prod.fst = ms.map Prod.fst := by
  induction ms generalizing texts with
  | nil =>
    obtain rfl := Option.some.inj h
    rfl
  | cons m ms ih =>
    obtain ⟨text, -, h⟩ := Option.bind_eq_some_iff.mp h
    obtain ⟨rest, hrest, h⟩ := Option.bind_eq_some_iff.mp h
    obtain rfl := Option.some.inj h
    rw [List.map_cons, List.map_cons, ih hrest]

lemma canonicalMembers_set {ms : List (Units × JsValue)} {texts : List (Units × Units)} {key t : Units}
    {v : JsValue} (h : canonicalMembers ms = some texts) (hv : canonicalJson v = some t) :
    canonicalMembers (ms.map fun m => (m.1, if m.1 = key then v else m.2)) =
      some (texts.map fun m => (m.1, if m.1 = key then t else m.2)) := by
  induction ms generalizing texts with
  | nil =>
    obtain rfl := Option.some.inj h
    rfl
  | cons m ms ih =>
    obtain ⟨text, htext, h⟩ := Option.bind_eq_some_iff.mp h
    obtain ⟨rest, hrest, h⟩ := Option.bind_eq_some_iff.mp h
    obtain rfl := Option.some.inj h
    have hhead : canonicalJson (if m.1 = key then v else m.2) = some (if m.1 = key then t else text) := by
      split
      · exact hv
      · exact htext
    rw [List.map_cons, canonicalMembers, hhead, ih hrest]
    rfl

/-- The canonical texts of an object under different strings for one member differ in one place. -/
lemma canonicalJson_place {members : List (Units × JsValue)} {key text : Units}
    (hnames : (members.map Prod.fst).Nodup) (hkey : key ∈ members.map Prod.fst)
    (htext : canonicalJson (.object members) = some text) : ∃ before after, ∀ s,
      canonicalJson (.object (setMember members (key, .string s))) =
        some (before ++ (stringify key ++ jsJson.unit 58 :: stringify s) ++ after) := by
  obtain ⟨texts, htexts, -⟩ := Option.map_eq_some_iff.mp htext
  have hsorted : key ∈ (sortMembers texts).map Prod.fst := by
    rw [← canonicalMembers_names htexts] at hkey
    obtain ⟨m, hm, he⟩ := List.mem_map.mp hkey
    exact List.mem_map.mpr ⟨m, mem_sortMembers.mpr hm, he⟩
  have hperm : (sortMembers texts).Perm texts := List.perm_insertionSort NotAfter texts
  have hdistinct : ((sortMembers texts).map Prod.fst).Nodup := by
    rw [(hperm.map Prod.fst).nodup_iff, canonicalMembers_names htexts]
    exact hnames
  obtain ⟨m, hm, rfl⟩ := List.mem_map.mp hsorted
  obtain ⟨left, right, hsplit⟩ := List.append_of_mem hm
  rw [hsplit] at hdistinct
  let written := fun n : Units × Units => stringify n.1 ++ jsJson.unit 58 :: n.2
  obtain ⟨before, after, hplace⟩ :=
    intercalate_place [jsJson.unit 44] (left.map written) (right.map written)
  refine ⟨jsJson.unit 123 :: before, after ++ [jsJson.unit 125], fun s => ?_⟩
  have hset : (sortMembers texts).map (fun n => (n.1, if n.1 = m.1 then stringify s else n.2)) =
      left ++ (m.1, stringify s) :: right := by
    rw [hsplit]
    exact map_place hdistinct
  have hmembers : canonicalMembers (members.map fun n => (n.1, if n.1 = m.1 then .string s else n.2)) =
      some (texts.map fun n => (n.1, if n.1 = m.1 then stringify s else n.2)) :=
    canonicalMembers_set htexts rfl
  rw [setMember_of_mem hkey, canonicalJson, hmembers, Option.map_some, sortMembers_map, hset, List.map_append,
    List.map_cons]
  change some (_ :: ([jsJson.unit 44].intercalate (left.map written ++ written (m.1, stringify s) ::
    right.map written) ++ _)) = _
  rw [hplace]
  simp [written]

def beforeKey (name : Units) : Bytes := unitsUtf8 (stringify name ++ [jsJson.unit 58, jsJson.unit 34])

/-- The bytes of an object's text under different keys differ in the digits of the key. -/
lemma canonicalJson_keys {members : List (Units × JsValue)} {name text : Units}
    (hnames : (members.map Prod.fst).Nodup) (hname : name ∈ members.map Prod.fst)
    (htext : canonicalJson (.object members) = some text) : ∃ before after, ∀ keyId, ∃ keyText,
      canonicalJson (.object (setMember members (name, .string (hexString keyId)))) = some keyText ∧
        unitsUtf8 keyText = before ++ (beforeKey name ++ hexText keyId) ++ after := by
  obtain ⟨before, after, hplace⟩ := canonicalJson_place hnames hname htext
  refine ⟨unitsUtf8 before, unitsUtf8 (jsJson.unit 34 :: after), fun keyId => ⟨_, hplace (hexString keyId), ?_⟩⟩
  have hquote : ∀ rest : Units, ∀ u ∈ (jsJson.unit 34 :: rest).head?, isLow u = false := by
    rintro rest u ⟨⟩
    rfl
  have hdigits : ∀ u ∈ (hexString keyId ++ jsJson.unit 34 :: after).head?, isLow u = false := by
    rw [hexString]
    cases hexText keyId with
    | nil => exact hquote after
    | cons byte rest =>
      rintro u ⟨⟩
      have hbyte := byte.toNat_lt
      have hunit : (UInt16.ofNat byte.toNat).toNat = byte.toNat := toNat_ofNat_unit (by omega)
      simp only [isLow, hunit, Bool.and_eq_false_iff, decide_eq_false_iff_not]
      omega
  have hsplit : before ++ (stringify name ++ jsJson.unit 58 :: stringify (hexString keyId)) ++ after =
      before ++ ((stringify name ++ [jsJson.unit 58, jsJson.unit 34]) ++
        (hexString keyId ++ jsJson.unit 34 :: after)) := by
    rw [stringify_hexString]
    simp
  rw [hsplit, unitsUtf8_append, unitsUtf8_append hdigits, unitsUtf8_append (hquote after),
    unitsUtf8_hexString, beforeKey]
  · simp
  · exact hquote _

lemma decodeText_marked {region : Bytes} {s : Units} (h : decodeText region = some s)
    (hmark : utf8 [byteOrderMark] <+: region) : region = utf8 [byteOrderMark] ++ unitsUtf8 s := by
  obtain ⟨cs, hcs, rfl⟩ := Option.map_eq_some_iff.mp h
  obtain rfl := decodeUtf8_eq_some.mp hcs
  obtain ⟨rest, hrest⟩ := hmark
  cases cs with
  | nil => exact absurd (congrArg List.length hrest) (by simp [utf8Char_ne_nil])
  | cons c cs =>
    have hnext := congrArg utf8Next hrest
    rw [utf8_cons, utf8_cons, utf8_nil, List.append_nil, utf8Next_append, utf8Next_append] at hnext
    obtain rfl := (Prod.mk.inj (Option.some.inj hnext)).1
    rw [unitsUtf8_utf16]
    simp [utf8]

lemma decodeText_unmarked {region : Bytes} {s : Units} (h : decodeText region = some s)
    (hmark : ¬ utf8 [byteOrderMark] <+: region) : region = unitsUtf8 s := by
  obtain ⟨cs, hcs, -⟩ := Option.map_eq_some_iff.mp h
  obtain rfl := decodeUtf8_eq_some.mp hcs
  rw [decodeText_utf8 hmark] at h
  rw [← Option.some.inj h, unitsUtf8_utf16]

lemma zeroKeyId_eq : units zeroKeyId = hexString (List.replicate 16 0) := by decide

lemma hexString_zero {keyId : Bytes} (h : keyId ≠ List.replicate 16 0) : hexString keyId ≠ units zeroKeyId := by
  rw [zeroKeyId_eq]
  intro he
  have hhex := congrArg unitsUtf8 he
  rw [unitsUtf8_hexString, unitsUtf8_hexString] at hhex
  exact h (hexText_injective hhex)

lemma hexString_pattern {keyId : Bytes} (h : keyId.length = 16) :
    hexPattern 32 (some (.string (hexString keyId))) = true := by
  have hhex := hexText_lowercaseHex keyId (n := 32) (by omega)
  simp only [lowercaseHex, Bool.and_eq_true, decide_eq_true_eq, List.all_eq_true] at hhex
  obtain ⟨hlength, hdigits⟩ := hhex
  simp only [hexPattern, Option.any_some, asText, hexString, List.length_map, hlength, decide_true,
    Bool.true_and, List.all_map, List.all_eq_true]
  intro byte hbyte
  have hdigit := hdigits byte hbyte
  have hunit : (UInt16.ofNat byte.toNat).toNat = byte.toNat :=
    toNat_ofNat_unit (by have := byte.toNat_lt; omega)
  simp only [isLowerHex, isDigit, Bool.or_eq_true, Bool.and_eq_true, decide_eq_true_eq, UInt8.le_iff_toNat_le] at hdigit
  simp only [Function.comp_apply, isHexUnit, isDigitUnit, hunit, Bool.or_eq_true, Bool.and_eq_true,
    decide_eq_true_eq]
  exact hdigit

lemma signedManifest_production {members : List (Units × JsValue)} {capabilities : List JsValue}
    {validated : JsValue} {keyId : Bytes} (hnames : (members.map Prod.fst).Nodup)
    (hcapabilities : property (.object members) "capabilities" = some (.array capabilities))
    (hvalid : validateManifest (.object members) true = some validated) (hkey : keyId.length = 16)
    (hnonzero : keyId ≠ List.replicate 16 0) (manifestSize : ℕ) :
    signedManifest validated manifestSize keyId =
      (canonicalJson (.object (setMember members (units "signingKeyId", .string (hexString keyId))))).bind
        fun text => if (unitsUtf8 text).length ≠ manifestSize then none else some (unitsUtf8 text) := by
  obtain ⟨rfl, -, hproduction⟩ := validateManifest_production hnames hcapabilities hvalid
    (hexString_pattern hkey) (hexString_zero hnonzero)
  rw [signedManifest, setProperty, hproduction]
  rfl

def underKey (manifest : VerifiedPackageManifest) (keyId : Bytes) : VerifiedPackageManifest :=
  { manifest with signingKeyId := hexText keyId }

lemma hexText_utf8 (keyId : Bytes) : IsUtf8 (hexText keyId) := by
  obtain ⟨cs, hcs, -⟩ := hexText_chars keyId
  exact ⟨cs, hcs.symm⟩

lemma hexText_textOk {keyId : Bytes} (h : keyId.length = 16) : TextOk (hexText keyId) 32 where
  size := by rw [hexText_length, h]
  nonempty := by
    rw [← List.length_pos_iff, hexText_length, h]
    omega
  nul := by
    obtain ⟨cs, hcs, -, hchars⟩ := hexText_chars keyId
    rw [← hcs]
    intro hzero
    change 0 ∈ utf8Encoding.encode cs at hzero
    rw [utf8Encoding.encode_of_ascii fun c hc => (hchars c hc).2.1] at hzero
    obtain ⟨c, hc, he⟩ := List.mem_map.mp hzero
    have hcode : (UInt8.ofNat c.toNat).toNat = 0 := congrArg UInt8.toNat he
    have hlow := hchars c hc
    rw [toNat_ofNat_byte (by omega)] at hcode
    omega

lemma manifestFields_split (manifest : VerifiedPackageManifest) (id : Bytes) :
    manifestFields { manifest with signingKeyId := id } = (manifestFields manifest).take 12 ++
      (text "signingKeyId", .string id) :: (manifestFields manifest).drop 13 := rfl

lemma underKey_valid {manifest : VerifiedPackageManifest} {keyId : Bytes} (h : ValidManifest manifest)
    (hkey : keyId.length = 16) : ValidManifest (underKey manifest keyId) := by
  have htexts := h.texts
  refine { h with signingKeyId := hexText_textOk hkey, texts := ?_ }
  simp only [checkTexts, Bool.and_eq_true] at htexts ⊢
  exact ⟨htexts.1, hexText_lowercaseHex keyId (by omega)⟩

lemma underKey_utf8 {manifest : VerifiedPackageManifest} {keyId : Bytes} (h : Utf8Manifest manifest) :
    Utf8Manifest (underKey manifest keyId) := by
  have hfields := Json.allFields_iff.mp (show Json.AllFields IsUtf8 (manifestFields manifest) from h)
  change Json.AllFields IsUtf8 (manifestFields (underKey manifest keyId))
  rw [underKey, manifestFields_split, Json.allFields_iff]
  intro m hm
  rcases List.mem_append.mp hm with hm | hm
  · exact hfields m (List.mem_of_mem_take hm)
  rcases List.mem_cons.mp hm with rfl | hm
  · exact ⟨⟨"signingKeyId".toList, rfl⟩, hexText_utf8 keyId⟩
  · exact hfields m (List.mem_of_mem_drop hm)

def toolMembers (manifest : VerifiedPackageManifest) : List (Units × JsValue) :=
  Json.mapFields unitsOf (manifestFields manifest)

lemma toolMembers_capabilities (manifest : VerifiedPackageManifest) :
    (units "capabilities", .array (Json.mapItems unitsOf (manifest.capabilities.map .string))) ∈
      toolMembers manifest :=
  List.mem_cons_of_mem _ (List.mem_cons.mpr (Or.inl (congrArg₂ Prod.mk (unitsOf_utf8 _).symm rfl)))

/-- Signing a development package puts the key in the place of the 32 zeros in its manifest and changes
nothing else of it, unless the manifest stands behind a byte order mark: then it fails. -/
theorem signing_replaces_key_id {region keyId : Bytes} {manifest validated : JsValue}
    {capabilities : List JsValue} (hread : parseManifest region = some manifest)
    (hvalid : validateManifest manifest true = some validated)
    (hcapabilities : property manifest "capabilities" = some (.array capabilities))
    (hkey : keyId.length = 16) (hnonzero : keyId ≠ List.replicate 16 0) :
    (utf8 [byteOrderMark] <+: region → signedManifest validated region.length keyId = none) ∧
      (¬ utf8 [byteOrderMark] <+: region → ∃ before after,
        region = before ++ (text "\"signingKeyId\":\"" ++ hexText (List.replicate 16 0)) ++ after ∧
        signedManifest validated region.length keyId =
          some (before ++ (text "\"signingKeyId\":\"" ++ hexText keyId) ++ after)) := by
  have hrules := validateManifest_rules hvalid
  obtain ⟨members, rfl⟩ := manifestOk_object hrules
  obtain ⟨manifestText, hdecode, hparse, htext⟩ := parseManifest_some hread
  have hnames := (jsJson_keeps.parse hparse).1
  obtain ⟨-, hname, -⟩ := validateManifest_production hnames hcapabilities hvalid (hexString_pattern hkey)
    (hexString_zero hnonzero)
  obtain ⟨before, after, hkeys⟩ := canonicalJson_keys hnames hname htext
  -- the manifest as it was read has the zeros in that place
  obtain ⟨zeroText, hzeros, hbytes⟩ := hkeys (List.replicate 16 0)
  rw [← zeroKeyId_eq, setMember_same hnames (zeroKey_named hrules), htext] at hzeros
  obtain rfl := Option.some.inj hzeros
  obtain ⟨signedText, hsigned, hsignedBytes⟩ := hkeys keyId
  have hsign := signedManifest_production hnames hcapabilities hvalid hkey hnonzero region.length
  rw [hsigned, Option.bind_some] at hsign
  have hsize : (unitsUtf8 signedText).length = (unitsUtf8 manifestText).length := by
    rw [hbytes, hsignedBytes]
    simp [hkey]
  have hbefore : beforeKey (units "signingKeyId") = text "\"signingKeyId\":\"" := by decide
  constructor
  · intro hmark
    have hmarkSize : (utf8 [byteOrderMark]).length = 3 := by decide
    rw [hsign, if_pos]
    rw [decodeText_marked hdecode hmark, List.length_append, hmarkSize, hsize]
    omega
  · intro hmark
    have hregion := decodeText_unmarked hdecode hmark
    rw [← hbefore]
    refine ⟨before, after, hregion.trans hbytes, ?_⟩
    rw [hsign, hregion, if_neg (not_not.mpr hsize), hsignedBytes]

lemma sampleManifest_sound : ValidManifest sampleManifest ∧ Utf8Manifest sampleManifest := by
  have hdone : verifyPackage samplePackage.bytes sampleCrypto [sampleKey] false =
      .done samplePackage.verification := by decide +kernel
  obtain ⟨package, -, hsound, -, hresult⟩ := verifyPackage_done.mp hdone
  have hplaced : ∀ p : Package, manifestValue p.verification.manifest = manifestValue p.manifest := fun p => by
    simp only [manifestValue, manifestFields, Package.verification, placed_values]
  have hvalue : manifestValue sampleManifest = manifestValue package.manifest := by
    rw [← hplaced package, ← hresult, hplaced]
    rfl
  have hparse : LvglPlatform.parseManifest (manifestValue sampleManifest) = some sampleManifest := by
    decide
  rw [hvalue, (LvglPlatform.parseManifest_some (manifestValue_canonical hsound.manifest)).mpr
    ⟨rfl, hsound.manifest⟩] at hparse
  rw [← Option.some.inj hparse]
  exact ⟨hsound.manifest, hsound.utf8⟩

def developmentManifest : VerifiedPackageManifest := underKey sampleManifest (List.replicate 16 0)

theorem development_manifest_signed : ∃ before after,
    manifestText developmentManifest =
        before ++ (text "\"signingKeyId\":\"" ++ hexText (List.replicate 16 0)) ++ after ∧
      signedManifest (.object (toolMembers developmentManifest)) (manifestText developmentManifest).length
          (List.replicate 16 7) =
        some (before ++ (text "\"signingKeyId\":\"" ++ hexText (List.replicate 16 7)) ++ after) := by
  have hread : parseManifest (manifestText developmentManifest) =
      some (.object (toolMembers developmentManifest)) :=
    parseManifest_print (manifestValue_canonical (underKey_valid sampleManifest_sound.1 rfl))
      (underKey_utf8 sampleManifest_sound.2)
  have hnames : ((toolMembers developmentManifest).map Prod.fst).Nodup := by decide
  have hcapabilities := property_of_mem hnames (toolMembers_capabilities developmentManifest)
  have hvalid : validateManifest (.object (toolMembers developmentManifest)) true =
      some (.object (toolMembers developmentManifest)) := by
    rw [validateManifest_array hnames hcapabilities, if_pos]
    decide
  exact (signing_replaces_key_id hread hvalid hcapabilities rfl (by decide)).2 (unmarked_object _)

end Lvapp

end LvglPlatform

import LvglPlatform.Package.Manifest

namespace LvglPlatform

open Foundation

def natValue (n : ℕ) : JsonValue := .number (.integer n)

def fileValue (file : VerifiedPackageFile) : JsonValue := .object [
  (text "mode", natValue file.mode),
  (text "path", .string file.path),
  (text "role", .string file.role),
  (text "sha256", .string (hexText file.sha256.toList)),
  (text "size", natValue file.size)]

def limitsValue (limits : ApplicationResourceLimits) : JsonValue := .object [
  (text "cpuSeconds", natValue limits.cpuSeconds),
  (text "dataMiB", natValue limits.dataMib),
  (text "maxFiles", natValue limits.maximumFiles),
  (text "memoryMiB", natValue limits.memoryMib)]

def manifestFields (manifest : VerifiedPackageManifest) : List (Bytes × JsonValue) := [
  (text "appId", .string manifest.appId),
  (text "capabilities", .array (manifest.capabilities.map .string)),
  (text "entry", .string manifest.entry),
  (text "files", .array (manifest.files.map fileValue)),
  (text "formatVersion", natValue 1),
  (text "limits", limitsValue manifest.limits),
  (text "minPlatformVersion", .string manifest.minimumPlatformVersion),
  (text "name", .string manifest.name),
  (text "onlinePolicy", .object [(text "mode", .string (text "offline-v1"))]),
  (text "releaseCounter", natValue manifest.releaseCounter.toNat),
  (text "sdkAbi", .string manifest.sdkAbi),
  (text "securityEpoch", natValue manifest.securityEpoch.toNat),
  (text "signingKeyId", .string manifest.signingKeyId),
  (text "supportedMachines", .array (manifest.supportedMachines.map .string)),
  (text "supportedProfiles", .array (manifest.supportedProfiles.map .string)),
  (text "version", .string manifest.version)]

def manifestValue (manifest : VerifiedPackageManifest) : JsonValue :=
  .object (manifestFields manifest)

structure TextOk (s : Bytes) (maximum : ℕ) : Prop where
  size : s.length ≤ maximum
  nonempty : s ≠ []
  nul : 0 ∉ s

lemma stringValue_some {value : Option JsonValue} {maximum : ℕ} {s : Bytes} :
    stringValue value maximum = some s ↔ value = some (.string s) ∧ TextOk s maximum := by
  constructor
  · intro h
    unfold stringValue at h
    split at h
    · split at h <;> rename_i ht
      · simp at h
      · obtain rfl := Option.some.inj h
        simp only [not_or, not_lt] at ht
        exact ⟨rfl, ht.1, fun he => ht.2.1 (by simp [he]), ht.2.2⟩
    · simp at h
  · rintro ⟨rfl, hsize, hne, hnul⟩
    have hpos := List.length_pos_iff.mpr hne
    rw [stringValue, if_neg]
    simp only [not_or, not_lt]
    exact ⟨hsize, by omega, hnul⟩

lemma uintValue_some {value : Option JsonValue} {n : ℕ} :
    uintValue value = some n ↔ value = some (natValue n) ∧ n < 2 ^ 32 := by
  constructor
  · intro h
    unfold uintValue at h
    split at h
    · split at h <;> rename_i k hk
      · obtain rfl := Option.some.inj h
        refine ⟨?_, by omega⟩
        rw [natValue, Int.toNat_of_nonneg hk.1]
      · simp at h
    · simp at h
  · rintro ⟨rfl, hn⟩
    have hb : (0 : ℤ) ≤ n ∧ (n : ℤ) < 2 ^ 32 := by omega
    rw [natValue, uintValue, if_pos hb, Int.toNat_natCast]

lemma uint64Value_some {value : Option JsonValue} {n : ℕ} :
    uint64Value value = some n ↔ value = some (natValue n) ∧ n < 2 ^ 64 := by
  constructor
  · intro h
    unfold uint64Value at h
    split at h
    · split at h <;> rename_i k hk
      · obtain rfl := Option.some.inj h
        refine ⟨?_, by omega⟩
        rw [natValue, Int.toNat_of_nonneg hk.1]
      · simp at h
    · simp at h
  · rintro ⟨rfl, hn⟩
    have hb : (0 : ℤ) ≤ n ∧ (n : ℤ) < 2 ^ 64 := by omega
    rw [natValue, uint64Value, if_pos hb, Int.toNat_natCast]

lemma ascending_eq {names others : List Bytes} (hn : Ascending names) (ho : Ascending others)
    (hlen : others.length = names.length) (hsub : ∀ n ∈ names, n ∈ others) : others = names := by
  have hnodup : names.Nodup := by
    refine List.Pairwise.imp ?_ hn
    rintro a _ hlt rfl
    exact List.lt_irrefl _ hlt
  have hsubperm : names.Subperm others := List.subperm_of_subset hnodup hsub
  have hperm : names.Perm others := hsubperm.perm_of_length_le hlen.le
  exact (hperm.eq_of_pairwise (fun a b _ _ hab hba => absurd hba (List.lt_asymm hab)) hn ho).symm

lemma find_head {name : Bytes} {v : JsonValue} {ms : List (Bytes × JsonValue)} :
    member (.object ((name, v) :: ms)) name = some v := by
  simp [member]

lemma find_tail {name other : Bytes} {v : JsonValue} {ms : List (Bytes × JsonValue)}
    (h : other ≠ name) : member (.object ((other, v) :: ms)) name = member (.object ms) name := by
  simp [member, h]

lemma members_found {ms : List (Bytes × JsonValue)} (h : Ascending (ms.map Prod.fst)) :
    ms = (ms.map Prod.fst).map fun n => (n, (member (.object ms) n).getD .null) := by
  induction ms with
  | nil => rfl
  | cons m ms ih =>
    obtain ⟨name, v⟩ := m
    obtain ⟨hlt, hrest⟩ := List.pairwise_cons.mp h
    have htail := ih hrest
    rw [List.map_cons, List.map_cons, find_head]
    congr 1
    conv_lhs => rw [htail]
    refine List.map_congr_left fun n hn => ?_
    rw [find_tail]
    rintro rfl
    exact List.lt_irrefl _ (hlt _ hn)

lemma exact_members {value : JsonValue} {names : List Bytes}
    (h : hasExactMembers value names = true) (hn : Ascending names)
    (hc : Canonical value) :
    ∃ ms, value = .object ms ∧ ms = names.map fun n => (n, (member value n).getD .null) := by
  unfold hasExactMembers at h
  split at h
  · rename_i ms
    simp only [Bool.and_eq_true, decide_eq_true_eq, List.all_eq_true] at h
    obtain ⟨hlen, hall⟩ := h
    refine ⟨ms, rfl, ?_⟩
    have hnames : ms.map Prod.fst = names := by
      refine ascending_eq hn hc.1 (by simpa using hlen) ?_
      intro n hmem
      obtain ⟨v, hv⟩ := Option.isSome_iff_exists.mp (hall n hmem)
      simp only [member, Option.map_eq_some_iff] at hv
      obtain ⟨m, hm, -⟩ := hv
      have heq := List.find?_some hm
      simp only [decide_eq_true_eq] at heq
      exact List.mem_map.mpr ⟨m, List.mem_of_find?_eq_some hm, heq⟩
    conv_lhs => rw [members_found hc.1, hnames]
  · simp at h

lemma member_canonical {ms : List (Bytes × JsonValue)} {name : Bytes} {v : JsonValue}
    (h : member (.object ms) name = some v) (hc : CanonicalMembers ms) : Canonical v := by
  induction ms with
  | nil => simp [member] at h
  | cons m ms ih =>
    obtain ⟨other, w⟩ := m
    by_cases he : other = name
    · subst he
      obtain rfl := Option.some.inj (find_head.symm.trans h)
      exact hc.1
    · exact ih (find_tail he ▸ h) hc.2

lemma items_canonical {items : List JsonValue} (h : CanonicalItems items) :
    ∀ v ∈ items, Canonical v := by
  induction items with
  | nil => simp
  | cons v items ih =>
    intro w hw
    rcases List.mem_cons.mp hw with rfl | hw
    · exact h.1
    · exact ih h.2 w hw

structure SortedTexts (strings : List Bytes) : Prop where
  texts : ∀ s ∈ strings, TextOk s 255
  ascending : Ascending strings
  size : strings.length ≤ 64

lemma sortedStrings_some {items : List JsonValue} {previous : Bytes} {strings : List Bytes} :
    sortedStrings previous items = some strings ↔
      items = strings.map .string ∧ (∀ s ∈ strings, TextOk s 255) ∧ Ascending strings ∧
        (previous ≠ [] → ∀ s ∈ strings.head?, previous < s) := by
  induction items generalizing previous strings with
  | nil =>
    simp only [sortedStrings, Option.some.injEq]
    constructor
    · rintro rfl
      simp [Ascending]
    · rintro ⟨h, -⟩
      exact (List.map_eq_nil_iff.mp h.symm).symm
  | cons item items ih =>
    simp only [sortedStrings, Option.bind_eq_bind, Option.bind_eq_some_iff]
    constructor
    · rintro ⟨current, hcurrent, h⟩
      obtain ⟨he, htext⟩ := stringValue_some.mp hcurrent
      obtain rfl := Option.some.inj he
      split at h <;> rename_i hlt
      · simp at h
      obtain ⟨rest, hrest, h⟩ := Option.bind_eq_some_iff.mp h
      obtain rfl := Option.some.inj h
      obtain ⟨rfl, htexts, hasc, hhead⟩ := ih.mp hrest
      refine ⟨rfl, ?_, ascending_cons.mpr ⟨hhead htext.nonempty, hasc⟩, ?_⟩
      · intro s hs
        rcases List.mem_cons.mp hs with rfl | hs
        · exact htext
        · exact htexts s hs
      · rintro hne s ⟨⟩
        exact not_not.mp fun hn => hlt ⟨hne, hn⟩
    · rintro ⟨hitems, htexts, hasc, hhead⟩
      cases strings with
      | nil => simp at hitems
      | cons current rest =>
        obtain ⟨rfl, hrest⟩ := List.cons.inj hitems
        have htext := htexts current List.mem_cons_self
        obtain ⟨hnext, hasc'⟩ := ascending_cons.mp hasc
        refine ⟨current, stringValue_some.mpr ⟨rfl, htext⟩, ?_⟩
        rw [if_neg (by rintro ⟨hne, hlt⟩; exact hlt (hhead hne current rfl))]
        refine Option.bind_eq_some_iff.mpr ⟨rest, ih.mpr ⟨hrest, ?_, hasc', fun _ => hnext⟩, rfl⟩
        exact fun s hs => htexts s (List.mem_cons_of_mem _ hs)

lemma sortedStringArray_some {value : Option JsonValue} {allowEmpty : Bool} {strings : List Bytes} :
    sortedStringArray value allowEmpty = some strings ↔
      value = some (.array (strings.map .string)) ∧ SortedTexts strings ∧
        (allowEmpty = false → strings ≠ []) := by
  constructor
  · intro h
    unfold sortedStringArray at h
    split at h
    · split at h <;> rename_i items hsize
      · simp at h
      obtain ⟨rfl, htexts, hasc, -⟩ := sortedStrings_some.mp h
      simp only [Bool.or_eq_true, Bool.and_eq_true, Bool.not_eq_true', List.isEmpty_iff,
        List.map_eq_nil_iff, decide_eq_true_eq, List.length_map, not_or, not_and, not_lt] at hsize
      exact ⟨rfl, ⟨htexts, hasc, hsize.2⟩, hsize.1⟩
    · simp at h
  · rintro ⟨rfl, ⟨htexts, hasc, hsize⟩, hne⟩
    rw [sortedStringArray, if_neg]
    · exact sortedStrings_some.mpr ⟨rfl, htexts, hasc, fun h => absurd rfl h⟩
    · simp only [Bool.or_eq_true, Bool.and_eq_true, Bool.not_eq_true', List.isEmpty_iff,
        List.map_eq_nil_iff, decide_eq_true_eq, List.length_map, not_or, not_and, not_lt]
      exact ⟨hne, hsize⟩

structure ValidFile (file : VerifiedPackageFile) : Prop where
  mode : file.mode = 0o644 ∨ file.mode = 0o755
  size : file.size ≤ maximumPackageSize
  pathText : TextOk file.path maximumPathSize
  path : validPath file.path = true
  role : file.role = text "asset" ∨ file.role = text "executable"

/-- Whether the entry is an executable file of the list; a later file of its path decides. -/
def entryFound (entry : Bytes) : Bool → List VerifiedPackageFile → Bool
  | found, [] => found
  | found, file :: files =>
    entryFound entry
      (if file.path = entry then file.role = text "executable" && file.mode = 0o755 else found) files

lemma nibble_hexDigit {n : ℕ} (h : n < 16) : (nibble (hexDigit n)).toNat = n := by
  have hall : ∀ k : Fin 16, (nibble (hexDigit k)).toNat = k := by decide
  exact hall ⟨n, h⟩

lemma hexPairs_hexText (bytes : Bytes) : hexPairs (hexText bytes) = bytes := by
  induction bytes with
  | nil => rfl
  | cons b bs ih =>
    have hb := b.toNat_lt
    have hdiv : 16 * (b.toNat / 16) + b.toNat % 16 = b.toNat := Nat.div_add_mod _ 16
    change hexPairs (hexDigit (b.toNat / 16) :: hexDigit (b.toNat % 16) :: hexText bs) = b :: bs
    rw [hexPairs, ih, nibble_hexDigit (by omega), nibble_hexDigit (by omega), hdiv, UInt8.ofNat_toNat]

lemma hexDigit_nibble {c : UInt8} (h : isLowerHex c = true) :
    (nibble c).toNat < 16 ∧ hexDigit (nibble c).toNat = c := by
  have hall : ∀ n : Fin 256, isLowerHex (UInt8.ofNat n) = true →
      (nibble (UInt8.ofNat n)).toNat < 16 ∧
        hexDigit (nibble (UInt8.ofNat n)).toNat = UInt8.ofNat n := by decide +kernel
  have hc := hall ⟨c.toNat, c.toNat_lt⟩
  rw [UInt8.ofNat_toNat] at hc
  exact hc h

lemma hexText_hexPairs {value : Bytes} {n : ℕ} (hlen : value.length = 2 * n)
    (h : ∀ c ∈ value, isLowerHex c = true) :
    hexText (hexPairs value) = value ∧ (hexPairs value).length = n := by
  induction n generalizing value with
  | zero =>
    obtain rfl := List.length_eq_zero_iff.mp hlen
    exact ⟨rfl, rfl⟩
  | succ n ih =>
    match value with
    | [] => simp at hlen
    | [_] =>
      rw [List.length_singleton] at hlen
      omega
    | high :: low :: rest =>
      obtain ⟨hh, hhd⟩ := hexDigit_nibble (h high (by simp))
      obtain ⟨hl, hld⟩ := hexDigit_nibble (h low (by simp))
      rw [List.length_cons, List.length_cons] at hlen
      obtain ⟨hrest, hrestLen⟩ := @ih rest (by omega) fun c hc => h c (by simp [hc])
      have hbyte : (UInt8.ofNat (16 * (nibble high).toNat + (nibble low).toNat)).toNat =
          16 * (nibble high).toNat + (nibble low).toNat := by
        rw [toNat_ofNat_byte (by omega)]
      refine ⟨?_, by rw [hexPairs, List.length_cons, hrestLen]⟩
      change hexByte _ ++ hexText (hexPairs rest) = _
      rw [hrest, hexByte, hbyte, show (16 * (nibble high).toNat + (nibble low).toNat) / 16 =
        (nibble high).toNat by omega, show (16 * (nibble high).toNat + (nibble low).toNat) % 16 =
        (nibble low).toNat by omega, hhd, hld]
      rfl

lemma decodeHex32_some {value : Bytes} {digest : Sha256Digest} :
    decodeHex32 value = some digest ↔ value = hexText digest.toList := by
  constructor
  · intro h
    unfold decodeHex32 at h
    split at h <;> rename_i hhex
    · simp at h
    · obtain rfl := Option.some.inj h
      simp only [Bool.not_eq_true', Bool.not_eq_false, lowercaseHex, Bool.and_eq_true,
        decide_eq_true_eq, List.all_eq_true] at hhex
      obtain ⟨htext, hlen⟩ := hexText_hexPairs (n := 32) hhex.1 hhex.2
      rw [byteArr_toList (by omega), slice_all hlen.le, htext]
  · rintro rfl
    have hlen : (hexText digest.toList).length = 64 := by simp
    rw [decodeHex32, if_neg (by simp [hexText_lowercaseHex]), hexPairs_hexText]
    congr 1
    exact byteArr_of_slice (slice_all (by simp))

lemma fileValue_members (file : VerifiedPackageFile) :
    hasExactMembers (fileValue file) fileMembers = true := rfl

lemma parseFile_some {item : JsonValue} {file : VerifiedPackageFile} (hc : Canonical item) :
    parseFile item = some file ↔
      item = fileValue file ∧ ValidFile file ∧ file.payloadOffset = 0 := by
  constructor
  · intro h
    unfold parseFile at h
    split at h <;> rename_i hexact
    · simp at h
    rw [Bool.not_eq_true', Bool.not_eq_false] at hexact
    simp only [Option.bind_eq_bind, Option.bind_eq_some_iff] at h
    obtain ⟨mode, hmode, size, hsize, path, hpath, role, hrole, hash, hhash, digest, hdigest, h⟩ := h
    split at h <;> rename_i hchecks
    · simp at h
    obtain rfl := Option.some.inj h
    obtain ⟨hmode, -⟩ := uintValue_some.mp hmode
    obtain ⟨hsize, -⟩ := uint64Value_some.mp hsize
    obtain ⟨hpath, hpathText⟩ := stringValue_some.mp hpath
    obtain ⟨hrole, -⟩ := stringValue_some.mp hrole
    obtain ⟨hhash, -⟩ := stringValue_some.mp hhash
    obtain rfl := decodeHex32_some.mp hdigest
    obtain ⟨ms, hms, hfields⟩ := exact_members hexact (by decide) hc
    refine ⟨?_, ?_, rfl⟩
    · rw [hms, hfields]
      simp [fileMembers, hmode, hsize, hpath, hrole, hhash, fileValue]
    · simp only [not_or, not_and, not_not, not_lt, Bool.not_eq_true', Bool.not_eq_false] at hchecks
      obtain ⟨hm, hs, hp, hr⟩ := hchecks
      exact ⟨or_iff_not_imp_left.mpr hm, hs, hpathText, hp, or_iff_not_imp_left.mpr hr⟩
  · rintro ⟨rfl, ⟨hmode, hsize, hpathText, hpath, hrole⟩, hoffset⟩
    have hrole' : TextOk file.role 16 := by
      rcases hrole with h | h <;> rw [h] <;> exact ⟨by decide, by decide, by decide⟩
    have hhash : TextOk (hexText file.sha256.toList) 64 := by
      have hlen : (hexText file.sha256.toList).length = 64 := by simp
      refine ⟨hlen.le, fun he => by simp [he] at hlen, fun hmem => ?_⟩
      have hhex := hexText_lowercaseHex file.sha256.toList (n := 64) (by simp)
      simp only [lowercaseHex, Bool.and_eq_true, List.all_eq_true] at hhex
      exact absurd (hhex.2 0 hmem) (by decide)
    have hmode' : file.mode < 2 ^ 32 := by rcases hmode with h | h <;> omega
    have hsize' : file.size < 2 ^ 64 := by
      simp only [maximumPackageSize] at hsize
      omega
    rw [parseFile, if_neg (by rw [fileValue_members]; simp)]
    simp only [Option.bind_eq_bind, Option.bind_eq_some_iff]
    refine ⟨file.mode, uintValue_some.mpr ⟨rfl, hmode'⟩, file.size,
      uint64Value_some.mpr ⟨rfl, hsize'⟩, file.path, stringValue_some.mpr ⟨rfl, hpathText⟩,
      file.role, stringValue_some.mpr ⟨rfl, hrole'⟩, _, stringValue_some.mpr ⟨rfl, hhash⟩,
      file.sha256, decodeHex32_some.mpr rfl, ?_⟩
    rw [if_neg]
    · rw [← hoffset]
    · simp only [not_or, not_and, not_not, not_lt, hpath, Bool.not_true, Bool.false_eq_true,
        not_false_eq_true, true_and]
      exact ⟨fun h => hmode.resolve_left h, hsize, fun h => hrole.resolve_left h⟩

structure ValidFiles (files : List VerifiedPackageFile) : Prop where
  valid : ∀ file ∈ files, ValidFile file ∧ file.payloadOffset = 0
  ascending : Ascending (files.map VerifiedPackageFile.path)

lemma parseFileList_some {entry : Bytes} {items : List JsonValue} (hc : ∀ v ∈ items, Canonical v)
    {previous : Bytes} {found found' : Bool} {files : List VerifiedPackageFile} :
    parseFileList entry previous found items = some (files, found') ↔
      items = files.map fileValue ∧ ValidFiles files ∧ found' = entryFound entry found files ∧
        (previous ≠ [] → ∀ path ∈ (files.map VerifiedPackageFile.path).head?, previous < path) := by
  induction items generalizing previous found files with
  | nil =>
    simp only [parseFileList, Option.some.injEq, Prod.mk.injEq]
    constructor
    · rintro ⟨rfl, rfl⟩
      exact ⟨rfl, ⟨by simp, by simp [Ascending]⟩, rfl, by simp⟩
    · rintro ⟨h, -, hfound, -⟩
      obtain rfl := List.map_eq_nil_iff.mp h.symm
      exact ⟨rfl, hfound.symm⟩
  | cons item items ih =>
    have hitem := hc item List.mem_cons_self
    have ih := @ih fun v hv => hc v (List.mem_cons_of_mem _ hv)
    simp only [parseFileList, Option.bind_eq_bind, Option.bind_eq_some_iff]
    constructor
    · rintro ⟨file, hfile, h⟩
      obtain ⟨rfl, hvalid, hoffset⟩ := (parseFile_some hitem).mp hfile
      split at h <;> rename_i hlt
      · simp at h
      obtain ⟨⟨rest, last⟩, hrest, h⟩ := Option.bind_eq_some_iff.mp h
      obtain ⟨rfl, rfl⟩ := Prod.mk.inj (Option.some.inj h)
      obtain ⟨rfl, hfiles, rfl, hhead⟩ := ih.mp hrest
      refine ⟨rfl, ⟨?_, ?_⟩, rfl, ?_⟩
      · intro f hf
        rcases List.mem_cons.mp hf with rfl | hf
        · exact ⟨hvalid, hoffset⟩
        · exact hfiles.valid f hf
      · rw [List.map_cons]
        exact ascending_cons.mpr ⟨hhead hvalid.pathText.nonempty, hfiles.ascending⟩
      · rintro hne path ⟨⟩
        exact not_not.mp fun hn => hlt ⟨hne, hn⟩
    · rintro ⟨hitems, hfiles, hfound, hhead⟩
      cases files with
      | nil => simp at hitems
      | cons file rest =>
        obtain ⟨rfl, hrest⟩ := List.cons.inj hitems
        obtain ⟨hvalid, hoffset⟩ := hfiles.valid file List.mem_cons_self
        obtain ⟨hnext, hasc⟩ := ascending_cons.mp (by simpa using hfiles.ascending)
        refine ⟨file, (parseFile_some hitem).mpr ⟨rfl, hvalid, hoffset⟩, ?_⟩
        rw [if_neg (by rintro ⟨hne, hlt⟩; exact hlt (hhead hne file.path rfl))]
        refine Option.bind_eq_some_iff.mpr ⟨(rest, found'), ih.mpr ⟨hrest, ⟨?_, hasc⟩, ?_, ?_⟩, rfl⟩
        · exact fun f hf => hfiles.valid f (List.mem_cons_of_mem _ hf)
        · rw [hfound]
          rfl
        · exact fun _ => hnext

/-- What a manifest must satisfy to be read; the limits of its texts are those of the document. -/
structure ValidManifest (manifest : VerifiedPackageManifest) : Prop where
  counter : manifest.releaseCounter.toNat ≠ 0
  counter_le : manifest.releaseCounter.toNat ≤ 9007199254740991
  appId : TextOk manifest.appId 96
  name : TextOk manifest.name 64
  version : TextOk manifest.version 32
  entry : TextOk manifest.entry maximumPathSize
  sdkAbi : TextOk manifest.sdkAbi 16
  platform : TextOk manifest.minimumPlatformVersion 32
  signingKeyId : TextOk manifest.signingKeyId 32
  texts : checkTexts manifest = true
  profiles : SortedTexts manifest.supportedProfiles ∧ manifest.supportedProfiles ≠ []
  machines : SortedTexts manifest.supportedMachines ∧ manifest.supportedMachines ≠ []
  capabilities : SortedTexts manifest.capabilities
  allowed : manifest.capabilities.all allowedCapabilities.contains = true
  limits : checkLimits manifest.limits = true
  files : ValidFiles manifest.files
  files_size : manifest.files ≠ [] ∧ manifest.files.length ≤ maximumFiles
  entry_found : entryFound manifest.entry false manifest.files = true

lemma limits_lt {limits : ApplicationResourceLimits} (h : checkLimits limits = true) :
    limits.memoryMib < 2 ^ 32 ∧ limits.cpuSeconds < 2 ^ 32 ∧ limits.maximumFiles < 2 ^ 32 ∧
      limits.dataMib < 2 ^ 32 := by
  have hfiles : maximumFiles = 256 := rfl
  simp only [checkLimits, Bool.and_eq_true, decide_eq_true_eq] at h
  omega

section

variable {document : JsonValue} {base manifest : VerifiedPackageManifest}

def HasText (document : JsonValue) (name : String) (s : Bytes) (maximum : ℕ) : Prop :=
  member document (text name) = some (.string s) ∧ TextOk s maximum

structure ReadsTexts (document : JsonValue) (manifest : VerifiedPackageManifest) : Prop where
  appId : HasText document "appId" manifest.appId 96
  name : HasText document "name" manifest.name 64
  version : HasText document "version" manifest.version 32
  entry : HasText document "entry" manifest.entry maximumPathSize
  sdkAbi : HasText document "sdkAbi" manifest.sdkAbi 16
  platform : HasText document "minPlatformVersion" manifest.minimumPlatformVersion 32
  signingKeyId : HasText document "signingKeyId" manifest.signingKeyId 32
  checks : checkTexts manifest = true

lemma parseTexts_some : parseTexts document base = some manifest ↔
    ReadsTexts document manifest ∧ manifest = { base with
      appId := manifest.appId, name := manifest.name, version := manifest.version,
      entry := manifest.entry, sdkAbi := manifest.sdkAbi,
      minimumPlatformVersion := manifest.minimumPlatformVersion,
      signingKeyId := manifest.signingKeyId } := by
  simp only [parseTexts, Option.bind_eq_bind, Option.bind_eq_some_iff, stringValue_some]
  constructor
  · rintro ⟨app, happ, name, hname, version, hversion, entry, hentry, abi, habi, platform, hplatform,
      key, hkey, h⟩
    split at h <;> rename_i hchecks
    · simp at h
    obtain rfl := Option.some.inj h
    rw [Bool.not_eq_true', Bool.not_eq_false] at hchecks
    exact ⟨⟨happ, hname, hversion, hentry, habi, hplatform, hkey, hchecks⟩, rfl⟩
  · rintro ⟨⟨happ, hname, hversion, hentry, habi, hplatform, hkey, hchecks⟩, heq⟩
    refine ⟨_, happ, _, hname, _, hversion, _, hentry, _, habi, _, hplatform, _, hkey, ?_⟩
    rw [← heq, if_neg (by simp [hchecks])]

lemma parseNumbers_some {counter : UInt64} {epoch : UInt32} :
    parseNumbers document = some (counter, epoch) ↔
      member document (text "formatVersion") = some (natValue 1) ∧
        member document (text "releaseCounter") = some (natValue counter.toNat) ∧
        member document (text "securityEpoch") = some (natValue epoch.toNat) ∧
        counter.toNat ≠ 0 ∧ counter.toNat ≤ 9007199254740991 := by
  simp only [parseNumbers, Option.bind_eq_bind, Option.bind_eq_some_iff, uintValue_some,
    uint64Value_some]
  constructor
  · rintro ⟨format, ⟨hformat, -⟩, n, ⟨hn, hnlt⟩, k, ⟨hk, hklt⟩, h⟩
    split at h <;> rename_i hchecks
    · simp at h
    simp only [not_or, not_not, not_lt] at hchecks
    obtain ⟨rfl, hzero, hle⟩ := hchecks
    obtain ⟨rfl, rfl⟩ := Prod.mk.inj (Option.some.inj h)
    rw [UInt64.toNat_ofNat', Nat.mod_eq_of_lt hnlt, UInt32.toNat_ofNat', Nat.mod_eq_of_lt hklt]
    exact ⟨hformat, hn, hk, hzero, hle⟩
  · rintro ⟨hformat, hcounter, hepoch, hzero, hle⟩
    refine ⟨1, ⟨hformat, by omega⟩, _, ⟨hcounter, counter.toNat_lt⟩, _, ⟨hepoch, epoch.toNat_lt⟩, ?_⟩
    rw [if_neg (by omega), UInt64.ofNat_toNat, UInt32.ofNat_toNat]

structure ReadsLists (document : JsonValue) (manifest : VerifiedPackageManifest) : Prop where
  profiles : member document (text "supportedProfiles") =
    some (.array (manifest.supportedProfiles.map .string))
  machines : member document (text "supportedMachines") =
    some (.array (manifest.supportedMachines.map .string))
  capabilities : member document (text "capabilities") =
    some (.array (manifest.capabilities.map .string))
  profiles_sorted : SortedTexts manifest.supportedProfiles ∧ manifest.supportedProfiles ≠ []
  machines_sorted : SortedTexts manifest.supportedMachines ∧ manifest.supportedMachines ≠ []
  capabilities_sorted : SortedTexts manifest.capabilities
  allowed : manifest.capabilities.all allowedCapabilities.contains = true

lemma parseLists_some : parseLists document base = some manifest ↔
    ReadsLists document manifest ∧ manifest = { base with
      supportedProfiles := manifest.supportedProfiles,
      supportedMachines := manifest.supportedMachines,
      capabilities := manifest.capabilities } := by
  simp only [parseLists, Option.bind_eq_bind, Option.bind_eq_some_iff]
  constructor
  · rintro ⟨profiles, hprofiles, machines, hmachines, capabilities, hcapabilities, h⟩
    obtain ⟨hp, hps, hpn⟩ := sortedStringArray_some.mp hprofiles
    obtain ⟨hm, hms, hmn⟩ := sortedStringArray_some.mp hmachines
    obtain ⟨hcap, hcs, -⟩ := sortedStringArray_some.mp hcapabilities
    split at h <;> rename_i hallowed
    · simp at h
    obtain rfl := Option.some.inj h
    rw [Bool.not_eq_true', Bool.not_eq_false] at hallowed
    exact ⟨⟨hp, hm, hcap, ⟨hps, hpn rfl⟩, ⟨hms, hmn rfl⟩, hcs, hallowed⟩, rfl⟩
  · rintro ⟨⟨hp, hm, hcap, ⟨hps, hpn⟩, ⟨hms, hmn⟩, hcs, hallowed⟩, heq⟩
    refine ⟨_, sortedStringArray_some.mpr ⟨hp, hps, fun _ => hpn⟩,
      _, sortedStringArray_some.mpr ⟨hm, hms, fun _ => hmn⟩,
      _, sortedStringArray_some.mpr ⟨hcap, hcs, fun h => by cases h⟩, ?_⟩
    rw [if_neg (by rw [hallowed]; simp), ← heq]

lemma parseLimits_some (hc : Canonical document) : parseLimits document base = some manifest ↔
    (member document (text "limits") = some (limitsValue manifest.limits) ∧
      member document (text "onlinePolicy") =
        some (.object [(text "mode", .string (text "offline-v1"))]) ∧
      checkLimits manifest.limits = true) ∧ manifest = { base with limits := manifest.limits } := by
  simp only [parseLimits, Option.bind_eq_bind, Option.bind_eq_some_iff]
  constructor
  · rintro ⟨limits, hlimits, online, honline, h⟩
    split at h <;> rename_i hexact
    · simp at h
    simp only [Bool.or_eq_true, Bool.not_eq_true', not_or, Bool.not_eq_false] at hexact
    simp only [Option.bind_eq_some_iff, uintValue_some, stringValue_some] at h
    obtain ⟨memory, ⟨hmemory, -⟩, cpu, ⟨hcpu, -⟩, files, ⟨hfiles, -⟩, data, ⟨hdata, -⟩, mode,
      ⟨hmode, -⟩, h⟩ := h
    split at h <;> rename_i hchecks
    · simp at h
    obtain rfl := Option.some.inj h
    simp only [Bool.or_eq_true, Bool.not_eq_true', decide_eq_true_eq, not_or, Bool.not_eq_false,
      not_not] at hchecks
    obtain ⟨hlimitsOk, rfl⟩ := hchecks
    obtain ⟨fields, rfl⟩ : ∃ fields, document = .object fields := by
      cases document with
      | object fields => exact ⟨fields, rfl⟩
      | _ => cases hlimits
    obtain ⟨ms, hms, hfields⟩ := exact_members hexact.1 (by decide)
      (member_canonical hlimits hc.2)
    obtain ⟨os, hos, hfieldsOnline⟩ := exact_members hexact.2 (by decide)
      (member_canonical honline hc.2)
    refine ⟨⟨?_, ?_, hlimitsOk⟩, rfl⟩
    · rw [hlimits, hms, hfields]
      simp [limitMembers, hmemory, hcpu, hfiles, hdata, limitsValue]
    · rw [honline, hos, hfieldsOnline]
      simp [hmode]
  · rintro ⟨⟨hlimits, honline, hchecks⟩, heq⟩
    obtain ⟨hmemory, hcpu, hfiles, hdata⟩ := limits_lt hchecks
    refine ⟨_, hlimits, _, honline, ?_⟩
    have hexact : hasExactMembers (limitsValue manifest.limits) limitMembers = true := rfl
    have hexactOnline : hasExactMembers (.object [(text "mode", .string (text "offline-v1"))])
        [text "mode"] = true := rfl
    rw [if_neg (by rw [hexact, hexactOnline]; simp)]
    simp only [Option.bind_eq_some_iff, uintValue_some, stringValue_some]
    refine ⟨manifest.limits.memoryMib, ⟨rfl, hmemory⟩, manifest.limits.cpuSeconds, ⟨rfl, hcpu⟩,
      manifest.limits.maximumFiles, ⟨rfl, hfiles⟩, manifest.limits.dataMib, ⟨rfl, hdata⟩,
      text "offline-v1", ⟨rfl, by decide, by decide, by decide⟩, ?_⟩
    rw [if_neg (by simp [hchecks]), ← heq]

lemma parseFiles_some (hc : Canonical document) : parseFiles document base = some manifest ↔
    (member document (text "files") = some (.array (manifest.files.map fileValue)) ∧
      ValidFiles manifest.files ∧ manifest.files ≠ [] ∧ manifest.files.length ≤ maximumFiles ∧
      entryFound base.entry false manifest.files = true) ∧
        manifest = { base with files := manifest.files } := by
  constructor
  · intro h
    unfold parseFiles at h
    split at h
    · rename_i items hitems
      obtain ⟨fields, rfl⟩ : ∃ fields, document = .object fields := by
        cases document with
        | object fields => exact ⟨fields, rfl⟩
        | _ => cases hitems
      have hcanonical := items_canonical (member_canonical hitems hc.2)
      split at h <;> rename_i hsize
      · simp at h
      split at h
      · rename_i files hfiles
        obtain rfl := Option.some.inj h
        obtain ⟨rfl, hvalid, hentry, -⟩ := (parseFileList_some hcanonical).mp hfiles
        simp only [List.isEmpty_iff, List.map_eq_nil_iff, List.length_map, not_or, not_lt] at hsize
        exact ⟨⟨hitems, hvalid, hsize.1, hsize.2, hentry.symm⟩, rfl⟩
      · simp at h
    · simp at h
  · rintro ⟨⟨hitems, hvalid, hne, hsize, hentry⟩, heq⟩
    obtain ⟨fields, rfl⟩ : ∃ fields, document = .object fields := by
      cases document with
      | object fields => exact ⟨fields, rfl⟩
      | _ => cases hitems
    have hcanonical := items_canonical (member_canonical hitems hc.2)
    have hparse := (@parseFileList_some base.entry _ hcanonical [] false true manifest.files).mpr
      ⟨rfl, hvalid, hentry.symm, fun h => absurd rfl h⟩
    rw [parseFiles, hitems]
    simp only
    rw [if_neg, hparse]
    · exact congrArg some heq.symm
    · simp only [List.isEmpty_iff, List.map_eq_nil_iff, List.length_map, not_or, not_lt]
      exact ⟨hne, hsize⟩

lemma manifestValue_members (manifest : VerifiedPackageManifest) :
    hasExactMembers (manifestValue manifest) manifestMembers = true := rfl

lemma manifestMembers_ascending : Ascending manifestMembers := by decide

theorem parseManifest_some (hc : Canonical document) :
    parseManifest document = some manifest ↔
      document = manifestValue manifest ∧ ValidManifest manifest := by
  constructor
  · intro h
    unfold parseManifest at h
    split at h <;> rename_i hexact
    · simp at h
    rw [Bool.not_eq_true', Bool.not_eq_false] at hexact
    simp only [Option.bind_eq_bind, Option.bind_eq_some_iff] at h
    obtain ⟨⟨counter, epoch⟩, hnumbers, m1, htexts, m2, hlists, m3, hlimits, hfiles⟩ := h
    obtain ⟨hformat, hcounter, hepoch, hzero, hle⟩ := parseNumbers_some.mp hnumbers
    obtain ⟨ht, h1⟩ := parseTexts_some.mp htexts
    obtain ⟨hl, h2⟩ := parseLists_some.mp hlists
    obtain ⟨⟨hlimitsValue, honline, hlimitsOk⟩, h3⟩ := (parseLimits_some hc).mp hlimits
    obtain ⟨⟨hfilesValue, hvalid, hne, hsize, hentry⟩, h4⟩ := (parseFiles_some hc).mp hfiles
    obtain ⟨ms, hms, hfields⟩ := exact_members hexact manifestMembers_ascending hc
    rw [h1] at h2
    rw [h2] at h3
    rw [h3] at h4 hlimitsOk hlimitsValue hentry
    rw [h2] at hl
    rw [h4]
    obtain ⟨happ, hname, hversion, hentryText, habi, hplatform, hkey, hchecks⟩ := ht
    obtain ⟨hp, hm, hcap, hps, hmsorted, hcs, hallowed⟩ := hl
    constructor
    · rw [hms, hfields]
      simp only [manifestMembers, List.map_cons, List.map_nil, hformat, hcounter, hepoch, happ.1,
        hname.1, hversion.1, hentryText.1, habi.1, hplatform.1, hkey.1, hp, hm, hcap, hlimitsValue,
        honline, hfilesValue, Option.getD_some, manifestValue, manifestFields]
    · exact ⟨hzero, hle, happ.2, hname.2, hversion.2, hentryText.2, habi.2, hplatform.2, hkey.2,
        hchecks, hps, hmsorted, hcs, hallowed, hlimitsOk, hvalid, ⟨hne, hsize⟩, hentry⟩
  · rintro ⟨rfl, hv⟩
    have hnumbers : parseNumbers (manifestValue manifest) =
        some (manifest.releaseCounter, manifest.securityEpoch) :=
      parseNumbers_some.mpr ⟨rfl, rfl, rfl, hv.counter, hv.counter_le⟩
    let read : VerifiedPackageManifest := { manifest with
      supportedProfiles := [], supportedMachines := [], capabilities := [], files := [], limits := {} }
    let listed : VerifiedPackageManifest := { manifest with files := [], limits := {} }
    let limited : VerifiedPackageManifest := { manifest with files := [] }
    have htexts : parseTexts (manifestValue manifest)
        { releaseCounter := manifest.releaseCounter, securityEpoch := manifest.securityEpoch } =
          some read :=
      parseTexts_some.mpr ⟨⟨⟨rfl, hv.appId⟩, ⟨rfl, hv.name⟩, ⟨rfl, hv.version⟩, ⟨rfl, hv.entry⟩,
        ⟨rfl, hv.sdkAbi⟩, ⟨rfl, hv.platform⟩, ⟨rfl, hv.signingKeyId⟩, hv.texts⟩, rfl⟩
    have hlists : parseLists (manifestValue manifest) read = some listed :=
      parseLists_some.mpr ⟨⟨rfl, rfl, rfl, hv.profiles, hv.machines, hv.capabilities, hv.allowed⟩, rfl⟩
    have hlimits : parseLimits (manifestValue manifest) listed = some limited :=
      (parseLimits_some hc).mpr ⟨⟨rfl, rfl, hv.limits⟩, rfl⟩
    have hfiles : parseFiles (manifestValue manifest) limited = some manifest :=
      (parseFiles_some hc).mpr
        ⟨⟨rfl, hv.files, hv.files_size.1, hv.files_size.2, hv.entry_found⟩, rfl⟩
    rw [parseManifest, if_neg (by rw [manifestValue_members]; simp)]
    exact Option.bind_eq_some_iff.mpr ⟨_, hnumbers, Option.bind_eq_some_iff.mpr ⟨_, htexts,
      Option.bind_eq_some_iff.mpr ⟨_, hlists, Option.bind_eq_some_iff.mpr ⟨_, hlimits, hfiles⟩⟩⟩⟩

end

end LvglPlatform

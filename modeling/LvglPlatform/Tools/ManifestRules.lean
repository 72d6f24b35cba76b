import LvglPlatform.Tools.ManifestText

namespace LvglPlatform

open Foundation

namespace Lvapp

/-- `value[key]`; what an object does not have is undefined. -/
def property (value : JsValue) (key : String) : Option JsValue :=
  match value with
  | .object members => (members.find? fun m => m.1 = units key).map Prod.snd
  | _ => none

/-- The sorted names of an object are compared with the sorted names that are expected. -/
def exactKeys (value : JsValue) (keys : List String) : Bool :=
  match value with
  | .object members => (members.map Prod.fst).Perm (keys.map units)
  | _ => false

def safeInteger (value : Option JsValue) (minimum maximum : ℤ) : Bool :=
  match value with
  | some (.number (.integer n)) => minimum ≤ n && n ≤ maximum
  | _ => false

def safeString (value : Option JsValue) (maximum : ℕ) : Option Units :=
  match value with
  | some (.string s) => if s = [] ∨ s.length > maximum ∨ 0 ∈ s then none else some s
  | _ => none

/-- `value === s`. -/
def isUnits (value : Option JsValue) (s : Units) : Bool :=
  match value with
  | some (.string t) => t = s
  | _ => false

def isText (value : Option JsValue) (s : String) : Bool := isUnits value (units s)

def isNumber (value : Option JsValue) (n : ℤ) : Bool :=
  match value with
  | some (.number (.integer m)) => m = n
  | _ => false

def charUnit (c : Char) : UInt16 := UInt16.ofNat c.toNat

def isLowerUnit (u : UInt16) : Bool := 97 ≤ u.toNat && u.toNat ≤ 122

/-- The expression `^[a-z0-9]+(?:[.-][a-z0-9]+)+$`, from a place where a letter must or need not follow. -/
def domainPattern : Bool → Bool → Units → Bool
  | required, separated, [] => !required && separated
  | required, separated, u :: us =>
    if u = charUnit '.' ∨ u = charUnit '-' then !required && domainPattern true true us
    else if isLowerUnit u || isDigitUnit u then domainPattern false separated us
    else false

/-- The expression `^\d+\.\d+\.\d+$`, with the dots so far and whether a digit came after them. -/
def versionPattern : ℕ → Bool → Units → Bool
  | dots, digit, [] => dots = 2 && digit
  | dots, digit, u :: us =>
    if u = charUnit '.' then digit && versionPattern (dots + 1) false us
    else isDigitUnit u && versionPattern dots true us

def isHexUnit (u : UInt16) : Bool := isDigitUnit u || 97 ≤ u.toNat && u.toNat ≤ 102

/-- The text of a value before a pattern of hexadecimal digits; no other value has such a text. -/
def asText : JsValue → Units
  | .string s => s
  | .array [v] => asText v
  | _ => []

/-- `^[0-9a-f]{size}$`. -/
def hexPattern (size : ℕ) (value : Option JsValue) : Bool :=
  value.any fun v => (asText v).length = size && (asText v).all isHexUnit

def badSegment (segment : Units) : Bool :=
  segment = [] || segment = units "." || segment = units ".." || segment.getLast? = some (charUnit '.') ||
    segment.any fun u => u.toNat < 0x20 || u = 0x7f || (units ":*?\"<>|").contains u

def validatePackagePath (value : Option JsValue) : Option Units :=
  match value with
  | some (.string path) =>
    if path = [] ∨ path.length > maximumPathSize ∨ 0 ∈ path ∨
        (unitsUtf8 path).length > maximumPathSize ∨ decodeText (unitsUtf8 path) ≠ some path ∨
        path.head? = some (charUnit '/') ∨ charUnit '\\' ∈ path ∨ path.getLast? = some (charUnit '/') ∨
        [charUnit '/', charUnit '/'] <:+: path ∨ (path.splitOn (charUnit '/')).any badSegment then none
    else some path
  | _ => none

/-- The texts of an array that equals its sorted copy and has nothing twice. -/
def sortedUniqueStrings (value : Option JsValue) : Option (List Units) :=
  match value with
  | some (.array items) =>
    if items = [] ∨ items.length > 64 then none
    else do
      let texts ← items.mapM fun item => safeString (some item) 255
      if texts = texts.insertionSort (fun a b => unitsUtf8 a ≤ unitsUtf8 b) ∧ texts.Nodup then some texts
      else none
  | _ => none

def allowedCapabilities : List Units :=
  [units "audio.output", units "dictionary.lookup", units "haptics", units "microphone",
    units "network", units "scanner", units "storage.private"]

/-- `capabilities.length`, where it is 0. -/
def lengthZero : JsValue → Bool
  | .array items => items.isEmpty
  | .string s => s.isEmpty
  | value => isNumber (property value "length") 0

/-- The capabilities after the check. Anything of length 0 becomes an empty list; what else has no length
that counts as true is not iterable. -/
def readCapabilities (value : JsValue) : Option JsValue :=
  if lengthZero value then some (.array [])
  else do
    let texts ← sortedUniqueStrings (some value)
    if texts.all allowedCapabilities.contains then some value else none

def manifestKeys : List String :=
  ["appId", "capabilities", "entry", "files", "formatVersion", "limits", "minPlatformVersion", "name",
    "onlinePolicy", "releaseCounter", "sdkAbi", "securityEpoch", "signingKeyId", "supportedMachines",
    "supportedProfiles", "version"]

def limitKeys : List String := ["cpuSeconds", "dataMiB", "maxFiles", "memoryMiB"]

def fileKeys : List String := ["mode", "path", "role", "sha256", "size"]

def zeroKeyId : String := "00000000000000000000000000000000"

def textsOk (manifest : JsValue) : Bool :=
  (safeString (property manifest "appId") 96).any (domainPattern true false) &&
    (safeString (property manifest "name") 64).isSome &&
    (safeString (property manifest "version") 32).any (versionPattern 0 false) &&
    (safeString (property manifest "minPlatformVersion") 32).any (versionPattern 0 false) &&
    isText (property manifest "sdkAbi") "1.0" && (validatePackagePath (property manifest "entry")).isSome

def numbersOk (manifest : JsValue) : Bool :=
  isNumber (property manifest "formatVersion") 1 &&
    safeInteger (property manifest "releaseCounter") 1 maximumSafeInteger &&
    safeInteger (property manifest "securityEpoch") 0 0xffffffff

def listsOk (manifest : JsValue) : Bool :=
  (sortedUniqueStrings (property manifest "supportedProfiles")).isSome &&
    (sortedUniqueStrings (property manifest "supportedMachines")).isSome

def limitsOk (limits : JsValue) : Bool :=
  exactKeys limits limitKeys && safeInteger (property limits "memoryMiB") 8 512 &&
    safeInteger (property limits "cpuSeconds") 1 86400 &&
    safeInteger (property limits "maxFiles") 1 maximumFiles &&
    safeInteger (property limits "dataMiB") 1 4096

def policyOk (policy : JsValue) : Bool :=
  exactKeys policy ["mode"] && isText (property policy "mode") "offline-v1"

def keyIdOk (manifest : JsValue) (development : Bool) : Bool :=
  hexPattern 32 (property manifest "signingKeyId") &&
    isText (property manifest "signingKeyId") zeroKeyId = development

def fileOk (file : JsValue) : Bool :=
  exactKeys file fileKeys && safeInteger (property file "size") 0 maximumPackageSize &&
    (isNumber (property file "mode") 0o644 || isNumber (property file "mode") 0o755) &&
    (isText (property file "role") "asset" || isText (property file "role") "executable") &&
    hexPattern 64 (property file "sha256")

def filesOk (entry : Units) : Option Units → Bool → List JsValue → Bool
  | _, hasEntry, [] => hasEntry
  | previous, hasEntry, file :: files =>
    match validatePackagePath (property file "path") with
    | none => false
    | some path =>
      fileOk file && !previous.any (fun p => !decide (unitsUtf8 p < unitsUtf8 path)) &&
        filesOk entry (some path)
          (if path = entry then
            isText (property file "role") "executable" && isNumber (property file "mode") 0o755
          else hasEntry) files

def fileListOk (manifest : JsValue) : Bool :=
  match property manifest "files", property manifest "entry" with
  | some (.array files), some (.string entry) =>
    files ≠ [] && files.length ≤ maximumFiles && filesOk entry none false files
  | _, _ => false

def setProperty (value : JsValue) (key : String) (v : JsValue) : JsValue :=
  match value with
  | .object members => .object (setMember members (units key, v))
  | _ => value

def manifestOk (manifest : JsValue) (development : Bool) : Bool :=
  exactKeys manifest manifestKeys && textsOk manifest && numbersOk manifest && listsOk manifest &&
    (property manifest "limits").any limitsOk && (property manifest "onlinePolicy").any policyOk &&
    keyIdOk manifest development && fileListOk manifest

/-- The manifest after its validation, which puts an empty list in the place of empty capabilities. -/
def validateManifest (manifest : JsValue) (development : Bool) : Option JsValue := do
  let capabilities ← (property manifest "capabilities").bind readCapabilities
  if manifestOk manifest development then some (setProperty manifest "capabilities" capabilities) else none

lemma setMember_of_mem {members : List (Units × JsValue)} {member : Units × JsValue}
    (h : member.1 ∈ members.map Prod.fst) : setMember members member =
      members.map fun m => (m.1, if m.1 = member.1 then member.2 else m.2) := by
  rw [setMember, if_pos h]
  refine List.map_congr_left fun m _ => ?_
  split <;> rename_i he
  · rw [he]
  · rfl

lemma setMember_same {members : List (Units × JsValue)} {member : Units × JsValue}
    (hnames : (members.map Prod.fst).Nodup) (h : member ∈ members) : setMember members member = members := by
  rw [setMember_of_mem (List.mem_map_of_mem h)]
  refine (List.map_congr_left fun m hm => ?_).trans (List.map_id _)
  split <;> rename_i he
  · rw [List.inj_on_of_nodup_map hnames hm h he]
    rfl
  · rfl

lemma property_object {members : List (Units × JsValue)} {key : String} {v : JsValue} :
    property (.object members) key = some v ↔
      ∃ m, (members.find? fun m => m.1 = units key) = some m ∧ m.2 = v := Option.map_eq_some_iff

lemma property_mem {members : List (Units × JsValue)} {key : String} {v : JsValue}
    (h : property (.object members) key = some v) : (units key, v) ∈ members := by
  obtain ⟨m, hfind, rfl⟩ := property_object.mp h
  have hname : m.1 = units key := by simpa using List.find?_some hfind
  rw [← hname]
  exact List.mem_of_find?_eq_some hfind

lemma property_of_mem {members : List (Units × JsValue)} {key : String} {v : JsValue}
    (hnames : (members.map Prod.fst).Nodup) (h : (units key, v) ∈ members) :
    property (.object members) key = some v := by
  rw [property_object]
  cases hfind : members.find? fun m => m.1 = units key with
  | none => exact absurd (List.find?_eq_none.mp hfind _ h) (by simp)
  | some found =>
    have hname : found.1 = units key := by simpa using List.find?_some hfind
    rw [List.inj_on_of_nodup_map hnames (List.mem_of_find?_eq_some hfind) h hname]
    exact ⟨_, rfl, rfl⟩

lemma property_set {members : List (Units × JsValue)} {key other : String} {v : JsValue}
    (hkey : units key ∈ members.map Prod.fst) (hother : units other ≠ units key) :
    property (.object (setMember members (units key, v))) other = property (.object members) other := by
  rw [setMember_of_mem hkey, property, property, List.find?_map]
  change ((members.find? fun m => m.1 = units other).map _).map _ = _
  cases hfind : members.find? fun m => m.1 = units other with
  | none => rfl
  | some m =>
    have hname : m.1 = units other := by simpa using List.find?_some hfind
    simp [hname, hother]

lemma property_set_same {members : List (Units × JsValue)} {key : String} {v : JsValue}
    (hkey : units key ∈ members.map Prod.fst) :
    property (.object (setMember members (units key, v))) key = some v := by
  rw [setMember_of_mem hkey, property, List.find?_map]
  change ((members.find? fun m => m.1 = units key).map _).map _ = _
  cases hfind : members.find? fun m => m.1 = units key with
  | none =>
    obtain ⟨m, hm, he⟩ := List.mem_map.mp hkey
    exact absurd (List.find?_eq_none.mp hfind m hm) (by simpa using he)
  | some m =>
    have hname : m.1 = units key := by simpa using List.find?_some hfind
    simp [hname]

lemma setMember_names {members : List (Units × JsValue)} {member : Units × JsValue}
    (h : member.1 ∈ members.map Prod.fst) :
    (setMember members member).map Prod.fst = members.map Prod.fst := by
  rw [setMember_of_mem h, List.map_map]
  rfl

lemma signingKey_named {members : List (Units × JsValue)} {development : Bool}
    (h : manifestOk (.object members) development = true) :
    units "signingKeyId" ∈ members.map Prod.fst := by
  cases hid : property (.object members) "signingKeyId" with
  | none => simp [manifestOk, keyIdOk, hexPattern, hid] at h
  | some v => exact List.mem_map_of_mem (property_mem hid)

lemma manifestOk_production {members : List (Units × JsValue)} {keyId : Units}
    (h : manifestOk (.object members) true = true)
    (hhex : hexPattern 32 (some (.string keyId)) = true) (hzero : keyId ≠ units zeroKeyId) :
    manifestOk (.object (setMember members (units "signingKeyId", .string keyId))) false = true := by
  have hkey := signingKey_named h
  have hset : ∀ other, units other ≠ units "signingKeyId" →
      property (.object (setMember members (units "signingKeyId", .string keyId))) other =
        property (.object members) other := fun other hother => property_set hkey hother
  have hkeys : exactKeys (.object (setMember members (units "signingKeyId", .string keyId))) manifestKeys =
      exactKeys (.object members) manifestKeys := by
    rw [exactKeys, exactKeys, setMember_names hkey]
  have hown := property_set_same (v := .string keyId) hkey
  simp only [manifestOk, textsOk, numbersOk, listsOk, fileListOk, keyIdOk, Bool.and_eq_true] at h ⊢
  simp (disch := decide) only [hset]
  rw [hkeys, hown]
  obtain ⟨⟨hrules, -⟩, hfiles⟩ := h
  exact ⟨⟨hrules, hhex, by simpa [isText, isUnits] using hzero⟩, hfiles⟩

lemma validateManifest_rules {manifest validated : JsValue} {development : Bool}
    (h : validateManifest manifest development = some validated) : manifestOk manifest development = true := by
  obtain ⟨capabilities, -, h⟩ := Option.bind_eq_some_iff.mp h
  split at h <;> rename_i hrules
  · exact hrules
  · simp at h

lemma manifestOk_object {manifest : JsValue} {development : Bool} (h : manifestOk manifest development = true) :
    ∃ members, manifest = .object members := by
  cases manifest with
  | object members => exact ⟨members, rfl⟩
  | null | bool _ | number _ | string _ | array _ => simp [manifestOk, exactKeys] at h

lemma zeroKey_named {members : List (Units × JsValue)} (h : manifestOk (.object members) true = true) :
    (units "signingKeyId", .string (units zeroKeyId)) ∈ members := by
  simp only [manifestOk, keyIdOk, Bool.and_eq_true, decide_eq_true_eq] at h
  obtain ⟨⟨-, -, hzero⟩, -⟩ := h
  cases hid : property (.object members) "signingKeyId" with
  | none => simp [hid, isText, isUnits] at hzero
  | some v =>
    cases v with
    | string s =>
      have hs : s = units zeroKeyId := by simpa [hid, isText, isUnits] using hzero
      exact hs ▸ property_mem hid
    | null | bool _ | number _ | array _ | object _ => simp [hid, isText, isUnits] at hzero

lemma readCapabilities_array {items : List JsValue} {v : JsValue}
    (h : readCapabilities (.array items) = some v) : v = .array items := by
  rw [readCapabilities] at h
  split at h <;> rename_i hempty
  · obtain rfl := List.isEmpty_iff.mp hempty
    exact (Option.some.inj h).symm
  · obtain ⟨texts, -, h⟩ := Option.bind_eq_some_iff.mp h
    split at h
    · exact (Option.some.inj h).symm
    · simp at h

lemma validateManifest_array {members : List (Units × JsValue)} {capabilities : List JsValue}
    {development : Bool} (hnames : (members.map Prod.fst).Nodup)
    (hcapabilities : property (.object members) "capabilities" = some (.array capabilities)) :
    validateManifest (.object members) development =
      if (readCapabilities (.array capabilities)).isSome && manifestOk (.object members) development then
        some (.object members) else none := by
  rw [validateManifest, hcapabilities, Option.bind_some]
  cases hread : readCapabilities (.array capabilities) with
  | none => rfl
  | some v =>
    obtain rfl := readCapabilities_array hread
    have hsame : setProperty (.object members) "capabilities" (.array capabilities) = .object members :=
      congrArg Json.Value.object (setMember_same hnames (property_mem hcapabilities))
    rw [Option.bind_eq_bind, Option.bind_some, hsame]
    rfl

/-- A development manifest passes the rules of a production package once it names another key, and its
validation changes nothing in it. -/
lemma validateManifest_production {members : List (Units × JsValue)} {capabilities : List JsValue}
    {validated : JsValue} {keyId : Units} (hnames : (members.map Prod.fst).Nodup)
    (hcapabilities : property (.object members) "capabilities" = some (.array capabilities))
    (hvalid : validateManifest (.object members) true = some validated)
    (hhex : hexPattern 32 (some (.string keyId)) = true) (hzero : keyId ≠ units zeroKeyId) :
    validated = .object members ∧ units "signingKeyId" ∈ members.map Prod.fst ∧
      validateManifest (.object (setMember members (units "signingKeyId", .string keyId))) false =
        some (.object (setMember members (units "signingKeyId", .string keyId))) := by
  rw [validateManifest_array hnames hcapabilities] at hvalid
  split at hvalid <;> rename_i hrules
  · obtain ⟨hread, hrules⟩ := Bool.and_eq_true_iff.mp hrules
    have hkey := signingKey_named hrules
    have hkept : property (.object (setMember members (units "signingKeyId", .string keyId))) "capabilities" =
        some (.array capabilities) := (property_set hkey (by decide)).trans hcapabilities
    refine ⟨(Option.some.inj hvalid).symm, hkey, ?_⟩
    rw [validateManifest_array (setMember_nodup hnames _) hkept, if_pos]
    exact Bool.and_eq_true_iff.mpr ⟨hread, manifestOk_production hrules hhex hzero⟩
  · simp at hvalid

end Lvapp

end LvglPlatform

import LvglPlatform.Foundation.Checked
import LvglPlatform.Ipc.SessionControl
import LvglPlatform.Session.InstalledSnapshots

namespace LvglPlatform

open Foundation

structure RegisteredApplication where
  appId : Bytes := []
  name : Bytes := []
  version : Bytes := []
  releaseCounter : UInt64 := 0
  securityEpoch : UInt32 := 0
  capabilityCount : UInt32 := 0
  deriving DecidableEq

inductive ApplicationRegistryStatus
  | valid
  | invalidLayout
  | invalidValue
  | nonCanonical
  deriving DecidableEq

structure ApplicationRegistryDocument where
  status : ApplicationRegistryStatus := .invalidLayout
  detail : Bytes := []
  applications : List RegisteredApplication := []
  bytes : Bytes := []
  deriving DecidableEq

def ApplicationRegistryDocument.ok (document : ApplicationRegistryDocument) : Bool :=
  document.status = .valid

def registryMagic : Bytes := text "LVREG01" ++ [0]

def maximumRegistrySize : ℕ := 64 * 1024

def registryHeaderSize : ℕ := 16

def registryRecordSize : ℕ := 24

def validRegistryText (value : Bytes) (maximum : ℕ) : Bool :=
  value ≠ [] && value.length ≤ maximum && value.all fun c => 0x20 ≤ c && c ≠ 0x7f

/-- The loop over a version: how many dots, and whether a digit has followed the last one. -/
def scanVersion : ℕ → Bool → Bytes → Bool
  | dots, digit, [] => dots = 2 && digit
  | dots, digit, c :: cs =>
    if c = chr '.' then
      if !digit ∨ dots + 1 > 2 then false else scanVersion (dots + 1) false cs
    else if isDigit c then scanVersion dots true cs
    else false

def validRegistryVersion (value : Bytes) : Bool :=
  validRegistryText value 32 && scanVersion 0 false value

def validApplication (application : RegisteredApplication) : Bool :=
  validSessionAppId application.appId && validRegistryText application.name 64 &&
    validRegistryVersion application.version && application.releaseCounter ≠ 0 &&
    application.capabilityCount ≤ 64

def sizeSub (a b : ℕ) : ℕ := (a + 2 ^ 64 - b) % 2 ^ 64

def registryStrings (application : RegisteredApplication) : ℕ :=
  application.appId.length + application.name.length + application.version.length

abbrev RegistryFailure := ApplicationRegistryStatus × Bytes

/-- The checks of an application against the one before it, which is empty for the first. -/
def checkedApplication (previous : Bytes) (application : RegisteredApplication) :
    Except RegistryFailure Unit :=
  if !validApplication application then .error (.invalidValue, text "REGISTRY_APPLICATION_INVALID")
  else if previous ≠ [] ∧ byteLe application.appId previous then
    .error (.nonCanonical, text "REGISTRY_ORDER_INVALID")
  else .ok ()

def registryTotal : Bytes → ℕ → List RegisteredApplication → Except RegistryFailure ℕ
  | _, total, [] => .ok total
  | previous, total, application :: rest => do
    checkedApplication previous application
    if registryStrings application > sizeSub (sizeSub maximumRegistrySize total) registryRecordSize then
      .error (.invalidValue, text "REGISTRY_SIZE_INVALID")
    else
      registryTotal application.appId (total + (registryRecordSize + registryStrings application)) rest

def registryRecord (application : RegisteredApplication) : List Bytes :=
  [littleEndian 2 application.appId.length,
    littleEndian 2 application.name.length,
    littleEndian 2 application.version.length,
    littleEndian 2 1,
    littleEndian 8 application.releaseCounter.toNat,
    littleEndian 4 application.securityEpoch.toNat,
    littleEndian 4 application.capabilityCount.toNat,
    application.appId,
    application.name,
    application.version]

def registryHeader (count total : ℕ) : List Bytes :=
  [registryMagic, littleEndian 2 1, littleEndian 2 count, littleEndian 4 total]

def registryFailure (failure : RegistryFailure) : ApplicationRegistryDocument where
  status := failure.1
  detail := failure.2

def encodeApplicationRegistry (applications : List RegisteredApplication) :
    ApplicationRegistryDocument :=
  if applications = [] ∨ applications.length > maximumRegistryApplications then
    registryFailure (.invalidValue, text "REGISTRY_COUNT_INVALID")
  else match registryTotal [] registryHeaderSize applications with
    | .error failure => registryFailure failure
    | .ok total => {
      status := .valid
      detail := text "REGISTRY_VALID"
      applications
      bytes := (registryHeader applications.length total).flatten ++
        (applications.map fun application => (registryRecord application).flatten).flatten }

def decodeRegistryRecord (bytes : Bytes) (cursor : ℕ) :
    Except RegistryFailure (RegisteredApplication × ℕ) :=
  if bytes.length - cursor < registryRecordSize then
    .error (.invalidLayout, text "REGISTRY_RECORD_TRUNCATED")
  else
    let appSize := value (slice bytes cursor 2)
    let nameSize := value (slice bytes (cursor + 2) 2)
    let versionSize := value (slice bytes (cursor + 4) 2)
    let strings := cursor + registryRecordSize
    if value (slice bytes (cursor + 6) 2) ≠ 1 ∨
        appSize + nameSize + versionSize > bytes.length - strings then
      .error (.invalidLayout, text "REGISTRY_RECORD_INVALID")
    else .ok ({
        appId := slice bytes strings appSize
        name := slice bytes (strings + appSize) nameSize
        version := slice bytes (strings + appSize + nameSize) versionSize
        releaseCounter := readU64 bytes (cursor + 8)
        securityEpoch := readU32 bytes (cursor + 16)
        capabilityCount := readU32 bytes (cursor + 20) },
      strings + appSize + nameSize + versionSize)

def decodeRegistryRecords (bytes : Bytes) : ℕ → Bytes → ℕ →
    Except RegistryFailure (List RegisteredApplication × ℕ)
  | 0, _, cursor => .ok ([], cursor)
  | count + 1, previous, cursor => do
    let (application, next) ← decodeRegistryRecord bytes cursor
    checkedApplication previous application
    let (rest, last) ← decodeRegistryRecords bytes count application.appId next
    return (application :: rest, last)

def decodeApplicationRegistry (bytes : Bytes) : ApplicationRegistryDocument :=
  if bytes.length < registryHeaderSize ∨ bytes.length > maximumRegistrySize ∨
      slice bytes 0 8 ≠ registryMagic ∨ value (slice bytes 8 2) ≠ 1 ∨
      value (slice bytes 12 4) ≠ bytes.length then
    registryFailure (.invalidLayout, text "REGISTRY_LAYOUT_INVALID")
  else
    let count := value (slice bytes 10 2)
    if count = 0 ∨ count > maximumRegistryApplications then
      registryFailure (.invalidValue, text "REGISTRY_COUNT_INVALID")
    else match decodeRegistryRecords bytes count [] registryHeaderSize with
      | .error failure => registryFailure failure
      | .ok (applications, cursor) =>
        if cursor ≠ bytes.length then registryFailure (.invalidLayout, text "REGISTRY_TRAILING_DATA")
        else { status := .valid, detail := text "REGISTRY_VALID", applications, bytes }

def registrySize (applications : List RegisteredApplication) : ℕ :=
  (applications.map fun application => registryRecordSize + registryStrings application).sum

def Chained : Bytes → List RegisteredApplication → Prop
  | _, [] => True
  | previous, application :: rest =>
    checkedApplication previous application = .ok () ∧ Chained application.appId rest

section

variable {application : RegisteredApplication} {applications : List RegisteredApplication}
  {previous : Bytes} {total cursor next count : ℕ} {bytes : Bytes}

lemma sizeSub_of_le {a b : ℕ} (h : b ≤ a) (ha : a < 2 ^ 64) : sizeSub a b = a - b := by
  rw [sizeSub]
  omega

lemma checkedApplication_error {failure : RegistryFailure}
    (h : checkedApplication previous application = .error failure) : failure.1 ≠ .valid := by
  rw [checkedApplication] at h
  split at h
  · cases h
    exact nofun
  split at h
  · cases h
    exact nofun
  · cases h

lemma registryTotal_error {failure : RegistryFailure}
    (h : registryTotal previous total applications = .error failure) : failure.1 ≠ .valid := by
  induction applications generalizing previous total with
  | nil => cases h
  | cons application rest ih =>
    obtain hchecked | ⟨u, -, h⟩ := except_bind_eq_error h
    · exact checkedApplication_error hchecked
    split at h
    · cases h
      exact nofun
    · exact ih h

lemma decodeRegistryRecord_error {failure : RegistryFailure}
    (h : decodeRegistryRecord bytes cursor = .error failure) : failure.1 ≠ .valid := by
  rw [decodeRegistryRecord] at h
  split at h
  · cases h
    exact nofun
  dsimp only at h
  split at h
  · cases h
    exact nofun
  · cases h

lemma decodeRegistryRecords_error {failure : RegistryFailure}
    (h : decodeRegistryRecords bytes count previous cursor = .error failure) :
    failure.1 ≠ .valid := by
  induction count generalizing previous cursor with
  | zero => cases h
  | succ count ih =>
    obtain hrecord | ⟨⟨application, next⟩, -, h⟩ := except_bind_eq_error h
    · exact decodeRegistryRecord_error hrecord
    obtain hchecked | ⟨u, -, h⟩ := except_bind_eq_error h
    · exact checkedApplication_error hchecked
    obtain hrest | ⟨result, -, h⟩ := except_bind_eq_error h
    · exact ih hrest
    · cases h

lemma checkedApplication_valid (h : checkedApplication previous application = .ok ()) :
    validApplication application = true := by
  rw [checkedApplication] at h
  split at h
  · cases h
  · rename_i hvalid
    simpa using hvalid

lemma validApplication_lengths (h : validApplication application = true) :
    application.appId.length ≤ 95 ∧ application.name.length ≤ 64 ∧ application.version.length ≤ 32 := by
  simp only [validApplication, validRegistryVersion, validRegistryText, Bool.and_eq_true,
    decide_eq_true_eq] at h
  obtain ⟨⟨⟨⟨happ, hname⟩, hversion⟩, -⟩, -⟩ := h
  exact ⟨Nat.le_of_lt_succ (validSessionAppId_length happ).2, hname.1.2, hversion.1.1.2⟩

lemma Chained.size (h : Chained previous applications) :
    registrySize applications ≤ 215 * applications.length := by
  induction applications generalizing previous with
  | nil => exact Nat.zero_le _
  | cons application rest ih =>
    obtain ⟨happ, hname, hversion⟩ := validApplication_lengths (checkedApplication_valid h.1)
    have hrest := ih h.2
    rw [registrySize] at hrest ⊢
    rw [List.map_cons, List.sum_cons, List.length_cons, registryStrings, registryRecordSize]
    rw [registryRecordSize] at hrest
    omega

lemma registryTotal_ok (h : registryTotal previous total applications = .ok next) :
    Chained previous applications ∧ next = total + registrySize applications := by
  induction applications generalizing previous total with
  | nil =>
    cases h
    exact ⟨trivial, rfl⟩
  | cons application rest ih =>
    obtain ⟨u, hchecked, h⟩ := except_bind_eq_ok.mp h
    split at h
    · cases h
    obtain ⟨hrest, hnext⟩ := ih h
    refine ⟨⟨hchecked, hrest⟩, ?_⟩
    rw [hnext, registrySize, registrySize, List.map_cons, List.sum_cons, Nat.add_assoc]

/-- The sizes that are compared have not gone below zero while the document is small enough. -/
lemma registryTotal_of_chained (h : Chained previous applications)
    (hsize : total + registrySize applications ≤ maximumRegistrySize) :
    registryTotal previous total applications = .ok (total + registrySize applications) := by
  induction applications generalizing previous total with
  | nil => rfl
  | cons application rest ih =>
    rw [registrySize, List.map_cons, List.sum_cons, ← registrySize, ← Nat.add_assoc] at hsize
    have hmaximum : maximumRegistrySize = 65536 := rfl
    have hleft : sizeSub maximumRegistrySize total = maximumRegistrySize - total :=
      sizeSub_of_le (by omega) (by omega)
    refine except_bind_eq_ok.mpr ⟨(), h.1, ?_⟩
    rw [hleft, sizeSub_of_le (by omega) (by omega), if_neg (by omega), ih h.2 hsize, registrySize, registrySize, List.map_cons, List.sum_cons, Nat.add_assoc]

lemma registryRecord_length (application : RegisteredApplication) :
    (registryRecord application).flatten.length = registryRecordSize + registryStrings application := by
  simp only [registryRecord, List.flatten_cons, List.flatten_nil, List.length_append, List.length_nil,
    littleEndian_length, registryRecordSize, registryStrings]
  omega

lemma records_length (applications : List RegisteredApplication) :
    (applications.map fun application => (registryRecord application).flatten).flatten.length =
      registrySize applications := by
  rw [List.length_flatten, List.map_map, registrySize]
  congr 1
  refine List.map_congr_left fun application _ => ?_
  exact registryRecord_length application

lemma decodeRegistryRecord_encoded (hvalid : validApplication application = true)
    (hcursor : cursor ≤ bytes.length)
    (h : slice bytes cursor (registryRecord application).flatten.length =
      (registryRecord application).flatten) :
    decodeRegistryRecord bytes cursor =
      .ok (application, cursor + (registryRecordSize + registryStrings application)) := by
  have hbound := slice_bound hcursor h
  rw [registryRecord_length] at hbound
  obtain ⟨happ, hname, hversion⟩ := validApplication_lengths hvalid
  rw [registryRecordSize, registryStrings] at hbound
  have hfields := slice_eq_flatten.mp h
  simp only [registryRecord, FieldsAt, littleEndian_length, Nat.add_assoc, Nat.reduceAdd] at hfields
  obtain ⟨happSize, hnameSize, hversionSize, hflags, hcounter, hepoch, hcapabilities, happAt, hnameAt,
    hversionAt, -⟩ := hfields
  have happRead : value (slice bytes cursor 2) = application.appId.length := by
    rw [happSize, value_littleEndian_of_lt (by omega)]
  have hnameRead : value (slice bytes (cursor + 2) 2) = application.name.length := by
    rw [hnameSize, value_littleEndian_of_lt (by omega)]
  have hversionRead : value (slice bytes (cursor + 4) 2) = application.version.length := by
    rw [hversionSize, value_littleEndian_of_lt (by omega)]
  rw [decodeRegistryRecord, if_neg (by rw [registryRecordSize]; omega)]
  dsimp only
  rw [happRead, hnameRead, hversionRead, hflags, if_neg]
  · simp only [registryRecordSize, registryStrings, Nat.add_assoc] at *
    rw [happAt, hnameAt, hversionAt, readU64_of_slice hcounter, readU32_of_slice hepoch,
      readU32_of_slice hcapabilities]
  · rw [registryRecordSize]
    simp only [not_or, not_lt, gt_iff_lt]
    exact ⟨not_not.mpr rfl, by omega⟩

lemma decodeRegistryRecord_cases (hcursor : cursor ≤ bytes.length)
    (h : decodeRegistryRecord bytes cursor = .ok (application, next)) :
    next = cursor + (registryRecordSize + registryStrings application) ∧ next ≤ bytes.length ∧
      slice bytes cursor (registryRecord application).flatten.length =
        (registryRecord application).flatten := by
  rw [decodeRegistryRecord] at h
  split at h
  · cases h
  rename_i hrecord
  dsimp only at h
  split at h
  · cases h
  rename_i hstrings
  simp only [not_or, not_lt, gt_iff_lt, not_not, ne_eq, registryRecordSize] at hrecord hstrings
  obtain ⟨rfl, rfl⟩ := Prod.mk.inj (Except.ok.inj h)
  obtain ⟨hflags, hstrings⟩ := hstrings
  have happ : (slice bytes (cursor + registryRecordSize) (value (slice bytes cursor 2))).length =
      value (slice bytes cursor 2) := slice_length (by rw [registryRecordSize]; omega)
  have hname : (slice bytes (cursor + registryRecordSize + value (slice bytes cursor 2))
      (value (slice bytes (cursor + 2) 2))).length = value (slice bytes (cursor + 2) 2) :=
    slice_length (by rw [registryRecordSize]; omega)
  have hversion : (slice bytes (cursor + registryRecordSize + value (slice bytes cursor 2) +
      value (slice bytes (cursor + 2) 2)) (value (slice bytes (cursor + 4) 2))).length =
      value (slice bytes (cursor + 4) 2) := slice_length (by rw [registryRecordSize]; omega)
  generalize happAt : slice bytes (cursor + registryRecordSize) _ = app at happ ⊢
  generalize hnameAt : slice bytes (cursor + registryRecordSize + value (slice bytes cursor 2)) _ = name
    at hname ⊢
  generalize hversionAt : slice bytes (cursor + registryRecordSize + value (slice bytes cursor 2) +
    value (slice bytes (cursor + 2) 2)) _ = version at hversion ⊢
  rw [← happ, registryRecordSize] at happAt hnameAt hversionAt
  rw [← hname] at hnameAt hversionAt
  rw [← hversion] at hversionAt
  rw [← happ, ← hname, ← hversion] at hstrings ⊢
  rw [registryRecordSize]
  refine ⟨by rw [registryStrings]; dsimp only; omega, by omega, ?_⟩
  rw [slice_eq_flatten]
  simp only [registryRecord, FieldsAt, littleEndian_length, Nat.add_assoc, Nat.reduceAdd, and_true]
  simp only [Nat.add_assoc] at happAt hnameAt hversionAt
  exact ⟨littleEndian_of_value (slice_length (by omega)) happ.symm,
    littleEndian_of_value (slice_length (by omega)) hname.symm,
    littleEndian_of_value (slice_length (by omega)) hversion.symm,
    littleEndian_of_value (slice_length (by omega)) hflags, slice_readU64 (by omega),
    slice_readU32 (by omega), slice_readU32 (by omega), happAt, hnameAt, hversionAt⟩

def registryRecords (applications : List RegisteredApplication) : Bytes :=
  (applications.map fun application => (registryRecord application).flatten).flatten

lemma decodeRegistryRecords_encoded (hchained : Chained previous applications)
    (hcursor : cursor ≤ bytes.length)
    (h : slice bytes cursor (registryRecords applications).length = registryRecords applications) :
    decodeRegistryRecords bytes applications.length previous cursor =
      .ok (applications, cursor + registrySize applications) := by
  induction applications generalizing previous cursor with
  | nil => rfl
  | cons application rest ih =>
    rw [registryRecords, List.map_cons, List.flatten_cons, List.length_append, slice_append_eq] at h
    obtain ⟨hfirst, hrest⟩ := h
    have hvalid := checkedApplication_valid hchained.1
    have hnext := slice_bound hcursor hfirst
    rw [registryRecord_length] at hnext hrest
    refine except_bind_eq_ok.mpr ⟨_, decodeRegistryRecord_encoded hvalid hcursor hfirst, ?_⟩
    refine except_bind_eq_ok.mpr ⟨(), hchained.1, ?_⟩
    refine except_bind_eq_ok.mpr ⟨_, ih hchained.2 hnext hrest, ?_⟩
    rw [registrySize, registrySize, List.map_cons, List.sum_cons, Nat.add_assoc]
    rfl

lemma decodeRegistryRecords_cases (hcursor : cursor ≤ bytes.length)
    (h : decodeRegistryRecords bytes count previous cursor = .ok (applications, next)) :
    applications.length = count ∧ Chained previous applications ∧
      next = cursor + registrySize applications ∧
      slice bytes cursor (registryRecords applications).length = registryRecords applications := by
  induction count generalizing applications previous cursor with
  | zero =>
    cases h
    exact ⟨rfl, trivial, rfl, rfl⟩
  | succ count ih =>
    obtain ⟨⟨application, after⟩, hrecord, h⟩ := except_bind_eq_ok.mp h
    obtain ⟨u, hchecked, h⟩ := except_bind_eq_ok.mp h
    obtain ⟨⟨rest, last⟩, hrest, h⟩ := except_bind_eq_ok.mp h
    cases h
    obtain ⟨hafter, hbound, hfirst⟩ := decodeRegistryRecord_cases hcursor hrecord
    obtain ⟨hcount, hchained, hnext, hrecords⟩ := ih hbound hrest
    refine ⟨congrArg (· + 1) hcount, ⟨hchecked, hchained⟩, ?_, ?_⟩
    · rw [hnext, hafter, registrySize, registrySize, List.map_cons, List.sum_cons, Nat.add_assoc]
    · rw [registryRecords, List.map_cons, List.flatten_cons, List.length_append, slice_append_eq,
        registryRecord_length, ← hafter]
      rw [registryRecord_length] at hfirst
      exact ⟨hfirst, hrecords⟩

def registryDocument (applications : List RegisteredApplication) : ApplicationRegistryDocument where
  status := .valid
  detail := text "REGISTRY_VALID"
  applications
  bytes := (registryHeader applications.length (registryHeaderSize + registrySize applications)).flatten ++
    registryRecords applications

structure Registrable (applications : List RegisteredApplication) : Prop where
  nonempty : applications ≠ []
  count : applications.length ≤ maximumRegistryApplications
  chained : Chained [] applications

lemma Registrable.size (h : Registrable applications) :
    registryHeaderSize + registrySize applications + 215 ≤ maximumRegistrySize := by
  have hsize := h.chained.size
  have hcount := h.count
  rw [maximumRegistryApplications] at hcount
  rw [registryHeaderSize, maximumRegistrySize]
  omega

lemma encodeApplicationRegistry_ok :
    (encodeApplicationRegistry applications).ok = true ↔ Registrable applications := by
  rw [encodeApplicationRegistry]
  constructor
  · intro h
    split at h
    · cases h
    rename_i hcount
    simp only [not_or, not_lt, gt_iff_lt] at hcount
    cases htotal : registryTotal [] registryHeaderSize applications with
    | error failure =>
      rw [htotal] at h
      exact absurd (of_decide_eq_true h) (registryTotal_error htotal)
    | ok total => exact ⟨hcount.1, hcount.2, (registryTotal_ok htotal).1⟩
  · intro h
    rw [if_neg (by simp [h.nonempty, h.count]),
      registryTotal_of_chained h.chained (le_trans (Nat.le_add_right _ 215) h.size)]
    rfl

lemma Registrable.encoded (h : Registrable applications) :
    encodeApplicationRegistry applications = registryDocument applications := by
  rw [encodeApplicationRegistry, if_neg (by simp [h.nonempty, h.count]),
    registryTotal_of_chained h.chained (le_trans (Nat.le_add_right _ 215) h.size)]
  rfl

lemma registryMagic_length : registryMagic.length = 8 := by decide

lemma registryHeader_length (count total : ℕ) :
    (registryHeader count total).flatten.length = registryHeaderSize := by
  simp only [registryHeader, List.flatten_cons, List.flatten_nil, List.length_append, List.length_nil,
    littleEndian_length, registryMagic_length]
  rfl

lemma registryDocument_length (applications : List RegisteredApplication) :
    (registryDocument applications).bytes.length = registryHeaderSize + registrySize applications := by
  rw [registryDocument, List.length_append, registryHeader_length, registryRecords, records_length]

lemma Registrable.decoded (h : Registrable applications) :
    decodeApplicationRegistry (registryDocument applications).bytes = registryDocument applications := by
  have hlength := registryDocument_length applications
  have hsize := h.size
  have hrecords : slice (registryDocument applications).bytes registryHeaderSize
      (registryRecords applications).length = registryRecords applications := by
    have hright := slice_append_right (registryHeader applications.length
      (registryHeaderSize + registrySize applications)).flatten (registryRecords applications) 0
      (registryRecords applications).length
    rw [registryHeader_length, Nat.add_zero, slice_all le_rfl] at hright
    exact hright
  have hheader : FieldsAt (registryDocument applications).bytes 0 (registryHeader applications.length
      (registryHeaderSize + registrySize applications)) := by
    rw [← slice_eq_flatten]
    exact slice_append_left (by rw [Nat.zero_add]) |>.trans (slice_all le_rfl)
  simp only [registryHeader, FieldsAt, littleEndian_length, registryMagic_length, Nat.reduceAdd]
    at hheader
  obtain ⟨hmagic, hversion, hcount, htotal, -⟩ := hheader
  have hcountLimit := h.count
  rw [maximumRegistryApplications] at hcountLimit
  rw [registryHeaderSize, maximumRegistrySize] at hsize
  have hcountRead : value (slice (registryDocument applications).bytes 10 2) = applications.length := by
    rw [hcount, value_littleEndian_of_lt (by omega)]
  have htotalRead : value (slice (registryDocument applications).bytes 12 4) =
      (registryDocument applications).bytes.length := by
    rw [htotal, hlength, registryHeaderSize, value_littleEndian_of_lt (by omega)]
  have hdecoded := decodeRegistryRecords_encoded h.chained
    (by rw [hlength]; exact Nat.le_add_right _ _) hrecords
  have hnonempty : applications.length ≠ 0 := fun hnil => h.nonempty (List.length_eq_zero_iff.mp hnil)
  rw [decodeApplicationRegistry, if_neg]
  · dsimp only
    rw [hcountRead, if_neg, hdecoded]
    · dsimp only
      rw [if_neg (not_not.mpr hlength.symm)]
      rfl
    · simp only [not_or, not_lt, gt_iff_lt]
      exact ⟨hnonempty, h.count⟩
  · rw [hmagic, hversion, htotalRead, hlength, registryHeaderSize, maximumRegistrySize]
    simp only [not_or, not_lt, not_not, gt_iff_lt]
    exact ⟨by omega, by omega, trivial, rfl, trivial⟩

lemma decodeApplicationRegistry_ok (h : (decodeApplicationRegistry bytes).ok = true) :
    Registrable (decodeApplicationRegistry bytes).applications ∧
      bytes = (registryDocument (decodeApplicationRegistry bytes).applications).bytes := by
  rw [decodeApplicationRegistry] at h ⊢
  split at h
  · cases h
  rename_i hlayout
  rw [if_neg hlayout]
  dsimp only at h ⊢
  split at h
  · cases h
  rename_i hcount
  rw [if_neg hcount]
  cases hrecords : decodeRegistryRecords bytes (value (slice bytes 10 2)) [] registryHeaderSize with
  | error failure =>
    rw [hrecords] at h
    exact absurd (of_decide_eq_true h) (decodeRegistryRecords_error hrecords)
  | ok decoded =>
    obtain ⟨applications, cursor⟩ := decoded
    rw [hrecords] at h
    dsimp only at h ⊢
    split at h
    · cases h
    rename_i hcursor
    rw [if_neg hcursor]
    dsimp only
    simp only [not_or, not_lt, not_not, gt_iff_lt, ne_eq] at hlayout hcount hcursor
    obtain ⟨hmin, -, hmagic, hversion, htotal⟩ := hlayout
    obtain ⟨hlength, hchained, hnext, hslice⟩ := decodeRegistryRecords_cases hmin hrecords
    rw [registryHeaderSize] at hmin
    have hnonempty : applications ≠ [] := by
      rintro rfl
      exact hcount.1 hlength.symm
    refine ⟨⟨hnonempty, hlength.le.trans hcount.2, hchained⟩, ?_⟩
    have hheader : FieldsAt bytes 0 (registryHeader applications.length
        (registryHeaderSize + registrySize applications)) := by
      simp only [registryHeader, FieldsAt, littleEndian_length, registryMagic_length, Nat.reduceAdd,
        and_true]
      rw [← hnext, hcursor]
      exact ⟨hmagic, littleEndian_of_value (slice_length (by omega)) hversion,
        littleEndian_of_value (slice_length (by omega)) hlength.symm,
        littleEndian_of_value (slice_length (by omega)) htotal⟩
    have hhead := slice_eq_flatten.mpr hheader
    rw [registryHeader_length] at hhead
    have htail : slice bytes registryHeaderSize (registryRecords applications).length =
        bytes.drop registryHeaderSize := by
      refine List.take_of_length_le ?_
      rw [List.length_drop, registryRecords, records_length, ← hcursor, hnext, Nat.add_sub_cancel_left]
    rw [htail] at hslice
    rw [registryDocument, ← hhead, ← hslice]
    exact (List.take_append_drop registryHeaderSize bytes).symm

end

/-- What is encoded is read back, within the size that the encoder counts, and what is read is encoded
to the same bytes. -/
theorem application_registry_round_trips :
    (∀ applications, (encodeApplicationRegistry applications).ok = true →
      (decodeApplicationRegistry (encodeApplicationRegistry applications).bytes).ok = true ∧
        (decodeApplicationRegistry (encodeApplicationRegistry applications).bytes).applications =
          applications ∧
        (encodeApplicationRegistry applications).bytes.length ≤ 65536) ∧
    (∀ before total, before.length < maximumRegistryApplications →
      registryTotal [] registryHeaderSize before = .ok total →
      total + registryRecordSize ≤ maximumRegistrySize) ∧
    (∀ bytes, (decodeApplicationRegistry bytes).ok = true →
      (encodeApplicationRegistry (decodeApplicationRegistry bytes).applications).ok = true ∧
        (encodeApplicationRegistry (decodeApplicationRegistry bytes).applications).bytes = bytes) := by
  refine ⟨fun applications hok => ?_, fun before total hcount htotal => ?_, fun bytes hok => ?_⟩
  · have hregistrable := encodeApplicationRegistry_ok.mp hok
    have hsize := hregistrable.size
    rw [hregistrable.encoded, hregistrable.decoded, registryDocument_length]
    exact ⟨rfl, rfl, le_trans (Nat.le_add_right _ 215) hsize⟩
  · obtain ⟨hchained, rfl⟩ := registryTotal_ok htotal
    have hsize := hchained.size
    rw [maximumRegistryApplications] at hcount
    rw [registryHeaderSize, registryRecordSize, maximumRegistrySize]
    omega
  · obtain ⟨hregistrable, hbytes⟩ := decodeApplicationRegistry_ok hok
    exact ⟨encodeApplicationRegistry_ok.mpr hregistrable, by rw [hregistrable.encoded]; exact hbytes.symm⟩

def desktopRegistry : List RegisteredApplication :=
  [{ appId := text "top.lvgl.game2048", name := text "2048", version := text "1.0.0"
     releaseCounter := 7, securityEpoch := 2, capabilityCount := 1 },
   { appId := text "top.lvgl.installer", name := text "Installer", version := text "1.0.0"
     releaseCounter := 3, securityEpoch := 1 }]

theorem desktop_registry_round_trips :
    (decodeApplicationRegistry (encodeApplicationRegistry desktopRegistry).bytes).applications =
      desktopRegistry ∧
    registryHeaderSize + registryRecordSize ≤ maximumRegistrySize := by
  obtain ⟨hround, hsize, -⟩ := application_registry_round_trips
  exact ⟨(hround desktopRegistry (by decide)).2.1, hsize [] registryHeaderSize (by decide) rfl⟩

end LvglPlatform

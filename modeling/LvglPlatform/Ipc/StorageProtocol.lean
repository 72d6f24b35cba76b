import LvglPlatform.Platform.Primitives

namespace LvglPlatform

open Foundation

inductive StorageCommand
  | read
  | write
  deriving DecidableEq, Repr

def StorageCommand.code : StorageCommand → ℕ
  | .read => 1
  | .write => 2

def StorageCommand.ofCode : ℕ → Option StorageCommand
  | 1 => some .read
  | 2 => some .write
  | _ => none

inductive StorageProtocolStatus
  | ok
  | invalidRequest
  | notFound
  | quotaExceeded
  | storageCorrupt
  | ioError
  deriving DecidableEq, Repr

def StorageProtocolStatus.code : StorageProtocolStatus → ℕ
  | .ok => 0
  | .invalidRequest => 1
  | .notFound => 2
  | .quotaExceeded => 3
  | .storageCorrupt => 4
  | .ioError => 5

def StorageProtocolStatus.ofCode : ℕ → Option StorageProtocolStatus
  | 0 => some .ok
  | 1 => some .invalidRequest
  | 2 => some .notFound
  | 3 => some .quotaExceeded
  | 4 => some .storageCorrupt
  | 5 => some .ioError
  | _ => none

structure StorageRequest where
  command : StorageCommand := .read
  requestId : UInt64 := 0
  record : Bytes := []
  maximumSize : UInt32 := 0
  data : Bytes := []
  deriving DecidableEq

structure StorageResponse where
  command : StorageCommand := .read
  status : StorageProtocolStatus := .invalidRequest
  requestId : UInt64 := 0
  data : Bytes := []
  deriving DecidableEq

def storageRecordNameSize : ℕ := 64

def storageHeaderSize : ℕ := 96

def maximumStorageRecordSize : ℕ := 64 * 1024

def maximumStoragePacketSize : ℕ := storageHeaderSize + maximumStorageRecordSize

def storageMagic : Bytes := text "LVSTOR1" ++ [0]

def validStorageRecordName (value : Bytes) : Bool :=
  value ≠ [] && value.length ≤ storageRecordNameSize && value.head? ≠ some (chr '.') &&
    !value.tails.any (fun rest => (text "..").isPrefixOf rest) &&
    value.all fun c => isLower c || isDigit c || c = chr '.' || c = chr '_' || c = chr '-'

def storageWriteWithinQuota (currentFiles : UInt32) (currentBytes : UInt64) (recordExists : Bool)
    (existingSize newSize : UInt64) (maximumFiles : UInt32) (maximumBytes : UInt64) : Bool :=
  if maximumFiles = 0 ∨ maximumBytes = 0 ∨ newSize = 0 ∨ newSize.toNat > maximumStorageRecordSize ∨
      (recordExists ∧ (currentFiles = 0 ∨ existingSize = 0 ∨ existingSize > currentBytes)) ∨
      (!recordExists ∧ existingSize ≠ 0) then false
  else
    let retained := currentBytes - existingSize
    if retained > maximumBytes ∨ newSize > maximumBytes - retained then false
    else if recordExists then currentFiles ≤ maximumFiles
    else currentFiles < maximumFiles

structure StorageHeader where
  command : StorageCommand
  status : StorageProtocolStatus
  nameSize : ℕ
  dataSize : ℕ
  maximumSize : UInt32
  requestId : UInt64
  deriving DecidableEq

def storageFields (header : StorageHeader) (name : Bytes) : List Bytes :=
  [storageMagic,
    littleEndian 2 1,
    littleEndian 2 header.command.code,
    littleEndian 2 header.status.code,
    littleEndian 2 header.nameSize,
    littleEndian 4 header.dataSize,
    littleEndian 4 header.maximumSize.toNat,
    littleEndian 8 header.requestId.toNat,
    pad storageRecordNameSize name]

def decodeStorageHeader (bytes : Bytes) : Option StorageHeader :=
  if bytes.length < storageHeaderSize ∨ bytes.length > maximumStoragePacketSize ∨
      slice bytes 0 8 ≠ storageMagic ∨ value (slice bytes 8 2) ≠ 1 then none
  else match StorageCommand.ofCode (value (slice bytes 10 2)),
      StorageProtocolStatus.ofCode (value (slice bytes 12 2)) with
    | some command, some status =>
      let dataSize := value (slice bytes 16 4)
      if dataSize ≤ maximumStorageRecordSize ∧ bytes.length = storageHeaderSize + dataSize then
        some {
          command, status, dataSize
          nameSize := value (slice bytes 14 2)
          maximumSize := readU32 bytes 20
          requestId := readU64 bytes 24 }
      else none
    | _, _ => none

def zeroPadding (bytes : Bytes) (start : ℕ) : Bool :=
  allZero (slice bytes start (storageHeaderSize - start))

/-- An invalid request is encoded as no bytes at all. -/
def encodeStorageRequest (request : StorageRequest) : Bytes :=
  let write := request.command = .write
  if request.requestId = 0 ∨ !validStorageRecordName request.record ∨ request.maximumSize = 0 ∨
      request.maximumSize.toNat > maximumStorageRecordSize ∨
      (write ∧ (request.data = [] ∨ request.data.length > request.maximumSize.toNat)) ∨
      (¬ write ∧ request.data ≠ []) then []
  else (storageFields {
      command := request.command
      status := .ok
      nameSize := request.record.length
      dataSize := request.data.length
      maximumSize := request.maximumSize
      requestId := request.requestId } request.record).flatten ++ request.data

def decodeStorageRequest (bytes : Bytes) : Option StorageRequest :=
  match decodeStorageHeader bytes with
  | none => none
  | some header =>
    if header.status ≠ .ok ∨ header.requestId = 0 ∨ header.nameSize = 0 ∨
        header.nameSize > storageRecordNameSize ∨ header.maximumSize = 0 ∨
        header.maximumSize.toNat > maximumStorageRecordSize ∨
        header.dataSize > header.maximumSize.toNat ∨ !zeroPadding bytes (32 + header.nameSize) then none
    else
      let record := slice bytes 32 header.nameSize
      if !validStorageRecordName record ∨ (header.command = .write ∧ header.dataSize = 0) ∨
          (header.command ≠ .write ∧ header.dataSize ≠ 0) then none
      else some {
        command := header.command
        requestId := header.requestId
        record
        maximumSize := header.maximumSize
        data := slice bytes storageHeaderSize header.dataSize }

def encodeStorageResponse (response : StorageResponse) : Bytes :=
  if response.requestId = 0 ∨ response.data.length > maximumStorageRecordSize ∨
      (response.status ≠ .ok ∧ response.data ≠ []) ∨
      (response.command = .write ∧ response.data ≠ []) then []
  else (storageFields {
      command := response.command
      status := response.status
      nameSize := 0
      dataSize := response.data.length
      maximumSize := 0
      requestId := response.requestId } []).flatten ++ response.data

def decodeStorageResponse (bytes : Bytes) : Option StorageResponse :=
  match decodeStorageHeader bytes with
  | none => none
  | some header =>
    if header.requestId = 0 ∨ header.nameSize ≠ 0 ∨ header.maximumSize ≠ 0 ∨ !zeroPadding bytes 32 ∨
        (header.status ≠ .ok ∧ header.dataSize ≠ 0) ∨
        (header.command = .write ∧ header.dataSize ≠ 0) then none
    else some {
      command := header.command
      status := header.status
      requestId := header.requestId
      data := slice bytes storageHeaderSize header.dataSize }

lemma uint64_eq_zero {a : UInt64} : a = 0 ↔ a.toNat = 0 := by
  rw [← UInt64.toNat_inj]; rfl

lemma uint32_eq_zero {a : UInt32} : a = 0 ↔ a.toNat = 0 := by
  rw [← UInt32.toNat_inj]; rfl

/-- With an account of what is stored, the check is the one of exact integers. -/
lemma withinQuota_iff {currentFiles : UInt32} {currentBytes : UInt64} {recordExists : Bool}
    {existingSize newSize : UInt64} {maximumFiles : UInt32} {maximumBytes : UInt64}
    (haccount : if recordExists then
        0 < currentFiles ∧ 0 < existingSize ∧ existingSize ≤ currentBytes else existingSize = 0) :
    storageWriteWithinQuota currentFiles currentBytes recordExists existingSize newSize maximumFiles
        maximumBytes = true ↔
      0 < newSize.toNat ∧ newSize.toNat ≤ maximumStorageRecordSize ∧
        currentFiles.toNat + (if recordExists then 0 else 1) ≤ maximumFiles.toNat ∧
        currentBytes.toNat - existingSize.toNat + newSize.toNat ≤ maximumBytes.toNat := by
  have hsmall : maximumStorageRecordSize = 65536 := rfl
  have hexisting : existingSize ≤ currentBytes := by
    cases recordExists with
    | false => rw [show existingSize = 0 by simpa using haccount, UInt64.le_iff_toNat_le]; simp
    | true => exact haccount.2.2
  have hretained := UInt64.toNat_sub_of_le currentBytes existingSize hexisting
  have hfull : ¬ currentBytes - existingSize > maximumBytes →
      (maximumBytes - (currentBytes - existingSize)).toNat =
        maximumBytes.toNat - (currentBytes.toNat - existingSize.toNat) := fun h => by
    rw [UInt64.toNat_sub_of_le _ _ (UInt64.not_lt.mp h), hretained]
  rw [storageWriteWithinQuota]
  cases recordExists with
  | false =>
    simp only [Bool.false_eq_true, ↓reduceIte] at haccount ⊢
    grind [UInt64.lt_iff_toNat_lt, UInt32.lt_iff_toNat_lt, uint64_eq_zero, uint32_eq_zero]
  | true =>
    simp only [↓reduceIte] at haccount ⊢
    grind [UInt64.lt_iff_toNat_lt, UInt32.le_iff_toNat_le, uint64_eq_zero, uint32_eq_zero]

section

variable {header : StorageHeader} {name data : Bytes}

lemma storageMagic_length : storageMagic.length = 8 := by decide

lemma storageFields_length (hname : name.length ≤ storageRecordNameSize) :
    (storageFields header name).flatten.length = storageHeaderSize := by
  simp only [storageFields, List.flatten_cons, List.flatten_nil, List.length_append, List.length_nil,
    littleEndian_length, storageMagic_length, pad_length hname]
  rfl

lemma storageFields_at (header : StorageHeader) (name data : Bytes) :
    FieldsAt ((storageFields header name).flatten ++ data) 0 (storageFields header name) := by
  apply slice_eq_flatten.mp
  rw [slice_append_left (by omega), slice_all le_rfl]

lemma storageCommand_ofCode (command : StorageCommand) :
    StorageCommand.ofCode (value (littleEndian 2 command.code)) = some command := by
  cases command <;> rfl

lemma storageStatus_ofCode (status : StorageProtocolStatus) :
    StorageProtocolStatus.ofCode (value (littleEndian 2 status.code)) = some status := by
  cases status <;> rfl

lemma decodeStorageHeader_fields (hname : name.length ≤ storageRecordNameSize)
    (hsize : header.nameSize ≤ storageRecordNameSize) (hdata : header.dataSize = data.length)
    (hmaximum : data.length ≤ maximumStorageRecordSize) :
    decodeStorageHeader ((storageFields header name).flatten ++ data) = some header := by
  have hlength : ((storageFields header name).flatten ++ data).length =
      storageHeaderSize + header.dataSize := by
    rw [List.length_append, storageFields_length hname, hdata]
  have hfields := storageFields_at header name data
  rw [storageRecordNameSize] at hsize
  rw [maximumStorageRecordSize] at hmaximum
  generalize (storageFields header name).flatten ++ data = bytes at hlength hfields
  simp only [storageFields, FieldsAt, littleEndian_length, storageMagic_length, Nat.reduceAdd] at hfields
  obtain ⟨hmagic, hversion, hcommand, hstatus, hnameSize, hdataSize, hmax, hid, -, -⟩ := hfields
  rw [decodeStorageHeader, if_neg, hcommand, hstatus, storageCommand_ofCode, storageStatus_ofCode,
    hdataSize, hnameSize, value_littleEndian_of_lt (by omega), value_littleEndian_of_lt (by omega)]
  · rw [readU32_of_slice hmax, readU64_of_slice hid]
    exact if_pos ⟨by rw [hdata, maximumStorageRecordSize]; exact hmaximum, hlength⟩
  · rw [hlength, hmagic, hversion, maximumStoragePacketSize, maximumStorageRecordSize, hdata]
    simp only [not_or, not_lt, not_not]
    exact ⟨by omega, by omega, trivial, rfl⟩

lemma storageData (hname : name.length ≤ storageRecordNameSize) :
    slice ((storageFields header name).flatten ++ data) storageHeaderSize data.length = data := by
  have h := slice_append_right (storageFields header name).flatten data 0 data.length
  rwa [storageFields_length hname, Nat.add_zero, slice_all le_rfl] at h

lemma storageName (header : StorageHeader) (data : Bytes)
    (hname : name.length ≤ storageRecordNameSize) :
    slice ((storageFields header name).flatten ++ data) 32 name.length = name ∧
      zeroPadding ((storageFields header name).flatten ++ data) (32 + name.length) = true := by
  have hfields := storageFields_at header name data
  generalize (storageFields header name).flatten ++ data = bytes at hfields
  simp only [storageFields, FieldsAt, littleEndian_length, storageMagic_length, Nat.reduceAdd,
    pad_length hname] at hfields
  obtain ⟨-, -, -, -, -, -, -, -, hpad, -⟩ := hfields
  obtain ⟨hleft, hright⟩ := slice_pad hname hpad
  refine ⟨hleft, ?_⟩
  rw [zeroPadding, storageHeaderSize, Nat.sub_add_eq]
  change allZero (slice bytes (32 + name.length) (storageRecordNameSize - name.length)) = true
  rw [hright, allZero_replicate]

end

lemma decodeStorageResponse_encode {response : StorageResponse}
    (h : encodeStorageResponse response ≠ []) :
    decodeStorageResponse (encodeStorageResponse response) = some response := by
  rw [encodeStorageResponse] at h ⊢
  split at h
  · exact absurd rfl h
  rename_i hvalid
  rw [if_neg hvalid]
  simp only [not_or, not_and, not_lt, not_not] at hvalid
  obtain ⟨hid, hsize, hstatus, hcommand⟩ := hvalid
  have hnil : ([] : Bytes).length ≤ storageRecordNameSize := by simp
  rw [decodeStorageResponse, decodeStorageHeader_fields hnil (by simp) rfl hsize]
  have hpadding := (storageName {
    command := response.command, status := response.status, nameSize := 0
    dataSize := response.data.length, maximumSize := 0, requestId := response.requestId }
    response.data hnil).2
  simp only [List.length_nil, Nat.add_zero] at hpadding
  simp only [hpadding, storageData hnil]
  rw [if_neg]
  simp only [hid, not_or, not_and, List.length_eq_zero_iff, not_not, Bool.not_true]
  exact ⟨not_false, trivial, trivial, by simp, hstatus, hcommand⟩

lemma decodeStorageRequest_encode {request : StorageRequest} (h : encodeStorageRequest request ≠ []) :
    decodeStorageRequest (encodeStorageRequest request) = some request := by
  rw [encodeStorageRequest] at h ⊢
  split at h
  · exact absurd rfl h
  rename_i hvalid
  rw [if_neg hvalid]
  simp only [not_or, not_and, not_lt, not_not, Bool.not_eq_true', Bool.not_eq_false] at hvalid
  obtain ⟨hid, hrecord, hmaximum, hlimit, hwrite, hread⟩ := hvalid
  have hname : request.record ≠ [] ∧ request.record.length ≤ storageRecordNameSize := by
    simp only [validStorageRecordName, Bool.and_eq_true, decide_eq_true_eq] at hrecord
    exact ⟨hrecord.1.1.1.1, hrecord.1.1.1.2⟩
  have hdata : request.data.length ≤ request.maximumSize.toNat := by
    cases hcommand : request.command with
    | write => exact (hwrite hcommand).2
    | read => simp [hread (by simp [hcommand])]
  rw [decodeStorageRequest, decodeStorageHeader_fields hname.2 hname.2 rfl (hdata.trans hlimit)]
  obtain ⟨hname', hpadding⟩ := storageName {
    command := request.command, status := .ok, nameSize := request.record.length
    dataSize := request.data.length, maximumSize := request.maximumSize
    requestId := request.requestId } request.data hname.2
  simp only [hpadding, hname', storageData hname.2, hrecord]
  rw [if_neg, if_neg]
  · simp only [not_or, not_and, List.length_eq_zero_iff, not_not, Bool.not_true, Bool.false_eq_true]
    exact ⟨not_false, fun hcommand => (hwrite hcommand).1, hread⟩
  · simp only [not_or, not_lt, List.length_eq_zero_iff, Bool.not_true, Bool.false_eq_true, not_not]
    exact ⟨trivial, hid, hname.1, hname.2, hmaximum, hlimit, hdata, not_false⟩

lemma encodeStorageResponse_ne_nil {response : StorageResponse} (hid : response.requestId ≠ 0)
    (hsize : response.data.length ≤ maximumStorageRecordSize)
    (hstatus : response.status ≠ .ok → response.data = [])
    (hcommand : response.command = .write → response.data = []) :
    encodeStorageResponse response ≠ [] := by
  have hvalid : ¬ (response.requestId = 0 ∨ response.data.length > maximumStorageRecordSize ∨
      (response.status ≠ .ok ∧ response.data ≠ []) ∨
      (response.command = .write ∧ response.data ≠ [])) := by
    simp only [not_or, not_and, not_lt, not_not]
    exact ⟨hid, hsize, hstatus, hcommand⟩
  rw [encodeStorageResponse, if_neg hvalid]
  intro hempty
  have hlength := congrArg List.length hempty
  rw [List.length_append, storageFields_length (by simp)] at hlength
  simp [storageHeaderSize] at hlength

structure StorageRequest.Decoded (request : StorageRequest) : Prop where
  id : request.requestId ≠ 0
  record : validStorageRecordName request.record = true
  maximum : request.maximumSize.toNat ≤ maximumStorageRecordSize
  data : request.data.length ≤ maximumStorageRecordSize

lemma decodeStorageRequest_decoded {bytes : Bytes} {request : StorageRequest}
    (h : decodeStorageRequest bytes = some request) : request.Decoded := by
  rw [decodeStorageRequest] at h
  split at h
  · cases h
  · split at h
    · cases h
    · rename_i header _ hheader
      simp only at h
      split at h
      · cases h
      · rename_i hrecord
        obtain rfl := Option.some.inj h
        simp only [not_or, not_lt, Bool.not_eq_true', Bool.not_eq_false] at hheader hrecord
        obtain ⟨-, hid, -, -, -, hmaximum, hdata, -⟩ := hheader
        have hslice : (slice bytes storageHeaderSize header.dataSize).length ≤ header.dataSize := by
          rw [slice, List.length_take]
          exact Nat.min_le_left _ _
        exact ⟨hid, hrecord.1, hmaximum, hslice.trans (hdata.trans hmaximum)⟩

lemma storageCommand_code {command : StorageCommand} {n : ℕ}
    (h : StorageCommand.ofCode n = some command) : n = command.code := by
  rw [StorageCommand.ofCode.eq_def] at h
  split at h
  · cases h
    rfl
  · cases h
    rfl
  · cases h

lemma storageStatus_code {status : StorageProtocolStatus} {n : ℕ}
    (h : StorageProtocolStatus.ofCode n = some status) : n = status.code := by
  rw [StorageProtocolStatus.ofCode.eq_def] at h
  split at h <;> cases h <;> rfl

section

variable {bytes : Bytes} {header : StorageHeader}

lemma decodeStorageHeader_cases (h : decodeStorageHeader bytes = some header) :
    bytes.length = storageHeaderSize + header.dataSize ∧ header.dataSize ≤ maximumStorageRecordSize ∧
      ∀ name, name.length ≤ storageRecordNameSize →
        slice bytes 32 storageRecordNameSize = pad storageRecordNameSize name →
        bytes = (storageFields header name).flatten ++ slice bytes storageHeaderSize header.dataSize := by
  rw [decodeStorageHeader] at h
  split at h
  · cases h
  rename_i hlayout
  split at h
  · rename_i command status hcommand hstatus
    dsimp only at h
    obtain ⟨⟨hdata, hlength⟩, hheader⟩ := Option.ite_none_right_eq_some.mp h
    obtain rfl := Option.some.inj hheader
    refine ⟨hlength, hdata, fun name hname hpad => ?_⟩
    simp only [not_or, not_lt, not_not] at hlayout
    obtain ⟨hmin, -, hmagic, hversion⟩ := hlayout
    have hmin : 96 ≤ bytes.length := hmin
    have hfields : FieldsAt bytes 0 (storageFields {
        command, status, nameSize := value (slice bytes 14 2), dataSize := value (slice bytes 16 4)
        maximumSize := readU32 bytes 20, requestId := readU64 bytes 24 } name) := by
      simp only [storageFields, FieldsAt, littleEndian_length, storageMagic_length, pad_length hname,
        Nat.reduceAdd, and_true]
      exact ⟨hmagic, littleEndian_of_value (slice_length (by omega)) hversion,
        littleEndian_of_value (slice_length (by omega)) (storageCommand_code hcommand),
        littleEndian_of_value (slice_length (by omega)) (storageStatus_code hstatus),
        littleEndian_of_value (slice_length (by omega)) rfl,
        littleEndian_of_value (slice_length (by omega)) rfl, slice_readU32 (by omega),
        slice_readU64 (by omega), hpad⟩
    have hhead := slice_eq_flatten.mpr hfields
    rw [storageFields_length hname] at hhead
    have hdrop : slice bytes storageHeaderSize (value (slice bytes 16 4)) =
        bytes.drop storageHeaderSize := List.take_of_length_le (by rw [List.length_drop]; omega)
    rw [hdrop, ← hhead]
    exact (List.take_append_drop storageHeaderSize bytes).symm
  · cases h

lemma decodeStorageRequest_reencode {request : StorageRequest}
    (h : decodeStorageRequest bytes = some request) : bytes = encodeStorageRequest request := by
  rw [decodeStorageRequest] at h
  split at h
  · cases h
  rename_i header hheader
  split at h
  · cases h
  rename_i hchecked
  dsimp only at h
  split at h
  · cases h
  rename_i hrecord
  obtain rfl := Option.some.inj h
  obtain ⟨hlength, hdata, hbytes⟩ := decodeStorageHeader_cases hheader
  simp only [not_or, not_lt, not_not, not_and, Bool.not_eq_true', Bool.not_eq_false, ne_eq,
    gt_iff_lt] at hchecked hrecord
  obtain ⟨hstatus, hid, hname, hnameSize, hmaximum, hlimit, hsize, hzero⟩ := hchecked
  obtain ⟨hvalid, hwrite, hread⟩ := hrecord
  have hlength' : bytes.length = 96 + header.dataSize := hlength
  have hnameSize' : header.nameSize ≤ 64 := hnameSize
  have hrecordLength : (slice bytes 32 header.nameSize).length = header.nameSize :=
    slice_length (by omega)
  have hdataLength : (slice bytes storageHeaderSize header.dataSize).length = header.dataSize :=
    slice_length (by omega)
  have hpad : slice bytes 32 storageRecordNameSize =
      pad storageRecordNameSize (slice bytes 32 header.nameSize) := by
    refine slice_eq_pad hnameSize (by rw [hlength', storageRecordNameSize]; omega) ?_
    rw [zeroPadding, storageHeaderSize] at hzero
    rw [storageRecordNameSize, ← show 96 - (32 + header.nameSize) = 64 - header.nameSize by omega]
    exact hzero
  rw [encodeStorageRequest, if_neg]
  · rw [hrecordLength, hdataLength, ← hstatus]
    exact hbytes _ (by rw [hrecordLength]; exact hnameSize) hpad
  · simp only [not_or, not_and, not_lt, not_not, hdataLength, ← List.length_eq_zero_iff, gt_iff_lt,
      Bool.not_eq_true', Bool.not_eq_false]
    exact ⟨hid, hvalid, hmaximum, hlimit, fun hcommand => ⟨hwrite hcommand, hsize⟩, hread⟩

lemma decodeStorageResponse_reencode {response : StorageResponse}
    (h : decodeStorageResponse bytes = some response) : bytes = encodeStorageResponse response := by
  rw [decodeStorageResponse] at h
  split at h
  · cases h
  rename_i header hheader
  split at h
  · cases h
  rename_i hchecked
  obtain rfl := Option.some.inj h
  obtain ⟨hlength, hdata, hbytes⟩ := decodeStorageHeader_cases hheader
  simp only [not_or, not_not, not_and, Bool.not_eq_true', Bool.not_eq_false, ne_eq] at hchecked
  obtain ⟨hid, hname, hmaximum, hzero, hstatus, hcommand⟩ := hchecked
  have hlength' : bytes.length = 96 + header.dataSize := hlength
  have hdataLength : (slice bytes storageHeaderSize header.dataSize).length = header.dataSize :=
    slice_length (by omega)
  have hpad : slice bytes 32 storageRecordNameSize = pad storageRecordNameSize [] := by
    exact slice_eq_pad (Nat.zero_le _) (by rw [hlength', storageRecordNameSize]; omega) hzero
  rw [encodeStorageResponse, if_neg]
  · rw [hdataLength, ← hname, ← hmaximum]
    exact hbytes [] (Nat.zero_le _) hpad
  · simp only [not_or, not_and, not_lt, not_not, hdataLength, ← List.length_eq_zero_iff, gt_iff_lt]
    exact ⟨hid, hdata, hstatus, hcommand⟩

lemma decodeStorageHeader_length (h : decodeStorageHeader bytes = some header) :
    bytes.length ≤ maximumStoragePacketSize := by
  obtain ⟨hlength, hdata, -⟩ := decodeStorageHeader_cases h
  rw [hlength, maximumStoragePacketSize]
  exact Nat.add_le_add_left hdata _

lemma decodeStorageRequest_length {request : StorageRequest}
    (h : decodeStorageRequest bytes = some request) : bytes.length ≤ maximumStoragePacketSize := by
  rw [decodeStorageRequest] at h
  split at h
  · cases h
  · rename_i header hheader
    exact decodeStorageHeader_length hheader

lemma decodeStorageResponse_length {response : StorageResponse}
    (h : decodeStorageResponse bytes = some response) : bytes.length ≤ maximumStoragePacketSize := by
  rw [decodeStorageResponse] at h
  split at h
  · cases h
  · rename_i header hheader
    exact decodeStorageHeader_length hheader

end

/-- What is encoded is read back, and what is read is what its message is encoded as. -/
theorem storage_protocol_round_trips :
    (∀ request : StorageRequest, encodeStorageRequest request ≠ [] →
      decodeStorageRequest (encodeStorageRequest request) = some request ∧
        (encodeStorageRequest request).length ≤ 65632) ∧
    (∀ response : StorageResponse, encodeStorageResponse response ≠ [] →
      decodeStorageResponse (encodeStorageResponse response) = some response ∧
        (encodeStorageResponse response).length ≤ 65632) ∧
    (∀ bytes request, decodeStorageRequest bytes = some request → bytes = encodeStorageRequest request) ∧
    (∀ bytes response, decodeStorageResponse bytes = some response →
      bytes = encodeStorageResponse response) := by
  refine ⟨fun request h => ?_, fun response h => ?_, fun bytes request => ?_, fun bytes response => ?_⟩
  · have hdecoded := decodeStorageRequest_encode h
    exact ⟨hdecoded, decodeStorageRequest_length hdecoded⟩
  · have hdecoded := decodeStorageResponse_encode h
    exact ⟨hdecoded, decodeStorageResponse_length hdecoded⟩
  · exact decodeStorageRequest_reencode
  · exact decodeStorageResponse_reencode

def scoreWrite : StorageRequest where
  command := .write
  requestId := 3
  record := text "score"
  maximumSize := 16
  data := text "42"

theorem score_write_round_trips :
    decodeStorageRequest (encodeStorageRequest scoreWrite) = some scoreWrite :=
  (storage_protocol_round_trips.1 scoreWrite (by decide)).1

end LvglPlatform

import LvglPlatform.Services.InboxService

namespace LvglPlatform

open Foundation

inductive InstallerCommand
  | scan
  | candidate
  | install
  | installedScan
  | installedCandidate
  | rollback
  | remove
  deriving DecidableEq, Repr

def InstallerCommand.code : InstallerCommand → ℕ
  | .scan => 1
  | .candidate => 2
  | .install => 3
  | .installedScan => 4
  | .installedCandidate => 5
  | .rollback => 6
  | .remove => 7

def InstallerCommand.ofCode : ℕ → Option InstallerCommand
  | 1 => some .scan
  | 2 => some .candidate
  | 3 => some .install
  | 4 => some .installedScan
  | 5 => some .installedCandidate
  | 6 => some .rollback
  | 7 => some .remove
  | _ => none

inductive InstallerProtocolStatus
  | ready
  | empty
  | invalidRequest
  | rejected
  | notFound
  | unavailable
  | ioError
  deriving DecidableEq, Repr

def InstallerProtocolStatus.code : InstallerProtocolStatus → ℕ
  | .ready => 0
  | .empty => 1
  | .invalidRequest => 2
  | .rejected => 3
  | .notFound => 4
  | .unavailable => 5
  | .ioError => 6

def InstallerProtocolStatus.ofCode : ℕ → Option InstallerProtocolStatus
  | 0 => some .ready
  | 1 => some .empty
  | 2 => some .invalidRequest
  | 3 => some .rejected
  | 4 => some .notFound
  | 5 => some .unavailable
  | 6 => some .ioError
  | _ => none

structure InstallerRequest where
  command : InstallerCommand := .scan
  requestId : UInt64 := 0
  index : UInt32 := 0
  token : Bytes := []
  deriving DecidableEq

structure InstalledApplicationCandidate where
  token : Bytes := []
  appId : Bytes := []
  name : Bytes := []
  version : Bytes := []
  detail : Bytes := []
  currentRelease : UInt64 := 0
  previousRelease : UInt64 := 0
  securityEpoch : UInt32 := 0
  policyTrusted : Bool := false
  currentVerified : Bool := false
  rollbackAvailable : Bool := false
  deriving DecidableEq

structure InstallerResponse where
  command : InstallerCommand := .scan
  status : InstallerProtocolStatus := .invalidRequest
  requestId : UInt64 := 0
  count : UInt32 := 0
  detail : Bytes := []
  candidate : InboxCandidate := {}
  installed : InstalledApplicationCandidate := {}
  deriving DecidableEq

def installerRequestSize : ℕ := 160

def installerResponseSize : ℕ := 768

def installerMagic : Bytes := text "LVINST2" ++ [0]

def tokenLimit : ℕ := 128

def appIdLimit : ℕ := 96

def nameLimit : ℕ := 96

def versionLimit : ℕ := 32

def detailLimit : ℕ := 256

def validToken (token : Bytes) : Bool := lowercaseHex token tokenLimit

def printableByte (c : UInt8) : Bool := 0x20 ≤ c && c ≠ 0x7f

def validText (text : Bytes) (maximum : ℕ) (allowEmpty : Bool) : Bool :=
  (allowEmpty || text ≠ []) && text.length ≤ maximum && text.all printableByte

def validCandidate (candidate : InboxCandidate) : Bool :=
  validToken candidate.token && validSessionAppId candidate.appId &&
    validText candidate.name nameLimit false && validText candidate.version versionLimit false &&
    validText candidate.detail detailLimit false && candidate.releaseCounter ≠ 0 &&
    candidate.packageSize ≠ 0

def validInstalled (candidate : InstalledApplicationCandidate) : Bool :=
  validToken candidate.token && validSessionAppId candidate.appId &&
    validText candidate.name nameLimit false && validText candidate.version versionLimit false &&
    validText candidate.detail detailLimit false &&
    (if candidate.policyTrusted then candidate.currentRelease ≠ 0
      else candidate.currentRelease = 0 ∧ candidate.previousRelease = 0) &&
    (!candidate.currentVerified || candidate.policyTrusted) &&
    (!candidate.rollbackAvailable || (candidate.policyTrusted && candidate.previousRelease ≠ 0))

def indexCommand (command : InstallerCommand) : Bool :=
  command = .candidate || command = .installedCandidate

def tokenCommand (command : InstallerCommand) : Bool :=
  command = .install || command = .rollback || command = .remove

def countCommand (command : InstallerCommand) : Bool := command = .scan || command = .installedScan

/-- What both ends check of a request. -/
def validInstallerRequest (request : InstallerRequest) : Bool :=
  request.requestId ≠ 0 && (indexCommand request.command || request.index = 0) &&
    (if tokenCommand request.command then validToken request.token else request.token = [])

def installerRequestFields (request : InstallerRequest) : List Bytes :=
  [installerMagic,
    littleEndian 2 2,
    littleEndian 2 request.command.code,
    littleEndian 4 0,
    littleEndian 8 request.requestId.toNat,
    littleEndian 4 request.index.toNat,
    littleEndian 2 request.token.length,
    littleEndian 2 0,
    pad tokenLimit request.token]

/-- An invalid request is encoded as zeroes. -/
def encodeInstallerRequest (request : InstallerRequest) : Bytes :=
  if !validInstallerRequest request then List.replicate installerRequestSize 0
  else (installerRequestFields request).flatten

def decodeInstallerRequest (bytes : Bytes) : Option InstallerRequest :=
  if bytes.length ≠ installerRequestSize ∨ slice bytes 0 8 ≠ installerMagic ∨
      value (slice bytes 8 2) ≠ 2 ∨ value (slice bytes 12 4) ≠ 0 ∨ value (slice bytes 30 2) ≠ 0 then none
  else match InstallerCommand.ofCode (value (slice bytes 10 2)) with
    | none => none
    | some command =>
      let tokenSize := value (slice bytes 28 2)
      let request : InstallerRequest := {
        command
        requestId := readU64 bytes 16
        index := readU32 bytes 24
        token := slice bytes 32 tokenSize }
      if tokenSize > tokenLimit ∨ !allZero (bytes.drop (32 + tokenSize)) ∨
          !validInstallerRequest request then none
      else some request

structure WireText where
  offset : ℕ
  width : ℕ
  limit : ℕ

def tokenText : WireText := ⟨80, 128, tokenLimit⟩

def appIdText : WireText := ⟨208, 96, appIdLimit⟩

def nameText : WireText := ⟨304, 96, nameLimit⟩

def versionText : WireText := ⟨400, 32, versionLimit⟩

def detailText : WireText := ⟨432, 336, detailLimit⟩

structure ResponseWire where
  command : InstallerCommand
  status : InstallerProtocolStatus
  flags : ℕ := 0
  requestId : UInt64
  count : UInt32 := 0
  release : UInt64 := 0
  packageSize : UInt64 := 0
  epoch : UInt32 := 0
  token : Bytes := []
  appId : Bytes := []
  name : Bytes := []
  version : Bytes := []
  detail : Bytes
  deriving DecidableEq

def ResponseWire.fields (wire : ResponseWire) : List Bytes :=
  [installerMagic,
    littleEndian 2 2,
    littleEndian 2 wire.command.code,
    littleEndian 2 wire.status.code,
    littleEndian 2 wire.flags,
    littleEndian 8 wire.requestId.toNat,
    littleEndian 4 wire.count.toNat,
    littleEndian 4 0,
    littleEndian 8 wire.release.toNat,
    littleEndian 8 wire.packageSize.toNat,
    littleEndian 4 wire.epoch.toNat,
    littleEndian 2 wire.token.length,
    littleEndian 2 wire.appId.length,
    littleEndian 2 wire.name.length,
    littleEndian 2 wire.version.length,
    littleEndian 2 wire.detail.length,
    List.replicate 18 0,
    pad tokenText.width wire.token,
    pad appIdText.width wire.appId,
    pad nameText.width wire.name,
    pad versionText.width wire.version,
    pad detailText.width wire.detail]

def readText (bytes : Bytes) (field : WireText) (size : ℕ) : Option Bytes :=
  if size > field.limit ∨ !allZero (slice bytes (field.offset + size) (field.width - size)) then none
  else some (slice bytes field.offset size)

def ResponseWire.decode (bytes : Bytes) : Option ResponseWire :=
  if bytes.length ≠ installerResponseSize ∨ slice bytes 0 8 ≠ installerMagic ∨
      value (slice bytes 8 2) ≠ 2 ∨ !allZero (slice bytes 28 4) ∨ !allZero (slice bytes 62 18) then none
  else do
    let command ← InstallerCommand.ofCode (value (slice bytes 10 2))
    let status ← InstallerProtocolStatus.ofCode (value (slice bytes 12 2))
    let flags := value (slice bytes 14 2)
    let requestId := readU64 bytes 16
    if requestId = 0 ∨ flags > 7 then none
    else
      let token ← readText bytes tokenText (value (slice bytes 52 2))
      let appId ← readText bytes appIdText (value (slice bytes 54 2))
      let name ← readText bytes nameText (value (slice bytes 56 2))
      let version ← readText bytes versionText (value (slice bytes 58 2))
      let detail ← readText bytes detailText (value (slice bytes 60 2))
      some {
        command, status, flags, requestId, token, appId, name, version, detail
        count := readU32 bytes 24
        release := readU64 bytes 32
        packageSize := readU64 bytes 40
        epoch := readU32 bytes 48 }

def carriesCandidate (command : InstallerCommand) (status : InstallerProtocolStatus) : Bool :=
  command = .candidate && status = .ready

def carriesInstalled (command : InstallerCommand) (status : InstallerProtocolStatus) : Bool :=
  command = .installedCandidate && status = .ready

abbrev InstallerResponse.hasCandidate (response : InstallerResponse) : Bool :=
  carriesCandidate response.command response.status

abbrev InstallerResponse.hasInstalled (response : InstallerResponse) : Bool :=
  carriesInstalled response.command response.status

def validInstallerResponse (response : InstallerResponse) : Bool :=
  response.requestId ≠ 0 && validText response.detail detailLimit false &&
    (if response.hasCandidate then validCandidate response.candidate else response.candidate = {}) &&
    (if response.hasInstalled then validInstalled response.installed else response.installed = {}) &&
    (countCommand response.command || response.count = 0)

def installedFlags (installed : InstalledApplicationCandidate) : ℕ :=
  (if installed.currentVerified then 1 else 0) + (if installed.rollbackAvailable then 2 else 0) +
    (if installed.policyTrusted then 4 else 0)

def responseWire (response : InstallerResponse) : ResponseWire :=
  if response.hasCandidate then {
    command := response.command
    status := response.status
    flags := if response.candidate.installable then 1 else 0
    requestId := response.requestId
    count := response.count
    release := response.candidate.releaseCounter
    packageSize := response.candidate.packageSize
    epoch := response.candidate.securityEpoch
    token := response.candidate.token
    appId := response.candidate.appId
    name := response.candidate.name
    version := response.candidate.version
    detail := response.detail }
  else if response.hasInstalled then {
    command := response.command
    status := response.status
    flags := installedFlags response.installed
    requestId := response.requestId
    count := response.count
    release := response.installed.currentRelease
    packageSize := response.installed.previousRelease
    epoch := response.installed.securityEpoch
    token := response.installed.token
    appId := response.installed.appId
    name := response.installed.name
    version := response.installed.version
    detail := response.detail }
  else {
    command := response.command
    status := response.status
    requestId := response.requestId
    count := response.count
    detail := response.detail }

/-- An invalid response is encoded as zeroes, which the broker takes for a failure. -/
def encodeInstallerResponse (response : InstallerResponse) : Bytes :=
  if validInstallerResponse response then (responseWire response).fields.flatten
  else List.replicate installerResponseSize 0

def ResponseWire.candidate (wire : ResponseWire) : InboxCandidate where
  token := wire.token
  appId := wire.appId
  name := wire.name
  version := wire.version
  detail := wire.detail
  releaseCounter := wire.release
  securityEpoch := wire.epoch
  packageSize := wire.packageSize
  installable := wire.flags = 1

def flagSet (flags mask : ℕ) : Bool := flags &&& mask ≠ 0

def ResponseWire.installed (wire : ResponseWire) : InstalledApplicationCandidate where
  token := wire.token
  appId := wire.appId
  name := wire.name
  version := wire.version
  detail := wire.detail
  currentRelease := wire.release
  previousRelease := wire.packageSize
  securityEpoch := wire.epoch
  policyTrusted := flagSet wire.flags 4
  currentVerified := flagSet wire.flags 1
  rollbackAvailable := flagSet wire.flags 2

def decodedResponse (wire : ResponseWire) : Option InstallerResponse :=
  let decoded : InstallerResponse := {
    command := wire.command
    status := wire.status
    requestId := wire.requestId
    count := wire.count
    detail := wire.detail }
  if !validText wire.detail detailLimit false then none
  else if carriesCandidate wire.command wire.status then
    if wire.flags > 1 ∨ !validCandidate wire.candidate ∨ wire.count ≠ 0 then none
    else some { decoded with candidate := wire.candidate }
  else if carriesInstalled wire.command wire.status then
    if !validInstalled wire.installed ∨ wire.count ≠ 0 then none
    else some { decoded with installed := wire.installed }
  else if wire.flags ≠ 0 ∨ wire.token ≠ [] ∨ wire.appId ≠ [] ∨ wire.name ≠ [] ∨ wire.version ≠ [] ∨
      wire.release ≠ 0 ∨ wire.packageSize ≠ 0 ∨ wire.epoch ≠ 0 ∨
      (!countCommand wire.command ∧ wire.count ≠ 0) then none
  else some decoded

def decodeInstallerResponse (bytes : Bytes) : Option InstallerResponse :=
  (ResponseWire.decode bytes).bind decodedResponse

lemma readText_pad (field : WireText) {bytes text : Bytes} {size : ℕ} (hsize : size = text.length)
    (hlimit : text.length ≤ field.limit) (hwidth : field.limit ≤ field.width)
    (h : slice bytes field.offset field.width = pad field.width text) :
    readText bytes field size = some text := by
  obtain ⟨htext, hzeroes⟩ := slice_pad (hlimit.trans hwidth) h
  rw [readText, hsize, htext, hzeroes, allZero_replicate, if_neg]
  simp only [not_or, not_lt, Bool.not_true, Bool.false_eq_true, not_false_eq_true, and_true]
  exact hlimit

structure ResponseWire.Fits (wire : ResponseWire) : Prop where
  flags : wire.flags ≤ 7
  requestId : wire.requestId ≠ 0
  token : wire.token.length ≤ tokenLimit
  appId : wire.appId.length ≤ appIdLimit
  name : wire.name.length ≤ nameLimit
  version : wire.version.length ≤ versionLimit
  detail : wire.detail.length ≤ detailLimit

lemma installerMagic_length : installerMagic.length = 8 := by decide

lemma installerCommand_ofCode (command : InstallerCommand) :
    InstallerCommand.ofCode (value (littleEndian 2 command.code)) = some command := by
  cases command <;> rfl

lemma installerStatus_ofCode (status : InstallerProtocolStatus) :
    InstallerProtocolStatus.ofCode (value (littleEndian 2 status.code)) = some status := by
  cases status <;> rfl

lemma ResponseWire.decode_fields {wire : ResponseWire} (h : wire.Fits) :
    ResponseWire.decode wire.fields.flatten = some wire := by
  obtain ⟨hflags, hid, htoken, happ, hname, hversion, hdetail⟩ := h
  have hwidths : ∀ field ∈ [tokenText, appIdText, nameText, versionText, detailText],
      field.limit ≤ field.width := by decide
  have hpads : ∀ field ∈ [tokenText, appIdText, nameText, versionText, detailText], ∀ text : Bytes,
      text.length ≤ field.limit → (pad field.width text).length = field.width :=
    fun field hfield text htext => pad_length (htext.trans (hwidths field hfield))
  have hfields : FieldsAt wire.fields.flatten 0 wire.fields := by
    apply slice_eq_flatten.mp
    exact slice_all le_rfl
  have hptoken := hpads tokenText (by simp) wire.token htoken
  have hpapp := hpads appIdText (by simp) wire.appId happ
  have hpname := hpads nameText (by simp) wire.name hname
  have hpversion := hpads versionText (by simp) wire.version hversion
  have hpdetail := hpads detailText (by simp) wire.detail hdetail
  have hlength : wire.fields.flatten.length = installerResponseSize := by
    simp only [ResponseWire.fields, List.flatten_cons, List.flatten_nil, List.length_append,
      List.length_nil, littleEndian_length, installerMagic_length, List.length_replicate, hptoken,
      hpapp, hpname, hpversion, hpdetail]
    rfl
  generalize wire.fields.flatten = bytes at hfields hlength
  simp only [ResponseWire.fields, FieldsAt, littleEndian_length, installerMagic_length,
    List.length_replicate, Nat.reduceAdd, hptoken, hpapp, hpname, hpversion, hpdetail] at hfields
  simp only [tokenText, appIdText, nameText, versionText, detailText, Nat.reduceAdd] at hfields
  obtain ⟨hmagic, hversionNumber, hcommand, hstatus, hflagsAt, hidAt, hcount, hgap, hrelease, hsize,
    hepoch, htokenSize, happSize, hnameSize, hversionSize, hdetailSize, hreserved, htokenAt, happAt,
    hnameAt, hversionAt, hdetailAt, -⟩ := hfields
  have hread : ∀ {offset n : ℕ}, slice bytes offset 2 = littleEndian 2 n → n ≤ detailLimit →
      value (slice bytes offset 2) = n := by
    intro offset n hslice hn
    rw [detailLimit] at hn
    rw [hslice, value_littleEndian_of_lt (by omega)]
  rw [ResponseWire.decode, if_neg]
  · rw [hcommand, hstatus, installerCommand_ofCode, installerStatus_ofCode]
    simp only [Option.bind_eq_bind, Option.bind_some]
    rw [hread hflagsAt (hflags.trans (by decide)), readU64_of_slice hidAt, if_neg,
      readText_pad tokenText (hread htokenSize (htoken.trans (by decide))) htoken (by decide) htokenAt,
      readText_pad appIdText (hread happSize (happ.trans (by decide))) happ (by decide) happAt,
      readText_pad nameText (hread hnameSize (hname.trans (by decide))) hname (by decide) hnameAt,
      readText_pad versionText (hread hversionSize (hversion.trans (by decide))) hversion (by decide)
        hversionAt,
      readText_pad detailText (hread hdetailSize hdetail) hdetail (by decide) hdetailAt,
      readU32_of_slice hcount, readU64_of_slice hrelease, readU64_of_slice hsize,
      readU32_of_slice hepoch]
    · rfl
    · simp [hid, hflags]
  · rw [hlength, hmagic, hversionNumber, hgap, hreserved]
    decide

lemma installedFlags_bits (installed : InstalledApplicationCandidate) :
    flagSet (installedFlags installed) 4 = installed.policyTrusted ∧
      flagSet (installedFlags installed) 1 = installed.currentVerified ∧
      flagSet (installedFlags installed) 2 = installed.rollbackAvailable := by
  rw [installedFlags]
  cases installed.policyTrusted <;> cases installed.currentVerified <;>
    cases installed.rollbackAvailable <;> decide

/-- The detail inside a response is the detail of the response. -/
structure InstallerResponse.SameDetail (response : InstallerResponse) : Prop where
  candidate : response.hasCandidate = true → response.candidate.detail = response.detail
  installed : response.hasInstalled = true → response.installed.detail = response.detail

section

variable {response : InstallerResponse}

lemma hasInstalled_excludes (h : response.hasInstalled = true) : response.hasCandidate = false := by
  simp only [carriesInstalled, Bool.and_eq_true, decide_eq_true_eq] at h
  simp [carriesCandidate, h.1]

lemma responseWire_candidate (hhas : response.hasCandidate = true) (hdetail : response.SameDetail) :
    (responseWire response).candidate = response.candidate := by
  have hsame := hdetail.candidate hhas
  rw [responseWire, if_pos hhas, ResponseWire.candidate, ← hsame]
  cases response.candidate with
  | mk token appId name version detail releaseCounter securityEpoch packageSize installable =>
    cases installable <;> rfl

lemma responseWire_installed (hhas : response.hasInstalled = true) (hdetail : response.SameDetail) :
    (responseWire response).installed = response.installed := by
  have hsame := hdetail.installed hhas
  rw [responseWire, hasInstalled_excludes hhas, if_neg (by simp), if_pos hhas, ResponseWire.installed,
    ← hsame]
  obtain ⟨htrusted, hverified, havailable⟩ := installedFlags_bits response.installed
  simp only [htrusted, hverified, havailable]

lemma responseWire_common :
    (responseWire response).command = response.command ∧
      (responseWire response).status = response.status ∧
      (responseWire response).requestId = response.requestId ∧
      (responseWire response).count = response.count ∧
      (responseWire response).detail = response.detail := by
  rw [responseWire]
  split
  · exact ⟨rfl, rfl, rfl, rfl, rfl⟩
  split
  · exact ⟨rfl, rfl, rfl, rfl, rfl⟩
  · exact ⟨rfl, rfl, rfl, rfl, rfl⟩

lemma decodedResponse_responseWire (hvalid : validInstallerResponse response = true)
    (hdetail : response.SameDetail) : decodedResponse (responseWire response) = some response := by
  simp only [validInstallerResponse, Bool.and_eq_true, Bool.or_eq_true, decide_eq_true_eq] at hvalid
  obtain ⟨⟨⟨⟨-, htext⟩, hcandidate⟩, hinstalled⟩, hcount⟩ := hvalid
  obtain ⟨hcommand, hstatus, hid, hcounts, htexts⟩ := responseWire_common
  rw [decodedResponse, hcommand, hstatus, hid, hcounts, htexts, if_neg (by simp [htext])]
  by_cases hhas : response.hasCandidate = true
  · have hnot : response.hasInstalled = false := by
      by_contra hown
      simp [hasInstalled_excludes (by simpa using hown)] at hhas
    have hcase := hhas
    simp only [carriesCandidate, Bool.and_eq_true, decide_eq_true_eq] at hcase
    have hcount : response.count = 0 := by simpa [hcase.1, countCommand] using hcount
    have hflags : (responseWire response).flags ≤ 1 := by
      rw [responseWire, if_pos hhas]
      dsimp only
      split <;> decide
    rw [hnot, if_neg (by simp)] at hinstalled
    rw [if_pos hhas] at hcandidate
    rw [responseWire_candidate hhas hdetail, if_pos hhas, if_neg]
    · have hempty : response.installed = {} := by simpa using hinstalled
      rw [← hempty]
    · simp [hcandidate, hcount, hflags]
  rw [Bool.not_eq_true] at hhas
  rw [hhas, if_neg (by simp)] at hcandidate
  rw [if_neg (by simp [hhas])]
  have hnone : response.candidate = {} := by simpa using hcandidate
  by_cases hown : response.hasInstalled = true
  · have hcase := hown
    simp only [carriesInstalled, Bool.and_eq_true, decide_eq_true_eq] at hcase
    have hcount : response.count = 0 := by simpa [hcase.1, countCommand] using hcount
    rw [if_pos hown] at hinstalled
    rw [responseWire_installed hown hdetail, if_pos hown, if_neg (by simp [hinstalled, hcount]), ← hnone]
  · rw [Bool.not_eq_true] at hown
    rw [hown, if_neg (by simp)] at hinstalled
    have hempty : response.installed = {} := by simpa using hinstalled
    rw [if_neg (by simp [hown])]
    have hwire : responseWire response = {
        command := response.command, status := response.status, requestId := response.requestId
        count := response.count, detail := response.detail } := by
      rw [responseWire, if_neg (by simp [hhas]), if_neg (by simp [hown])]
    rw [hwire, if_neg (by simpa [or_iff_not_imp_left] using hcount), ← hnone, ← hempty]

lemma validText_length {text : Bytes} {maximum : ℕ} {allowEmpty : Bool}
    (h : validText text maximum allowEmpty = true) : text.length ≤ maximum := by
  simp only [validText, Bool.and_eq_true, decide_eq_true_eq] at h
  exact h.1.2

lemma validToken_length {token : Bytes} (h : validToken token = true) : token.length = tokenLimit := by
  simp only [validToken, lowercaseHex, Bool.and_eq_true, decide_eq_true_eq] at h
  exact h.1

lemma installedFlags_le (installed : InstalledApplicationCandidate) : installedFlags installed ≤ 7 := by
  rw [installedFlags]
  split <;> split <;> split <;> decide

lemma responseWire_fits (hvalid : validInstallerResponse response = true) :
    (responseWire response).Fits := by
  simp only [validInstallerResponse, Bool.and_eq_true, decide_eq_true_eq] at hvalid
  obtain ⟨⟨⟨⟨hid, htext⟩, hcandidate⟩, hinstalled⟩, -⟩ := hvalid
  have hdetail := validText_length htext
  rw [responseWire]
  split
  · rename_i hhas
    rw [if_pos hhas] at hcandidate
    simp only [validCandidate, Bool.and_eq_true] at hcandidate
    obtain ⟨⟨⟨⟨⟨⟨htoken, happ⟩, hname⟩, hversion⟩, -⟩, -⟩, -⟩ := hcandidate
    refine ⟨?_, hid, (validToken_length htoken).le, (identifier_length happ).2.trans (by decide),
      validText_length hname, validText_length hversion, hdetail⟩
    dsimp only
    split <;> decide
  split
  · rename_i hown
    rw [if_pos hown] at hinstalled
    simp only [validInstalled, Bool.and_eq_true] at hinstalled
    obtain ⟨⟨⟨⟨⟨⟨⟨htoken, happ⟩, hname⟩, hversion⟩, -⟩, -⟩, -⟩, -⟩ := hinstalled
    exact ⟨installedFlags_le _, hid, (validToken_length htoken).le,
      (identifier_length happ).2.trans (by decide), validText_length hname, validText_length hversion,
      hdetail⟩
  · exact ⟨Nat.zero_le _, hid, Nat.zero_le _, Nat.zero_le _, Nat.zero_le _, Nat.zero_le _, hdetail⟩

/-- The response as it arrives: the detail of a candidate is not sent apart. -/
def InstallerResponse.arrived (response : InstallerResponse) : InstallerResponse where
  command := response.command
  status := response.status
  requestId := response.requestId
  count := response.count
  detail := response.detail
  candidate :=
    if response.hasCandidate then { response.candidate with detail := response.detail }
    else response.candidate
  installed :=
    if response.hasInstalled then { response.installed with detail := response.detail }
    else response.installed

lemma arrived_candidate (h : response.hasCandidate = true) :
    response.arrived.candidate = { response.candidate with detail := response.detail } := if_pos h

lemma arrived_installed (h : response.hasInstalled = true) :
    response.arrived.installed = { response.installed with detail := response.detail } := if_pos h

lemma arrived_sameDetail : response.arrived.SameDetail := by
  refine ⟨fun h => ?_, fun h => ?_⟩
  · have hhas : response.hasCandidate = true := h
    rw [arrived_candidate hhas]
    rfl
  · have hown : response.hasInstalled = true := h
    rw [arrived_installed hown]
    rfl

lemma arrived_of_sameDetail (h : response.SameDetail) : response.arrived = response := by
  have hcandidate : response.arrived.candidate = response.candidate := by
    by_cases hhas : response.hasCandidate = true
    · rw [arrived_candidate hhas, ← h.candidate hhas]
    · exact if_neg hhas
  have hinstalled : response.arrived.installed = response.installed := by
    by_cases hown : response.hasInstalled = true
    · rw [arrived_installed hown, ← h.installed hown]
    · exact if_neg hown
  calc response.arrived = { response with
        candidate := response.arrived.candidate, installed := response.arrived.installed } := rfl
    _ = response := by rw [hcandidate, hinstalled]

lemma arrived_wire : responseWire response.arrived = responseWire response := by
  by_cases hhas : response.hasCandidate = true
  · have harrived : response.arrived.hasCandidate = true := hhas
    rw [responseWire, responseWire, if_pos hhas, if_pos harrived, arrived_candidate hhas]
    rfl
  have harrived : ¬ response.arrived.hasCandidate = true := hhas
  by_cases hown : response.hasInstalled = true
  · have howns : response.arrived.hasInstalled = true := hown
    rw [responseWire, responseWire, if_neg hhas, if_neg harrived, if_pos hown, if_pos howns,
      arrived_installed hown]
    rfl
  · have howns : ¬ response.arrived.hasInstalled = true := hown
    rw [responseWire, responseWire, if_neg hhas, if_neg harrived, if_neg hown, if_neg howns]
    rfl

lemma arrived_valid (hvalid : validInstallerResponse response = true) :
    validInstallerResponse response.arrived = true := by
  simp only [validInstallerResponse, Bool.and_eq_true] at hvalid ⊢
  obtain ⟨⟨⟨⟨hid, htext⟩, hcandidate⟩, hinstalled⟩, hcount⟩ := hvalid
  refine ⟨⟨⟨⟨hid, htext⟩, ?_⟩, ?_⟩, hcount⟩
  · change (if response.hasCandidate then _ else _) = true
    by_cases hhas : response.hasCandidate = true
    · rw [if_pos hhas] at hcandidate ⊢
      simp only [validCandidate, Bool.and_eq_true] at hcandidate
      rw [arrived_candidate hhas]
      simp only [validCandidate, Bool.and_eq_true]
      exact ⟨⟨⟨hcandidate.1.1.1, htext⟩, hcandidate.1.2⟩, hcandidate.2⟩
    · have hkept : response.arrived.candidate = response.candidate := if_neg hhas
      rw [if_neg hhas] at hcandidate ⊢
      rwa [hkept]
  · change (if response.hasInstalled then _ else _) = true
    by_cases hown : response.hasInstalled = true
    · rw [if_pos hown] at hinstalled ⊢
      simp only [validInstalled, Bool.and_eq_true] at hinstalled
      rw [arrived_installed hown]
      simp only [validInstalled, Bool.and_eq_true]
      exact ⟨⟨⟨⟨hinstalled.1.1.1.1, htext⟩, hinstalled.1.1.2⟩, hinstalled.1.2⟩, hinstalled.2⟩
    · have hkept : response.arrived.installed = response.installed := if_neg hown
      rw [if_neg hown] at hinstalled ⊢
      rwa [hkept]

lemma decodeInstallerResponse_encode (hvalid : validInstallerResponse response = true) :
    decodeInstallerResponse (encodeInstallerResponse response) = some response.arrived := by
  rw [encodeInstallerResponse, if_pos hvalid, ← arrived_wire, decodeInstallerResponse,
    ResponseWire.decode_fields (responseWire_fits (arrived_valid hvalid))]
  exact decodedResponse_responseWire (arrived_valid hvalid) arrived_sameDetail

/-- The broker takes an answer for a failure exactly when it is not valid. -/
lemma encodeInstallerResponse_head :
    (encodeInstallerResponse response).head? = some 0 ↔ validInstallerResponse response = false := by
  rw [encodeInstallerResponse]
  split
  · rename_i hvalid
    have hmagic : installerMagic.head? = some 76 := by decide
    have hhead : (responseWire response).fields.flatten.head? = some 76 := by
      rw [ResponseWire.fields, List.flatten_cons, List.head?_append, hmagic]
      rfl
    rw [hhead, hvalid]
    decide
  · rename_i hinvalid
    exact iff_of_true rfl (by simpa using hinvalid)

end

lemma decodeInstallerRequest_encode {request : InstallerRequest}
    (hvalid : validInstallerRequest request = true) :
    decodeInstallerRequest (encodeInstallerRequest request) = some request := by
  have htoken : request.token.length ≤ tokenLimit := by
    have hparts := hvalid
    simp only [validInstallerRequest, Bool.and_eq_true] at hparts
    by_cases hcommand : tokenCommand request.command = true
    · rw [if_pos hcommand] at hparts
      exact (validToken_length hparts.2).le
    · rw [if_neg hcommand] at hparts
      simp [decide_eq_true_eq.mp hparts.2]
  have hpad := pad_length htoken
  have hfields : FieldsAt (installerRequestFields request).flatten 0 (installerRequestFields request) := by
    apply slice_eq_flatten.mp
    exact slice_all le_rfl
  have hlength : (installerRequestFields request).flatten.length = installerRequestSize := by
    simp only [installerRequestFields, List.flatten_cons, List.flatten_nil, List.length_append,
      List.length_nil, littleEndian_length, installerMagic_length, hpad]
    rfl
  rw [encodeInstallerRequest, if_neg (by simp [hvalid])]
  generalize (installerRequestFields request).flatten = bytes at hfields hlength
  simp only [installerRequestFields, FieldsAt, littleEndian_length, installerMagic_length, hpad,
    Nat.reduceAdd] at hfields
  obtain ⟨hmagic, hversion, hcommand, hzero, hid, hindex, hsize, hreserved, htokenAt, -⟩ := hfields
  obtain ⟨htext, hzeroes⟩ := slice_pad htoken htokenAt
  have hsizes : request.token.length < 2 ^ 16 := htoken.trans_lt (by decide)
  rw [decodeInstallerRequest, if_neg, hcommand, installerCommand_ofCode, hsize,
    value_littleEndian_of_lt hsizes]
  · have hrest : bytes.drop (32 + request.token.length) =
        List.replicate (tokenLimit - request.token.length) 0 := by
      rw [← hzeroes, slice, List.take_of_length_le]
      rw [List.length_drop, hlength, installerRequestSize, tokenLimit]
      omega
    simp only [htext, readU64_of_slice hid, readU32_of_slice hindex, hrest, allZero_replicate]
    rw [if_neg]
    simp [htoken, hvalid]
  · rw [hlength, hmagic, hversion, hzero, hreserved]
    decide

lemma decodeInstallerRequest_valid {request received : InstallerRequest}
    (h : decodeInstallerRequest (encodeInstallerRequest request) = some received) :
    validInstallerRequest request = true := by
  by_contra hinvalid
  have hzeroes : decodeInstallerRequest (List.replicate installerRequestSize 0) = none := by
    decide +kernel
  rw [encodeInstallerRequest, if_pos (by simpa using hinvalid), hzeroes] at h
  cases h

lemma decodeInstallerRequest_encoded {request received : InstallerRequest}
    (h : decodeInstallerRequest (encodeInstallerRequest request) = some received) :
    received = request := by
  rw [decodeInstallerRequest_encode (decodeInstallerRequest_valid h)] at h
  exact (Option.some.inj h).symm

lemma installerCommand_code {command : InstallerCommand} {n : ℕ}
    (h : InstallerCommand.ofCode n = some command) : n = command.code := by
  rw [InstallerCommand.ofCode.eq_def] at h
  split at h <;> cases h <;> rfl

lemma installerStatus_code {status : InstallerProtocolStatus} {n : ℕ}
    (h : InstallerProtocolStatus.ofCode n = some status) : n = status.code := by
  rw [InstallerProtocolStatus.ofCode.eq_def] at h
  split at h <;> cases h <;> rfl

section

variable {bytes : Bytes}

lemma readText_cases {field : WireText} {size : ℕ} {text : Bytes} (hwidth : field.limit ≤ field.width)
    (hbound : field.offset + field.width ≤ bytes.length) (h : readText bytes field size = some text) :
    text.length = size ∧ text.length ≤ field.limit ∧
      slice bytes field.offset field.width = pad field.width text := by
  rw [readText] at h
  obtain ⟨hchecked, htext⟩ := Option.ite_none_left_eq_some.mp h
  obtain rfl := Option.some.inj htext
  simp only [not_or, not_lt, Bool.not_eq_true', Bool.not_eq_false] at hchecked
  obtain ⟨hlimit, hzero⟩ := hchecked
  have hsize : (slice bytes field.offset size).length = size := slice_length (by omega)
  exact ⟨hsize, by omega, slice_eq_pad (by omega) hbound hzero⟩

lemma decodeInstallerRequest_reencode {request : InstallerRequest}
    (h : decodeInstallerRequest bytes = some request) : bytes = encodeInstallerRequest request := by
  rw [decodeInstallerRequest] at h
  split at h
  · cases h
  rename_i hlayout
  split at h
  · cases h
  rename_i command hcommand
  dsimp only at h
  obtain ⟨hchecked, hrequest⟩ := Option.ite_none_left_eq_some.mp h
  obtain rfl := Option.some.inj hrequest
  simp only [not_or, not_lt, not_not, gt_iff_lt, ne_eq, Bool.not_eq_true', Bool.not_eq_false]
    at hlayout hchecked
  obtain ⟨hlength, hmagic, hversion, hgap, hreserved⟩ := hlayout
  obtain ⟨hlimit, hzero, hvalid⟩ := hchecked
  have hlength : bytes.length = 160 := hlength
  have hlimit : value (slice bytes 28 2) ≤ 128 := hlimit
  have htoken : (slice bytes 32 (value (slice bytes 28 2))).length = value (slice bytes 28 2) :=
    slice_length (by omega)
  have hpad : (pad tokenLimit (slice bytes 32 (value (slice bytes 28 2)))).length = 128 :=
    pad_length (by rw [htoken]; exact hlimit)
  have htail : slice bytes (32 + value (slice bytes 28 2)) (128 - value (slice bytes 28 2)) =
      bytes.drop (32 + value (slice bytes 28 2)) :=
    List.take_of_length_le (by rw [List.length_drop]; omega)
  rw [← htail] at hzero
  rw [encodeInstallerRequest, if_neg (by rw [hvalid]; exact Bool.false_ne_true)]
  refine eq_flatten_of_fieldsAt ?_ ?_
  · simp only [installerRequestFields, List.flatten_cons, List.flatten_nil, List.length_append,
      List.length_nil, littleEndian_length, installerMagic_length, hpad]
    exact hlength
  simp only [installerRequestFields, FieldsAt, littleEndian_length, installerMagic_length, hpad,
    Nat.reduceAdd, and_true]
  exact ⟨hmagic, littleEndian_of_value (slice_length (by omega)) hversion,
    littleEndian_of_value (slice_length (by omega)) (installerCommand_code hcommand),
    littleEndian_of_value (slice_length (by omega)) hgap, slice_readU64 (by omega),
    slice_readU32 (by omega), littleEndian_of_value (slice_length (by omega)) htoken.symm,
    littleEndian_of_value (slice_length (by omega)) hreserved, slice_eq_pad hlimit (by omega) hzero⟩

lemma ResponseWire.decode_cases {wire : ResponseWire} (h : ResponseWire.decode bytes = some wire) :
    bytes = wire.fields.flatten ∧ wire.requestId ≠ 0 ∧ wire.flags ≤ 7 := by
  rw [ResponseWire.decode] at h
  obtain ⟨hlayout, h⟩ := Option.ite_none_left_eq_some.mp h
  obtain ⟨command, hcommand, h⟩ := Option.bind_eq_some_iff.mp h
  obtain ⟨status, hstatus, h⟩ := Option.bind_eq_some_iff.mp h
  dsimp only at h
  obtain ⟨hchecked, h⟩ := Option.ite_none_left_eq_some.mp h
  obtain ⟨token, htoken, h⟩ := Option.bind_eq_some_iff.mp h
  obtain ⟨app, happ, h⟩ := Option.bind_eq_some_iff.mp h
  obtain ⟨name, hname, h⟩ := Option.bind_eq_some_iff.mp h
  obtain ⟨version, hversion, h⟩ := Option.bind_eq_some_iff.mp h
  obtain ⟨detail, hdetail, h⟩ := Option.bind_eq_some_iff.mp h
  obtain rfl := Option.some.inj h
  simp only [not_or, not_lt, not_not, gt_iff_lt, ne_eq, Bool.not_eq_true', Bool.not_eq_false]
    at hlayout hchecked
  obtain ⟨hlength, hmagic, hnumber, hgap, hreserved⟩ := hlayout
  have hlength : bytes.length = 768 := hlength
  obtain ⟨htokenSize, htokenLimit, htokenAt⟩ :=
    readText_cases (by decide) (by rw [hlength]; decide) htoken
  obtain ⟨happSize, happLimit, happAt⟩ := readText_cases (by decide) (by rw [hlength]; decide) happ
  obtain ⟨hnameSize, hnameLimit, hnameAt⟩ := readText_cases (by decide) (by rw [hlength]; decide) hname
  obtain ⟨hversionSize, hversionLimit, hversionAt⟩ :=
    readText_cases (by decide) (by rw [hlength]; decide) hversion
  obtain ⟨hdetailSize, hdetailLimit, hdetailAt⟩ :=
    readText_cases (by decide) (by rw [hlength]; decide) hdetail
  have hpads : ∀ {field : WireText} {text : Bytes}, field.limit ≤ field.width →
      text.length ≤ field.limit → (pad field.width text).length = field.width :=
    fun hwidth htext => pad_length (htext.trans hwidth)
  have hptoken := hpads (by decide) htokenLimit
  have hpapp := hpads (by decide) happLimit
  have hpname := hpads (by decide) hnameLimit
  have hpversion := hpads (by decide) hversionLimit
  have hpdetail := hpads (by decide) hdetailLimit
  refine ⟨eq_flatten_of_fieldsAt ?_ ?_, hchecked⟩
  · simp only [ResponseWire.fields, List.flatten_cons, List.flatten_nil, List.length_append,
      List.length_nil, littleEndian_length, installerMagic_length, List.length_replicate, hptoken,
      hpapp, hpname, hpversion, hpdetail]
    exact hlength
  simp only [ResponseWire.fields, FieldsAt, littleEndian_length, installerMagic_length,
    List.length_replicate, Nat.reduceAdd, hptoken, hpapp, hpname, hpversion, hpdetail]
  have hzeroes : ∀ {offset n : ℕ}, offset + n ≤ bytes.length → allZero (slice bytes offset n) = true →
      slice bytes offset n = List.replicate n 0 := by
    intro offset n hbound hzero
    rw [allZero_iff.mp hzero, slice_length hbound]
  exact ⟨hmagic, littleEndian_of_value (slice_length (by omega)) hnumber,
    littleEndian_of_value (slice_length (by omega)) (installerCommand_code hcommand),
    littleEndian_of_value (slice_length (by omega)) (installerStatus_code hstatus),
    littleEndian_of_value (slice_length (by omega)) rfl, slice_readU64 (by omega),
    slice_readU32 (by omega), hzeroes (by omega) hgap, slice_readU64 (by omega),
    slice_readU64 (by omega), slice_readU32 (by omega),
    littleEndian_of_value (slice_length (by omega)) htokenSize.symm,
    littleEndian_of_value (slice_length (by omega)) happSize.symm,
    littleEndian_of_value (slice_length (by omega)) hnameSize.symm,
    littleEndian_of_value (slice_length (by omega)) hversionSize.symm,
    littleEndian_of_value (slice_length (by omega)) hdetailSize.symm,
    hzeroes (by omega) hreserved, htokenAt, happAt, hnameAt, hversionAt, hdetailAt, trivial⟩

lemma installedFlags_installed (wire : ResponseWire) (h : wire.flags ≤ 7) :
    installedFlags wire.installed = wire.flags := by
  have hmarks : ∀ flags ≤ 7, (if flagSet flags 1 then 1 else 0) + (if flagSet flags 2 then 2 else 0) +
      (if flagSet flags 4 then 4 else 0) = flags := by decide
  exact hmarks wire.flags h

lemma decodedResponse_cases {wire : ResponseWire} {response : InstallerResponse}
    (hid : wire.requestId ≠ 0) (hflags : wire.flags ≤ 7) (h : decodedResponse wire = some response) :
    responseWire response = wire ∧ validInstallerResponse response = true := by
  rw [decodedResponse] at h
  obtain ⟨hdetail, h⟩ := Option.ite_none_left_eq_some.mp h
  rw [Bool.not_eq_true', Bool.not_eq_false] at hdetail
  have hempty : ∀ command status, carriesInstalled command status = true →
      carriesCandidate command status = false := by
    intro command status hinstalled
    simp only [carriesInstalled, Bool.and_eq_true, decide_eq_true_eq] at hinstalled
    simp [carriesCandidate, hinstalled.1]
  by_cases hcandidate : carriesCandidate wire.command wire.status = true
  · rw [if_pos hcandidate] at h
    obtain ⟨hchecked, h⟩ := Option.ite_none_left_eq_some.mp h
    obtain rfl := Option.some.inj h
    simp only [not_or, not_lt, not_not, Bool.not_eq_true', Bool.not_eq_false] at hchecked
    obtain ⟨hbit, hvalid, hcount⟩ := hchecked
    have hinstalled : carriesInstalled wire.command wire.status = false := by
      by_contra hinstalled
      rw [hempty _ _ (by simpa using hinstalled)] at hcandidate
      exact Bool.false_ne_true hcandidate
    have hone : ∀ flags ≤ 1, (if decide (flags = 1) = true then 1 else 0) = flags := by decide
    refine ⟨?_, ?_⟩
    · rw [responseWire, if_pos hcandidate]
      exact congrArg (fun flags => ({ wire with flags } : ResponseWire)) (hone wire.flags hbit)
    · simp [validInstallerResponse, InstallerResponse.hasCandidate, InstallerResponse.hasInstalled,
        hid, hdetail, hcandidate, hinstalled, hvalid, hcount]
  rw [if_neg hcandidate] at h
  by_cases hinstalled : carriesInstalled wire.command wire.status = true
  · rw [if_pos hinstalled] at h
    obtain ⟨hchecked, h⟩ := Option.ite_none_left_eq_some.mp h
    obtain rfl := Option.some.inj h
    simp only [not_or, not_not, Bool.not_eq_true', Bool.not_eq_false] at hchecked
    obtain ⟨hvalid, hcount⟩ := hchecked
    refine ⟨?_, ?_⟩
    · rw [responseWire, if_neg hcandidate, if_pos hinstalled]
      exact congrArg (fun flags => ({ wire with flags } : ResponseWire))
        (installedFlags_installed wire hflags)
    · simp [validInstallerResponse, InstallerResponse.hasCandidate, InstallerResponse.hasInstalled,
        hid, hdetail, hcandidate, hinstalled, hvalid, hcount]
  · rw [if_neg hinstalled] at h
    obtain ⟨hchecked, h⟩ := Option.ite_none_left_eq_some.mp h
    obtain rfl := Option.some.inj h
    simp only [not_or, not_not, not_and] at hchecked
    obtain ⟨hflags, htoken, happ, hname, hversion, hrelease, hsize, hepoch, hcount⟩ := hchecked
    refine ⟨?_, ?_⟩
    · rw [responseWire, if_neg hcandidate, if_neg hinstalled]
      cases wire
      subst hflags htoken happ hname hversion hrelease hsize hepoch
      rfl
    · have hcounts : countCommand wire.command = true ∨ wire.count = 0 := by
        cases hcounted : countCommand wire.command with
        | true => exact .inl rfl
        | false => exact .inr (hcount (by rw [hcounted]; rfl))
      simp [validInstallerResponse, InstallerResponse.hasCandidate, InstallerResponse.hasInstalled,
        hid, hdetail, hcandidate, hinstalled, hcounts]

lemma decodeInstallerResponse_reencode {response : InstallerResponse}
    (h : decodeInstallerResponse bytes = some response) : bytes = encodeInstallerResponse response := by
  obtain ⟨wire, hwire, hresponse⟩ := Option.bind_eq_some_iff.mp h
  obtain ⟨hbytes, hid, hflags⟩ := ResponseWire.decode_cases hwire
  obtain ⟨hsame, hvalid⟩ := decodedResponse_cases hid hflags hresponse
  rw [encodeInstallerResponse, if_pos hvalid, hsame]
  exact hbytes

lemma encodeInstallerRequest_head {request : InstallerRequest} :
    (encodeInstallerRequest request).head? = some 0 ↔ validInstallerRequest request = false := by
  rw [encodeInstallerRequest]
  split
  · rename_i hinvalid
    exact iff_of_true rfl (by simpa using hinvalid)
  · rename_i hvalid
    have hmagic : installerMagic.head? = some 76 := by decide
    have hhead : (installerRequestFields request).flatten.head? = some 76 := by
      rw [installerRequestFields, List.flatten_cons, List.head?_append, hmagic]
      rfl
    rw [hhead]
    exact iff_of_false (by decide) (by simpa using hvalid)

end

/-- An encoder that does not accept its message leaves the packet zero, the magic included. -/
theorem installer_protocol_round_trips :
    (∀ request : InstallerRequest, (encodeInstallerRequest request).head? ≠ some 0 →
      decodeInstallerRequest (encodeInstallerRequest request) = some request) ∧
    (∀ response : InstallerResponse, (encodeInstallerResponse response).head? ≠ some 0 →
      response.SameDetail → decodeInstallerResponse (encodeInstallerResponse response) = some response) ∧
    (∀ bytes request, decodeInstallerRequest bytes = some request →
      bytes = encodeInstallerRequest request) ∧
    (∀ bytes response, decodeInstallerResponse bytes = some response →
      bytes = encodeInstallerResponse response) := by
  refine ⟨fun request haccepted => ?_, fun response haccepted hsame => ?_,
    fun bytes request => ?_, fun bytes response => ?_⟩
  · refine decodeInstallerRequest_encode ?_
    rw [Ne, encodeInstallerRequest_head, Bool.not_eq_false] at haccepted
    exact haccepted
  · rw [Ne, encodeInstallerResponse_head, Bool.not_eq_false] at haccepted
    rw [decodeInstallerResponse_encode haccepted, arrived_of_sameDetail hsame]
  · exact decodeInstallerRequest_reencode
  · exact decodeInstallerResponse_reencode

def scanRequest : InstallerRequest where
  command := .candidate
  requestId := 5
  index := 2

theorem scan_request_round_trips :
    decodeInstallerRequest (encodeInstallerRequest scanRequest) = some scanRequest :=
  installer_protocol_round_trips.1 scanRequest (by decide)

end LvglPlatform

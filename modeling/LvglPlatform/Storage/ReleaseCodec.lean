import LvglPlatform.Storage.ReleaseState

namespace LvglPlatform

open Foundation

inductive ReleaseStateStatus
  | valid
  | invalidLayout
  | invalidValue
  | checksumMismatch
  | cryptoUnavailable
  | splitBrain
  | noValidSlot
  deriving DecidableEq, Repr

structure EncodedReleaseState where
  status : ReleaseStateStatus := .invalidValue
  detail : Bytes := []
  bytes : Bytes := []
  deriving DecidableEq

def EncodedReleaseState.ok (encoded : EncodedReleaseState) : Bool := encoded.status = .valid

structure DecodedReleaseState where
  status : ReleaseStateStatus := .invalidLayout
  detail : Bytes := []
  state : ApplicationReleaseState := {}
  deriving DecidableEq

def DecodedReleaseState.ok (decoded : DecodedReleaseState) : Bool := decoded.status = .valid

def releaseMagic : Bytes := text "LVSTATE1"

def releaseSize (state : ApplicationReleaseState) : ℕ :=
  64 + 192 + state.appId.length + state.signingKeyId.length + 32

def releaseFields (state : ApplicationReleaseState) : List Bytes :=
  [releaseMagic,
    littleEndian 2 1,
    littleEndian 2 64,
    littleEndian 4 (releaseSize state),
    littleEndian 8 state.generation.toNat,
    littleEndian 8 state.currentRelease.toNat,
    littleEndian 8 state.previousRelease.toNat,
    littleEndian 8 state.highRelease.toNat,
    littleEndian 8 state.quarantinedRelease.toNat,
    littleEndian 4 state.highSecurityEpoch.toNat,
    littleEndian 2 state.consecutiveLaunchFailures.toNat,
    littleEndian 1 state.appId.length,
    littleEndian 1 state.signingKeyId.length,
    state.currentDigest.toList,
    state.previousDigest.toList,
    state.highDigest.toList,
    state.appId,
    state.signingKeyId]

def encodeReleaseState (state : ApplicationReleaseState) (crypto : CryptoProvider) :
    EncodedReleaseState :=
  if !validState state then { status := .invalidValue, detail := text "STATE_VALUE_INVALID" }
  else if 512 < releaseSize state then
    { status := .invalidLayout, detail := text "STATE_SIZE_INVALID" }
  else match crypto.sha256 (releaseFields state).flatten with
    | none => { status := .cryptoUnavailable, detail := text "STATE_CRYPTO_UNAVAILABLE" }
    | some checksum =>
      { status := .valid, detail := text "STATE_ENCODED"
        bytes := (releaseFields state).flatten ++ checksum.toList }

def decodedState (bytes : Bytes) : ApplicationReleaseState where
  generation := readU64 bytes 16
  currentRelease := readU64 bytes 24
  previousRelease := readU64 bytes 32
  highRelease := readU64 bytes 40
  quarantinedRelease := readU64 bytes 48
  highSecurityEpoch := readU32 bytes 56
  consecutiveLaunchFailures := readU16 bytes 60
  currentDigest := byteArr 64 bytes 64
  previousDigest := byteArr 64 bytes 128
  highDigest := byteArr 64 bytes 192
  appId := slice bytes 256 (value (slice bytes 62 1))
  signingKeyId := slice bytes (256 + value (slice bytes 62 1)) (value (slice bytes 63 1))

def decodeReleaseState (bytes : Bytes) (crypto : CryptoProvider) : DecodedReleaseState :=
  if bytes.length < 64 + 192 + 32 ∨ bytes.length > 512 ∨ slice bytes 0 8 ≠ releaseMagic ∨
      value (slice bytes 8 2) ≠ 1 ∨ value (slice bytes 10 2) ≠ 64 ∨
      value (slice bytes 12 4) ≠ bytes.length then
    { status := .invalidLayout, detail := text "STATE_LAYOUT_INVALID" }
  else if value (slice bytes 62 1) = 0 ∨ value (slice bytes 62 1) > 96 ∨
      value (slice bytes 63 1) ≠ 32 ∨
      64 + 192 + value (slice bytes 62 1) + value (slice bytes 63 1) + 32 ≠ bytes.length then
    { status := .invalidLayout, detail := text "STATE_LENGTH_INVALID" }
  else match crypto.sha256 (bytes.take (bytes.length - 32)) with
    | none => { status := .cryptoUnavailable, detail := text "STATE_CRYPTO_UNAVAILABLE" }
    | some checksum =>
      if checksum.toList ≠ slice bytes (bytes.length - 32) 32 then
        { status := .checksumMismatch, detail := text "STATE_CHECKSUM_MISMATCH" }
      else if !validState (decodedState bytes) then
        { status := .invalidValue, detail := text "STATE_VALUE_INVALID" }
      else { status := .valid, detail := text "STATE_DECODED", state := decodedState bytes }

/-- A record is its fields followed by the checksum; a well formed state has the fixed layout. -/
def record (state : ApplicationReleaseState) (checksum : Sha256Digest) : Bytes :=
  (releaseFields state ++ [checksum.toList]).flatten

lemma record_eq (state : ApplicationReleaseState) (checksum : Sha256Digest) :
    record state checksum = (releaseFields state).flatten ++ checksum.toList := by
  simp [record]

lemma releaseFields_length (state : ApplicationReleaseState) :
    (releaseFields state).flatten.length = releaseSize state - 32 := by
  simp [releaseFields, releaseSize, show releaseMagic.length = 8 from rfl]
  omega

lemma record_length (state : ApplicationReleaseState) (checksum : Sha256Digest) :
    (record state checksum).length = releaseSize state := by
  rw [record_eq, List.length_append, releaseFields_length, List.Vector.toList_length]
  simp only [releaseSize]
  omega

lemma releaseSize_bounds {state : ApplicationReleaseState} (h : Wellformed state) :
    288 ≤ releaseSize state ∧ releaseSize state ≤ 512 ∧
      state.appId.length ≤ 96 ∧ 0 < state.appId.length ∧ state.signingKeyId.length = 32 := by
  obtain ⟨hpos, hle⟩ := identifier_length h.appId
  have hkey : state.signingKeyId.length = 32 := by
    have := h.keyId
    simp only [keyId, lowercaseHex, Bool.and_eq_true, decide_eq_true_eq] at this
    exact this.1
  simp only [releaseSize]
  omega

lemma record_field (state : ApplicationReleaseState) (checksum : Sha256Digest) (k offset length : ℕ)
    {field : Bytes} (hk : (releaseFields state)[k]? = some field)
    (ho : offset = offsetOf (releaseFields state) k) (hl : length = field.length) :
    slice (record state checksum) offset length = field := by
  obtain ⟨hlt, -⟩ := List.getElem?_eq_some_iff.mp hk
  refine slice_field k ?_ ?_ hl
  · rw [List.getElem?_append_left hlt, hk]
  · rw [ho, offsetOf, offsetOf, List.take_append_of_le_length hlt.le]

lemma releaseFields_offset (state : ApplicationReleaseState) {k : ℕ} (hk : k ≤ 16) :
    offsetOf (releaseFields state) k =
      [0, 8, 10, 12, 16, 24, 32, 40, 48, 56, 60, 62, 63, 64, 128, 192, 256].getD k 0 := by
  have hmagic : releaseMagic.length = 8 := rfl
  interval_cases k <;> simp [offsetOf, releaseFields, hmagic]

lemma record_layout {state : ApplicationReleaseState} (h : Wellformed state)
    (checksum : Sha256Digest) :
    slice (record state checksum) 0 8 = releaseMagic ∧
      value (slice (record state checksum) 8 2) = 1 ∧
      value (slice (record state checksum) 10 2) = 64 ∧
      value (slice (record state checksum) 12 4) = (record state checksum).length ∧
      value (slice (record state checksum) 62 1) = state.appId.length ∧
      value (slice (record state checksum) 63 1) = state.signingKeyId.length := by
  obtain ⟨hmin, hmax, happ, -, hkey⟩ := releaseSize_bounds h
  have hoffset := fun k hk => (releaseFields_offset state (k := k) hk).symm
  refine ⟨record_field state checksum 0 0 8 rfl (hoffset 0 (by omega)) rfl, ?_, ?_, ?_, ?_, ?_⟩
  · rw [record_field state checksum 1 8 2 rfl (hoffset 1 (by omega)) (by simp)]
    rfl
  · rw [record_field state checksum 2 10 2 rfl (hoffset 2 (by omega)) (by simp)]
    rfl
  · rw [record_field state checksum 3 12 4 rfl (hoffset 3 (by omega)) (by simp), record_length,
      value_littleEndian_of_lt (by omega)]
  · rw [record_field state checksum 11 62 1 rfl (hoffset 11 (by omega)) (by simp), value_littleEndian_of_lt (by omega)]
  · rw [record_field state checksum 12 63 1 rfl (hoffset 12 (by omega)) (by simp), value_littleEndian_of_lt (by omega)]

lemma decodedState_record {state : ApplicationReleaseState} (h : Wellformed state)
    (checksum : Sha256Digest) : decodedState (record state checksum) = state := by
  obtain ⟨-, -, -, -, happ, hkey⟩ := record_layout h checksum
  have hoffset := fun k hk => (releaseFields_offset state (k := k) hk).symm
  have hlast : 256 + state.appId.length = offsetOf (releaseFields state) 17 := by
    rw [offsetOf_succ (k := 16) rfl, releaseFields_offset state le_rfl]
    rfl
  simp only [decodedState, happ, hkey]
  rw [readU64_of_slice (record_field state checksum 4 16 8 rfl (hoffset 4 (by omega)) (by simp)),
    readU64_of_slice (record_field state checksum 5 24 8 rfl (hoffset 5 (by omega)) (by simp)),
    readU64_of_slice (record_field state checksum 6 32 8 rfl (hoffset 6 (by omega)) (by simp)),
    readU64_of_slice (record_field state checksum 7 40 8 rfl (hoffset 7 (by omega)) (by simp)),
    readU64_of_slice (record_field state checksum 8 48 8 rfl (hoffset 8 (by omega)) (by simp)),
    readU32_of_slice (record_field state checksum 9 56 4 rfl (hoffset 9 (by omega)) (by simp)),
    readU16_of_slice (record_field state checksum 10 60 2 rfl (hoffset 10 (by omega)) (by simp)),
    byteArr_of_slice (record_field state checksum 13 64 64 rfl (hoffset 13 (by omega)) (by simp)),
    byteArr_of_slice (record_field state checksum 14 128 64 rfl (hoffset 14 (by omega)) (by simp)),
    byteArr_of_slice (record_field state checksum 15 192 64 rfl (hoffset 15 (by omega)) (by simp)),
    record_field state checksum 16 256 _ rfl (hoffset 16 (by omega)) rfl, record_field state checksum 17 _ _ rfl hlast rfl]

lemma record_checksum (state : ApplicationReleaseState) (checksum : Sha256Digest) :
    (record state checksum).take ((record state checksum).length - 32) =
        (releaseFields state).flatten ∧
      slice (record state checksum) ((record state checksum).length - 32) 32 = checksum.toList := by
  have hlen : (record state checksum).length - 32 = (releaseFields state).flatten.length := by
    rw [record_length, releaseFields_length]
  rw [hlen, record_eq]
  refine ⟨List.take_left, ?_⟩
  have h := slice_append_right (releaseFields state).flatten checksum.toList 0 32
  rw [Nat.add_zero] at h
  rw [h, slice_all (by simp)]

lemma encode_cases {state : ApplicationReleaseState} {crypto : CryptoProvider}
    (h : (encodeReleaseState state crypto).ok = true) :
    Wellformed state ∧ ∃ checksum, crypto.sha256 (releaseFields state).flatten = some checksum ∧
      encodeReleaseState state crypto =
        { status := .valid, detail := text "STATE_ENCODED", bytes := record state checksum } := by
  unfold encodeReleaseState at h ⊢
  split at h
  · cases h
  split at h
  · cases h
  rename_i hvalid hsize
  rw [Bool.not_eq_true', Bool.not_eq_false] at hvalid
  refine ⟨(validState_iff state).mp hvalid, ?_⟩
  cases hsum : crypto.sha256 (releaseFields state).flatten with
  | none =>
    rw [hsum] at h
    cases h
  | some checksum =>
    refine ⟨checksum, rfl, ?_⟩
    rw [if_neg (by simp [hvalid]), if_neg hsize, record_eq]

lemma encode_ok {state : ApplicationReleaseState} {crypto : CryptoProvider} (h : Wellformed state)
    {checksum : Sha256Digest} (hsum : crypto.sha256 (releaseFields state).flatten = some checksum) :
    encodeReleaseState state crypto =
      { status := .valid, detail := text "STATE_ENCODED", bytes := record state checksum } := by
  have hvalid := (validState_iff state).mpr h
  have hsize := (releaseSize_bounds h).2.1
  rw [encodeReleaseState, if_neg (by simp [hvalid]), if_neg (by omega), hsum, record_eq]

lemma encode_ok_iff {state : ApplicationReleaseState} {crypto : CryptoProvider} (h : Wellformed state) :
    (encodeReleaseState state crypto).ok = true ↔
      (crypto.sha256 (releaseFields state).flatten).isSome = true := by
  constructor
  · intro hok
    obtain ⟨-, checksum, hsum, -⟩ := encode_cases hok
    simp [hsum]
  · intro hsome
    obtain ⟨checksum, hsum⟩ := Option.isSome_iff_exists.mp hsome
    rw [encode_ok h hsum]
    rfl

lemma decode_record {state : ApplicationReleaseState} {crypto : CryptoProvider}
    (h : Wellformed state) {checksum : Sha256Digest}
    (hsum : crypto.sha256 (releaseFields state).flatten = some checksum) :
    decodeReleaseState (record state checksum) crypto =
      { status := .valid, detail := text "STATE_DECODED", state := state } := by
  obtain ⟨hmin, hmax, happ, hpos, hkey⟩ := releaseSize_bounds h
  obtain ⟨hmagic, hversion, hheader, htotal, happSize, hkeySize⟩ := record_layout h checksum
  obtain ⟨hbody, hchecksum⟩ := record_checksum state checksum
  have hlen := record_length state checksum
  have hsizes : 64 + 192 + state.appId.length + state.signingKeyId.length + 32 =
      (record state checksum).length := by rw [hlen, releaseSize]
  rw [decodeReleaseState, if_neg, if_neg]
  · rw [hbody, hsum]
    simp [hchecksum, decodedState_record h, (validState_iff state).mpr h]
  · rw [happSize, hkeySize]
    omega
  · rw [hmagic, hversion, hheader, htotal]
    simp only [ne_eq, not_true_eq_false, or_false]
    omega

theorem decode_encode {state : ApplicationReleaseState} {crypto : CryptoProvider}
    (h : (encodeReleaseState state crypto).ok = true) :
    decodeReleaseState (encodeReleaseState state crypto).bytes crypto =
      { status := .valid, detail := text "STATE_DECODED", state := state } := by
  obtain ⟨hwell, checksum, hsum, heq⟩ := encode_cases h
  rw [heq]
  exact decode_record hwell hsum

section

variable {bytes : Bytes} {offset : ℕ}

structure DecodesTo (crypto : CryptoProvider) (bytes : Bytes) (checksum : Sha256Digest) : Prop where
  magic : slice bytes 0 8 = releaseMagic
  version : value (slice bytes 8 2) = 1
  header : value (slice bytes 10 2) = 64
  total : value (slice bytes 12 4) = bytes.length
  total_le : bytes.length ≤ 512
  keySize : value (slice bytes 63 1) = 32
  sizes : 64 + 192 + value (slice bytes 62 1) + 32 + 32 = bytes.length
  sum : crypto.sha256 (bytes.take (bytes.length - 32)) = some checksum
  trailer : checksum.toList = slice bytes (bytes.length - 32) 32
  valid : validState (decodedState bytes) = true

lemma decode_cases {crypto : CryptoProvider} (h : (decodeReleaseState bytes crypto).ok = true) :
    (decodeReleaseState bytes crypto).state = decodedState bytes ∧
      ∃ checksum, DecodesTo crypto bytes checksum := by
  unfold decodeReleaseState at h ⊢
  split at h <;> rename_i hlayout
  · cases h
  split at h <;> rename_i hlength
  · cases h
  rw [if_neg hlayout, if_neg hlength]
  simp only [not_or, not_lt, not_not] at hlayout hlength
  obtain ⟨hmin, hmax, hmagic, hversion, hheader, htotal⟩ := hlayout
  obtain ⟨hpos, happ, hkey, hsizes⟩ := hlength
  cases hsum : crypto.sha256 (bytes.take (bytes.length - 32)) with
  | none =>
    rw [hsum] at h
    cases h
  | some checksum =>
    rw [hsum] at h
    dsimp only at h ⊢
    split at h <;> rename_i htrailer
    · cases h
    split at h <;> rename_i hvalid
    · cases h
    rw [if_neg htrailer, if_neg hvalid]
    exact ⟨rfl, checksum, hmagic, hversion, hheader, htotal, hmax, hkey, by omega, hsum,
      not_not.mp htrailer, by simpa using hvalid⟩

lemma decoded_fields {crypto : CryptoProvider} {checksum : Sha256Digest}
    (h : DecodesTo crypto bytes checksum) :
    bytes.take (bytes.length - 32) = (releaseFields (decodedState bytes)).flatten := by
  have hsizes := h.sizes
  have happ : (decodedState bytes).appId.length = value (slice bytes 62 1) := slice_length (by omega)
  have hkey : (decodedState bytes).signingKeyId.length = 32 := by
    have hlen : (decodedState bytes).signingKeyId.length = value (slice bytes 63 1) :=
      slice_length (by rw [h.keySize]; omega)
    rw [hlen, h.keySize]
  have hsize : releaseSize (decodedState bytes) = bytes.length := by
    rw [releaseSize, happ, hkey]
    omega
  have hlength : (releaseFields (decodedState bytes)).flatten.length = bytes.length - 32 := by
    rw [releaseFields_length, hsize]
  rw [← slice_zero, ← hlength, slice_eq_flatten]
  simp only [releaseFields, FieldsAt, littleEndian_length, List.Vector.toList_length, hsize, happ, hkey,
    show releaseMagic.length = 8 from rfl, Nat.zero_add, Nat.reduceAdd, and_true]
  refine ⟨h.magic, littleEndian_of_value (slice_length (by omega)) h.version,
    littleEndian_of_value (slice_length (by omega)) h.header,
    littleEndian_of_value (slice_length (by omega)) h.total, slice_readU64 (by omega),
    slice_readU64 (by omega), slice_readU64 (by omega), slice_readU64 (by omega),
    slice_readU64 (by omega), slice_readU32 (by omega), slice_readU16 (by omega),
    littleEndian_of_value (slice_length (by omega)) rfl,
    littleEndian_of_value (slice_length (by omega)) h.keySize, (byteArr_toList (by omega)).symm,
    (byteArr_toList (by omega)).symm, (byteArr_toList (by omega)).symm, rfl, ?_⟩
  change _ = slice bytes _ (value (slice bytes 63 1))
  rw [h.keySize]

theorem encode_decode {crypto : CryptoProvider} (h : (decodeReleaseState bytes crypto).ok = true) :
    encodeReleaseState (decodeReleaseState bytes crypto).state crypto =
      { status := .valid, detail := text "STATE_ENCODED", bytes } := by
  obtain ⟨hstate, checksum, hd⟩ := decode_cases h
  have hfields := decoded_fields hd
  have hsizes := hd.sizes
  have hbytes : bytes = (releaseFields (decodedState bytes)).flatten ++ checksum.toList := by
    have hlast : slice bytes (bytes.length - 32) 32 = bytes.drop (bytes.length - 32) :=
      List.take_of_length_le (by rw [List.length_drop]; omega)
    rw [← hfields, hd.trailer, hlast, List.take_append_drop]
  rw [hstate, encode_ok ((validState_iff _).mp hd.valid) (hfields ▸ hd.sum), record_eq, ← hbytes]

end

/-- A provider whose digests are those of a fixed function. -/
def CryptoProvider.hashing (crypto : CryptoProvider) (sha256 : Bytes → Sha256Digest) : CryptoProvider :=
  { crypto with sha256 := fun bytes => some (sha256 bytes) }

/-- With a fixed digest the states and their records determine each other. -/
theorem release_state_round_trips (crypto : CryptoProvider) (sha256 : Bytes → Sha256Digest) :
    (∀ state : ApplicationReleaseState, validState state = true →
      (encodeReleaseState state (crypto.hashing sha256)).ok = true ∧
        (encodeReleaseState state (crypto.hashing sha256)).bytes.length ≤ 512 ∧
        decodeReleaseState (encodeReleaseState state (crypto.hashing sha256)).bytes
          (crypto.hashing sha256) = { status := .valid, detail := text "STATE_DECODED", state }) ∧
    (∀ bytes : Bytes, (decodeReleaseState bytes (crypto.hashing sha256)).ok = true →
      encodeReleaseState (decodeReleaseState bytes (crypto.hashing sha256)).state
        (crypto.hashing sha256) = { status := .valid, detail := text "STATE_ENCODED", bytes }) := by
  refine ⟨fun state hvalid => ?_, fun bytes => encode_decode⟩
  have hwell := (validState_iff state).mp hvalid
  have hencoded : encodeReleaseState state (crypto.hashing sha256) =
      { status := .valid, detail := text "STATE_ENCODED"
        bytes := record state (sha256 (releaseFields state).flatten) } := encode_ok hwell rfl
  have hok : (encodeReleaseState state (crypto.hashing sha256)).ok = true := by
    rw [hencoded]
    rfl
  refine ⟨hok, ?_, decode_encode hok⟩
  rw [hencoded]
  dsimp only
  rw [record_length]
  exact (releaseSize_bounds hwell).2.1

def roundTripState : ApplicationReleaseState where
  appId := text "org.pen.demo"
  signingKeyId := text "06e3fd8fda29bb60ab59557de61edb0a"
  generation := 1
  currentRelease := 1
  highRelease := 1
  highSecurityEpoch := 1
  currentDigest := bigEndian 64 7
  highDigest := bigEndian 64 7

def roundTripCrypto : CryptoProvider where
  sha256 _ := none
  sha512 _ := none
  verifyEd25519 _ _ _ := false

def roundTripDigest : Sha256Digest := bigEndian 32
  0xb6a776ff8d0cdc86b4ba00a9717535329dafc4bad11bfcaaf3516124f882df78

theorem stored_state_round_trips :
    (encodeReleaseState roundTripState (roundTripCrypto.hashing fun _ => roundTripDigest)).bytes.length ≤ 512 ∧
      decodeReleaseState (encodeReleaseState roundTripState
          (roundTripCrypto.hashing fun _ => roundTripDigest)).bytes (roundTripCrypto.hashing fun _ => roundTripDigest) =
        { status := .valid, detail := text "STATE_DECODED", state := roundTripState } :=
  ((release_state_round_trips roundTripCrypto fun _ => roundTripDigest).1 roundTripState (by decide)).2

end LvglPlatform

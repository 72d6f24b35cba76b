import LvglPlatform.Foundation.Bytes

namespace LvglPlatform

open Foundation

abbrev Sha256Digest := ByteArr 32
abbrev Sha512Digest := ByteArr 64
abbrev Ed25519PublicKey := ByteArr 32
abbrev Ed25519Signature := ByteArr 64

def zeroes (n : ℕ) : ByteArr n := List.Vector.replicate n 0

/-- The provider is loaded from the system library at run time; a failed digest is `none`. -/
structure CryptoProvider where
  sha256 : Bytes → Option Sha256Digest
  sha512 : Bytes → Option Sha512Digest
  verifyEd25519 : Ed25519PublicKey → Bytes → Ed25519Signature → Bool

def readU64 (bytes : Bytes) (offset : ℕ) : UInt64 := UInt64.ofNat (value (slice bytes offset 8))

def readU32 (bytes : Bytes) (offset : ℕ) : UInt32 := UInt32.ofNat (value (slice bytes offset 4))

def readU16 (bytes : Bytes) (offset : ℕ) : UInt16 := UInt16.ofNat (value (slice bytes offset 2))

lemma readU64_of_slice {bytes : Bytes} {offset : ℕ} {n : UInt64}
    (h : slice bytes offset 8 = littleEndian 8 n.toNat) : readU64 bytes offset = n := by
  rw [readU64, h, value_littleEndian_of_lt n.toNat_lt, UInt64.ofNat_toNat]

lemma readU32_of_slice {bytes : Bytes} {offset : ℕ} {n : UInt32}
    (h : slice bytes offset 4 = littleEndian 4 n.toNat) : readU32 bytes offset = n := by
  rw [readU32, h, value_littleEndian_of_lt n.toNat_lt, UInt32.ofNat_toNat]

lemma readU16_of_slice {bytes : Bytes} {offset : ℕ} {n : UInt16}
    (h : slice bytes offset 2 = littleEndian 2 n.toNat) : readU16 bytes offset = n := by
  rw [readU16, h, value_littleEndian_of_lt n.toNat_lt, UInt16.ofNat_toNat]

section

variable {bytes : Bytes} {offset : ℕ}

lemma slice_readU64 (h : offset + 8 ≤ bytes.length) :
    slice bytes offset 8 = littleEndian 8 (readU64 bytes offset).toNat := by
  have hlt := value_lt (slice bytes offset 8)
  rw [slice_length h] at hlt
  exact littleEndian_of_value (slice_length h) (UInt64.toNat_ofNat_of_lt' hlt).symm

lemma slice_readU32 (h : offset + 4 ≤ bytes.length) :
    slice bytes offset 4 = littleEndian 4 (readU32 bytes offset).toNat := by
  have hlt := value_lt (slice bytes offset 4)
  rw [slice_length h] at hlt
  exact littleEndian_of_value (slice_length h) (UInt32.toNat_ofNat_of_lt' hlt).symm

lemma slice_readU16 (h : offset + 2 ≤ bytes.length) :
    slice bytes offset 2 = littleEndian 2 (readU16 bytes offset).toNat := by
  have hlt := value_lt (slice bytes offset 2)
  rw [slice_length h] at hlt
  exact littleEndian_of_value (slice_length h) (UInt16.toNat_ofNat_of_lt' hlt).symm

end

def hexDigit (n : ℕ) : UInt8 :=
  if n < 10 then UInt8.ofNat (48 + n) else UInt8.ofNat (87 + n)

def hexByte (b : UInt8) : Bytes := [hexDigit (b.toNat / 16), hexDigit (b.toNat % 16)]

def hexText (bytes : Bytes) : Bytes := bytes.flatMap hexByte

def isLower (c : UInt8) : Bool := chr 'a' ≤ c && c ≤ chr 'z'

def isLowerHex (c : UInt8) : Bool := isDigit c || (chr 'a' ≤ c && c ≤ chr 'f')

def lowercaseHex (value : Bytes) (size : ℕ) : Bool := value.length = size && value.all isLowerHex

@[simp] lemma hexText_length (bytes : Bytes) : (hexText bytes).length = 2 * bytes.length := by
  induction bytes with
  | nil => rfl
  | cons b bs ih =>
    have h : hexText (b :: bs) = hexByte b ++ hexText bs := rfl
    rw [h, List.length_append, ih]
    simp [hexByte]
    omega

lemma isLowerHex_hexDigit {n : ℕ} (h : n < 16) : isLowerHex (hexDigit n) = true := by
  have hall : ∀ k : Fin 16, isLowerHex (hexDigit k) = true := by decide
  exact hall ⟨n, h⟩

lemma hexText_lowercaseHex (bytes : Bytes) {n : ℕ} (h : 2 * bytes.length = n) :
    lowercaseHex (hexText bytes) n = true := by
  have hall : ∀ c ∈ hexText bytes, isLowerHex c = true := by
    intro c hc
    obtain ⟨b, -, hb⟩ := List.mem_flatMap.mp hc
    have hb' := b.toNat_lt
    rcases List.mem_cons.mp hb with rfl | hb
    · exact isLowerHex_hexDigit (by omega)
    · obtain rfl := List.mem_singleton.mp hb
      exact isLowerHex_hexDigit (by omega)
  simp only [lowercaseHex, hexText_length, h, decide_true, Bool.true_and, List.all_eq_true]
  exact hall

lemma hexByte_injective {a b : UInt8} (h : hexByte a = hexByte b) : a = b := by
  have hdigit : ∀ i j : Fin 16, hexDigit i = hexDigit j → i = j := by decide
  have ha := a.toNat_lt
  have hb := b.toNat_lt
  simp only [hexByte, List.cons.injEq, and_true] at h
  have hhigh := hdigit ⟨a.toNat / 16, by omega⟩ ⟨b.toNat / 16, by omega⟩ h.1
  have hlow := hdigit ⟨a.toNat % 16, by omega⟩ ⟨b.toNat % 16, by omega⟩ h.2
  simp only [Fin.mk.injEq] at hhigh hlow
  apply UInt8.toNat_inj.mp
  omega

lemma hexText_injective {a b : Bytes} (h : hexText a = hexText b) : a = b := by
  induction a generalizing b with
  | nil =>
    cases b with
    | nil => rfl
    | cons b bs => simp [hexText, hexByte] at h
  | cons x xs ih =>
    cases b with
    | nil => simp [hexText, hexByte] at h
    | cons y ys =>
      have hs : hexByte x ++ hexText xs = hexByte y ++ hexText ys := h
      obtain ⟨hx, hxs⟩ := List.append_inj hs rfl
      rw [hexByte_injective hx, ih hxs]

/-- The loop the identifier checks share; `counts` marks the separator that must occur. -/
def scanIdentifier (counts : UInt8 → Bool) : Bool → Bool → Bytes → Bool
  | separator, found, [] => found && !separator
  | separator, found, c :: cs =>
    if c = chr '.' ∨ c = chr '-' then
      if separator then false else scanIdentifier counts true (found || counts c) cs
    else if isLower c || isDigit c then scanIdentifier counts false found cs
    else false

def identifier (maximum : ℕ) (counts : UInt8 → Bool) (value : Bytes) : Bool :=
  if value = [] ∨ value.length > maximum ∨ value.head? = some (chr '.') ∨
      value.getLast? = some (chr '.') then false
  else scanIdentifier counts false false value

def appId (value : Bytes) : Bool := identifier 96 (fun _ => true) value

/-- `app_id` of the release state, written out again beside `valid_state`. -/
def releaseStateAppId (value : Bytes) : Bool := identifier 96 (fun _ => true) value

/-- `safe_app_id` of the state store. -/
def safeAppId (value : Bytes) : Bool := identifier 96 (fun _ => true) value

def validSessionAppId (value : Bytes) : Bool := identifier 95 (· == chr '.') value

def reservedApplicationId (app : Bytes) : Bool :=
  [text "top.lvgl.platform", text "top.lvgl.desktop", text "top.lvgl.installer"].contains app

lemma scanIdentifier_counts (counts : UInt8 → Bool) (separator found : Bool) (cs : Bytes) :
    scanIdentifier counts separator found cs = true ↔
      scanIdentifier (fun _ => true) separator true cs = true ∧
        (found = true ∨ ∃ c ∈ cs, (c = chr '.' ∨ c = chr '-') ∧ counts c = true) := by
  induction cs generalizing separator found with
  | nil => simp [scanIdentifier, and_comm]
  | cons c cs ih =>
    simp only [scanIdentifier, Bool.true_or, List.exists_mem_cons_iff]
    split <;> rename_i hc
    · cases separator with
      | true => simp
      | false =>
        rw [if_neg (by simp), if_neg (by simp), ih]
        simp [hc, or_assoc]
    · split
      · rw [ih]
        simp [hc]
      · simp

lemma identifier_length {maximum : ℕ} {counts : UInt8 → Bool} {value : Bytes}
    (h : identifier maximum counts value = true) : 0 < value.length ∧ value.length ≤ maximum := by
  simp only [identifier] at h
  split at h
  · simp at h
  · rename_i hguard
    have hne : value ≠ [] := fun hnil => hguard (Or.inl hnil)
    exact ⟨List.length_pos_iff.mpr hne, by grind⟩

end LvglPlatform

import Mathlib

/-! Byte strings: little-endian numbers, slices, and records laid out as a list of fields. -/

namespace Foundation

abbrev Bytes := List UInt8

instance : LawfulBEq Bytes := inferInstance

abbrev ByteArr (n : ℕ) := List.Vector UInt8 n

def text (s : String) : Bytes := s.toList.flatMap String.utf8EncodeChar

def chr (c : Char) : UInt8 := UInt8.ofNat c.toNat

def isDigit (c : UInt8) : Bool := chr '0' ≤ c && c ≤ chr '9'

def littleEndian : ℕ → ℕ → Bytes
  | 0, _ => []
  | w + 1, n => UInt8.ofNat (n % 256) :: littleEndian w (n / 256)

def value : Bytes → ℕ
  | [] => 0
  | b :: bs => b.toNat + 256 * value bs

@[simp] lemma littleEndian_length (w n : ℕ) : (littleEndian w n).length = w := by
  induction w generalizing n with
  | zero => rfl
  | succ w ih => simp [littleEndian, ih]

lemma value_littleEndian (w n : ℕ) : value (littleEndian w n) = n % 256 ^ w := by
  induction w generalizing n with
  | zero => simp [littleEndian, value, Nat.mod_one]
  | succ w ih =>
    have hb : (UInt8.ofNat (n % 256)).toNat = n % 256 := by simp
    rw [littleEndian, value, ih, hb, pow_succ', Nat.mod_mul]

@[simp] lemma value_littleEndian_of_lt {w n : ℕ} (h : n < 256 ^ w) : value (littleEndian w n) = n := by
  rw [value_littleEndian, Nat.mod_eq_of_lt h]

lemma value_lt (bytes : Bytes) : value bytes < 256 ^ bytes.length := by
  induction bytes with
  | nil => simp [value]
  | cons b bs ih =>
    have hb := b.toNat_lt
    rw [value, List.length_cons, pow_succ]
    omega

lemma littleEndian_value (bytes : Bytes) : littleEndian bytes.length (value bytes) = bytes := by
  induction bytes with
  | nil => rfl
  | cons b bs ih =>
    have hb := b.toNat_lt
    have hlow : (b.toNat + 256 * value bs) % 256 = b.toNat := by omega
    have hhigh : (b.toNat + 256 * value bs) / 256 = value bs := by omega
    rw [List.length_cons, value, littleEndian, hlow, hhigh, ih, UInt8.ofNat_toNat]

lemma littleEndian_of_value {bytes : Bytes} {w n : ℕ} (hw : bytes.length = w) (h : value bytes = n) :
    bytes = littleEndian w n := by
  rw [← hw, ← h, littleEndian_value]

def slice (bytes : Bytes) (offset length : ℕ) : Bytes := (bytes.drop offset).take length

lemma slice_length {bytes : Bytes} {offset length : ℕ} (h : offset + length ≤ bytes.length) :
    (slice bytes offset length).length = length := by
  simp only [slice, List.length_take, List.length_drop]
  omega

lemma slice_slice {bytes : Bytes} {a m b n : ℕ} (h : b + n ≤ m) :
    slice (slice bytes a m) b n = slice bytes (a + b) n := by
  simp only [slice, List.drop_take, List.drop_drop, List.take_take]
  congr 1
  omega

lemma slice_split {bytes : Bytes} (a m n : ℕ) :
    slice bytes a (m + n) = slice bytes a m ++ slice bytes (a + m) n := by
  simp only [slice, List.take_add, List.drop_drop]

lemma slice_zero (bytes : Bytes) (n : ℕ) : slice bytes 0 n = bytes.take n := rfl

lemma slice_all {bytes : Bytes} {n : ℕ} (h : bytes.length ≤ n) : slice bytes 0 n = bytes := by
  simp [slice, List.take_of_length_le h]

lemma slice_append_left {a b : Bytes} {offset length : ℕ} (h : offset + length ≤ a.length) :
    slice (a ++ b) offset length = slice a offset length := by
  simp only [slice]
  rw [List.drop_append_of_le_length (by omega), List.take_append_of_le_length (by simp; omega)]

lemma slice_append_right (a b : Bytes) (offset length : ℕ) :
    slice (a ++ b) (a.length + offset) length = slice b offset length := by
  simp only [slice]
  rw [List.drop_append, List.drop_eq_nil_of_le (by omega), List.nil_append]
  congr 2
  omega

lemma slice_append_mid {a b c : Bytes} {offset length : ℕ} (ho : offset = a.length)
    (hl : length = b.length) : slice (a ++ (b ++ c)) offset length = b := by
  have h := slice_append_right a (b ++ c) 0 b.length
  rw [Nat.add_zero, slice_append_left (a := b) (by omega), slice_all le_rfl] at h
  rw [ho, hl, h]

lemma slice_bound {bytes part : Bytes} {offset : ℕ} (hoffset : offset ≤ bytes.length)
    (h : slice bytes offset part.length = part) : offset + part.length ≤ bytes.length := by
  have hlength := congrArg List.length h
  simp only [slice, List.length_take, List.length_drop] at hlength
  omega

def bigEndian (n v : ℕ) : ByteArr n := ⟨(littleEndian n v).reverse, by simp⟩

/-- The `n` bytes at an offset as an array; what lies past the end reads as zero. -/
def byteArr (n : ℕ) (bytes : Bytes) (offset : ℕ) : ByteArr n :=
  ⟨(slice bytes offset n ++ List.replicate n 0).take n, by simp⟩

lemma byteArr_toList {bytes : Bytes} {offset n : ℕ} (h : offset + n ≤ bytes.length) :
    (byteArr n bytes offset).toList = slice bytes offset n := by
  have hl := slice_length h
  change (slice bytes offset n ++ List.replicate n 0).take n = slice bytes offset n
  rw [List.take_append_of_le_length hl.ge, List.take_of_length_le hl.le]

lemma byteArr_of_slice {bytes : Bytes} {offset n : ℕ} {array : ByteArr n}
    (h : slice bytes offset n = array.toList) : byteArr n bytes offset = array := by
  apply List.Vector.toList_injective
  change (slice bytes offset n ++ List.replicate n 0).take n = array.toList
  rw [h, List.take_append_of_le_length (by simp), List.take_of_length_le (by simp)]

def offsetOf (fields : List Bytes) (k : ℕ) : ℕ := ((fields.take k).map List.length).sum

lemma offsetOf_succ {fields : List Bytes} {k : ℕ} {field : Bytes} (h : fields[k]? = some field) :
    offsetOf fields (k + 1) = offsetOf fields k + field.length := by
  obtain ⟨hk, rfl⟩ := List.getElem?_eq_some_iff.mp h
  rw [offsetOf, offsetOf, List.take_succ_eq_append_getElem hk, List.map_append, List.sum_append,
    List.map_singleton, List.sum_singleton]

/-- A field of a record is read back at the offset the fields before it leave. -/
lemma slice_flatten (fields : List Bytes) (k : ℕ) (field : Bytes) (h : fields[k]? = some field) :
    slice fields.flatten (offsetOf fields k) field.length = field := by
  obtain ⟨hk, rfl⟩ := List.getElem?_eq_some_iff.mp h
  have hsplit : fields.flatten =
      (fields.take k).flatten ++ (fields[k] ++ (fields.drop (k + 1)).flatten) := by
    rw [← List.flatten_cons, ← List.drop_eq_getElem_cons hk, ← List.flatten_append,
      List.take_append_drop]
  rw [hsplit]
  exact slice_append_mid (by simp [offsetOf, List.length_flatten]) rfl

lemma slice_field {fields : List Bytes} {offset length : ℕ} (k : ℕ) {field : Bytes}
    (h : fields[k]? = some field) (ho : offset = offsetOf fields k) (hl : length = field.length) :
    slice fields.flatten offset length = field := by
  rw [ho, hl, slice_flatten fields k field h]

def FieldsAt (bytes : Bytes) : ℕ → List Bytes → Prop
  | _, [] => True
  | offset, field :: fields =>
    slice bytes offset field.length = field ∧ FieldsAt bytes (offset + field.length) fields

lemma slice_append_eq {bytes a b : Bytes} {offset : ℕ} :
    slice bytes offset (a.length + b.length) = a ++ b ↔
      slice bytes offset a.length = a ∧ slice bytes (offset + a.length) b.length = b := by
  rw [slice_split]
  constructor
  · intro h
    have hlength := congrArg List.length h
    have ha : (slice bytes offset a.length).length ≤ a.length := by simp [slice]
    have hb : (slice bytes (offset + a.length) b.length).length ≤ b.length := by simp [slice]
    simp only [List.length_append] at hlength
    exact List.append_inj h (by omega)
  · rintro ⟨ha, hb⟩
    rw [ha, hb]

lemma slice_eq_flatten {bytes : Bytes} {offset : ℕ} {fields : List Bytes} :
    slice bytes offset fields.flatten.length = fields.flatten ↔ FieldsAt bytes offset fields := by
  induction fields generalizing offset with
  | nil => simp [FieldsAt, slice]
  | cons field fields ih =>
    rw [List.flatten_cons, List.length_append, slice_append_eq, ih, FieldsAt]

lemma slice_eq_littleEndian {bytes : Bytes} {offset w n : ℕ} (h : offset + w ≤ bytes.length)
    (hn : n < 256 ^ w) : slice bytes offset w = littleEndian w n ↔ value (slice bytes offset w) = n := by
  constructor
  · intro hs
    rw [hs, value_littleEndian_of_lt hn]
  · exact littleEndian_of_value (slice_length h)

def pad (width : ℕ) (bytes : Bytes) : Bytes := bytes ++ List.replicate (width - bytes.length) 0

lemma pad_length {width : ℕ} {bytes : Bytes} (h : bytes.length ≤ width) :
    (pad width bytes).length = width := by
  simp [pad]
  omega

lemma slice_pad {bytes text : Bytes} {offset width : ℕ} (hwidth : text.length ≤ width)
    (h : slice bytes offset width = pad width text) :
    slice bytes offset text.length = text ∧
      slice bytes (offset + text.length) (width - text.length) =
        List.replicate (width - text.length) 0 := by
  have hsplit : width = text.length + (width - text.length) := by omega
  rw [pad, hsplit, slice_split, ← hsplit] at h
  have hlength : text.length ≤ (slice bytes offset text.length).length := by
    have hsizes := congrArg List.length h
    simp only [slice, List.length_append, List.length_take, List.length_drop, List.length_replicate]
      at hsizes ⊢
    omega
  exact List.append_inj h (le_antisymm (by simp [slice]) hlength)

def allZero (bytes : Bytes) : Bool := bytes.all (· == 0)

@[simp] lemma allZero_replicate (n : ℕ) : allZero (List.replicate n 0) = true := by simp [allZero]

lemma allZero_iff {bytes : Bytes} : allZero bytes = true ↔ bytes = List.replicate bytes.length 0 := by
  simp [allZero, List.eq_replicate_iff]

lemma slice_eq_pad {bytes : Bytes} {offset width size : ℕ} (hsize : size ≤ width)
    (hbound : offset + width ≤ bytes.length)
    (h : allZero (slice bytes (offset + size) (width - size)) = true) :
    slice bytes offset width = pad width (slice bytes offset size) := by
  have hsplit : slice bytes offset (size + (width - size)) = _ :=
    slice_split offset size (width - size)
  rw [Nat.add_sub_cancel' hsize, allZero_iff.mp h, slice_length (by omega)] at hsplit
  rw [hsplit, pad, slice_length (by omega)]

lemma eq_flatten_of_fieldsAt {bytes : Bytes} {fields : List Bytes}
    (hlength : bytes.length = fields.flatten.length) (h : FieldsAt bytes 0 fields) :
    bytes = fields.flatten := by
  rw [← slice_eq_flatten, ← hlength, slice_all le_rfl] at h
  exact h

lemma fieldsAt_flatten (fields : List Bytes) : FieldsAt fields.flatten 0 fields := by
  rw [← slice_eq_flatten, slice_all le_rfl]

lemma terminated_inj {α : Type} {separator : α} {a b rest rest' : List α} (ha : separator ∉ a)
    (hb : separator ∉ b) (h : a ++ separator :: rest = b ++ separator :: rest') :
    a = b ∧ rest = rest' := by
  induction a generalizing b with
  | nil =>
    cases b with
    | nil => exact ⟨rfl, (List.cons.inj h).2⟩
    | cons y b =>
      obtain ⟨rfl, -⟩ := List.cons.inj h
      exact absurd List.mem_cons_self hb
  | cons x a ih =>
    cases b with
    | nil =>
      obtain ⟨rfl, -⟩ := List.cons.inj h
      exact absurd List.mem_cons_self ha
    | cons y b =>
      obtain ⟨rfl, htail⟩ := List.cons.inj h
      obtain ⟨rfl, hrest⟩ := ih (List.not_mem_of_not_mem_cons ha) (List.not_mem_of_not_mem_cons hb) htail
      exact ⟨rfl, hrest⟩

end Foundation

import LvglPlatform.Package.Layout
import LvglPlatform.Package.ManifestValue

namespace LvglPlatform

open Foundation

def packageHeader (development : Bool) (manifestSize entryCount tableSize payloadSize : ℕ) :
    List Bytes :=
  let unsignedSize := headerSize + manifestSize + tableSize + payloadSize
  [packageMagic,
    littleEndian 2 1,
    littleEndian 2 headerSize,
    littleEndian 4 (if development then 1 else 0),
    littleEndian 4 manifestSize,
    littleEndian 4 entryCount,
    littleEndian 8 tableSize,
    littleEndian 8 payloadSize,
    littleEndian 8 unsignedSize,
    littleEndian 8 (unsignedSize + if development then 0 else signatureSize),
    littleEndian 4 1,
    littleEndian 4 0]

def manifestText (manifest : VerifiedPackageManifest) : Bytes :=
  rapidJson.print (manifestValue manifest)

def tableRecord (file : VerifiedPackageFile) (offset : ℕ) : List Bytes := [
  littleEndian 2 file.path.length,
  littleEndian 2 file.mode,
  littleEndian 4 0,
  littleEndian 8 file.size,
  littleEndian 8 offset,
  file.sha256.toList,
  file.path]

/-- The records of files whose contents follow one another from an offset of the payload on. -/
def fileTable : ℕ → List VerifiedPackageFile → Bytes
  | _, [] => []
  | offset, file :: files =>
    (tableRecord file offset).flatten ++ fileTable (offset + file.size) files

/-- The unsigned part of a package. -/
def serialize (development : Bool) (manifest : VerifiedPackageManifest) (contents : List Bytes) :
    Bytes :=
  (packageHeader development (manifestText manifest).length manifest.files.length
      (fileTable 0 manifest.files).length contents.flatten.length).flatten ++
    (manifestText manifest ++ (fileTable 0 manifest.files ++ contents.flatten))

def placed : ℕ → List VerifiedPackageFile → List VerifiedPackageFile
  | _, [] => []
  | offset, file :: files =>
    { file with payloadOffset := offset } :: placed (offset + file.size) files

@[simp] lemma placed_nil (offset : ℕ) : placed offset [] = [] := rfl

@[simp] lemma placed_cons (offset : ℕ) (file : VerifiedPackageFile) (files : List VerifiedPackageFile) :
    placed offset (file :: files) =
      { file with payloadOffset := offset } :: placed (offset + file.size) files := rfl

def fileContents (bytes : Bytes) (payloadStart : ℕ) (files : List VerifiedPackageFile) :
    List Bytes :=
  files.map fun file => slice bytes (payloadStart + file.payloadOffset) file.size

def totalSize (files : List VerifiedPackageFile) : ℕ := (files.map VerifiedPackageFile.size).sum

lemma packageHeader_length (development : Bool) (m e t p : ℕ) :
    (packageHeader development m e t p).flatten.length = headerSize := by
  simp [packageHeader, headerSize, show packageMagic.length = 8 from rfl]

lemma tableRecord_length (file : VerifiedPackageFile) (offset : ℕ) :
    (tableRecord file offset).flatten.length = recordSize + file.path.length := by
  simp [tableRecord, recordSize]
  omega

lemma serialize_length (development : Bool) (manifest : VerifiedPackageManifest)
    (contents : List Bytes) :
    (serialize development manifest contents).length =
      headerSize + (manifestText manifest).length + (fileTable 0 manifest.files).length +
        contents.flatten.length := by
  rw [serialize, List.length_append, packageHeader_length, List.length_append, List.length_append]
  omega

lemma fileTable_placed (base offset : ℕ) (files : List VerifiedPackageFile) :
    fileTable offset (placed base files) = fileTable offset files := by
  induction files generalizing base offset with
  | nil => rfl
  | cons file files ih =>
    rw [placed_cons, fileTable, fileTable, ih]
    rfl

lemma placed_length (offset : ℕ) (files : List VerifiedPackageFile) :
    (placed offset files).length = files.length := by
  induction files generalizing offset with
  | nil => rfl
  | cons file files ih => rw [placed_cons, List.length_cons, List.length_cons, ih]

lemma placed_map {α : Type} {f : VerifiedPackageFile → α} (offset : ℕ) (files : List VerifiedPackageFile)
    (hf : ∀ file offset, f { file with payloadOffset := offset } = f file) :
    (placed offset files).map f = files.map f := by
  induction files generalizing offset with
  | nil => rfl
  | cons file files ih => rw [placed_cons, List.map_cons, List.map_cons, hf, ih]

lemma placed_values (offset : ℕ) (files : List VerifiedPackageFile) :
    (placed offset files).map fileValue = files.map fileValue :=
  placed_map offset files fun _ _ => rfl

lemma placed_paths (offset : ℕ) (files : List VerifiedPackageFile) :
    (placed offset files).map VerifiedPackageFile.path = files.map VerifiedPackageFile.path :=
  placed_map offset files fun _ _ => rfl

lemma placed_bounds {offset : ℕ} {files : List VerifiedPackageFile} :
    ∀ file ∈ placed offset files, file.payloadOffset + file.size ≤ offset + totalSize files := by
  induction files generalizing offset with
  | nil => simp
  | cons file files ih =>
    rw [placed_cons, List.forall_mem_cons, totalSize, List.map_cons, List.sum_cons, ← totalSize]
    refine ⟨by simp, fun other hother => ?_⟩
    have hbound := ih other hother
    omega

lemma placed_forall {P : VerifiedPackageFile → Prop} {offset : ℕ} {files : List VerifiedPackageFile}
    (hP : ∀ file offset, P file → P { file with payloadOffset := offset }) (h : ∀ file ∈ files, P file) :
    ∀ file ∈ placed offset files, P file := by
  induction files generalizing offset with
  | nil => simp
  | cons file files ih =>
    obtain ⟨hfile, hfiles⟩ := List.forall_mem_cons.mp h
    rw [placed_cons, List.forall_mem_cons]
    exact ⟨hP file offset hfile, ih hfiles⟩

lemma fileContents_flatten (bytes : Bytes) (start offset : ℕ) (files : List VerifiedPackageFile) :
    (fileContents bytes start (placed offset files)).flatten =
      slice bytes (start + offset) (totalSize files) := by
  induction files generalizing offset with
  | nil => simp [fileContents, totalSize, slice]
  | cons file files ih =>
    rw [totalSize, List.map_cons, List.sum_cons, slice_split, placed_cons, fileContents, List.map_cons,
      List.flatten_cons, add_assoc, ← totalSize, ← ih]
    rfl

lemma fileContents_of_flatten {bytes : Bytes} {start offset : ℕ} {files : List VerifiedPackageFile}
    {contents : List Bytes} (h : List.Forall₂ (fun file content => file.size = content.length) files contents)
    (hs : slice bytes (start + offset) contents.flatten.length = contents.flatten) :
    fileContents bytes start (placed offset files) = contents := by
  induction h generalizing offset with
  | nil => rfl
  | @cons file content files contents hsize _ ih =>
    rw [List.flatten_cons, List.length_append, slice_append_eq] at hs
    have htail := @ih (offset + file.size) (by rw [hsize, ← add_assoc]; exact hs.2)
    rw [placed_cons, fileContents, List.map_cons]
    refine congrArg₂ List.cons ?_ htail
    rw [hsize]
    exact hs.1

lemma totalSize_contents {files : List VerifiedPackageFile} {contents : List Bytes}
    (h : List.Forall₂ (fun file content => file.size = content.length) files contents) :
    totalSize files = contents.flatten.length := by
  induction h with
  | nil => rfl
  | cons hsize _ ih =>
    rw [List.flatten_cons, List.length_append, ← ih, ← hsize]
    rfl

lemma header_eq {bytes : Bytes} {development : Bool} {m e t p : ℕ} (hsize : headerSize ≤ bytes.length)
    (hm : m < 2 ^ 32) (he : e < 2 ^ 32)
    (hu : headerSize + m + t + p + (if development then 0 else signatureSize) < 2 ^ 64) :
    slice bytes 0 headerSize = (packageHeader development m e t p).flatten ↔
      (slice bytes 0 8 = packageMagic ∧ value (slice bytes 8 2) = 1 ∧
        value (slice bytes 10 2) = headerSize) ∧
      readHeader bytes = {
        flags := if development then 1 else 0
        manifestSize := m, entryCount := e, tableSize := t, payloadSize := p
        unsignedSize := headerSize + m + t + p
        totalSize := headerSize + m + t + p + if development then 0 else signatureSize
        tableVersion := 1, reserved := 0 } := by
  have h64 : headerSize = 64 := rfl
  have hflags : (if development then 1 else 0) < 256 ^ 4 := by split <;> omega
  conv_lhs => rw [← packageHeader_length development m e t p]
  rw [slice_eq_flatten]
  simp only [packageHeader, FieldsAt, littleEndian_length, show packageMagic.length = 8 from rfl,
    Nat.reduceAdd, and_true, readHeader, PackageHeader.mk.injEq]
  rw [slice_eq_littleEndian (by omega) (by omega), slice_eq_littleEndian (by omega) (by omega),
    slice_eq_littleEndian (by omega) hflags, slice_eq_littleEndian (by omega) (by omega),
    slice_eq_littleEndian (by omega) (by omega), slice_eq_littleEndian (by omega) (by omega),
    slice_eq_littleEndian (by omega) (by omega), slice_eq_littleEndian (by omega) (by omega),
    slice_eq_littleEndian (by omega) (by omega), slice_eq_littleEndian (by omega) (by omega),
    slice_eq_littleEndian (by omega) (by omega)]
  tauto

lemma slice_serialize {bytes : Bytes} {development : Bool} {manifest : VerifiedPackageManifest}
    {contents : List Bytes} :
    slice bytes 0 (serialize development manifest contents).length =
        serialize development manifest contents ↔
      slice bytes 0 headerSize =
          (packageHeader development (manifestText manifest).length manifest.files.length
            (fileTable 0 manifest.files).length contents.flatten.length).flatten ∧
        slice bytes headerSize (manifestText manifest).length = manifestText manifest ∧
        slice bytes (headerSize + (manifestText manifest).length) (fileTable 0 manifest.files).length =
          fileTable 0 manifest.files ∧
        slice bytes (headerSize + (manifestText manifest).length + (fileTable 0 manifest.files).length)
          contents.flatten.length = contents.flatten := by
  rw [serialize, List.length_append, slice_append_eq, packageHeader_length, List.length_append,
    slice_append_eq, List.length_append, slice_append_eq, Nat.zero_add]

/-- A package as data: everything its bytes say. -/
structure Package where
  development : Bool
  manifest : VerifiedPackageManifest
  contents : List Bytes
  envelope : Bytes

namespace Package

def unsigned (package : Package) : Bytes :=
  serialize package.development package.manifest package.contents

def bytes (package : Package) : Bytes := package.unsigned ++ package.envelope

def verification (package : Package) : PackageVerification where
  status := .verified
  detail := text (if package.development then "PACKAGE_DEVELOPMENT_STRUCTURALLY_VERIFIED"
    else "PACKAGE_VERIFIED")
  development := package.development
  signatureVerified := !package.development
  unsignedSize := package.unsigned.length
  payloadStart := headerSize + (manifestText package.manifest).length +
    (fileTable 0 package.manifest.files).length
  manifest := { package.manifest with files := placed 0 package.manifest.files }

end Package

end LvglPlatform

import LvglPlatform.Package.Accepted

/-! The files of an accepted package: their order, the ranges of the payload they take, and the one
among them that starts the application. -/

namespace LvglPlatform

open Foundation

/-- What staging and launching rely on about the files of a package. -/
structure LaidOut (bytes : Bytes) (crypto : CryptoProvider) (result : PackageVerification) : Prop where
  ascending : Ascending (result.manifest.files.map VerifiedPackageFile.path)
  paths : ∀ file ∈ result.manifest.files, validPath file.path = true
  offsets : ∀ before file after, result.manifest.files = before ++ file :: after →
    file.payloadOffset = totalSize before
  total : totalSize result.manifest.files = (readHeader bytes).payloadSize
  ends : ∀ before file, result.manifest.files = before ++ [file] →
    file.payloadOffset + file.size = (readHeader bytes).payloadSize
  inside : result.payloadStart + (readHeader bytes).payloadSize = result.unsignedSize ∧
    result.unsignedSize ≤ bytes.length
  tiles : (result.contents bytes).flatten =
    slice bytes result.payloadStart (readHeader bytes).payloadSize
  hashes : ∀ file ∈ result.manifest.files,
    crypto.sha256 (slice bytes (result.payloadStart + file.payloadOffset) file.size) = some file.sha256
  entry : ∃ file, result.manifest.files.filter (fun f => f.path = result.manifest.entry) = [file] ∧
    file.role = text "executable" ∧ file.mode = 0o755

section

variable {files : List VerifiedPackageFile}

lemma placed_offset {offset : ℕ} {before after : List VerifiedPackageFile} {file : VerifiedPackageFile}
    (h : placed offset files = before ++ file :: after) :
    file.payloadOffset = offset + totalSize before := by
  induction files generalizing offset before with
  | nil => simp at h
  | cons first files ih =>
    rw [placed_cons] at h
    cases before with
    | nil =>
      obtain ⟨rfl, -⟩ := List.cons.inj h
      rfl
    | cons head before =>
      obtain ⟨rfl, hrest⟩ := List.cons.inj h
      rw [ih hrest, totalSize, totalSize, List.map_cons, List.sum_cons, add_assoc]

lemma totalSize_placed (offset : ℕ) (files : List VerifiedPackageFile) :
    totalSize (placed offset files) = totalSize files := by
  induction files generalizing offset with
  | nil => rfl
  | cons file files ih =>
    have htail := ih (offset + file.size)
    rw [totalSize, totalSize] at htail
    rw [placed_cons, totalSize, totalSize, List.map_cons, List.map_cons, List.sum_cons, List.sum_cons, htail]

lemma placed_forall₂ {R : VerifiedPackageFile → Bytes → Prop} {contents : List Bytes}
    (hR : ∀ file offset content, R file content → R { file with payloadOffset := offset } content)
    (h : List.Forall₂ R files contents) (offset : ℕ) :
    List.Forall₂ R (placed offset files) contents := by
  induction h generalizing offset with
  | nil => exact .nil
  | cons hfile _ ih => exact .cons (hR _ _ _ hfile) (ih _)

lemma entryFound_placed (entry : Bytes) (found : Bool) (offset : ℕ) (files : List VerifiedPackageFile) :
    entryFound entry found (placed offset files) = entryFound entry found files := by
  induction files generalizing found offset with
  | nil => rfl
  | cons file files ih => rw [placed_cons, entryFound, entryFound, ih]

lemma entryFound_single {entry : Bytes} {found : Bool}
    (hsorted : Ascending (files.map VerifiedPackageFile.path))
    (h : entryFound entry found files = true) :
    (found = true ∧ files.filter (fun f => f.path = entry) = []) ∨
      ∃ file, files.filter (fun f => f.path = entry) = [file] ∧
        file.role = text "executable" ∧ file.mode = 0o755 := by
  induction files generalizing found with
  | nil => exact Or.inl ⟨h, rfl⟩
  | cons file files ih =>
    obtain ⟨hbefore, hrest⟩ := List.pairwise_cons.mp hsorted
    rw [entryFound] at h
    by_cases hentry : file.path = entry
    · rw [if_pos hentry] at h
      have hnone : files.filter (fun f => f.path = entry) = [] := by
        rw [List.filter_eq_nil_iff]
        intro other hother hpath
        have hlt := hbefore other.path (List.mem_map_of_mem hother)
        rw [of_decide_eq_true hpath, hentry] at hlt
        exact List.lt_irrefl entry hlt
      right
      refine ⟨file, ?_, ?_⟩
      · rw [List.filter_cons_of_pos (by simpa using hentry), hnone]
      · rcases ih hrest h with ⟨hfound, -⟩ | ⟨other, hother, -⟩
        · simpa using hfound
        · rw [hnone] at hother
          cases hother
    · rw [if_neg hentry] at h
      rw [List.filter_cons_of_neg (by simpa using hentry)]
      exact ih hrest h

end

section

variable {crypto : CryptoProvider} {trustedKeys : List TrustedPublicKey} {package : Package}

lemma Package.Sound.payload (h : package.Sound crypto trustedKeys) :
    totalSize package.verification.manifest.files = package.contents.flatten.length := by
  have hcontents := totalSize_contents (h.contents.imp fun _ _ h => h.1)
  exact (totalSize_placed 0 package.manifest.files).trans hcontents

lemma Package.unsigned_length (package : Package) :
    package.unsigned.length = package.verification.payloadStart + package.contents.flatten.length :=
  serialize_length package.development package.manifest package.contents

lemma Package.Sound.hashes (h : package.Sound crypto trustedKeys) :
    ∀ file ∈ package.verification.manifest.files,
      crypto.sha256 (slice package.bytes (package.verification.payloadStart + file.payloadOffset)
        file.size) = some file.sha256 := by
  have hread := h.verification_contents
  have hfiles := placed_forall₂
    (R := fun file content => crypto.sha256 content = some file.sha256)
    (fun _ _ _ hfile => hfile) (h.contents.imp fun _ _ h => h.2) 0
  rw [← hread, PackageVerification.contents, fileContents, List.forall₂_map_right_iff] at hfiles
  exact List.forall₂_same.mp hfiles

lemma Package.Sound.laidOut (h : package.Sound crypto trustedKeys) {bytes : Bytes}
    (hbytes : package.bytes = bytes) (hheader : readHeader bytes = package.header) :
    LaidOut bytes crypto package.verification := by
  subst hbytes
  have hpayload : package.contents.flatten.length = (readHeader package.bytes).payloadSize := by
    rw [hheader]
    rfl
  have hlength := package.unsigned_length
  have htotal := h.payload
  have hoffset : ∀ before file after,
      package.verification.manifest.files = before ++ file :: after →
      file.payloadOffset = totalSize before := by
    intro before file after hfiles
    rw [placed_offset hfiles, Nat.zero_add]
  have hpaths : package.verification.manifest.files.map VerifiedPackageFile.path =
      package.manifest.files.map VerifiedPackageFile.path := placed_paths 0 _
  refine ⟨?_, ?_, hoffset, htotal.trans hpayload, ?_, ?_, ?_, h.hashes, ?_⟩
  · rw [hpaths]
    exact h.manifest.files.ascending
  · exact placed_forall (fun _ _ h => h) fun file hfile => (h.manifest.files.valid file hfile).1.path
  · intro before file hfiles
    rw [hoffset before file [] hfiles, ← hpayload, ← htotal, hfiles, totalSize, totalSize,
      List.map_append, List.sum_append, List.map_singleton, List.sum_singleton]
  · rw [← hpayload]
    refine ⟨hlength.symm, ?_⟩
    rw [Package.bytes, List.length_append]
    exact Nat.le_add_right _ _
  · rw [h.verification_contents, ← hpayload]
    obtain ⟨-, -, -, hslice⟩ := slice_serialize.mp package.slice_unsigned
    exact hslice.symm
  · have hfound : entryFound package.manifest.entry false package.verification.manifest.files = true :=
      (entryFound_placed _ _ _ _).trans h.manifest.entry_found
    rcases entryFound_single (by rw [hpaths]; exact h.manifest.files.ascending) hfound with h | h
    · cases h.1
    · exact h

end

lemma accepts_laidOut {bytes : Bytes} {crypto : CryptoProvider} {trustedKeys : List TrustedPublicKey}
    {allowDevelopment : Bool} {result : PackageVerification}
    (h : Accepts bytes crypto trustedKeys allowDevelopment result) : LaidOut bytes crypto result := by
  obtain ⟨package, hbytes, hsound, hallow, rfl⟩ := accepts_iff.mp h
  obtain ⟨-, hheader, -⟩ := checkLayout_done.mp (hsound.layout hallow)
  exact hsound.laidOut hbytes (hbytes ▸ hheader.symm)

theorem accepted_files_laid_out (bytes : Bytes) (crypto : CryptoProvider)
    (trustedKeys : List TrustedPublicKey) (allowDevelopment : Bool) (result : PackageVerification)
    (h : Accepts bytes crypto trustedKeys allowDevelopment result) : LaidOut bytes crypto result :=
  accepts_laidOut h

theorem sample_files_laid_out :
    Accepts samplePackage.bytes sampleCrypto [sampleKey] false samplePackage.verification ∧
      LaidOut samplePackage.bytes sampleCrypto samplePackage.verification :=
  ⟨samplePackage_accepted, accepted_files_laid_out samplePackage.bytes sampleCrypto [sampleKey] false
    samplePackage.verification samplePackage_accepted⟩

end LvglPlatform

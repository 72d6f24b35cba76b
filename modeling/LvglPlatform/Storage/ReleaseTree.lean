import LvglPlatform.Foundation.TreeRemoval
import LvglPlatform.Storage.StageRelease

namespace LvglPlatform

open Foundation

lemma intercalate_length {separator : UInt8} {parts : List Bytes} (h : ∀ part ∈ parts, part ≠ []) :
    2 * parts.length ≤ ([separator].intercalate parts).length + 1 := by
  induction parts with
  | nil => simp
  | cons part parts ih =>
    obtain ⟨hpart, hparts⟩ := List.forall_mem_cons.mp h
    have hlength : 0 < part.length := List.length_pos_of_ne_nil hpart
    cases parts with
    | nil =>
      simp only [List.length_cons, List.length_nil, List.intercalate_singleton]
      omega
    | cons next parts =>
      have hrest := ih hparts
      rw [List.intercalate_cons_cons, List.length_append, List.length_append]
      simp only [List.length_cons, List.length_nil] at hrest ⊢
      omega

/-- A path of at most 240 bytes has at most 120 components. -/
lemma splitPath_length {path : Bytes} (h : validPath path = true) : (splitPath path).length ≤ 120 := by
  obtain ⟨hsplit, hall⟩ := splitPath_valid h
  have hparts : ∀ part ∈ path.splitOn (chr '/'), part ≠ [] := by
    rintro part hpart rfl
    exact absurd (List.all_eq_true.mp hall [] hpart) (by decide)
  have hlength : 2 * (path.splitOn (chr '/')).length ≤
      ([chr '/'].intercalate (path.splitOn (chr '/'))).length + 1 := intercalate_length hparts
  rw [List.intercalate_splitOn] at hlength
  have hsize : path.length ≤ maximumPathSize := by
    unfold validPath at h
    split at h
    · cases h
    · rename_i hvalid
      simp only [not_or, not_lt] at hvalid
      exact hvalid.2.1
  rw [maximumPathSize] at hsize
  rw [hsplit]
  omega

lemma accepts_paths {bytes : Bytes} {crypto : CryptoProvider} {trustedKeys : List TrustedPublicKey}
    {allowDevelopment : Bool} {verification : PackageVerification}
    (h : Accepts bytes crypto trustedKeys allowDevelopment verification) :
    ∀ file ∈ verification.manifest.files, validPath file.path = true := by
  obtain ⟨package, rfl, hsound, -, rfl⟩ := accepts_iff.mp h
  exact placed_forall (fun _ _ h => h) fun file hfile => (hsound.manifest.files.valid file hfile).1.path

section

variable {euid : ℕ} {bytes : Bytes} {verification : PackageVerification} {digest : Sha512Digest}

lemma stagedFiles_length (hpaths : ∀ file ∈ verification.manifest.files, validPath file.path = true) :
    ∀ entry ∈ stagedFiles euid bytes verification digest, entry.1.length ≤ 120 := by
  intro entry hentry
  simp only [stagedFiles, stagedMetadata, List.mem_append, List.mem_map, List.mem_cons,
    List.not_mem_nil, or_false] at hentry
  obtain ⟨file, hfile, rfl⟩ | rfl | rfl := hentry
  · exact splitPath_length (hpaths file hfile)
  · exact Nat.le_add_left 1 119
  · exact Nat.le_add_left 1 119

end

/-- A directory into which files of an accepted package were extracted: all of them, or the first
ones when the extraction was interrupted. -/
def ReleaseTree (euid : ℕ) (release : Node) : Prop :=
  ∃ bytes crypto trustedKeys allowDevelopment verification digest files,
    Accepts bytes crypto trustedKeys allowDevelopment verification ∧
      files <+: stagedFiles euid bytes verification digest ∧
      release = ((emptyStage euid).createFiles euid 0o755 files).1

def ApplicationTree (euid : ℕ) (application : Node) : Prop :=
  ∃ releases : List (Bytes × Node), (∀ release ∈ releases, ReleaseTree euid release.2) ∧
    application = .directory { uid := euid, mode := 0o700 }
      [(text "releases", .directory { uid := euid, mode := 0o700 } releases)]

section

variable {R : Remover} {euid levels : ℕ}

def EntersStaged (R : Remover) (euid : ℕ) : Prop :=
  R.enters { uid := euid, mode := 0o755 } = true ∧ R.enters { uid := euid, mode := 0o700 } = true

lemma releaseTree_admits {release : Node} (henters : EntersStaged R euid) (hlevels : 120 ≤ levels)
    (h : ReleaseTree euid release) : R.Admits levels release := by
  obtain ⟨bytes, crypto, trustedKeys, allowDevelopment, verification, digest, files, haccepts, hfiles,
    rfl⟩ := h
  have hstaged : ∀ entry ∈ files, entry.2.isDirectory = false ∧ entry.1.length ≤ levels := by
    intro entry hentry
    have hmem := hfiles.subset hentry
    have hlength := stagedFiles_length (accepts_paths haccepts) entry hmem
    exact ⟨stagedFiles_isDirectory entry hmem, hlength.trans hlevels⟩
  have hempty : R.Fits levels (emptyStage euid).entries := by
    obtain ⟨levels, rfl⟩ : ∃ n, levels = n + 1 := ⟨levels - 1, by omega⟩
    exact Remover.fits_nil levels
  have hshape : ((emptyStage euid).createFiles euid 0o755 files).1.stat = (emptyStage euid).stat ∧
      ((emptyStage euid).createFiles euid 0o755 files).1.isDirectory = (emptyStage euid).isDirectory :=
    Remover.createFiles_shape files
  have hstat := hshape.1
  have hfits := Remover.createFiles_fits henters.1 hempty hstaged
  intro stat below he
  rw [he] at hfits hstat
  refine ⟨?_, hfits⟩
  obtain rfl : stat = { uid := euid, mode := 0o700 } := hstat
  exact henters.2

lemma applicationTree_fits {application : Node} (henters : EntersStaged R euid) (hlevels : 120 ≤ levels)
    (h : ApplicationTree euid application) : R.Fits (levels + 2) application.entries := by
  obtain ⟨releases, hreleases, rfl⟩ := h
  intro entry hentry stat below he
  obtain rfl := List.mem_singleton.mp hentry
  cases he
  refine ⟨henters.2, ?_⟩
  intro release hrelease stat below he
  exact releaseTree_admits henters hlevels (hreleases release hrelease) stat below he

end

/-- A release whose extraction went through. -/
structure PackageRelease where
  bytes : Bytes
  crypto : CryptoProvider
  trustedKeys : List TrustedPublicKey
  allowDevelopment : Bool
  verification : PackageVerification
  digest : Sha512Digest
  accepted : Accepts bytes crypto trustedKeys allowDevelopment verification
  apart : (stagedPaths verification.manifest).Pairwise Node.Apart

namespace PackageRelease

def node (release : PackageRelease) (euid : ℕ) : Node :=
  extracted euid release.bytes release.verification release.digest

/-- No file lies below more than so many components. -/
def Within (release : PackageRelease) (components : ℕ) : Prop :=
  ∀ file ∈ release.verification.manifest.files, (splitPath file.path).length ≤ components

variable {R : Remover} {euid levels : ℕ}

lemma node_eq (release : PackageRelease) :
    release.node euid = .directory { uid := euid, mode := 0o700 } (release.node euid).entries := by
  have hshape : (release.node euid).stat = (emptyStage euid).stat ∧
      (release.node euid).isDirectory = (emptyStage euid).isDirectory := Remover.createFiles_shape _
  cases hn : release.node euid with
  | directory stat below =>
    rw [hn] at hshape
    obtain rfl : stat = { uid := euid, mode := 0o700 } := hshape.1
    rfl
  | file stat content =>
    rw [hn] at hshape
    cases hshape.2
  | other stat =>
    rw [hn] at hshape
    cases hshape.2

lemma nested {release : PackageRelease} {file : VerifiedPackageFile}
    (hfile : file ∈ release.verification.manifest.files) (hlevels : levels < (splitPath file.path).length) :
    Nested levels (release.node euid).entries := by
  have hok : ((emptyStage euid).createFiles euid 0o755
      (stagedFiles euid release.bytes release.verification release.digest)).2 = true :=
    (staged_ok (accepts_paths release.accepted)).mpr release.apart
  have hopen := Node.openFile_createFiles (by decide) emptyStage_trusted stagedFiles_isDirectory hok
    (stagedFile euid release.bytes release.verification.payloadStart file)
    (List.mem_append_left _ (List.mem_map_of_mem hfile))
  exact nested_of_openFile hlevels hopen

lemma fits_iff (release : PackageRelease) (henters : EntersStaged R euid) (hlevels : 0 < levels) :
    R.Fits levels (release.node euid).entries ↔ release.Within levels := by
  constructor
  · intro hfits file hfile
    by_contra hlong
    have hnested : Nested levels (release.node euid).entries := nested hfile (Nat.lt_of_not_le hlong)
    exact (Remover.fits_iff_not_nested (hfits.enterable levels)).mp hfits hnested
  · intro hwithin
    have hempty : R.Fits levels (emptyStage euid).entries := by
      obtain ⟨levels, rfl⟩ : ∃ n, levels = n + 1 := ⟨levels - 1, by omega⟩
      exact Remover.fits_nil levels
    refine Remover.createFiles_fits henters.1 hempty fun entry hentry => ?_
    refine ⟨stagedFiles_isDirectory entry hentry, ?_⟩
    simp only [stagedFiles, stagedMetadata, List.mem_append, List.mem_map, List.mem_cons,
      List.not_mem_nil, or_false] at hentry
    obtain ⟨file, hfile, rfl⟩ | rfl | rfl := hentry
    · exact hwithin file hfile
    · exact hlevels
    · exact hlevels

lemma admits_iff (release : PackageRelease) (henters : EntersStaged R euid) (hlevels : 0 < levels) :
    R.Admits levels (release.node euid) ↔ release.Within levels := by
  rw [← release.fits_iff henters hlevels]
  constructor
  · exact fun h => (h _ _ release.node_eq).2
  · intro hfits stat below he
    rw [release.node_eq] at he
    cases he
    exact ⟨henters.2, hfits⟩

end PackageRelease

end LvglPlatform

import LvglPlatform.Foundation.FileCreation
import LvglPlatform.Package.InstallPolicy
import LvglPlatform.Storage.ReleaseState

/-! `stage_verified_release`: a verified package is extracted beside the releases of its application
and then renamed to its counter. -/

namespace LvglPlatform

open Foundation

inductive StorageStatus
  | committed
  | alreadyPresent
  | invalidArgument
  | packageNotAuthenticated
  | rootUntrusted
  | pathRejected
  | releaseCollision
  | randomUnavailable
  | ioError
  | unsupportedPlatform
  deriving DecidableEq, Repr

structure StorageResult where
  status : StorageStatus := .invalidArgument
  detail : Bytes := []
  releasePath : Bytes := []
  deriving DecidableEq

def StorageResult.ok (result : StorageResult) : Bool :=
  result.status = .committed || result.status = .alreadyPresent

def stagingResult (status : StorageStatus) (detail : String) : StorageResult :=
  { status, detail := text detail }

def safeComponent (value : Bytes) : Bool :=
  if value = [] ∨ value.length > 128 ∨ value = text "." ∨ value = text ".." then false
  else value.all fun c => isLower c || isDigit c || c = chr '.' || c = chr '-'

def splitPath (path : Bytes) : Path :=
  let components := path.splitOn (chr '/')
  if components.getLast? = some [] then components.dropLast else components

structure StagingContext where
  euid : ℕ
  random : Option (ByteArr 16)

def createFile (euid : ℕ) (release : Node) (file : VerifiedPackageFile) (payload : Bytes) :
    Node × Bool :=
  Node.createFile euid 0o755 (.file { uid := euid, mode := file.mode } payload) release
    (splitPath file.path)

def packageCopyName : Bytes := text ".package.lvapp"

def packageMarkerName : Bytes := text ".package.sha512"

def createPackageCopy (euid : ℕ) (release : Node) (bytes : Bytes) (digest : Sha512Digest) :
    Node × Bool :=
  let metadata (content : Bytes) : Node := .file { uid := euid, mode := 0o400 } content
  match Node.createFile euid 0o755 (metadata bytes) release [packageCopyName] with
  | (release, false) => (release, false)
  | (release, true) =>
    Node.createFile euid 0o755 (metadata digest.toList) release [packageMarkerName]

def releasePackageMatches (euid : ℕ) (directory : Node) (bytes : Bytes) (digest : Sha512Digest) :
    Bool :=
  directory.trusted euid &&
    (match directory.child packageCopyName with
      | some (.file stat content) =>
        stat.uid = euid && stat.mode &&& 0o222 = 0 && content = bytes
      | _ => false) &&
    match directory.child packageMarkerName with
      | some (.file _ content) => content = digest.toList
      | _ => false

def stageName (counter : UInt64) (random : ByteArr 16) : Bytes :=
  text ".stage-" ++ decimal counter.toNat ++ text "-" ++ hexText random.toList

def extractFiles (euid : ℕ) (bytes : Bytes) (payloadStart : ℕ) :
    Node → List VerifiedPackageFile → Node × Option StorageResult
  | stage, [] => (stage, none)
  | stage, file :: files =>
    if file.payloadOffset > bytes.length - payloadStart ∨
        file.size > bytes.length - payloadStart - file.payloadOffset then
      (stage, some (stagingResult .invalidArgument "STORAGE_FILE_RANGE_INVALID"))
    else
      match createFile euid stage file (slice bytes (payloadStart + file.payloadOffset) file.size) with
      | (stage, false) => (stage, some (stagingResult .ioError "STORAGE_FILE_WRITE_FAILED"))
      | (stage, true) => extractFiles euid bytes payloadStart stage files

def fillStage (euid : ℕ) (bytes : Bytes) (verification : PackageVerification) (digest : Sha512Digest)
    (stage : Node) : Node × Option StorageResult :=
  match extractFiles euid bytes verification.payloadStart stage verification.manifest.files with
  | (stage, some failed) => (stage, some failed)
  | (stage, none) =>
    match createPackageCopy euid stage bytes digest with
    | (stage, false) => (stage, some (stagingResult .ioError "STORAGE_METADATA_WRITE_FAILED"))
    | (stage, true) => (stage, none)

def emptyStage (euid : ℕ) : Node := .directory { uid := euid, mode := 0o700 } []

def commitRelease (context : StagingContext) (releasePath : Bytes) (bytes : Bytes)
    (verification : PackageVerification) (digest : Sha512Digest) (releases : Node) :
    Node × StorageResult :=
  let release := decimal verification.manifest.releaseCounter.toNat
  match releases.openDirectory release with
  | .directory existing =>
    if releasePackageMatches context.euid existing bytes digest then
      (releases, { stagingResult .alreadyPresent "STORAGE_RELEASE_ALREADY_PRESENT" with releasePath })
    else (releases, stagingResult .releaseCollision "STORAGE_RELEASE_COLLISION")
  | .refused => (releases, stagingResult .pathRejected "STORAGE_RELEASE_PATH_REJECTED")
  | .missing =>
    match context.random with
    | none => (releases, stagingResult .randomUnavailable "STORAGE_RANDOM_UNAVAILABLE")
    | some random =>
      let name := stageName verification.manifest.releaseCounter random
      match releases.child name with
      | some _ => (releases, stagingResult .ioError "STORAGE_STAGE_CREATE_FAILED")
      | none =>
        match fillStage context.euid bytes verification digest (emptyStage context.euid) with
        | (stage, some failed) => (releases.put name stage, failed)
        -- the rename takes the stage away from its own name
        | (stage, none) => (releases.put release stage,
          { stagingResult .committed "STORAGE_RELEASE_COMMITTED" with releasePath })

def releasesPath (appId : Bytes) : Path := [text "apps", appId, text "releases"]

def releaseText (storeRoot : Bytes) (verification : PackageVerification) : Bytes :=
  storeRoot ++ text "/apps/" ++ verification.manifest.appId ++ text "/releases/" ++
    decimal verification.manifest.releaseCounter.toNat

def stageVerifiedRelease (context : StagingContext) (storeRoot : Bytes) (root : Option Node)
    (bytes : Bytes) (verification : PackageVerification) (digest : Sha512Digest) :
    Option Node × StorageResult :=
  if storeRoot = [] ∨ bytes = [] ∨ !safeComponent verification.manifest.appId ∨
      verification.manifest.releaseCounter = 0 then
    (root, stagingResult .invalidArgument "STORAGE_ARGUMENT_INVALID")
  else if !verification.ok || verification.development || !verification.signatureVerified then
    (root, stagingResult .packageNotAuthenticated "STORAGE_PACKAGE_NOT_AUTHENTICATED")
  else if verification.payloadStart > bytes.length then
    (root, stagingResult .invalidArgument "STORAGE_PACKAGE_LAYOUT_INVALID")
  else if storeRoot.head? ≠ some (chr '/') then
    (root, stagingResult .invalidArgument "STORAGE_ROOT_MUST_BE_ABSOLUTE")
  else
    let untrusted := stagingResult .rootUntrusted "STORAGE_ROOT_UNTRUSTED"
    match root with
    | none => (none, untrusted)
    | some root =>
      if !root.trusted context.euid then (some root, untrusted)
      else
        let (root, result) := Node.inside context.euid 0o700
          (stagingResult .pathRejected "STORAGE_DIRECTORY_REJECTED")
          (commitRelease context (releaseText storeRoot verification) bytes verification digest)
          root (releasesPath verification.manifest.appId)
        (some root, result)

def committedRelease (root : Option Node) (appId : Bytes) (counter : UInt64) : Option Node :=
  root.bind fun node => node.lookup (releasesPath appId ++ [decimal counter.toNat])

/-- What the verifier established about a package that is staged. -/
structure Extractable (bytes : Bytes) (verification : PackageVerification) : Prop where
  appId : safeComponent verification.manifest.appId = true
  counter : verification.manifest.releaseCounter ≠ 0
  authenticated : verification.ok = true ∧ verification.development = false ∧
    verification.signatureVerified = true
  payload : verification.payloadStart ≤ bytes.length
  ranges : ∀ file ∈ verification.manifest.files,
    verification.payloadStart + file.payloadOffset + file.size ≤ bytes.length
  paths : ∀ file ∈ verification.manifest.files, validPath file.path = true

def stagedFile (euid : ℕ) (bytes : Bytes) (payloadStart : ℕ) (file : VerifiedPackageFile) :
    Path × Node :=
  (splitPath file.path, .file { uid := euid, mode := file.mode }
    (slice bytes (payloadStart + file.payloadOffset) file.size))

def stagedMetadata (euid : ℕ) (bytes : Bytes) (digest : Sha512Digest) : List (Path × Node) :=
  [([packageCopyName], .file { uid := euid, mode := 0o400 } bytes),
    ([packageMarkerName], .file { uid := euid, mode := 0o400 } digest.toList)]

def stagedFiles (euid : ℕ) (bytes : Bytes) (verification : PackageVerification)
    (digest : Sha512Digest) : List (Path × Node) :=
  verification.manifest.files.map (stagedFile euid bytes verification.payloadStart) ++
    stagedMetadata euid bytes digest

def stagedPaths (manifest : VerifiedPackageManifest) : List Path :=
  (manifest.files.map fun file => splitPath file.path) ++ [[packageCopyName], [packageMarkerName]]

section

variable {euid : ℕ} {bytes : Bytes} {verification : PackageVerification} {digest : Sha512Digest}

lemma stagedFiles_paths :
    (stagedFiles euid bytes verification digest).map Prod.fst = stagedPaths verification.manifest := by
  simp [stagedFiles, stagedPaths, stagedMetadata, stagedFile, Function.comp_def]

lemma stagedFiles_isDirectory :
    ∀ entry ∈ stagedFiles euid bytes verification digest, entry.2.isDirectory = false := by
  intro entry hentry
  simp only [stagedFiles, stagedMetadata, List.mem_append, List.mem_map, List.mem_cons,
    List.not_mem_nil, or_false] at hentry
  obtain ⟨file, -, rfl⟩ | rfl | rfl := hentry
  · rfl
  · rfl
  · rfl

lemma createFiles_stagedFile (payloadStart : ℕ) (stage : Node) (file : VerifiedPackageFile)
    (files : List (Path × Node)) :
    Node.createFiles euid 0o755 stage (stagedFile euid bytes payloadStart file :: files) =
      match createFile euid stage file (slice bytes (payloadStart + file.payloadOffset) file.size) with
      | (stage, true) => Node.createFiles euid 0o755 stage files
      | (stage, false) => (stage, false) := rfl

lemma extractFiles_eq {payloadStart : ℕ} {stage : Node} {files : List VerifiedPackageFile}
    (hranges : ∀ file ∈ files, payloadStart + file.payloadOffset + file.size ≤ bytes.length) :
    extractFiles euid bytes payloadStart stage files =
      match Node.createFiles euid 0o755 stage (files.map (stagedFile euid bytes payloadStart)) with
      | (stage, true) => (stage, none)
      | (stage, false) => (stage, some (stagingResult .ioError "STORAGE_FILE_WRITE_FAILED")) := by
  induction files generalizing stage with
  | nil => rfl
  | cons file files ih =>
    obtain ⟨hrange, hothers⟩ := List.forall_mem_cons.mp hranges
    rw [List.map_cons, createFiles_stagedFile, extractFiles, if_neg (by omega)]
    match createFile euid stage file (slice bytes (payloadStart + file.payloadOffset) file.size) with
    | (stage, true) => exact ih hothers
    | (stage, false) => rfl

lemma createPackageCopy_eq (release : Node) :
    createPackageCopy euid release bytes digest =
      Node.createFiles euid 0o755 release (stagedMetadata euid bytes digest) := by
  rw [createPackageCopy, stagedMetadata, Node.createFiles]
  rcases Node.createFile euid 0o755 (.file { uid := euid, mode := 0o400 } bytes) release [packageCopyName]
    with ⟨release, _ | _⟩
  · rfl
  · simp only [Node.createFiles]
    rcases Node.createFile euid 0o755 (.file { uid := euid, mode := 0o400 } digest.toList) release
      [packageMarkerName] with ⟨release, _ | _⟩
    · rfl
    · rfl

lemma fillStage_eq (h : Extractable bytes verification) (stage : Node) :
    (fillStage euid bytes verification digest stage).1 =
        (Node.createFiles euid 0o755 stage (stagedFiles euid bytes verification digest)).1 ∧
      if (Node.createFiles euid 0o755 stage (stagedFiles euid bytes verification digest)).2 then
        (fillStage euid bytes verification digest stage).2 = none
      else ∃ detail, (fillStage euid bytes verification digest stage).2 =
        some (stagingResult .ioError detail) := by
  rw [fillStage, extractFiles_eq h.ranges, stagedFiles, Node.createFiles_append]
  rcases Node.createFiles euid 0o755 stage
    (verification.manifest.files.map (stagedFile euid bytes verification.payloadStart)) with ⟨stage, _ | _⟩
  · exact ⟨rfl, _, rfl⟩
  · simp only [createPackageCopy_eq]
    rcases Node.createFiles euid 0o755 stage (stagedMetadata euid bytes digest) with ⟨stage, _ | _⟩
    · exact ⟨rfl, _, rfl⟩
    · exact ⟨rfl, rfl⟩

lemma decimal_digits {n : ℕ} {c : UInt8} (h : c ∈ decimal n) : c ≠ chr '/' ∧ c ≠ chr '.' := by
  have hslash : (chr '/').toNat = 47 := by decide
  have hdot : (chr '.').toNat = 46 := by decide
  have hrange := decimal_range h
  constructor
  · rintro rfl
    omega
  · rintro rfl
    omega

lemma decimal_ne_stageName (n : ℕ) (counter : UInt64) (random : ByteArr 16) :
    decimal n ≠ stageName counter random := by
  intro h
  have hdot : chr '.' ∈ decimal n := by
    rw [h, stageName, List.append_assoc, List.append_assoc]
    exact List.mem_append_left _ (by decide)
  exact (decimal_digits hdot).2 rfl

lemma splitPath_valid {path : Bytes} (h : validPath path = true) :
    splitPath path = path.splitOn (chr '/') ∧
      (path.splitOn (chr '/')).all validSegment = true := by
  unfold validPath at h
  split at h
  · cases h
  refine ⟨?_, h⟩
  have hlast : (path.splitOn (chr '/')).getLast? ≠ some [] := by
    intro hempty
    have hmem : [] ∈ path.splitOn (chr '/') := List.mem_of_getLast? hempty
    exact absurd (List.all_eq_true.mp h [] hmem) (by decide)
  simp only [splitPath, if_neg hlast]

lemma splitPath_ne_nil {path : Bytes} (h : validPath path = true) : splitPath path ≠ [] := by
  rw [(splitPath_valid h).1]
  exact List.splitOn_ne_nil _ _

/-- The releases of an application have room for the package under its counter. -/
structure ReleaseFree (context : StagingContext) (releases : Node)
    (manifest : VerifiedPackageManifest) : Prop where
  vacant : releases.child (decimal manifest.releaseCounter.toNat) = none
  random : ∃ random, context.random = some random ∧
    releases.child (stageName manifest.releaseCounter random) = none
  apart : (stagedPaths manifest).Pairwise Node.Apart

/-- The package lies under its counter already. -/
def ReleasePresent (euid : ℕ) (releases : Node) (bytes : Bytes) (manifest : VerifiedPackageManifest)
    (digest : Sha512Digest) : Prop :=
  ∃ existing, releases.child (decimal manifest.releaseCounter.toNat) = some existing ∧
    releasePackageMatches euid existing bytes digest = true

def extracted (euid : ℕ) (bytes : Bytes) (verification : PackageVerification)
    (digest : Sha512Digest) : Node :=
  (Node.createFiles euid 0o755 (emptyStage euid) (stagedFiles euid bytes verification digest)).1

lemma emptyStage_trusted : (emptyStage euid).trusted euid = true := Node.trusted_directory (by decide) []

lemma staged_ok (hpaths : ∀ file ∈ verification.manifest.files, validPath file.path = true) :
    (Node.createFiles euid 0o755 (emptyStage euid) (stagedFiles euid bytes verification digest)).2 = true ↔
      (stagedPaths verification.manifest).Pairwise Node.Apart := by
  rw [Node.createFiles_ok (by decide) emptyStage_trusted stagedFiles_isDirectory, stagedFiles_paths]
  apply and_iff_right
  intro entry hentry
  apply Node.vacant_empty
  simp only [stagedFiles, stagedMetadata, List.mem_append, List.mem_map, List.mem_cons,
    List.not_mem_nil, or_false] at hentry
  obtain ⟨file, hfile, rfl⟩ | rfl | rfl := hentry
  · exact splitPath_ne_nil (hpaths file hfile)
  · exact List.cons_ne_nil _ _
  · exact List.cons_ne_nil _ _

lemma extracted_openFile (h : Extractable bytes verification)
    (hapart : (stagedPaths verification.manifest).Pairwise Node.Apart) :
    ∀ entry ∈ stagedFiles euid bytes verification digest,
      Node.openFile euid (extracted euid bytes verification digest) entry.1 = some entry.2 :=
  Node.openFile_createFiles (by decide) emptyStage_trusted stagedFiles_isDirectory ((staged_ok h.paths).mpr hapart)

lemma fillStage_extracted (h : Extractable bytes verification)
    (hapart : (stagedPaths verification.manifest).Pairwise Node.Apart) :
    fillStage euid bytes verification digest (emptyStage euid) =
      (extracted euid bytes verification digest, none) := by
  obtain ⟨hstage, hfailure⟩ := fillStage_eq h (emptyStage euid)
  rw [if_pos ((staged_ok h.paths).mpr hapart)] at hfailure
  exact Prod.ext hstage hfailure

lemma fillStage_failed (euid : ℕ) (digest : Sha512Digest) (h : Extractable bytes verification)
    (hapart : ¬ (stagedPaths verification.manifest).Pairwise Node.Apart) :
    ∃ stage detail, fillStage euid bytes verification digest (emptyStage euid) =
      (stage, some (stagingResult .ioError detail)) := by
  obtain ⟨-, hfailure⟩ := fillStage_eq h (emptyStage euid)
  rw [if_neg (fun hok => hapart ((staged_ok h.paths).mp hok))] at hfailure
  obtain ⟨detail, hdetail⟩ := hfailure
  exact ⟨_, detail, Prod.ext rfl hdetail⟩

end

section

variable {context : StagingContext} {releasePath bytes : Bytes} {verification : PackageVerification}
  {digest : Sha512Digest} {releases : Node}

lemma openDirectory_missing {parent : Node} {name : Bytes} :
    parent.openDirectory name = .missing ↔ parent.child name = none := by
  rw [Node.openDirectory]
  cases parent.child name with
  | none => simp
  | some child => by_cases hd : child.isDirectory = true <;> simp [hd]

lemma commitRelease_free (h : Extractable bytes verification)
    (hfree : ReleaseFree context releases verification.manifest) :
    commitRelease context releasePath bytes verification digest releases =
      (releases.put (decimal verification.manifest.releaseCounter.toNat)
          (extracted context.euid bytes verification digest),
        { stagingResult .committed "STORAGE_RELEASE_COMMITTED" with releasePath }) := by
  obtain ⟨hvacant, ⟨random, hrandom, hstage⟩, hapart⟩ := hfree
  simp only [commitRelease, openDirectory_missing.mpr hvacant, hrandom, hstage, fillStage_extracted h hapart]

structure Withheld (context : StagingContext) (releases : Node) (bytes : Bytes)
    (manifest : VerifiedPackageManifest) (digest : Sha512Digest) (outcome : Node × StorageResult) :
    Prop where
  kept : ∀ n, outcome.1.child (decimal n) = releases.child (decimal n)
  status : outcome.2.status ≠ .committed
  present : outcome.2.status = .alreadyPresent ↔
    ReleasePresent context.euid releases bytes manifest digest

lemma commitRelease_existing {existing : Node}
    (hc : releases.child (decimal verification.manifest.releaseCounter.toNat) = some existing) :
    Withheld context releases bytes verification.manifest digest
      (commitRelease context releasePath bytes verification digest releases) := by
  have hpresent : ReleasePresent context.euid releases bytes verification.manifest digest ↔
      releasePackageMatches context.euid existing bytes digest = true := by
    simp [ReleasePresent, hc]
  by_cases hd : existing.isDirectory = true
  · have hopen : releases.openDirectory (decimal verification.manifest.releaseCounter.toNat) =
        .directory existing := by simp [Node.openDirectory, hc, hd]
    by_cases hm : releasePackageMatches context.euid existing bytes digest = true
    · simp only [commitRelease, hopen, hm, if_true]
      exact ⟨fun n => rfl, by simp [stagingResult], by simp [hpresent, hm, stagingResult]⟩
    · simp only [commitRelease, hopen, hm]
      exact ⟨fun n => rfl, by simp [stagingResult], by simp [hpresent, hm, stagingResult]⟩
  · have hopen : releases.openDirectory (decimal verification.manifest.releaseCounter.toNat) =
        .refused := by simp [Node.openDirectory, hc, hd]
    have hm : ¬ releasePackageMatches context.euid existing bytes digest = true := by
      simp [releasePackageMatches, Node.trusted, hd]
    simp only [commitRelease, hopen]
    exact ⟨fun n => rfl, by simp [stagingResult], by simp [hpresent, hm, stagingResult]⟩

lemma commitRelease_incomplete (h : Extractable bytes verification)
    (hc : releases.child (decimal verification.manifest.releaseCounter.toNat) = none)
    (hfree : ¬ ReleaseFree context releases verification.manifest) :
    Withheld context releases bytes verification.manifest digest
      (commitRelease context releasePath bytes verification digest releases) := by
  have hpresent : ¬ ReleasePresent context.euid releases bytes verification.manifest digest := by
    rintro ⟨existing, hexisting, -⟩
    rw [hc] at hexisting
    cases hexisting
  have hopen := openDirectory_missing.mpr hc
  cases hr : context.random with
  | none =>
    simp only [commitRelease, hopen, hr]
    exact ⟨fun n => rfl, by simp [stagingResult], by simp [hpresent, stagingResult]⟩
  | some random =>
    cases hs : releases.child (stageName verification.manifest.releaseCounter random) with
    | some found =>
      simp only [commitRelease, hopen, hr, hs]
      exact ⟨fun n => rfl, by simp [stagingResult], by simp [hpresent, stagingResult]⟩
    | none =>
      have hapart : ¬ (stagedPaths verification.manifest).Pairwise Node.Apart :=
        fun hapart => hfree ⟨hc, ⟨random, hr, hs⟩, hapart⟩
      obtain ⟨stage, detail, hfill⟩ := fillStage_failed context.euid digest h hapart
      simp only [commitRelease, hopen, hr, hs, hfill]
      exact ⟨fun n => Node.child_put_of_ne (decimal_ne_stageName n _ _), by simp [stagingResult],
        by simp [hpresent, stagingResult]⟩

lemma commitRelease_not_free (h : Extractable bytes verification)
    (hfree : ¬ ReleaseFree context releases verification.manifest) :
    Withheld context releases bytes verification.manifest digest
      (commitRelease context releasePath bytes verification digest releases) := by
  cases hc : releases.child (decimal verification.manifest.releaseCounter.toNat) with
  | some existing => exact commitRelease_existing hc
  | none => exact commitRelease_incomplete h hc hfree

lemma commitRelease_trusted (ht : releases.trusted context.euid = true) :
    (commitRelease context releasePath bytes verification digest releases).1.trusted context.euid =
      true := by
  simp only [commitRelease]
  split
  · split <;> exact ht
  · exact ht
  split
  · exact ht
  split
  · exact ht
  split
  · exact Node.trusted_put.trans ht
  · exact Node.trusted_put.trans ht

def releasesDirectory (euid : ℕ) (root : Option Node) (appId : Bytes) : Option Node :=
  root.bind fun node =>
    if node.trusted euid then node.directoryAt euid 0o700 (releasesPath appId) else none

/-- The payload store can take the package as a new release. -/
def HasRoom (context : StagingContext) (root : Option Node) (manifest : VerifiedPackageManifest) :
    Prop :=
  ∃ releases, releasesDirectory context.euid root manifest.appId = some releases ∧
    ReleaseFree context releases manifest

/-- The payload store holds the package already. -/
def Holds (euid : ℕ) (root : Option Node) (bytes : Bytes) (manifest : VerifiedPackageManifest)
    (digest : Sha512Digest) : Prop :=
  ∃ releases, releasesDirectory euid root manifest.appId = some releases ∧
    ReleasePresent euid releases bytes manifest digest

/-- The releases of an application have nothing in the way of the package, or hold it already. -/
def Fits (euid : ℕ) (releases : Node) (bytes : Bytes) (manifest : VerifiedPackageManifest)
    (digest : Sha512Digest) : Prop :=
  (releases.child (decimal manifest.releaseCounter.toNat) = none ∧
    (stagedPaths manifest).Pairwise Node.Apart) ∨ ReleasePresent euid releases bytes manifest digest

def Takes (euid : ℕ) (payload : Option Node) (bytes : Bytes) (manifest : VerifiedPackageManifest)
    (digest : Sha512Digest) : Prop :=
  ∃ releases ∈ releasesDirectory euid payload manifest.appId, Fits euid releases bytes manifest digest

lemma releasesDirectory_some {euid : ℕ} {root : Option Node} {appId : Bytes}
    (h : releasesDirectory euid root appId = some releases) :
    ∃ node, root = some node ∧ node.trusted euid = true ∧
      node.directoryAt euid 0o700 (releasesPath appId) = some releases := by
  obtain ⟨node, hroot, hnode⟩ := Option.bind_eq_some_iff.mp h
  exact ⟨node, hroot, Option.ite_none_right_eq_some.mp hnode⟩

def absolute (storeRoot : Bytes) : Bool := storeRoot.head? = some (chr '/')

variable {storeRoot : Bytes} {root : Option Node}

lemma stage_checked (h : Extractable bytes verification) (hstore : absolute storeRoot = true)
    (hbytes : bytes ≠ []) :
    stageVerifiedRelease context storeRoot root bytes verification digest =
      match root with
      | none => (none, stagingResult .rootUntrusted "STORAGE_ROOT_UNTRUSTED")
      | some node =>
        if !node.trusted context.euid then
          (some node, stagingResult .rootUntrusted "STORAGE_ROOT_UNTRUSTED")
        else
          let (node, result) := Node.inside context.euid 0o700
            (stagingResult .pathRejected "STORAGE_DIRECTORY_REJECTED")
            (commitRelease context (releaseText storeRoot verification) bytes verification digest)
            node (releasesPath verification.manifest.appId)
          (some node, result) := by
  obtain ⟨hok, hdevelopment, hsigned⟩ := h.authenticated
  have hhead : storeRoot.head? = some (chr '/') := by simpa [absolute] using hstore
  have hstore : storeRoot ≠ [] := by
    rintro rfl
    cases hhead
  have hpayload : ¬ verification.payloadStart > bytes.length := not_lt.mpr h.payload
  rw [stageVerifiedRelease, if_neg (by simp [hstore, hbytes, h.appId, h.counter]),
    if_neg (by simp [hok, hdevelopment, hsigned]), if_neg hpayload, if_neg (by simp [hhead])]

lemma lookup_singleton (node : Node) (name : Bytes) : node.lookup [name] = node.child name := by
  rw [Node.lookup]
  cases node.child name <;> rfl

lemma committedRelease_some (node : Node) (appId : Bytes) (counter : UInt64) :
    committedRelease (some node) appId counter =
      node.lookup (releasesPath appId ++ [decimal counter.toNat]) := rfl

lemma releasesPath_apart {appId other : Bytes} (hne : other ≠ appId) (rest : Path) :
    Node.Apart (releasesPath appId) (releasesPath other ++ rest) :=
  Node.apart_cons.mpr (Node.apart_of_ne hne)

variable {euid : ℕ} {α : Type} {failed : α} {action : Node → Node × α} {node : Node} {appId : Bytes}

lemma inside_committed (ht : node.trusted euid = true) (counter : UInt64)
    (h : node.directoryAt euid 0o700 (releasesPath appId) = some releases) :
    committedRelease (some (Node.inside euid 0o700 failed action node (releasesPath appId)).1)
      appId counter = (action releases).1.child (decimal counter.toNat) := by
  rw [committedRelease_some, Node.inside_lookup (by decide) ht h, lookup_singleton]

lemma inside_keeps_committed (ht : node.trusted euid = true)
    (hkeeps : ∀ releases, node.directoryAt euid 0o700 (releasesPath appId) = some releases →
      ∀ n, (action releases).1.child (decimal n) = releases.child (decimal n))
    (other : Bytes) (counter : UInt64) :
    committedRelease (some (Node.inside euid 0o700 failed action node (releasesPath appId)).1)
      other counter = committedRelease (some node) other counter := by
  rw [committedRelease_some]
  by_cases hne : other = appId
  · subst hne
    cases hd : node.directoryAt euid 0o700 (releasesPath other) with
    | none => rw [Node.inside_lookup_none (by decide) ht hd (List.cons_ne_nil _ _), committedRelease_some]
    | some releases =>
      rw [Node.inside_lookup (by decide) ht hd, lookup_singleton, hkeeps releases hd,
        committedRelease_some, Node.directoryAt_lookup hd (List.cons_ne_nil _ _), lookup_singleton]
  · rw [Node.inside_lookup_apart (by decide) ht (releasesPath_apart hne _), committedRelease_some]

lemma stage_room (h : Extractable bytes verification) (hstore : absolute storeRoot = true)
    (hbytes : bytes ≠ []) (hroom : HasRoom context root verification.manifest) :
    (stageVerifiedRelease context storeRoot root bytes verification digest).2.status = .committed ∧
      committedRelease root verification.manifest.appId verification.manifest.releaseCounter = none ∧
      committedRelease (stageVerifiedRelease context storeRoot root bytes verification digest).1
          verification.manifest.appId verification.manifest.releaseCounter =
        some (extracted context.euid bytes verification digest) := by
  obtain ⟨releases, hdirectory, hfree⟩ := hroom
  obtain ⟨node, rfl, ht, hd⟩ := releasesDirectory_some hdirectory
  have htrusted := Node.directoryAt_trusted (by decide) ht hd
  rw [stage_checked h hstore hbytes]
  simp only [ht, Bool.not_true, Bool.false_eq_true, if_false]
  refine ⟨?_, ?_, ?_⟩
  · rw [Node.inside_some (by decide) ht hd, commitRelease_free h hfree]
    rfl
  · rw [committedRelease_some, Node.directoryAt_lookup hd (List.cons_ne_nil _ _), lookup_singleton]
    exact hfree.vacant
  · rw [inside_committed ht _ hd, commitRelease_free h hfree]
    exact Node.child_put_self (Node.isDirectory_of_trusted htrusted)

lemma stage_no_room (h : Extractable bytes verification) (hstore : absolute storeRoot = true)
    (hbytes : bytes ≠ []) (hroom : ¬ HasRoom context root verification.manifest) :
    (∀ appId counter,
        committedRelease (stageVerifiedRelease context storeRoot root bytes verification digest).1
          appId counter = committedRelease root appId counter) ∧
      (stageVerifiedRelease context storeRoot root bytes verification digest).2.status ≠ .committed ∧
      ((stageVerifiedRelease context storeRoot root bytes verification digest).2.status =
          .alreadyPresent ↔ Holds context.euid root bytes verification.manifest digest) := by
  rw [stage_checked h hstore hbytes]
  cases root with
  | none => exact ⟨fun _ _ => rfl, by simp [stagingResult], by simp [stagingResult, Holds, releasesDirectory]⟩
  | some node =>
    by_cases ht : node.trusted context.euid = true
    · simp only [ht, Bool.not_true, Bool.false_eq_true, if_false]
      cases hd : node.directoryAt context.euid 0o700 (releasesPath verification.manifest.appId) with
      | none =>
        refine ⟨inside_keeps_committed ht fun releases hr => ?_, ?_, ?_⟩
        · rw [hd] at hr
          cases hr
        · simp [Node.inside_none (by decide) ht hd, stagingResult]
        · simp [Node.inside_none (by decide) ht hd, stagingResult, Holds, releasesDirectory, ht, hd]
      | some releases =>
        have hdirectory : releasesDirectory context.euid (some node) verification.manifest.appId =
            some releases := by simp [releasesDirectory, ht, hd]
        have hfree : ¬ ReleaseFree context releases verification.manifest :=
          fun hfree => hroom ⟨releases, hdirectory, hfree⟩
        have hwithheld : Withheld context releases bytes verification.manifest digest
            (commitRelease context (releaseText storeRoot verification) bytes verification digest
              releases) := commitRelease_not_free h hfree
        refine ⟨inside_keeps_committed ht fun others hr => ?_, ?_, ?_⟩
        · rw [hd] at hr
          obtain rfl := Option.some.inj hr
          exact hwithheld.kept
        · rw [Node.inside_some (by decide) ht hd]
          exact hwithheld.status
        · rw [Node.inside_some (by decide) ht hd, hwithheld.present]
          simp [Holds, hdirectory]
    · simp only [ht, Bool.not_false, if_true]
      exact ⟨fun _ _ => trivial, by simp [stagingResult],
        by simp [stagingResult, Holds, releasesDirectory, ht]⟩

/-- Staging succeeds for a package the store has room for, or holds already. -/
lemma stage_ok_iff (h : Extractable bytes verification) (hstore : absolute storeRoot = true)
    (hbytes : bytes ≠ []) :
    (stageVerifiedRelease context storeRoot root bytes verification digest).2.ok = true ↔
      HasRoom context root verification.manifest ∨
        Holds context.euid root bytes verification.manifest digest := by
  by_cases hroom : HasRoom context root verification.manifest
  · have hcommitted : (stageVerifiedRelease context storeRoot root bytes verification digest).2.status =
        .committed := (stage_room h hstore hbytes hroom).1
    simp [StorageResult.ok, hcommitted, hroom]
  · have hwithheld : (stageVerifiedRelease context storeRoot root bytes verification digest).2.status ≠
          .committed ∧
        ((stageVerifiedRelease context storeRoot root bytes verification digest).2.status =
          .alreadyPresent ↔ Holds context.euid root bytes verification.manifest digest) :=
      (stage_no_room h hstore hbytes hroom).2
    simp [StorageResult.ok, hwithheld.1, hwithheld.2, hroom]

lemma stage_takes (h : Extractable bytes verification) (hstore : absolute storeRoot = true)
    (hbytes : bytes ≠ []) (hrandom : ∃ random, context.random = some random ∧
      ∀ releases ∈ releasesDirectory context.euid root verification.manifest.appId,
        releases.child (stageName verification.manifest.releaseCounter random) = none) :
    (stageVerifiedRelease context storeRoot root bytes verification digest).2.ok = true ↔
      Takes context.euid root bytes verification.manifest digest := by
  obtain ⟨random, hdrawn, hfresh⟩ := hrandom
  rw [stage_ok_iff h hstore hbytes]
  constructor
  · rintro (⟨releases, hdirectory, hfree⟩ | ⟨releases, hdirectory, hpresent⟩)
    · exact ⟨releases, hdirectory, Or.inl ⟨hfree.vacant, hfree.apart⟩⟩
    · exact ⟨releases, hdirectory, Or.inr hpresent⟩
  · rintro ⟨releases, hdirectory, ⟨hvacant, hapart⟩ | hpresent⟩
    · exact Or.inl ⟨releases, hdirectory, hvacant, ⟨random, hdrawn, hfresh releases hdirectory⟩, hapart⟩
    · exact Or.inr ⟨releases, hdirectory, hpresent⟩

lemma extracted_trusted (euid : ℕ) (bytes : Bytes) (verification : PackageVerification)
    (digest : Sha512Digest) : (extracted euid bytes verification digest).trusted euid = true :=
  Node.createFiles_trusted (by decide) (Node.trusted_directory (by decide) [])

lemma openTrusted_singleton {parent child : Node} (ht : parent.trusted euid = true) {name : Bytes}
    (hc : parent.child name = some child) (hchild : child.trusted euid = true) :
    parent.openTrusted euid [name] = some child :=
  Node.openTrusted_cons_iff.mpr ⟨ht, child, hc, if_pos hchild⟩

/-- The release a successful staging leaves: the one that lay there before, or a new one. -/
inductive Staged (euid : ℕ) (bytes : Bytes) (verification : PackageVerification)
    (digest : Sha512Digest) : Option Node → Node → Prop
  | present (release : Node) : releasePackageMatches euid release bytes digest = true →
      Staged euid bytes verification digest (some release) release
  | extracted : (stagedPaths verification.manifest).Pairwise Node.Apart →
      Staged euid bytes verification digest none (LvglPlatform.extracted euid bytes verification digest)

lemma commitRelease_staged (h : Extractable bytes verification) (ht : releases.trusted context.euid = true)
    (hready : ReleaseFree context releases verification.manifest ∨
      ReleasePresent context.euid releases bytes verification.manifest digest) :
    ∃ release, Staged context.euid bytes verification digest
        (releases.child (decimal verification.manifest.releaseCounter.toNat)) release ∧
      (commitRelease context releasePath bytes verification digest releases).1.openTrusted context.euid
        [decimal verification.manifest.releaseCounter.toNat] = some release := by
  rcases hready with hfree | ⟨existing, hexisting, hmatches⟩
  · refine ⟨extracted context.euid bytes verification digest, ?_, ?_⟩
    · rw [hfree.vacant]
      exact .extracted hfree.apart
    · rw [commitRelease_free h hfree]
      exact openTrusted_singleton (Node.trusted_put.trans ht)
        (Node.child_put_self (Node.isDirectory_of_trusted ht)) (extracted_trusted _ _ _ _)
  · have htrusted : existing.trusted context.euid = true := by
      simp only [releasePackageMatches, Bool.and_eq_true] at hmatches
      exact hmatches.1.1
    have hopen : releases.openDirectory (decimal verification.manifest.releaseCounter.toNat) =
        .directory existing := by simp [Node.openDirectory, hexisting, Node.isDirectory_of_trusted htrusted]
    refine ⟨existing, hexisting ▸ .present existing hmatches, ?_⟩
    simp only [commitRelease, hopen, hmatches, if_true]
    exact openTrusted_singleton ht hexisting htrusted

lemma stage_leaves (h : Extractable bytes verification) (hstore : absolute storeRoot = true)
    (hbytes : bytes ≠ [])
    (hok : (stageVerifiedRelease context storeRoot root bytes verification digest).2.ok = true) :
    ∃ before after release, root = some before ∧ before.trusted context.euid = true ∧
      (stageVerifiedRelease context storeRoot root bytes verification digest).1 = some after ∧
      after.trusted context.euid = true ∧
      after.openTrusted context.euid (releasesPath verification.manifest.appId ++
        [decimal verification.manifest.releaseCounter.toNat]) = some release ∧
      Staged context.euid bytes verification digest
        (committedRelease root verification.manifest.appId verification.manifest.releaseCounter)
        release := by
  have hready : ∃ releases, releasesDirectory context.euid root verification.manifest.appId =
      some releases ∧ (ReleaseFree context releases verification.manifest ∨
        ReleasePresent context.euid releases bytes verification.manifest digest) := by
    rcases (stage_ok_iff h hstore hbytes).mp hok with ⟨releases, hr, hfree⟩ | ⟨releases, hr, hpresent⟩
    · exact ⟨releases, hr, Or.inl hfree⟩
    · exact ⟨releases, hr, Or.inr hpresent⟩
  obtain ⟨releases, hdirectory, hready⟩ := hready
  obtain ⟨before, rfl, ht, hd⟩ := releasesDirectory_some hdirectory
  have haction : ∀ target : Node, target.trusted context.euid = true →
      (commitRelease context (releaseText storeRoot verification) bytes verification digest
        target).1.trusted context.euid = true := fun _ => commitRelease_trusted
  have htrusted := Node.directoryAt_trusted (by decide) ht hd
  obtain ⟨release, hstaged, hopened⟩ := commitRelease_staged h htrusted hready
  refine ⟨before, (Node.inside context.euid 0o700
    (stagingResult .pathRejected "STORAGE_DIRECTORY_REJECTED")
    (commitRelease context (releaseText storeRoot verification) bytes verification digest) before
    (releasesPath verification.manifest.appId)).1, release, rfl, ht, ?_, ?_, ?_, ?_⟩
  · rw [stage_checked h hstore hbytes]
    simp only [ht, Bool.not_true, Bool.false_eq_true, if_false]
  · exact Node.inside_trusted (by decide) ht haction
  · rw [Node.openTrusted_append, Node.openTrusted_inside (by decide) ht haction hd]
    exact hopened
  · rw [committedRelease_some, Node.directoryAt_lookup hd (List.cons_ne_nil _ _), lookup_singleton]
    exact hstaged

end

end LvglPlatform

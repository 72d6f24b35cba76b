import LvglPlatform.Package.FileLayout
import LvglPlatform.Services.PackageInstaller

/-! Which accepted packages can be extracted: a path of the manifest may be a directory of another one,
or take the name of the metadata of the release. -/

namespace LvglPlatform

open Foundation

section

variable {α : Type} {c : α} {a b : List α}

lemma intercalate_append {parts : List (List α)} (hparts : parts ≠ []) (rest : List (List α))
    (hrest : rest ≠ []) :
    [c].intercalate (parts ++ rest) = [c].intercalate parts ++ c :: [c].intercalate rest := by
  induction parts with
  | nil => exact absurd rfl hparts
  | cons part parts ih =>
    by_cases hnil : parts = []
    · subst hnil
      rw [List.singleton_append, List.intercalate_cons_of_ne_nil hrest, List.intercalate_singleton]
      simp
    · have hne : parts ++ rest ≠ [] := List.append_ne_nil_of_left_ne_nil hnil rest
      rw [List.cons_append, List.intercalate_cons_of_ne_nil hne, ih hnil,
        List.intercalate_cons_of_ne_nil hnil]
      simp

lemma splitOn_prefix_iff [BEq α] [LawfulBEq α] :
    a.splitOn c <+: b.splitOn c ↔ a = b ∨ a ++ [c] <+: b := by
  constructor
  · rintro ⟨rest, h⟩
    have hb : [c].intercalate (a.splitOn c ++ rest) = b := by rw [h, List.intercalate_splitOn]
    by_cases hrest : rest = []
    · left
      rw [← hb, hrest, List.append_nil, List.intercalate_splitOn]
    · right
      rw [intercalate_append (List.splitOn_ne_nil c a) rest hrest, List.intercalate_splitOn] at hb
      exact ⟨[c].intercalate rest, by simpa using hb⟩
  · rintro (rfl | ⟨rest, rfl⟩)
    · exact List.prefix_rfl
    · rw [List.append_assoc, List.singleton_append, List.splitOn_append_cons_self]
      exact List.prefix_append _ _

end

def Below (path other : Bytes) : Prop := path ++ [chr '/'] <+: other

instance (path other : Bytes) : Decidable (Below path other) :=
  inferInstanceAs (Decidable (_ <+: _))

/-- No file stands in the way of another one, or of the metadata of the release. -/
structure Separate (files : List VerifiedPackageFile) : Prop where
  nested : ∀ file ∈ files, ∀ other ∈ files, ¬ Below file.path other.path
  metadata : ∀ file ∈ files, ∀ name ∈ [packageCopyName, packageMarkerName],
    file.path ≠ name ∧ ¬ Below name file.path

section

variable {path other name : Bytes} {files : List VerifiedPackageFile}

lemma apart_iff (hpath : validPath path = true) (hother : validPath other = true) :
    Node.Apart (splitPath path) (splitPath other) ↔
      path ≠ other ∧ ¬ Below path other ∧ ¬ Below other path := by
  rw [Node.Apart, (splitPath_valid hpath).1, (splitPath_valid hother).1, splitOn_prefix_iff,
    splitOn_prefix_iff, not_or, not_or]
  constructor
  · rintro ⟨⟨hne, hbelow⟩, -, hother⟩
    exact ⟨hne, hbelow, hother⟩
  · rintro ⟨hne, hbelow, hother⟩
    exact ⟨⟨hne, hbelow⟩, hne.symm, hother⟩

lemma not_below_self (path : Bytes) : ¬ Below path path := by
  intro h
  have hlength := h.length_le
  rw [List.length_append, List.length_singleton] at hlength
  omega

lemma metadata_valid (h : name ∈ [packageCopyName, packageMarkerName]) :
    validPath name = true ∧ splitPath name = [name] ∧ chr '/' ∉ name := by
  simp only [List.mem_cons, List.not_mem_nil, or_false] at h
  obtain rfl | rfl := h
  · decide
  · decide

lemma apart_metadata_iff (hpath : validPath path = true)
    (hname : name ∈ [packageCopyName, packageMarkerName]) :
    Node.Apart (splitPath path) [name] ↔ path ≠ name ∧ ¬ Below name path := by
  obtain ⟨hvalid, hsplit, hslash⟩ := metadata_valid hname
  have hbelow : ¬ Below path name := by
    rintro ⟨rest, rfl⟩
    simp at hslash
  rw [← hsplit, apart_iff hpath hvalid]
  exact and_congr_right fun _ => and_iff_right hbelow

lemma files_apart_iff (hpaths : ∀ file ∈ files, validPath file.path = true)
    (hsorted : Ascending (files.map VerifiedPackageFile.path)) :
    (files.map fun file => splitPath file.path).Pairwise Node.Apart ↔
      ∀ file ∈ files, ∀ other ∈ files, ¬ Below file.path other.path := by
  rw [List.pairwise_map]
  have hdistinct := List.pairwise_map.mp hsorted
  constructor
  · intro hapart file hfile other hother
    have hboth : files.Pairwise fun file other =>
        ¬ Below file.path other.path ∧ ¬ Below other.path file.path := by
      refine hapart.imp_of_mem ?_
      intro file other hfile hother h
      exact ((apart_iff (hpaths file hfile) (hpaths other hother)).mp h).2
    have hall := List.Pairwise.forall_of_forall_of_flip
      (R := fun file other : VerifiedPackageFile => ¬ Below file.path other.path)
      (fun file _ => not_below_self file.path) (hboth.imp And.left) (hboth.imp And.right)
    exact hall hfile hother
  · intro hnested
    refine hdistinct.imp_of_mem ?_
    intro file other hfile hother hlt
    refine (apart_iff (hpaths file hfile) (hpaths other hother)).mpr
      ⟨?_, hnested file hfile other hother, hnested other hother file hfile⟩
    intro he
    rw [he] at hlt
    exact List.lt_irrefl _ hlt

lemma stagedPaths_apart_iff {manifest : VerifiedPackageManifest}
    (hpaths : ∀ file ∈ manifest.files, validPath file.path = true)
    (hsorted : Ascending (manifest.files.map VerifiedPackageFile.path)) :
    (stagedPaths manifest).Pairwise Node.Apart ↔ Separate manifest.files := by
  have hnames : ([[packageCopyName], [packageMarkerName]] : List Path).Pairwise Node.Apart := by decide
  rw [stagedPaths, List.pairwise_append, files_apart_iff hpaths hsorted]
  constructor
  · rintro ⟨hnested, -, hmetadata⟩
    refine ⟨hnested, fun file hfile name hname => ?_⟩
    refine (apart_metadata_iff (hpaths file hfile) hname).mp (hmetadata _ ?_ _ ?_)
    · exact List.mem_map_of_mem (f := fun file => splitPath file.path) hfile
    · exact List.mem_map_of_mem (f := fun name => [name]) hname
  · rintro ⟨hnested, hmetadata⟩
    refine ⟨hnested, hnames, ?_⟩
    intro path hpath metadata hname
    obtain ⟨file, hfile, rfl⟩ := List.mem_map.mp hpath
    have hmapped : metadata ∈ [packageCopyName, packageMarkerName].map fun name => [name] := hname
    obtain ⟨name, hlisted, rfl⟩ := List.mem_map.mp hmapped
    exact (apart_metadata_iff (hpaths file hfile) hlisted).mpr (hmetadata file hfile name hlisted)

end

lemma Accepts.production {bytes : Bytes} {crypto : CryptoProvider}
    {trustedKeys : List TrustedPublicKey} {allowDevelopment : Bool} {result : PackageVerification}
    (h : Accepts bytes crypto trustedKeys allowDevelopment result)
    (hsigned : result.signatureVerified = true) :
    Accepts bytes crypto trustedKeys false result := by
  obtain ⟨package, hbytes, hsound, -, rfl⟩ := accepts_iff.mp h
  refine accepts_iff.mpr ⟨package, hbytes, hsound, ?_, rfl⟩
  intro hdevelopment
  simp [Package.verification, hdevelopment] at hsigned

/-- The payload store can be entered down to the releases of the application, the release is not there,
and the name drawn for its stage is free. -/
structure StoreReady (context : StagingContext) (root : Option Node)
    (manifest : VerifiedPackageManifest) (releases : Node) : Prop where
  entered : releasesDirectory context.euid root manifest.appId = some releases
  vacant : releases.child (decimal manifest.releaseCounter.toNat) = none
  random : ∃ random, context.random = some random ∧
    releases.child (stageName manifest.releaseCounter random) = none

lemma StoreReady.room_iff {context : StagingContext} {root : Option Node}
    {manifest : VerifiedPackageManifest} {releases : Node}
    (h : StoreReady context root manifest releases) :
    HasRoom context root manifest ↔ (stagedPaths manifest).Pairwise Node.Apart := by
  constructor
  · rintro ⟨_, -, hfree⟩
    exact hfree.apart
  · exact fun hapart => ⟨releases, h.entered, h.vacant, h.random, hapart⟩

/-- An accepted package is staged exactly when its files can lie beside one another. -/
theorem accepted_package_staged_iff (bytes : Bytes) (crypto : CryptoProvider)
    (trustedKeys : List TrustedPublicKey) (allowDevelopment : Bool) (result : PackageVerification)
    (context : StagingContext) (storeRoot : Bytes) (root : Option Node) (releases : Node)
    (digest : Sha512Digest) (h : Accepts bytes crypto trustedKeys allowDevelopment result)
    (hsigned : result.signatureVerified = true) (hstore : absolute storeRoot = true)
    (hready : StoreReady context root result.manifest releases) :
    (stageVerifiedRelease context storeRoot root bytes result digest).2.status = .committed ↔
      Separate result.manifest.files := by
  have hofficial := official_of_accepts (h.production hsigned)
  have hlaid := accepts_laidOut h
  rw [← stagedPaths_apart_iff hlaid.paths hlaid.ascending, ← hready.room_iff]
  constructor
  · intro hcommitted
    by_contra hroom
    exact (stage_no_room hofficial.extractable hstore hofficial.nonempty hroom).2.1 hcommitted
  · intro hroom
    exact (stage_room hofficial.extractable hstore hofficial.nonempty hroom).1

def stageContext : StagingContext := ⟨0, some (List.Vector.replicate 16 1)⟩

lemma emptyStore_ready (manifest : VerifiedPackageManifest) (releases : Node)
    (hentered : releasesDirectory 0 (some (privateDirectory [])) manifest.appId = some releases)
    (hempty : releases.entries = []) :
    StoreReady stageContext (some (privateDirectory [])) manifest releases := by
  have hvacant : ∀ name, releases.child name = none := by
    intro name
    cases releases with
    | directory stat entries =>
      obtain rfl : entries = [] := hempty
      rfl
    | _ => rfl
  exact ⟨hentered, hvacant _, _, rfl, hvacant _⟩

theorem sample_package_staged :
    (stageVerifiedRelease stageContext (text "/store") (some (privateDirectory []))
      samplePackage.bytes samplePackage.verification (zeroes 64)).2.status = .committed := by
  have hready : StoreReady stageContext (some (privateDirectory []))
      samplePackage.verification.manifest (.directory { mode := 0o700 } []) :=
    emptyStore_ready _ _ rfl rfl
  refine (accepted_package_staged_iff samplePackage.bytes sampleCrypto [sampleKey] false
    samplePackage.verification stageContext (text "/store") (some (privateDirectory [])) _ (zeroes 64)
    samplePackage_accepted rfl rfl hready).mpr ⟨?_, ?_⟩
  · decide
  · decide

def nestedUnsignedDigest : Sha512Digest := bigEndian 64
  0x7bf5c03065fbc0328997f87f87b1d53ea701623bb2379f218c9358aceb7fa15e48473299e8a4c84042cc2d0310038e8fb8debad650cc8b2a42632b4889724b34

def nestedSignature : Ed25519Signature := bigEndian 64
  0x0d68efb795ca1a1970956c06960b6dde4e217ec65821f94c62db769ac5cfeacd2bdfa40c20dd1f24b9e8b8e712b9e7a124140d8b302da4d095981ef03359e604

def nestedDigest : Sha512Digest := bigEndian 64
  0x1a48206521d3b501d80481cd9d0def12447016a73e5dad43eef201b902b595def0ec56d258e5e3077339e8619709ba68d86d88a14c161e057e2c1dd7dca2866f

def nestedPackage : Package where
  development := false
  manifest := { sampleManifest with
    signingKeyId := hexText (officialKeyHash.toList.take 16)
    files := [sampleFile,
      { sampleFile with path := text "demo/notes", role := text "asset", mode := 0o644 }] }
  contents := [text "hi", text "hi"]
  envelope := SignatureEnvelope.bytes ⟨officialKeyHash.toList.take 16, nestedSignature⟩

def nestedCrypto : CryptoProvider where
  sha256 bytes := some <|
    if bytes = text "hi" then sampleFile.sha256
    else if bytes = ed25519SpkiPrefix ++ officialKey.toList then officialKeyHash
    else zeroes 32
  sha512 bytes := some <|
    if bytes = nestedPackage.unsigned then nestedUnsignedDigest
    else if bytes = nestedPackage.bytes then nestedDigest
    else zeroes 64
  verifyEd25519 key message signature :=
    key = officialKey && message = signatureDomain ++ nestedUnsignedDigest.toList &&
      signature = nestedSignature

lemma nestedPackage_accepted : Accepts nestedPackage.bytes nestedCrypto [⟨officialKey, true⟩] false
    nestedPackage.verification := by
  have hdone : verifyPackage nestedPackage.bytes nestedCrypto [⟨officialKey, true⟩] false =
      .done nestedPackage.verification := by decide +kernel
  exact ⟨Checked.answer_eq_some.mpr (Or.inr hdone), rfl⟩

theorem nested_package_not_staged :
    ¬ ∀ (bytes : Bytes) (crypto : CryptoProvider) (trustedKeys : List TrustedPublicKey)
        (result : PackageVerification) (context : StagingContext) (storeRoot : Bytes)
        (root : Option Node) (releases : Node) (digest : Sha512Digest),
      Accepts bytes crypto trustedKeys false result → absolute storeRoot = true →
        StoreReady context root result.manifest releases →
        (stageVerifiedRelease context storeRoot root bytes result digest).2.status = .committed := by
  intro h
  have hready : StoreReady stageContext (some (privateDirectory []))
      nestedPackage.verification.manifest (.directory { mode := 0o700 } []) :=
    emptyStore_ready _ _ rfl rfl
  have hcommitted := h nestedPackage.bytes nestedCrypto [⟨officialKey, true⟩]
    nestedPackage.verification stageContext (text "/store") (some (privateDirectory [])) _ nestedDigest
    nestedPackage_accepted rfl hready
  have hstatus : (stageVerifiedRelease stageContext (text "/store") (some (privateDirectory []))
      nestedPackage.bytes nestedPackage.verification nestedDigest).2.status = .ioError := by
    decide +kernel
  rw [hstatus] at hcommitted
  cases hcommitted

end LvglPlatform

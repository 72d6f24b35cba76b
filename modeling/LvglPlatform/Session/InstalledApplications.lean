import LvglPlatform.Services.InboxInstall

/-! What the session measures before it launches an installed application, against what the installer
leaves behind. -/

namespace LvglPlatform

open Foundation

structure CertifiedSessionProfile where
  profileId : Bytes
  machine : Bytes

structure VerifiedApplication where
  release : Node
  verification : PackageVerification
  package : Bytes

/-- The session splits paths its own way: no component may be empty, `.` or `..`. -/
def Session.splitPath (path : Bytes) : Path :=
  let relative := if path.head? = some (chr '/') then path.tail else path
  let components := relative.splitOn (chr '/')
  let components := if components.getLast? = some [] then components.dropLast else components
  if components.any fun part => part = [] || part = text "." || part = text ".." then []
  else components

def openAbsoluteDirectory (root : Node) (path : Bytes) : Option Node :=
  if path.head? ≠ some (chr '/') then none
  else match Session.splitPath path with
    | [] => some root
    | components => root.openTrusted 0 components

def openReleaseFile (release : Node) (path : Bytes) : Option Node :=
  release.openFile 0 (Session.splitPath path)

def trustedRegular (file : Option Node) (mode size : ℕ) : Option Bytes :=
  match file with
  | some (.file stat content) =>
    if stat.uid = 0 ∧ stat.links = 1 ∧ content.length = size ∧ stat.mode &&& 0o777 = mode then
      some content
    else none
  | _ => none

def readAll (file : Option Node) (maximum : ℕ) : Option Bytes :=
  match file with
  | some (.file stat content) =>
    if stat.uid = 0 ∧ stat.links = 1 ∧ stat.mode &&& 0o222 = 0 ∧ 0 < content.length ∧
        content.length ≤ maximum then some content
    else none
  | _ => none

def installedFileMatches (release : Node) (package : Bytes) (payloadStart : ℕ)
    (file : VerifiedPackageFile) : Bool :=
  if file.payloadOffset > package.length - payloadStart ∨
      file.size > package.length - payloadStart - file.payloadOffset then false
  else trustedRegular (openReleaseFile release file.path) file.mode file.size =
    some (slice package (payloadStart + file.payloadOffset) file.size)

def installedFilesMatch (release : Node) (package : Bytes) (verification : PackageVerification) : Bool :=
  if verification.payloadStart > package.length then false
  else verification.manifest.files.all
    (installedFileMatches release package verification.payloadStart)

def applicationStore : Bytes := text "/userdisk/apps/lvgl-apps"

def applicationReleasePath (appId : Bytes) (counter : UInt64) : Bytes :=
  applicationStore ++ text "/apps/" ++ appId ++ text "/releases/" ++ decimal counter.toNat

/-- The policy of a launch: the install policy without a high-water mark. -/
def launchContext (profile : CertifiedSessionProfile) : InstallPolicyContext where
  platformVersion := text "1.0.0"
  sdkAbi := text "1.0"
  profileId := profile.profileId
  machine := profile.machine
  allowedCapabilities := [text "storage.private"]

structure ReleaseRecord where
  appId : Bytes
  counter : UInt64
  digest : Sha512Digest
  signingKeyId : Bytes

def measureRelease (env : Environment) (record : ReleaseRecord) (profile : CertifiedSessionProfile)
    (application : VerifiedApplication) : Bool :=
  let verification := application.verification
  if !verification.ok || verification.development || !verification.signatureVerified then false
  else match env.crypto.sha512 application.package with
    | none => false
    | some digest =>
      if digest ≠ record.digest ∨ verification.manifest.appId ≠ record.appId ∨
          verification.manifest.releaseCounter ≠ record.counter ∨
          verification.manifest.signingKeyId ≠ record.signingKeyId ∨
          !installedFilesMatch application.release application.package verification then false
      else (evaluateInstallPolicy verification digest (launchContext profile) none).allowed

/-- The outer `none` is a measurement whose behaviour is undefined. -/
def verifyApplicationRelease (env : Environment) (root : Node) (record : ReleaseRecord)
    (profile : CertifiedSessionProfile) : Option (Option VerifiedApplication) :=
  if !validSessionAppId record.appId || reservedApplicationId record.appId || record.counter = 0 ||
      record.signingKeyId.length ≠ 32 || env.trust.publicKey.isNone then some none
  else match openAbsoluteDirectory root (applicationReleasePath record.appId record.counter) with
    | none => some none
    | some release =>
      if !trustedDirectory release then some none
      else match readAll (openReleaseFile release packageCopyName) maximumInboxPackage with
        | none => some none
        | some package => ((env.trust.verify package env.crypto).answer).map fun verification =>
          let application := { release, verification, package }
          if measureRelease env record profile application then some application else none

def currentRecord (state : ApplicationReleaseState) (appId : Bytes) : ReleaseRecord where
  appId
  counter := state.currentRelease
  digest := state.currentDigest
  signingKeyId := state.signingKeyId

def storedReleaseOf (env : Environment) (root : Node) (appId : Bytes) : StateStoreResult :=
  loadReleaseStateFrom env.euid (root.lookup applicationPolicyRoot) appId env.crypto

def verifyInstalledApplication (env : Environment) (root : Node) (appId : Bytes)
    (profile : CertifiedSessionProfile) : Option (Option VerifiedApplication) :=
  if !validSessionAppId appId || reservedApplicationId appId then some none
  else
    let stored := storedReleaseOf env root appId
    if !stored.isLoaded || stored.selected.state.currentRelease = 0 then some none
    else verifyApplicationRelease env root (currentRecord stored.selected.state appId) profile

section

variable {env : Environment} {root : Node} {record : ReleaseRecord} {profile : CertifiedSessionProfile}
  {application : VerifiedApplication}

def plainComponent (part : Bytes) : Prop := part ≠ [] ∧ part ≠ text "." ∧ part ≠ text ".."

lemma session_splitPath {relative path : Bytes}
    (hpath : (if path.head? = some (chr '/') then path.tail else path) = relative)
    (hplain : ∀ part ∈ relative.splitOn (chr '/'), plainComponent part) :
    Session.splitPath path = relative.splitOn (chr '/') := by
  have hlast : (relative.splitOn (chr '/')).getLast? ≠ some [] :=
    fun h => (hplain [] (List.mem_of_getLast? h)).1 rfl
  have hany : (relative.splitOn (chr '/')).any (fun part => part = [] || part = text "." ||
      part = text "..") = false := by
    rw [List.any_eq_false]
    intro part hpart
    obtain ⟨hempty, hdot, hdots⟩ := hplain part hpart
    simp [hempty, hdot, hdots]
  simp only [Session.splitPath, hpath, if_neg hlast, hany, Bool.false_eq_true, if_false]

/-- The paths of a manifest are split the same way by the installer and the session. -/
lemma session_splitPath_valid {path : Bytes} (h : validPath path = true) :
    Session.splitPath path = splitPath path := by
  obtain ⟨hsplit, hsegments⟩ := splitPath_valid h
  have hhead : path.head? ≠ some (chr '/') := by
    unfold validPath at h
    split at h <;> rename_i hchecks
    · cases h
    · exact fun hhead => hchecks (Or.inr (Or.inr (Or.inl hhead)))
  rw [hsplit]
  apply session_splitPath (if_neg hhead)
  intro part hpart
  have hvalid := List.all_eq_true.mp hsegments part hpart
  simp only [validSegment, Bool.and_eq_true, decide_eq_true_eq] at hvalid
  exact ⟨hvalid.1.1.1.1, hvalid.1.1.1.2, hvalid.1.1.2⟩

lemma decimal_plain (n : ℕ) : plainComponent (decimal n) ∧ chr '/' ∉ decimal n := by
  have hne : decimal n ≠ [] := by simp [decimal]
  have hdot : chr '.' ∉ decimal n := fun h => (decimal_digits h).2 rfl
  refine ⟨⟨hne, ?_, ?_⟩, fun h => (decimal_digits h).1 rfl⟩
  · intro he
    exact hdot (he ▸ by decide)
  · intro he
    exact hdot (he ▸ by decide)

lemma sessionAppId_plain {appId : Bytes} (h : validSessionAppId appId = true) :
    plainComponent appId ∧ chr '/' ∉ appId := by
  unfold validSessionAppId identifier at h
  split at h <;> rename_i hchecks
  · cases h
  simp only [not_or] at hchecks
  obtain ⟨hempty, -, hhead, -⟩ := hchecks
  refine ⟨⟨hempty, ?_, ?_⟩, ?_⟩
  · rintro rfl
    exact hhead rfl
  · rintro rfl
    exact hhead rfl
  · intro hmem
    exact absurd (scanIdentifier_all h _ hmem) (by decide)

lemma open_applicationRelease {appId : Bytes} (h : validSessionAppId appId = true) (counter : UInt64) :
    openAbsoluteDirectory root (applicationReleasePath appId counter) =
      root.openTrusted 0 (applicationPayloadRoot ++ (releasesPath appId ++ [decimal counter.toNat])) := by
  obtain ⟨happ, happSlash⟩ := sessionAppId_plain h
  obtain ⟨hdecimal, hdecimalSlash⟩ := decimal_plain counter.toNat
  have hcomponents : ∀ part ∈ applicationPayloadRoot ++ (releasesPath appId ++ [decimal counter.toNat]),
      plainComponent part ∧ chr '/' ∉ part := by
    have hfixed : ∀ part ∈ applicationPayloadRoot ++ [text "apps", text "releases"],
        (part ≠ [] ∧ part ≠ text "." ∧ part ≠ text "..") ∧ chr '/' ∉ part := by decide
    intro part hpart
    simp only [releasesPath, List.mem_append, List.mem_cons, List.not_mem_nil, or_false] at hpart hfixed
    rcases hpart with hpart | (rfl | rfl | rfl) | rfl
    · exact hfixed part (Or.inl hpart)
    · exact hfixed _ (Or.inr (Or.inl rfl))
    · exact ⟨happ, happSlash⟩
    · exact hfixed _ (Or.inr (Or.inr rfl))
    · exact ⟨hdecimal, hdecimalSlash⟩
  have hpath : applicationReleasePath appId counter = chr '/' :: [chr '/'].intercalate
      (applicationPayloadRoot ++ (releasesPath appId ++ [decimal counter.toNat])) := by
    have hstore : applicationStore ++ text "/apps/" = chr '/' :: [chr '/'].intercalate
        (applicationPayloadRoot ++ [text "apps", []]) := by decide
    have hreleases : text "/releases/" = [chr '/'].intercalate [[], text "releases", []] := by decide
    rw [applicationReleasePath, hstore, hreleases]
    simp [applicationPayloadRoot, appsPath, releasesPath, List.intercalate_cons_cons]
  have hsplit : Session.splitPath (applicationReleasePath appId counter) =
      applicationPayloadRoot ++ (releasesPath appId ++ [decimal counter.toNat]) := by
    have hinverse : ([chr '/'].intercalate (applicationPayloadRoot ++ (releasesPath appId ++
        [decimal counter.toNat]))).splitOn (chr '/') =
        applicationPayloadRoot ++ (releasesPath appId ++ [decimal counter.toNat]) :=
      List.splitOn_intercalate _ (fun part hpart => (hcomponents part hpart).2) (by simp)
    rw [hpath]
    refine (session_splitPath (if_pos rfl) ?_).trans hinverse
    rw [hinverse]
    exact fun part hpart => (hcomponents part hpart).1
  have hhead : (applicationReleasePath appId counter).head? = some (chr '/') := by rw [hpath]; rfl
  rw [openAbsoluteDirectory, if_neg (by simp [hhead]), hsplit]
  rfl

structure Measured (env : Environment) (root : Node) (record : ReleaseRecord)
    (profile : CertifiedSessionProfile) (application : VerifiedApplication) : Prop where
  named : validSessionAppId record.appId = true
  available : reservedApplicationId record.appId = false
  counter : record.counter ≠ 0
  signer : record.signingKeyId.length = 32
  opened : openAbsoluteDirectory root (applicationReleasePath record.appId record.counter) =
    some application.release
  trusted : trustedDirectory application.release = true
  package : readAll (openReleaseFile application.release packageCopyName) maximumInboxPackage =
    some application.package
  verified : (env.trust.verify application.package env.crypto).answer = some application.verification
  measured : measureRelease env record profile application = true

lemma measureRelease_iff :
    measureRelease env record profile application = true ↔
      (application.verification.ok = true ∧ application.verification.development = false ∧
        application.verification.signatureVerified = true) ∧
      env.crypto.sha512 application.package = some record.digest ∧
      application.verification.manifest.appId = record.appId ∧
      application.verification.manifest.releaseCounter = record.counter ∧
      application.verification.manifest.signingKeyId = record.signingKeyId ∧
      installedFilesMatch application.release application.package application.verification = true ∧
      (evaluateInstallPolicy application.verification record.digest (launchContext profile)
        none).allowed = true := by
  unfold measureRelease
  dsimp only
  by_cases hauthenticated : (!application.verification.ok || application.verification.development ||
      !application.verification.signatureVerified) = true
  · rw [if_pos hauthenticated]
    refine iff_of_false (by simp) ?_
    rintro ⟨⟨hok, hdevelopment, hsigned⟩, -⟩
    simp [hok, hdevelopment, hsigned] at hauthenticated
  · rw [if_neg hauthenticated]
    simp only [Bool.or_eq_true, Bool.not_eq_true', not_or, Bool.not_eq_false,
      Bool.not_eq_true] at hauthenticated
    cases hdigest : env.crypto.sha512 application.package with
    | none => simp
    | some digest =>
      by_cases he : digest = record.digest
      · subst he
        dsimp only
        split <;> rename_i hrejected
        · refine iff_of_false (by simp) ?_
          rintro ⟨-, -, happ, hcounter, hsigner, hfiles, -⟩
          simp [happ, hcounter, hsigner, hfiles] at hrejected
        · simp only [not_or, not_not, Bool.not_eq_true', Bool.not_eq_false, ne_eq] at hrejected
          obtain ⟨-, happ, hcounter, hsigner, hfiles⟩ := hrejected
          simp [hauthenticated, happ, hcounter, hsigner, hfiles]
      · simp [he]

lemma verifyApplicationRelease_iff :
    verifyApplicationRelease env root record profile = some (some application) ↔
      Measured env root record profile application := by
  constructor
  · intro h
    unfold verifyApplicationRelease at h
    split at h <;> rename_i hchecks
    · cases Option.some.inj h
    simp only [Bool.or_eq_true, Bool.not_eq_true', decide_eq_true_eq, not_or, Bool.not_eq_false,
      Bool.not_eq_true, not_not, ne_eq] at hchecks
    obtain ⟨⟨⟨⟨hnamed, havailable⟩, hcounter⟩, hsigner⟩, -⟩ := hchecks
    split at h
    · cases Option.some.inj h
    rename_i release hopened
    split at h <;> rename_i htrusted
    · cases Option.some.inj h
    split at h
    · cases Option.some.inj h
    rename_i package hpackage
    obtain ⟨verification, hverified, he⟩ := Option.map_eq_some_iff.mp h
    dsimp only at he
    obtain ⟨hmeasured, happlication⟩ := Option.ite_none_right_eq_some.mp he
    obtain rfl := Option.some.inj happlication
    exact ⟨hnamed, havailable, hcounter, hsigner, hopened, by simpa using htrusted, hpackage, hverified,
      hmeasured⟩
  · rintro ⟨hnamed, havailable, hcounter, hsigner, hopened, htrusted, hpackage, hverified, hmeasured⟩
    have hkey : env.trust.publicKey.isNone = false := by
      obtain ⟨⟨hok, -⟩, -⟩ := measureRelease_iff.mp hmeasured
      obtain ⟨key, hkey, -⟩ := trust_verified hverified hok
      simp [hkey]
    rw [verifyApplicationRelease, if_neg (by simp [hnamed, havailable, hcounter, hsigner, hkey])]
    simp only [hopened, htrusted, hpackage, hverified, Bool.not_true, Bool.false_eq_true, if_false,
      Option.map_some, hmeasured, if_true]

end

/-- A release directory that the session measures as the package. -/
structure Remeasures (release : Node) (bytes : Bytes) (verification : PackageVerification) : Prop where
  package : readAll (openReleaseFile release packageCopyName) maximumInboxPackage = some bytes
  files : installedFilesMatch release bytes verification = true

section

variable {env : Environment} {randoms : InstallRandoms} {root release : Node} {bytes : Bytes}
  {profile : CertifiedSessionProfile} {verification : PackageVerification} {digest : Sha512Digest}
  {stores : Stores}

lemma openReleaseFile_packageCopy : openReleaseFile release packageCopyName = release.child packageCopyName := by
  have hsplit : Session.splitPath packageCopyName = [packageCopyName] := by decide
  rw [openReleaseFile, hsplit]
  rfl

lemma extracted_remeasures (h : Official bytes verification)
    (hapart : (stagedPaths verification.manifest).Pairwise Node.Apart) :
    Remeasures (extracted 0 bytes verification digest) bytes verification := by
  have hopen : ∀ entry ∈ stagedFiles 0 bytes verification digest,
      Node.openFile 0 (extracted 0 bytes verification digest) entry.1 = some entry.2 :=
    extracted_openFile h.extractable hapart
  have hpositive : 0 < bytes.length := List.length_pos_of_ne_nil h.nonempty
  constructor
  · have hcopy := hopen ([packageCopyName], .file { uid := 0, mode := 0o400 } bytes)
      (List.mem_append_right _ List.mem_cons_self)
    have hchild : (extracted 0 bytes verification digest).child packageCopyName =
        some (.file { uid := 0, mode := 0o400 } bytes) := hcopy
    rw [openReleaseFile_packageCopy, hchild, readAll, if_pos]
    exact ⟨rfl, rfl, rfl, hpositive, h.size⟩
  · rw [installedFilesMatch, if_neg (not_lt.mpr h.extractable.payload), List.all_eq_true]
    intro file hfile
    have hrange := h.extractable.ranges file hfile
    have hfound := hopen (stagedFile 0 bytes verification.payloadStart file)
      (List.mem_append_left _ (List.mem_map_of_mem hfile))
    have hmode : file.mode &&& 0o777 = file.mode := by
      rcases h.modes file hfile with hm | hm <;> rw [hm] <;> rfl
    rw [installedFileMatches, if_neg (by omega), openReleaseFile,
      session_splitPath_valid (h.extractable.paths file hfile)]
    rw [stagedFile] at hfound
    rw [hfound, trustedRegular, if_pos ⟨rfl, rfl, slice_length hrange, hmode⟩]
    exact decide_eq_true rfl

lemma releasePackageMatches_copy {euid : ℕ} (h : releasePackageMatches euid release bytes digest = true) :
    ∃ stat, release.child packageCopyName = some (.file stat bytes) := by
  simp only [releasePackageMatches, Bool.and_eq_true] at h
  obtain ⟨⟨-, hcopy⟩, -⟩ := h
  split at hcopy
  · rename_i stat content hchild
    simp only [Bool.and_eq_true, decide_eq_true_eq] at hcopy
    exact ⟨stat, hcopy.2 ▸ hchild⟩
  · cases hcopy

lemma readAll_file {stat : Stat} {content read : Bytes} {maximum : ℕ}
    (h : readAll (some (.file stat content)) maximum = some read) : read = content := by
  obtain ⟨-, he⟩ := Option.ite_none_right_eq_some.mp h
  exact (Option.some.inj he).symm

end

section

variable {env : Environment} {randoms : InstallRandoms} {root payload policy : Node} {bytes : Bytes}
  {profile : CertifiedSessionProfile} {verification : PackageVerification} {stores : Stores}

lemma roots_apart : Node.Apart applicationPayloadRoot applicationPolicyRoot :=
  Node.apart_cons.mpr (Node.apart_cons.mpr (Node.apart_of_ne (by decide)))

lemma withStores_eq (hpayload : stores.payload = some payload) (hpolicy : stores.policy = some policy) :
    withStores root stores = (root.update applicationPayloadRoot fun _ => payload).update
      applicationPolicyRoot fun _ => policy := by
  rw [withStores, hpayload, hpolicy]
  rfl

lemma withStores_policy {before : Node} (hbefore : root.lookup applicationPolicyRoot = some before)
    (hpayload : stores.payload = some payload) (hpolicy : stores.policy = some policy) :
    (withStores root stores).lookup applicationPolicyRoot = some policy := by
  rw [withStores_eq hpayload hpolicy]
  apply Node.lookup_update_self
  exact (Node.lookup_update_apart roots_apart).trans hbefore

lemma withStores_payload {before : Node} (hbefore : root.lookup applicationPayloadRoot = some before)
    (hpayload : stores.payload = some payload) (hpolicy : stores.policy = some policy) :
    (withStores root stores).lookup applicationPayloadRoot = some payload := by
  rw [withStores_eq hpayload hpolicy, Node.lookup_update_apart ⟨roots_apart.2, roots_apart.1⟩]
  exact Node.lookup_update_self hbefore _

lemma withStores_opened {before : Node} (hbefore : root.openTrusted 0 applicationPayloadRoot = some before)
    (hpayload : stores.payload = some payload) (hpolicy : stores.policy = some policy)
    (ht : payload.trusted 0 = true) :
    (withStores root stores).openTrusted 0 applicationPayloadRoot = some payload := by
  rw [withStores_eq hpayload hpolicy, Node.openTrusted_update_apart ⟨roots_apart.2, roots_apart.1⟩]
  exact Node.openTrusted_update hbefore ht

lemma withStores_ancestors (hpayload : stores.payload = some payload)
    (hpolicy : stores.policy = some policy) {apps : Node}
    (h : (withStores root stores).openTrusted 0 appsPath = some apps) :
    ∃ before, root.openTrusted 0 appsPath = some before := by
  rw [withStores_eq hpayload hpolicy] at h
  obtain ⟨between, hbetween⟩ := Node.openTrusted_of_update (List.cons_ne_nil _ []) h
  exact Node.openTrusted_of_update (List.cons_ne_nil _ []) hbetween

lemma trusted_unique {node : Node} {uid other : ℕ} (h : node.trusted uid = true)
    (hother : node.trusted other = true) : uid = other := by
  simp only [Node.trusted, Bool.and_eq_true, decide_eq_true_eq] at h hother
  exact h.1.2.symm.trans hother.1.2

/-- A release lies in a file system whose ancestors and package copy the session accepts. -/
structure Launchable (env : Environment) (root : Node) (bytes : Bytes)
    (verification : PackageVerification) : Prop where
  euid : env.euid = 0
  named : validSessionAppId verification.manifest.appId = true
  ancestors : ∃ apps, root.openTrusted 0 appsPath = some apps
  remeasures : ∀ release, committedRelease (storesOf root).payload verification.manifest.appId
    verification.manifest.releaseCounter = some release → Remeasures release bytes verification

/-- What an installation that succeeded leaves for the session. -/
structure Leaves (env : Environment) (root after : Node) (bytes : Bytes)
    (verification : PackageVerification) (digest : Sha512Digest) (payload release : Node) : Prop where
  found : after.lookup applicationPayloadRoot = some payload
  trusted : payload.trusted env.euid = true
  opened : payload.openTrusted env.euid (releasesPath verification.manifest.appId ++
    [decimal verification.manifest.releaseCounter.toNat]) = some release
  staged : Staged env.euid bytes verification digest
    (committedRelease (storesOf root).payload verification.manifest.appId
      verification.manifest.releaseCounter) release
  ancestors : ∀ apps, after.openTrusted 0 appsPath = some apps →
    ∃ before, root.openTrusted 0 appsPath = some before
  reachable : env.euid = 0 → ∀ apps, root.openTrusted 0 appsPath = some apps →
    after.openTrusted 0 applicationPayloadRoot = some payload
  loaded : (storedReleaseOf env after verification.manifest.appId).isLoaded = true
  state : Activated verification digest
    (storedReleaseOf env after verification.manifest.appId).selected.state

lemma open_payloadRoot {apps before : Node} (happs : root.openTrusted 0 appsPath = some apps)
    (hbefore : root.lookup applicationPayloadRoot = some before) (ht : before.trusted 0 = true) :
    root.openTrusted 0 applicationPayloadRoot = some before := by
  rw [applicationPayloadRoot, Node.openTrusted_append, happs]
  rw [applicationPayloadRoot, Node.lookup_append, Node.openTrusted_lookup happs] at hbefore
  exact openTrusted_singleton (Node.openTrusted_trusted happs)
    ((lookup_singleton apps _).symm.trans hbefore) ht

lemma install_leaves {context : InstallPolicyContext} {digest : Sha512Digest}
    {current : Option ApplicationReleaseState} {after : Stores} {result : InstallerResult}
    (h : Reaches env (storesOf root) bytes context verification digest current)
    (hrun : installOfficialPackageWithStateRoot env randoms (storesOf root) bytes context =
      some (after, result)) (hok : result.ok = true) :
    ∃ payload release, Leaves env root (withStores root after) bytes verification digest payload
      release := by
  have hofficial := h.official
  have hstore : absolute (storesOf root).payloadPath = true :=
    (by decide : absolute (text "/userdisk/apps/lvgl-apps") = true)
  obtain ⟨next, hnext, hpersisted, hloaded, hselected⟩ := install_loads h hrun hok
  obtain ⟨outcome, houtcome, hstaged, hinstalled, -⟩ := install_outcome randoms h
  obtain rfl := Option.some.inj (hrun.symm.trans houtcome)
  obtain ⟨before, payload, release, hbefore, htrusted, hpayload, hkept, hopened, hrelease⟩ :=
    stage_leaves hofficial.extractable hstore hofficial.nonempty (hinstalled.mp hok).1
  have hafterPayload : after.payload = some payload := hstaged.trans hpayload
  obtain ⟨-, -, policyBefore, -, hpolicyBefore, -⟩ := persist_ok hpersisted
  obtain ⟨policy, hafterPolicy⟩ : ∃ policy, after.policy = some policy := by
    cases he : after.policy with
    | some policy => exact ⟨policy, rfl⟩
    | none =>
      rw [he, loadReleaseStateFrom] at hloaded
      split at hloaded <;> cases hloaded
  have hload : storedReleaseOf env (withStores root after) verification.manifest.appId =
      loadReleaseStateFrom env.euid after.policy verification.manifest.appId env.crypto := by
    rw [storedReleaseOf, withStores_policy hpolicyBefore hafterPayload hafterPolicy, hafterPolicy]
  refine ⟨payload, release, withStores_payload hbefore hafterPayload hafterPolicy, hkept, hopened,
    hrelease, ?_, ?_, ?_, ?_⟩
  · intro apps happs
    exact withStores_ancestors hafterPayload hafterPolicy happs
  · intro heuid apps happs
    exact withStores_opened (open_payloadRoot happs hbefore (heuid ▸ htrusted)) hafterPayload hafterPolicy
      (heuid ▸ hkept)
  · rw [hload]
    exact hloaded
  · rw [hload, hselected]
    exact activation_activated hnext

lemma Leaves.path {after : Node} {digest : Sha512Digest} {release : Node}
    (h : Leaves env root after bytes verification digest payload release) (heuid : env.euid = 0)
    {apps : Node} (happs : root.openTrusted 0 appsPath = some apps) :
    after.openTrusted 0 (applicationPayloadRoot ++ (releasesPath verification.manifest.appId ++
      [decimal verification.manifest.releaseCounter.toNat])) = some release := by
  have hopened := h.opened
  rw [heuid] at hopened
  rw [Node.openTrusted_append, h.reachable heuid apps happs]
  exact hopened

lemma verifyInstalled_iff {after : Node} {digest : Sha512Digest} {release : Node}
    (h : Leaves env root after bytes verification digest payload release)
    (hreserved : reservedApplicationId verification.manifest.appId = false)
    (hcounter : verification.manifest.releaseCounter ≠ 0) :
    (∃ application, verifyInstalledApplication env after verification.manifest.appId profile =
        some (some application)) ↔
      ∃ application, Measured env after ⟨verification.manifest.appId,
        verification.manifest.releaseCounter, digest, verification.manifest.signingKeyId⟩ profile
        application := by
  have hstate := h.state
  have hrecord : currentRecord (storedReleaseOf env after verification.manifest.appId).selected.state
      verification.manifest.appId = ⟨verification.manifest.appId,
        verification.manifest.releaseCounter, digest, verification.manifest.signingKeyId⟩ := by
    rw [currentRecord, hstate.current, hstate.digest, hstate.signer]
  by_cases hnamed : validSessionAppId verification.manifest.appId = true
  · rw [verifyInstalledApplication, if_neg (by simp [hnamed, hreserved])]
    dsimp only
    rw [if_neg (by simp [h.loaded, hstate.current, hcounter]), hrecord]
    exact exists_congr fun application => verifyApplicationRelease_iff
  · refine iff_of_false ?_ fun ⟨application, hmeasured⟩ => hnamed hmeasured.named
    rintro ⟨application, hverified⟩
    rw [verifyInstalledApplication, if_pos (by simp [hnamed])] at hverified
    cases Option.some.inj hverified

lemma Launchable.measured {after : Node} {digest : Sha512Digest} {release : Node}
    (h : Launchable env root bytes verification) (hofficial : Official bytes verification)
    (hl : Leaves env root after bytes verification digest payload release) :
    Remeasures release bytes verification := by
  have hstaged := hl.staged
  rw [h.euid] at hstaged
  generalize hbefore : committedRelease (storesOf root).payload verification.manifest.appId
    verification.manifest.releaseCounter = before at hstaged
  cases hstaged with
  | present _ => exact h.remeasures _ hbefore
  | extracted hapart => exact extracted_remeasures hofficial hapart

end

/-- An application that was installed successfully is launchable exactly from such a file system. -/
theorem installed_application_launches_iff (env : Environment) (randoms : InstallRandoms) (root : Node)
    (profile : CertifiedSessionProfile) (bytes : Bytes) (verification : PackageVerification)
    (after : Stores) (result : InstallerResult)
    (hverified : (env.trust.verify bytes env.crypto).answer = some verification)
    (hreserved : reservedApplicationId verification.manifest.appId = false)
    (hrun : installOfficialPackageWithStateRoot env randoms (storesOf root) bytes
      (launchContext profile) = some (after, result)) (hok : result.ok = true) :
    (∃ application, verifyInstalledApplication env (withStores root after) verification.manifest.appId
        profile = some (some application)) ↔
      Launchable env root bytes verification := by
  obtain ⟨digest, current, hreaches⟩ := reaches_of_ok hrun hok hverified
  have hofficial := hreaches.official
  obtain ⟨payload, release, hleaves⟩ := install_leaves hreaches hrun hok
  rw [verifyInstalled_iff hleaves hreserved hofficial.extractable.counter]
  constructor
  · rintro ⟨application, hmeasured⟩
    have hnamed : validSessionAppId verification.manifest.appId = true := hmeasured.named
    have hopened := hmeasured.opened
    rw [open_applicationRelease hnamed] at hopened
    -- every directory on the way to the release belongs to root
    rw [Node.openTrusted_append] at hopened
    obtain ⟨store, hstore, hrelease⟩ := Option.bind_eq_some_iff.mp hopened
    have hsame : store = payload := by
      have hfound := Node.openTrusted_lookup hstore
      exact Option.some.inj (hfound.symm.trans hleaves.found)
    have heuid : env.euid = 0 := trusted_unique hleaves.trusted (hsame ▸ Node.openTrusted_trusted hstore)
    rw [applicationPayloadRoot, Node.openTrusted_append] at hstore
    obtain ⟨apps, happs, -⟩ := Option.bind_eq_some_iff.mp hstore
    refine ⟨heuid, hnamed, hleaves.ancestors apps happs, ?_⟩
    intro existing hexisting
    have hstaged := hleaves.staged
    rw [hexisting] at hstaged
    obtain ⟨rfl, hmatches⟩ : existing = release ∧
        releasePackageMatches env.euid release bytes digest = true := by
      cases hstaged with
      | present _ hmatches => exact ⟨rfl, hmatches⟩
    have hsameRelease : existing = application.release := by
      have hleft := hleaves.opened
      rw [heuid, ← hsame] at hleft
      exact Option.some.inj (hleft.symm.trans hrelease)
    subst hsameRelease
    obtain ⟨stat, hcopy⟩ := releasePackageMatches_copy hmatches
    have hpackage := hmeasured.package
    have hbytes : application.package = bytes := by
      rw [openReleaseFile_packageCopy, hcopy] at hpackage
      exact readAll_file hpackage
    have hverification : application.verification = verification :=
      Option.some.inj (hmeasured.verified.symm.trans (hbytes ▸ hverified))
    obtain ⟨-, -, -, -, -, hfiles, -⟩ := measureRelease_iff.mp hmeasured.measured
    exact ⟨hpackage.trans (congrArg some hbytes), hbytes ▸ hverification ▸ hfiles⟩
  · intro hlaunchable
    obtain ⟨apps, happs⟩ := hlaunchable.ancestors
    have hremeasures := hlaunchable.measured hofficial hleaves
    have hpath := hleaves.path hlaunchable.euid happs
    have hcandidate := hreaches.candidate
    refine ⟨⟨release, verification, bytes⟩, hlaunchable.named, hreserved, hofficial.extractable.counter,
      ?_, ?_, Node.openTrusted_trusted hpath, hremeasures.package, hverified, ?_⟩
    · have hkey := hofficial.keyId
      simp only [keyId, lowercaseHex, Bool.and_eq_true, decide_eq_true_eq] at hkey
      exact hkey.1
    · rw [open_applicationRelease hlaunchable.named]
      exact hpath
    · exact measureRelease_iff.mpr ⟨hofficial.extractable.authenticated, hreaches.digested, rfl, rfl, rfl,
        hremeasures.files, (policy_allowed_iff.mp hreaches.allowed).1⟩

def penProfile : CertifiedSessionProfile where
  profileId := text "pen"
  machine := text "m1"

theorem fresh_application_launches :
    ∃ after result, installOfficialPackageWithStateRoot installEnvironment installRandoms
        (storesOf freshSystem) firstRelease.package.bytes (launchContext penProfile) =
        some (after, result) ∧
      ((∃ application, verifyInstalledApplication installEnvironment (withStores freshSystem after)
          (text "org.pen.demo") penProfile = some (some application)) ↔
        Launchable installEnvironment freshSystem firstRelease.package.bytes
          firstRelease.package.verification) := by
  have hrun : (installOfficialPackageWithStateRoot installEnvironment installRandoms
      (storesOf freshSystem) firstRelease.package.bytes (launchContext penProfile)).map
      (fun outcome => outcome.2.ok) = some true := by decide +kernel
  obtain ⟨⟨after, result⟩, hinstall, hok⟩ := Option.map_eq_some_iff.mp hrun
  exact ⟨after, result, hinstall, installed_application_launches_iff installEnvironment installRandoms
    freshSystem penProfile firstRelease.package.bytes firstRelease.package.verification after result
    (by decide +kernel) (by decide +kernel) hinstall hok⟩

def alteredRelease : Node :=
  privateDirectory [
    (text "demo", .file { mode := 0o755 } (text "ho")),
    (packageCopyName, .file { mode := 0o400 } firstRelease.package.bytes),
    (packageMarkerName, .file { mode := 0o400 } firstRelease.packageDigest.toList)]

def alteredSystem : Node :=
  let releases := privateDirectory [(text "1", alteredRelease)]
  let application := privateDirectory [(text "releases", releases)]
  let apps := privateDirectory [(text "org.pen.demo", application)]
  systemWith (privateDirectory [(text "apps", apps)]) (privateDirectory []) firstRelease

/-- Installing over an altered release reports success, and the application cannot be launched. -/
theorem altered_release_installed_but_not_launched :
    ¬ ∀ (env : Environment) (randoms : InstallRandoms) (root : Node) (profile : CertifiedSessionProfile)
        (bytes : Bytes) (verification : PackageVerification) (after : Stores) (result : InstallerResult),
      (env.trust.verify bytes env.crypto).answer = some verification →
      reservedApplicationId verification.manifest.appId = false →
      installOfficialPackageWithStateRoot env randoms (storesOf root) bytes (launchContext profile) =
        some (after, result) → result.ok = true →
      ∃ application, verifyInstalledApplication env (withStores root after) verification.manifest.appId
        profile = some (some application) := by
  intro hlaunches
  have hrun : (installOfficialPackageWithStateRoot installEnvironment installRandoms
      (storesOf alteredSystem) firstRelease.package.bytes (launchContext penProfile)).map
      (fun outcome => (outcome.2.ok, (verifyInstalledApplication installEnvironment
        (withStores alteredSystem outcome.1) (text "org.pen.demo") penProfile).map Option.isSome)) =
      some (true, some false) := by decide +kernel
  obtain ⟨⟨after, result⟩, hinstall, houtcome⟩ := Option.map_eq_some_iff.mp hrun
  obtain ⟨hok, hverified⟩ := Prod.mk.inj houtcome
  obtain ⟨application, happlication⟩ := hlaunches installEnvironment installRandoms alteredSystem
    penProfile firstRelease.package.bytes firstRelease.package.verification after result
    (by decide +kernel) (by decide +kernel) hinstall hok
  have hnamed : firstRelease.package.verification.manifest.appId = text "org.pen.demo" := by decide
  rw [hnamed] at happlication
  rw [happlication] at hverified
  cases hverified

end LvglPlatform

import LvglPlatform.Session.ApplicationRegistry
import LvglPlatform.Session.ListedEntries
import LvglPlatform.Session.VerifiedProgram

/-! The registry that the session builds for the desktop: the installed applications that verify and the
built-in ones beside them. -/

namespace LvglPlatform

open Foundation

def gameId : Bytes := text "top.lvgl.game2048"

def installerId : Bytes := text "top.lvgl.installer"

structure ActiveRelease extends VerifiedRelease where
  profile : CertifiedSessionProfile
  counter : UInt64
  numbered : counter ≠ 0

/-- The applications the session goes through, none if they cannot be relied on. -/
def enumeratedIds (root : Node) : List Bytes := (installedApplicationIds root).getD []

/-- The outer `none` is a measurement whose behaviour is undefined. -/
def verifiedApplications (env : Environment) (root : Node) (profile : CertifiedSessionProfile) :
    List Bytes → Option (List VerifiedApplication)
  | [] => some []
  | appId :: rest => do
    let application ← verifyInstalledApplication env root appId profile
    let applications ← verifiedApplications env root profile rest
    some (application.toList ++ applications)

/-- Opening a program without its policy, so that nothing is asked about the user it would run as. -/
def openProgram (env : Environment) (platform : ActiveRelease) (root : Node) (appId : Bytes) :
    Option (Option VerifiedProgram) :=
  (openInstalledProgram env platform.profile root {} appId).map fun program =>
    program.or (openBuiltInProgram platform.toVerifiedRelease {} appId)

def registeredApplication (manifest : VerifiedPackageManifest) : RegisteredApplication where
  appId := manifest.appId
  name := manifest.name
  version := manifest.version
  releaseCounter := manifest.releaseCounter
  securityEpoch := manifest.securityEpoch
  capabilityCount := UInt32.ofNat manifest.capabilities.length

def builtInApplication (platform : ActiveRelease) (appId name : Bytes) : RegisteredApplication where
  appId
  name
  version := text "1.0.0"
  releaseCounter := platform.counter
  securityEpoch := platform.verification.manifest.securityEpoch

def registeredGame (platform : ActiveRelease) : RegisteredApplication :=
  builtInApplication platform gameId (text "2048")

def registeredInstaller (platform : ActiveRelease) : RegisteredApplication :=
  builtInApplication platform installerId (text "应用安装器")

def desktopApplications (env : Environment) (platform : ActiveRelease) (root : Node) :
    Option (List RegisteredApplication) := do
  let verified ← verifiedApplications env root platform.profile (enumeratedIds root)
  let installed := verified.map fun application => registeredApplication application.verification.manifest
  let hasGame := installed.any fun application => application.appId = gameId
  let game ← if hasGame then some none else openProgram env platform root gameId
  let installer ← openProgram env platform root installerId
  let builtIn := (game.map fun _ => registeredGame platform).toList ++
    (installer.map fun _ => registeredInstaller platform).toList
  some (sortBy RegisteredApplication.appId byteLe (installed ++ builtIn))

def buildDesktopRegistry (env : Environment) (platform : ActiveRelease) (root : Node) :
    Option ApplicationRegistryDocument :=
  (desktopApplications env platform root).map encodeApplicationRegistry

/-- What the desktop is to show: the enumerated applications that verify, and the built-in ones that none
of them overrides. -/
inductive Expected (env : Environment) (platform : ActiveRelease) (root : Node) :
    RegisteredApplication → Prop
  | installed {appId : Bytes} {application : VerifiedApplication} (enumerated : appId ∈ enumeratedIds root)
      (verified : verifyInstalledApplication env root appId platform.profile = some (some application)) :
      Expected env platform root (registeredApplication application.verification.manifest)
  | game (free : gameId ∈ enumeratedIds root →
      verifyInstalledApplication env root gameId platform.profile = some none) :
      Expected env platform root (registeredGame platform)
  | installer : Expected env platform root (registeredInstaller platform)

/-- The registry is accepted, and read back as what the desktop is to show, in order. -/
structure RegistryDelivered (env : Environment) (platform : ActiveRelease) (root : Node)
    (document : ApplicationRegistryDocument) : Prop where
  accepted : document.ok = true
  decoded : (decodeApplicationRegistry document.bytes).ok = true
  increasing : (decodeApplicationRegistry document.bytes).applications.Pairwise
    fun application next => application.appId < next.appId
  complete : ∀ application, application ∈ (decodeApplicationRegistry document.bytes).applications ↔
    Expected env platform root application

/-- The built-in programs are where the manifest of the platform says. -/
structure ActiveRelease.Intact (platform : ActiveRelease) : Prop where
  game : (openBuiltInProgram platform.toVerifiedRelease {} gameId).isSome = true
  installer : (openBuiltInProgram platform.toVerifiedRelease {} installerId).isSome = true

/-- The releases that the session looks at can be measured. -/
structure Measurable (env : Environment) (platform : ActiveRelease) (root : Node) : Prop where
  enumerated : ∀ appId ∈ enumeratedIds root,
    (verifyInstalledApplication env root appId platform.profile).isSome = true
  game : (verifyInstalledApplication env root gameId platform.profile).isSome = true

def verifiedIds (env : Environment) (platform : ActiveRelease) (root : Node) : List Bytes :=
  (enumeratedIds root).filter fun appId =>
    (verifyInstalledApplication env root appId platform.profile).join.isSome

/-- The applications leave room for the built-in ones, and their names can be shown. -/
structure RegistryFits (env : Environment) (platform : ActiveRelease) (root : Node) : Prop where
  count : (verifiedIds env platform root).length +
    (if gameId ∈ verifiedIds env platform root then 1 else 2) ≤ maximumRegistryApplications
  named : ∀ appId ∈ enumeratedIds root, ∀ application,
    verifyInstalledApplication env root appId platform.profile = some (some application) →
      printable application.verification.manifest.name = true

section

variable {env : Environment} {platform : ActiveRelease} {root : Node} {profile : CertifiedSessionProfile}
  {appId previous : Bytes} {application : VerifiedApplication} {ids : List Bytes}
  {applications : List RegisteredApplication} {manifest : VerifiedPackageManifest}

lemma byteLe_eq_false {a b : Bytes} : byteLe b a = false ↔ a < b := by
  rw [byteLe, decide_eq_false_iff_not]
  exact List.not_le

lemma lt_of_byteLe {a b : Bytes} (h : byteLe a b = true ∧ a ≠ b) : a < b := by
  rw [← byteLe_eq_false, Bool.eq_false_iff]
  exact fun hle => h.2 (byteLe_linear.antisymm a b h.1 hle)

lemma verifyInstalledApplication_measured
    (h : verifyInstalledApplication env root appId profile = some (some application)) :
    ∃ record : ReleaseRecord, record.appId = appId ∧ Measured env root record profile application := by
  rw [verifyInstalledApplication] at h
  split at h
  · cases Option.some.inj h
  dsimp only at h
  split at h
  · cases Option.some.inj h
  · exact ⟨_, rfl, verifyApplicationRelease_iff.mp h⟩

lemma installed_manifest (h : verifyInstalledApplication env root appId profile = some (some application)) :
    application.verification.manifest.appId = appId ∧ validSessionAppId appId = true ∧
      reservedApplicationId appId = false ∧
      ∃ files, ValidManifest { application.verification.manifest with files } := by
  obtain ⟨record, rfl, hmeasured⟩ := verifyInstalledApplication_measured h
  obtain ⟨⟨hok, -⟩, -, happ, -⟩ := measureRelease_iff.mp hmeasured.measured
  exact ⟨happ, hmeasured.named, hmeasured.available, verified_manifest hmeasured.verified hok⟩

lemma verifiedApplications_some
    (h : ∀ appId ∈ ids, (verifyInstalledApplication env root appId profile).isSome = true) :
    ∃ applications, verifiedApplications env root profile ids = some applications ∧
      (∀ application, application ∈ applications ↔ ∃ appId ∈ ids,
        verifyInstalledApplication env root appId profile = some (some application)) ∧
      applications.map (fun application => application.verification.manifest.appId) =
        ids.filter fun appId => (verifyInstalledApplication env root appId profile).join.isSome := by
  induction ids with
  | nil => exact ⟨[], rfl, by simp, rfl⟩
  | cons appId rest ih =>
    obtain ⟨applications, hrest, hmem, hids⟩ := ih fun other hother => h other (List.mem_cons_of_mem _ hother)
    obtain ⟨found, hfound⟩ := Option.isSome_iff_exists.mp (h appId List.mem_cons_self)
    refine ⟨found.toList ++ applications, ?_, ?_, ?_⟩
    · rw [verifiedApplications, hfound, hrest]
      rfl
    · intro application
      rw [List.mem_append, hmem, List.exists_mem_cons_iff, hfound, Option.mem_toList, Option.some.injEq]
    · rw [List.map_append, hids, List.filter_cons, hfound, Option.join_some]
      cases found with
      | none => rfl
      | some application =>
        rw [Option.isSome_some, if_pos rfl, ← (installed_manifest hfound).1]
        rfl

lemma validRegistryText_eq {value : Bytes} {maximum : ℕ} : validRegistryText value maximum =
    (value ≠ [] && value.length ≤ maximum && printable value) := rfl

/-- A version that the verifier reads is one the registry reads. -/
lemma scanVersion_of_versionScan {value : Bytes} {dots : ℕ} {digit : Bool}
    (h : versionScan dots digit value = true) : dots ≤ 2 ∧ scanVersion dots digit value = true := by
  induction value generalizing dots digit with
  | nil =>
    rw [versionScan, Bool.and_eq_true, decide_eq_true_eq] at h
    exact ⟨h.1.le, by rw [scanVersion, h.1, h.2]; rfl⟩
  | cons c cs ih =>
    rw [versionScan] at h
    rw [scanVersion]
    split at h <;> rename_i hc
    · split at h <;> rename_i hdigit
      · cases h
      obtain ⟨hdots, hscan⟩ := ih h
      rw [if_pos hc, if_neg (not_or.mpr ⟨hdigit, by omega⟩)]
      exact ⟨by omega, hscan⟩
    · split at h <;> rename_i hdigit
      · rw [if_neg hc, if_pos hdigit]
        exact ih h
      · cases h

lemma validApplication_registered (hvalid : ValidManifest manifest)
    (hnamed : validSessionAppId manifest.appId = true) :
    validApplication (registeredApplication manifest) = printable manifest.name := by
  have hversion : validRegistryVersion manifest.version = true := by
    have hscan := hvalid.scannedVersion
    rw [validRegistryVersion, validRegistryText_eq, (scanVersion_of_versionScan hscan).2,
      versionScan_printable hscan]
    simp [hvalid.version.nonempty, hvalid.version.size]
  have hcounter : manifest.releaseCounter ≠ 0 := by
    rintro hzero
    exact hvalid.counter (by rw [hzero]; rfl)
  have hcapabilities : UInt32.ofNat manifest.capabilities.length ≤ 64 := by
    have hsize := hvalid.capabilities.size
    have hlt : manifest.capabilities.length < UInt32.size := hsize.trans_lt (by decide)
    rw [UInt32.le_iff_toNat_le, UInt32.toNat_ofNat_of_lt' hlt]
    exact hsize
  rw [validApplication, registeredApplication]
  dsimp only
  rw [hnamed, hversion, validRegistryText_eq]
  simp [hvalid.name.nonempty, hvalid.name.size, hcounter, hcapabilities]

lemma validApplication_builtIn (happ : validSessionAppId appId = true) {name : Bytes}
    (hname : validRegistryText name 64 = true) :
    validApplication (builtInApplication platform appId name) = true := by
  have hversion : validRegistryVersion (text "1.0.0") = true := by decide
  rw [validApplication, builtInApplication]
  dsimp only
  rw [happ, hname, hversion]
  simp [platform.numbered]

lemma chained_iff_valid (hstrict : applications.Pairwise fun a b => a.appId < b.appId)
    (hprevious : ∀ application ∈ applications, previous = [] ∨ previous < application.appId) :
    Chained previous applications ↔ ∀ application ∈ applications, validApplication application = true := by
  induction applications generalizing previous with
  | nil => simp [Chained]
  | cons application rest ih =>
    obtain ⟨hhead, hrest⟩ := List.pairwise_cons.mp hstrict
    rw [Chained, ih hrest fun next hnext => .inr (hhead next hnext), List.forall_mem_cons]
    refine and_congr_left fun _ => ?_
    rw [checkedApplication]
    cases validApplication application with
    | false => simp
    | true =>
      rw [if_neg (by simp), if_neg]
      · simp
      · rintro ⟨hne, hle⟩
        rcases hprevious application List.mem_cons_self with hnil | hlt
        · exact hne hnil
        · rw [byteLe_eq_false.mpr hlt] at hle
          cases hle

lemma enumeratedIds_nodup (root : Node) : (enumeratedIds root).Nodup := by
  rw [enumeratedIds]
  cases hids : installedApplicationIds root with
  | none => exact List.nodup_nil
  | some ids => exact (installedApplicationIds_nodup hids).1

lemma mem_verifiedIds : appId ∈ verifiedIds env platform root ↔ appId ∈ enumeratedIds root ∧
    ∃ application, verifyInstalledApplication env root appId platform.profile = some (some application) := by
  rw [verifiedIds, List.mem_filter, Option.isSome_iff_exists]
  refine and_congr_right fun _ => exists_congr fun application => ?_
  exact Option.join_eq_some_iff

lemma installerId_not_verified : installerId ∉ verifiedIds env platform root := by
  intro hmem
  obtain ⟨-, application, hverified⟩ := mem_verifiedIds.mp hmem
  have hreserved : reservedApplicationId installerId = true := by decide
  rw [(installed_manifest hverified).2.2.1] at hreserved
  cases hreserved

lemma openProgram_some (hbuiltIn : (openBuiltInProgram platform.toVerifiedRelease {} appId).isSome = true)
    (h : (verifyInstalledApplication env root appId platform.profile).isSome = true) :
    ∃ program, openProgram env platform root appId = some (some program) := by
  obtain ⟨builtIn, hbuiltIn⟩ := Option.isSome_iff_exists.mp hbuiltIn
  obtain ⟨found, hfound⟩ := Option.isSome_iff_exists.mp h
  obtain ⟨installed, hinstalled⟩ : ∃ installed,
      openInstalledProgram env platform.profile root {} appId = some installed := by
    rw [openInstalledProgram, hfound]
    split
    · exact ⟨none, rfl⟩
    · exact ⟨_, rfl⟩
  rw [openProgram, hinstalled, hbuiltIn]
  cases installed with
  | none => exact ⟨builtIn, rfl⟩
  | some program => exact ⟨program, rfl⟩

def builtInEntries (env : Environment) (platform : ActiveRelease) (root : Node) :
    List RegisteredApplication :=
  if gameId ∈ verifiedIds env platform root then [registeredInstaller platform]
  else [registeredGame platform, registeredInstaller platform]

lemma desktopApplications_some (hplatform : platform.Intact) (h : Measurable env platform root) :
    ∃ verified, verifiedApplications env root platform.profile (enumeratedIds root) = some verified ∧
      desktopApplications env platform root = some (sortBy RegisteredApplication.appId byteLe
        (verified.map (fun application => registeredApplication application.verification.manifest) ++
          builtInEntries env platform root)) := by
  obtain ⟨verified, hverified, -, hids⟩ := verifiedApplications_some h.enumerated
  refine ⟨verified, hverified, ?_⟩
  have hgame : (verified.map fun application =>
      registeredApplication application.verification.manifest).any (fun application =>
        application.appId = gameId) = decide (gameId ∈ verifiedIds env platform root) := by
    rw [verifiedIds, ← hids, Bool.eq_iff_iff, List.any_eq_true, decide_eq_true_eq, List.mem_map]
    simp [registeredApplication]
  have hinstaller : (verifyInstalledApplication env root installerId platform.profile).isSome = true := by
    rw [verifyInstalledApplication, if_pos (by decide)]
    rfl
  obtain ⟨game, hgameOpen⟩ := openProgram_some hplatform.game h.game
  obtain ⟨installer, hinstallerOpen⟩ := openProgram_some hplatform.installer hinstaller
  rw [desktopApplications, hverified, builtInEntries]
  simp only [Option.bind_eq_bind, Option.bind_some, hgame, hgameOpen, hinstallerOpen, decide_eq_true_eq]
  split <;> rfl

structure DesktopList (env : Environment) (platform : ActiveRelease) (root : Node)
    (applications : List RegisteredApplication) : Prop where
  increasing : applications.Pairwise fun application next => application.appId < next.appId
  complete : ∀ application, application ∈ applications ↔ Expected env platform root application
  size : applications.length = (verifiedIds env platform root).length +
    if gameId ∈ verifiedIds env platform root then 1 else 2

lemma expected_iff (h : Measurable env platform root) {shown : RegisteredApplication} :
    Expected env platform root shown ↔
      (∃ appId ∈ enumeratedIds root, ∃ application,
        verifyInstalledApplication env root appId platform.profile = some (some application) ∧
          registeredApplication application.verification.manifest = shown) ∨
      shown ∈ builtInEntries env platform root := by
  have hfree : (gameId ∈ enumeratedIds root →
      verifyInstalledApplication env root gameId platform.profile = some none) ↔
        gameId ∉ verifiedIds env platform root := by
    obtain ⟨found, hfound⟩ := Option.isSome_iff_exists.mp h.game
    rw [mem_verifiedIds, hfound, not_and]
    refine imp_congr_right fun _ => ?_
    cases found with
    | none => simp
    | some application => simp
  rw [builtInEntries]
  constructor
  · rintro (⟨henumerated, hverified⟩ | hgame | -)
    · exact .inl ⟨_, henumerated, _, hverified, rfl⟩
    · rw [if_neg (hfree.mp hgame)]
      exact .inr List.mem_cons_self
    · right
      split
      · exact List.mem_singleton_self _
      · exact List.mem_cons_of_mem _ (List.mem_singleton_self _)
  · rintro (⟨appId, henumerated, application, hverified, rfl⟩ | hbuiltIn)
    · exact .installed henumerated hverified
    · split at hbuiltIn <;> rename_i hgame
      · rw [List.mem_singleton.mp hbuiltIn]
        exact .installer
      · rcases List.mem_cons.mp hbuiltIn with rfl | hinstaller
        · exact .game (hfree.mpr hgame)
        · rw [List.mem_singleton.mp hinstaller]
          exact .installer

lemma desktopApplications_listed (hplatform : platform.Intact) (h : Measurable env platform root) :
    ∃ applications, desktopApplications env platform root = some applications ∧
      DesktopList env platform root applications := by
  obtain ⟨verified, hverified, hshown⟩ := desktopApplications_some hplatform h
  refine ⟨_, hshown, ?_⟩
  obtain ⟨applications, happlications, hmem, hids⟩ := verifiedApplications_some h.enumerated
  obtain rfl := Option.some.inj (hverified.symm.trans happlications)
  have hinstalled : (verified.map fun application =>
      registeredApplication application.verification.manifest).map RegisteredApplication.appId =
        verifiedIds env platform root := by
    rw [verifiedIds, ← hids, List.map_map]
    rfl
  have hne : gameId ≠ installerId := by decide
  have hdistinct : ((verified.map (fun application =>
      registeredApplication application.verification.manifest) ++
        builtInEntries env platform root).map RegisteredApplication.appId).Nodup := by
    rw [List.map_append, hinstalled, List.nodup_append]
    refine ⟨(enumeratedIds_nodup root).filter _, ?_, ?_⟩
    · rw [builtInEntries]
      split
      · exact List.nodup_singleton _
      · simpa [registeredGame, registeredInstaller, builtInApplication] using hne
    · rw [builtInEntries]
      rintro appId hmem other hother rfl
      split at hother <;> rename_i hgame
      · rw [List.map_singleton, List.mem_singleton] at hother
        exact installerId_not_verified (hother ▸ hmem)
      · rw [List.map_cons, List.map_singleton, List.mem_cons, List.mem_singleton] at hother
        rcases hother with rfl | rfl
        · exact hgame hmem
        · exact installerId_not_verified hmem
  refine ⟨(sortBy_strict byteLe_linear hdistinct).imp fun h => lt_of_byteLe h, ?_, ?_⟩
  · intro shown
    rw [sortBy, List.mem_mergeSort, List.mem_append, List.mem_map, expected_iff h]
    refine or_congr_left ?_
    constructor
    · rintro ⟨application, happlication, hshown⟩
      obtain ⟨appId, henumerated, hfound⟩ := (hmem application).mp happlication
      exact ⟨appId, henumerated, application, hfound, hshown⟩
    · rintro ⟨appId, henumerated, application, hfound, hshown⟩
      exact ⟨application, (hmem application).mpr ⟨appId, henumerated, hfound⟩, hshown⟩
  · have hlength := congrArg List.length hinstalled
    rw [List.length_map] at hlength
    rw [sortBy, List.length_mergeSort, List.length_append, hlength, builtInEntries]
    split <;> rfl

lemma expected_valid :
    (∀ application, Expected env platform root application → validApplication application = true) ↔
      ∀ appId ∈ enumeratedIds root, ∀ application,
        verifyInstalledApplication env root appId platform.profile = some (some application) →
          printable application.verification.manifest.name = true := by
  have hregistered : ∀ appId application,
      verifyInstalledApplication env root appId platform.profile = some (some application) →
        validApplication (registeredApplication application.verification.manifest) =
          printable application.verification.manifest.name := by
    intro appId application hverified
    obtain ⟨rfl, hnamed, -, files, hvalid⟩ := installed_manifest hverified
    exact @validApplication_registered { application.verification.manifest with files } hvalid hnamed
  constructor
  · intro hvalid appId henumerated application hverified
    rw [← hregistered appId application hverified]
    exact hvalid _ (.installed henumerated hverified)
  · rintro hprintable _ (⟨henumerated, hverified⟩ | - | -)
    · rw [hregistered _ _ hverified]
      exact hprintable _ henumerated _ hverified
    · exact validApplication_builtIn (by decide) (by decide)
    · exact validApplication_builtIn (by decide) (by decide)

lemma DesktopList.chained_iff {applications : List RegisteredApplication}
    (h : DesktopList env platform root applications) :
    Chained [] applications ↔ ∀ appId ∈ enumeratedIds root, ∀ application,
      verifyInstalledApplication env root appId platform.profile = some (some application) →
        printable application.verification.manifest.name = true := by
  rw [chained_iff_valid h.increasing fun _ _ => .inl rfl, ← expected_valid]
  exact forall_congr' fun application => imp_congr_left (h.complete application)

lemma DesktopList.fits {applications : List RegisteredApplication} (h : DesktopList env platform root applications)
    (hok : (encodeApplicationRegistry applications).ok = true) : RegistryFits env platform root := by
  have hregistrable := encodeApplicationRegistry_ok.mp hok
  exact ⟨h.size ▸ hregistrable.count, h.chained_iff.mp hregistrable.chained⟩

lemma DesktopList.delivered {applications : List RegisteredApplication} (h : DesktopList env platform root applications)
    (hfits : RegistryFits env platform root) :
    RegistryDelivered env platform root (encodeApplicationRegistry applications) := by
  have hregistrable : Registrable applications := by
    refine ⟨?_, h.size ▸ hfits.count, h.chained_iff.mpr hfits.named⟩
    rintro rfl
    exact absurd ((h.complete _).mpr .installer) List.not_mem_nil
  rw [hregistrable.encoded]
  refine ⟨rfl, ?_, ?_, ?_⟩
  · rw [hregistrable.decoded]
    rfl
  · rw [hregistrable.decoded]
    exact h.increasing
  · rw [hregistrable.decoded]
    exact h.complete

lemma buildDesktopRegistry_listed (hplatform : platform.Intact) (h : Measurable env platform root) :
    ∃ applications, DesktopList env platform root applications ∧
      buildDesktopRegistry env platform root = some (encodeApplicationRegistry applications) := by
  obtain ⟨applications, hbuilt, hlisted⟩ := desktopApplications_listed hplatform h
  refine ⟨applications, hlisted, ?_⟩
  rw [buildDesktopRegistry, hbuilt]
  rfl

end

/-- The desktop is given its applications exactly when they leave room for the built-in ones and their names
hold no control character. -/
theorem desktop_registry_delivered_iff (env : Environment) (platform : ActiveRelease) (root : Node)
    (hplatform : platform.Intact) (hmeasurable : Measurable env platform root) :
    (∃ document, buildDesktopRegistry env platform root = some document ∧
        RegistryDelivered env platform root document) ↔
      RegistryFits env platform root := by
  obtain ⟨applications, hlisted, hbuilt⟩ := buildDesktopRegistry_listed hplatform hmeasurable
  constructor
  · rintro ⟨document, hbuilds, hdelivered⟩
    obtain rfl := Option.some.inj (hbuilt.symm.trans hbuilds)
    exact hlisted.fits hdelivered.accepted
  · exact fun hfits => ⟨_, hbuilt, hlisted.delivered hfits⟩

/-- What the owner and the official installer do to a system. -/
inductive OfficialStep (env : Environment) (profile : CertifiedSessionProfile) : Node → Node → Prop
  | place {root : Node} (inbox : Node) :
      OfficialStep env profile root (root.update applicationInboxRoot fun _ => inbox)
  | install {root after : Node} {randoms : InstallRandoms} {token : Bytes} {result : InboxInstallResult}
      (run : installOfficialInboxCandidate env randoms root token (installerPolicy profile) =
        some (after, result)) (installed : result.installer.ok = true) :
      OfficialStep env profile root after

def OfficiallyInstalled (env : Environment) (profile : CertifiedSessionProfile) (root : Node) : Prop :=
  ∃ fresh, installedApplicationIds fresh = some [] ∧
    Relation.ReflTransGen (OfficialStep env profile) fresh root

lemma penPlatform_numbered : (3 : UInt64) ≠ 0 := by decide

def penPlatform : ActiveRelease where
  directory := privateDirectory [(text "bin", privateDirectory [
    (text "lvgl-2048", .file { mode := 0o755 } (text "hi")),
    (text "lvgl-installer", .file { mode := 0o755 } (text "hi"))])]
  verification := {
    status := .verified
    signatureVerified := true
    manifest := {
      releaseCounter := 3
      securityEpoch := 1
      files := [
        { path := text "bin/lvgl-2048", role := text "executable", mode := 0o755, size := 2 },
        { path := text "bin/lvgl-installer", role := text "executable", mode := 0o755, size := 2 }] } }
  profile := penProfile
  counter := 3
  numbered := penPlatform_numbered

lemma penPlatform_intact : penPlatform.Intact := ⟨by decide, by decide⟩

def installsPackage (env : Environment) (digest : Sha512Digest) (root : Node) :
    Option (Node × InboxInstallResult) :=
  installOfficialInboxCandidate env installRandoms root (hexDigest digest) (installerPolicy penProfile)

def demoPrintable (env : Environment) (root : Node) : Option (Option Bool) :=
  (verifyInstalledApplication env root (text "org.pen.demo") penPlatform.profile).map fun found =>
    found.map fun application => printable application.verification.manifest.name

structure OneInstalled (env : Environment) (root : Node) (shown : Bool) : Prop where
  enumerated : enumeratedIds root = [text "org.pen.demo"]
  game : (verifyInstalledApplication env root gameId penPlatform.profile).isSome = true
  printable : demoPrintable env root = some (some shown)

instance (env : Environment) (root : Node) (shown : Bool) : Decidable (OneInstalled env root shown) :=
  decidable_of_iff (enumeratedIds root = [text "org.pen.demo"] ∧
      (verifyInstalledApplication env root gameId penPlatform.profile).isSome = true ∧
      demoPrintable env root = some (some shown))
    ⟨fun h => ⟨h.1, h.2.1, h.2.2⟩, fun h => ⟨h.enumerated, h.game, h.printable⟩⟩

section

variable {env : Environment} {root after : Node} {shown : Bool} {digest : Sha512Digest}

lemma OneInstalled.found (h : OneInstalled env root shown) :
    ∃ application, verifyInstalledApplication env root (text "org.pen.demo") penPlatform.profile =
        some (some application) ∧
      LvglPlatform.printable application.verification.manifest.name = shown := by
  obtain ⟨found, hfound, hprintable⟩ := Option.map_eq_some_iff.mp h.printable
  obtain ⟨application, rfl, hname⟩ := Option.map_eq_some_iff.mp hprintable
  exact ⟨application, hfound, hname⟩

lemma OneInstalled.measurable (h : OneInstalled env root shown) : Measurable env penPlatform root := by
  obtain ⟨application, hverified, -⟩ := h.found
  refine ⟨fun appId hmem => ?_, h.game⟩
  rw [h.enumerated, List.mem_singleton] at hmem
  rw [hmem, hverified]
  rfl

lemma OneInstalled.verified (h : OneInstalled env root shown) :
    verifiedIds env penPlatform root = [text "org.pen.demo"] := by
  obtain ⟨application, hverified, -⟩ := h.found
  rw [verifiedIds, h.enumerated, List.filter_cons, hverified]
  rfl

lemma OneInstalled.fits (h : OneInstalled env root true) : RegistryFits env penPlatform root := by
  obtain ⟨found, hfound, hname⟩ := h.found
  refine ⟨by rw [h.verified]; decide, ?_⟩
  intro appId hmem application hverified
  rw [h.enumerated, List.mem_singleton] at hmem
  rw [hmem, hfound] at hverified
  rw [← Option.some.inj (Option.some.inj hverified)]
  exact hname

lemma installsPackage_run (h : (installsPackage env digest root).map (fun outcome =>
      (outcome.2.installer.ok, decide (OneInstalled env outcome.1 shown))) = some (true, true)) :
    ∃ after result, installsPackage env digest root = some (after, result) ∧
      result.installer.ok = true ∧ OneInstalled env after shown := by
  obtain ⟨⟨after, result⟩, hinstall, houtcome⟩ := Option.map_eq_some_iff.mp h
  obtain ⟨hok, hone⟩ := Prod.mk.inj houtcome
  exact ⟨after, result, hinstall, hok, of_decide_eq_true hone⟩

end

theorem demo_registry_delivered :
    ∃ after result document,
      installsPackage installEnvironment firstRelease.packageDigest freshSystem = some (after, result) ∧
      buildDesktopRegistry installEnvironment penPlatform after = some document ∧
      RegistryDelivered installEnvironment penPlatform after document := by
  obtain ⟨after, result, hinstall, -, hone⟩ := installsPackage_run
    (by decide +kernel : (installsPackage installEnvironment firstRelease.packageDigest freshSystem).map
      (fun outcome => (outcome.2.installer.ok,
        decide (OneInstalled installEnvironment outcome.1 true))) = some (true, true))
  obtain ⟨document, hbuilt, hdelivered⟩ := (desktop_registry_delivered_iff installEnvironment penPlatform
    after penPlatform_intact hone.measurable).mpr hone.fits
  exact ⟨after, result, document, hinstall, hbuilt, hdelivered⟩

def brokenRelease : SignedRelease where
  counter := 1
  epoch := 1
  unsignedDigest := bigEndian 64
    0xc3224dbbb3c91ebdc599fed95e09a6a16f48620d36be3a8e7c0015958dfd76f3cddb79a9c57a6fd9cb2bb4ee1304348303467e0e6960f9fe5c21a1d6e2fbe416
  signature := bigEndian 64
    0x35eb55f1208e5ab7a03fc547ab328519523e881f07ed7c48cdedd8df65aa030661e55c918dc50ea4c8c9b449e15a5856d9cf36328093c8245892f829b269ec0d
  packageDigest := bigEndian 64
    0x500d0104e303cb59d245b8b98573e5d6340e1e263b4e1bb01a52e2c561f4f42590e67545bf546baa88418f21ad307c5f88ddced373b0e917c0ffbadf4480ff84

def brokenPackage : Package :=
  { brokenRelease.package with manifest := { brokenRelease.package.manifest with name := text "De\nmo" } }

def brokenState : ApplicationReleaseState :=
  nextState brokenPackage.verification brokenRelease.packageDigest none

def brokenEnvironment : Environment :=
  { installEnvironment with
    crypto := {
      sha256 := fun bytes =>
        if bytes = (releaseFields brokenState).flatten then
          some (bigEndian 32 0x5be2739d6f866c23860bda71dde8554c54032d60d7fa184ebfa7f75860c5e386)
        else installCrypto.sha256 bytes
      sha512 := fun bytes =>
        if bytes = brokenPackage.unsigned then some brokenRelease.unsignedDigest
        else if bytes = brokenPackage.bytes then some brokenRelease.packageDigest
        else installCrypto.sha512 bytes
      verifyEd25519 := fun key message signature =>
        installCrypto.verifyEd25519 key message signature || key = officialKey &&
          message = signatureDomain ++ brokenRelease.unsignedDigest.toList &&
            signature = brokenRelease.signature } }

def brokenInbox : Node := freshSystem.update applicationInboxRoot fun _ =>
  privateDirectory [(text "demo.lvapp", .file { mode := 0o600 } brokenPackage.bytes)]

/-- An application that was installed officially keeps the desktop from starting. -/
theorem unprintable_name_rejects_registry :
    ¬ ∀ (env : Environment) (platform : ActiveRelease) (root : Node), platform.Intact →
      OfficiallyInstalled env platform.profile root → Measurable env platform root →
      verifiedIds env platform root = enumeratedIds root →
      ∃ document, buildDesktopRegistry env platform root = some document ∧
        RegistryDelivered env platform root document := by
  intro hdelivered
  obtain ⟨after, result, hinstall, hok, hone⟩ := installsPackage_run
    (by decide +kernel : (installsPackage brokenEnvironment brokenRelease.packageDigest brokenInbox).map
      (fun outcome => (outcome.2.installer.ok,
        decide (OneInstalled brokenEnvironment outcome.1 false))) = some (true, true))
  have hofficial : OfficiallyInstalled brokenEnvironment penPlatform.profile after :=
    ⟨freshSystem, by decide,
      (Relation.ReflTransGen.single (.place _)).tail (.install hinstall hok)⟩
  obtain ⟨applications, hlisted, hlist⟩ := buildDesktopRegistry_listed penPlatform_intact hone.measurable
  obtain ⟨document, hbuilt, hdocument⟩ := hdelivered brokenEnvironment penPlatform after
    penPlatform_intact hofficial hone.measurable (hone.verified.trans hone.enumerated.symm)
  obtain rfl := Option.some.inj (hlist.symm.trans hbuilt)
  obtain ⟨application, hverified, hname⟩ := hone.found
  have hprintable := (hlisted.fits hdocument.accepted).named (text "org.pen.demo")
    (by rw [hone.enumerated]; exact List.mem_singleton_self _) application hverified
  rw [hprintable] at hname
  cases hname

end LvglPlatform

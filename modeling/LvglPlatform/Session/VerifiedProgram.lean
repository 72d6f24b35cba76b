import LvglPlatform.Session.Foreground
import LvglPlatform.Session.InstalledSnapshots

namespace LvglPlatform

open Foundation

def applicationUid (appId : Bytes) : ℕ :=
  let hash := appId.foldl (fun (hash : UInt32) character =>
    (hash ^^^ UInt32.ofNat character.toNat) * 16777619) 2166136261
  100000 + hash.toNat % 900000000

def builtInApplications : List Bytes :=
  [text "top.lvgl.platform", text "top.lvgl.desktop", text "top.lvgl.installer", text "top.lvgl.game2048"]

def applicationUidIsUnique (installed : List Bytes) (appId : Bytes) : Bool :=
  (builtInApplications ++ installed).all fun candidate =>
    candidate = appId || applicationUid candidate ≠ applicationUid appId

structure ProgramPolicy where
  limits : ApplicationResourceLimits := {}
  privateStorage : Bool := false
  uid : ℕ := 0
  gid : ℕ := 0
  deriving DecidableEq

inductive ProgramSource
  | installed (release : UInt64)
  | builtIn
  deriving DecidableEq

structure VerifiedProgram where
  source : ProgramSource
  executable : Bytes
  policy : ProgramPolicy
  deriving DecidableEq

/-- The platform release that the session itself was started from. -/
structure VerifiedRelease where
  directory : Node
  verification : PackageVerification

def listedExecutable (release : Node) (manifest : VerifiedPackageManifest) (path : Bytes) :
    Option Bytes :=
  match manifest.files.find? fun file => file.path = path with
  | none => none
  | some file =>
    if file.role = text "executable" ∧ file.mode = 0o755 then
      trustedRegular (openReleaseFile release path) 0o755 file.size
    else none

/-- The outer `none` is a measurement whose behaviour is undefined. -/
def openInstalledProgram (env : Environment) (profile : CertifiedSessionProfile) (root : Node)
    (policy : ProgramPolicy) (appId : Bytes) : Option (Option VerifiedProgram) :=
  if reservedApplicationId appId then some none
  else (verifyInstalledApplication env root appId profile).map fun application =>
    application.bind fun application =>
      let manifest := application.verification.manifest
      (listedExecutable application.release manifest manifest.entry).map fun executable => {
        source := .installed manifest.releaseCounter
        executable
        policy := { policy with
          limits := manifest.limits
          privateStorage := manifest.capabilities.contains (text "storage.private") } }

def openBuiltInProgram (platform : VerifiedRelease) (policy : ProgramPolicy) (appId : Bytes) :
    Option VerifiedProgram :=
  match builtInProgramPath appId with
  | none => none
  | some path =>
    (listedExecutable platform.directory platform.verification.manifest path).map fun executable => {
      source := .builtIn
      executable
      policy := { policy with
        limits := platform.verification.manifest.limits
        privateStorage := appId = text "top.lvgl.game2048" } }

/-- Outside a personal release every application has a user of its own. -/
def openVerifiedProgram (env : Environment) (profile : CertifiedSessionProfile)
    (platform : VerifiedRelease) (personalUnbound enumerates : Bool) (root : Node) (appId : Bytes) :
    Option (Option VerifiedProgram) :=
  let installed := if enumerates then (installedApplicationIds root).getD [] else []
  if !personalUnbound && !applicationUidIsUnique installed appId then some none
  else
    let uid := if personalUnbound then 0 else applicationUid appId
    let policy : ProgramPolicy := { uid, gid := uid }
    (openInstalledProgram env profile root policy appId).map fun program =>
      program.or (openBuiltInProgram platform policy appId)

/-- The state that a rollback after a failure writes, if the application can be rolled back. -/
def failureRollback (env : Environment) (profile : CertifiedSessionProfile) (root : Node)
    (appId : Bytes) : Option (Option ApplicationReleaseState) :=
  if !validSessionAppId appId || reservedApplicationId appId then some none
  else
    let stored := storedReleaseOf env root appId
    let active := stored.selected.state
    if !stored.isLoaded || active.previousRelease = 0 then some none
    else (verifyApplicationRelease env root (previousRecord active appId) profile).map fun previous =>
      previous.bind fun _ => rollbackFailedRelease active

def rollbackApplicationAfterFailure (env : Environment) (profile : CertifiedSessionProfile)
    (randoms : SlotRandoms) (root : Node) (appId : Bytes) : Option (Node × Option Bytes) :=
  (failureRollback env profile root appId).map fun rolledBack =>
    match rolledBack with
    | none => (root, none)
    | some state =>
      let (policy, persisted) := persistReleaseStateTo env.euid randoms
        (root.lookup applicationPolicyRoot) state env.crypto
      (replaceStore root applicationPolicyRoot policy,
        if !persisted.ok then none
        else if persisted.status = .writtenDegraded then
          some (text "应用失败版本已隔离并回滚；策略冗余需要修复")
        else some (text "应用失败版本已隔离并安全回滚到上一版本"))

section

variable {env : Environment} {profile : CertifiedSessionProfile} {platform : VerifiedRelease}
  {personalUnbound enumerates : Bool} {root : Node} {appId : Bytes} {program : VerifiedProgram}

lemma openVerifiedProgram_installed {release : UInt64}
    (h : openVerifiedProgram env profile platform personalUnbound enumerates root appId =
      some (some program)) (hsource : program.source = .installed release) :
    (storedReleaseOf env root appId).selected.state.currentRelease = release := by
  rw [openVerifiedProgram] at h
  generalize (if enumerates then (installedApplicationIds root).getD [] else []) = installed at h
  dsimp only at h
  split at h
  · cases Option.some.inj h
  obtain ⟨opened, hopened, h⟩ := Option.map_eq_some_iff.mp h
  cases opened with
  | none =>
    rw [Option.none_or, openBuiltInProgram] at h
    split at h
    · cases h
    · obtain ⟨executable, -, rfl⟩ := Option.map_eq_some_iff.mp h
      cases hsource
  | some opened =>
    obtain rfl := Option.some.inj h
    rw [openInstalledProgram] at hopened
    split at hopened
    · cases Option.some.inj hopened
    obtain ⟨found, hfound, hopened⟩ := Option.map_eq_some_iff.mp hopened
    obtain ⟨application, rfl, hopened⟩ := Option.bind_eq_some_iff.mp hopened
    obtain ⟨executable, -, rfl⟩ := Option.map_eq_some_iff.mp hopened
    cases hsource
    rw [verifyInstalledApplication] at hfound
    split at hfound
    · cases Option.some.inj hfound
    dsimp only at hfound
    split at hfound
    · cases Option.some.inj hfound
    have hmeasured := (verifyApplicationRelease_iff.mp hfound).measured
    exact (measureRelease_iff.mp hmeasured).2.2.2.1.symm

end

end LvglPlatform

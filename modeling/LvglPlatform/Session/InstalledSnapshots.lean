import LvglPlatform.Ipc.InstallerProtocol
import LvglPlatform.Session.ApplicationRemoval

namespace LvglPlatform

open Foundation

def maximumRegistryApplications : ℕ := 64

def installedApplicationIds (root : Node) : Option (List Bytes) :=
  match openAbsoluteDirectory root applicationStore with
  | none => none
  | some store =>
    match store.openDirectory (text "apps") with
    | .missing => some []
    | .refused => none
    | .directory applications =>
      if !trustedDirectory applications then none
      else
        let ids := (applications.entries.filter fun entry =>
          validSessionAppId entry.1 && !reservedApplicationId entry.1 && trustedDirectory entry.2).map
            Prod.fst
        if ids.length > maximumRegistryApplications then none else some (sortUnique id byteLe ids)

structure InstalledApplicationSnapshot where
  publicValue : InstalledApplicationCandidate
  state : ApplicationReleaseState := {}
  stateLoaded : Bool := false
  deriving DecidableEq

def line (field : Bytes) : Bytes := field ++ [chr '\n']

def stateMaterial : Option ApplicationReleaseState → Bytes
  | some state =>
    line (decimal state.generation.toNat) ++ line (decimal state.currentRelease.toNat) ++
      line (decimal state.previousRelease.toNat) ++ line (decimal state.highRelease.toNat) ++
      line (decimal state.quarantinedRelease.toNat) ++ line (decimal state.highSecurityEpoch.toNat) ++
      line (decimal state.consecutiveLaunchFailures.toNat) ++ line state.signingKeyId ++
      state.currentDigest.toList ++ state.previousDigest.toList ++ state.highDigest.toList
  | none => text "untrusted-policy"

/-- What the token of a snapshot is the digest of. -/
def snapshotMaterial (appId : Bytes) (directory : Stat) (state : Option ApplicationReleaseState) :
    Bytes :=
  line (text "LVGL-INSTALLED-SNAPSHOT-v1") ++ line appId ++ line (decimal directory.device) ++
    line (decimal directory.inode) ++ line (signedDecimal directory.changed) ++ stateMaterial state

def installedSnapshotToken (appId : Bytes) (directory : Stat) (state : Option ApplicationReleaseState)
    (crypto : CryptoProvider) : Option Bytes :=
  (crypto.sha512 (snapshotMaterial appId directory state)).map hexDigest

def previousRecord (state : ApplicationReleaseState) (appId : Bytes) : ReleaseRecord where
  appId
  counter := state.previousRelease
  digest := state.previousDigest
  signingKeyId := state.signingKeyId

def snapshotState (env : Environment) (root : Node) (appId : Bytes) : Option ApplicationReleaseState :=
  let stored := storedReleaseOf env root appId
  if stored.isLoaded then some stored.selected.state else none

/-- What is shown of an application with a trusted state, from its releases that verify. -/
def trustedSnapshot (stored : StateStoreResult) (appId token : Bytes)
    (current previous : Option VerifiedApplication) : InstalledApplicationSnapshot :=
  let state := stored.selected.state
  let shown : InstalledApplicationCandidate := {
    token, appId
    policyTrusted := true
    currentRelease := state.currentRelease
    previousRelease := state.previousRelease
    rollbackAvailable := previous.isSome }
  { state
    stateLoaded := true
    publicValue := match current with
      | some application => { shown with
          name := application.verification.manifest.name
          version := application.verification.manifest.version
          securityEpoch := application.verification.manifest.securityEpoch
          currentVerified := true
          detail := if stored.status = .loadedDegraded then text "INSTALLED_VERIFIED_POLICY_DEGRADED"
            else text "INSTALLED_VERIFIED" }
      | none => { shown with
          name := appId
          version := text "release-" ++ decimal state.currentRelease.toNat
          securityEpoch := state.highSecurityEpoch
          detail := text "INSTALLED_CURRENT_UNTRUSTED" } }

/-- The outer `none` is a snapshot whose behaviour is undefined, the inner one has no token. -/
def installedSnapshot (env : Environment) (root : Node) (profile : CertifiedSessionProfile)
    (appId : Bytes) (directory : Stat) : Option (Option InstalledApplicationSnapshot) :=
  let stored := storedReleaseOf env root appId
  if stored.isLoaded then do
    let state := stored.selected.state
    let current ← verifyApplicationRelease env root (currentRecord state appId) profile
    let previous ← (if state.previousRelease ≠ 0 then
      verifyApplicationRelease env root (previousRecord state appId) profile
      else some none)
    some ((installedSnapshotToken appId directory (some state) env.crypto).map fun token =>
      trustedSnapshot stored appId token current previous)
  else
    some ((installedSnapshotToken appId directory none env.crypto).map fun token => {
      publicValue := {
        token, appId
        name := appId
        version := text "unknown"
        detail := text "INSTALLED_POLICY_UNTRUSTED" } })

def snapshotsOf (env : Environment) (root : Node) (profile : CertifiedSessionProfile)
    (applications : Node) : List Bytes → Option (List InstalledApplicationSnapshot)
  | [] => some []
  | appId :: rest => do
    let snapshots ← snapshotsOf env root profile applications rest
    match applications.openDirectory appId with
    | .directory application =>
      if !trustedDirectory application then some snapshots
      else
        let snapshot ← installedSnapshot env root profile appId application.stat
        some (snapshot.toList ++ snapshots)
    | _ => some snapshots

/-- The outer `none` is undefined behaviour, the inner one a list that cannot be relied on. -/
def installedApplicationSnapshots (env : Environment) (root : Node)
    (profile : CertifiedSessionProfile) : Option (Option (List InstalledApplicationSnapshot)) :=
  match openAbsoluteDirectory root applicationStore with
  | none => some none
  | some store =>
    match store.openDirectory (text "apps") with
    | .missing => some (some [])
    | .refused => some none
    | .directory applications =>
      if !trustedDirectory applications then some none
      else match installedApplicationIds root with
        | none => some none
        | some ids => (snapshotsOf env root profile applications ids).map fun snapshots =>
            some (sortBy (fun snapshot => snapshot.publicValue.appId) byteLe snapshots)

end LvglPlatform

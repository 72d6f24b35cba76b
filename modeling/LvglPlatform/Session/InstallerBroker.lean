import LvglPlatform.Session.InstalledSnapshots

namespace LvglPlatform

open Foundation

/-- What the calls of one request give: whether the audit line is written, the tombstone's random
bytes, and whether the renaming and the synchronisation after it succeed. -/
structure BrokerCalls where
  randoms : InstallRandoms
  order : ReadOrder
  audits : Bool
  suffix : Option (ByteArr 12)
  renames : Bool
  syncs : Bool

def removeInstalledApplication (env : Environment) (calls : BrokerCalls) (root : Node)
    (snapshot : InstalledApplicationSnapshot) : Node × Option Bytes :=
  let appId := snapshot.publicValue.appId
  let state := if snapshot.stateLoaded then some snapshot.state else none
  match openAbsoluteDirectory root (applicationStore ++ text "/apps") with
  | none => (root, none)
  | some applications =>
    match applications.openDirectory appId with
    | .directory application =>
      if !trustedDirectory application ||
          installedSnapshotToken appId application.stat state env.crypto ≠
            some snapshot.publicValue.token || !calls.audits then (root, none)
      else match calls.suffix with
        | none => (root, none)
        | some random =>
          let tombstone := removedPrefix ++ hexText random.toList
          if (applications.child tombstone).isSome || !calls.renames then (root, none)
          else
            let others := applications.entries.filter fun entry => entry.1 ≠ appId
            let left (entries : List (Bytes × Node)) : Node :=
              root.update applicationsPath fun _ => .directory applications.stat entries
            if !calls.syncs then (left (others ++ [(tombstone, application)]), none)
            else match removeApplicationContents calls.order application.stat.device 0 0
                application.entries with
              | ⟨none, _, _⟩ =>
                (left others, some (text "APPLICATION_PAYLOAD_REMOVED_POLICY_DATA_RETAINED"))
              | ⟨some _, _, entries⟩ =>
                (left (others ++ [(tombstone, .directory application.stat entries)]),
                  some (text "APPLICATION_REMOVED_CLEANUP_DEFERRED"))
    | _ => (root, none)

/-- The stored state is still the one of the snapshot, in the fields a rollback goes by. -/
def rollbackMatches (stored : StateStoreResult) (snapshot : InstalledApplicationSnapshot) : Bool :=
  let state := stored.selected.state
  stored.isLoaded && state.generation = snapshot.state.generation &&
    state.currentRelease = snapshot.state.currentRelease &&
    state.previousRelease = snapshot.state.previousRelease &&
    state.currentDigest = snapshot.state.currentDigest &&
    state.previousDigest = snapshot.state.previousDigest &&
    state.signingKeyId = snapshot.state.signingKeyId

/-- `none` is a rollback whose behaviour is undefined. -/
def rollbackInstalledApplication (env : Environment) (profile : CertifiedSessionProfile)
    (calls : BrokerCalls) (root : Node) (snapshot : InstalledApplicationSnapshot) :
    Option (Node × Option Bytes) :=
  let appId := snapshot.publicValue.appId
  let stored := storedReleaseOf env root appId
  if !snapshot.stateLoaded || snapshot.state.previousRelease = 0 || !rollbackMatches stored snapshot then
    some (root, none)
  else do
    let active := stored.selected.state
    let previous ← verifyApplicationRelease env root (previousRecord active appId) profile
    match previous, rollbackRelease active false with
    | some _, some rolledBack =>
      if !calls.audits then some (root, none)
      else
        let (policy, persisted) := persistReleaseStateTo env.euid calls.randoms.slots
          (root.lookup applicationPolicyRoot) rolledBack env.crypto
        some (replaceStore root applicationPolicyRoot policy,
          if !persisted.ok then none
          else if persisted.status = .writtenDegraded then
            some (text "APPLICATION_ROLLED_BACK_POLICY_DEGRADED")
          else some (text "APPLICATION_ROLLED_BACK_CURRENT_QUARANTINED"))
    | _, _ => some (root, none)

def installerStatus : InboxStatus → InstallerProtocolStatus
  | .ready => .ready
  | .empty => .empty
  | .invalidToken => .invalidRequest
  | .candidateNotFound => .notFound
  | .candidateRejected => .rejected
  | .rootUntrusted => .unavailable
  | .ioError => .ioError
  | .unsupportedPlatform => .unavailable

/-- An installation is held to what a launch is. -/
abbrev installerPolicy (profile : CertifiedSessionProfile) : InstallPolicyContext :=
  launchContext profile

def inboxResponse (request : InstallerRequest) (scan : InboxScanResult) : InstallerResponse :=
  let response : InstallerResponse := {
    command := request.command
    requestId := request.requestId
    status := installerStatus scan.status
    detail := scan.detail }
  if request.command = .scan then
    if scan.status = .ready then { response with count := UInt32.ofNat scan.candidates.length }
    else response
  else match if scan.status = .ready then scan.candidates[request.index.toNat]? else none with
    | some candidate => { response with status := .ready, detail := candidate.detail, candidate }
    | none => { response with status := .notFound, detail := text "INBOX_CANDIDATE_NOT_FOUND" }

def mutateInstalled (env : Environment) (profile : CertifiedSessionProfile) (calls : BrokerCalls)
    (root : Node) (request : InstallerRequest) (installed : List InstalledApplicationSnapshot) :
    Option (InstallerResponse × Node) :=
  let response : InstallerResponse := { command := request.command, requestId := request.requestId }
  match installed.find? fun snapshot => snapshot.publicValue.token = request.token with
  | none =>
    some ({ response with status := .notFound, detail := text "INSTALLED_SNAPSHOT_STALE" }, root)
  | some selected =>
    if request.command = .rollback then
      if !selected.publicValue.rollbackAvailable then
        some ({ response with
          status := .rejected, detail := text "APPLICATION_TRUSTED_ROLLBACK_UNAVAILABLE" }, root)
      else (rollbackInstalledApplication env profile calls root selected).map fun (root, completed) =>
        match completed with
        | some detail => ({ response with status := .ready, detail }, root)
        | none => ({ response with
            status := .ioError, detail := text "APPLICATION_ROLLBACK_FAILED_CLOSED" }, root)
    else
      let (root, completed) := removeInstalledApplication env calls root selected
      match completed with
      | some detail => some ({ response with status := .ready, detail }, root)
      | none => some ({ response with
          status := .ioError, detail := text "APPLICATION_REMOVE_FAILED_CLOSED" }, root)

def installedResponse (env : Environment) (profile : CertifiedSessionProfile) (calls : BrokerCalls)
    (root : Node) (request : InstallerRequest)
    (snapshots : Option (List InstalledApplicationSnapshot)) : Option (InstallerResponse × Node) :=
  let response : InstallerResponse := { command := request.command, requestId := request.requestId }
  match snapshots with
  | none =>
    some ({ response with status := .unavailable, detail := text "INSTALLED_ROOT_UNTRUSTED" }, root)
  | some installed =>
    match request.command with
    | .installedScan => some ({ response with
        status := if installed.isEmpty then .empty else .ready
        detail := if installed.isEmpty then text "INSTALLED_EMPTY" else text "INSTALLED_READY"
        count := UInt32.ofNat installed.length }, root)
    | .installedCandidate =>
      match installed[request.index.toNat]? with
      | some snapshot => some ({ response with
          status := .ready, detail := snapshot.publicValue.detail,
          installed := snapshot.publicValue }, root)
      | none => some ({ response with
          status := .notFound, detail := text "INSTALLED_CANDIDATE_NOT_FOUND" }, root)
    | _ => mutateInstalled env profile calls root request installed

def handleInstalledRequest (env : Environment) (profile : CertifiedSessionProfile)
    (calls : BrokerCalls) (root : Node) (request : InstallerRequest) :
    Option (InstallerResponse × Node) :=
  match cleanupApplicationTombstones calls.order root with
  | (some _, root) => some ({
      command := request.command
      requestId := request.requestId
      status := .ioError
      detail := text "APPLICATION_REMOVAL_RECOVERY_FAILED_CLOSED" }, root)
  | (none, root) => do
    let snapshots ← installedApplicationSnapshots env root profile
    installedResponse env profile calls root request snapshots

/-- The answer to a request, unless its behaviour is undefined, and the system after it. -/
def handleInstallerRequest (env : Environment) (profile : CertifiedSessionProfile)
    (calls : BrokerCalls) (root : Node) (request : InstallerRequest) :
    Option (InstallerResponse × Node) :=
  let response : InstallerResponse := { command := request.command, requestId := request.requestId }
  let (root, prepared) := prepareApplicationStorage env.euid root
  if prepared ≠ .ready then
    some ({ response with
      status := installerStatus prepared, detail := text "INSTALLER_STORAGE_UNAVAILABLE" }, root)
  else match request.command with
    | .install =>
      (installOfficialInboxCandidate env calls.randoms root request.token
        (installerPolicy profile)).map fun (root, result) =>
          ({ response with status := installerStatus result.status, detail := result.detail }, root)
    | .scan | .candidate =>
      (scanOfficialInbox env root (installerPolicy profile)).map fun scan =>
        (inboxResponse request scan, root)
    | .installedScan | .installedCandidate | .rollback | .remove =>
      handleInstalledRequest env profile calls root request

end LvglPlatform

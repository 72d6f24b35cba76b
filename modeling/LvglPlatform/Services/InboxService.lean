import LvglPlatform.Foundation.SortUnique
import LvglPlatform.Package.InstallPolicy
import LvglPlatform.Storage.StoreDirectory

namespace LvglPlatform

open Foundation

inductive InboxStatus
  | ready
  | empty
  | invalidToken
  | candidateNotFound
  | candidateRejected
  | rootUntrusted
  | ioError
  | unsupportedPlatform
  deriving DecidableEq, Repr

structure InboxCandidate where
  token : Bytes := []
  appId : Bytes := []
  name : Bytes := []
  version : Bytes := []
  detail : Bytes := []
  releaseCounter : UInt64 := 0
  securityEpoch : UInt32 := 0
  packageSize : UInt64 := 0
  installable : Bool := false
  deriving DecidableEq

structure InboxScanResult where
  status : InboxStatus := .rootUntrusted
  detail : Bytes := []
  candidates : List InboxCandidate := []
  deriving DecidableEq

/-- What the privileged services run with: their effective user, the compiled key, the provider. -/
structure Environment where
  euid : ℕ
  trust : OfficialTrustStore
  crypto : CryptoProvider

def appsPath : Path := [text "userdisk", text "apps"]

def applicationPayloadRoot : Path := appsPath ++ [text "lvgl-apps"]

def applicationPolicyRoot : Path := appsPath ++ [text "lvgl-app-policy"]

def applicationInboxRoot : Path := appsPath ++ [text "lvgl-inbox"]

def maximumInboxPackage : ℕ := maximumPackageSize + signatureSize

def maximumInboxEntries : ℕ := 128

def hexDigest (digest : Sha512Digest) : Bytes := hexText digest.toList

def byteLe (a b : Bytes) : Bool := a ≤ b

def trustedDirectory (node : Node) : Bool := node.trusted 0

/-- `mkdirat` and opening: the parent afterwards, and whether the directory can be trusted. -/
def ensureDirectory (euid : ℕ) (parent : Node) (name : Bytes) : Node × Bool :=
  let parent := match parent.child name with
    | none => parent.put name (.directory { uid := euid, mode := 0o700 } [])
    | some _ => parent
  match parent.openDirectory name with
  | .directory node => (parent, trustedDirectory node)
  | _ => (parent, false)

def prepareApplicationStorage (euid : ℕ) (root : Node) : Node × InboxStatus :=
  match root.openTrusted 0 appsPath with
  | none => (root, .rootUntrusted)
  | some apps =>
    let (apps, payload) := ensureDirectory euid apps (text "lvgl-apps")
    let (apps, policy) := ensureDirectory euid apps (text "lvgl-app-policy")
    let (apps, inbox) := ensureDirectory euid apps (text "lvgl-inbox")
    (root.update appsPath fun _ => apps,
      if payload && policy && inbox then .ready else .ioError)

def readCandidate (inbox : Node) (name : Bytes) : Option Bytes :=
  match inbox.child name with
  | some (.file stat content) =>
    if stat.uid = 0 ∧ stat.links = 1 ∧ stat.mode &&& 0o022 = 0 ∧ 0 < content.length ∧
        content.length ≤ maximumInboxPackage then some content
    else none
  | _ => none

structure InboxPackage where
  bytes : Bytes
  digest : Sha512Digest

def inboxPackages (crypto : CryptoProvider) (inbox : Node) : List InboxPackage :=
  let names := sortBy id byteLe (inbox.entries.map Prod.fst)
  names.filterMap fun name => do
    let bytes ← readCandidate inbox name
    let digest ← crypto.sha512 bytes
    some { bytes, digest }

def highWaterMark (state : ApplicationReleaseState) : ApplicationHighWaterMark where
  appId := state.appId
  signingKeyId := state.signingKeyId
  releaseCounter := state.highRelease
  securityEpoch := state.highSecurityEpoch
  packageDigest := state.highDigest

def candidateDecision (env : Environment) (root : Node) (context : InstallPolicyContext)
    (verification : PackageVerification) (digest : Sha512Digest) : Bytes × Bool :=
  if reservedApplicationId verification.manifest.appId then
    (text "INBOX_RESERVED_APPLICATION_ID", false)
  else
    let state := loadReleaseStateFrom env.euid (root.lookup applicationPolicyRoot)
      verification.manifest.appId env.crypto
    if !state.isLoaded ∧ state.status ≠ .notFound ∧ state.status ≠ .uninitialized then
      (text "INBOX_ANTI_ROLLBACK_STATE_UNAVAILABLE", false)
    else
      let highWater := if state.isLoaded then some (highWaterMark state.selected.state) else none
      let policy := evaluateInstallPolicy verification digest context highWater
      (policy.detail, policy.allowed)

structure RawCandidate where
  publicValue : InboxCandidate
  bytes : Bytes
  verification : PackageVerification
  digest : Sha512Digest
  deriving DecidableEq

def rawCandidate (env : Environment) (root : Node) (context : InstallPolicyContext)
    (package : InboxPackage) (verification : PackageVerification) : RawCandidate :=
  let unverified : InboxCandidate := {
    token := hexDigest package.digest
    packageSize := UInt64.ofNat package.bytes.length
    detail := verification.detail }
  let publicValue :=
    if verification.ok then
      let manifest := verification.manifest
      let decision := candidateDecision env root context verification package.digest
      { unverified with
        appId := manifest.appId
        name := manifest.name
        version := manifest.version
        releaseCounter := manifest.releaseCounter
        securityEpoch := manifest.securityEpoch
        detail := decision.1
        installable := decision.2 }
    else unverified
  { publicValue, bytes := package.bytes, verification, digest := package.digest }

/-- The verification of a package, unless the verifier leaves its buffer. -/
def InboxPackage.verification (env : Environment) (package : InboxPackage) :
    Option PackageVerification := (env.trust.verify package.bytes env.crypto).answer

def verifyCandidates (env : Environment) (root : Node) (context : InstallPolicyContext) :
    List InboxPackage → Option (List RawCandidate)
  | [] => some []
  | package :: packages => do
    let verification ← package.verification env
    let candidates ← verifyCandidates env root context packages
    some (rawCandidate env root context package verification :: candidates)

/-- `none` is a scan whose behaviour is undefined. -/
def rawCandidates (env : Environment) (root : Node) (context : InstallPolicyContext) :
    Option (InboxStatus × List RawCandidate) :=
  match root.openTrusted 0 applicationInboxRoot with
  | none => some (.rootUntrusted, [])
  | some inbox =>
    if inbox.entries.length > maximumInboxEntries then some (.ioError, [])
    else do
      let candidates ← verifyCandidates env root context (inboxPackages env.crypto inbox)
      let output := sortUnique (fun candidate => candidate.publicValue.token) byteLe candidates
      some (if output.isEmpty then .empty else .ready, output)

def scanOfficialInbox (env : Environment) (root : Node) (context : InstallPolicyContext) :
    Option InboxScanResult := do
  let (status, candidates) ← rawCandidates env root context
  if status = .rootUntrusted then
    some { status, detail := text "INBOX_ROOT_UNTRUSTED" }
  else if status ≠ .ready ∧ status ≠ .empty then
    some { status, detail := text "INBOX_SCAN_FAILED" }
  else some {
    status
    detail := if status = .empty then text "INBOX_EMPTY" else text "INBOX_READY"
    candidates := candidates.map RawCandidate.publicValue }

end LvglPlatform

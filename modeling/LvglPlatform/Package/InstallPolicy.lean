import LvglPlatform.Foundation.Fields
import LvglPlatform.Package.Accepted

namespace LvglPlatform

open Foundation

inductive InstallPolicyStatus
  | allowed
  | packageNotAuthenticated
  | incompatibleSdk
  | platformTooOld
  | unsupportedProfile
  | unsupportedMachine
  | capabilityDenied
  | applicationIdMismatch
  | signerChanged
  | securityEpochRollback
  | releaseCounterRollback
  | releaseCounterCollision
  | invalidPolicyInput
  deriving DecidableEq, Repr

structure InstallPolicyContext where
  platformVersion : Bytes
  sdkAbi : Bytes
  profileId : Bytes
  machine : Bytes
  allowedCapabilities : List Bytes

structure ApplicationHighWaterMark where
  appId : Bytes
  signingKeyId : Bytes
  releaseCounter : UInt64
  securityEpoch : UInt32
  packageDigest : Sha512Digest

structure InstallPolicyDecision where
  status : InstallPolicyStatus := .invalidPolicyInput
  detail : Bytes := []
  deriving DecidableEq

def InstallPolicyDecision.allowed (decision : InstallPolicyDecision) : Bool :=
  decision.status = .allowed

def decision (status : InstallPolicyStatus) (detail : String) : InstallPolicyDecision :=
  { status, detail := text detail }

def versionNumber : UInt64 → Bytes → Option UInt64
  | number, [] => some number
  | number, character :: component =>
    if character < chr '0' ∨ character > chr '9' then none
    else
      let digit : UInt32 := (character - chr '0').toUInt32
      if number > ((4294967295 - digit) / 10).toUInt64 then none
      else versionNumber (number * 10 + digit.toUInt64) component

/-- The rounds of the loop of `parse_version` for the parts that are left. -/
def versionComponents (value : Bytes) : List ℕ → ℕ → Vector UInt32 3 → Bool × Vector UInt32 3
  | [], start, output => (start = value.length, output)
  | part :: parts, start, output =>
    let stop := findFrom (chr '.') value start
    if part < 2 ∧ stop = none ∨ part = 2 ∧ stop ≠ none then (false, output)
    else
      let component := slice value start (stop.getD value.length - start)
      if component = [] then (false, output)
      else match versionNumber 0 component with
        | none => (false, output)
        | some number =>
          versionComponents value parts ((stop.map (· + 1)).getD value.length)
            (output.setIfInBounds part number.toUInt32)

def parseVersion (value : Bytes) (output : Vector UInt32 3) : Bool × Vector UInt32 3 :=
  versionComponents value (List.range 3) 0 output

def versionAtLeast (actual minimum : Bytes) : Bool :=
  let actualParts := parseVersion actual (.replicate 3 0)
  let minimumParts := parseVersion minimum (.replicate 3 0)
  actualParts.1 && minimumParts.1 && minimumParts.2.toList ≤ actualParts.2.toList

def highWaterDecision (candidate : PackageVerification) (digest : Sha512Digest)
    (installed : ApplicationHighWaterMark) : InstallPolicyDecision :=
  let manifest := candidate.manifest
  if installed.appId ≠ manifest.appId then
    decision .applicationIdMismatch "POLICY_APPLICATION_ID_MISMATCH"
  else if installed.signingKeyId ≠ manifest.signingKeyId then
    decision .signerChanged "POLICY_SIGNER_CHANGED"
  else if manifest.securityEpoch < installed.securityEpoch then
    decision .securityEpochRollback "POLICY_SECURITY_EPOCH_ROLLBACK"
  else if manifest.releaseCounter < installed.releaseCounter then
    decision .releaseCounterRollback "POLICY_RELEASE_COUNTER_ROLLBACK"
  else if manifest.releaseCounter = installed.releaseCounter ∧ digest ≠ installed.packageDigest then
    decision .releaseCounterCollision "POLICY_RELEASE_COUNTER_COLLISION"
  else decision .allowed "POLICY_INSTALL_ALLOWED"

def evaluateInstallPolicy (candidate : PackageVerification) (candidatePackageDigest : Sha512Digest)
    (context : InstallPolicyContext) (highWaterMark : Option ApplicationHighWaterMark) :
    InstallPolicyDecision :=
  let manifest := candidate.manifest
  if !candidate.ok || candidate.development || !candidate.signatureVerified then
    decision .packageNotAuthenticated "POLICY_PACKAGE_NOT_AUTHENTICATED"
  else if context.platformVersion = [] ∨ context.sdkAbi = [] ∨ manifest.appId = [] ∨
      manifest.releaseCounter = 0 then
    decision .invalidPolicyInput "POLICY_INPUT_INVALID"
  else if manifest.sdkAbi ≠ context.sdkAbi then
    decision .incompatibleSdk "POLICY_SDK_INCOMPATIBLE"
  else if !versionAtLeast context.platformVersion manifest.minimumPlatformVersion then
    decision .platformTooOld "POLICY_PLATFORM_TOO_OLD"
  else if context.profileId ≠ [] ∧ context.profileId ∉ manifest.supportedProfiles then
    decision .unsupportedProfile "POLICY_PROFILE_UNSUPPORTED"
  else if context.machine ≠ [] ∧ context.machine ∉ manifest.supportedMachines then
    decision .unsupportedMachine "POLICY_MACHINE_UNSUPPORTED"
  else if !manifest.capabilities.all context.allowedCapabilities.contains then
    decision .capabilityDenied "POLICY_CAPABILITY_DENIED"
  else match highWaterMark with
    | none => decision .allowed "POLICY_INSTALL_ALLOWED"
    | some installed => highWaterDecision candidate candidatePackageDigest installed

def advanceHighWaterMark (candidate : PackageVerification) (candidatePackageDigest : Sha512Digest)
    (current : Option ApplicationHighWaterMark) : ApplicationHighWaterMark :=
  let manifest := candidate.manifest
  let advanced : ApplicationHighWaterMark := {
    appId := manifest.appId
    signingKeyId := manifest.signingKeyId
    releaseCounter := manifest.releaseCounter
    securityEpoch := manifest.securityEpoch
    packageDigest := candidatePackageDigest }
  match current with
  | none => advanced
  | some current =>
    if manifest.appId ≠ current.appId ∨ manifest.signingKeyId ≠ current.signingKeyId ∨
        manifest.releaseCounter ≤ current.releaseCounter ∨
        manifest.securityEpoch < current.securityEpoch then current
    else advanced

/-- The official key, unless the compiled text does not decode to one. -/
structure OfficialTrustStore where
  publicKey : Option Ed25519PublicKey

def OfficialTrustStore.verify (trust : OfficialTrustStore) (bytes : Bytes) (crypto : CryptoProvider) :
    Verifying PackageVerification :=
  match trust.publicKey with
  | none => .stopped (failure .signerUntrusted "TRUST_OFFICIAL_KEY_UNCONFIGURED")
  | some key => verifyPackage bytes crypto [{ key, production := true }] false

end LvglPlatform

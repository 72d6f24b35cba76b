import LvglPlatform.Platform.Primitives

namespace LvglPlatform

open Foundation

inductive PackageStatus
  | verified
  | cryptoUnavailable
  | invalidHeader
  | invalidLayout
  | invalidManifest
  | invalidPath
  | invalidEntry
  | contentHashMismatch
  | developmentRejected
  | signerUntrusted
  | signatureInvalid
  deriving DecidableEq, Repr

structure TrustedPublicKey where
  key : Ed25519PublicKey
  production : Bool := false
  deriving DecidableEq

structure VerifiedPackageFile where
  path : Bytes := []
  role : Bytes := []
  mode : ℕ := 0
  size : ℕ := 0
  payloadOffset : ℕ := 0
  sha256 : Sha256Digest := zeroes 32
  deriving DecidableEq

structure ApplicationResourceLimits where
  memoryMib : ℕ := 0
  cpuSeconds : ℕ := 0
  maximumFiles : ℕ := 0
  dataMib : ℕ := 0
  deriving DecidableEq

structure VerifiedPackageManifest where
  appId : Bytes := []
  name : Bytes := []
  version : Bytes := []
  entry : Bytes := []
  sdkAbi : Bytes := []
  minimumPlatformVersion : Bytes := []
  signingKeyId : Bytes := []
  releaseCounter : UInt64 := 0
  securityEpoch : UInt32 := 0
  supportedProfiles : List Bytes := []
  supportedMachines : List Bytes := []
  capabilities : List Bytes := []
  files : List VerifiedPackageFile := []
  limits : ApplicationResourceLimits := {}
  deriving DecidableEq

structure PackageVerification where
  status : PackageStatus := .invalidHeader
  detail : Bytes := []
  development : Bool := false
  signatureVerified : Bool := false
  unsignedSize : ℕ := 0
  payloadStart : ℕ := 0
  manifest : VerifiedPackageManifest := {}
  deriving DecidableEq

def PackageVerification.ok (verification : PackageVerification) : Bool :=
  verification.status = .verified

end LvglPlatform

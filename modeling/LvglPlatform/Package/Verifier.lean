import LvglPlatform.Foundation.Checked
import LvglPlatform.Package.Manifest

namespace LvglPlatform

open Foundation

def failure (status : PackageStatus) (detail : String) : PackageVerification :=
  { status, detail := text detail }

abbrev Verifying (α : Type) := Checked PackageVerification α

structure PackageHeader where
  flags : ℕ
  manifestSize : ℕ
  entryCount : ℕ
  tableSize : ℕ
  payloadSize : ℕ
  unsignedSize : ℕ
  totalSize : ℕ
  tableVersion : ℕ
  reserved : ℕ
  deriving DecidableEq

def PackageHeader.development (header : PackageHeader) : Bool := header.flags = 1

def readHeader (bytes : Bytes) : PackageHeader where
  flags := value (slice bytes 12 4)
  manifestSize := value (slice bytes 16 4)
  entryCount := value (slice bytes 20 4)
  tableSize := value (slice bytes 24 8)
  payloadSize := value (slice bytes 32 8)
  unsignedSize := value (slice bytes 40 8)
  totalSize := value (slice bytes 48 8)
  tableVersion := value (slice bytes 56 4)
  reserved := value (slice bytes 60 4)

def headerSize : ℕ := 64

def signatureSize : ℕ := 96

def packageMagic : Bytes := text "LVAPP001"

def headerOk (bytes : Bytes) : Bool :=
  headerSize ≤ bytes.length && bytes.length ≤ maximumPackageSize + signatureSize &&
    slice bytes 0 8 = packageMagic && value (slice bytes 8 2) = 1 &&
    value (slice bytes 10 2) = headerSize

def checkedAdd (left right : ℕ) : Option ℕ :=
  if right > 2 ^ 64 - 1 - left then none else some (left + right)

/-- Unchecked addition of 64-bit sizes. -/
def wrappingAdd (left right : ℕ) : ℕ := (left + right) % 2 ^ 64

def maximumManifestSize : ℕ := 64 * 1024

def expectedUnsigned (header : PackageHeader) : Option ℕ := do
  let size ← checkedAdd headerSize header.manifestSize
  let size ← checkedAdd size header.tableSize
  checkedAdd size header.payloadSize

def layoutOk (header : PackageHeader) (size : ℕ) : Bool :=
  0 < header.manifestSize && header.manifestSize ≤ maximumManifestSize &&
    0 < header.entryCount && header.entryCount ≤ maximumFiles &&
    header.tableVersion = 1 && header.reserved = 0 &&
    expectedUnsigned header = some header.unsignedSize && header.totalSize = size &&
    header.totalSize =
      wrappingAdd header.unsignedSize (if header.development then 0 else signatureSize)

def checkLayout (bytes : Bytes) (allowDevelopment : Bool) : Verifying PackageHeader := do
  .guard (headerOk bytes) (failure .invalidHeader "PACKAGE_HEADER_INVALID")
  let header := readHeader bytes
  .guard (header.flags = 0 || header.flags = 1) (failure .invalidHeader "PACKAGE_FLAGS_INVALID")
  .guard (!header.development || allowDevelopment)
    { failure .developmentRejected "PACKAGE_DEVELOPMENT_REJECTED" with development := true }
  .guard (layoutOk header bytes.length) (failure .invalidLayout "PACKAGE_LAYOUT_INVALID")
  return header

def JsonValue.isObject : JsonValue → Bool
  | .object _ => true
  | _ => false

def canonicalDocument (region : Bytes) : Option JsonValue :=
  match parseDocument region with
  | none => none
  | some document =>
    if JsonValue.isObject document && canonicalJson document = some region then some document
    else none

def developmentKeyId : Bytes := List.replicate 32 (chr '0')

def readManifest (bytes : Bytes) (header : PackageHeader) : Verifying VerifiedPackageManifest := do
  let region ← .read bytes headerSize header.manifestSize
  match canonicalDocument region with
  | none => .stopped (failure .invalidManifest "PACKAGE_MANIFEST_NON_CANONICAL")
  | some document =>
    match parseManifest document with
    | none => .stopped (failure .invalidManifest "PACKAGE_MANIFEST_INVALID")
    | some manifest =>
      .guard (manifest.files.length = header.entryCount)
        (failure .invalidManifest "PACKAGE_MANIFEST_FILE_COUNT_MISMATCH")
      .guard (!header.development || manifest.signingKeyId = developmentKeyId)
        (failure .invalidManifest "PACKAGE_DEVELOPMENT_KEY_ID_INVALID")
      .guard (header.development || manifest.signingKeyId ≠ developmentKeyId)
        (failure .invalidManifest "PACKAGE_SIGNING_KEY_ID_INVALID")
      return manifest

/-- Where the table loop stands: the next table byte, the next payload byte, the last path. -/
structure TableState where
  cursor : ℕ
  expectedOffset : ℕ
  previous : Bytes
  deriving DecidableEq

def recordSize : ℕ := 56

def checkEntry (bytes : Bytes) (header : PackageHeader) (payloadStart : ℕ) (crypto : CryptoProvider)
    (state : TableState) (file : VerifiedPackageFile) :
    Verifying (VerifiedPackageFile × TableState) := do
  .guard (state.cursor ≤ payloadStart && recordSize ≤ payloadStart - state.cursor)
    (failure .invalidEntry "PACKAGE_TABLE_TRUNCATED")
  let record ← .read bytes state.cursor recordSize
  let pathSize := value (slice record 0 2)
  let mode := value (slice record 2 2)
  let entryFlags := value (slice record 4 4)
  let fileSize := value (slice record 8 8)
  let offset := value (slice record 16 8)
  let cursor := wrappingAdd state.cursor recordSize
  .guard (pathSize ≠ 0 && pathSize ≤ maximumPathSize && cursor ≤ payloadStart &&
      pathSize ≤ payloadStart - cursor && entryFlags = 0 && (mode = 0o644 || mode = 0o755) &&
      offset = state.expectedOffset && offset ≤ header.payloadSize &&
      fileSize ≤ header.payloadSize - offset)
    (failure .invalidEntry "PACKAGE_ENTRY_INVALID")
  let path ← .read bytes cursor pathSize
  .guard (validPath path) (failure .invalidPath "PACKAGE_PATH_INVALID")
  .guard (state.previous = [] || state.previous < path)
    (failure .invalidEntry "PACKAGE_ENTRY_ORDER_INVALID")
  .guard (file.path = path && file.mode = mode && file.size = fileSize &&
      file.sha256.toList = slice record 24 32)
    (failure .invalidEntry "PACKAGE_MANIFEST_TABLE_MISMATCH")
  let content ← .read bytes (wrappingAdd payloadStart offset) fileSize
  match crypto.sha256 content with
  | none => .stopped (failure .cryptoUnavailable "PACKAGE_CRYPTO_UNAVAILABLE")
  | some actual =>
    .guard (actual = file.sha256)
      (failure .contentHashMismatch "PACKAGE_CONTENT_HASH_MISMATCH")
    return ({ file with payloadOffset := offset }, {
      cursor := wrappingAdd cursor pathSize
      expectedOffset := wrappingAdd state.expectedOffset fileSize
      previous := path })

def checkTable (bytes : Bytes) (header : PackageHeader) (payloadStart : ℕ)
    (crypto : CryptoProvider) : TableState → List VerifiedPackageFile →
      Verifying (List VerifiedPackageFile × TableState)
  | state, [] => return ([], state)
  | state, file :: files => do
    let (file, state) ← checkEntry bytes header payloadStart crypto state file
    let (files, state) ← checkTable bytes header payloadStart crypto state files
    return (file :: files, state)

def signatureMagic : Bytes := text "LVSIG001"

def signatureDomain : Bytes := text "LVAPP-SIGN-V1" ++ [0, 0, 0]

def ed25519SpkiPrefix : Bytes := [0x30, 0x2a, 0x30, 0x05, 0x06, 0x03, 0x2b, 0x65, 0x70, 0x03, 0x21, 0x00]

def publicKeyId (crypto : CryptoProvider) (key : Ed25519PublicKey) : Option Bytes :=
  (crypto.sha256 (ed25519SpkiPrefix ++ key.toList)).map fun digest => digest.toList.take 16

/-- The first trusted key with the identifier; a failed hash stops the search. -/
def findSigner (crypto : CryptoProvider) (id : Bytes) :
    List TrustedPublicKey → Verifying TrustedPublicKey
  | [] => .stopped (failure .signerUntrusted "PACKAGE_SIGNER_UNTRUSTED")
  | candidate :: candidates =>
    match publicKeyId crypto candidate.key with
    | none => .stopped (failure .cryptoUnavailable "PACKAGE_CRYPTO_UNAVAILABLE")
    | some candidateId =>
      if candidateId = id then return candidate else findSigner crypto id candidates

def checkEnvelope (bytes : Bytes) (header : PackageHeader) (manifest : VerifiedPackageManifest)
    (crypto : CryptoProvider) (trustedKeys : List TrustedPublicKey) : Verifying Unit := do
  let envelope ← .read bytes header.unsignedSize signatureSize
  .guard (slice envelope 0 8 = signatureMagic && value (slice envelope 8 2) = 1 &&
      value (slice envelope 10 2) = 1 && value (slice envelope 92 4) = 0)
    (failure .signatureInvalid "PACKAGE_SIGNATURE_ENVELOPE_INVALID")
  let id := slice envelope 12 16
  .guard (hexText id = manifest.signingKeyId)
    (failure .signatureInvalid "PACKAGE_SIGNATURE_KEY_ID_MISMATCH")
  let signer ← findSigner crypto id trustedKeys
  .guard signer.production (failure .signerUntrusted "PACKAGE_SIGNER_UNTRUSTED")
  let unsigned ← .read bytes 0 header.unsignedSize
  match crypto.sha512 unsigned with
  | none => .stopped (failure .cryptoUnavailable "PACKAGE_CRYPTO_UNAVAILABLE")
  | some digest =>
    .guard (crypto.verifyEd25519 signer.key (signatureDomain ++ digest.toList)
        (byteArr 64 envelope 28))
      (failure .signatureInvalid "PACKAGE_SIGNATURE_INVALID")

def verifyPackage (bytes : Bytes) (crypto : CryptoProvider) (trustedKeys : List TrustedPublicKey)
    (allowDevelopment : Bool) : Verifying PackageVerification := do
  let header ← checkLayout bytes allowDevelopment
  let manifest ← readManifest bytes header
  let tableStart := wrappingAdd headerSize header.manifestSize
  let payloadStart := wrappingAdd tableStart header.tableSize
  let (files, state) ← checkTable bytes header payloadStart crypto
    { cursor := tableStart, expectedOffset := 0, previous := [] } manifest.files
  .guard (state.cursor = payloadStart && state.expectedOffset = header.payloadSize)
    (failure .invalidEntry "PACKAGE_TABLE_SIZE_MISMATCH")
  let result : PackageVerification := {
    status := .verified
    development := header.development
    unsignedSize := header.unsignedSize
    payloadStart
    manifest := { manifest with files } }
  if header.development then
    return { result with detail := text "PACKAGE_DEVELOPMENT_STRUCTURALLY_VERIFIED" }
  else
    checkEnvelope bytes header manifest crypto trustedKeys
    return { result with detail := text "PACKAGE_VERIFIED", signatureVerified := true }

end LvglPlatform

import LvglPlatform.Package.CanonicalJson
import LvglPlatform.Package.Types

namespace LvglPlatform

open Foundation

def member : JsonValue → Bytes → Option JsonValue
  | .object members, name => (members.find? fun m => m.1 = name).map Prod.snd
  | _, _ => none

def hasExactMembers (value : JsonValue) (names : List Bytes) : Bool :=
  match value with
  | .object members => members.length = names.length && names.all fun n => (member value n).isSome
  | _ => false

def stringValue (value : Option JsonValue) (maximum : ℕ) : Option Bytes :=
  match value with
  | some (.string s) => if s.length > maximum ∨ s.length = 0 ∨ 0 ∈ s then none else some s
  | _ => none

def uint64Value (value : Option JsonValue) : Option ℕ :=
  match value with
  | some (.number (.integer n)) => if 0 ≤ n ∧ n < 2 ^ 64 then some n.toNat else none
  | _ => none

def uintValue (value : Option JsonValue) : Option ℕ :=
  match value with
  | some (.number (.integer n)) => if 0 ≤ n ∧ n < 2 ^ 32 then some n.toNat else none
  | _ => none

def versionScan : ℕ → Bool → Bytes → Bool
  | dots, digit, [] => dots = 2 && digit
  | dots, digit, c :: cs =>
    if c = chr '.' then
      if !digit then false else versionScan (dots + 1) false cs
    else if isDigit c then versionScan dots true cs
    else false

def semanticVersion (value : Bytes) : Bool :=
  if value = [] ∨ value.length > 32 then false else versionScan 0 false value

def validSegment (segment : Bytes) : Bool :=
  segment ≠ [] && segment ≠ text "." && segment ≠ text ".." && segment.getLast? ≠ some (chr '.') &&
    segment.all fun b => !(b < 0x20 || b = 0x7f || (text ":*?\"<>|").contains b)

def maximumPathSize : ℕ := 240

def validPath (path : Bytes) : Bool :=
  if path = [] ∨ path.length > maximumPathSize ∨ path.head? = some (chr '/') ∨
      path.getLast? = some (chr '/') ∨ path.contains (chr '\\') ∨
      (path.zip path.tail).contains (chr '/', chr '/') ∨ path.contains 0 then false
  else (path.splitOn (chr '/')).all validSegment

def nibble (c : UInt8) : UInt8 := if c ≤ chr '9' then c - chr '0' else c - chr 'a' + 10

def hexPairs : Bytes → Bytes
  | high :: low :: rest => UInt8.ofNat (16 * (nibble high).toNat + (nibble low).toNat) :: hexPairs rest
  | _ => []

def decodeHex32 (value : Bytes) : Option Sha256Digest :=
  if !lowercaseHex value 64 then none else some (byteArr 32 (hexPairs value) 0)

def sortedStrings : Bytes → List JsonValue → Option (List Bytes)
  | _, [] => some []
  | previous, item :: items => do
    let current ← stringValue (some item) 255
    if previous ≠ [] ∧ ¬ previous < current then none
    let rest ← sortedStrings current items
    some (current :: rest)

def sortedStringArray (value : Option JsonValue) (allowEmpty : Bool) : Option (List Bytes) :=
  match value with
  | some (.array items) =>
    if !allowEmpty && items.isEmpty || items.length > 64 then none else sortedStrings [] items
  | _ => none

def allowedCapabilities : List Bytes :=
  [text "audio.output", text "dictionary.lookup", text "haptics", text "microphone",
    text "network", text "scanner", text "storage.private"]

def manifestMembers : List Bytes :=
  [text "appId", text "capabilities", text "entry", text "files", text "formatVersion",
    text "limits", text "minPlatformVersion", text "name", text "onlinePolicy",
    text "releaseCounter", text "sdkAbi", text "securityEpoch", text "signingKeyId",
    text "supportedMachines", text "supportedProfiles", text "version"]

def limitMembers : List Bytes :=
  [text "cpuSeconds", text "dataMiB", text "maxFiles", text "memoryMiB"]

def fileMembers : List Bytes :=
  [text "mode", text "path", text "role", text "sha256", text "size"]

def maximumFiles : ℕ := 256

def maximumPackageSize : ℕ := 256 * 1024 * 1024

def parseNumbers (document : JsonValue) : Option (UInt64 × UInt32) := do
  let format ← uintValue (member document (text "formatVersion"))
  let counter ← uint64Value (member document (text "releaseCounter"))
  let epoch ← uintValue (member document (text "securityEpoch"))
  if format ≠ 1 ∨ counter = 0 ∨ counter > 9007199254740991 then none
  else some (UInt64.ofNat counter, UInt32.ofNat epoch)

def checkTexts (manifest : VerifiedPackageManifest) : Bool :=
  appId manifest.appId && semanticVersion manifest.version &&
    semanticVersion manifest.minimumPlatformVersion && manifest.sdkAbi = text "1.0" &&
    validPath manifest.entry && lowercaseHex manifest.signingKeyId 32

def parseTexts (document : JsonValue) (manifest : VerifiedPackageManifest) :
    Option VerifiedPackageManifest := do
  let app ← stringValue (member document (text "appId")) 96
  let name ← stringValue (member document (text "name")) 64
  let version ← stringValue (member document (text "version")) 32
  let entry ← stringValue (member document (text "entry")) maximumPathSize
  let abi ← stringValue (member document (text "sdkAbi")) 16
  let platform ← stringValue (member document (text "minPlatformVersion")) 32
  let key ← stringValue (member document (text "signingKeyId")) 32
  let manifest := { manifest with
    appId := app, name, version, entry, sdkAbi := abi, minimumPlatformVersion := platform,
    signingKeyId := key }
  if !checkTexts manifest then none else some manifest

def parseLists (document : JsonValue) (manifest : VerifiedPackageManifest) :
    Option VerifiedPackageManifest := do
  let profiles ← sortedStringArray (member document (text "supportedProfiles")) false
  let machines ← sortedStringArray (member document (text "supportedMachines")) false
  let capabilities ← sortedStringArray (member document (text "capabilities")) true
  if !capabilities.all allowedCapabilities.contains then none
  else some { manifest with
    supportedProfiles := profiles, supportedMachines := machines, capabilities }

def checkLimits (limits : ApplicationResourceLimits) : Bool :=
  8 ≤ limits.memoryMib && limits.memoryMib ≤ 512 && 1 ≤ limits.cpuSeconds &&
    limits.cpuSeconds ≤ 86400 && 1 ≤ limits.maximumFiles && limits.maximumFiles ≤ maximumFiles &&
    1 ≤ limits.dataMib && limits.dataMib ≤ 4096

def parseLimits (document : JsonValue) (manifest : VerifiedPackageManifest) :
    Option VerifiedPackageManifest := do
  let limits ← member document (text "limits")
  let online ← member document (text "onlinePolicy")
  if !hasExactMembers limits limitMembers || !hasExactMembers online [text "mode"] then none
  let memory ← uintValue (member limits (text "memoryMiB"))
  let cpu ← uintValue (member limits (text "cpuSeconds"))
  let files ← uintValue (member limits (text "maxFiles"))
  let data ← uintValue (member limits (text "dataMiB"))
  let mode ← stringValue (member online (text "mode")) 32
  let limits : ApplicationResourceLimits :=
    { memoryMib := memory, cpuSeconds := cpu, maximumFiles := files, dataMib := data }
  if !checkLimits limits || mode ≠ text "offline-v1" then none else some { manifest with limits }

def parseFile (item : JsonValue) : Option VerifiedPackageFile := do
  if !hasExactMembers item fileMembers then none
  let mode ← uintValue (member item (text "mode"))
  let size ← uint64Value (member item (text "size"))
  let path ← stringValue (member item (text "path")) maximumPathSize
  let role ← stringValue (member item (text "role")) 16
  let hash ← stringValue (member item (text "sha256")) 64
  let sha256 ← decodeHex32 hash
  if (mode ≠ 0o644 ∧ mode ≠ 0o755) ∨ size > maximumPackageSize ∨ !validPath path ∨
      (role ≠ text "asset" ∧ role ≠ text "executable") then none
  else some { mode, size, path, role, sha256 }

/-- The file loop, with the previous path and whether the entry has been found. -/
def parseFileList (entry : Bytes) : Bytes → Bool → List JsonValue →
    Option (List VerifiedPackageFile × Bool)
  | _, found, [] => some ([], found)
  | previous, found, item :: items => do
    let file ← parseFile item
    if previous ≠ [] ∧ ¬ previous < file.path then none
    let found :=
      if file.path = entry then file.role = text "executable" && file.mode = 0o755 else found
    let (files, found) ← parseFileList entry file.path found items
    some (file :: files, found)

def parseFiles (document : JsonValue) (manifest : VerifiedPackageManifest) :
    Option VerifiedPackageManifest :=
  match member document (text "files") with
  | some (.array items) =>
    if items.isEmpty ∨ items.length > maximumFiles then none
    else match parseFileList manifest.entry [] false items with
      | some (files, true) => some { manifest with files }
      | _ => none
  | _ => none

def parseManifest (document : JsonValue) : Option VerifiedPackageManifest := do
  if !hasExactMembers document manifestMembers then none
  let (releaseCounter, securityEpoch) ← parseNumbers document
  let manifest ← parseTexts document { releaseCounter, securityEpoch }
  let manifest ← parseLists document manifest
  let manifest ← parseLimits document manifest
  parseFiles document manifest

end LvglPlatform

import LvglPlatform.Tools.SignPackage

namespace LvglPlatform

open Foundation

namespace Lvapp

def overwrite (buffer : Bytes) (offset : ℕ) (source : Bytes) : Bytes :=
  buffer.take offset ++ (source ++ buffer.drop (offset + source.length))

def readSafeU64 (bytes : Bytes) (offset : ℕ) : Option ℕ :=
  let n := value (slice bytes offset 8)
  if (n : ℤ) > maximumSafeInteger then none else some n

structure PackageEntry where
  path : Units
  mode : ℕ
  size : ℕ
  sha256 : Bytes

/-- The loop over the file table, from a table byte, a payload byte and the path before; at its end it has
the next of both. -/
def parseEntries (crypto : CryptoProvider) (bytes : Bytes) (payloadStart payloadSize : ℕ) :
    ℕ → ℕ → ℕ → Units → Option (List PackageEntry × ℕ × ℕ)
  | 0, cursor, expectedOffset, _ => some ([], cursor, expectedOffset)
  | entryCount + 1, cursor, expectedOffset, previousPath => do
    guard (cursor + recordSize ≤ payloadStart)
    let pathSize := value (slice bytes cursor 2)
    let mode := value (slice bytes (cursor + 2) 2)
    let entryFlags := value (slice bytes (cursor + 4) 4)
    let size ← readSafeU64 bytes (cursor + 8)
    let offset ← readSafeU64 bytes (cursor + 16)
    let sha256 := slice bytes (cursor + 24) 32
    let cursor := cursor + recordSize
    guard (pathSize ≠ 0 ∧ pathSize ≤ maximumPathSize ∧ cursor + pathSize ≤ payloadStart ∧ entryFlags = 0 ∧
      (mode = 0o644 ∨ mode = 0o755) ∧ offset = expectedOffset ∧ (size : ℤ) ≤ payloadSize - offset)
    let path ← validatePackagePath ((decodeText (slice bytes cursor pathSize)).map .string)
    guard (previousPath = [] ∨ unitsUtf8 previousPath < unitsUtf8 path)
    let digest ← crypto.sha256 (slice bytes (payloadStart + offset) size)
    guard (digest.toList = sha256)
    let (entries, cursor, expectedOffset) ←
      parseEntries crypto bytes payloadStart payloadSize entryCount (cursor + pathSize)
        (expectedOffset + size) path
    some ({ path, mode, size, sha256 } :: entries, cursor, expectedOffset)

def entryMatches (entry : PackageEntry) (file : JsValue) : Bool :=
  isUnits (property file "path") entry.path && isNumber (property file "mode") entry.mode &&
    isNumber (property file "size") entry.size &&
    isUnits (property file "sha256") (hexString entry.sha256)

def entriesMatch (manifest : JsValue) (entries : List PackageEntry) : Bool :=
  match property manifest "files" with
  | some (.array files) => files.length = entries.length && (entries.zip files).all fun p => entryMatches p.1 p.2
  | _ => false

def envelopeOk (envelope : Bytes) (manifest : JsValue) : Bool :=
  slice envelope 0 8 = signatureMagic && value (slice envelope 8 2) = 1 && value (slice envelope 10 2) = 1 &&
    value (slice envelope 92 4) = 0 && isUnits (property manifest "signingKeyId") (hexString (slice envelope 12 16))

/-- The result of `parsePackage`, as far as `signPackage` reads it. -/
structure ParsedPackage where
  development : Bool
  manifest : JsValue
  manifestSize : ℕ

def toolLayoutOk (header : PackageHeader) (size : ℕ) : Bool :=
  header.tableVersion = 1 && header.reserved = 0 && header.manifestSize ≠ 0 &&
    header.manifestSize ≤ maximumManifestSize && header.entryCount ≠ 0 && header.entryCount ≤ maximumFiles &&
    header.totalSize = size &&
    header.unsignedSize = headerSize + header.manifestSize + header.tableSize + header.payloadSize &&
    header.totalSize = header.unsignedSize + if header.development then 0 else signatureSize

/-- `parsePackage` without a public key. -/
def parsePackage (crypto : CryptoProvider) (bytes : Bytes) : Option ParsedPackage := do
  guard (headerOk bytes)
  let header := readHeader bytes
  guard (header.flags = 0 ∨ header.flags = 1)
  let _ ← [24, 32, 40, 48].mapM (readSafeU64 bytes)
  guard (toolLayoutOk header bytes.length)
  let tableStart := headerSize + header.manifestSize
  let payloadStart := tableStart + header.tableSize
  let manifest ← validateManifest (← parseManifest (slice bytes headerSize header.manifestSize)) header.development
  let (entries, cursor, expectedOffset) ←
    parseEntries crypto bytes payloadStart header.payloadSize header.entryCount tableStart 0 []
  guard (cursor = payloadStart ∧ expectedOffset = header.payloadSize ∧ entriesMatch manifest entries)
  guard (header.development ∨ envelopeOk (bytes.drop header.unsignedSize) manifest)
  some { development := header.development, manifest, manifestSize := header.manifestSize }

/-- The development package without the development flag, and with the place for a signature in its size
and the signed manifest in the place of its own. -/
def unsignedBytes (developmentBytes manifestBytes : Bytes) : Bytes :=
  let unsigned := overwrite developmentBytes 12 (littleEndian 4 0)
  let unsigned := overwrite unsigned 48 (littleEndian 8 (unsigned.length + signatureSize))
  overwrite unsigned headerSize manifestBytes

/-- The bytes that `signPackage` writes. -/
def signPackage (crypto : CryptoProvider) (sign : Bytes → Ed25519Signature) (publicKey : Ed25519PublicKey)
    (developmentBytes : Bytes) : Option Bytes := do
  let parsed ← parsePackage crypto developmentBytes
  guard parsed.development
  let keyId ← publicKeyId crypto publicKey
  let manifestBytes ← signedManifest parsed.manifest parsed.manifestSize keyId
  let unsigned := unsignedBytes developmentBytes manifestBytes
  let digest ← crypto.sha512 unsigned
  some (unsigned ++ SignatureEnvelope.bytes ⟨keyId, sign (signatureDomain ++ digest.toList)⟩)

lemma parsePackage_some {crypto : CryptoProvider} {bytes : Bytes} {parsed : ParsedPackage}
    (h : parsePackage crypto bytes = some parsed) :
    parsed.development = (readHeader bytes).development ∧
      parsed.manifestSize = (readHeader bytes).manifestSize ∧
      ∃ manifest, parseManifest (slice bytes headerSize (readHeader bytes).manifestSize) = some manifest ∧
        validateManifest manifest (readHeader bytes).development = some parsed.manifest := by
  simp only [parsePackage, Option.bind_eq_bind, Option.bind_eq_some_iff] at h
  obtain ⟨-, -, -, -, -, -, -, -, manifest, hread, validated, hvalid, -, -, -, -, -, -, hparsed⟩ := h
  obtain rfl := Option.some.inj hparsed
  exact ⟨rfl, rfl, manifest, hread, hvalid⟩

lemma setMember_place {left right : List (Units × JsValue)} {key : Units} {v w : JsValue}
    (h : ((left ++ (key, v) :: right).map Prod.fst).Nodup) :
    setMember (left ++ (key, v) :: right) (key, w) = left ++ (key, w) :: right := by
  rw [setMember_of_mem (by simp)]
  exact map_place h

lemma unitsOf_hexText (keyId : Bytes) : unitsOf (hexText keyId) = hexString keyId := by
  obtain ⟨cs, hbytes, hunits, -⟩ := hexText_chars keyId
  rw [← hbytes, unitsOf_utf8, hunits]

lemma toolMembers_underKey {manifest : VerifiedPackageManifest} {keyId : Bytes}
    (h : ((toolMembers manifest).map Prod.fst).Nodup) :
    setMember (toolMembers manifest) (units "signingKeyId", .string (hexString keyId)) =
      toolMembers (underKey manifest keyId) := by
  have hname : unitsOf (text "signingKeyId") = units "signingKeyId" := unitsOf_utf8 _
  have hsplit : ∀ id, toolMembers { manifest with signingKeyId := id } =
      Json.mapFields unitsOf ((manifestFields manifest).take 12) ++
        (units "signingKeyId", .string (unitsOf id)) ::
          Json.mapFields unitsOf ((manifestFields manifest).drop 13) := fun id => by
    rw [toolMembers, manifestFields_split, Json.mapFields_eq, List.map_append, List.map_cons, hname,
      Json.mapFields_eq, Json.mapFields_eq]
    rfl
  have hown := hsplit manifest.signingKeyId
  change toolMembers manifest = _ at hown
  rw [hown] at h
  rw [hown, setMember_place h, underKey, hsplit, unitsOf_hexText]

lemma toolMembers_text {manifest : VerifiedPackageManifest} (h : ValidManifest manifest)
    (hs : Utf8Manifest manifest) :
    ∃ t, canonicalJson (.object (toolMembers manifest)) = some t ∧ unitsUtf8 t = manifestText manifest := by
  obtain ⟨cs, hprint, -, htext⟩ := canonical_read (manifestValue_canonical h) hs
  exact ⟨utf16 cs, htext, (unitsUtf8_utf16 cs).trans hprint.symm⟩

lemma parseManifest_toolMembers {manifest : VerifiedPackageManifest} (h : ValidManifest manifest)
    (hs : Utf8Manifest manifest) :
    parseManifest (manifestText manifest) = some (.object (toolMembers manifest)) :=
  parseManifest_print (manifestValue_canonical h) hs

lemma signedManifest_toolMembers {manifest : VerifiedPackageManifest} {validated : JsValue} {keyId : Bytes}
    (h : ValidManifest manifest) (hs : Utf8Manifest manifest)
    (hvalid : validateManifest (.object (toolMembers manifest)) true = some validated)
    (hkey : keyId.length = 16) (hnonzero : keyId ≠ List.replicate 16 0) :
    (manifestText (underKey manifest keyId)).length = (manifestText manifest).length ∧
      signedManifest validated (manifestText manifest).length keyId =
        some (manifestText (underKey manifest keyId)) := by
  obtain ⟨_, -, hparse, -⟩ := parseManifest_some (parseManifest_toolMembers h hs)
  have hnames : ((toolMembers manifest).map Prod.fst).Nodup := (jsJson_keeps.parse hparse).1
  have hcapabilities := property_of_mem hnames (toolMembers_capabilities manifest)
  have hid := zeroKey_named (validateManifest_rules hvalid)
  obtain ⟨ownText, hown, hownBytes⟩ := toolMembers_text h hs
  obtain ⟨signedText, hsigned, hsignedBytes⟩ :=
    toolMembers_text (@underKey_valid _ keyId h hkey) (@underKey_utf8 _ keyId hs)
  -- both texts are the text of the members with a key in one place
  obtain ⟨before, after, hkeys⟩ := canonicalJson_keys hnames (List.mem_map_of_mem hid) hown
  obtain ⟨zeroText, hzeros, hzeroBytes⟩ := hkeys (List.replicate 16 0)
  obtain ⟨keyText, hkeyed, hkeyBytes⟩ := hkeys keyId
  rw [← zeroKeyId_eq, setMember_same hnames hid, hown] at hzeros
  rw [toolMembers_underKey hnames, hsigned] at hkeyed
  obtain rfl := Option.some.inj hzeros
  obtain rfl := Option.some.inj hkeyed
  have hsize : (manifestText (underKey manifest keyId)).length = (manifestText manifest).length := by
    rw [← hownBytes, ← hsignedBytes, hzeroBytes, hkeyBytes]
    simp [hkey]
  refine ⟨hsize, ?_⟩
  rw [signedManifest_production hnames hcapabilities hvalid hkey hnonzero, toolMembers_underKey hnames,
    hsigned, Option.bind_some, hsignedBytes, if_neg (not_not.mpr hsize)]

lemma overwrite_place {left old new right : Bytes} {offset : ℕ} (ho : offset = left.length)
    (hnew : new.length = old.length) :
    overwrite (left ++ (old ++ right)) offset new = left ++ (new ++ right) := by
  subst ho
  rw [overwrite, List.take_left, ← List.drop_drop, List.drop_left, hnew, List.drop_left]

lemma unsignedBytes_place {start flags sizes total version manifest rest signed : Bytes}
    (hstart : start.length = 12) (hflags : flags.length = 4) (hsizes : sizes.length = 32)
    (htotal : total.length = 8) (hversion : version.length = 8) (hsigned : signed.length = manifest.length) :
    unsignedBytes (start ++ (flags ++ (sizes ++ (total ++ (version ++ (manifest ++ rest)))))) signed =
      start ++ (littleEndian 4 0 ++ (sizes ++ (littleEndian 8 ((start ++ (flags ++ (sizes ++ (total ++
        (version ++ (manifest ++ rest)))))).length + signatureSize) ++ (version ++ (signed ++ rest))))) := by
  have hlength : (start ++ (littleEndian 4 0 ++ (sizes ++ (total ++ (version ++ (manifest ++ rest)))))).length =
      (start ++ (flags ++ (sizes ++ (total ++ (version ++ (manifest ++ rest)))))).length := by
    simp [hflags]
  have hbeforeTotal : ∀ after, start ++ (littleEndian 4 0 ++ (sizes ++ after)) =
      (start ++ (littleEndian 4 0 ++ sizes)) ++ after := by simp
  have hbeforeManifest : ∀ n after, start ++ (littleEndian 4 0 ++ (sizes ++ (littleEndian 8 n ++
      (version ++ after)))) =
      (start ++ (littleEndian 4 0 ++ (sizes ++ (littleEndian 8 n ++ version)))) ++ after := by simp
  rw [unsignedBytes, overwrite_place hstart.symm (by simp [hflags]), hlength]
  generalize (start ++ (flags ++ (sizes ++ (total ++ (version ++ (manifest ++ rest)))))).length = size
  rw [hbeforeTotal, overwrite_place (by simp [hstart, hsizes]) (by simp [htotal]), ← hbeforeTotal,
    hbeforeManifest, overwrite_place (by simp [hstart, hsizes, hversion, headerSize]) hsigned,
    ← hbeforeManifest]

/-- The header of a package and what follows it, with the fields that signing changes apart. -/
lemma serialize_fields (development : Bool) (manifest : VerifiedPackageManifest) (contents : List Bytes) :
    serialize development manifest contents =
      (packageMagic ++ littleEndian 2 1 ++ littleEndian 2 headerSize) ++
        (littleEndian 4 (if development then 1 else 0) ++
        ((littleEndian 4 (manifestText manifest).length ++ littleEndian 4 manifest.files.length ++
          littleEndian 8 (fileTable 0 manifest.files).length ++ littleEndian 8 contents.flatten.length ++
          littleEndian 8 (serialize development manifest contents).length) ++
        (littleEndian 8 ((serialize development manifest contents).length +
            if development then 0 else signatureSize) ++
        ((littleEndian 4 1 ++ littleEndian 4 0) ++
          (manifestText manifest ++ (fileTable 0 manifest.files ++ contents.flatten)))))) := by
  rw [serialize_length]
  simp [serialize, packageHeader]

lemma serialize_underKey_length {manifest : VerifiedPackageManifest} {contents : List Bytes} {keyId : Bytes}
    (h : (manifestText (underKey manifest keyId)).length = (manifestText manifest).length) :
    (serialize false (underKey manifest keyId) contents).length =
      (serialize true manifest contents).length := by
  rw [serialize_length, serialize_length, h]
  rfl

lemma unsignedBytes_serialize {manifest : VerifiedPackageManifest} {contents : List Bytes} {keyId : Bytes}
    (h : (manifestText (underKey manifest keyId)).length = (manifestText manifest).length) :
    unsignedBytes (serialize true manifest contents) (manifestText (underKey manifest keyId)) =
      serialize false (underKey manifest keyId) contents := by
  have hmagic : packageMagic.length = 8 := rfl
  have hdevelopment := serialize_fields true manifest contents
  rw [serialize_fields false, serialize_underKey_length h, h]
  conv_lhs => rw [hdevelopment]
  rw [unsignedBytes_place (by simp [hmagic]) (by simp) (by simp) (by simp) (by simp) h, ← hdevelopment]
  rfl

lemma SignatureEnvelope.ok {crypto : CryptoProvider} {trustedKeys : List TrustedPublicKey}
    {manifest : VerifiedPackageManifest} {unsigned : Bytes} {publicKey : Ed25519PublicKey}
    {envelope : SignatureEnvelope} {digest : Sha512Digest} (hkey : envelope.keyId.length = 16)
    (hid : manifest.signingKeyId = hexText envelope.keyId)
    (hsigner : findSigner crypto envelope.keyId trustedKeys = .done { key := publicKey, production := true })
    (hdigest : crypto.sha512 unsigned = some digest)
    (hverify : crypto.verifyEd25519 publicKey (signatureDomain ++ digest.toList) envelope.signature = true) :
    EnvelopeOk crypto trustedKeys manifest unsigned envelope.bytes := by
  have hmagic : signatureMagic.length = 8 := rfl
  have hoffsets : offsetOf envelope.fields 1 = 8 ∧
      offsetOf envelope.fields 2 = 10 ∧
      offsetOf envelope.fields 3 = 12 ∧
      offsetOf envelope.fields 4 = 28 ∧
      offsetOf envelope.fields 5 = 92 := by
    simp [offsetOf, SignatureEnvelope.fields, hmagic, hkey]
  obtain ⟨hversion, halgorithm, hkeyAt, hsignatureAt, hreserved⟩ := hoffsets
  have hkeySlice : slice envelope.bytes 12 16 = envelope.keyId :=
    slice_field 3 rfl hkeyAt.symm hkey.symm
  have hsignatureSlice : slice envelope.bytes 28 64 = envelope.signature.toList :=
    slice_field 4 rfl hsignatureAt.symm (by simp)
  refine ⟨?_, ⟨slice_field 0 rfl rfl hmagic.symm, ?_, ?_, ?_⟩, by rw [hkeySlice, hid], ?_⟩
  · simp [SignatureEnvelope.bytes, SignatureEnvelope.fields, hmagic, hkey, signatureSize]
  · rw [SignatureEnvelope.bytes, @slice_field _ _ _ 1 (littleEndian 2 1) rfl hversion.symm (by simp)]
    rfl
  · rw [SignatureEnvelope.bytes, @slice_field _ _ _ 2 (littleEndian 2 1) rfl halgorithm.symm (by simp)]
    rfl
  · rw [SignatureEnvelope.bytes, @slice_field _ _ _ 5 (littleEndian 4 0) rfl hreserved.symm (by simp)]
    rfl
  · refine ⟨_, hkeySlice.symm ▸ hsigner, rfl, digest, hdigest, ?_⟩
    rw [byteArr_of_slice hsignatureSlice]
    exact hverify

def signedPackage (manifest : VerifiedPackageManifest) (contents : List Bytes) (keyId : Bytes)
    (signature : Ed25519Signature) : Package where
  development := false
  manifest := underKey manifest keyId
  contents := contents
  envelope := SignatureEnvelope.bytes ⟨keyId, signature⟩

section

variable {crypto : CryptoProvider} {sign : Bytes → Ed25519Signature} {publicKey : Ed25519PublicKey}
  {keyId : Bytes} {trustedKeys : List TrustedPublicKey} {manifest : VerifiedPackageManifest}
  {contents : List Bytes}

lemma publicKeyId_length (h : publicKeyId crypto publicKey = some keyId) : keyId.length = 16 := by
  obtain ⟨digest, -, rfl⟩ := Option.map_eq_some_iff.mp h
  simp

lemma signedPackage_sound {signature : Ed25519Signature}
    (hsound : (Package.mk true manifest contents []).Sound crypto trustedKeys)
    (hsize : (serialize true manifest contents).length ≤ maximumPackageSize) (hkey : keyId.length = 16)
    (hnonzero : keyId ≠ List.replicate 16 0)
    (htext : (manifestText (underKey manifest keyId)).length = (manifestText manifest).length)
    (henvelope : EnvelopeOk crypto trustedKeys (underKey manifest keyId)
      (serialize false (underKey manifest keyId) contents) (SignatureEnvelope.bytes ⟨keyId, signature⟩)) :
    (signedPackage manifest contents keyId signature).Sound crypto trustedKeys where
  manifest := underKey_valid hsound.manifest hkey
  utf8 := underKey_utf8 hsound.utf8
  text_size := htext.trans_le hsound.text_size
  contents := hsound.contents
  size := by
    change (serialize false (underKey manifest keyId) contents ++ _).length ≤ _
    rw [List.length_append, serialize_underKey_length htext]
    exact Nat.add_le_add hsize henvelope.size.le
  keyId := by
    have hid : hexText keyId ≠ developmentKeyId := fun he =>
      hnonzero (hexText_injective (he.trans (by decide)))
    exact ⟨fun h => absurd h (by simp [signedPackage]), fun h => absurd h hid⟩
  bare h := absurd h (by simp [signedPackage])
  sealed _ := henvelope

lemma parsePackage_serialize {parsed : ParsedPackage}
    (hsound : (Package.mk true manifest contents []).Sound crypto trustedKeys)
    (hparsed : parsePackage crypto (serialize true manifest contents) = some parsed) :
    parsed.development = true ∧ parsed.manifestSize = (manifestText manifest).length ∧
      validateManifest (.object (toolMembers manifest)) true = some parsed.manifest := by
  have hheader : readHeader (Package.mk true manifest contents []).bytes =
      (Package.mk true manifest contents []).header :=
    (checkLayout_done.mp (@Package.Sound.layout _ _ true _ hsound fun _ => rfl)).2.1.symm
  have hregion := (slice_serialize.mp (Package.mk true manifest contents []).slice_unsigned).2.1
  have hbytes : (Package.mk true manifest contents []).bytes = serialize true manifest contents :=
    List.append_nil _
  rw [hbytes] at hheader hregion
  obtain ⟨hdevelopment, hsize, read, hread, hvalid⟩ := parsePackage_some hparsed
  rw [hheader] at hdevelopment hsize hread hvalid
  change parseManifest (slice _ headerSize (manifestText manifest).length) = _ at hread
  rw [hregion, parseManifest_toolMembers hsound.manifest hsound.utf8] at hread
  obtain rfl := Option.some.inj hread
  exact ⟨hdevelopment, hsize, hvalid⟩

lemma signPackage_serialize {parsed : ParsedPackage} {digest : Sha512Digest}
    (hsound : (Package.mk true manifest contents []).Sound crypto trustedKeys)
    (hparsed : parsePackage crypto (serialize true manifest contents) = some parsed)
    (hkey : publicKeyId crypto publicKey = some keyId) (hnonzero : keyId ≠ List.replicate 16 0)
    (hdigest : crypto.sha512 (serialize false (underKey manifest keyId) contents) = some digest) :
    signPackage crypto sign publicKey (serialize true manifest contents) =
      some (signedPackage manifest contents keyId (sign (signatureDomain ++ digest.toList))).bytes := by
  obtain ⟨hdevelopment, hsize, hvalid⟩ := parsePackage_serialize hsound hparsed
  obtain ⟨htext, hmanifest⟩ := signedManifest_toolMembers hsound.manifest hsound.utf8 hvalid
    (publicKeyId_length hkey) hnonzero
  simp only [signPackage, hparsed, hdevelopment, hkey, hsize, Option.bind_eq_bind, Option.bind_some]
  rw [hmanifest, Option.bind_some, unsignedBytes_serialize htext, hdigest]
  rfl

end

def signedResult (result : PackageVerification) (keyId : Bytes) : PackageVerification :=
  { result with
    detail := text "PACKAGE_VERIFIED"
    development := false
    signatureVerified := true
    manifest := underKey result.manifest keyId }

/-- A development package that the verifier and the tool accept can be signed with a key, and is then a
production package that the verifier accepts for that key, with the same files. -/
theorem signed_packages_verify {crypto : CryptoProvider} {sign : Bytes → Ed25519Signature}
    {publicKey : Ed25519PublicKey} {keyId : Bytes} {trustedKeys : List TrustedPublicKey}
    {developmentBytes : Bytes} {result : PackageVerification} {parsed : ParsedPackage}
    (hverified : verifyPackage developmentBytes crypto trustedKeys true = .done result)
    (hparsed : parsePackage crypto developmentBytes = some parsed)
    (hdevelopment : result.development = true) (hsize : developmentBytes.length ≤ maximumPackageSize)
    (hkey : publicKeyId crypto publicKey = some keyId) (hnonzero : keyId ≠ List.replicate 16 0)
    (hsigner : findSigner crypto keyId trustedKeys = .done { key := publicKey, production := true })
    (hdigest : ∀ bytes, crypto.sha512 bytes ≠ none)
    (hsign : ∀ message, crypto.verifyEd25519 publicKey message (sign message) = true) :
    ∃ signed, signPackage crypto sign publicKey developmentBytes = some signed ∧
      verifyPackage signed crypto trustedKeys false = .done (signedResult result keyId) := by
  obtain ⟨package, rfl, hsound, -, rfl⟩ := verifyPackage_done.mp hverified
  obtain ⟨development, manifest, contents, envelope⟩ := package
  obtain rfl : development = true := hdevelopment
  obtain rfl : envelope = [] := hsound.bare rfl
  have hbytes : (Package.mk true manifest contents []).bytes = serialize true manifest contents :=
    List.append_nil _
  rw [hbytes] at hsize hparsed ⊢
  have hlength := publicKeyId_length hkey
  obtain ⟨-, -, hvalid⟩ := parsePackage_serialize hsound hparsed
  obtain ⟨htext, -⟩ := signedManifest_toolMembers hsound.manifest hsound.utf8 hvalid hlength hnonzero
  obtain ⟨digest, hdigest⟩ :=
    Option.ne_none_iff_exists'.mp (hdigest (serialize false (underKey manifest keyId) contents))
  have hsigned := signedPackage_sound hsound hsize hlength hnonzero htext
    (SignatureEnvelope.ok hlength rfl hsigner hdigest (hsign _))
  refine ⟨_, signPackage_serialize hsound hparsed hkey hnonzero hdigest,
    verifyPackage_done.mpr ⟨_, rfl, hsigned, fun h => absurd h (by simp [signedPackage]), ?_⟩⟩
  simp only [signedResult, Package.verification, Package.unsigned, signedPackage,
    serialize_underKey_length htext, htext]
  rfl

def samplePackageBeforeSigning : Package where
  development := true
  manifest := { sampleManifest with signingKeyId := developmentKeyId }
  contents := [text "hi"]
  envelope := []

def sampleSign (message : Bytes) : Ed25519Signature :=
  if message = signatureDomain ++ sampleUnsignedDigest.toList then sampleSignature else zeroes 64

def sampleSigningCrypto : CryptoProvider :=
  { sampleCrypto with
    verifyEd25519 := fun key message signature => key = sampleKey.key && signature = sampleSign message }

lemma samplePackage_parsed :
    (parsePackage sampleSigningCrypto samplePackageBeforeSigning.bytes).isSome = true := by
  decide +kernel

theorem sample_package_signed : ∃ signed,
    signPackage sampleSigningCrypto sampleSign sampleKey.key samplePackageBeforeSigning.bytes = some signed ∧
      verifyPackage signed sampleSigningCrypto [sampleKey] false =
        .done (signedResult samplePackageBeforeSigning.verification sampleKeyId) :=
  have ⟨_, hparsed⟩ := Option.isSome_iff_exists.mp samplePackage_parsed
  signed_packages_verify (by decide +kernel) hparsed rfl (by decide +kernel) (by decide +kernel)
    (by decide) (by decide) (fun _ => by simp [sampleSigningCrypto, sampleCrypto])
    (fun message => by simp [sampleSigningCrypto])

end Lvapp

end LvglPlatform

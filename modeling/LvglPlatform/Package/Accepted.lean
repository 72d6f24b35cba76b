import LvglPlatform.Package.Serialize

namespace LvglPlatform

open Foundation

lemma natValue_canonical {n : ℕ} (h : n ≤ 9007199254740991) : Canonical (natValue n) := by
  change -maximumSafeInteger ≤ (n : ℤ) ∧ (n : ℤ) ≤ maximumSafeInteger
  simp only [maximumSafeInteger]
  omega

lemma canonicalItems_map {α : Type} {f : α → JsonValue} {items : List α}
    (h : ∀ a ∈ items, Canonical (f a)) : CanonicalItems (items.map f) := by
  induction items with
  | nil => trivial
  | cons a items ih =>
    exact ⟨h a List.mem_cons_self, ih fun b hb => h b (List.mem_cons_of_mem _ hb)⟩

lemma strings_canonical (strings : List Bytes) :
    CanonicalItems (strings.map Json.Value.string) := canonicalItems_map fun _ _ => trivial

lemma fileValue_canonical {file : VerifiedPackageFile} (h : ValidFile file) :
    Canonical (fileValue file) := by
  have hmode : file.mode ≤ 9007199254740991 := by
    have := h.mode
    omega
  have hsize : file.size ≤ 9007199254740991 :=
    h.size.trans (by decide)
  have hnames : Ascending fileMembers := by decide
  exact ⟨hnames, natValue_canonical hmode, trivial, trivial, trivial, natValue_canonical hsize, trivial⟩

lemma limitsValue_canonical {limits : ApplicationResourceLimits} (h : checkLimits limits = true) :
    Canonical (limitsValue limits) := by
  obtain ⟨hmemory, hcpu, hfiles, hdata⟩ := limits_lt h
  have hnames : Ascending limitMembers := by decide
  exact ⟨hnames, natValue_canonical (by omega), natValue_canonical (by omega),
    natValue_canonical (by omega), natValue_canonical (by omega), trivial⟩

lemma manifestValue_canonical {manifest : VerifiedPackageManifest} (h : ValidManifest manifest) :
    Canonical (manifestValue manifest) := by
  have hepoch : manifest.securityEpoch.toNat < 2 ^ 32 := manifest.securityEpoch.toNat_lt
  have honline : Canonical (.object [(text "mode", .string (text "offline-v1"))]) :=
    ⟨by decide, trivial, trivial⟩
  exact ⟨manifestMembers_ascending, trivial, strings_canonical _, trivial,
    canonicalItems_map fun file hf => fileValue_canonical (h.files.valid file hf).1,
    natValue_canonical (by omega), limitsValue_canonical h.limits, trivial, trivial, honline,
    natValue_canonical h.counter_le, trivial, natValue_canonical (by omega), trivial,
    strings_canonical _, strings_canonical _, trivial, trivial⟩

lemma canonicalDocument_some {region : Bytes} {document : JsonValue} :
    canonicalDocument region = some document ↔
      (∃ members, document = .object members) ∧ Canonical document ∧ document.All IsUtf8 ∧
        region = rapidJson.print document := by
  constructor
  · intro h
    rw [canonicalDocument] at h
    cases hparse : parseDocument region with
    | none => simp [hparse] at h
    | some parsed =>
      simp only [hparse] at h
      split at h <;> rename_i hchecks
      · obtain rfl := Option.some.inj h
        simp only [Bool.and_eq_true, decide_eq_true_eq] at hchecks
        obtain ⟨hobject, hcanonical⟩ := hchecks
        obtain ⟨hc, hregion⟩ := (canonicalJson_iff _ _).mp hcanonical
        refine ⟨?_, hc, parseDocument_utf8 hparse, hregion⟩
        cases parsed with
        | object members => exact ⟨members, rfl⟩
        | _ => cases hobject
      · simp at h
  · rintro ⟨⟨members, rfl⟩, hc, hs, rfl⟩
    rw [canonicalDocument, parseDocument_print hc hs]
    refine if_pos ?_
    simp only [JsonValue.isObject, Bool.true_and, decide_eq_true_eq]
    exact (canonicalJson_iff _ _).mpr ⟨hc, rfl⟩

/-- The strings of a manifest are UTF-8, as every string of a parsed document is. -/
def Utf8Manifest (manifest : VerifiedPackageManifest) : Prop := (manifestValue manifest).All IsUtf8

section

variable {bytes : Bytes} {header : PackageHeader} {crypto : CryptoProvider}

lemma readManifest_parsed (hread : headerSize + header.manifestSize ≤ bytes.length)
    {document : JsonValue} {manifest : VerifiedPackageManifest}
    (hdocument : canonicalDocument (slice bytes headerSize header.manifestSize) = some document)
    (hparse : parseManifest document = some manifest) {result : VerifiedPackageManifest} :
    readManifest bytes header = .done result ↔
      manifest.files.length = header.entryCount ∧
        (header.development = true ↔ manifest.signingKeyId = developmentKeyId) ∧
        manifest = result := by
  rw [readManifest, Checked.read_of_le hread, Checked.done_bind, hdocument]
  dsimp only
  rw [hparse]
  simp only [Checked.bind_eq_done, Checked.guard_eq_done, decide_eq_true_eq, Bool.or_eq_true,
    Bool.not_eq_true']
  constructor
  · rintro ⟨_, hcount, _, hdevelopment, _, hproduction, h⟩
    refine ⟨hcount, ?_, by cases h; rfl⟩
    constructor
    · intro hd
      exact hdevelopment.resolve_left (by simp [hd])
    · intro hkey
      exact hproduction.resolve_right (not_not.mpr hkey)
  · rintro ⟨hcount, hkey, rfl⟩
    refine ⟨(), hcount, (), ?_, (), ?_, rfl⟩
    · cases hd : header.development with
      | false => exact Or.inl rfl
      | true => exact Or.inr (hkey.mp hd)
    · cases hd : header.development with
      | false => exact Or.inr fun h => by simp [hkey.mpr h] at hd
      | true => exact Or.inl rfl

lemma readManifest_done (hread : headerSize + header.manifestSize ≤ bytes.length)
    {manifest : VerifiedPackageManifest} :
    readManifest bytes header = .done manifest ↔
      slice bytes headerSize header.manifestSize = manifestText manifest ∧
        ValidManifest manifest ∧ Utf8Manifest manifest ∧ manifest.files.length = header.entryCount ∧
        (header.development = true ↔ manifest.signingKeyId = developmentKeyId) := by
  constructor
  · intro h
    have hstep := h
    rw [readManifest, Checked.read_of_le hread, Checked.done_bind] at hstep
    cases hdocument : canonicalDocument (slice bytes headerSize header.manifestSize) with
    | none =>
      rw [hdocument] at hstep
      cases hstep
    | some document =>
      obtain ⟨-, hc, hs, hregion⟩ := canonicalDocument_some.mp hdocument
      rw [hdocument] at hstep
      cases hparse : parseManifest document with
      | none =>
        dsimp only at hstep
        rw [hparse] at hstep
        cases hstep
      | some parsed =>
        obtain ⟨hcount, hkey, rfl⟩ := (readManifest_parsed hread hdocument hparse).mp h
        obtain ⟨rfl, hv⟩ := (parseManifest_some hc).mp hparse
        exact ⟨hregion, hv, hs, hcount, hkey⟩
  · rintro ⟨hregion, hv, hs, hcount, hkey⟩
    have hc := manifestValue_canonical hv
    have hdocument : canonicalDocument (slice bytes headerSize header.manifestSize) =
        some (manifestValue manifest) :=
      canonicalDocument_some.mpr ⟨⟨_, rfl⟩, hc, hs, hregion⟩
    exact (readManifest_parsed hread hdocument ((parseManifest_some hc).mpr ⟨rfl, hv⟩)).mpr
      ⟨hcount, hkey, rfl⟩

/-- The entry of a file stands in the table at a cursor, its content in the payload at an offset. -/
structure EntryAt (bytes : Bytes) (header : PackageHeader) (payloadStart : ℕ)
    (crypto : CryptoProvider) (cursor offset : ℕ) (file : VerifiedPackageFile) : Prop where
  table : cursor + (recordSize + file.path.length) ≤ payloadStart
  record : slice bytes cursor (recordSize + file.path.length) = (tableRecord file offset).flatten
  payload : offset + file.size ≤ header.payloadSize
  hash : crypto.sha256 (slice bytes (payloadStart + offset) file.size) = some file.sha256

def TableState.after (state : TableState) (file : VerifiedPackageFile) : TableState where
  cursor := state.cursor + (recordSize + file.path.length)
  expectedOffset := state.expectedOffset + file.size
  previous := file.path

lemma record_iff {cursor offset : ℕ} {file : VerifiedPackageFile} (hv : ValidFile file)
    (ho : offset < 2 ^ 64) (hin : cursor + (recordSize + file.path.length) ≤ bytes.length) :
    slice bytes cursor (recordSize + file.path.length) = (tableRecord file offset).flatten ↔
      value (slice bytes cursor 2) = file.path.length ∧ value (slice bytes (cursor + 2) 2) = file.mode ∧
        value (slice bytes (cursor + 4) 4) = 0 ∧ value (slice bytes (cursor + 8) 8) = file.size ∧
        value (slice bytes (cursor + 16) 8) = offset ∧
        slice bytes (cursor + 24) 32 = file.sha256.toList ∧
        slice bytes (cursor + 56) file.path.length = file.path := by
  have hr : recordSize = 56 := rfl
  have hpath : file.path.length ≤ 240 := hv.pathText.size
  have hmode := hv.mode
  have hsize : file.size ≤ 268435456 := hv.size
  conv_lhs => rw [← tableRecord_length file offset]
  rw [slice_eq_flatten]
  simp only [tableRecord, FieldsAt, littleEndian_length, List.Vector.toList_length, and_true,
    add_assoc, Nat.reduceAdd]
  rw [slice_eq_littleEndian (by omega) (by omega), slice_eq_littleEndian (by omega) (by omega),
    slice_eq_littleEndian (by omega) (by omega), slice_eq_littleEndian (by omega) (by omega),
    slice_eq_littleEndian (by omega) (by omega)]

def Follows (previous path : Bytes) : Prop := previous = [] ∨ previous < path

variable (h : Regions header bytes.length) {payloadStart : ℕ}
  (hp : payloadStart + header.payloadSize ≤ bytes.length)

include h hp

lemma checkEntry_done {file out : VerifiedPackageFile} (hv : ValidFile file) {state next : TableState} :
    checkEntry bytes header payloadStart crypto state file = .done (out, next) ↔
      EntryAt bytes header payloadStart crypto state.cursor state.expectedOffset file ∧
        Follows state.previous file.path ∧
        out = { file with payloadOffset := state.expectedOffset } ∧ next = state.after file := by
  have hsize := h.size_lt
  have hr : recordSize = 56 := rfl
  have hpos : 0 < file.path.length := List.length_pos_iff.mpr hv.pathText.nonempty
  have hlong : file.path.length ≤ maximumPathSize := hv.pathText.size
  have hrecord : ∀ a n, a + n ≤ 56 →
      slice (slice bytes state.cursor recordSize) a n = slice bytes (state.cursor + a) n :=
    fun a n ha => slice_slice ha
  rw [checkEntry]
  constructor
  · intro hdone
    obtain ⟨_, hguard, hdone⟩ := Checked.bind_eq_done.mp hdone
    simp only [Checked.guard_eq_done, Bool.and_eq_true, decide_eq_true_eq] at hguard
    rw [Checked.read_of_le (by omega), Checked.done_bind, h.wrap (by omega)] at hdone
    simp (disch := omega) only [hrecord, Nat.add_zero] at hdone
    obtain ⟨_, hentry, hdone⟩ := Checked.bind_eq_done.mp hdone
    simp only [Checked.guard_eq_done, Bool.and_eq_true, decide_eq_true_eq] at hentry
    obtain ⟨⟨⟨⟨⟨⟨⟨⟨-, -⟩, hcursor⟩, hfits⟩, hflags⟩, -⟩, hoffset⟩, hle⟩, hcontent⟩ := hentry
    rw [Checked.read_of_le (by omega), Checked.done_bind] at hdone
    simp only [Checked.bind_eq_done, Checked.guard_eq_done, decide_eq_true_eq, Bool.and_eq_true,
      Bool.or_eq_true] at hdone
    obtain ⟨_, -, _, hfollows, _, ⟨⟨⟨hpath, hmode⟩, hfile⟩, hsha⟩, content, hread, hdone⟩ := hdone
    rw [h.wrap (by omega), Checked.read_of_le (by omega)] at hread
    cases hread
    cases hhash : crypto.sha256 (slice bytes (payloadStart + value (slice bytes (state.cursor + 16) 8))
        (value (slice bytes (state.cursor + 8) 8))) with
    | none =>
      rw [hhash] at hdone
      cases hdone
    | some actual =>
      rw [hhash] at hdone
      simp only [Checked.bind_eq_done, Checked.guard_eq_done, decide_eq_true_eq] at hdone
      obtain ⟨_, rfl, rfl, rfl⟩ := hdone
      have hsizes : value (slice bytes state.cursor 2) = file.path.length := by
        rw [hpath, slice_length (by omega)]
      have hnext : file.path = slice bytes (state.cursor + 56) file.path.length := by
        rw [← hsizes]
        exact hpath
      refine ⟨⟨by omega, ?_, by omega, ?_⟩, ?_, ?_, ?_⟩
      · apply (record_iff hv (by omega) (by omega)).mpr
        exact ⟨hsizes, hmode.symm, hflags, hfile.symm, hoffset, hsha.symm, hnext.symm⟩
      · rw [← hoffset, hfile, hhash]
      · rw [hpath]
        exact hfollows
      · rw [hoffset]
      · rw [h.wrap (by omega), h.wrap (by omega), ← hpath, hsizes, ← hfile, TableState.after, add_assoc]
  · rintro ⟨⟨htable, hslice, hpayload, hhash⟩, hfollows, rfl, rfl⟩
    obtain ⟨hsizes, hmode, hflags, hfile, hoffset, hsha, hpath⟩ :=
      (record_iff hv (by omega) (by omega)).mp hslice
    have hguard : state.cursor ≤ payloadStart ∧ recordSize ≤ payloadStart - state.cursor := by omega
    rw [Checked.bind_eq_done]
    refine ⟨(), by simpa using hguard, ?_⟩
    rw [Checked.read_of_le (by omega), Checked.done_bind, h.wrap (by omega)]
    simp (disch := omega) only [hrecord, Nat.add_zero, hsizes, hmode, hflags, hfile, hoffset, hsha]
    have hentry := hpos.ne'
    simp only [Checked.bind_eq_done, Checked.guard_eq_done, Bool.and_eq_true, Bool.or_eq_true,
      decide_eq_true_eq]
    refine ⟨(), ⟨⟨⟨⟨⟨⟨⟨⟨hentry, hlong⟩, by omega⟩, by omega⟩, trivial⟩, hv.mode⟩, trivial⟩, by omega⟩,
      by omega⟩, file.path, ?_, (), hv.path, (), hfollows, (), ⟨⟨⟨rfl, trivial⟩, trivial⟩, trivial⟩,
      slice bytes (payloadStart + state.expectedOffset) file.size, ?_, ?_⟩
    · rw [Checked.read_of_le (by omega)]
      exact congrArg Checked.done hpath
    · rw [h.wrap (by omega), Checked.read_of_le (by omega)]
    · rw [hhash]
      simp only [Checked.bind_eq_done, Checked.guard_eq_done, decide_eq_true_eq,
        Checked.pure_eq_done]
      refine ⟨(), trivial, ?_⟩
      rw [h.wrap (by omega), h.wrap (by omega), TableState.after, add_assoc]

structure TableAt (bytes : Bytes) (header : PackageHeader) (payloadStart : ℕ)
    (crypto : CryptoProvider) (cursor offset : ℕ) (files : List VerifiedPackageFile) : Prop where
  table : cursor + (fileTable offset files).length ≤ payloadStart
  records : slice bytes cursor (fileTable offset files).length = fileTable offset files
  payload : offset + totalSize files ≤ header.payloadSize
  hashes : List.Forall₂ (fun file content => crypto.sha256 content = some file.sha256) files
    (fileContents bytes payloadStart (placed offset files))

omit h hp in
lemma tableAt_cons {cursor offset : ℕ} {file : VerifiedPackageFile} {files : List VerifiedPackageFile} :
    TableAt bytes header payloadStart crypto cursor offset (file :: files) ↔
      EntryAt bytes header payloadStart crypto cursor offset file ∧
        TableAt bytes header payloadStart crypto (cursor + (recordSize + file.path.length))
          (offset + file.size) files := by
  have hlength : (fileTable offset (file :: files)).length =
      recordSize + file.path.length + (fileTable (offset + file.size) files).length := by
    rw [fileTable, List.length_append, tableRecord_length]
  have htotal : totalSize (file :: files) = file.size + totalSize files := rfl
  have hrecords : slice bytes cursor (fileTable offset (file :: files)).length =
      fileTable offset (file :: files) ↔
        slice bytes cursor (recordSize + file.path.length) = (tableRecord file offset).flatten ∧
          slice bytes (cursor + (recordSize + file.path.length))
            (fileTable (offset + file.size) files).length = fileTable (offset + file.size) files := by
    rw [fileTable, List.length_append, slice_append_eq, tableRecord_length]
  have hcontents : fileContents bytes payloadStart (placed offset (file :: files)) =
      slice bytes (payloadStart + offset) file.size ::
        fileContents bytes payloadStart (placed (offset + file.size) files) := rfl
  constructor
  · rintro ⟨htable, hrecord, hpayload, hhashes⟩
    rw [hlength] at htable
    rw [htotal] at hpayload
    rw [hcontents, List.forall₂_cons] at hhashes
    obtain ⟨hhead, htail⟩ := hrecords.mp hrecord
    exact ⟨⟨by omega, hhead, by omega, hhashes.1⟩, ⟨by omega, htail, by omega, hhashes.2⟩⟩
  · rintro ⟨⟨htable, hhead, hpayload, hhash⟩, ⟨htables, htail, hpayloads, hhashes⟩⟩
    refine ⟨?_, hrecords.mpr ⟨hhead, htail⟩, ?_, ?_⟩
    · rw [hlength]
      omega
    · rw [htotal]
      omega
    · rw [hcontents, List.forall₂_cons]
      exact ⟨hhash, hhashes⟩

lemma checkTable_done {files out : List VerifiedPackageFile} (hv : ValidFiles files)
    {state final : TableState} (hfirst : ∀ file ∈ files.head?, Follows state.previous file.path)
    (hcursor : state.cursor ≤ payloadStart) (hoffset : state.expectedOffset ≤ header.payloadSize) :
    checkTable bytes header payloadStart crypto state files = .done (out, final) ↔
      TableAt bytes header payloadStart crypto state.cursor state.expectedOffset files ∧
        out = placed state.expectedOffset files ∧ final = files.foldl TableState.after state := by
  induction files generalizing state out final with
  | nil =>
    simp only [checkTable, Checked.pure_eq_done, Prod.mk.injEq, placed_nil, List.foldl_nil]
    constructor
    · rintro ⟨rfl, rfl⟩
      exact ⟨⟨hcursor, by simp [fileTable, slice], hoffset, .nil⟩, rfl, rfl⟩
    · rintro ⟨-, rfl, rfl⟩
      exact ⟨rfl, rfl⟩
  | cons file files ih =>
    have hfile := (hv.valid file List.mem_cons_self).1
    obtain ⟨hbelow, hrest⟩ := List.pairwise_cons.mp hv.ascending
    have hvalid : ValidFiles files :=
      ⟨fun f hf => hv.valid f (List.mem_cons_of_mem _ hf), hrest⟩
    have hnext : ∀ f ∈ files.head?, Follows (state.after file).previous f.path := by
      intro f hf
      exact Or.inr (hbelow f.path (List.mem_map_of_mem (List.mem_of_mem_head? hf)))
    rw [checkTable, Checked.bind_eq_done, tableAt_cons, List.foldl_cons]
    constructor
    · rintro ⟨⟨entry, next⟩, hentry, hdone⟩
      obtain ⟨hat, -, rfl, rfl⟩ := (checkEntry_done h hp hfile).mp hentry
      obtain ⟨⟨rest, last⟩, htable, hdone⟩ := Checked.bind_eq_done.mp hdone
      obtain ⟨hrests, rfl, rfl⟩ := (ih hvalid hnext hat.table hat.payload).mp htable
      simp only [Checked.pure_eq_done, Prod.mk.injEq] at hdone
      obtain ⟨rfl, rfl⟩ := hdone
      exact ⟨⟨hat, hrests⟩, rfl, rfl⟩
    · rintro ⟨⟨hat, hrests⟩, rfl, rfl⟩
      refine ⟨_, (checkEntry_done h hp hfile).mpr ⟨hat, hfirst file rfl, rfl, rfl⟩, ?_⟩
      refine Checked.bind_eq_done.mpr ⟨_, (ih hvalid hnext hat.table hat.payload).mpr
        ⟨hrests, rfl, rfl⟩, rfl⟩

omit h hp in
lemma foldl_after (files : List VerifiedPackageFile) (state : TableState) :
    (files.foldl TableState.after state).cursor =
        state.cursor + (fileTable state.expectedOffset files).length ∧
      (files.foldl TableState.after state).expectedOffset = state.expectedOffset + totalSize files := by
  induction files generalizing state with
  | nil => simp [fileTable, totalSize]
  | cons file files ih =>
    obtain ⟨hcursor, hoffset⟩ := ih (state.after file)
    have htotal : totalSize (file :: files) = file.size + totalSize files := rfl
    rw [List.foldl_cons, hcursor, hoffset, fileTable, List.length_append, tableRecord_length, htotal]
    constructor
    · rw [← add_assoc]
      rfl
    · rw [← add_assoc]
      rfl

end

/-- A signature envelope over the unsigned part of a package, from a trusted production key. -/
structure EnvelopeOk (crypto : CryptoProvider) (trustedKeys : List TrustedPublicKey)
    (manifest : VerifiedPackageManifest) (unsigned envelope : Bytes) : Prop where
  size : envelope.length = signatureSize
  fields : slice envelope 0 8 = signatureMagic ∧ value (slice envelope 8 2) = 1 ∧
    value (slice envelope 10 2) = 1 ∧ value (slice envelope 92 4) = 0
  keyId : hexText (slice envelope 12 16) = manifest.signingKeyId
  signed : ∃ signer, findSigner crypto (slice envelope 12 16) trustedKeys = .done signer ∧
    signer.production = true ∧ ∃ digest, crypto.sha512 unsigned = some digest ∧
      crypto.verifyEd25519 signer.key (signatureDomain ++ digest.toList) (byteArr 64 envelope 28) = true

lemma checkEnvelope_done {bytes : Bytes} {header : PackageHeader} {crypto : CryptoProvider}
    {trustedKeys : List TrustedPublicKey} {manifest : VerifiedPackageManifest} :
    checkEnvelope bytes header manifest crypto trustedKeys = .done () ↔
      header.unsignedSize + signatureSize ≤ bytes.length ∧
        EnvelopeOk crypto trustedKeys manifest (slice bytes 0 header.unsignedSize)
          (slice bytes header.unsignedSize signatureSize) := by
  rw [checkEnvelope]
  constructor
  · intro hdone
    obtain ⟨envelope, hread, hdone⟩ := Checked.bind_eq_done.mp hdone
    obtain ⟨hin, rfl⟩ := Checked.read_eq_done.mp hread
    simp only [Checked.bind_eq_done, Checked.guard_eq_done, decide_eq_true_eq, Bool.and_eq_true] at hdone
    obtain ⟨_, ⟨⟨⟨hmagic, hversion⟩, halgorithm⟩, hreserved⟩, _, hkey, signer, hsigner, _, hproduction,
      unsigned, hunsigned, hdone⟩ := hdone
    obtain ⟨-, rfl⟩ := Checked.read_eq_done.mp hunsigned
    refine ⟨hin, slice_length hin, ⟨hmagic, hversion, halgorithm, hreserved⟩, hkey, signer, hsigner,
      hproduction, ?_⟩
    cases hdigest : crypto.sha512 (slice bytes 0 header.unsignedSize) with
    | none =>
      rw [hdigest] at hdone
      cases hdone
    | some digest =>
      rw [hdigest] at hdone
      exact ⟨digest, rfl, Checked.guard_eq_done.mp hdone⟩
  · rintro ⟨hin, -, ⟨hmagic, hversion, halgorithm, hreserved⟩, hkey, signer, hsigner, hproduction,
      digest, hdigest, hverified⟩
    rw [Checked.read_of_le hin, Checked.done_bind]
    simp only [Checked.bind_eq_done, Checked.guard_eq_done, decide_eq_true_eq, Bool.and_eq_true]
    refine ⟨(), ⟨⟨⟨hmagic, hversion⟩, halgorithm⟩, hreserved⟩, (), hkey, signer, hsigner, (),
      hproduction, slice bytes 0 header.unsignedSize, Checked.read_of_le (by omega), ?_⟩
    rw [hdigest]
    exact Checked.guard_eq_done.mpr hverified

namespace Package

structure Sound (crypto : CryptoProvider) (trustedKeys : List TrustedPublicKey) (package : Package) :
    Prop where
  manifest : ValidManifest package.manifest
  utf8 : Utf8Manifest package.manifest
  text_size : (manifestText package.manifest).length ≤ maximumManifestSize
  contents : List.Forall₂
    (fun file content => file.size = content.length ∧ crypto.sha256 content = some file.sha256)
    package.manifest.files package.contents
  size : package.bytes.length ≤ maximumPackageSize + signatureSize
  keyId : package.development = true ↔ package.manifest.signingKeyId = developmentKeyId
  bare : package.development = true → package.envelope = []
  sealed : package.development = false →
    EnvelopeOk crypto trustedKeys package.manifest package.unsigned package.envelope

end Package

section

variable {bytes : Bytes} {crypto : CryptoProvider} {trustedKeys : List TrustedPublicKey}
  {allowDevelopment : Bool}

/-- A production package whose envelope was read did not wrap. -/
lemma regions_of_envelope {header : PackageHeader}
    (hlayout : checkLayout bytes allowDevelopment = .done header)
    (henvelope : header.development = false → header.unsignedSize + signatureSize ≤ bytes.length) :
    Regions header bytes.length := by
  rcases wraps_or_regions hlayout with hwrapped | hregions
  · obtain ⟨-, rfl, -⟩ := checkLayout_done.mp hlayout
    have hproduction : (readHeader bytes).development = false := by
      rw [PackageHeader.development, hwrapped.flags]
      rfl
    have hread := henvelope hproduction
    have hshort := hwrapped.short
    rw [hwrapped.unsigned] at hread
    have hsignature : signatureSize = 96 := rfl
    omega
  · exact hregions

lemma layout_header {header : PackageHeader} (hlayout : checkLayout bytes allowDevelopment = .done header)
    (hregions : Regions header bytes.length) :
    headerSize ≤ bytes.length ∧ header.manifestSize < 2 ^ 32 ∧ header.entryCount < 2 ^ 32 ∧
    slice bytes 0 headerSize = (packageHeader header.development header.manifestSize
      header.entryCount header.tableSize header.payloadSize).flatten := by
  obtain ⟨hheader, rfl, hflags, -, hchecks⟩ := checkLayout_done.mp hlayout
  obtain ⟨hmin, -⟩ := headerOk_size hheader
  have hm : (readHeader bytes).manifestSize ≤ 65536 := hchecks.manifest.2
  have he : (readHeader bytes).entryCount ≤ 256 := hchecks.entries.2
  have hsum := hregions.unsigned
  have htotal := hregions.total
  have hlt := hregions.size_lt
  have htrailer : trailerSize (readHeader bytes) =
      if (readHeader bytes).development then 0 else signatureSize := rfl
  refine ⟨hmin, by omega, by omega, ?_⟩
  apply (header_eq hmin (by omega) (by omega) (by omega)).mpr
  simp only [headerOk, Bool.and_eq_true, decide_eq_true_eq] at hheader
  obtain ⟨⟨⟨-, hmagic⟩, hversion⟩, hsize⟩ := hheader
  refine ⟨⟨hmagic, hversion, hsize⟩, ?_⟩
  have hf : (readHeader bytes).flags = if (readHeader bytes).development then 1 else 0 := by
    simp only [PackageHeader.development]
    rcases hflags with h | h <;> simp [h]
  rw [hsum, ← htrailer, htotal, ← hf, ← hchecks.total.1, ← hchecks.tableVersion, ← hchecks.reserved]

lemma TableAt.contents {header : PackageHeader} {payloadStart cursor offset : ℕ}
    {files : List VerifiedPackageFile}
    (h : TableAt bytes header payloadStart crypto cursor offset files)
    (hp : payloadStart + header.payloadSize ≤ bytes.length) :
    List.Forall₂
      (fun file content => file.size = content.length ∧ crypto.sha256 content = some file.sha256)
      files (fileContents bytes payloadStart (placed offset files)) := by
  induction files generalizing cursor offset with
  | nil => exact .nil
  | cons file files ih =>
    obtain ⟨hentry, hrest⟩ := tableAt_cons.mp h
    have hpayload := hentry.payload
    refine .cons ⟨?_, hentry.hash⟩ (ih hrest)
    change file.size = (slice bytes (payloadStart + offset) file.size).length
    rw [slice_length (by omega)]

def verified (header : PackageHeader) (manifest : VerifiedPackageManifest) (payloadStart : ℕ)
    (files : List VerifiedPackageFile) : PackageVerification where
  status := .verified
  detail := text (if header.development then "PACKAGE_DEVELOPMENT_STRUCTURALLY_VERIFIED"
    else "PACKAGE_VERIFIED")
  development := header.development
  signatureVerified := !header.development
  unsignedSize := header.unsignedSize
  payloadStart := payloadStart
  manifest := { manifest with files }

lemma verifyPackage_steps {result : PackageVerification} :
    verifyPackage bytes crypto trustedKeys allowDevelopment = .done result ↔
      ∃ header, checkLayout bytes allowDevelopment = .done header ∧
      ∃ manifest, readManifest bytes header = .done manifest ∧
      ∃ tableStart payloadStart, tableStart = wrappingAdd headerSize header.manifestSize ∧
        payloadStart = wrappingAdd tableStart header.tableSize ∧
      ∃ files state, checkTable bytes header payloadStart crypto
          { cursor := tableStart, expectedOffset := 0, previous := [] } manifest.files =
            .done (files, state) ∧
        (state.cursor = payloadStart ∧ state.expectedOffset = header.payloadSize) ∧
        (header.development = false →
          checkEnvelope bytes header manifest crypto trustedKeys = .done ()) ∧
        result = verified header manifest payloadStart files := by
  rw [verifyPackage]
  constructor
  · intro h
    obtain ⟨header, hlayout, h⟩ := Checked.bind_eq_done.mp h
    obtain ⟨manifest, hmanifest, h⟩ := Checked.bind_eq_done.mp h
    obtain ⟨⟨files, state⟩, htable, h⟩ := Checked.bind_eq_done.mp h
    obtain ⟨_, hend, h⟩ := Checked.bind_eq_done.mp h
    simp only [Checked.guard_eq_done, Bool.and_eq_true, decide_eq_true_eq] at hend
    refine ⟨header, hlayout, manifest, hmanifest, _, _, rfl, rfl, files, state, htable, hend, ?_⟩
    cases hd : header.development with
    | true =>
      rw [hd, if_pos rfl, Checked.pure_eq_done] at h
      rw [← h, verified, hd]
      exact ⟨by simp, rfl⟩
    | false =>
      rw [hd, if_neg (by simp)] at h
      obtain ⟨_, henvelope, h⟩ := Checked.bind_eq_done.mp h
      rw [Checked.pure_eq_done] at h
      rw [← h, verified, hd]
      exact ⟨fun _ => henvelope, rfl⟩
  · rintro ⟨header, hlayout, manifest, hmanifest, _, _, rfl, rfl, files, state, htable, hend,
      henvelope, rfl⟩
    refine Checked.bind_eq_done.mpr ⟨header, hlayout, Checked.bind_eq_done.mpr ⟨manifest, hmanifest,
      Checked.bind_eq_done.mpr ⟨(files, state), htable, Checked.bind_eq_done.mpr ⟨(), ?_, ?_⟩⟩⟩⟩
    · simpa using hend
    · rw [verified]
      cases hd : header.development with
      | true => rfl
      | false =>
        rw [if_neg (by simp)]
        exact Checked.bind_eq_done.mpr ⟨(), henvelope hd, rfl⟩

lemma verifyPackage_sound {result : PackageVerification}
    (h : verifyPackage bytes crypto trustedKeys allowDevelopment = .done result) :
    ∃ package : Package, package.bytes = bytes ∧ package.Sound crypto trustedKeys ∧
      (package.development = true → allowDevelopment = true) ∧ result = package.verification := by
  obtain ⟨header, hlayout, manifest, hmanifest, tableStart, payloadStart, hstart, hpayload, files,
    state, htable, hend, henvelope, rfl⟩ := verifyPackage_steps.mp h
  have hregions : Regions header bytes.length :=
    regions_of_envelope hlayout fun hd => (checkEnvelope_done.mp (henvelope hd)).1
  obtain ⟨hheader, -, -, hallow, hchecks⟩ := checkLayout_done.mp hlayout
  obtain ⟨hmin, hm, he, hbytes⟩ := layout_header hlayout hregions
  have hunsigned := hregions.unsigned
  have htotal := hregions.total
  rw [hregions.tableStart] at hstart
  rw [hstart, hregions.wrap (by omega)] at hpayload
  subst hstart hpayload
  obtain ⟨htext, hv, hs, hcount, hkey⟩ := (readManifest_done (by omega)).mp hmanifest
  have hmanifestSize : (manifestText manifest).length = header.manifestSize := by
    rw [← htext, slice_length (by omega)]
  obtain ⟨htableAt, rfl, rfl⟩ := (checkTable_done hregions (by omega) hv.files
    (fun _ _ => Or.inl rfl) (by simp) (by simp)).mp htable
  obtain ⟨hcursor, hoffset⟩ := foldl_after manifest.files
    { cursor := headerSize + header.manifestSize, expectedOffset := 0, previous := [] }
  rw [hcursor, hoffset] at hend
  dsimp only at hend htableAt
  obtain ⟨htableSize, hpayloadSize⟩ := hend
  have hcontents := htableAt.contents (by omega)
  have hflatten := fileContents_flatten bytes
    (headerSize + header.manifestSize + header.tableSize) 0 manifest.files
  generalize fileContents bytes (headerSize + header.manifestSize + header.tableSize)
    (placed 0 manifest.files) = contents at hcontents hflatten
  have htableLength : (fileTable 0 manifest.files).length = header.tableSize := by omega
  rw [Nat.add_zero, show totalSize manifest.files = header.payloadSize by omega] at hflatten
  have hpayloadLength : contents.flatten.length = header.payloadSize := by
    rw [hflatten, slice_length (by omega)]
  have hserial : slice bytes 0 (serialize header.development manifest contents).length =
      serialize header.development manifest contents := by
    apply slice_serialize.mpr
    rw [hmanifestSize, htableLength, hpayloadLength, hcount]
    refine ⟨hbytes, htext, ?_, hflatten.symm⟩
    have hrecords := htableAt.records
    rwa [htableLength] at hrecords
  have hlength : (serialize header.development manifest contents).length = header.unsignedSize := by
    rw [serialize_length, hmanifestSize, htableLength, hpayloadLength, hunsigned]
  rw [hlength] at hserial
  have hbytesAll : (Package.mk header.development manifest contents
      (bytes.drop header.unsignedSize)).bytes = bytes := by
    rw [Package.bytes, Package.unsigned, ← hserial]
    exact List.take_append_drop _ _
  refine ⟨⟨header.development, manifest, contents, bytes.drop header.unsignedSize⟩, hbytesAll,
    ⟨hv, hs, ?_, hcontents, ?_, hkey, ?_, ?_⟩, hallow, ?_⟩
  · exact hmanifestSize ▸ hchecks.manifest.2
  · rw [hbytesAll]
    simp only [headerOk, Bool.and_eq_true, decide_eq_true_eq] at hheader
    exact hheader.1.1.1.2
  · intro hd
    rw [trailerSize, if_pos hd] at htotal
    exact List.drop_eq_nil_of_le (by omega)
  · intro hd
    change header.development = false at hd
    rw [trailerSize, if_neg (by simp [hd])] at htotal
    have hok := (checkEnvelope_done.mp (henvelope hd)).2
    have hdrop : slice bytes header.unsignedSize signatureSize = bytes.drop header.unsignedSize :=
      List.take_of_length_le (by rw [List.length_drop]; omega)
    rw [hserial, hdrop] at hok
    exact hok
  · rw [verified, Package.verification, Package.unsigned, hlength, hmanifestSize, htableLength]

lemma TableAt.of_contents {header : PackageHeader} {payloadStart cursor offset : ℕ}
    {files : List VerifiedPackageFile} {contents : List Bytes}
    (hcontents : List.Forall₂
      (fun file content => file.size = content.length ∧ crypto.sha256 content = some file.sha256)
      files contents)
    (htable : slice bytes cursor (fileTable offset files).length = fileTable offset files)
    (hpayload : slice bytes (payloadStart + offset) contents.flatten.length = contents.flatten)
    (hcursor : cursor + (fileTable offset files).length ≤ payloadStart)
    (hoffset : offset + contents.flatten.length ≤ header.payloadSize) :
    TableAt bytes header payloadStart crypto cursor offset files := by
  have hsizes := hcontents.imp fun _ _ h => h.1
  refine ⟨hcursor, htable, by rw [totalSize_contents hsizes]; exact hoffset, ?_⟩
  rw [fileContents_of_flatten hsizes hpayload]
  exact hcontents.imp fun _ _ h => h.2

namespace Package

def header (package : Package) : PackageHeader where
  flags := if package.development then 1 else 0
  manifestSize := (manifestText package.manifest).length
  entryCount := package.manifest.files.length
  tableSize := (fileTable 0 package.manifest.files).length
  payloadSize := package.contents.flatten.length
  unsignedSize := package.unsigned.length
  totalSize := package.unsigned.length + if package.development then 0 else signatureSize
  tableVersion := 1
  reserved := 0

lemma header_development (package : Package) : package.header.development = package.development := by
  obtain ⟨development, manifest, contents, envelope⟩ := package
  cases development <;> rfl

lemma slice_unsigned (package : Package) :
    slice package.bytes 0 package.unsigned.length = package.unsigned := by
  rw [Package.bytes, slice_append_left (by omega), slice_all le_rfl]

variable {package : Package} (h : package.Sound crypto trustedKeys)

include h

lemma Sound.bytes_length : package.bytes.length =
    package.unsigned.length + if package.development then 0 else signatureSize := by
  rw [Package.bytes, List.length_append]
  cases hd : package.development with
  | true => rw [h.bare hd, if_pos rfl, List.length_nil]
  | false => rw [(h.sealed hd).size, if_neg (by simp)]

lemma Sound.size_lt : package.bytes.length < 2 ^ 64 :=
  h.size.trans_lt (by decide)

lemma Sound.regions : Regions package.header package.bytes.length where
  unsigned := (serialize_length _ _ _).symm
  total := by
    rw [h.bytes_length, trailerSize, header_development]
    rfl
  size_lt := h.size_lt

lemma Sound.layout (hallow : package.development = true → allowDevelopment = true) :
    checkLayout package.bytes allowDevelopment = .done package.header := by
  have hlength := h.bytes_length
  have hsize := h.size_lt
  have hunsigned : package.unsigned.length = _ := serialize_length _ _ _
  have hfiles := h.manifest.files_size
  have hm : (manifestText package.manifest).length ≤ 65536 := h.text_size
  have he : package.manifest.files.length ≤ 256 := hfiles.2
  have htext : 0 < (manifestText package.manifest).length := by
    rw [manifestText, manifestValue, Json.Dialect.print, List.length_cons]
    omega
  obtain ⟨hheader, -⟩ := slice_serialize.mp package.slice_unsigned
  obtain ⟨⟨hmagic, hversion, hheaderSize⟩, hread⟩ :=
    (header_eq (by omega) (by omega) (by omega) (by omega)).mp hheader
  have hread : readHeader package.bytes = package.header := by
    rw [hread, header, hunsigned]
  refine checkLayout_done.mpr ⟨?_, hread.symm, ?_, ?_, ?_⟩
  · simp only [headerOk, Bool.and_eq_true, decide_eq_true_eq]
    exact ⟨⟨⟨⟨by omega, h.size⟩, hmagic⟩, hversion⟩, hheaderSize⟩
  · rw [header]
    cases package.development <;> simp
  · rw [header_development]
    exact hallow
  · refine ⟨⟨htext, hm⟩, ⟨List.length_pos_iff.mpr hfiles.1, he⟩, rfl, rfl, ⟨hunsigned.symm, ?_⟩, ?_, ?_⟩
    · change package.unsigned.length < 2 ^ 64
      omega
    · rw [hlength]
      rfl
    · rw [hlength] at hsize
      rw [trailerSize, header_development]
      exact (Nat.mod_eq_of_lt hsize).symm

end Package

lemma verifyPackage_complete {package : Package} (h : package.Sound crypto trustedKeys)
    (hallow : package.development = true → allowDevelopment = true) :
    verifyPackage package.bytes crypto trustedKeys allowDevelopment = .done package.verification := by
  have hregions := h.regions
  have hlength := h.bytes_length
  have hunsigned : package.unsigned.length = _ := serialize_length _ _ _
  obtain ⟨-, htext, htable, hpayload⟩ := slice_serialize.mp package.slice_unsigned
  have htableAt : TableAt package.bytes package.header
      (headerSize + package.header.manifestSize + package.header.tableSize) crypto
      (headerSize + package.header.manifestSize) 0 package.manifest.files :=
    .of_contents h.contents htable hpayload le_rfl (by rw [Nat.zero_add]; exact le_rfl)
  have hread : headerSize + package.header.manifestSize + package.header.tableSize +
      package.header.payloadSize ≤ package.bytes.length := by
    have := hregions.unsigned
    have := hregions.total
    omega
  obtain ⟨hcursor, hoffset⟩ := foldl_after package.manifest.files
    { cursor := headerSize + package.header.manifestSize, expectedOffset := 0, previous := [] }
  have hsizes := totalSize_contents (h.contents.imp fun _ _ h => h.1)
  refine verifyPackage_steps.mpr ⟨package.header, h.layout hallow, package.manifest,
    (readManifest_done (by omega)).mpr ⟨htext, h.manifest, h.utf8, rfl, ?_⟩,
    headerSize + package.header.manifestSize,
    headerSize + package.header.manifestSize + package.header.tableSize,
    hregions.tableStart.symm, (hregions.wrap (by omega)).symm, placed 0 package.manifest.files, _,
    (checkTable_done hregions hread h.manifest.files (fun _ _ => Or.inl rfl) (by simp) (by simp)).mpr
      ⟨htableAt, rfl, rfl⟩, ⟨hcursor, ?_⟩, ?_, ?_⟩
  · rw [Package.header_development]
    exact h.keyId
  · rw [hoffset, hsizes]
    exact Nat.zero_add _
  · intro hd
    rw [Package.header_development] at hd
    rw [hd, if_neg (by simp)] at hlength
    refine checkEnvelope_done.mpr ⟨hlength.ge, ?_⟩
    have henvelope : slice package.bytes package.unsigned.length signatureSize = package.envelope := by
      rw [Package.bytes, ← Nat.add_zero package.unsigned.length, slice_append_right,
        slice_all (h.sealed hd).size.le]
    change EnvelopeOk _ _ _ (slice package.bytes 0 package.unsigned.length)
      (slice package.bytes package.unsigned.length signatureSize)
    rw [package.slice_unsigned, henvelope]
    exact h.sealed hd
  · rw [verified, Package.header_development]
    rfl

/-- `verify_package` accepts the bytes of the sound packages, and reports the package it was given. -/
theorem verifyPackage_done {result : PackageVerification} :
    verifyPackage bytes crypto trustedKeys allowDevelopment = .done result ↔
      ∃ package : Package, package.bytes = bytes ∧ package.Sound crypto trustedKeys ∧
        (package.development = true → allowDevelopment = true) ∧ result = package.verification := by
  constructor
  · exact verifyPackage_sound
  · rintro ⟨package, rfl, hsound, hallow, rfl⟩
    exact verifyPackage_complete hsound hallow

def Rejected (answer : PackageVerification) : Prop := answer.status ≠ .verified

lemma guard_rejects {α : Type} {condition : Bool} {status : PackageStatus} {detail : String}
    {rest : Unit → Verifying α} (hs : status ≠ .verified) (h : (rest ()).StopsWith Rejected) :
    (Checked.guard condition (failure status detail) >>= rest).StopsWith Rejected :=
  Checked.stopsWith_bind (Checked.stopsWith_guard hs) fun _ => h

lemma checkLayout_rejects : (checkLayout bytes allowDevelopment).StopsWith Rejected := by
  have hdevelopment : Rejected
      { failure .developmentRejected "PACKAGE_DEVELOPMENT_REJECTED" with development := true } := by
    simp [Rejected, failure]
  exact guard_rejects (by decide) (guard_rejects (by decide)
    (Checked.stopsWith_bind (Checked.stopsWith_guard hdevelopment) fun _ =>
      guard_rejects (by decide) (Checked.stopsWith_done _)))

lemma readManifest_rejects (header : PackageHeader) :
    (readManifest bytes header).StopsWith Rejected := by
  refine Checked.stopsWith_bind Checked.stopsWith_read fun region => ?_
  split
  · exact Checked.stopsWith_stopped (by simp [Rejected, failure])
  split
  · exact Checked.stopsWith_stopped (by simp [Rejected, failure])
  · exact guard_rejects (by decide) (guard_rejects (by decide) (guard_rejects (by decide)
      (Checked.stopsWith_done _)))

lemma checkEntry_rejects (header : PackageHeader) (payloadStart : ℕ) (state : TableState)
    (file : VerifiedPackageFile) :
    (checkEntry bytes header payloadStart crypto state file).StopsWith Rejected := by
  refine guard_rejects (by decide) (Checked.stopsWith_bind Checked.stopsWith_read fun _ => ?_)
  refine guard_rejects (by decide) (Checked.stopsWith_bind Checked.stopsWith_read fun _ => ?_)
  refine guard_rejects (by decide) (guard_rejects (by decide) (guard_rejects (by decide) ?_))
  refine Checked.stopsWith_bind Checked.stopsWith_read fun _ => ?_
  split
  · exact Checked.stopsWith_stopped (by simp [Rejected, failure])
  · exact guard_rejects (by decide) (Checked.stopsWith_done _)

lemma checkTable_rejects (header : PackageHeader) (payloadStart : ℕ) (state : TableState)
    (files : List VerifiedPackageFile) :
    (checkTable bytes header payloadStart crypto state files).StopsWith Rejected := by
  induction files generalizing state with
  | nil => exact Checked.stopsWith_done _
  | cons file files ih =>
    exact Checked.stopsWith_bind (checkEntry_rejects header payloadStart state file) fun entry =>
      Checked.stopsWith_bind (ih entry.2) fun _ => Checked.stopsWith_done _

lemma findSigner_rejects (id : Bytes) : (findSigner crypto id trustedKeys).StopsWith Rejected := by
  induction trustedKeys with
  | nil => exact Checked.stopsWith_stopped (by simp [Rejected, failure])
  | cons candidate candidates ih =>
    rw [findSigner]
    split
    · exact Checked.stopsWith_stopped (by simp [Rejected, failure])
    split
    · exact Checked.stopsWith_done _
    · exact ih

lemma checkEnvelope_rejects (header : PackageHeader) (manifest : VerifiedPackageManifest) :
    (checkEnvelope bytes header manifest crypto trustedKeys).StopsWith Rejected := by
  refine Checked.stopsWith_bind Checked.stopsWith_read fun _ => ?_
  refine guard_rejects (by decide) (guard_rejects (by decide) ?_)
  refine Checked.stopsWith_bind (findSigner_rejects _) fun _ => guard_rejects (by decide) ?_
  refine Checked.stopsWith_bind Checked.stopsWith_read fun _ => ?_
  split
  · exact Checked.stopsWith_stopped (by simp [Rejected, failure])
  · exact Checked.stopsWith_guard (by simp [Rejected, failure])

lemma verifyPackage_rejects :
    (verifyPackage bytes crypto trustedKeys allowDevelopment).StopsWith Rejected := by
  refine Checked.stopsWith_bind checkLayout_rejects fun header => ?_
  refine Checked.stopsWith_bind (readManifest_rejects header) fun manifest => ?_
  refine Checked.stopsWith_bind (checkTable_rejects header _ _ _) fun _ => guard_rejects (by decide) ?_
  split
  · exact Checked.stopsWith_done _
  · exact Checked.stopsWith_bind (checkEnvelope_rejects header manifest) fun _ =>
      Checked.stopsWith_done _

/-- The verifier accepts a package, with what it reports about it. -/
def Accepts (bytes : Bytes) (crypto : CryptoProvider) (trustedKeys : List TrustedPublicKey)
    (allowDevelopment : Bool) (result : PackageVerification) : Prop :=
  (verifyPackage bytes crypto trustedKeys allowDevelopment).answer = some result ∧ result.ok = true

lemma accepts_iff {result : PackageVerification} :
    Accepts bytes crypto trustedKeys allowDevelopment result ↔
      ∃ package : Package, package.bytes = bytes ∧ package.Sound crypto trustedKeys ∧
        (package.development = true → allowDevelopment = true) ∧ result = package.verification := by
  rw [← verifyPackage_done, Accepts, Checked.answer_eq_some, PackageVerification.ok,
    decide_eq_true_eq]
  constructor
  · rintro ⟨hstopped | hdone, hok⟩
    · exact absurd hok (verifyPackage_rejects _ hstopped)
    · exact hdone
  · intro hdone
    obtain ⟨package, -, -, -, rfl⟩ := verifyPackage_done.mp hdone
    exact ⟨Or.inr hdone, rfl⟩

def PackageVerification.contents (result : PackageVerification) (bytes : Bytes) : List Bytes :=
  fileContents bytes result.payloadStart result.manifest.files

lemma Package.verification_contents {package : Package}
    (hsizes : List.Forall₂ (fun file content => file.size = content.length) package.manifest.files
      package.contents) :
    package.verification.contents package.bytes = package.contents := by
  obtain ⟨-, -, -, hpayload⟩ := slice_serialize.mp package.slice_unsigned
  exact fileContents_of_flatten hsizes hpayload

lemma Package.Sound.verification_contents {package : Package} (h : package.Sound crypto trustedKeys) :
    package.verification.contents package.bytes = package.contents :=
  Package.verification_contents (h.contents.imp fun _ _ h => h.1)

lemma serialize_verification (package : Package) :
    serialize package.verification.development package.verification.manifest package.contents =
      package.unsigned := by
  have hvalue : manifestValue package.verification.manifest = manifestValue package.manifest := by
    simp only [manifestValue, manifestFields, Package.verification, placed_values]
  have htable : fileTable 0 package.verification.manifest.files = fileTable 0 package.manifest.files :=
    fileTable_placed 0 0 _
  have hlength : package.verification.manifest.files.length = package.manifest.files.length :=
    placed_length 0 _
  rw [serialize, manifestText, hvalue, htable, hlength]
  rfl

lemma Accepts.serialized {result : PackageVerification}
    (h : Accepts bytes crypto trustedKeys allowDevelopment result) :
    bytes.take result.unsignedSize =
      serialize result.development result.manifest (result.contents bytes) := by
  obtain ⟨package, rfl, hsound, -, rfl⟩ := accepts_iff.mp h
  rw [hsound.verification_contents, serialize_verification]
  exact package.slice_unsigned

lemma Accepts.flags {result : PackageVerification}
    (h : Accepts bytes crypto trustedKeys allowDevelopment result) :
    (readHeader bytes).flags = if result.development then 1 else 0 := by
  obtain ⟨package, rfl, hsound, hallow, rfl⟩ := accepts_iff.mp h
  obtain ⟨-, hheader, -⟩ := checkLayout_done.mp (hsound.layout hallow)
  rw [← hheader]
  rfl

end

lemma fileValue_injective {file other : VerifiedPackageFile} (h : fileValue file = fileValue other) :
    file.path = other.path ∧ file.mode = other.mode ∧ file.size = other.size ∧
      file.sha256 = other.sha256 := by
  simp only [fileValue, natValue, Json.Value.object.injEq, List.cons.injEq, Prod.mk.injEq,
    Json.Value.number.injEq, Json.Number.integer.injEq, Json.Value.string.injEq, true_and,
    and_true] at h
  obtain ⟨hmode, hpath, -, hsha, hsize⟩ := h
  exact ⟨hpath, Int.ofNat_inj.mp hmode, Int.ofNat_inj.mp hsize,
    List.Vector.toList_injective (hexText_injective hsha)⟩

lemma fileTable_congr {files others : List VerifiedPackageFile} (offset : ℕ)
    (h : files.map fileValue = others.map fileValue) : fileTable offset files = fileTable offset others := by
  induction files generalizing others offset with
  | nil =>
    obtain rfl := List.map_eq_nil_iff.mp h.symm
    rfl
  | cons file files ih =>
    obtain ⟨other, others, rfl, hvalue, hrest⟩ := List.map_eq_cons_iff.mp h.symm
    obtain ⟨hpath, hmode, hsize, hsha⟩ := fileValue_injective hvalue
    rw [fileTable, fileTable, ih _ hrest.symm, tableRecord, tableRecord, hpath, hmode, hsize, hsha]

lemma serialize_congr {manifest other : VerifiedPackageManifest}
    (h : manifestValue manifest = manifestValue other) (development : Bool) (contents : List Bytes) :
    serialize development manifest contents = serialize development other contents := by
  have hfiles : manifest.files.map fileValue = other.files.map fileValue := by
    simp only [manifestValue, manifestFields, Json.Value.object.injEq, List.cons.injEq,
      Prod.mk.injEq, Json.Value.array.injEq] at h
    exact h.2.2.2.1.2
  have hlength : manifest.files.length = other.files.length := by
    simpa using congrArg List.length hfiles
  rw [serialize, serialize, manifestText, manifestText, h, hlength, fileTable_congr 0 hfiles]

/-- Re-serializing the parsed result gives back the unsigned part of an accepted package, so two
accepted packages with the same flags, manifest and contents have the same unsigned part. -/
theorem accepted_package_is_its_serialization {first second : Bytes}
    {crypto crypto' : CryptoProvider} {trustedKeys trustedKeys' : List TrustedPublicKey}
    {allowDevelopment allowDevelopment' : Bool} {result result' : PackageVerification}
    (hfirst : Accepts first crypto trustedKeys allowDevelopment result)
    (hsecond : Accepts second crypto' trustedKeys' allowDevelopment' result') :
    first.take result.unsignedSize =
        serialize result.development result.manifest (result.contents first) ∧
      ((readHeader first).flags = (readHeader second).flags →
        manifestValue result.manifest = manifestValue result'.manifest →
        result.contents first = result'.contents second →
        first.take result.unsignedSize = second.take result'.unsignedSize) := by
  refine ⟨hfirst.serialized, ?_⟩
  intro hflags hmanifest hcontents
  have hdevelopment : result.development = result'.development := by
    rw [hfirst.flags, hsecond.flags] at hflags
    cases hd : result.development <;> cases hd' : result'.development <;> simp [hd, hd'] at hflags ⊢
  rw [hfirst.serialized, hsecond.serialized, hdevelopment, hcontents, serialize_congr hmanifest]

structure SignatureEnvelope where
  keyId : Bytes
  signature : Ed25519Signature

def SignatureEnvelope.fields (envelope : SignatureEnvelope) : List Bytes :=
  [signatureMagic, littleEndian 2 1, littleEndian 2 1, envelope.keyId, envelope.signature.toList,
    littleEndian 4 0]

def SignatureEnvelope.bytes (envelope : SignatureEnvelope) : Bytes := envelope.fields.flatten

def sampleFile : VerifiedPackageFile where
  path := text "demo"
  role := text "executable"
  mode := 0o755
  size := 2
  sha256 := bigEndian 32 0x8f434346648f6b96df89dda901c5176b10a6d83961dd3c1ac88b59b2dc327aa4

def sampleManifest : VerifiedPackageManifest where
  appId := text "org.pen.demo"
  name := text "Demo"
  version := text "1.0.0"
  entry := text "demo"
  sdkAbi := text "1.0"
  minimumPlatformVersion := text "0.1.0"
  signingKeyId := text "646d6be49d9f0048f94f67749eca3515"
  releaseCounter := 1
  securityEpoch := 1
  supportedProfiles := [text "pen"]
  supportedMachines := [text "m1"]
  files := [sampleFile]
  limits := { memoryMib := 8, cpuSeconds := 1, maximumFiles := 1, dataMib := 1 }

def sampleKey : TrustedPublicKey where
  key := bigEndian 32 0x79b5562e8fe654f94078b112e8a98ba7901f853ae695bed7e0e3910bad049664
  production := true

def sampleUnsignedDigest : Sha512Digest := bigEndian 64
  0x2253d10f9992b9f3e8037ae9b012df461cbc694f6110f0a012d3d924615158a4c7e9e5cd940e0d592c958a2d28542483970e54f2d1010e4b1b32fe443d0a54c2

def sampleSignature : Ed25519Signature := bigEndian 64
  0x4e0b07a6a4bd03fc35e1c598e128992f55cf6401e46a2033728329c4c5d1b7ca766d37bfb608c192a9b3021660aa4f472219cc47fa8792b2394c31847a7a1e01

def sampleCrypto : CryptoProvider where
  sha256 bytes := some <|
    if bytes = text "hi" then sampleFile.sha256
    else if bytes = ed25519SpkiPrefix ++ sampleKey.key.toList then
      bigEndian 32 0x646d6be49d9f0048f94f67749eca35156eed4f7a7be18e4fc4a94bfd44e300b0
    else zeroes 32
  sha512 bytes := some <|
    if bytes = serialize false sampleManifest [text "hi"] then sampleUnsignedDigest else zeroes 64
  verifyEd25519 key message signature :=
    key = sampleKey.key && message = signatureDomain ++ sampleUnsignedDigest.toList &&
      signature = sampleSignature

def sampleKeyId : Bytes := (bigEndian 16 0x646d6be49d9f0048f94f67749eca3515).toList

def samplePackage : Package where
  development := false
  manifest := sampleManifest
  contents := [text "hi"]
  envelope := SignatureEnvelope.bytes ⟨sampleKeyId, sampleSignature⟩

lemma samplePackage_accepted :
    Accepts samplePackage.bytes sampleCrypto [sampleKey] false samplePackage.verification := by
  have hdone : verifyPackage samplePackage.bytes sampleCrypto [sampleKey] false =
      .done samplePackage.verification := by decide +kernel
  exact ⟨Checked.answer_eq_some.mpr (Or.inr hdone), rfl⟩

def resignedPackage : Package :=
  { samplePackage with envelope := SignatureEnvelope.bytes ⟨sampleKeyId, zeroes 64⟩ }

def resignedCrypto : CryptoProvider :=
  { sampleCrypto with verifyEd25519 := fun _ _ signature => signature = zeroes 64 }

lemma resignedPackage_accepted :
    Accepts resignedPackage.bytes resignedCrypto [sampleKey] false resignedPackage.verification := by
  have hdone : verifyPackage resignedPackage.bytes resignedCrypto [sampleKey] false =
      .done resignedPackage.verification := by decide +kernel
  exact ⟨Checked.answer_eq_some.mpr (Or.inr hdone), rfl⟩

theorem sample_package_is_its_serialization :
    Accepts samplePackage.bytes sampleCrypto [sampleKey] false samplePackage.verification ∧
      Accepts resignedPackage.bytes resignedCrypto [sampleKey] false resignedPackage.verification ∧
      samplePackage.bytes.take samplePackage.verification.unsignedSize =
        serialize false samplePackage.verification.manifest
          (samplePackage.verification.contents samplePackage.bytes) ∧
      samplePackage.bytes.take samplePackage.verification.unsignedSize =
        resignedPackage.bytes.take resignedPackage.verification.unsignedSize := by
  have hflags : (readHeader samplePackage.bytes).flags = (readHeader resignedPackage.bytes).flags := by
    rw [samplePackage_accepted.flags, resignedPackage_accepted.flags]
    rfl
  have hcontents : samplePackage.verification.contents samplePackage.bytes =
      resignedPackage.verification.contents resignedPackage.bytes := by
    have hsizes : List.Forall₂ (fun file content => file.size = content.length) sampleManifest.files
        [text "hi"] := .cons rfl .nil
    exact (@Package.verification_contents samplePackage hsizes).trans
      (@Package.verification_contents resignedPackage hsizes).symm
  obtain ⟨hserialized, hsame⟩ :=
    accepted_package_is_its_serialization samplePackage_accepted resignedPackage_accepted
  exact ⟨samplePackage_accepted, resignedPackage_accepted, hserialized, hsame hflags rfl hcontents⟩

end LvglPlatform

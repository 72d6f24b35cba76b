import LvglPlatform.Package.Verifier

/-! What the layout check of `verify_package` bounds, and when its sum wraps. -/

namespace LvglPlatform

open Foundation

lemma checkedAdd_some {left right sum : ℕ} (h : left < 2 ^ 64) :
    checkedAdd left right = some sum ↔ left + right = sum ∧ sum < 2 ^ 64 := by
  rw [checkedAdd]
  split <;> rename_i hr
  · simp only [reduceCtorEq, false_iff]
    omega
  · simp only [Option.some.injEq]
    omega

lemma expectedUnsigned_some {header : PackageHeader} {sum : ℕ} :
    expectedUnsigned header = some sum ↔
      headerSize + header.manifestSize + header.tableSize + header.payloadSize = sum ∧
        sum < 2 ^ 64 := by
  have hsize : headerSize = 64 := rfl
  simp only [expectedUnsigned, Option.bind_eq_bind, Option.bind_eq_some_iff]
  constructor
  · rintro ⟨a, ha, b, hb, hc⟩
    obtain ⟨rfl, ha⟩ := (checkedAdd_some (by omega)).mp ha
    obtain ⟨rfl, hb⟩ := (checkedAdd_some ha).mp hb
    exact (checkedAdd_some hb).mp hc
  · rintro ⟨hsum, hlt⟩
    exact ⟨_, (checkedAdd_some (by omega)).mpr ⟨rfl, by omega⟩,
      _, (checkedAdd_some (by omega)).mpr ⟨rfl, by omega⟩,
      (checkedAdd_some (by omega)).mpr ⟨hsum, hlt⟩⟩

def trailerSize (header : PackageHeader) : ℕ := if header.development then 0 else signatureSize

/-- The layout check, with its sum over the integers. -/
structure Layout (header : PackageHeader) (size : ℕ) : Prop where
  manifest : 0 < header.manifestSize ∧ header.manifestSize ≤ maximumManifestSize
  entries : 0 < header.entryCount ∧ header.entryCount ≤ maximumFiles
  tableVersion : header.tableVersion = 1
  reserved : header.reserved = 0
  unsigned : headerSize + header.manifestSize + header.tableSize + header.payloadSize =
    header.unsignedSize ∧ header.unsignedSize < 2 ^ 64
  total : header.totalSize = size ∧ header.totalSize = wrappingAdd header.unsignedSize (trailerSize header)

lemma layoutOk_iff {header : PackageHeader} {size : ℕ} :
    layoutOk header size = true ↔ Layout header size := by
  simp only [layoutOk, Bool.and_eq_true, decide_eq_true_eq, expectedUnsigned_some]
  constructor
  · rintro ⟨⟨⟨⟨⟨⟨⟨⟨hm, hm'⟩, he⟩, he'⟩, hv⟩, hr⟩, hu⟩, ht⟩, ht'⟩
    exact ⟨⟨hm, hm'⟩, ⟨he, he'⟩, hv, hr, hu, ht, ht'⟩
  · rintro ⟨⟨hm, hm'⟩, ⟨he, he'⟩, hv, hr, hu, ht, ht'⟩
    exact ⟨⟨⟨⟨⟨⟨⟨⟨hm, hm'⟩, he⟩, he'⟩, hv⟩, hr⟩, hu⟩, ht⟩, ht'⟩

lemma checkLayout_done {bytes : Bytes} {allowDevelopment : Bool} {header : PackageHeader} :
    checkLayout bytes allowDevelopment = .done header ↔
      headerOk bytes = true ∧ header = readHeader bytes ∧ (header.flags = 0 ∨ header.flags = 1) ∧
        (header.development = true → allowDevelopment = true) ∧ Layout header bytes.length := by
  simp only [checkLayout, Checked.bind_eq_done, Checked.guard_eq_done, layoutOk_iff]
  constructor
  · rintro ⟨_, hheader, _, hflags, _, hdevelopment, _, hlayout, h⟩
    obtain rfl : readHeader bytes = header := by
      cases h
      rfl
    refine ⟨hheader, rfl, by simpa using hflags, ?_, hlayout⟩
    intro hd
    simpa [hd] using hdevelopment
  · rintro ⟨hheader, rfl, hflags, hdevelopment, hlayout⟩
    refine ⟨(), hheader, (), by simpa using hflags, (), ?_, (), hlayout, rfl⟩
    cases hd : (readHeader bytes).development with
    | false => rfl
    | true => exact hdevelopment hd

/-- The regions of a package end where the buffer does. -/
structure Regions (header : PackageHeader) (size : ℕ) : Prop where
  unsigned : headerSize + header.manifestSize + header.tableSize + header.payloadSize =
    header.unsignedSize
  total : header.unsignedSize + trailerSize header = size
  size_lt : size < 2 ^ 64

lemma headerOk_size {bytes : Bytes} (h : headerOk bytes = true) :
    headerSize ≤ bytes.length ∧ bytes.length < 2 ^ 64 := by
  have hmax : maximumPackageSize + signatureSize < 2 ^ 64 := by decide
  simp only [headerOk, Bool.and_eq_true, decide_eq_true_eq] at h
  obtain ⟨⟨⟨⟨hmin, hle⟩, -⟩, -⟩, -⟩ := h
  omega

lemma Layout.regions_or_wraps {header : PackageHeader} {size : ℕ} (h : Layout header size)
    (hsize : size < 2 ^ 64) :
    Regions header size ∨
      header.development = false ∧ header.unsignedSize + signatureSize = 2 ^ 64 + size := by
  obtain ⟨hsum, hlt⟩ := h.unsigned
  obtain ⟨htotal, hwrap⟩ := h.total
  have hsignature : signatureSize = 96 := rfl
  rw [wrappingAdd] at hwrap
  by_cases hfits : header.unsignedSize + trailerSize header < 2 ^ 64
  · rw [Nat.mod_eq_of_lt hfits] at hwrap
    exact Or.inl ⟨hsum, by omega, hsize⟩
  · right
    have hproduction : header.development = false := by
      cases hd : header.development with
      | false => rfl
      | true =>
        rw [trailerSize, hd, if_pos rfl] at hfits
        omega
    have htrailer : trailerSize header = signatureSize := by
      rw [trailerSize, hproduction, if_neg (by simp)]
    refine ⟨hproduction, ?_⟩
    rw [htrailer] at hwrap hfits
    omega

section

variable {bytes : Bytes} {header : PackageHeader} (h : Regions header bytes.length)

include h

lemma Regions.wrap {a b : ℕ} (hab : a + b ≤ bytes.length) : wrappingAdd a b = a + b :=
  Nat.mod_eq_of_lt (hab.trans_lt h.size_lt)

lemma Regions.tableStart : wrappingAdd headerSize header.manifestSize =
    headerSize + header.manifestSize := h.wrap (by have := h.unsigned; have := h.total; omega)

lemma Regions.payloadStart :
    wrappingAdd (wrappingAdd headerSize header.manifestSize) header.tableSize =
      headerSize + header.manifestSize + header.tableSize := by
  rw [h.tableStart]
  exact h.wrap (by have := h.unsigned; have := h.total; omega)

lemma readManifest_inBounds : readManifest bytes header ≠ .outOfBounds := by
  have hread : headerSize + header.manifestSize ≤ bytes.length := by
    have := h.unsigned
    have := h.total
    omega
  rw [readManifest, Checked.read_of_le hread, Checked.done_bind]
  split
  · simp
  split
  · simp
  · exact Checked.bind_ne_outOfBounds Checked.guard_ne_outOfBounds fun _ _ =>
      Checked.bind_ne_outOfBounds Checked.guard_ne_outOfBounds fun _ _ =>
        Checked.bind_ne_outOfBounds Checked.guard_ne_outOfBounds fun _ _ => by simp [pure]

lemma checkEntry_inBounds {payloadStart : ℕ} (hp : payloadStart + header.payloadSize ≤ bytes.length)
    (crypto : CryptoProvider) (state : TableState) (file : VerifiedPackageFile) :
    checkEntry bytes header payloadStart crypto state file ≠ .outOfBounds := by
  rw [checkEntry]
  refine Checked.bind_ne_outOfBounds Checked.guard_ne_outOfBounds fun _ hguard => ?_
  simp only [Checked.guard_eq_done, Bool.and_eq_true, decide_eq_true_eq] at hguard
  have hrecord : state.cursor + recordSize ≤ bytes.length := by omega
  rw [Checked.read_of_le hrecord, Checked.done_bind, h.wrap hrecord]
  refine Checked.bind_ne_outOfBounds Checked.guard_ne_outOfBounds fun _ hentry => ?_
  simp only [Checked.guard_eq_done, Bool.and_eq_true, decide_eq_true_eq] at hentry
  obtain ⟨⟨⟨⟨⟨⟨⟨⟨-, -⟩, hcursor⟩, hpath⟩, -⟩, -⟩, -⟩, hoffset⟩, hsize⟩ := hentry
  rw [Checked.read_of_le (by omega), Checked.done_bind]
  refine Checked.bind_ne_outOfBounds Checked.guard_ne_outOfBounds fun _ _ => ?_
  refine Checked.bind_ne_outOfBounds Checked.guard_ne_outOfBounds fun _ _ => ?_
  refine Checked.bind_ne_outOfBounds Checked.guard_ne_outOfBounds fun _ _ => ?_
  rw [h.wrap (by omega), Checked.read_of_le (by omega), Checked.done_bind]
  split
  · simp
  · exact Checked.bind_ne_outOfBounds Checked.guard_ne_outOfBounds fun _ _ => by simp [pure]

lemma checkTable_inBounds {payloadStart : ℕ} (hp : payloadStart + header.payloadSize ≤ bytes.length)
    (crypto : CryptoProvider) (files : List VerifiedPackageFile) (state : TableState) :
    checkTable bytes header payloadStart crypto state files ≠ .outOfBounds := by
  induction files generalizing state with
  | nil => simp [checkTable, pure]
  | cons file files ih =>
    rw [checkTable]
    refine Checked.bind_ne_outOfBounds (checkEntry_inBounds h hp crypto state file) fun entry _ => ?_
    exact Checked.bind_ne_outOfBounds (ih entry.2) fun _ _ => by simp [pure]

lemma checkEnvelope_inBounds (hd : header.development = false) (manifest : VerifiedPackageManifest)
    (crypto : CryptoProvider) (trustedKeys : List TrustedPublicKey) :
    checkEnvelope bytes header manifest crypto trustedKeys ≠ .outOfBounds := by
  have hread : header.unsignedSize + signatureSize ≤ bytes.length := by
    have htotal := h.total
    rw [trailerSize, hd, if_neg (by simp)] at htotal
    omega
  have hsigner : ∀ id keys, findSigner crypto id keys ≠ .outOfBounds := by
    intro id keys
    induction keys with
    | nil => simp [findSigner]
    | cons key keys ih =>
      rw [findSigner]
      split
      · simp
      split
      · simp [pure]
      · exact ih
  rw [checkEnvelope, Checked.read_of_le hread, Checked.done_bind]
  refine Checked.bind_ne_outOfBounds Checked.guard_ne_outOfBounds fun _ _ => ?_
  refine Checked.bind_ne_outOfBounds Checked.guard_ne_outOfBounds fun _ _ => ?_
  refine Checked.bind_ne_outOfBounds (hsigner _ _) fun _ _ => ?_
  refine Checked.bind_ne_outOfBounds Checked.guard_ne_outOfBounds fun _ _ => ?_
  rw [Checked.read_of_le (by omega), Checked.done_bind]
  split
  · simp
  · exact Checked.guard_ne_outOfBounds

end

lemma verifyPackage_inBounds {bytes : Bytes} {allowDevelopment : Bool}
    (h : ∀ header, checkLayout bytes allowDevelopment = .done header → Regions header bytes.length)
    (crypto : CryptoProvider) (trustedKeys : List TrustedPublicKey) :
    verifyPackage bytes crypto trustedKeys allowDevelopment ≠ .outOfBounds := by
  have hlayout : checkLayout bytes allowDevelopment ≠ .outOfBounds := by
    rw [checkLayout]
    refine Checked.bind_ne_outOfBounds Checked.guard_ne_outOfBounds fun _ _ => ?_
    refine Checked.bind_ne_outOfBounds Checked.guard_ne_outOfBounds fun _ _ => ?_
    refine Checked.bind_ne_outOfBounds Checked.guard_ne_outOfBounds fun _ _ => ?_
    exact Checked.bind_ne_outOfBounds Checked.guard_ne_outOfBounds fun _ _ => by simp [pure]
  rw [verifyPackage]
  refine Checked.bind_ne_outOfBounds hlayout fun header hheader => ?_
  have hregions := h header hheader
  refine Checked.bind_ne_outOfBounds (readManifest_inBounds hregions) fun manifest _ => ?_
  have hpayload : headerSize + header.manifestSize + header.tableSize + header.payloadSize ≤
      bytes.length := by
    have := hregions.unsigned
    have := hregions.total
    omega
  simp only [hregions.payloadStart]
  refine Checked.bind_ne_outOfBounds (checkTable_inBounds hregions hpayload crypto _ _) fun _ _ => ?_
  refine Checked.bind_ne_outOfBounds Checked.guard_ne_outOfBounds fun _ _ => ?_
  cases hd : header.development with
  | true => simp [pure]
  | false =>
    rw [if_neg (by simp)]
    exact Checked.bind_ne_outOfBounds (checkEnvelope_inBounds hregions hd manifest crypto trustedKeys)
      fun _ _ => by simp [pure]

/-- What the layout check promises: the regions end at the end of the buffer, and no later read of
`verify_package` leaves it. -/
def LayoutBounds (bytes : Bytes) (allowDevelopment : Bool) : Prop :=
  ∀ header, checkLayout bytes allowDevelopment = .done header →
    headerSize + header.manifestSize + header.tableSize + header.payloadSize + trailerSize header =
        bytes.length ∧
      ∀ crypto trustedKeys, verifyPackage bytes crypto trustedKeys allowDevelopment ≠ .outOfBounds

/-- A production header in a buffer shorter than a signature envelope, with an unsigned size so close
to `2 ^ 64` that the unchecked addition of the envelope wraps to the size of the buffer. -/
structure WrappedHeader (bytes : Bytes) : Prop where
  header : headerOk bytes = true
  short : bytes.length < signatureSize
  flags : (readHeader bytes).flags = 0
  manifest : 0 < (readHeader bytes).manifestSize ∧
    (readHeader bytes).manifestSize ≤ maximumManifestSize
  entries : 0 < (readHeader bytes).entryCount ∧ (readHeader bytes).entryCount ≤ maximumFiles
  tableVersion : (readHeader bytes).tableVersion = 1
  reserved : (readHeader bytes).reserved = 0
  unsigned : (readHeader bytes).unsignedSize = 2 ^ 64 - (signatureSize - bytes.length)
  sum : headerSize + (readHeader bytes).manifestSize + (readHeader bytes).tableSize +
    (readHeader bytes).payloadSize = (readHeader bytes).unsignedSize
  total : (readHeader bytes).totalSize = bytes.length

lemma WrappedHeader.layout {bytes : Bytes} (h : WrappedHeader bytes) (allowDevelopment : Bool) :
    checkLayout bytes allowDevelopment = .done (readHeader bytes) := by
  have hsignature : signatureSize = 96 := rfl
  have hproduction : (readHeader bytes).development = false := by
    rw [PackageHeader.development, h.flags]
    rfl
  have htrailer : trailerSize (readHeader bytes) = signatureSize := by
    rw [trailerSize, hproduction, if_neg (by simp)]
  have hshort := h.short
  have hunsigned := h.unsigned
  refine checkLayout_done.mpr ⟨h.header, rfl, Or.inl h.flags, by simp [hproduction],
    h.manifest, h.entries, h.tableVersion, h.reserved, ⟨h.sum, by omega⟩, h.total, ?_⟩
  rw [htrailer, wrappingAdd, h.total]
  omega

lemma wraps_or_regions {bytes : Bytes} {allowDevelopment : Bool} {header : PackageHeader}
    (h : checkLayout bytes allowDevelopment = .done header) :
    WrappedHeader bytes ∨ Regions header bytes.length := by
  obtain ⟨hheader, rfl, hflags, -, hlayout⟩ := checkLayout_done.mp h
  obtain ⟨hmin, hsize⟩ := headerOk_size hheader
  rcases hlayout.regions_or_wraps hsize with hregions | ⟨hproduction, hwraps⟩
  · exact Or.inr hregions
  · left
    obtain ⟨hsum, hlt⟩ := hlayout.unsigned
    have hsignature : signatureSize = 96 := rfl
    refine ⟨hheader, by omega, ?_, hlayout.manifest, hlayout.entries, hlayout.tableVersion,
      hlayout.reserved, by omega, hsum, hlayout.total.1⟩
    rw [PackageHeader.development, decide_eq_false_iff_not] at hproduction
    exact hflags.resolve_right hproduction

theorem layout_bounds_iff (bytes : Bytes) (allowDevelopment : Bool) :
    LayoutBounds bytes allowDevelopment ↔ ¬ WrappedHeader bytes := by
  constructor
  · intro hbounds hwrapped
    have hshort := hwrapped.short
    have htotal := (hbounds _ (hwrapped.layout allowDevelopment)).1
    have hsignature : signatureSize = 96 := rfl
    rw [hwrapped.sum, hwrapped.unsigned] at htotal
    omega
  · intro hwrapped header hlayout
    have hregions : ∀ header, checkLayout bytes allowDevelopment = .done header →
        Regions header bytes.length :=
      fun _ h => (wraps_or_regions h).resolve_left hwrapped
    have hheader := hregions header hlayout
    refine ⟨?_, verifyPackage_inBounds hregions⟩
    rw [hheader.unsigned, hheader.total]

def wrappedPackage : Bytes :=
  packageMagic ++ littleEndian 2 1 ++ littleEndian 2 64 ++ littleEndian 4 0 ++ littleEndian 4 1 ++
    littleEndian 4 1 ++ littleEndian 8 0 ++ littleEndian 8 (2 ^ 64 - 97) ++
    littleEndian 8 (2 ^ 64 - 32) ++ littleEndian 8 64 ++ littleEndian 4 1 ++ littleEndian 4 0

/-- The layout check passes, and the manifest is then read past the end of the buffer. -/
theorem wrapped_package_escapes :
    ¬ LayoutBounds wrappedPackage false ∧
      ∀ crypto trustedKeys, verifyPackage wrappedPackage crypto trustedKeys false = .outOfBounds := by
  have hlayout : checkLayout wrappedPackage false = .done (readHeader wrappedPackage) := by
    decide
  have hread : readManifest wrappedPackage (readHeader wrappedPackage) = .outOfBounds := by
    decide
  have hescapes : ∀ crypto trustedKeys,
      verifyPackage wrappedPackage crypto trustedKeys false = .outOfBounds := by
    intro crypto trustedKeys
    rw [verifyPackage, hlayout, Checked.done_bind, hread]
    rfl
  refine ⟨?_, hescapes⟩
  intro hbounds
  exact absurd (hbounds _ hlayout).1 (by decide)

end LvglPlatform

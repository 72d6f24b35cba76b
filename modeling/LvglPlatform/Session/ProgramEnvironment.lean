import LvglPlatform.Runtime.DrmBackend
import LvglPlatform.Session.ProfileText
import LvglPlatform.Session.VerifiedProgram

namespace LvglPlatform

open Foundation

/-- The descriptors a program inherits; a negative one is not there. -/
structure ProgramDescriptors where
  control : ℤ
  touch : ℤ
  registry : ℤ
  storage : ℤ
  installer : ℤ
  drm : ℤ

def programSettings (descriptors : ProgramDescriptors) (programId : Bytes) (policy : ProgramPolicy)
    (profile : SessionProfile) : List (Bytes × Bytes) :=
  [(text "PATH", text "/usr/sbin:/usr/bin:/sbin:/bin"),
    (text "LVGL_SESSION_CONTROL_FD", signedDecimal descriptors.control),
    (text "LVGL_TOUCH_FD", signedDecimal descriptors.touch),
    (text "LVGL_DRM_FD", signedDecimal descriptors.drm),
    (text "LVGL_SANDBOX_REQUIRED", if profile.personalUnbound then text "0" else text "1"),
    (text "LVGL_APP_UID", decimal (if profile.personalUnbound then 0 else policy.uid)),
    (text "LVGL_LOGICAL_WIDTH", signedDecimal profile.logicalWidth),
    (text "LVGL_LOGICAL_HEIGHT", signedDecimal profile.logicalHeight),
    (text "LVGL_DRM_DEVICE", profile.drmDevice),
    (text "LVGL_DRM_CONNECTOR_ID", signedDecimal profile.connectorId),
    (text "LVGL_DRM_CRTC_ID", signedDecimal profile.crtcId),
    (text "LVGL_DRM_OVERLAY_PLANE_ID", signedDecimal profile.overlayPlaneId),
    (text "LVGL_DRM_OVERLAY_ZPOS", signedDecimal profile.overlayZpos),
    (text "LVGL_DISPLAY_X", signedDecimal profile.displayX),
    (text "LVGL_DISPLAY_Y", signedDecimal profile.displayY),
    (text "LVGL_DISPLAY_WIDTH", signedDecimal profile.displayWidth),
    (text "LVGL_DISPLAY_HEIGHT", signedDecimal profile.displayHeight),
    (text "LVGL_DISPLAY_ROTATION", signedDecimal profile.displayRotation),
    (text "LVGL_PIXEL_FORMAT", profile.pixelFormat),
    (text "LVGL_PROFILE_ID", profile.profileId),
    (text "LVGL_MACHINE", profile.machine),
    (text "LVGL_FOREGROUND_APP_ID", programId)]

def optionalSettings (descriptors : ProgramDescriptors) (previousError : Bytes) : List (Bytes × Bytes) :=
  (if descriptors.registry ≥ 0 then [(text "LVGL_APP_REGISTRY_FD", signedDecimal descriptors.registry)] else []) ++
    (if descriptors.storage ≥ 0 then [(text "LVGL_APP_STORAGE_FD", signedDecimal descriptors.storage)] else []) ++
    (if descriptors.installer ≥ 0 then [(text "LVGL_INSTALLER_FD", signedDecimal descriptors.installer)] else []) ++
    (if previousError ≠ [] then [(text "LVGL_APP_ERROR", previousError)] else [])

def programEnvironment (descriptors : ProgramDescriptors) (programId : Bytes) (policy : ProgramPolicy)
    (profile : SessionProfile) (previousError : Bytes) : List Bytes :=
  ((programSettings descriptors programId policy profile).map setting ++
    (optionalSettings descriptors previousError).map setting).map cString

structure AcceptedSession (profile : SessionProfile) : Prop where
  logical : (240 ≤ profile.logicalWidth ∧ profile.logicalWidth ≤ 4096) ∧
    80 ≤ profile.logicalHeight ∧ profile.logicalHeight ≤ 2048
  ids : ∀ id ∈ [profile.overlayPlaneId, profile.crtcId, profile.connectorId], 1 ≤ id ∧ id < 2 ^ 32
  zpos : 0 ≤ profile.overlayZpos ∧ profile.overlayZpos ≤ 128
  position : (0 ≤ profile.displayX ∧ profile.displayX ≤ 4096) ∧ 0 ≤ profile.displayY ∧ profile.displayY ≤ 4096
  size : (80 ≤ profile.displayWidth ∧ profile.displayWidth ≤ 4096) ∧
    80 ≤ profile.displayHeight ∧ profile.displayHeight ≤ 4096
  inside : profile.displayX + profile.displayWidth ≤ 4096 ∧ profile.displayY + profile.displayHeight ≤ 4096
  rotation : profile.displayRotation = 0 ∨ profile.displayRotation = 90 ∨ profile.displayRotation = 180 ∨
    profile.displayRotation = 270
  device : profile.drmDevice = text "/dev/dri/card0"
  format : profile.pixelFormat = text "XRGB8888" ∨ profile.pixelFormat = text "ARGB8888"

lemma ProfileValues.acceptedSession {value : String → Bytes} {profile : SessionProfile}
    (h : ProfileValues value profile) : AcceptedSession profile := by
  have hrange : ∀ {type : IntegerType} {digits : Bytes} {minimum maximum n : ℤ},
      parseInteger type digits minimum maximum = some n → type.lowest ≤ minimum → maximum ≤ type.highest →
      minimum ≤ n ∧ n ≤ maximum :=
    fun hn hlowest hhighest => ((parseInteger_some hlowest hhighest).mp hn).2.2
  obtain ⟨-, -, hdevice, hformat, ⟨hlogicalWidth, hlogicalHeight⟩, ⟨hconnector, hcrtc, hplane, hzpos⟩,
    ⟨hx, hy, hdisplayWidth, hdisplayHeight⟩, ⟨-, hrotation⟩, -, -, hinside⟩ := h
  have hid : ∀ {digits : Bytes} {n : ℤ}, parseInteger uint32 digits 1 (2 ^ 32 - 1) = some n →
      1 ≤ n ∧ n < 2 ^ 32 := by
    intro digits n hn
    have hbounds := hrange hn (by decide) (by decide)
    omega
  refine ⟨⟨hrange hlogicalWidth (by decide) (by decide), hrange hlogicalHeight (by decide) (by decide)⟩, ?_,
    hrange hzpos (by decide) (by decide),
    ⟨hrange hx (by decide) (by decide), hrange hy (by decide) (by decide)⟩,
    ⟨hrange hdisplayWidth (by decide) (by decide), hrange hdisplayHeight (by decide) (by decide)⟩, hinside,
    hrotation, hdevice, hformat⟩
  simp only [List.forall_mem_cons]
  exact ⟨hid hplane, hid hcrtc, hid hconnector, nofun⟩

lemma acceptedSession_of_ok {contents : Bytes} (h : (parseSessionProfile contents).ok = true) :
    AcceptedSession (parseSessionProfile contents).profile := by
  obtain ⟨fields, hfields⟩ := profileText_of_ok h
  obtain ⟨profile, hparse, hprofile⟩ := hfields.accepted
  rw [hparse]
  exact hprofile.acceptedSession

section

variable {descriptors : ProgramDescriptors} {programId previousError : Bytes} {policy : ProgramPolicy}
  {profile : SessionProfile} {name : Bytes}

lemma programSettings_names : (programSettings descriptors programId policy profile).map Prod.fst =
    [text "PATH", text "LVGL_SESSION_CONTROL_FD", text "LVGL_TOUCH_FD", text "LVGL_DRM_FD",
      text "LVGL_SANDBOX_REQUIRED", text "LVGL_APP_UID", text "LVGL_LOGICAL_WIDTH", text "LVGL_LOGICAL_HEIGHT",
      text "LVGL_DRM_DEVICE", text "LVGL_DRM_CONNECTOR_ID", text "LVGL_DRM_CRTC_ID",
      text "LVGL_DRM_OVERLAY_PLANE_ID", text "LVGL_DRM_OVERLAY_ZPOS", text "LVGL_DISPLAY_X",
      text "LVGL_DISPLAY_Y", text "LVGL_DISPLAY_WIDTH", text "LVGL_DISPLAY_HEIGHT", text "LVGL_DISPLAY_ROTATION",
      text "LVGL_PIXEL_FORMAT", text "LVGL_PROFILE_ID", text "LVGL_MACHINE", text "LVGL_FOREGROUND_APP_ID"] :=
  rfl

lemma getenv_programEnvironment {value : Bytes}
    (h : (name, value) ∈ programSettings descriptors programId policy profile) (hvalue : 0 ∉ value) :
    getenv (programEnvironment descriptors programId policy profile previousError) name = some value := by
  refine getenv_of_mem ?_ ?_ h hvalue _
  · rw [programSettings_names]
    decide
  · rw [programSettings_names]
    decide

lemma getenv_number {n : ℤ} (hn : 0 ≤ n)
    (h : (name, signedDecimal n) ∈ programSettings descriptors programId policy profile) :
    getenv (programEnvironment descriptors programId policy profile previousError) name =
      some (decimal n.toNat) := by
  have hdecimal : signedDecimal n = decimal n.toNat := by
    rw [signedDecimal, if_neg (by omega), show n.natAbs = n.toNat by omega]
  rw [hdecimal] at h
  refine getenv_programEnvironment h fun hzero => ?_
  exact absurd (decimal_range hzero).1 (by decide)

lemma environmentInteger_program {n minimum maximum k : ℤ} (hn : 0 ≤ n ∧ n < 2 ^ 32)
    (h : (name, signedDecimal n) ∈ programSettings descriptors programId policy profile) :
    environmentInteger (programEnvironment descriptors programId policy profile previousError) name minimum
      maximum = some k ↔ minimum ≤ n ∧ n ≤ maximum ∧ k = n := by
  rw [environmentInteger_decimal (getenv_number hn.1 h) (by omega), Int.toNat_of_nonneg hn.1]

end

def overlayReading (backend : DrmBackend) (profile : SessionProfile) : OverlayReading where
  backend := { backend with
    overlayX := profile.displayX
    overlayY := profile.displayY
    overlayWidth := profile.displayWidth
    overlayHeight := profile.displayHeight
    overlayZpos := profile.overlayZpos
    rotation := profile.displayRotation }
  configuredPlane := profile.overlayPlaneId
  configuredCrtc := profile.crtcId
  configuredConnector := profile.connectorId
  logicalWidth := profile.logicalWidth
  logicalHeight := profile.logicalHeight

def SmallIds (profile : SessionProfile) : Prop :=
  profile.overlayPlaneId < 2 ^ 31 ∧ profile.crtcId < 2 ^ 31 ∧ profile.connectorId < 2 ^ 31

section

variable {descriptors : ProgramDescriptors} {programId previousError : Bytes} {policy : ProgramPolicy}
  {profile : SessionProfile} {backend : DrmBackend}

lemma readOverlay_number {reading result : OverlayReading} {number : OverlayNumber} {numbers : List OverlayNumber}
    (i : ℕ) (n : ℤ)
    (h : (programSettings descriptors programId policy profile)[i]? = some (number.name, signedDecimal n))
    (hn : 0 ≤ n ∧ n < 2 ^ 32) :
    readOverlay (programEnvironment descriptors programId policy profile previousError) reading
        (number :: numbers) = (result, true) ↔
      (number.minimum ≤ n ∧ n ≤ number.maximum) ∧
        readOverlay (programEnvironment descriptors programId policy profile previousError)
          (number.fill reading n) numbers = (result, true) := by
  simp only [readOverlay_cons, environmentInteger_program hn (List.mem_of_getElem? h)]
  constructor
  · rintro ⟨k, ⟨hminimum, hmaximum, rfl⟩, hrest⟩
    exact ⟨⟨hminimum, hmaximum⟩, hrest⟩
  · rintro ⟨⟨hminimum, hmaximum⟩, hrest⟩
    exact ⟨n, ⟨hminimum, hmaximum, rfl⟩, hrest⟩

/-- The identifiers are the only numbers that are not read as they are. -/
lemma readOverlay_program (h : AcceptedSession profile) {result : OverlayReading} :
    readOverlay (programEnvironment descriptors programId policy profile previousError) { backend }
      overlayNumbers = (result, true) ↔ SmallIds profile ∧ overlayReading backend profile = result := by
  obtain ⟨⟨hwidth, hheight⟩, hids, hzpos, ⟨hx, hy⟩, ⟨hdisplayWidth, hdisplayHeight⟩, -, hrotation, -, -⟩ := h
  simp only [List.forall_mem_cons] at hids
  obtain ⟨hplane, hcrtc, hconnector, -⟩ := hids
  rw [overlayNumbers, readOverlay_number 11 profile.overlayPlaneId (by rfl) (by omega),
    readOverlay_number 10 profile.crtcId (by rfl) (by omega),
    readOverlay_number 9 profile.connectorId (by rfl) (by omega),
    readOverlay_number 13 profile.displayX (by rfl) (by omega),
    readOverlay_number 14 profile.displayY (by rfl) (by omega),
    readOverlay_number 15 profile.displayWidth (by rfl) (by omega),
    readOverlay_number 16 profile.displayHeight (by rfl) (by omega),
    readOverlay_number 12 profile.overlayZpos (by rfl) (by omega),
    readOverlay_number 17 profile.displayRotation (by rfl) (by omega),
    readOverlay_number 6 profile.logicalWidth (by rfl) (by omega),
    readOverlay_number 7 profile.logicalHeight (by rfl) (by omega), readOverlay_nil, SmallIds]
  dsimp only
  constructor
  · rintro ⟨hplane, hcrtc, hconnector, -, -, -, -, -, -, -, -, rfl⟩
    exact ⟨⟨by omega, by omega, by omega⟩, rfl⟩
  · rintro ⟨⟨hplane', hcrtc', hconnector'⟩, rfl⟩
    exact ⟨by omega, by omega, by omega, hx, hy, hdisplayWidth, hdisplayHeight, hzpos, by omega, hwidth, hheight,
      rfl⟩

structure ShowsOverlay (profile : SessionProfile) (backend : DrmBackend) : Prop where
  ids : ∀ id ∈ [(backend.planeId, profile.overlayPlaneId), (backend.crtcId, profile.crtcId),
    (backend.connectorId, profile.connectorId)], (id.1.toNat : ℤ) = id.2
  zpos : backend.overlayZpos = profile.overlayZpos
  rectangle : backend.overlayX = profile.displayX ∧ backend.overlayY = profile.displayY ∧
    backend.overlayWidth = profile.displayWidth ∧ backend.overlayHeight = profile.displayHeight
  rotation : backend.rotation = profile.displayRotation
  format : (backend.framebufferFormat = .argb8888 ∧ profile.pixelFormat = text "ARGB8888") ∨
    (backend.framebufferFormat = .xrgb8888 ∧ profile.pixelFormat = text "XRGB8888")
  buffer : (⟨backend.bufferWidth, backend.bufferHeight⟩ : Size) =
    if profile.displayRotation = 90 ∨ profile.displayRotation = 270 then
      ⟨profile.logicalHeight, profile.logicalWidth⟩
    else ⟨profile.logicalWidth, profile.logicalHeight⟩
  mode : (backend.hdisplay.toNat : ℤ) = backend.bufferWidth ∧ (backend.vdisplay.toNat : ℤ) = backend.bufferHeight
  overlayMode : backend.overlayMode = true

lemma showsOverlay_configured (h : AcceptedSession profile) :
    ShowsOverlay profile ((overlayReading backend profile).configured profile.pixelFormat) := by
  obtain ⟨⟨hwidth, hheight⟩, hids, -, -, -, -, hrotation, -, hformat⟩ := h
  have hid : ∀ id : ℤ, 1 ≤ id ∧ id < 2 ^ 32 → ((UInt32.ofInt id).toNat : ℤ) = id :=
    fun id h => uint32_ofInt (by omega)
  simp only [List.forall_mem_cons] at hids
  refine ⟨?_, rfl, ⟨rfl, rfl, rfl, rfl⟩, rfl, ?_, ?_, ⟨uint16_ofInt ?_, uint16_ofInt ?_⟩, rfl⟩
  · simp only [List.forall_mem_cons]
    exact ⟨hid _ hids.1, hid _ hids.2.1, hid _ hids.2.2.1, nofun⟩
  · rcases hformat with hformat | hformat
    · have hother : profile.pixelFormat ≠ text "ARGB8888" := by
        rw [hformat]
        decide
      exact Or.inr ⟨if_neg hother, hformat⟩
    · exact Or.inl ⟨if_pos hformat, hformat⟩
  · dsimp only [OverlayReading.configured, overlayReading, bufferSize]
    split <;> rfl
  · dsimp only [overlayReading, bufferSize]
    split <;> omega
  · dsimp only [overlayReading, bufferSize]
    split <;> omega

variable (h : AcceptedSession profile) (hsize : profile.logicalWidth = backend.profile.logicalWidth ∧
  profile.logicalHeight = backend.profile.logicalHeight)

include h

lemma getenv_plane : getenv (programEnvironment descriptors programId policy profile previousError)
    (text "LVGL_DRM_OVERLAY_PLANE_ID") ≠ none := by
  have hplane := (h.ids profile.overlayPlaneId List.mem_cons_self).1
  rw [getenv_number (n := profile.overlayPlaneId) (by omega) (List.mem_of_getElem? (i := 11) rfl)]
  exact nofun

lemma configureOverlay_large (hlarge : ¬SmallIds profile) :
    (configureOverlay (programEnvironment descriptors programId policy profile previousError) backend).2 =
      false := by
  rw [configureOverlay, if_neg (getenv_plane h)]
  cases hread : readOverlay (programEnvironment descriptors programId policy profile previousError) { backend }
    overlayNumbers with
  | mk reading complete =>
    cases complete with
    | false => rfl
    | true => exact absurd ((readOverlay_program h).mp hread).1 hlarge

include hsize

lemma misfits_overlayReading : (overlayReading backend profile).misfits = false := by
  obtain ⟨hx, hy⟩ := h.inside
  have hrotation := h.rotation
  simp only [OverlayReading.misfits, overlayReading, hsize, Bool.or_eq_false_iff, decide_eq_false_iff_not,
    Bool.and_eq_false_iff]
  refine ⟨⟨⟨⟨not_not.mpr rfl, not_not.mpr rfl⟩, ?_⟩, ?_⟩, ?_⟩
  · simpa only [not_not, or_assoc] using hrotation
  · omega
  · omega

lemma configureOverlay_small (hsmall : SmallIds profile) :
    configureOverlay (programEnvironment descriptors programId policy profile previousError) backend =
      if backend.profile.drmDevice = text "/dev/dri/card0" then
        ((overlayReading backend profile).configured profile.pixelFormat, true)
      else (overlayReading backend profile).backend.fail (text "certified overlay format") := by
  have hformat := h.format
  have hplain : 0 ∉ profile.drmDevice ∧ 0 ∉ profile.pixelFormat := by
    rw [h.device]
    rcases hformat with hformat | hformat <;> rw [hformat] <;> decide
  rw [configureOverlay, if_neg (getenv_plane h), (readOverlay_program h).mpr ⟨hsmall, rfl⟩]
  simp only [Bool.not_true, Bool.false_or, misfits_overlayReading h hsize, Bool.false_eq_true, if_false]
  rw [getenv_programEnvironment (List.mem_of_getElem? (i := 8) rfl) hplain.1,
    getenv_programEnvironment (List.mem_of_getElem? (i := 18) rfl) hplain.2]
  dsimp only
  rw [h.device]
  by_cases hdevice : backend.profile.drmDevice = text "/dev/dri/card0"
  · rw [if_pos hdevice, if_neg]
    rintro (hother | ⟨hxrgb, hargb⟩)
    · exact hother hdevice.symm
    · exact hformat.elim hxrgb hargb
  · rw [if_neg hdevice, if_pos (Or.inl (Ne.symm hdevice))]

end

/-- A program shows the overlay of an accepted profile of its size if and only if the three identifiers are less
than `2 ^ 31` and its own profile has the device of the session. -/
theorem overlay_shown_iff (contents : Bytes) (descriptors : ProgramDescriptors) (programId previousError : Bytes)
    (policy : ProgramPolicy) (backend : DrmBackend) (hok : (parseSessionProfile contents).ok = true)
    (hsize : (parseSessionProfile contents).profile.logicalWidth = backend.profile.logicalWidth ∧
      (parseSessionProfile contents).profile.logicalHeight = backend.profile.logicalHeight) :
    let profile := (parseSessionProfile contents).profile
    let configured :=
      configureOverlay (programEnvironment descriptors programId policy profile previousError) backend
    configured.2 = true ∧ ShowsOverlay profile configured.1 ↔
      SmallIds profile ∧ backend.profile.drmDevice = text "/dev/dri/card0" := by
  have haccepted := acceptedSession_of_ok hok
  dsimp only
  by_cases hsmall : SmallIds (parseSessionProfile contents).profile
  · rw [configureOverlay_small haccepted hsize hsmall]
    split <;> rename_i hdevice
    · exact iff_of_true ⟨rfl, showsOverlay_configured haccepted⟩ ⟨hsmall, hdevice⟩
    · exact iff_of_false (fun h => Bool.false_ne_true h.1) fun h => hdevice h.2
  · refine iff_of_false (fun h => ?_) fun h => hsmall h.1
    rw [configureOverlay_large haccepted hsmall] at h
    exact Bool.false_ne_true h.1

section

def penDescriptors : ProgramDescriptors := ⟨3, 4, 5, -1, -1, 6⟩

def largeProfileLines : List Bytes := demoProfileLines.set 5 (text "DRM_CONNECTOR_ID=2147483648")

theorem large_connector_refused :
    let result := parseSessionProfile (linesText largeProfileLines)
    let environment := programEnvironment penDescriptors (text "top.lvgl.desktop") {} result.profile []
    result.ok = true ∧ result.profile.logicalWidth = kY01Profile.logicalWidth ∧
      result.profile.logicalHeight = kY01Profile.logicalHeight ∧
      (configureOverlay environment { profile := kY01Profile }).2 = false := by
  decide +kernel

theorem certified_profile_shown :
    let profile := (parseSessionProfile (linesText demoProfileLines)).profile
    let configured := configureOverlay
      (programEnvironment penDescriptors (text "top.lvgl.desktop") {} profile []) { profile := kY01Profile }
    configured.2 = true ∧ ShowsOverlay profile configured.1 := by
  have hok : (parseSessionProfile (linesText demoProfileLines)).ok = true := by decide +kernel
  have hsize : (parseSessionProfile (linesText demoProfileLines)).profile.logicalWidth = kY01Profile.logicalWidth ∧
      (parseSessionProfile (linesText demoProfileLines)).profile.logicalHeight = kY01Profile.logicalHeight := by
    decide +kernel
  have hsmall : SmallIds (parseSessionProfile (linesText demoProfileLines)).profile := by
    rw [SmallIds]
    decide +kernel
  have hshown := overlay_shown_iff _ penDescriptors (text "top.lvgl.desktop") [] {} { profile := kY01Profile } hok
    hsize
  exact hshown.mpr ⟨hsmall, rfl⟩

end

end LvglPlatform

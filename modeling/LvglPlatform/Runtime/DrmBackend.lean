import LvglPlatform.Foundation.Environment
import LvglPlatform.Platform.NumberText
import LvglPlatform.Runtime.InputBackend
import LvglPlatform.Runtime.OverlayCopy

namespace LvglPlatform

open Foundation

def kY01Profile : RuntimeProfile where
  drmDevice := text "/dev/dri/card0"
  physicalWidth := 480
  physicalHeight := 960
  logicalWidth := 960
  logicalHeight := 266
  touchCrossAxisOffset := 113

inductive PixelFormat
  | xrgb8888
  | argb8888
  deriving DecidableEq

structure DrmBackend where
  profile : RuntimeProfile
  connectorId : UInt32 := 0
  crtcId : UInt32 := 0
  planeId : UInt32 := 0
  framebufferFormat : PixelFormat := .xrgb8888
  hdisplay : UInt16 := 0
  vdisplay : UInt16 := 0
  overlayMode : Bool := false
  overlayX : ℤ := 0
  overlayY : ℤ := 0
  overlayWidth : ℤ := 0
  overlayHeight : ℤ := 0
  overlayZpos : ℤ := 0
  bufferWidth : ℤ := 0
  bufferHeight : ℤ := 0
  rotation : ℤ := 0
  error : Bytes := []

def DrmBackend.fail (backend : DrmBackend) (operation : Bytes) : DrmBackend × Bool :=
  ({ backend with error := operation ++ text ": Invalid argument" }, false)

def environmentInteger (environment : List Bytes) (name : Bytes) (minimum maximum : ℤ) : Option ℤ := do
  let value ← getenv environment name
  let parsed ← strtol value
  if parsed < minimum ∨ parsed > maximum then none else some parsed

/-- The backend and the variables of the function while the numbers are read. -/
structure OverlayReading where
  backend : DrmBackend
  configuredPlane : ℤ := 0
  configuredCrtc : ℤ := 0
  configuredConnector : ℤ := 0
  logicalWidth : ℤ := 0
  logicalHeight : ℤ := 0

structure OverlayNumber where
  name : Bytes
  minimum : ℤ
  maximum : ℤ
  fill : OverlayReading → ℤ → OverlayReading

def overlayNumbers : List OverlayNumber :=
  [⟨text "LVGL_DRM_OVERLAY_PLANE_ID", 1, 2 ^ 31 - 1, fun reading n => { reading with configuredPlane := n }⟩,
    ⟨text "LVGL_DRM_CRTC_ID", 1, 2 ^ 31 - 1, fun reading n => { reading with configuredCrtc := n }⟩,
    ⟨text "LVGL_DRM_CONNECTOR_ID", 1, 2 ^ 31 - 1, fun reading n => { reading with configuredConnector := n }⟩,
    ⟨text "LVGL_DISPLAY_X", 0, 4096, fun reading n =>
      { reading with backend := { reading.backend with overlayX := n } }⟩,
    ⟨text "LVGL_DISPLAY_Y", 0, 4096, fun reading n =>
      { reading with backend := { reading.backend with overlayY := n } }⟩,
    ⟨text "LVGL_DISPLAY_WIDTH", 80, 4096, fun reading n =>
      { reading with backend := { reading.backend with overlayWidth := n } }⟩,
    ⟨text "LVGL_DISPLAY_HEIGHT", 80, 4096, fun reading n =>
      { reading with backend := { reading.backend with overlayHeight := n } }⟩,
    ⟨text "LVGL_DRM_OVERLAY_ZPOS", 0, 128, fun reading n =>
      { reading with backend := { reading.backend with overlayZpos := n } }⟩,
    ⟨text "LVGL_DISPLAY_ROTATION", 0, 270, fun reading n =>
      { reading with backend := { reading.backend with rotation := n } }⟩,
    ⟨text "LVGL_LOGICAL_WIDTH", 240, 4096, fun reading n => { reading with logicalWidth := n }⟩,
    ⟨text "LVGL_LOGICAL_HEIGHT", 80, 2048, fun reading n => { reading with logicalHeight := n }⟩]

/-- The numbers are read until one fails; those before it stay. -/
def readOverlay (environment : List Bytes) : OverlayReading → List OverlayNumber → OverlayReading × Bool
  | reading, [] => (reading, true)
  | reading, number :: numbers =>
    match environmentInteger environment number.name number.minimum number.maximum with
    | none => (reading, false)
    | some n => readOverlay environment (number.fill reading n) numbers

def OverlayReading.misfits (reading : OverlayReading) : Bool :=
  let backend := reading.backend
  reading.logicalWidth ≠ backend.profile.logicalWidth || reading.logicalHeight ≠ backend.profile.logicalHeight ||
    (backend.rotation ≠ 0 && backend.rotation ≠ 90 && backend.rotation ≠ 180 && backend.rotation ≠ 270) ||
    backend.overlayX > 4096 - backend.overlayWidth || backend.overlayY > 4096 - backend.overlayHeight

def OverlayReading.configured (reading : OverlayReading) (pixel : Bytes) : DrmBackend :=
  let buffer := bufferSize reading.backend.rotation ⟨reading.logicalWidth, reading.logicalHeight⟩
  { reading.backend with
    planeId := UInt32.ofInt reading.configuredPlane
    crtcId := UInt32.ofInt reading.configuredCrtc
    connectorId := UInt32.ofInt reading.configuredConnector
    framebufferFormat := if pixel = text "ARGB8888" then .argb8888 else .xrgb8888
    bufferWidth := buffer.width
    bufferHeight := buffer.height
    hdisplay := UInt16.ofInt buffer.width
    vdisplay := UInt16.ofInt buffer.height
    overlayMode := true }

def configureOverlay (environment : List Bytes) (backend : DrmBackend) : DrmBackend × Bool :=
  if getenv environment (text "LVGL_DRM_OVERLAY_PLANE_ID") = none then (backend, true)
  else
    let (reading, complete) := readOverlay environment { backend } overlayNumbers
    if !complete || reading.misfits then reading.backend.fail (text "certified overlay environment")
    else match getenv environment (text "LVGL_DRM_DEVICE"), getenv environment (text "LVGL_PIXEL_FORMAT") with
      | some device, some pixel =>
        if device ≠ backend.profile.drmDevice ∨ (pixel ≠ text "XRGB8888" ∧ pixel ≠ text "ARGB8888") then
          reading.backend.fail (text "certified overlay format")
        else (reading.configured pixel, true)
      | _, _ => reading.backend.fail (text "certified overlay format")

lemma uint32_ofInt {n : ℤ} (h : 0 ≤ n ∧ n < 2 ^ 32) : ((UInt32.ofInt n).toNat : ℤ) = n := by
  rw [UInt32.ofInt, UInt32.toNat_ofNat']
  omega

lemma uint16_ofInt {n : ℤ} (h : 0 ≤ n ∧ n < 2 ^ 16) : ((UInt16.ofInt n).toNat : ℤ) = n := by
  rw [UInt16.ofInt, UInt16.toNat_ofNat']
  omega

section

variable {environment : List Bytes} {name : Bytes} {minimum maximum : ℤ}

lemma environmentInteger_decimal {n : ℕ} {k : ℤ} (hvalue : getenv environment name = some (decimal n))
    (hn : n < 2 ^ 63) :
    environmentInteger environment name minimum maximum = some k ↔ minimum ≤ n ∧ n ≤ maximum ∧ k = n := by
  simp only [environmentInteger, hvalue, strtol_decimal hn, Option.bind_eq_bind, Option.bind_some]
  split <;> rename_i hrange
  · refine iff_of_false nofun ?_
    omega
  · rw [Option.some.injEq]
    omega

lemma readOverlay_nil {reading result : OverlayReading} :
    readOverlay environment reading [] = (result, true) ↔ reading = result := by
  simp [readOverlay]

lemma readOverlay_cons {reading result : OverlayReading} {number : OverlayNumber} {numbers : List OverlayNumber} :
    readOverlay environment reading (number :: numbers) = (result, true) ↔
      ∃ n, environmentInteger environment number.name number.minimum number.maximum = some n ∧
        readOverlay environment (number.fill reading n) numbers = (result, true) := by
  cases hn : environmentInteger environment number.name number.minimum number.maximum with
  | none => simp [readOverlay, hn]
  | some n => simp [readOverlay, hn]

end

end LvglPlatform

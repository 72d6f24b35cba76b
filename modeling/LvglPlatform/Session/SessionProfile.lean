import LvglPlatform.Foundation.DecimalText
import LvglPlatform.Platform.Primitives

namespace LvglPlatform

open Foundation

structure SessionProfile where
  profileId : Bytes := []
  machine : Bytes := []
  drmDevice : Bytes := []
  pixelFormat : Bytes := []
  logicalWidth : ℤ := 0
  logicalHeight : ℤ := 0
  connectorId : ℤ := 0
  crtcId : ℤ := 0
  overlayPlaneId : ℤ := 0
  overlayZpos : ℤ := 0
  displayX : ℤ := 0
  displayY : ℤ := 0
  displayWidth : ℤ := 0
  displayHeight : ℤ := 0
  displayRotation : ℤ := 0
  holeSessionCertified : Bool := false
  personalUnbound : Bool := false
  deriving DecidableEq

structure SessionProfileParseResult where
  profile : SessionProfile := {}
  detail : Bytes := []
  deriving DecidableEq

def SessionProfileParseResult.ok (result : SessionProfileParseResult) : Bool := result.detail = []

def profileKeys : List Bytes :=
  [text "PROFILE_ID", text "MACHINE", text "LOGICAL_WIDTH", text "LOGICAL_HEIGHT", text "DRM_DEVICE",
    text "DRM_CONNECTOR_ID", text "DRM_CRTC_ID", text "DRM_OVERLAY_PLANE_ID", text "DRM_OVERLAY_ZPOS",
    text "DISPLAY_X", text "DISPLAY_Y", text "DISPLAY_WIDTH", text "DISPLAY_HEIGHT",
    text "PIXEL_FORMAT", text "DISPLAY_ROTATION", text "HOLE_SESSION_CERTIFIED",
    text "PERSONAL_UNBOUND"]

def isUpper (c : UInt8) : Bool := chr 'A' ≤ c && c ≤ chr 'Z'

def tokenByte (c : UInt8) : Bool :=
  isLower c || isUpper c || isDigit c || c = chr '.' || c = chr '-' || c = chr '_' || c = chr '+'

def validProfileToken (value : Bytes) (limit : ℕ) : Bool :=
  if value = [] ∨ value.length > limit then false else value.all tokenByte

def parseInteger (type : IntegerType) (value : Bytes) (minimum maximum : ℤ) : Option ℤ :=
  if value = [] ∨ value.length > 10 then none
  else match type.fromChars value with
    | none => none
    | some (parsed, rest) =>
      if rest ≠ [] ∨ parsed < minimum ∨ parsed > maximum then none else some parsed

/-- The loop over the lines, with the fields it has collected. -/
def readProfileLines : List (Bytes × Bytes) → List Bytes → Except Bytes (List (Bytes × Bytes))
  | values, [] => .ok values
  | values, line :: lines =>
    match splitFirst (chr '=') line with
    | none => .error (text "SESSION_PROFILE_LINE_INVALID")
    | some (key, value) =>
      if key = [] ∨ value = [] then .error (text "SESSION_PROFILE_LINE_INVALID")
      else if key ∉ profileKeys ∨ key ∈ values.map Prod.fst then
        .error (text "SESSION_PROFILE_SCHEMA_INVALID")
      else readProfileLines (values ++ [(key, value)]) lines

/-- `values[key]`, which is empty if there is no such key. -/
def profileValue (values : List (Bytes × Bytes)) (key : Bytes) : Bytes :=
  ((values.find? fun field => field.1 = key).map Prod.snd).getD []

/-- A condition of the check of the values: it may fill in a field on the way. -/
abbrev ProfileStep := SessionProfile → Option SessionProfile

def requires (condition : SessionProfile → Bool) : ProfileStep :=
  fun profile => if condition profile then some profile else none

def readsInteger (type : IntegerType) (value : Bytes) (minimum maximum : ℤ)
    (fill : SessionProfile → ℤ → SessionProfile) : ProfileStep :=
  fun profile => (parseInteger type value minimum maximum).map (fill profile)

/-- The conditions one after another; the first that fails leaves what was filled in before it. -/
def checkProfile : SessionProfile → List ProfileStep → SessionProfile × Bool
  | profile, [] => (profile, true)
  | profile, step :: steps =>
    match step profile with
    | none => (profile, false)
    | some profile => checkProfile profile steps

def profileSteps (value : String → Bytes) : List ProfileStep :=
  [requires fun profile => validProfileToken profile.profileId 128 && validProfileToken profile.machine 32 &&
      profile.drmDevice = text "/dev/dri/card0" &&
      (profile.pixelFormat = text "XRGB8888" || profile.pixelFormat = text "ARGB8888"),
    readsInteger int32 (value "LOGICAL_WIDTH") 240 4096 fun profile n => { profile with logicalWidth := n },
    readsInteger int32 (value "LOGICAL_HEIGHT") 80 2048 fun profile n => { profile with logicalHeight := n },
    readsInteger uint32 (value "DRM_CONNECTOR_ID") 1 (2 ^ 32 - 1) fun profile n =>
      { profile with connectorId := n },
    readsInteger uint32 (value "DRM_CRTC_ID") 1 (2 ^ 32 - 1) fun profile n => { profile with crtcId := n },
    readsInteger uint32 (value "DRM_OVERLAY_PLANE_ID") 1 (2 ^ 32 - 1) fun profile n =>
      { profile with overlayPlaneId := n },
    readsInteger int32 (value "DRM_OVERLAY_ZPOS") 0 128 fun profile n => { profile with overlayZpos := n },
    readsInteger int32 (value "DISPLAY_X") 0 4096 fun profile n => { profile with displayX := n },
    readsInteger int32 (value "DISPLAY_Y") 0 4096 fun profile n => { profile with displayY := n },
    readsInteger int32 (value "DISPLAY_WIDTH") 80 4096 fun profile n => { profile with displayWidth := n },
    readsInteger int32 (value "DISPLAY_HEIGHT") 80 4096 fun profile n => { profile with displayHeight := n },
    readsInteger uint16 (value "DISPLAY_ROTATION") 0 270 fun profile n =>
      { profile with displayRotation := n },
    requires fun profile => profile.displayRotation = 0 || profile.displayRotation = 90 ||
      profile.displayRotation = 180 || profile.displayRotation = 270,
    requires fun _ => value "HOLE_SESSION_CERTIFIED" = text "1" || value "HOLE_SESSION_CERTIFIED" = text "0",
    requires fun _ => value "PERSONAL_UNBOUND" = text "1" || value "PERSONAL_UNBOUND" = text "0",
    requires fun _ => value "HOLE_SESSION_CERTIFIED" = text "1" || value "PERSONAL_UNBOUND" = text "1"]

def profileOfValues (value : String → Bytes) : SessionProfileParseResult :=
  let profile : SessionProfile := {
    profileId := value "PROFILE_ID"
    machine := value "MACHINE"
    drmDevice := value "DRM_DEVICE"
    pixelFormat := value "PIXEL_FORMAT" }
  match checkProfile profile (profileSteps value) with
  | (profile, false) => { profile, detail := text "SESSION_PROFILE_VALUE_INVALID" }
  | (profile, true) =>
    if profile.displayX > 4096 - profile.displayWidth ∨
        profile.displayY > 4096 - profile.displayHeight then
      { profile, detail := text "SESSION_PROFILE_RECTANGLE_INVALID" }
    else { profile := { profile with
      personalUnbound := value "PERSONAL_UNBOUND" = text "1"
      holeSessionCertified := value "HOLE_SESSION_CERTIFIED" = text "1" } }

def parseSessionProfile (contents : Bytes) : SessionProfileParseResult :=
  if contents = [] ∨ contents.length > 4096 ∨ contents.getLast? ≠ some (chr '\n') ∨
      chr '\r' ∈ contents ∨ 0 ∈ contents then
    { detail := text "SESSION_PROFILE_ENCODING_INVALID" }
  else match readProfileLines [] (linesOf (chr '\n') contents) with
    | .error detail => { detail }
    | .ok values =>
      if values.length ≠ profileKeys.length then { detail := text "SESSION_PROFILE_FIELDS_MISSING" }
      else profileOfValues fun key => profileValue values (text key)

end LvglPlatform

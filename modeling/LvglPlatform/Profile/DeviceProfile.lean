import LvglPlatform.Package.Manifest
import LvglPlatform.Profile.Transform

/-! Device profiles: the JSON documents that are accepted, and where they put the points of the screen. -/

namespace LvglPlatform

open Foundation

structure DeviceIdentity where
  model : Bytes
  firmware : Bytes
  pcba : Bytes
  machine : Bytes
  libc : Bytes
  bits : ℕ := 0

structure DeviceProfile where
  id : Bytes
  identity : DeviceIdentity
  logical : Size
  physical : Size
  display : Transform
  touch : Transform
  drmDevice : Bytes
  connector : Bytes
  touchName : Bytes
  pixelFormat : Bytes
  requiresOverlayPlane : Bool := true
  requiresTouchForwarding : Bool := true

inductive ProfileError
  | invalid
  | unsupportedSchema
  deriving DecidableEq

/-- RapidJSON with its default flags: the characters of a string are not checked to be UTF-8. -/
def uncheckedJson : Json.Dialect UInt8 :=
  { rapidJson with
    plain := fun s => match s with
      | [] => none
      | u :: rest => some ([u], rest)
    plain_ascii := fun _ _ _ _ => rfl }

def hasOnlyMembers (value : JsonValue) (allowed : List Bytes) : Bool :=
  match value with
  | .object members => members.all fun field => field.1 ∈ allowed
  | _ => false

def readString (object : JsonValue) (key : Bytes) : Option Bytes := stringValue (member object key) 255

def readRange (low high : ℤ) (object : JsonValue) (key : Bytes) : Option ℤ :=
  match member object key with
  | some (.number (.integer n)) => if -(2 ^ 31) ≤ n ∧ n < 2 ^ 31 ∧ low ≤ n ∧ n ≤ high then some n else none
  | _ => none

def readPositiveInt : JsonValue → Bytes → Option ℤ := readRange 1 8192

def readInt : JsonValue → Bytes → Option ℤ := readRange (-8192) 8192

def readBool (object : JsonValue) (key : Bytes) : Option Bool :=
  match member object key with
  | some (.bool b) => some b
  | _ => none

def readObject (object : JsonValue) (key : Bytes) : Option JsonValue :=
  match member object key with
  | some (.object members) => some (.object members)
  | _ => none

def readSize (object : JsonValue) : Option Size := do
  let width ← readPositiveInt object (text "width")
  let height ← readPositiveInt object (text "height")
  return ⟨width, height⟩

def readTransform (object : JsonValue) : Option Transform := do
  let degrees ← readInt object (text "clockwiseDegrees")
  if degrees ≠ 0 ∧ degrees ≠ 90 ∧ degrees ≠ 180 ∧ degrees ≠ 270 then none
  let offsetX ← readInt object (text "offsetX")
  let offsetY ← readInt object (text "offsetY")
  return ⟨degrees.toNat, offsetX, offsetY⟩

def sizeMembers : List Bytes := [text "width", text "height"]

def transformMembers : List Bytes := [text "clockwiseDegrees", text "offsetX", text "offsetY"]

structure ProfileObjects where
  identity : JsonValue
  logical : JsonValue
  physical : JsonValue
  display : JsonValue
  touch : JsonValue
  devices : JsonValue
  requirements : JsonValue

def readObjects (document : JsonValue) : Option ProfileObjects := do
  let identity ← readObject document (text "match")
  let logical ← readObject document (text "logicalScreen")
  let physical ← readObject document (text "physicalScreen")
  let display ← readObject document (text "displayTransform")
  let touch ← readObject document (text "touchTransform")
  let devices ← readObject document (text "devices")
  let requirements ← readObject document (text "requirements")
  let _ ← readObject document (text "certification")
  return ⟨identity, logical, physical, display, touch, devices, requirements⟩

def hasOnlyProfileMembers (document : JsonValue) (objects : ProfileObjects) : Bool :=
  hasOnlyMembers document [text "schemaVersion", text "profileId", text "match", text "logicalScreen",
      text "physicalScreen", text "displayTransform", text "touchTransform", text "devices",
      text "requirements", text "certification"] &&
    hasOnlyMembers objects.identity [text "model", text "firmware", text "pcba", text "machine",
      text "libc", text "bits"] &&
    hasOnlyMembers objects.logical sizeMembers && hasOnlyMembers objects.physical sizeMembers &&
    hasOnlyMembers objects.display transformMembers && hasOnlyMembers objects.touch transformMembers &&
    hasOnlyMembers objects.devices [text "drm", text "connector", text "touchName", text "pixelFormat"] &&
    hasOnlyMembers objects.requirements [text "overlayPlane", text "falconTouchForwarding"]

/-- The bits of the machine are read after everything else. -/
def readIdentity (object : JsonValue) : Option DeviceIdentity := do
  let model ← readString object (text "model")
  let firmware ← readString object (text "firmware")
  let pcba ← readString object (text "pcba")
  let machine ← readString object (text "machine")
  let libc ← readString object (text "libc")
  return { model, firmware, pcba, machine, libc }

def readFields (document : JsonValue) (objects : ProfileObjects) : Option DeviceProfile := do
  let id ← readString document (text "profileId")
  let identity ← readIdentity objects.identity
  let logical ← readSize objects.logical
  let physical ← readSize objects.physical
  let display ← readTransform objects.display
  let touch ← readTransform objects.touch
  let drmDevice ← readString objects.devices (text "drm")
  let connector ← readString objects.devices (text "connector")
  let touchName ← readString objects.devices (text "touchName")
  let pixelFormat ← readString objects.devices (text "pixelFormat")
  let requiresOverlayPlane ← readBool objects.requirements (text "overlayPlane")
  let requiresTouchForwarding ← readBool objects.requirements (text "falconTouchForwarding")
  return ⟨id, identity, logical, physical, display, touch, drmDevice, connector, touchName, pixelFormat,
    requiresOverlayPlane, requiresTouchForwarding⟩

def readProfile (document : JsonValue) : Option DeviceProfile := do
  let objects ← readObjects document
  if hasOnlyProfileMembers document objects then readFields document objects else none

def logicalToPhysical (logical : Point) (profile : DeviceProfile) : Option Point :=
  rotateLogical logical profile.logical profile.display

def DeviceProfile.corners (profile : DeviceProfile) : List Point :=
  [⟨0, 0⟩, ⟨profile.logical.width - 1, 0⟩, ⟨0, profile.logical.height - 1⟩,
    ⟨profile.logical.width - 1, profile.logical.height - 1⟩]

def insidePhysical (profile : DeviceProfile) (corner : Point) : Bool :=
  match logicalToPhysical corner profile with
  | none => false
  | some corner => !(corner.x < 0 || corner.y < 0 || corner.x ≥ profile.physical.width ||
      corner.y ≥ profile.physical.height)

/-- The bits of the machine and the corners of the screen, the last checks of a profile. -/
def finishProfile (document : JsonValue) (profile : DeviceProfile) :
    Except (ProfileError × Bytes) DeviceProfile :=
  match (readObject document (text "match")).bind fun object => uintValue (member object (text "bits")) with
  | none => .error (.invalid, text "profile bits must be 32 or 64")
  | some bits =>
    if bits ≠ 32 ∧ bits ≠ 64 then .error (.invalid, text "profile bits must be 32 or 64")
    else
      let profile := { profile with identity := { profile.identity with bits } }
      if !profile.corners.all (insidePhysical profile) then
        .error (.invalid, text "display transform falls outside the physical screen")
      else .ok profile

def parseDeviceProfile (json : Bytes) : Except (ProfileError × Bytes) DeviceProfile :=
  if json = [] ∨ json.length > 64 * 1024 then
    .error (.invalid, text "profile length is outside the allowed range")
  else match uncheckedJson.parse (skipMark json) with
    | some (.object members) =>
      if uintValue (member (.object members) (text "schemaVersion")) ≠ some 1 then
        .error (.unsupportedSchema, text "unsupported profile schema version")
      else match readProfile (.object members) with
        | none => .error (.invalid, text "profile is missing a required field or contains an invalid value")
        | some profile => finishProfile (.object members) profile
    | _ => .error (.invalid, text "profile is not valid JSON object data")

lemma readRange_range {low high n : ℤ} {object : JsonValue} {key : Bytes}
    (h : readRange low high object key = some n) : low ≤ n ∧ n ≤ high := by
  rw [readRange] at h
  split at h
  · split at h <;> rename_i hrange
    · obtain rfl := Option.some.inj h
      exact hrange.2.2
    · cases h
  · cases h

lemma readSize_range {object : JsonValue} {size : Size} (h : readSize object = some size) :
    (1 ≤ size.width ∧ size.width ≤ 8192) ∧ 1 ≤ size.height ∧ size.height ≤ 8192 := by
  simp only [readSize, Option.bind_eq_bind, Option.bind_eq_some_iff] at h
  obtain ⟨width, hwidth, height, hheight, hsize⟩ := h
  obtain rfl := Option.some.inj hsize
  exact ⟨readRange_range hwidth, readRange_range hheight⟩

lemma readTransform_range {object : JsonValue} {transform : Transform}
    (h : readTransform object = some transform) :
    transform.clockwiseDegrees ∈ [0, 90, 180, 270] ∧
      (-8192 ≤ transform.offsetX ∧ transform.offsetX ≤ 8192) ∧
      -8192 ≤ transform.offsetY ∧ transform.offsetY ≤ 8192 := by
  simp only [readTransform, Option.bind_eq_bind, Option.bind_eq_some_iff] at h
  obtain ⟨degrees, -, h⟩ := h
  split at h <;> rename_i hdegrees
  · simp at h
  · simp only [Option.bind_eq_some_iff] at h
    obtain ⟨offsetX, hoffsetX, offsetY, hoffsetY, htransform⟩ := h
    obtain rfl := Option.some.inj htransform
    refine ⟨?_, readRange_range hoffsetX, readRange_range hoffsetY⟩
    simp only [List.mem_cons, List.not_mem_nil, or_false]
    omega

lemma readProfile_ranges {document : JsonValue} {profile : DeviceProfile}
    (h : readProfile document = some profile) :
    Rotatable profile.logical profile.display ∧ Rotatable profile.logical profile.touch := by
  rw [readProfile, Option.bind_eq_bind] at h
  obtain ⟨objects, -, h⟩ := Option.bind_eq_some_iff.mp h
  split at h
  · simp only [readFields, Option.bind_eq_bind, Option.bind_eq_some_iff] at h
    obtain ⟨id, -, identity, -, logical, hlogical, physical, -, display, hdisplay, touch, htouch, h⟩ := h
    obtain ⟨drmDevice, -, connector, -, touchName, -, pixelFormat, -, overlay, -, forwarding, -, hprofile⟩ := h
    obtain rfl := Option.some.inj hprofile
    obtain ⟨hwidth, hheight⟩ := readSize_range hlogical
    obtain ⟨hdegrees, hoffsetX, hoffsetY⟩ := readTransform_range hdisplay
    obtain ⟨hdegrees', hoffsetX', hoffsetY'⟩ := readTransform_range htouch
    exact ⟨⟨hwidth, hheight, hoffsetX, hoffsetY, hdegrees⟩, ⟨hwidth, hheight, hoffsetX', hoffsetY', hdegrees'⟩⟩
  · cases h

structure AcceptedProfile (profile : DeviceProfile) : Prop where
  display : Rotatable profile.logical profile.display
  touch : Rotatable profile.logical profile.touch
  corners : ∀ corner ∈ profile.corners, insidePhysical profile corner = true

lemma finishProfile_ok {document : JsonValue} {profile checked : DeviceProfile}
    (h : finishProfile document profile = .ok checked) : checked.logical = profile.logical ∧
      checked.display = profile.display ∧ checked.touch = profile.touch ∧
      ∀ corner ∈ checked.corners, insidePhysical checked corner = true := by
  rw [finishProfile] at h
  split at h
  · cases h
  split at h
  · cases h
  dsimp only at h
  split at h <;> rename_i hcorners
  · cases h
  · obtain rfl := Except.ok.inj h
    rw [Bool.not_eq_true', Bool.not_eq_false] at hcorners
    exact ⟨rfl, rfl, rfl, List.all_eq_true.mp hcorners⟩

lemma parseDeviceProfile_ok {json : Bytes} {profile : DeviceProfile} (h : parseDeviceProfile json = .ok profile) :
    AcceptedProfile profile := by
  rw [parseDeviceProfile] at h
  split at h
  · cases h
  split at h
  · split at h
    · cases h
    split at h <;> rename_i hread
    · cases h
    · obtain ⟨hlogical, hdisplay, htouch, hcorners⟩ := finishProfile_ok h
      obtain ⟨hranges, hranges'⟩ := readProfile_ranges hread
      rw [← hlogical] at hranges hranges'
      exact ⟨hdisplay ▸ hranges, htouch ▸ hranges', hcorners⟩
  · cases h

lemma AcceptedProfile.onScreen {profile : DeviceProfile} (h : AcceptedProfile profile) {corner : Point}
    (hcorner : corner ∈ profile.corners) (hpoint : OnScreen corner profile.logical) :
    OnScreen (rotated corner profile.logical profile.display) profile.physical := by
  have hinside := h.corners corner hcorner
  rw [insidePhysical, logicalToPhysical, rotateLogical_eq h.display.representable, clamped_eq hpoint] at hinside
  simp only [Bool.not_eq_true', Bool.or_eq_false_iff, decide_eq_false_iff_not, not_lt, ge_iff_le, not_le] at hinside
  obtain ⟨⟨⟨hx, hy⟩, hwidth⟩, hheight⟩ := hinside
  exact ⟨⟨hx, hwidth⟩, hy, hheight⟩

/-- An accepted profile puts every point on its physical screen, with no overflow on the way. A point that has
been rotated is rotated back to the point of the logical screen that is nearest to it. -/
theorem logical_points_on_screen :
    (∀ json profile, parseDeviceProfile json = .ok profile → ∀ point, ∃ physical,
      logicalToPhysical point profile = some physical ∧ OnScreen physical profile.physical) ∧
    ∀ logical transform, Rotatable logical transform → ∀ point,
      (rotateLogical point logical transform).bind (inverseRotate · logical transform) =
        some (clamped point logical) := by
  constructor
  · intro json profile h point
    have haccepted := parseDeviceProfile_ok h
    refine ⟨_, rotateLogical_eq haccepted.display.representable, onScreen_rotated haccepted.display ?_
      (onScreen_clamped haccepted.display.representable)⟩
    obtain ⟨hwidth, -⟩ := haccepted.display.width
    obtain ⟨hheight, -⟩ := haccepted.display.height
    intro x hx y hy
    simp only [List.mem_cons, List.not_mem_nil, or_false] at hx hy
    refine haccepted.onScreen ?_ ⟨by dsimp only; omega, by dsimp only; omega⟩
    rcases hx with rfl | rfl <;> rcases hy with rfl | rfl <;> simp [DeviceProfile.corners]
  · intro logical transform hrotatable point
    rw [rotateLogical_eq hrotatable.representable, Option.bind_some]
    exact inverseRotate_rotated hrotatable (onScreen_clamped hrotatable.representable)

def sizeDocument (size : Size) : JsonValue :=
  .object [(text "width", .number (.integer size.width)), (text "height", .number (.integer size.height))]

def transformDocument (transform : Transform) : JsonValue :=
  .object [(text "clockwiseDegrees", .number (.integer transform.clockwiseDegrees)),
    (text "offsetX", .number (.integer transform.offsetX)),
    (text "offsetY", .number (.integer transform.offsetY))]

def identityDocument (identity : DeviceIdentity) : JsonValue :=
  .object [(text "model", .string identity.model), (text "firmware", .string identity.firmware),
    (text "pcba", .string identity.pcba), (text "machine", .string identity.machine),
    (text "libc", .string identity.libc), (text "bits", .number (.integer identity.bits))]

namespace DeviceProfile

variable (profile : DeviceProfile)

def devicesDocument : JsonValue :=
  .object [(text "drm", .string profile.drmDevice), (text "connector", .string profile.connector),
    (text "touchName", .string profile.touchName), (text "pixelFormat", .string profile.pixelFormat)]

def requirementsDocument : JsonValue :=
  .object [(text "overlayPlane", .bool profile.requiresOverlayPlane),
    (text "falconTouchForwarding", .bool profile.requiresTouchForwarding)]

def document : JsonValue :=
  .object [(text "schemaVersion", .number (.integer 1)), (text "profileId", .string profile.id),
    (text "match", identityDocument profile.identity), (text "logicalScreen", sizeDocument profile.logical),
    (text "physicalScreen", sizeDocument profile.physical),
    (text "displayTransform", transformDocument profile.display),
    (text "touchTransform", transformDocument profile.touch), (text "devices", profile.devicesDocument),
    (text "requirements", profile.requirementsDocument), (text "certification", .object [])]

def objects : ProfileObjects where
  identity := identityDocument profile.identity
  logical := sizeDocument profile.logical
  physical := sizeDocument profile.physical
  display := transformDocument profile.display
  touch := transformDocument profile.touch
  devices := profile.devicesDocument
  requirements := profile.requirementsDocument

def texts : List Bytes :=
  [profile.id, profile.identity.model, profile.identity.firmware, profile.identity.pcba,
    profile.identity.machine, profile.identity.libc, profile.drmDevice, profile.connector,
    profile.touchName, profile.pixelFormat]

lemma document_objects : readObjects profile.document = some profile.objects ∧
    hasOnlyProfileMembers profile.document profile.objects = true := ⟨rfl, rfl⟩

end DeviceProfile

structure WritableProfile (profile : DeviceProfile) : Prop where
  accepted : AcceptedProfile profile
  physical : (1 ≤ profile.physical.width ∧ profile.physical.width ≤ 8192) ∧
    1 ≤ profile.physical.height ∧ profile.physical.height ≤ 8192
  bits : profile.identity.bits = 32 ∨ profile.identity.bits = 64
  texts : ∀ s ∈ profile.texts, s ≠ [] ∧ s.length ≤ 255 ∧ 0 ∉ s

lemma stringValue_valid {s : Bytes} (h : s ≠ [] ∧ s.length ≤ 255 ∧ 0 ∉ s) :
    stringValue (some (.string s)) 255 = some s := by
  obtain ⟨hne, hlength, hzero⟩ := h
  rw [stringValue, if_neg]
  rintro (hlong | hempty | hmem)
  · omega
  · exact hne (List.length_eq_zero_iff.mp hempty)
  · exact hzero hmem

lemma readRange_some {low high n : ℤ} {object : JsonValue} {key : Bytes} (hlow : -8192 ≤ low) (hhigh : high ≤ 8192)
    (hmember : member object key = some (.number (.integer n))) (h : low ≤ n ∧ n ≤ high) :
    readRange low high object key = some n := by
  rw [readRange, hmember]
  exact if_pos ⟨by omega, by omega, h⟩

lemma readSize_document {size : Size}
    (h : (1 ≤ size.width ∧ size.width ≤ 8192) ∧ 1 ≤ size.height ∧ size.height ≤ 8192) :
    readSize (sizeDocument size) = some size := by
  rw [readSize, readPositiveInt, readRange_some (by decide) le_rfl rfl h.1, Option.bind_eq_bind,
    Option.bind_some, readRange_some (by decide) le_rfl rfl h.2]
  rfl

lemma readTransform_document {logical : Size} {transform : Transform} (h : Rotatable logical transform) :
    readTransform (transformDocument transform) = some transform := by
  have hdegrees := h.degrees
  simp only [List.mem_cons, List.not_mem_nil, or_false] at hdegrees
  rw [readTransform, readInt, readRange_some le_rfl le_rfl rfl (by omega), Option.bind_eq_bind, Option.bind_some,
    if_neg (by omega), readRange_some le_rfl le_rfl rfl h.offsetX,
    readRange_some le_rfl le_rfl rfl h.offsetY]
  rfl

lemma readIdentity_document {identity : DeviceIdentity}
    (h : ∀ s ∈ [identity.model, identity.firmware, identity.pcba, identity.machine, identity.libc],
      s ≠ [] ∧ s.length ≤ 255 ∧ 0 ∉ s) :
    readIdentity (identityDocument identity) = some { identity with bits := 0 } := by
  simp only [List.forall_mem_cons] at h
  obtain ⟨hmodel, hfirmware, hpcba, hmachine, hlibc, -⟩ := h
  have hread : ∀ key s, member (identityDocument identity) key = some (.string s) →
      (s ≠ [] ∧ s.length ≤ 255 ∧ 0 ∉ s) → readString (identityDocument identity) key = some s := by
    intro key s hmember hvalid
    rw [readString, hmember, stringValue_valid hvalid]
  rw [readIdentity, hread _ identity.model rfl hmodel, hread _ identity.firmware rfl hfirmware,
    hread _ identity.pcba rfl hpcba, hread _ identity.machine rfl hmachine, hread _ identity.libc rfl hlibc]
  rfl

lemma WritableProfile.readProfile_document {profile : DeviceProfile} (h : WritableProfile profile) :
    readProfile profile.document = some { profile with identity := { profile.identity with bits := 0 } } := by
  obtain ⟨hobjects, hmembers⟩ := profile.document_objects
  have htexts := h.texts
  simp only [DeviceProfile.texts, List.forall_mem_cons] at htexts
  obtain ⟨hid, hmodel, hfirmware, hpcba, hmachine, hlibc, hdrm, hconnector, htouch, hpixel, -⟩ := htexts
  have hread : ∀ object key s, member object key = some (.string s) →
      (s ≠ [] ∧ s.length ≤ 255 ∧ 0 ∉ s) → readString object key = some s := by
    intro object key s hmember hvalid
    rw [readString, hmember, stringValue_valid hvalid]
  rw [readProfile, hobjects, Option.bind_eq_bind, Option.bind_some, hmembers, if_pos rfl, readFields,
    hread _ _ profile.id rfl hid, DeviceProfile.objects, readIdentity_document (by
      simp only [List.forall_mem_cons]
      exact ⟨hmodel, hfirmware, hpcba, hmachine, hlibc, nofun⟩),
    readSize_document ⟨h.accepted.display.width, h.accepted.display.height⟩, readSize_document h.physical,
    readTransform_document h.accepted.display, readTransform_document h.accepted.touch,
    hread _ _ profile.drmDevice rfl hdrm, hread _ _ profile.connector rfl hconnector,
    hread _ _ profile.touchName rfl htouch, hread _ _ profile.pixelFormat rfl hpixel]
  rfl

lemma readable_unchecked (s : Bytes) : uncheckedJson.Readable s := by
  induction s with
  | nil => exact .nil
  | cons u s ih =>
    by_cases h : u.toNat < 128
    · exact .ascii u s h ih
    · exact .plain [u] s (List.cons_ne_nil _ _) (fun c hc => by rw [List.mem_singleton.mp hc]; exact not_lt.mp h)
        (fun rest => rfl) ih

lemma exact_unchecked {n : ℤ} (hlow : -8192 ≤ n) (hhigh : n ≤ 8192) : uncheckedJson.exact n = true := by
  change (decide (-2 ^ 63 ≤ n) && decide (n < 2 ^ 64)) = true
  rw [Bool.and_eq_true, decide_eq_true_eq, decide_eq_true_eq]
  omega

lemma WritableProfile.printable {profile : DeviceProfile} (h : WritableProfile profile) :
    uncheckedJson.Printable profile.document := by
  have hsize : ∀ size : Size, (1 ≤ size.width ∧ size.width ≤ 8192) ∧ 1 ≤ size.height ∧ size.height ≤ 8192 →
      uncheckedJson.Printable (sizeDocument size) := by
    rintro size ⟨hwidth, hheight⟩
    exact ⟨rfl, readable_unchecked _, exact_unchecked (by omega) hwidth.2, readable_unchecked _,
      exact_unchecked (by omega) hheight.2, trivial⟩
  have htransform : ∀ transform : Transform, Rotatable profile.logical transform →
      uncheckedJson.Printable (transformDocument transform) := by
    intro transform hrotatable
    have hdegrees := hrotatable.degrees
    simp only [List.mem_cons, List.not_mem_nil, or_false] at hdegrees
    exact ⟨rfl, readable_unchecked _, exact_unchecked (by omega) (by omega), readable_unchecked _,
      exact_unchecked hrotatable.offsetX.1 hrotatable.offsetX.2, readable_unchecked _,
      exact_unchecked hrotatable.offsetY.1 hrotatable.offsetY.2, trivial⟩
  have hstrings : ∀ fields : List (Bytes × Bytes), uncheckedJson.Printable
      (.object (fields.map fun field => (field.1, .string field.2))) := by
    intro fields
    refine ⟨rfl, ?_⟩
    induction fields with
    | nil => trivial
    | cons field fields ih => exact ⟨readable_unchecked _, readable_unchecked _, ih⟩
  have hbits : uncheckedJson.exact (profile.identity.bits : ℤ) = true := by
    have hvalue := h.bits
    exact exact_unchecked (by omega) (by omega)
  have hidentity : uncheckedJson.Printable (identityDocument profile.identity) :=
    ⟨rfl, readable_unchecked _, readable_unchecked _, readable_unchecked _, readable_unchecked _,
      readable_unchecked _, readable_unchecked _, readable_unchecked _, readable_unchecked _,
      readable_unchecked _, readable_unchecked _, readable_unchecked _, hbits, trivial⟩
  have hrequirements : uncheckedJson.Printable profile.requirementsDocument :=
    ⟨rfl, readable_unchecked _, trivial, readable_unchecked _, trivial, trivial⟩
  exact ⟨rfl, readable_unchecked _, rfl, readable_unchecked _, readable_unchecked _,
    readable_unchecked _, hidentity,
    readable_unchecked _, hsize _ ⟨h.accepted.display.width, h.accepted.display.height⟩,
    readable_unchecked _, hsize _ h.physical,
    readable_unchecked _, htransform _ h.accepted.display,
    readable_unchecked _, htransform _ h.accepted.touch,
    readable_unchecked _, hstrings [(text "drm", profile.drmDevice), (text "connector", profile.connector),
      (text "touchName", profile.touchName), (text "pixelFormat", profile.pixelFormat)],
    readable_unchecked _, hrequirements, readable_unchecked _, ⟨rfl, trivial⟩, trivial⟩

theorem parseDeviceProfile_document {profile : DeviceProfile} (h : WritableProfile profile)
    (hlength : (uncheckedJson.print profile.document).length ≤ 64 * 1024) :
    parseDeviceProfile (uncheckedJson.print profile.document) = .ok profile := by
  have hhead : ∃ rest, uncheckedJson.print profile.document = 123 :: rest := ⟨_, rfl⟩
  obtain ⟨rest, hrest⟩ := hhead
  have hmark : skipMark (uncheckedJson.print profile.document) = uncheckedJson.print profile.document := by
    rw [hrest]
    rfl
  have hbits : (readObject profile.document (text "match")).bind
      (fun object => uintValue (member object (text "bits"))) = some profile.identity.bits := by
    have hobject : readObject profile.document (text "match") = some (identityDocument profile.identity) := rfl
    have hmember : member (identityDocument profile.identity) (text "bits") =
        some (.number (.integer profile.identity.bits)) := rfl
    have hvalue := h.bits
    rw [hobject, Option.bind_some, hmember, uintValue, if_pos (by omega), Int.toNat_natCast]
  have hschema : uintValue (member profile.document (text "schemaVersion")) = some 1 := rfl
  have hread := h.readProfile_document
  have hcorners : profile.corners.all (insidePhysical profile) = true := List.all_eq_true.mpr h.accepted.corners
  have hparse := Json.Dialect.parse_print h.printable
  rw [← hmark] at hparse
  rw [parseDeviceProfile, if_neg (by rw [hrest]; rw [hrest] at hlength; simp at hlength ⊢; omega), hparse]
  obtain ⟨members, hmembers⟩ : ∃ members, profile.document = .object members := ⟨_, rfl⟩
  rw [hmembers] at hbits hschema hread ⊢
  dsimp only
  rw [hschema, if_neg (not_not.mpr rfl), hread]
  dsimp only
  rw [finishProfile, hbits]
  dsimp only
  rw [if_neg (by have hvalue := h.bits; omega), if_neg]
  rw [Bool.not_eq_true', Bool.not_eq_false]
  exact hcorners

def y01Profile : DeviceProfile where
  id := text "youdao-y01-4.8.6"
  identity := {
    model := text "OVERHEAD_Y01_SKU_CHN_PRO"
    firmware := text "4.8.6"
    pcba := text "RK3562_Orange_V0"
    machine := text "aarch64"
    libc := text "glibc-2.36"
    bits := 64 }
  logical := ⟨960, 266⟩
  physical := ⟨480, 960⟩
  display := ⟨270, 107, 0⟩
  touch := ⟨270, 113, 0⟩
  drmDevice := text "/dev/dri/card0"
  connector := text "DSI-1"
  touchName := text "hyn_ts"
  pixelFormat := text "XRGB8888"

lemma writable_y01 : WritableProfile y01Profile :=
  ⟨⟨⟨by decide, by decide, by decide, by decide, by decide⟩, ⟨by decide, by decide, by decide, by decide, by decide⟩,
    by decide⟩, by decide, by decide, by decide⟩

theorem y01_points_on_screen :
    (∃ physical, logicalToPhysical ⟨2000, -5⟩ y01Profile = some physical ∧ OnScreen physical y01Profile.physical) ∧
      (rotateLogical ⟨2000, -5⟩ y01Profile.logical y01Profile.touch).bind
        (inverseRotate · y01Profile.logical y01Profile.touch) = some ⟨959, 0⟩ :=
  ⟨logical_points_on_screen.1 _ y01Profile (parseDeviceProfile_document writable_y01 (by decide +kernel)) ⟨2000, -5⟩,
    logical_points_on_screen.2 _ _ writable_y01.accepted.touch ⟨2000, -5⟩⟩

end LvglPlatform

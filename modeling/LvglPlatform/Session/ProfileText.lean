import LvglPlatform.Foundation.Environment
import LvglPlatform.Session.SessionProfile

/-! The texts `parse_session_profile` accepts, and the order of their lines. -/

namespace LvglPlatform

open Foundation

def linesText (lines : List Bytes) : Bytes := lines.flatMap fun line => line ++ [chr '\n']

inductive ProfileRule
  | token (limit : ℕ)
  | oneOf (choices : List Bytes)
  | number (signed : Bool) (allowed : ℤ → Prop)

def ProfileRule.Allows : ProfileRule → Bytes → Prop
  | .token limit, value => value ≠ [] ∧ value.length ≤ limit ∧ ∀ c ∈ value, tokenByte c = true
  | .oneOf choices, value => value ∈ choices
  | .number signed allowed, value => value.length ≤ 10 ∧ ∃ n, Decimal signed value n ∧ allowed n

def between (minimum maximum : ℤ) (n : ℤ) : Prop := minimum ≤ n ∧ n ≤ maximum

def profileRules : List (Bytes × ProfileRule) :=
  [(text "PROFILE_ID", .token 128),
    (text "MACHINE", .token 32),
    (text "LOGICAL_WIDTH", .number true (between 240 4096)),
    (text "LOGICAL_HEIGHT", .number true (between 80 2048)),
    (text "DRM_DEVICE", .oneOf [text "/dev/dri/card0"]),
    (text "DRM_CONNECTOR_ID", .number false (between 1 4294967295)),
    (text "DRM_CRTC_ID", .number false (between 1 4294967295)),
    (text "DRM_OVERLAY_PLANE_ID", .number false (between 1 4294967295)),
    (text "DRM_OVERLAY_ZPOS", .number true (between 0 128)),
    (text "DISPLAY_X", .number true (between 0 4096)),
    (text "DISPLAY_Y", .number true (between 0 4096)),
    (text "DISPLAY_WIDTH", .number true (between 80 4096)),
    (text "DISPLAY_HEIGHT", .number true (between 80 4096)),
    (text "PIXEL_FORMAT", .oneOf [text "XRGB8888", text "ARGB8888"]),
    (text "DISPLAY_ROTATION", .number false fun n => n = 0 ∨ n = 90 ∨ n = 180 ∨ n = 270),
    (text "HOLE_SESSION_CERTIFIED", .oneOf [text "1", text "0"]),
    (text "PERSONAL_UNBOUND", .oneOf [text "1", text "0"])]

/-- The fields of a profile: every key once, with a value its rule allows. -/
structure ProfileFields (fields : List (Bytes × Bytes)) : Prop where
  keys : (fields.map Prod.fst).Perm (profileRules.map Prod.fst)
  values : ∀ rule ∈ profileRules, ∀ value, (rule.1, value) ∈ fields → rule.2.Allows value
  inside : ∀ axis ∈ [(text "DISPLAY_X", text "DISPLAY_WIDTH"), (text "DISPLAY_Y", text "DISPLAY_HEIGHT")],
    ∀ position size m n, (axis.1, position) ∈ fields → (axis.2, size) ∈ fields →
      Decimal true position m → Decimal true size n → m + n ≤ 4096
  mode : (text "HOLE_SESSION_CERTIFIED", text "1") ∈ fields ∨ (text "PERSONAL_UNBOUND", text "1") ∈ fields

/-- The text is at most 4096 bytes of lines, which are the fields of a profile. -/
structure ProfileText (contents : Bytes) (fields : List (Bytes × Bytes)) : Prop where
  lines : contents = linesText (fields.map setting)
  size : contents.length ≤ 4096
  plain : chr '\r' ∉ contents ∧ 0 ∉ contents
  filled : ∀ field ∈ fields, field.2 ≠ [] ∧ chr '\n' ∉ field.2
  fields : ProfileFields fields

structure LinesPermuted (contents contents' : Bytes) : Prop where
  lines : (linesOf (chr '\n') contents).Perm (linesOf (chr '\n') contents')
  terminated : contents.getLast? = some (chr '\n') ↔ contents'.getLast? = some (chr '\n')

/-- The profile says what the fields say. -/
structure Describes (fields : List (Bytes × Bytes)) (profile : SessionProfile) : Prop where
  texts : ∀ entry ∈ [("PROFILE_ID", profile.profileId), ("MACHINE", profile.machine),
      ("DRM_DEVICE", profile.drmDevice), ("PIXEL_FORMAT", profile.pixelFormat)],
    (text entry.1, entry.2) ∈ fields
  numbers : ∀ entry ∈ [("LOGICAL_WIDTH", true, profile.logicalWidth),
      ("LOGICAL_HEIGHT", true, profile.logicalHeight), ("DRM_CONNECTOR_ID", false, profile.connectorId),
      ("DRM_CRTC_ID", false, profile.crtcId), ("DRM_OVERLAY_PLANE_ID", false, profile.overlayPlaneId),
      ("DRM_OVERLAY_ZPOS", true, profile.overlayZpos), ("DISPLAY_X", true, profile.displayX),
      ("DISPLAY_Y", true, profile.displayY), ("DISPLAY_WIDTH", true, profile.displayWidth),
      ("DISPLAY_HEIGHT", true, profile.displayHeight),
      ("DISPLAY_ROTATION", false, profile.displayRotation)],
    ∃ value, (text entry.1, value) ∈ fields ∧ Decimal entry.2.1 value entry.2.2
  modes : (profile.holeSessionCertified = true ↔ (text "HOLE_SESSION_CERTIFIED", text "1") ∈ fields) ∧
    (profile.personalUnbound = true ↔ (text "PERSONAL_UNBOUND", text "1") ∈ fields)

lemma profileKeys_nodup : profileKeys.Nodup := by decide

lemma profileKeys_plain : ∀ key ∈ profileKeys, key ≠ [] ∧ chr '=' ∉ key ∧ chr '\n' ∉ key ∧
    key.length ≤ 32 := by decide

section

variable {values all fields : List (Bytes × Bytes)} {line : Bytes} {lines lines' : List Bytes}

def lineField (line : Bytes) : Bytes × Bytes := (splitFirst (chr '=') line).getD ([], [])

/-- A line of the profile with a key of its own. -/
def ProfileLine (line : Bytes) : Prop :=
  setting (lineField line) = line ∧ (lineField line).1 ∈ profileKeys ∧ (lineField line).2 ≠ []

lemma lineField_setting {field : Bytes × Bytes} (h : field.1 ∈ profileKeys) :
    lineField (setting field) = field := by
  have hkey := (profileKeys_plain field.1 h).2.1
  rw [lineField, setting, splitFirst_append hkey]
  rfl

/-- The loop collects the fields of its lines; it fails where a line is none or repeats a key. -/
lemma readProfileLines_ok (hkeys : (values.map Prod.fst).Nodup) :
    readProfileLines values lines = .ok all ↔
      (∀ line ∈ lines, ProfileLine line) ∧ all = values ++ lines.map lineField ∧
        (all.map Prod.fst).Nodup := by
  induction lines generalizing values with
  | nil =>
    rw [readProfileLines, List.map_nil, List.append_nil]
    constructor
    · intro h
      obtain rfl := Except.ok.inj h
      exact ⟨nofun, rfl, hkeys⟩
    · rintro ⟨-, rfl, -⟩
      rfl
  | cons line lines ih =>
    rw [readProfileLines, List.forall_mem_cons, List.map_cons]
    cases hsplit : splitFirst (chr '=') line with
    | none =>
      have hfield : lineField line = ([], []) := by rw [lineField, hsplit]; rfl
      refine iff_of_false (by simp) ?_
      rintro ⟨⟨hline, -⟩, -⟩
      have hnonempty := hline.2.2
      rw [hfield] at hnonempty
      exact hnonempty rfl
    | some field =>
      obtain ⟨key, value⟩ := field
      have hfield : lineField line = (key, value) := by rw [lineField, hsplit]; rfl
      obtain ⟨rfl, -⟩ := splitFirst_some hsplit
      dsimp only
      split <;> rename_i hempty
      · refine iff_of_false (by simp) ?_
        rintro ⟨⟨hline, -⟩, -⟩
        obtain ⟨-, hkey, hvalue⟩ := hline
        rw [hfield] at hkey hvalue
        rcases hempty with rfl | rfl
        · exact (profileKeys_plain [] hkey).1 rfl
        · exact hvalue rfl
      split <;> rename_i hschema
      · refine iff_of_false (by simp) ?_
        rintro ⟨⟨hline, -⟩, rfl, hnodup⟩
        obtain ⟨-, hkey, -⟩ := hline
        rw [hfield] at hkey hnodup
        rcases hschema with hunknown | hrepeated
        · exact hunknown hkey
        · rw [List.map_append, List.nodup_append] at hnodup
          exact hnodup.2.2 key hrepeated key (by simp) rfl
      · simp only [not_or, not_not] at hempty hschema
        have hnext : ((values ++ [(key, value)]).map Prod.fst).Nodup := by
          rw [List.map_append, List.map_singleton, List.nodup_append]
          refine ⟨hkeys, List.nodup_singleton _, ?_⟩
          rintro other hother _ hkey rfl
          rw [List.mem_singleton.mp hkey] at hother
          exact hschema.2 hother
        have hline : ProfileLine (key ++ chr '=' :: value) := by
          rw [ProfileLine, hfield]
          exact ⟨rfl, hschema.1, hempty.2⟩
        rw [ih hnext, hfield, List.append_assoc, List.singleton_append]
        simp only [hline, true_and]

lemma readProfileLines_start :
    readProfileLines [] lines = .ok all ↔ (∀ line ∈ lines, ProfileLine line) ∧
      all = lines.map lineField ∧ (all.map Prod.fst).Nodup :=
  readProfileLines_ok List.nodup_nil

lemma readProfileLines_perm (h : lines.Perm lines') (hread : readProfileLines [] lines = .ok all) :
    ∃ all', readProfileLines [] lines' = .ok all' ∧ all.Perm all' := by
  obtain ⟨hlines, rfl, hnodup⟩ := readProfileLines_start.mp hread
  have hfields : (lines.map lineField).Perm (lines'.map lineField) := h.map lineField
  refine ⟨lines'.map lineField, readProfileLines_start.mpr ⟨?_, rfl, ?_⟩, hfields⟩
  · exact fun line hline => hlines line (h.mem_iff.mpr hline)
  · exact (hfields.map Prod.fst).nodup_iff.mp hnodup

lemma profileValue_perm (h : fields.Perm all) (hkeys : (fields.map Prod.fst).Nodup) (key : Bytes) :
    profileValue fields key = profileValue all key := by
  have hall : (all.map Prod.fst).Nodup := (h.map Prod.fst).nodup_iff.mp hkeys
  rw [profileValue, profileValue]
  by_cases hkey : ∃ value, (key, value) ∈ fields
  · obtain ⟨value, hvalue⟩ := hkey
    rw [find?_key hkeys hvalue, find?_key hall (h.mem_iff.mp hvalue)]
  · have hnone : ∀ other : List (Bytes × Bytes), (∀ value, (key, value) ∉ other) →
        other.find? (fun field => field.1 = key) = none := by
      intro other hother
      rw [List.find?_eq_none]
      rintro ⟨first, value⟩ hfield hfirst
      obtain rfl := of_decide_eq_true hfirst
      exact hother value hfield
    simp only [not_exists] at hkey
    rw [hnone fields hkey, hnone all fun value hvalue => hkey value (h.mem_iff.mpr hvalue)]

lemma profileValue_of_mem {key value : Bytes} (hkeys : (fields.map Prod.fst).Nodup)
    (h : (key, value) ∈ fields) : profileValue fields key = value := by
  rw [profileValue, find?_key hkeys h]
  rfl

end

section

variable {value : String → Bytes} {profile result : SessionProfile} {steps : List ProfileStep}

lemma checkProfile_nil : checkProfile profile [] = (result, true) ↔ profile = result := by
  simp [checkProfile]

lemma checkProfile_requires {condition : SessionProfile → Bool} :
    checkProfile profile (requires condition :: steps) = (result, true) ↔
      condition profile = true ∧ checkProfile profile steps = (result, true) := by
  cases hc : condition profile with
  | true => simp [checkProfile, requires, hc]
  | false => simp [checkProfile, requires, hc]

lemma checkProfile_readsInteger {type : IntegerType} {digits : Bytes} {minimum maximum : ℤ}
    {fill : SessionProfile → ℤ → SessionProfile} :
    checkProfile profile (readsInteger type digits minimum maximum fill :: steps) = (result, true) ↔
      ∃ n, parseInteger type digits minimum maximum = some n ∧
        checkProfile (fill profile n) steps = (result, true) := by
  cases hn : parseInteger type digits minimum maximum with
  | none => simp [checkProfile, readsInteger, hn]
  | some n => simp [checkProfile, readsInteger, hn]

lemma parseInteger_some {type : IntegerType} {digits : Bytes} {minimum maximum n : ℤ}
    (hlowest : type.lowest ≤ minimum) (hhighest : maximum ≤ type.highest) :
    parseInteger type digits minimum maximum = some n ↔
      digits.length ≤ 10 ∧ Decimal type.signed digits n ∧ minimum ≤ n ∧ n ≤ maximum := by
  rw [parseInteger]
  constructor
  · intro h
    split at h <;> rename_i hlength
    · cases h
    simp only [not_or, not_lt] at hlength
    split at h
    · cases h
    rename_i parsed rest hparsed
    split at h <;> rename_i hrange
    · cases h
    simp only [not_or, not_not, not_lt] at hrange
    obtain ⟨rfl, hminimum, hmaximum⟩ := hrange
    obtain rfl := Option.some.inj h
    exact ⟨hlength.2, (IntegerType.fromChars_all.mp hparsed).1, hminimum, hmaximum⟩
  · rintro ⟨hlength, hdecimal, hminimum, hmaximum⟩
    have hparsed := IntegerType.fromChars_all.mpr
      ⟨hdecimal, hlowest.trans hminimum, hmaximum.trans hhighest⟩
    have hnonempty := hdecimal.ne_nil
    rw [if_neg (by simp [hnonempty, hlength]), hparsed]
    exact if_neg (by simp [hminimum, hmaximum])

structure ProfileValues (value : String → Bytes) (profile : SessionProfile) : Prop where
  texts : profile.profileId = value "PROFILE_ID" ∧ profile.machine = value "MACHINE" ∧
    profile.drmDevice = value "DRM_DEVICE" ∧ profile.pixelFormat = value "PIXEL_FORMAT"
  tokens : validProfileToken profile.profileId 128 = true ∧ validProfileToken profile.machine 32 = true
  device : profile.drmDevice = text "/dev/dri/card0"
  format : profile.pixelFormat = text "XRGB8888" ∨ profile.pixelFormat = text "ARGB8888"
  logical : parseInteger int32 (value "LOGICAL_WIDTH") 240 4096 = some profile.logicalWidth ∧
    parseInteger int32 (value "LOGICAL_HEIGHT") 80 2048 = some profile.logicalHeight
  drm : parseInteger uint32 (value "DRM_CONNECTOR_ID") 1 (2 ^ 32 - 1) = some profile.connectorId ∧
    parseInteger uint32 (value "DRM_CRTC_ID") 1 (2 ^ 32 - 1) = some profile.crtcId ∧
    parseInteger uint32 (value "DRM_OVERLAY_PLANE_ID") 1 (2 ^ 32 - 1) = some profile.overlayPlaneId ∧
    parseInteger int32 (value "DRM_OVERLAY_ZPOS") 0 128 = some profile.overlayZpos
  display : parseInteger int32 (value "DISPLAY_X") 0 4096 = some profile.displayX ∧
    parseInteger int32 (value "DISPLAY_Y") 0 4096 = some profile.displayY ∧
    parseInteger int32 (value "DISPLAY_WIDTH") 80 4096 = some profile.displayWidth ∧
    parseInteger int32 (value "DISPLAY_HEIGHT") 80 4096 = some profile.displayHeight
  rotation : parseInteger uint16 (value "DISPLAY_ROTATION") 0 270 = some profile.displayRotation ∧
    (profile.displayRotation = 0 ∨ profile.displayRotation = 90 ∨ profile.displayRotation = 180 ∨
      profile.displayRotation = 270)
  flags : (value "HOLE_SESSION_CERTIFIED" = text "1" ∨ value "HOLE_SESSION_CERTIFIED" = text "0") ∧
    (value "PERSONAL_UNBOUND" = text "1" ∨ value "PERSONAL_UNBOUND" = text "0") ∧
    (value "HOLE_SESSION_CERTIFIED" = text "1" ∨ value "PERSONAL_UNBOUND" = text "1")
  modes : profile.personalUnbound = decide (value "PERSONAL_UNBOUND" = text "1") ∧
    profile.holeSessionCertified = decide (value "HOLE_SESSION_CERTIFIED" = text "1")
  inside : profile.displayX + profile.displayWidth ≤ 4096 ∧
    profile.displayY + profile.displayHeight ≤ 4096

/-- The profile before its values are checked. -/
def unchecked (value : String → Bytes) : SessionProfile where
  profileId := value "PROFILE_ID"
  machine := value "MACHINE"
  drmDevice := value "DRM_DEVICE"
  pixelFormat := value "PIXEL_FORMAT"

lemma ProfileValues.checked (h : ProfileValues value profile) :
    checkProfile (unchecked value) (profileSteps value) =
      ({ profile with holeSessionCertified := false, personalUnbound := false }, true) := by
  obtain ⟨⟨hid, hmachine, hdrm, hpixel⟩, htokens, hdevice, hformat, hlogical, hplanes, hdisplay,
    hrotation, hflags, -, -⟩ := h
  rw [profileSteps, checkProfile_requires, unchecked, ← hid, ← hmachine, ← hdrm, ← hpixel]
  refine ⟨by simp [htokens, hdevice, hformat], ?_⟩
  simp only [checkProfile_readsInteger, checkProfile_requires, checkProfile_nil]
  exact ⟨_, hlogical.1, _, hlogical.2, _, hplanes.1, _, hplanes.2.1, _, hplanes.2.2.1, _,
    hplanes.2.2.2, _, hdisplay.1, _, hdisplay.2.1, _, hdisplay.2.2.1, _, hdisplay.2.2.2, _,
    hrotation.1, by simpa [or_assoc] using hrotation.2, by simpa using hflags.1,
    by simpa using hflags.2.1, by simpa using hflags.2.2, rfl⟩

lemma profileValues_of_checked
    (h : checkProfile (unchecked value) (profileSteps value) = (profile, true))
    (hinside : profile.displayX + profile.displayWidth ≤ 4096 ∧
      profile.displayY + profile.displayHeight ≤ 4096) :
    ProfileValues value { profile with
      personalUnbound := value "PERSONAL_UNBOUND" = text "1"
      holeSessionCertified := value "HOLE_SESSION_CERTIFIED" = text "1" } := by
  simp only [profileSteps, checkProfile_readsInteger, checkProfile_requires, checkProfile_nil] at h
  obtain ⟨hfirst, width, hwidth, height, hheight, connector, hconnector, crtc, hcrtc, plane, hplane,
    zpos, hzpos, x, hx, y, hy, displayWidth, hdw, displayHeight, hdh, rotation, hrotation, hangles,
    hhole, hpersonal, hmode, rfl⟩ := h
  simp only [Bool.and_eq_true, Bool.or_eq_true, decide_eq_true_eq] at hfirst
  obtain ⟨⟨⟨hid, hmachine⟩, hdevice⟩, hformat⟩ := hfirst
  exact ⟨⟨rfl, rfl, rfl, rfl⟩, ⟨hid, hmachine⟩, hdevice, hformat, ⟨hwidth, hheight⟩,
    ⟨hconnector, hcrtc, hplane, hzpos⟩, ⟨hx, hy, hdw, hdh⟩,
    ⟨hrotation, by simpa [or_assoc] using hangles⟩,
    ⟨by simpa using hhole, by simpa using hpersonal, by simpa using hmode⟩, ⟨rfl, rfl⟩, hinside⟩

lemma profileOfValues_eq :
    profileOfValues value = { profile } ↔ ProfileValues value profile := by
  constructor
  · intro h
    rw [profileOfValues] at h
    cases hchecked : checkProfile (unchecked value) (profileSteps value) with
    | mk filled passed =>
      have hsteps : checkProfile _ (profileSteps value) = (filled, passed) := hchecked
      cases passed with
      | false =>
        simp only [unchecked] at hsteps
        simp only [hsteps] at h
        have hdetail : text "SESSION_PROFILE_VALUE_INVALID" = [] :=
          congrArg SessionProfileParseResult.detail h
        exact absurd hdetail (by decide)
      | true =>
        simp only [unchecked] at hsteps
        simp only [hsteps] at h
        split at h <;> rename_i hrectangle
        · have hdetail : text "SESSION_PROFILE_RECTANGLE_INVALID" = [] :=
            congrArg SessionProfileParseResult.detail h
          exact absurd hdetail (by decide)
        · have hprofile := congrArg SessionProfileParseResult.profile h
          dsimp only at hprofile
          rw [← hprofile]
          exact profileValues_of_checked hchecked (by omega)
  · intro h
    have hchecked := h.checked
    obtain ⟨hpersonal, hcertified⟩ := h.modes
    have hinside := h.inside
    rw [unchecked] at hchecked
    rw [profileOfValues]
    simp only [hchecked]
    rw [if_neg (by omega), ← hpersonal, ← hcertified]

end

section

variable {fields : List (Bytes × Bytes)} {profile : SessionProfile} {value : Bytes}

lemma token_allows {limit : ℕ} :
    (ProfileRule.token limit).Allows value ↔ validProfileToken value limit = true := by
  rw [validProfileToken, ProfileRule.Allows]
  split <;> rename_i h
  · refine iff_of_false ?_ (by simp)
    rintro ⟨hne, hlength, -⟩
    exact h.elim hne (by omega)
  · simp only [not_or, not_lt] at h
    simp [h.1, h.2]

lemma number_allows (type : IntegerType) {minimum maximum : ℤ} (hlowest : type.lowest ≤ minimum)
    (hhighest : maximum ≤ type.highest) :
    (ProfileRule.number type.signed (between minimum maximum)).Allows value ↔
      ∃ n, parseInteger type value minimum maximum = some n := by
  simp only [parseInteger_some hlowest hhighest, ProfileRule.Allows, between, exists_and_left]

lemma rotation_allows :
    (ProfileRule.number false fun n => n = 0 ∨ n = 90 ∨ n = 180 ∨ n = 270).Allows value ↔
      ∃ n, parseInteger uint16 value 0 270 = some n ∧ (n = 0 ∨ n = 90 ∨ n = 180 ∨ n = 270) := by
  have hrange : uint16.lowest ≤ 0 ∧ 270 ≤ uint16.highest := by decide
  simp only [parseInteger_some hrange.1 hrange.2, ProfileRule.Allows]
  constructor
  · rintro ⟨hlength, n, hdecimal, hn⟩
    exact ⟨n, ⟨hlength, hdecimal, by omega, by omega⟩, hn⟩
  · rintro ⟨n, ⟨hlength, hdecimal, -⟩, hn⟩
    exact ⟨hlength, n, hdecimal, hn⟩

lemma keys_nodup (hkeys : (fields.map Prod.fst).Perm profileKeys) : (fields.map Prod.fst).Nodup :=
  hkeys.nodup_iff.mpr profileKeys_nodup

lemma mem_iff_profileValue (hkeys : (fields.map Prod.fst).Perm profileKeys) {key : Bytes}
    (hkey : key ∈ profileKeys) : (key, value) ∈ fields ↔ profileValue fields key = value := by
  constructor
  · exact profileValue_of_mem (keys_nodup hkeys)
  · rintro rfl
    obtain ⟨⟨first, second⟩, hfield, rfl⟩ := List.mem_map.mp (hkeys.mem_iff.mpr hkey)
    rw [profileValue_of_mem (keys_nodup hkeys) hfield]
    exact hfield

lemma profileValue_mem (hkeys : (fields.map Prod.fst).Perm profileKeys) {key : Bytes}
    (hkey : key ∈ profileKeys) : (key, profileValue fields key) ∈ fields :=
  (mem_iff_profileValue hkeys hkey).mpr rfl

lemma rules_iff (hkeys : (fields.map Prod.fst).Perm profileKeys) :
    (∀ rule ∈ profileRules, ∀ value, (rule.1, value) ∈ fields → rule.2.Allows value) ↔
      ∀ rule ∈ profileRules, rule.2.Allows (profileValue fields rule.1) := by
  refine forall₂_congr fun rule hrule => ?_
  have hkey : rule.1 ∈ profileKeys := List.mem_map_of_mem (f := Prod.fst) hrule
  constructor
  · exact fun h => h _ (profileValue_mem hkeys hkey)
  · intro h value hvalue
    rw [← (mem_iff_profileValue hkeys hkey).mp hvalue]
    exact h

lemma ProfileFields.exists_values (h : ProfileFields fields) :
    ∃ profile, ProfileValues (fun key => profileValue fields (text key)) profile := by
  have hkeys : (fields.map Prod.fst).Perm profileKeys := h.keys
  have hrules := (rules_iff hkeys).mp h.values
  simp only [profileRules, List.forall_mem_cons] at hrules
  obtain ⟨hid, hmachine, hwidth, hheight, hdevice, hconnector, hcrtc, hplane, hzpos, hx, hy, hdw, hdh,
    hformat, hrotation, hhole, hpersonal, -⟩ := hrules
  obtain ⟨width, hwidth⟩ := (number_allows int32 (by decide) (by decide)).mp hwidth
  obtain ⟨height, hheight⟩ := (number_allows int32 (by decide) (by decide)).mp hheight
  obtain ⟨connector, hconnector⟩ := (number_allows uint32 (by decide) (by decide)).mp hconnector
  obtain ⟨crtc, hcrtc⟩ := (number_allows uint32 (by decide) (by decide)).mp hcrtc
  obtain ⟨plane, hplane⟩ := (number_allows uint32 (by decide) (by decide)).mp hplane
  obtain ⟨zpos, hzpos⟩ := (number_allows int32 (by decide) (by decide)).mp hzpos
  obtain ⟨x, hx⟩ := (number_allows int32 (by decide) (by decide)).mp hx
  obtain ⟨y, hy⟩ := (number_allows int32 (by decide) (by decide)).mp hy
  obtain ⟨dw, hdw⟩ := (number_allows int32 (by decide) (by decide)).mp hdw
  obtain ⟨dh, hdh⟩ := (number_allows int32 (by decide) (by decide)).mp hdh
  obtain ⟨rotation, hrotation, hangle⟩ := rotation_allows.mp hrotation
  have hxs := ((parseInteger_some (by decide) (by decide)).mp hx).2.1
  have hys := ((parseInteger_some (by decide) (by decide)).mp hy).2.1
  have hdws := ((parseInteger_some (by decide) (by decide)).mp hdw).2.1
  have hdhs := ((parseInteger_some (by decide) (by decide)).mp hdh).2.1
  have hinside := h.inside
  simp only [List.forall_mem_cons] at hinside
  have hmode : profileValue fields (text "HOLE_SESSION_CERTIFIED") = text "1" ∨
      profileValue fields (text "PERSONAL_UNBOUND") = text "1" :=
    h.mode.imp (mem_iff_profileValue hkeys (by decide)).mp (mem_iff_profileValue hkeys (by decide)).mp
  have hrange : (4294967295 : ℤ) = 2 ^ 32 - 1 := by norm_num
  rw [hrange] at hconnector hcrtc hplane
  exact ⟨{
    profileId := profileValue fields (text "PROFILE_ID")
    machine := profileValue fields (text "MACHINE")
    drmDevice := profileValue fields (text "DRM_DEVICE")
    pixelFormat := profileValue fields (text "PIXEL_FORMAT")
    logicalWidth := width
    logicalHeight := height
    connectorId := connector
    crtcId := crtc
    overlayPlaneId := plane
    overlayZpos := zpos
    displayX := x
    displayY := y
    displayWidth := dw
    displayHeight := dh
    displayRotation := rotation
    holeSessionCertified := profileValue fields (text "HOLE_SESSION_CERTIFIED") = text "1"
    personalUnbound := profileValue fields (text "PERSONAL_UNBOUND") = text "1" }, {
    texts := ⟨rfl, rfl, rfl, rfl⟩
    tokens := ⟨token_allows.mp hid, token_allows.mp hmachine⟩
    device := List.mem_singleton.mp hdevice
    format := by simpa [ProfileRule.Allows] using hformat
    logical := ⟨hwidth, hheight⟩
    drm := ⟨hconnector, hcrtc, hplane, hzpos⟩
    display := ⟨hx, hy, hdw, hdh⟩
    rotation := ⟨hrotation, hangle⟩
    flags := ⟨by simpa [ProfileRule.Allows] using hhole, by simpa [ProfileRule.Allows] using hpersonal,
      hmode⟩
    modes := ⟨rfl, rfl⟩
    inside := ⟨hinside.1 _ _ x dw (profileValue_mem hkeys (by decide))
        (profileValue_mem hkeys (by decide)) hxs hdws,
      hinside.2.1 _ _ y dh (profileValue_mem hkeys (by decide))
        (profileValue_mem hkeys (by decide)) hys hdhs⟩ }⟩

lemma ProfileValues.profileFields (hkeys : (fields.map Prod.fst).Perm profileKeys)
    (h : ProfileValues (fun key => profileValue fields (text key)) profile) : ProfileFields fields := by
  obtain ⟨⟨hid, hmachine, hdrm, hpixel⟩, htokens, hdevice, hformat, hlogical, hplanes, hdisplay,
    hrotation, hflags, hmodes, hinside⟩ := h
  have haxis : ∀ {position size : Bytes} {p q m n : ℤ},
      parseInteger int32 position 0 4096 = some p → parseInteger int32 size 80 4096 = some q →
      p + q ≤ 4096 → Decimal true position m → Decimal true size n → m + n ≤ 4096 := by
    intro position size p q m n hp hq hsum hm hn
    have hpm := hm.unique ((parseInteger_some (by decide) (by decide)).mp hp).2.1
    have hqn := hn.unique ((parseInteger_some (by decide) (by decide)).mp hq).2.1
    omega
  refine ⟨hkeys, (rules_iff hkeys).mpr ?_, ?_, ?_⟩
  · rw [hid, hmachine] at htokens
    rw [hdrm] at hdevice
    rw [hpixel] at hformat
    have hrange : (2 : ℤ) ^ 32 - 1 = 4294967295 := by norm_num
    rw [hrange] at hplanes
    simp only [profileRules, List.forall_mem_cons]
    exact ⟨token_allows.mpr htokens.1, token_allows.mpr htokens.2,
      (number_allows int32 (by decide) (by decide)).mpr ⟨_, hlogical.1⟩,
      (number_allows int32 (by decide) (by decide)).mpr ⟨_, hlogical.2⟩,
      List.mem_singleton.mpr hdevice,
      (number_allows uint32 (by decide) (by decide)).mpr ⟨_, hplanes.1⟩,
      (number_allows uint32 (by decide) (by decide)).mpr ⟨_, hplanes.2.1⟩,
      (number_allows uint32 (by decide) (by decide)).mpr ⟨_, hplanes.2.2.1⟩,
      (number_allows int32 (by decide) (by decide)).mpr ⟨_, hplanes.2.2.2⟩,
      (number_allows int32 (by decide) (by decide)).mpr ⟨_, hdisplay.1⟩,
      (number_allows int32 (by decide) (by decide)).mpr ⟨_, hdisplay.2.1⟩,
      (number_allows int32 (by decide) (by decide)).mpr ⟨_, hdisplay.2.2.1⟩,
      (number_allows int32 (by decide) (by decide)).mpr ⟨_, hdisplay.2.2.2⟩,
      by simpa [ProfileRule.Allows] using hformat,
      rotation_allows.mpr ⟨_, hrotation⟩,
      by simpa [ProfileRule.Allows] using hflags.1,
      by simpa [ProfileRule.Allows] using hflags.2.1, nofun⟩
  · simp only [List.forall_mem_cons]
    refine ⟨?_, ?_, nofun⟩
    · intro position size m n hposition hsize hm hn
      obtain rfl := (mem_iff_profileValue hkeys (by decide)).mp hposition
      obtain rfl := (mem_iff_profileValue hkeys (by decide)).mp hsize
      exact haxis hdisplay.1 hdisplay.2.2.1 hinside.1 hm hn
    · intro position size m n hposition hsize hm hn
      obtain rfl := (mem_iff_profileValue hkeys (by decide)).mp hposition
      obtain rfl := (mem_iff_profileValue hkeys (by decide)).mp hsize
      exact haxis hdisplay.2.1 hdisplay.2.2.2 hinside.2 hm hn
  · exact hflags.2.2.imp (mem_iff_profileValue hkeys (by decide)).mpr
      (mem_iff_profileValue hkeys (by decide)).mpr

lemma ProfileValues.describes (hkeys : (fields.map Prod.fst).Perm profileKeys)
    (h : ProfileValues (fun key => profileValue fields (text key)) profile) :
    Describes fields profile := by
  have hnumber : ∀ (type : IntegerType) (key : String) {minimum maximum n : ℤ}, text key ∈ profileKeys →
      type.lowest ≤ minimum → maximum ≤ type.highest →
      parseInteger type (profileValue fields (text key)) minimum maximum = some n →
      ∃ value, (text key, value) ∈ fields ∧ Decimal type.signed value n :=
    fun type key _ _ _ hkey hlowest hhighest hn =>
      ⟨_, profileValue_mem hkeys hkey, ((parseInteger_some hlowest hhighest).mp hn).2.1⟩
  obtain ⟨⟨hid, hmachine, hdrm, hpixel⟩, -, -, -, hlogical, hplanes, hdisplay, hrotation, -,
    ⟨hpersonal, hcertified⟩, -⟩ := h
  refine ⟨?_, ?_, ?_, ?_⟩
  · simp only [List.forall_mem_cons]
    rw [hid, hmachine, hdrm, hpixel]
    exact ⟨profileValue_mem hkeys (by decide), profileValue_mem hkeys (by decide),
      profileValue_mem hkeys (by decide), profileValue_mem hkeys (by decide), nofun⟩
  · simp only [List.forall_mem_cons]
    exact ⟨hnumber int32 _ (by decide) (by decide) (by decide) hlogical.1,
      hnumber int32 _ (by decide) (by decide) (by decide) hlogical.2,
      hnumber uint32 _ (by decide) (by decide) (by decide) hplanes.1,
      hnumber uint32 _ (by decide) (by decide) (by decide) hplanes.2.1,
      hnumber uint32 _ (by decide) (by decide) (by decide) hplanes.2.2.1,
      hnumber int32 _ (by decide) (by decide) (by decide) hplanes.2.2.2,
      hnumber int32 _ (by decide) (by decide) (by decide) hdisplay.1,
      hnumber int32 _ (by decide) (by decide) (by decide) hdisplay.2.1,
      hnumber int32 _ (by decide) (by decide) (by decide) hdisplay.2.2.1,
      hnumber int32 _ (by decide) (by decide) (by decide) hdisplay.2.2.2,
      hnumber uint16 _ (by decide) (by decide) (by decide) hrotation.1, nofun⟩
  · rw [hcertified, decide_eq_true_iff]
    exact (mem_iff_profileValue hkeys (by decide)).symm
  · rw [hpersonal, decide_eq_true_iff]
    exact (mem_iff_profileValue hkeys (by decide)).symm

end

section

variable {contents contents' : Bytes} {fields values : List (Bytes × Bytes)}

/-- The texts whose lines are looked at. -/
def ProfileEncoding (contents : Bytes) : Prop :=
  contents ≠ [] ∧ contents.length ≤ 4096 ∧ contents.getLast? = some (chr '\n') ∧
    chr '\r' ∉ contents ∧ 0 ∉ contents

lemma parseSessionProfile_read (h : ProfileEncoding contents)
    (hread : readProfileLines [] (linesOf (chr '\n') contents) = .ok values) :
    parseSessionProfile contents =
      if values.length ≠ profileKeys.length then { detail := text "SESSION_PROFILE_FIELDS_MISSING" }
      else profileOfValues fun key => profileValue values (text key) := by
  obtain ⟨hne, hlength, hlast, hreturn, hzero⟩ := h
  rw [parseSessionProfile, if_neg (by simp [hne, hlength, hlast, hreturn, hzero]), hread]

lemma parseSessionProfile_error {detail : Bytes} (h : ProfileEncoding contents)
    (hread : readProfileLines [] (linesOf (chr '\n') contents) = .error detail) :
    parseSessionProfile contents = { detail } := by
  obtain ⟨hne, hlength, hlast, hreturn, hzero⟩ := h
  rw [parseSessionProfile, if_neg (by simp [hne, hlength, hlast, hreturn, hzero]), hread]

lemma parseSessionProfile_rejected (h : ¬ProfileEncoding contents) :
    parseSessionProfile contents = { detail := text "SESSION_PROFILE_ENCODING_INVALID" } := by
  rw [parseSessionProfile, if_pos]
  by_contra hnot
  simp only [not_or, not_not, not_lt] at hnot
  exact h hnot

lemma ProfileEncoding.lines (h : ProfileEncoding contents) :
    contents = linesText (linesOf (chr '\n') contents) := by
  refine (linesOf_terminated ?_).symm
  intro a ha
  rw [h.2.2.1] at ha
  exact (Option.some.inj ha).symm

lemma setting_plain {field : Bytes × Bytes} (hkey : field.1 ∈ profileKeys)
    (hvalue : chr '\n' ∉ field.2) : chr '\n' ∉ setting field := by
  have hplain := (profileKeys_plain field.1 hkey).2.2.1
  rw [setting, List.mem_append, List.mem_cons, not_or, not_or]
  exact ⟨hplain, by decide, hvalue⟩

lemma ProfileText.key_mem (h : ProfileText contents fields) {field : Bytes × Bytes}
    (hfield : field ∈ fields) : field.1 ∈ profileKeys :=
  h.fields.keys.mem_iff.mp (List.mem_map_of_mem hfield)

lemma ProfileText.linesOf_eq (h : ProfileText contents fields) :
    linesOf (chr '\n') contents = fields.map setting := by
  rw [h.lines, linesText, linesOf_flatMap]
  intro line hline
  obtain ⟨field, hfield, rfl⟩ := List.mem_map.mp hline
  exact setting_plain (h.key_mem hfield) (h.filled field hfield).2

lemma ProfileText.read (h : ProfileText contents fields) :
    readProfileLines [] (linesOf (chr '\n') contents) = .ok fields := by
  have hback : (fields.map setting).map lineField = fields := by
    rw [List.map_map]
    exact (List.map_congr_left fun field hfield => lineField_setting (h.key_mem hfield)).trans
      (List.map_id fields)
  rw [h.linesOf_eq]
  refine readProfileLines_start.mpr ⟨?_, hback.symm, keys_nodup h.fields.keys⟩
  intro line hline
  obtain ⟨field, hfield, rfl⟩ := List.mem_map.mp hline
  have hkey := h.key_mem hfield
  rw [ProfileLine, lineField_setting hkey]
  exact ⟨rfl, hkey, (h.filled field hfield).1⟩

lemma readProfileLines_detail {lines : List Bytes} {detail : Bytes}
    (h : readProfileLines values lines = .error detail) : detail ≠ [] := by
  induction lines generalizing values with
  | nil => cases h
  | cons line lines ih =>
    rw [readProfileLines] at h
    split at h
    · obtain rfl := Except.error.inj h
      decide
    split at h
    · obtain rfl := Except.error.inj h
      decide
    split at h
    · obtain rfl := Except.error.inj h
      decide
    · exact ih h

lemma ok_iff {result : SessionProfileParseResult} :
    result.ok = true ↔ result = { profile := result.profile } := by
  obtain ⟨profile, detail⟩ := result
  rw [SessionProfileParseResult.ok, decide_eq_true_iff, SessionProfileParseResult.mk.injEq]
  exact (and_iff_right rfl).symm

lemma linesText_getLast {lines : List Bytes} (h : lines ≠ []) :
    (linesText lines).getLast? = some (chr '\n') := by
  obtain ⟨init, last, rfl⟩ := (List.eq_nil_or_concat' lines).resolve_left h
  rw [linesText, List.flatMap_append, List.flatMap_singleton, List.getLast?_append,
    List.getLast?_append]
  rfl

lemma ProfileText.accepted (h : ProfileText contents fields) :
    ∃ profile, parseSessionProfile contents = { profile } ∧
      ProfileValues (fun key => profileValue fields (text key)) profile := by
  obtain ⟨profile, hprofile⟩ := h.fields.exists_values
  have hlength : fields.length = profileKeys.length := by
    rw [← List.length_map Prod.fst]
    exact h.fields.keys.length_eq
  have hencoding : ProfileEncoding contents := by
    have hne : fields.map setting ≠ [] := by
      intro hnil
      rw [List.map_eq_nil_iff.mp hnil] at hlength
      exact absurd hlength (by decide)
    have hlast := linesText_getLast hne
    rw [← h.lines] at hlast
    have hcontents : contents ≠ [] := by
      rintro rfl
      cases hlast
    exact ⟨hcontents, h.size, hlast, h.plain⟩
  refine ⟨profile, ?_, hprofile⟩
  rw [parseSessionProfile_read hencoding h.read, if_neg (not_not.mpr hlength)]
  exact profileOfValues_eq.mpr hprofile

lemma profileText_of_ok (h : (parseSessionProfile contents).ok = true) :
    ∃ fields, ProfileText contents fields := by
  by_cases hencoding : ProfileEncoding contents
  · cases hread : readProfileLines [] (linesOf (chr '\n') contents) with
    | error detail =>
      rw [parseSessionProfile_error hencoding hread, SessionProfileParseResult.ok,
        decide_eq_true_iff] at h
      exact absurd h (readProfileLines_detail hread)
    | ok fields =>
      obtain ⟨hlines, hfields, hnodup⟩ := readProfileLines_start.mp hread
      rw [parseSessionProfile_read hencoding hread] at h
      split at h <;> rename_i hlength
      · have hdetail := of_decide_eq_true h
        exact absurd hdetail (by decide)
      have hkeys : (fields.map Prod.fst).Perm profileKeys := by
        refine (List.subperm_of_subset hnodup ?_).perm_of_length_le ?_
        · intro key hkey
          obtain ⟨field, hfield, rfl⟩ := List.mem_map.mp hkey
          rw [hfields] at hfield
          obtain ⟨line, hline, rfl⟩ := List.mem_map.mp hfield
          exact (hlines line hline).2.1
        · rw [List.length_map]
          exact (not_not.mp hlength).ge
      have htext : (linesOf (chr '\n') contents) = fields.map setting := by
        rw [hfields, List.map_map]
        exact ((List.map_congr_left fun line hline => (hlines line hline).1).trans
          (List.map_id _)).symm
      refine ⟨fields, ?_, hencoding.2.1, hencoding.2.2.2, ?_, ?_⟩
      · rw [← htext]
        exact hencoding.lines
      · intro field hfield
        have hline : setting field ∈ linesOf (chr '\n') contents := by
          rw [htext]
          exact List.mem_map_of_mem hfield
        have hfree := linesOf_free contents _ hline
        rw [hfields] at hfield
        obtain ⟨line, hl, rfl⟩ := List.mem_map.mp hfield
        refine ⟨(hlines line hl).2.2, fun hvalue => hfree ?_⟩
        rw [setting]
        exact List.mem_append_right _ (List.mem_cons_of_mem _ hvalue)
      · exact (profileOfValues_eq.mp (ok_iff.mp h)).profileFields hkeys
  · rw [parseSessionProfile_rejected hencoding] at h
    have hdetail := of_decide_eq_true h
    exact absurd hdetail (by decide)

lemma ProfileText.parsed (h : ProfileText contents fields) :
    (parseSessionProfile contents).ok = true ∧ Describes fields (parseSessionProfile contents).profile := by
  obtain ⟨profile, hparse, hprofile⟩ := h.accepted
  rw [hparse]
  exact ⟨ok_iff.mpr rfl, hprofile.describes h.fields.keys⟩

lemma LinesPermuted.symm (h : LinesPermuted contents contents') : LinesPermuted contents' contents :=
  ⟨h.lines.symm, h.terminated.symm⟩

lemma LinesPermuted.encoding (h : LinesPermuted contents contents') (hc : ProfileEncoding contents) :
    ProfileEncoding contents' := by
  have hlast := h.terminated.mp hc.2.2.1
  have hterminated : linesText (linesOf (chr '\n') contents') = contents' := by
    refine linesOf_terminated ?_
    intro a ha
    rw [hlast] at ha
    exact (Option.some.inj ha).symm
  have hbytes : contents.Perm contents' := by
    rw [hc.lines, ← hterminated]
    exact h.lines.flatMap_right _
  obtain ⟨hne, hsize, -, hreturn, hzero⟩ := hc
  refine ⟨?_, hbytes.length_eq ▸ hsize, hlast, fun hr => hreturn (hbytes.mem_iff.mpr hr),
    fun hz => hzero (hbytes.mem_iff.mpr hz)⟩
  rintro rfl
  cases hlast

lemma LinesPermuted.read (h : LinesPermuted contents contents') (hc : ProfileEncoding contents)
    (hread : readProfileLines [] (linesOf (chr '\n') contents) = .ok fields) :
    parseSessionProfile contents' = parseSessionProfile contents := by
  have hkeys := (readProfileLines_start.mp hread).2.2
  obtain ⟨fields', hread', hperm⟩ := readProfileLines_perm h.lines hread
  have hvalues : (fun key => profileValue fields' (text key)) =
      fun key => profileValue fields (text key) :=
    funext fun key => (profileValue_perm hperm hkeys (text key)).symm
  rw [parseSessionProfile_read (h.encoding hc) hread', parseSessionProfile_read hc hread,
    hperm.length_eq, hvalues]

lemma parseSessionProfile_failed {detail : Bytes} (h : ProfileEncoding contents)
    (hread : readProfileLines [] (linesOf (chr '\n') contents) = .error detail) :
    (parseSessionProfile contents).ok = false ∧ (parseSessionProfile contents).profile = {} := by
  rw [parseSessionProfile_error h hread]
  exact ⟨decide_eq_false (readProfileLines_detail hread), rfl⟩

lemma LinesPermuted.parsed (h : LinesPermuted contents contents') :
    (parseSessionProfile contents').ok = (parseSessionProfile contents).ok ∧
      (parseSessionProfile contents').profile = (parseSessionProfile contents).profile := by
  by_cases hc : ProfileEncoding contents
  · have hc' := h.encoding hc
    cases hread : readProfileLines [] (linesOf (chr '\n') contents) with
    | ok fields =>
      rw [h.read hc hread]
      exact ⟨rfl, rfl⟩
    | error detail =>
      cases hread' : readProfileLines [] (linesOf (chr '\n') contents') with
      | ok fields =>
        rw [h.symm.read hc' hread']
        exact ⟨rfl, rfl⟩
      | error detail' =>
        obtain ⟨hok, hprofile⟩ := parseSessionProfile_failed hc hread
        obtain ⟨hok', hprofile'⟩ := parseSessionProfile_failed hc' hread'
        exact ⟨hok'.trans hok.symm, hprofile'.trans hprofile.symm⟩
  · have hc' : ¬ProfileEncoding contents' := fun hc' => hc (h.symm.encoding hc')
    rw [parseSessionProfile_rejected hc, parseSessionProfile_rejected hc']
    exact ⟨rfl, rfl⟩

/-- The parser accepts the texts of the fields of a profile and no others, and returns what the fields
say; their order is nothing to it. -/
theorem session_profile_accepted_iff :
    (∀ contents, (parseSessionProfile contents).ok = true ↔ ∃ fields, ProfileText contents fields) ∧
      (∀ contents fields, ProfileText contents fields →
        Describes fields (parseSessionProfile contents).profile) ∧
      ∀ contents contents', LinesPermuted contents contents' →
        (parseSessionProfile contents').ok = (parseSessionProfile contents).ok ∧
          (parseSessionProfile contents').profile = (parseSessionProfile contents).profile := by
  refine ⟨fun contents => ⟨profileText_of_ok, ?_⟩, ?_, fun contents contents' h => h.parsed⟩
  · rintro ⟨fields, hfields⟩
    exact hfields.parsed.1
  · exact fun contents fields hfields => hfields.parsed.2

end

def demoProfileLines : List Bytes :=
  [text "PROFILE_ID=youdao-y01-4.8.6", text "MACHINE=aarch64", text "LOGICAL_WIDTH=960",
    text "LOGICAL_HEIGHT=266", text "DRM_DEVICE=/dev/dri/card0", text "DRM_CONNECTOR_ID=71",
    text "DRM_CRTC_ID=64", text "DRM_OVERLAY_PLANE_ID=57", text "DRM_OVERLAY_ZPOS=2",
    text "DISPLAY_X=107", text "DISPLAY_Y=0", text "DISPLAY_WIDTH=266", text "DISPLAY_HEIGHT=960",
    text "PIXEL_FORMAT=ARGB8888", text "DISPLAY_ROTATION=270", text "HOLE_SESSION_CERTIFIED=1",
    text "PERSONAL_UNBOUND=0"]

theorem demo_profile_accepted :
    (∃ fields, ProfileText (linesText demoProfileLines) fields) ∧
      (parseSessionProfile (linesText demoProfileLines.reverse)).profile.logicalWidth = 960 := by
  have hok : (parseSessionProfile (linesText demoProfileLines)).ok = true := by decide +kernel
  have hwidth : (parseSessionProfile (linesText demoProfileLines)).profile.logicalWidth = 960 := by
    decide +kernel
  have hpermuted : LinesPermuted (linesText demoProfileLines) (linesText demoProfileLines.reverse) := by
    have hplain : ∀ line ∈ demoProfileLines, chr '\n' ∉ line := by decide
    constructor
    · rw [linesText, linesText, linesOf_flatMap hplain,
        linesOf_flatMap fun line hline => hplain line (List.mem_reverse.mp hline)]
      exact (List.reverse_perm demoProfileLines).symm
    · rw [linesText_getLast (by decide), linesText_getLast (by decide)]
  refine ⟨(session_profile_accepted_iff.1 _).mp hok, ?_⟩
  rw [(session_profile_accepted_iff.2.2 _ _ hpermuted).2]
  exact hwidth

end LvglPlatform

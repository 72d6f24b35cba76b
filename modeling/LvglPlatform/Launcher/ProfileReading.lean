import LvglPlatform.Launcher.StatusText
import LvglPlatform.Launcher.TouchFrames
import LvglPlatform.Session.ProfileText

namespace LvglPlatform

open Foundation

section

variable {contents : Bytes} {fields : List (Bytes × Bytes)} {key : Bytes}

lemma profileRules_length : ∀ rule ∈ profileRules, ∀ value, rule.2.Allows value →
    value.length ≤ 128 := by
  have htoken : ∀ limit ≤ 128, ∀ value, (ProfileRule.token limit).Allows value → value.length ≤ 128 :=
    fun limit hlimit value h => h.2.1.trans hlimit
  have hchoice : ∀ choices : List Bytes, (∀ choice ∈ choices, choice.length ≤ 128) →
      ∀ value, (ProfileRule.oneOf choices).Allows value → value.length ≤ 128 :=
    fun choices hchoices value h => hchoices value h
  have hnumber : ∀ signed allowed value, (ProfileRule.number signed allowed).Allows value →
      value.length ≤ 128 := fun signed allowed value h => h.1.trans (by decide)
  simp only [profileRules, List.forall_mem_cons]
  exact ⟨htoken 128 le_rfl, htoken 32 (by decide), hnumber _ _, hnumber _ _, hchoice _ (by decide),
    hnumber _ _, hnumber _ _, hnumber _ _, hnumber _ _, hnumber _ _, hnumber _ _, hnumber _ _,
    hnumber _ _, hchoice _ (by decide), hnumber _ _, hchoice _ (by decide), hchoice _ (by decide),
    fun rule hrule => absurd hrule List.not_mem_nil⟩

lemma ProfileText.plainField (h : ProfileText contents fields) :
    ∀ field ∈ fields, PlainField field := by
  intro field hfield
  have hkey := h.key_mem hfield
  obtain ⟨hne, hseparator, hnewline, hshort⟩ := profileKeys_plain field.1 hkey
  have hruled : field.1 ∈ profileRules.map Prod.fst := hkey
  obtain ⟨rule, hrule, hruleKey⟩ := List.mem_map.mp hruled
  have hallowed := h.fields.values rule hrule field.2 (by rw [hruleKey]; exact hfield)
  refine ⟨⟨hne, hshort⟩, profileRules_length rule hrule _ hallowed, hseparator,
    ⟨hnewline, (h.filled field hfield).2⟩, fun hreturn => h.plain.1 ?_⟩
  rw [h.lines, linesText, List.mem_flatMap]
  refine ⟨setting field, List.mem_map_of_mem hfield, List.mem_append_left _ ?_⟩
  exact List.mem_append_right _ (List.mem_cons_of_mem _ hreturn)

lemma ProfileText.parseStatus_eq (h : ProfileText contents fields) : parseStatus contents = fields := by
  rw [h.lines, linesText, List.flatMap_map]
  exact parseStatus_flatMap h.plainField

lemma ProfileText.statusValue_eq (h : ProfileText contents fields) (hkey : key ∈ profileKeys) :
    statusValue (parseStatus contents) key = some (profileValue fields key) := by
  have hmem := profileValue_mem h.fields.keys hkey
  rw [h.parseStatus_eq, statusValue, find?_key (keys_nodup h.fields.keys) hmem]
  rfl

lemma ProfileText.parseUnsigned_eq (h : ProfileText contents fields) (hkey : key ∈ profileKeys)
    {minimum maximum n : ℤ} (hminimum : 0 < minimum) (hmaximum : maximum ≤ int32.highest)
    (hn : parseInteger int32 (profileValue fields key) minimum maximum = some n) :
    ((parseUnsigned (parseStatus contents) key).toNat : ℤ) = n ∧ minimum ≤ n ∧ n ≤ maximum := by
  have hlowest : int32.lowest ≤ minimum := by
    have hnegative : int32.lowest ≤ 0 := by decide
    omega
  obtain ⟨-, hdecimal, hlow, hhigh⟩ := (parseInteger_some hlowest hmaximum).mp hn
  obtain ⟨hne, hall, hvalue⟩ := hdecimal.digits (by omega)
  have hbound : int32.highest = 2147483647 := rfl
  have hlt : digitsValue (profileValue fields key) < 2 ^ 64 := by omega
  rw [parseUnsigned, h.statusValue_eq hkey, Option.bind_some, strtoull_digits hne hall hlt,
    Option.getD_some, UInt64.toNat_ofNat', Nat.mod_eq_of_lt hlt]
  exact ⟨hvalue, hlow, hhigh⟩

lemma ProfileText.flag_of_mode (h : ProfileText contents fields) :
    flag (parseStatus contents) (text "HOLE_SESSION_CERTIFIED") = true ∨
      flag (parseStatus contents) (text "PERSONAL_UNBOUND") = true := by
  have hflag : ∀ key, (key, text "1") ∈ fields → flag (parseStatus contents) key = true := by
    intro key hmem
    rw [flag, h.parseStatus_eq, statusValue, find?_key (keys_nodup h.fields.keys) hmem]
    rfl
  exact h.fields.mode.imp (hflag _) (hflag _)

lemma ProfileText.validateRelease_eq (h : ProfileText contents fields) {launcher : Launcher}
    {calls : LauncherCalls} (hexecutable : calls.executable = .safe)
    (hfile : calls.profileFile = contents) :
    launcher.validateRelease calls = (none, { launcher with
      touchWidth := (parseSessionProfile contents).profile.logicalWidth
      touchHeight := (parseSessionProfile contents).profile.logicalHeight }) := by
  obtain ⟨profile, hparse, hprofile⟩ := h.accepted
  obtain ⟨hwidth, hwidthLow, hwidthHigh⟩ := h.parseUnsigned_eq (by decide) (by decide) (by decide)
    hprofile.logical.1
  obtain ⟨hheight, hheightLow, hheightHigh⟩ := h.parseUnsigned_eq (by decide) (by decide) (by decide)
    hprofile.logical.2
  rw [Launcher.validateRelease, hexecutable, hfile, hparse]
  dsimp only
  rw [if_neg, hwidth, hheight]
  rintro (hlow | hhigh | hlow | hhigh | ⟨hhole, hpersonal⟩)
  · have hlow : (parseUnsigned (parseStatus contents) (text "LOGICAL_WIDTH")).toNat < 240 :=
      UInt64.lt_iff_toNat_lt.mp hlow
    omega
  · have hhigh : 4096 < (parseUnsigned (parseStatus contents) (text "LOGICAL_WIDTH")).toNat :=
      UInt64.lt_iff_toNat_lt.mp hhigh
    omega
  · have hlow : (parseUnsigned (parseStatus contents) (text "LOGICAL_HEIGHT")).toNat < 80 :=
      UInt64.lt_iff_toNat_lt.mp hlow
    omega
  · have hhigh : 2048 < (parseUnsigned (parseStatus contents) (text "LOGICAL_HEIGHT")).toNat :=
      UInt64.lt_iff_toNat_lt.mp hhigh
    omega
  · rcases h.flag_of_mode with hmode | hmode
    · rw [hmode] at hhole
      exact absurd hhole (by decide)
    · rw [hmode] at hpersonal
      exact absurd hpersonal (by decide)

end

/-- What the launcher reads of an accepted profile is what the session daemon reads: it takes the same
dimensions, and the daemon decodes each touch the launcher then sends. -/
theorem launcher_reads_session_profile (contents : Bytes)
    (h : (parseSessionProfile contents).ok = true) :
    ∀ (launcher : Launcher) (calls : LauncherCalls), calls.executable = .safe →
      calls.profileFile = contents →
      let profile := (parseSessionProfile contents).profile
      let validated := { launcher with
        touchWidth := profile.logicalWidth
        touchHeight := profile.logicalHeight }
      launcher.validateRelease calls = (none, validated) ∧
        ∀ (answers : LauncherCalls) (request : TouchRequest),
          (validated.Permits answers request →
            ∃ bytes, (validated.sendTouch answers request).1 = .ok bytes) ∧
          ∀ bytes, (validated.sendTouch answers request).1 = .ok bytes →
            ∃ frame, decodeTouchFrame bytes profile.logicalWidth profile.logicalHeight = .ok frame := by
  obtain ⟨fields, htext⟩ := profileText_of_ok h
  obtain ⟨profile, hparse, hprofile⟩ := htext.accepted
  intro launcher calls hexecutable hfile
  refine ⟨htext.validateRelease_eq hexecutable hfile, ?_⟩
  intro answers request
  refine ⟨fun hpermits => hpermits.sent_bytes, ?_⟩
  intro bytes hsent
  obtain ⟨frame, rfl, hvalid, -⟩ := sendTouch_frame hsent
  have hwidth := (htext.parseUnsigned_eq (by decide) (by decide) (by decide) hprofile.logical.1).2.2
  have hheight := (htext.parseUnsigned_eq (by decide) (by decide) (by decide) hprofile.logical.2).2.2
  refine ⟨frame, decodeTouchFrame_encode hvalid ?_ ?_⟩
  · rw [hparse]
    exact hwidth.trans_lt (by decide)
  · rw [hparse]
    exact hheight.trans_lt (by decide)

theorem launcher_reads_demo_profile :
    (parseSessionProfile (linesText demoProfileLines)).ok = true ∧
      (parseSessionProfile (linesText demoProfileLines)).profile.logicalWidth = 960 ∧
      (parseSessionProfile (linesText demoProfileLines)).profile.logicalHeight = 266 ∧
      ({} : Launcher).validateRelease { demoLauncherCalls with
        executable := .safe
        profileFile := linesText demoProfileLines } = (none, { touchWidth := 960, touchHeight := 266 }) := by
  have hok : (parseSessionProfile (linesText demoProfileLines)).ok = true := by decide +kernel
  have hsize : (parseSessionProfile (linesText demoProfileLines)).profile.logicalWidth = 960 ∧
      (parseSessionProfile (linesText demoProfileLines)).profile.logicalHeight = 266 := by decide +kernel
  have hread := (launcher_reads_session_profile _ hok {} { demoLauncherCalls with
    executable := .safe
    profileFile := linesText demoProfileLines } rfl rfl).1
  rw [hsize.1, hsize.2] at hread
  exact ⟨hok, hsize.1, hsize.2, hread⟩

end LvglPlatform

import LvglPlatform.Platform.Primitives

namespace LvglPlatform

open Foundation

inductive SessionControlCommand
  | ready
  | exitSession
  | launchApplication
  | home
  deriving DecidableEq, Repr

def SessionControlCommand.code : SessionControlCommand → ℕ
  | .ready => 1
  | .exitSession => 2
  | .launchApplication => 3
  | .home => 4

def SessionControlCommand.ofCode : ℕ → Option SessionControlCommand
  | 1 => some .ready
  | 2 => some .exitSession
  | 3 => some .launchApplication
  | 4 => some .home
  | _ => none

structure SessionControlMessage where
  command : SessionControlCommand := .ready
  result : UInt32 := 0
  appId : Bytes := []
  deriving DecidableEq

def sessionControlMagic : ℕ := 0x4c565343

def sessionControlSize : ℕ := 128

def sessionControlAppIdSize : ℕ := 96

def sentAppId (message : SessionControlMessage) : Bytes :=
  if message.command = .launchApplication ∧ validSessionAppId message.appId then message.appId else []

def controlFields (command : SessionControlCommand) (result : UInt32) (app : Bytes) : List Bytes :=
  [littleEndian 4 sessionControlMagic,
    littleEndian 2 1,
    littleEndian 2 sessionControlSize,
    littleEndian 4 command.code,
    littleEndian 4 result.toNat,
    littleEndian 2 app.length,
    littleEndian 2 0,
    pad 108 app]

def encodeSessionControl (message : SessionControlMessage) : Bytes :=
  (controlFields message.command message.result (sentAppId message)).flatten

def decodeSessionControl (bytes : Bytes) : Option SessionControlMessage :=
  if bytes.length ≠ sessionControlSize ∨ value (slice bytes 0 4) ≠ sessionControlMagic ∨
      value (slice bytes 4 2) ≠ 1 ∨ value (slice bytes 6 2) ≠ sessionControlSize then none
  else
    let appIdSize := value (slice bytes 16 2)
    if value (slice bytes 18 2) ≠ 0 ∨ appIdSize ≥ sessionControlAppIdSize ∨
        !allZero (bytes.drop (20 + appIdSize)) ∨ value (slice bytes 12 4) ≠ 0 then none
    else match SessionControlCommand.ofCode (value (slice bytes 8 4)) with
      | none => none
      | some command =>
        let app := slice bytes 20 appIdSize
        if decide (command = .launchApplication) ≠ decide (app ≠ []) ∨
            (app ≠ [] ∧ !validSessionAppId app) then none
        else some { command, result := 0, appId := app }

lemma validSessionAppId_length {app : Bytes} (h : validSessionAppId app = true) :
    app ≠ [] ∧ app.length < sessionControlAppIdSize := by
  rw [validSessionAppId, identifier] at h
  split at h
  · cases h
  · rename_i hshape
    simp only [not_or, not_lt] at hshape
    exact ⟨hshape.1, Nat.lt_succ_of_le hshape.2.1⟩

lemma sentAppId_length (message : SessionControlMessage) :
    (sentAppId message).length < sessionControlAppIdSize := by
  rw [sentAppId]
  split
  · rename_i hlaunch
    exact (validSessionAppId_length hlaunch.2).2
  · decide

section

variable {command : SessionControlCommand} {result : UInt32} {app bytes : Bytes}
  {message : SessionControlMessage}

lemma controlFields_length (h : app.length < sessionControlAppIdSize) :
    (controlFields command result app).flatten.length = sessionControlSize := by
  rw [sessionControlAppIdSize] at h
  have hpad : (pad 108 app).length = 108 := pad_length (by omega)
  simp only [controlFields, List.flatten_cons, List.flatten_nil, List.length_append, List.length_nil,
    littleEndian_length, hpad]
  rfl

lemma sessionControlCommand_ofCode :
    SessionControlCommand.ofCode (value (littleEndian 4 command.code)) = some command := by
  cases command <;> rfl

lemma sessionControlCommand_code {n : ℕ} (h : SessionControlCommand.ofCode n = some command) :
    n = command.code := by
  rw [SessionControlCommand.ofCode.eq_def] at h
  split at h
  · cases h
    rfl
  · cases h
    rfl
  · cases h
    rfl
  · cases h
    rfl
  · cases h

def Carried (command : SessionControlCommand) (app : Bytes) : Prop :=
  (command = .launchApplication ↔ app ≠ []) ∧ (app ≠ [] → validSessionAppId app = true)

lemma carried_iff : Carried command app ↔
    ¬ (decide (command = .launchApplication) ≠ decide (app ≠ []) ∨
      (app ≠ [] ∧ !validSessionAppId app)) := by
  simp only [Carried, not_or, not_and, not_not, decide_eq_decide, Bool.not_eq_true', Bool.not_eq_false]

lemma slice_tail {n : ℕ} (hlength : bytes.length = sessionControlSize) :
    slice bytes (20 + n) (108 - n) = bytes.drop (20 + n) := by
  rw [sessionControlSize] at hlength
  exact List.take_of_length_le (by rw [List.length_drop]; omega)

lemma decodeSessionControl_fields (h : app.length < sessionControlAppIdSize) :
    decodeSessionControl (controlFields command result app).flatten = some message ↔
      result = 0 ∧ Carried command app ∧ message = { command, result := 0, appId := app } := by
  have hlength : (controlFields command result app).flatten.length = sessionControlSize :=
    controlFields_length h
  have hfields := fieldsAt_flatten (controlFields command result app)
  have hlimit : app.length < 96 := h
  have hpad : (pad 108 app).length = 108 := pad_length (by omega)
  generalize (controlFields command result app).flatten = bytes at hlength hfields
  simp only [controlFields, FieldsAt, littleEndian_length, hpad, Nat.reduceAdd] at hfields
  obtain ⟨hmagic, hversion, hsize, hcommand, hresult, hcount, hreserved, hname, -⟩ := hfields
  obtain ⟨happ, hzero⟩ := slice_pad (by omega) hname
  have happSize : value (slice bytes 16 2) = app.length := by
    rw [hcount, value_littleEndian_of_lt (by omega)]
  have hresultValue : value (slice bytes 12 4) = result.toNat := by
    rw [hresult, value_littleEndian_of_lt result.toNat_lt]
  have htail : allZero (bytes.drop (20 + app.length)) = true := by
    rw [← slice_tail hlength, hzero, allZero_replicate]
  have hheader : ¬ (bytes.length ≠ sessionControlSize ∨ value (slice bytes 0 4) ≠ sessionControlMagic ∨
      value (slice bytes 4 2) ≠ 1 ∨ value (slice bytes 6 2) ≠ sessionControlSize) := by
    rw [hmagic, hversion, hsize, hlength]
    decide
  rw [decodeSessionControl, if_neg hheader]
  dsimp only
  rw [happSize, hcommand, sessionControlCommand_ofCode, hresultValue, hreserved, happ]
  by_cases hzero : result = 0
  · rw [if_neg (by simp [hzero, htail, h])]
    dsimp only
    by_cases hcarried : Carried command app
    · rw [if_neg (carried_iff.mp hcarried)]
      simp [hzero, hcarried, eq_comm]
    · rw [if_pos (by_contra fun hnot => hcarried (carried_iff.mpr hnot))]
      simp [hcarried]
  · rw [if_pos (.inr (.inr (.inr fun hvalue => hzero (UInt32.toNat_inj.mp hvalue))))]
    simp [hzero]

lemma decodeSessionControl_cases (h : decodeSessionControl bytes = some message) :
    bytes = (controlFields message.command 0 message.appId).flatten ∧
      message.appId.length < sessionControlAppIdSize ∧ message.result = 0 ∧
      Carried message.command message.appId := by
  rw [decodeSessionControl] at h
  split at h
  · cases h
  rename_i hheader
  dsimp only at h
  split at h
  · cases h
  rename_i hbody
  split at h
  · cases h
  rename_i command hcommand
  split at h
  · cases h
  rename_i hcarried
  obtain rfl := Option.some.inj h
  simp only [not_or, not_not, ge_iff_le, not_le, Bool.not_eq_true', Bool.not_eq_false] at hheader hbody
  obtain ⟨hlength, hmagic, hversion, hsize⟩ := hheader
  obtain ⟨hreserved, hlimit, hzero, hresult⟩ := hbody
  have hlength' : bytes.length = 128 := hlength
  have hlimit' : value (slice bytes 16 2) < 96 := hlimit
  have happ : (slice bytes 20 (value (slice bytes 16 2))).length = value (slice bytes 16 2) :=
    slice_length (by omega)
  refine ⟨eq_flatten_of_fieldsAt ?_ ?_, by rw [happ]; exact hlimit, rfl, carried_iff.mpr hcarried⟩
  · rw [controlFields_length (by rw [happ]; exact hlimit), hlength]
  have hpad : (pad 108 (slice bytes 20 (value (slice bytes 16 2)))).length = 108 :=
    pad_length (by omega)
  rw [← slice_tail hlength] at hzero
  simp only [controlFields, FieldsAt, littleEndian_length, hpad, Nat.reduceAdd, and_true]
  exact ⟨littleEndian_of_value (slice_length (by omega)) hmagic,
    littleEndian_of_value (slice_length (by omega)) hversion,
    littleEndian_of_value (slice_length (by omega)) hsize,
    littleEndian_of_value (slice_length (by omega)) (sessionControlCommand_code hcommand),
    littleEndian_of_value (slice_length (by omega)) hresult,
    littleEndian_of_value (slice_length (by omega)) happ.symm,
    littleEndian_of_value (slice_length (by omega)) hreserved,
    slice_eq_pad (by omega) (by omega) hzero⟩

end

/-- A message that may be sent arrives, nothing else does, and a launch of no application is refused. -/
theorem session_control_round_trips :
    (∀ message : SessionControlMessage, message.result = 0 →
      (message.command = .launchApplication → validSessionAppId message.appId = true) →
      (message.command ≠ .launchApplication → message.appId = []) →
      decodeSessionControl (encodeSessionControl message) = some message) ∧
    (∀ bytes message, decodeSessionControl bytes = some message →
      bytes = encodeSessionControl message) ∧
    (∀ message : SessionControlMessage, message.command = .launchApplication →
      validSessionAppId message.appId = false →
      decodeSessionControl (encodeSessionControl message) = none) := by
  refine ⟨?_, ?_, ?_⟩
  · intro message hresult hlaunch hother
    rw [encodeSessionControl, decodeSessionControl_fields (sentAppId_length message)]
    have hsent : sentAppId message = message.appId := by
      rw [sentAppId]
      split
      · rfl
      · rename_i hnot
        by_cases hcommand : message.command = .launchApplication
        · exact absurd ⟨hcommand, hlaunch hcommand⟩ hnot
        · exact (hother hcommand).symm
    rw [hsent]
    refine ⟨hresult, ⟨⟨fun hcommand => (validSessionAppId_length (hlaunch hcommand)).1, ?_⟩, ?_⟩, ?_⟩
    · exact fun happ => by_contra fun hcommand => happ (hother hcommand)
    · exact fun happ => hlaunch (by_contra fun hcommand => happ (hother hcommand))
    · rw [← hresult]
  · intro bytes message h
    obtain ⟨hbytes, -, hresult, hlaunch, hvalid⟩ := decodeSessionControl_cases h
    have hsent : sentAppId message = message.appId := by
      rw [sentAppId]
      split
      · rfl
      · rename_i hnot
        by_contra happ
        have happ : message.appId ≠ [] := fun hnil => happ hnil.symm
        exact hnot ⟨hlaunch.mpr happ, hvalid happ⟩
    rw [encodeSessionControl, hsent, hresult]
    exact hbytes
  · intro message hcommand hvalid
    have hsent : sentAppId message = [] := by
      rw [sentAppId, if_neg]
      rw [hvalid]
      exact fun hboth => Bool.false_ne_true hboth.2
    rw [encodeSessionControl, hsent, hcommand, Option.eq_none_iff_forall_ne_some]
    intro received hreceived
    obtain ⟨-, hcarried, -⟩ := (decodeSessionControl_fields (by decide)).mp hreceived
    exact hcarried.1.mp rfl rfl

theorem launch_control_round_trips :
    decodeSessionControl (encodeSessionControl
        { command := .launchApplication, appId := text "org.pen.demo" }) =
      some { command := .launchApplication, appId := text "org.pen.demo" } ∧
    decodeSessionControl (encodeSessionControl
        { command := .launchApplication, appId := text "demo" }) = none := by
  obtain ⟨hround, -, hrefused⟩ := session_control_round_trips
  exact ⟨hround _ rfl (fun _ => by decide) (fun hcommand => absurd rfl hcommand),
    hrefused _ rfl (by decide)⟩

/-- A package identifier that reaches the session has a dot and leaves room for the final zero. -/
lemma validSessionAppId_iff {value : Bytes} (h : appId value = true) :
    validSessionAppId value = true ↔ chr '.' ∈ value ∧ value.length < sessionControlAppIdSize := by
  rw [appId, identifier] at h
  split at h <;> rename_i hshape
  · cases h
  obtain ⟨hscan, -⟩ := (scanIdentifier_counts (fun _ => true) false false value).mp h
  simp only [not_or] at hshape
  obtain ⟨hne, -, hhead, hlast⟩ := hshape
  rw [validSessionAppId, identifier, sessionControlAppIdSize]
  split <;> rename_i hguard
  · refine iff_of_false (by simp) ?_
    rintro ⟨-, hlength⟩
    rcases hguard with hnil | hlong | hdot | hdot
    · exact hne hnil
    · omega
    · exact hhead hdot
    · exact hlast hdot
  · simp only [not_or, not_lt] at hguard
    have hlength := hguard.2.1
    rw [scanIdentifier_counts]
    constructor
    · rintro ⟨-, hfound⟩
      obtain ⟨c, hmem, -, hdot⟩ := hfound.resolve_left (by simp)
      obtain rfl := eq_of_beq hdot
      exact ⟨hmem, by omega⟩
    · rintro ⟨hdot, -⟩
      exact ⟨hscan, Or.inr ⟨chr '.', hdot, Or.inl rfl, beq_self_eq_true _⟩⟩

/-- The state and the store accept every package identifier, the session only these. -/
theorem installable_id_reaches_session (value : Bytes) (h : appId value = true) :
    (releaseStateAppId value = true ∧ safeAppId value = true ∧ validSessionAppId value = true) ↔
      chr '.' ∈ value ∧ value.length < 96 := by
  have hstate : releaseStateAppId value = true := h
  have hstore : safeAppId value = true := h
  rw [validSessionAppId_iff h, sessionControlAppIdSize]
  constructor
  · exact fun hall => hall.2.2
  · exact fun hcondition => ⟨hstate, hstore, hcondition⟩

theorem demo_id_reaches_session :
    appId (text "org.pen.demo") = true ∧ releaseStateAppId (text "org.pen.demo") = true ∧
      safeAppId (text "org.pen.demo") = true ∧ validSessionAppId (text "org.pen.demo") = true := by
  refine ⟨by decide, ?_⟩
  exact (installable_id_reaches_session (text "org.pen.demo") (by decide)).mpr (by decide)

theorem installable_id_stays_out :
    ¬ ∀ value : Bytes, appId value = true →
      releaseStateAppId value = true ∧ safeAppId value = true ∧ validSessionAppId value = true := by
  intro h
  have hdashed := (h (text "a-b") (by decide)).2.2
  exact absurd hdashed (by decide)

end LvglPlatform

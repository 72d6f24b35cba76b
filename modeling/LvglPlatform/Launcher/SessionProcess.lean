import LvglPlatform.Launcher.StatusText

/-! How a session and the launcher tell from the executable of a process that it is the session. -/

namespace LvglPlatform

open Foundation

def sessiond : Bytes := text "/userdisk/apps/lvgl-platform/current/bin/lvgl-sessiond"

def releasePrefix : Bytes := text "/userdisk/apps/lvgl-platform/apps/top.lvgl.platform/releases/"

def sessiondSuffix : Bytes := text "/bin/lvgl-sessiond"

/-- The target of a link, cut off at the end of the buffer. -/
def readlink (size : ℕ) (target : Bytes) : Bytes := target.take (size - 1)

/-- `std::from_chars` in base ten, of a text that is a number as a whole and in range. -/
def fromChars (digits : Bytes) : Option UInt64 :=
  if digits = [] ∨ !digits.all isDigit ∨ digitsValue digits ≥ 2 ^ 64 then none
  else some (UInt64.ofNat (digitsValue digits))

def activeLink (counter : UInt64) : Bytes :=
  text "apps/top.lvgl.platform/releases/" ++ decimal counter.toNat

def activeLinkMatches (current : Option Bytes) (counter : UInt64) : Bool :=
  current.map (readlink 256) = some (activeLink counter)

/-- The release that a session runs from, by its executable and the `current` link. -/
def resolveSelfRelease (executable current : Option Bytes) : Option (Bytes × UInt64) :=
  match executable.map (readlink 1024) with
  | none => none
  | some self =>
    if self.length ≤ releasePrefix.length + sessiondSuffix.length ∨
        self.take releasePrefix.length ≠ releasePrefix ∨
        self.drop (self.length - sessiondSuffix.length) ≠ sessiondSuffix then none
    else
      let release := (self.drop releasePrefix.length).take
        (self.length - releasePrefix.length - sessiondSuffix.length)
      match fromChars release with
      | none => none
      | some counter =>
        if release.head? = some (chr '0') ∨ counter = 0 then none
        else if !activeLinkMatches current counter then none
        else some (self.take (self.length - sessiondSuffix.length), counter)

def runsSessiond (executables : ℤ → Option Bytes) (processId : ℤ) : Bool :=
  match executables processId with
  | none => false
  | some executable => readlink 512 executable ≠ [] && readlink 512 executable = sessiond

def LauncherCalls.showing (calls : LauncherCalls) (executables : ℤ → Option Bytes)
    (document : SessionStatusDocument) : LauncherCalls :=
  { calls with
    statusFile := encodeSessionStatus document
    runsSessiond := LvglPlatform.runsSessiond executables }

structure ReadyFor (launcher : Launcher) (processId : Int32) (document : SessionStatusDocument) : Prop where
  pid : document.sessionPid = processId
  published : encodeSessionStatus document ≠ []
  state : document.state = .ready ∧ document.holeReady = true ∧ document.inputReady = true
  width : document.logicalWidth.toInt = launcher.touchWidth
  height : document.logicalHeight.toInt = launcher.touchHeight

structure ShowsSession (launcher : Launcher) (calls : LauncherCalls) (executables : ℤ → Option Bytes)
    (processId : Int32) : Prop where
  process : ∀ document, (calls.showing executables document).validSessionProcess processId.toInt = true
  shown : ∀ document, ReadyFor launcher processId document →
    let read := launcher.readStatus (calls.showing executables document)
    read.1.state = .ready ∧ read.1.holeReady = true ∧ read.1.inputReady = true ∧
      read.2.touchNonce = document.sessionNonce

section

variable {executable current : Option Bytes} {executables : ℤ → Option Bytes} {release : Bytes × UInt64}
  {launcher : Launcher} {calls : LauncherCalls} {document : SessionStatusDocument}

lemma fromChars_decimal (counter : UInt64) : fromChars (decimal counter.toNat) = some counter := by
  have hne : decimal counter.toNat ≠ [] := by simp [decimal]
  have hdigits : (decimal counter.toNat).all isDigit = true := List.all_eq_true.mpr decimal_digit
  have hvalue : digitsValue (decimal counter.toNat) = counter.toNat := digitsValue_toDigits _
  have hlt := counter.toNat_lt
  rw [fromChars, if_neg, hvalue, UInt64.ofNat_toNat]
  simp only [hne, hdigits, hvalue, false_or, Bool.not_true, Bool.false_eq_true]
  omega

lemma decimal_head {n : ℕ} (hpositive : 0 < n) : (decimal n).head? ≠ some (chr '0') := by
  induction n using Nat.strong_induction_on with
  | h n ih =>
    by_cases hsmall : n < 10
    · rw [decimal, Nat.toDigits_of_lt_base hsmall]
      interval_cases n <;> decide
    · have hbelow : n / 10 < n := by omega
      have hdigit := ih (n / 10) hbelow (by omega)
      have hne : (Nat.toDigits 10 (n / 10)).map chr ≠ [] := by simp
      rw [decimal, Nat.toDigits_of_base_le (by omega) (by omega), List.map_append,
        List.head?_append_of_ne_nil _ hne]
      exact hdigit

lemma resolveSelfRelease_counter {counter : UInt64} (hcounter : counter ≠ 0) :
    resolveSelfRelease (some (releasePrefix ++ decimal counter.toNat ++ sessiondSuffix))
      (some (activeLink counter)) = some (releasePrefix ++ decimal counter.toNat, counter) := by
  have hlt := counter.toNat_lt
  have hlength : (decimal counter.toNat).length ≤ 20 := decimal_length (by omega) (by omega)
  have hpositive : 0 < (decimal counter.toNat).length :=
    List.length_pos_of_ne_nil (by simp [decimal])
  have hprefix : releasePrefix.length = 61 := by decide
  have hsuffix : sessiondSuffix.length = 18 := by decide
  have hself : readlink 1024 (releasePrefix ++ decimal counter.toNat ++ sessiondSuffix) =
      releasePrefix ++ decimal counter.toNat ++ sessiondSuffix := by
    apply List.take_of_length_le
    simp only [List.length_append]
    omega
  have hlink : activeLinkMatches (some (activeLink counter)) counter = true := by
    apply decide_eq_true
    rw [Option.map_some, readlink, List.take_of_length_le]
    rw [activeLink, List.length_append, show (text "apps/top.lvgl.platform/releases/").length = 32 by decide]
    omega
  have hrelease : ((releasePrefix ++ decimal counter.toNat ++ sessiondSuffix).drop
      releasePrefix.length).take ((releasePrefix ++ decimal counter.toNat ++ sessiondSuffix).length -
        releasePrefix.length - sessiondSuffix.length) = decimal counter.toNat := by
    rw [List.append_assoc, List.drop_left]
    apply List.take_left'
    simp only [List.length_append]
    omega
  have hpath : (releasePrefix ++ decimal counter.toNat ++ sessiondSuffix).take
      ((releasePrefix ++ decimal counter.toNat ++ sessiondSuffix).length - sessiondSuffix.length) =
        releasePrefix ++ decimal counter.toNat := by
    apply List.take_left'
    simp only [List.length_append]
    omega
  rw [resolveSelfRelease, Option.map_some, hself]
  dsimp only
  rw [if_neg, hrelease, fromChars_decimal]
  · dsimp only
    rw [if_neg, hlink, hpath]
    · rfl
    · rw [not_or]
      exact ⟨decimal_head (Nat.pos_of_ne_zero fun hzero => hcounter (UInt64.toNat_inj.mp hzero)), hcounter⟩
  · simp only [not_or, not_not]
    refine ⟨?_, ?_, ?_⟩
    · simp only [List.length_append]
      omega
    · rw [List.append_assoc, List.take_left]
    · apply List.drop_left'
      simp only [List.length_append]
      omega

lemma resolveSelfRelease_path (h : resolveSelfRelease executable current = some release) :
    ∃ path, executable = some path ∧ path.take releasePrefix.length = releasePrefix := by
  rw [resolveSelfRelease] at h
  cases executable with
  | none => cases h
  | some path =>
    refine ⟨path, rfl, ?_⟩
    rw [Option.map_some] at h
    dsimp only at h
    split at h
    · cases h
    · rename_i hpath
      simp only [not_or, not_not] at hpath
      rw [readlink, List.take_take] at hpath
      exact hpath.2.1

/-- The executable that the launcher looks for does not lie below the releases. -/
lemma runsSessiond_release {processId : ℤ}
    (h : resolveSelfRelease (executables processId) current = some release) :
    runsSessiond executables processId = false := by
  obtain ⟨path, hpath, hprefix⟩ := resolveSelfRelease_path h
  rw [runsSessiond, hpath]
  dsimp only
  refine Bool.eq_false_iff.mpr fun hruns => ?_
  have hsessiond := of_decide_eq_true ((Bool.and_eq_true _ _).mp hruns).2
  have hlink : (readlink 512 path).take releasePrefix.length = releasePrefix := by
    rw [readlink, List.take_take]
    exact hprefix
  rw [hsessiond] at hlink
  exact absurd hlink (by decide)

lemma readStatus_unknown (h : ¬ calls.validSessionProcess
      (parseUnsigned (parseStatus calls.statusFile) (text "SESSION_PID")).toNat = true) :
    (launcher.readStatus calls).1.state ≠ .ready ∧ (launcher.readStatus calls).1.holeReady = false ∧
      (launcher.readStatus calls).1.inputReady = false := by
  rw [Launcher.readStatus]
  dsimp only
  rw [if_pos (.inr (.inr (by simpa using h)))]
  split
  · exact ⟨nofun, rfl, rfl⟩
  · split
    · exact ⟨nofun, rfl, rfl⟩
    · exact ⟨nofun, rfl, rfl⟩

lemma parseStatus_pid (document : SessionStatusDocument) :
    let processId := (parseUnsigned (parseStatus (encodeSessionStatus document)) (text "SESSION_PID")).toNat
    (processId : ℤ) = document.sessionPid.toInt ∨ processId = 0 := by
  rcases encodeSessionStatus_cases document with hempty | ⟨hpublished, hfields⟩
  · right
    rw [hempty]
    rfl
  · left
    rw [hfields]
    exact parseUnsigned_int32 (Int32.le_of_lt (Int32.lt_trans (by decide) hpublished.sessionPid)) rfl

lemma readStatus_unrecognised (hfile : calls.statusFile = encodeSessionStatus document)
    (hruns : calls.runsSessiond document.sessionPid.toInt = false) :
    (launcher.readStatus calls).1.state ≠ .ready ∧ (launcher.readStatus calls).1.holeReady = false ∧
      (launcher.readStatus calls).1.inputReady = false := by
  apply readStatus_unknown
  rw [LauncherCalls.validSessionProcess, Bool.and_eq_true, hfile]
  rintro ⟨hlarge, hsession⟩
  rcases parseStatus_pid document with hpid | hpid
  · rw [hpid] at hsession
    exact Bool.false_ne_true (hruns.symm.trans hsession)
  · rw [hpid] at hlarge
    exact absurd hlarge (by decide)

end

/-- The launcher never takes a session for one, and shows none of the documents it publishes as ready. -/
theorem session_never_shown (executables : ℤ → Option Bytes) (current : Option Bytes)
    (processId : Int32) (release : Bytes × UInt64)
    (h : resolveSelfRelease (executables processId.toInt) current = some release)
    (launcher : Launcher) (calls : LauncherCalls) (document : SessionStatusDocument) :
    (calls.showing executables document).validSessionProcess processId.toInt = false ∧
      (document.sessionPid = processId →
        let shown := (launcher.readStatus (calls.showing executables document)).1
        shown.state ≠ .ready ∧ shown.holeReady = false ∧ shown.inputReady = false) := by
  have hruns : runsSessiond executables processId.toInt = false := runsSessiond_release h
  constructor
  · rw [LauncherCalls.validSessionProcess]
    exact (Bool.and_eq_false_iff).mpr (.inr hruns)
  · rintro rfl
    exact readStatus_unrecognised rfl hruns

def sessionExecutables (counter : UInt64) (processId : ℤ) : Option Bytes :=
  if processId = 42 then some (releasePrefix ++ decimal counter.toNat ++ sessiondSuffix) else none

def readySession : SessionStatusDocument where
  sessionPid := 42
  sessionNonce := 9
  state := .ready
  holeReady := true
  inputReady := true
  logicalWidth := 480
  logicalHeight := 320

def penLauncher : Launcher where
  touchWidth := 480
  touchHeight := 320

def launcherCalls : LauncherCalls where
  statusFile := []
  profileFile := []
  executable := .safe
  reopened := .safe
  runsSessiond := fun _ => false
  fork := .error []
  clock := none
  socketTrusted := true
  socketOpened := true
  connected := true
  sent := true

theorem ready_session_not_shown :
    (launcherCalls.showing (sessionExecutables 7) readySession).validSessionProcess 42 = false ∧
      (readySession.sessionPid = 42 →
        let shown := (penLauncher.readStatus (launcherCalls.showing (sessionExecutables 7) readySession)).1
        shown.state ≠ .ready ∧ shown.holeReady = false ∧ shown.inputReady = false) :=
  session_never_shown (sessionExecutables 7) (some (activeLink 7)) 42 _
    (resolveSelfRelease_counter (by decide)) penLauncher launcherCalls readySession

theorem release_session_unrecognised :
    ¬ ∀ (executables : ℤ → Option Bytes) (current : Option Bytes) (processId : Int32)
      (release : Bytes × UInt64),
      resolveSelfRelease (executables processId.toInt) current = some release →
        ∀ launcher calls, ShowsSession launcher calls executables processId := by
  intro hshows
  have hsession := hshows (sessionExecutables 7) _ 42 _ (resolveSelfRelease_counter (by decide))
    penLauncher launcherCalls
  have hready : ReadyFor penLauncher 42 readySession :=
    ⟨rfl, by decide, by decide, by decide, by decide⟩
  obtain ⟨hstate, -⟩ := hsession.shown readySession hready
  have hidle : (penLauncher.readStatus (launcherCalls.showing (sessionExecutables 7) readySession)).1.state ≠
      .ready := by decide
  exact hidle hstate

end LvglPlatform

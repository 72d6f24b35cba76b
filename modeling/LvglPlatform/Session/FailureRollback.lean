import LvglPlatform.Session.SessionTrace

namespace LvglPlatform

open Foundation

def SessionRecord.isRollback : SessionRecord → Bool
  | .rolledBack _ _ => true
  | _ => false

/-- A release is rolled back after its own program was started and failed, in one turn. -/
def RollbackRule (before : List SessionRecord) : SessionRecord → Prop
  | .rolledBack app release => ∃ turn, before = turn ++ [.failed app] ∧
      latest SessionRecord.isStart turn = some (.started app (.installed release)) ∧
      .started app (.installed release) ∈ since SessionRecord.isOutcome turn
  | _ => True

def Attributed (daemon : SessionDaemon) (s : DaemonState) : Prop :=
  Clean RollbackRule s.log ∧ ∀ e t, daemon.step s e = some t → (∀ system, e ≠ .outside system) →
    t.system = s.system ∨
      ∃ release, t.log = s.log ++ [.failed s.foreground, .rolledBack s.foreground release]

/-- The foreground application has an earlier release that a failure rolls it back to. -/
def Revocable (daemon : SessionDaemon) (s : DaemonState) : Prop :=
  ∃ state, failureRollback daemon.env daemon.profile s.system s.foreground = some (some state)

/-- No other application has the user of the foreground application. -/
def OwnUser (daemon : SessionDaemon) (s : DaemonState) (calls : OpeningCalls) : Prop :=
  daemon.personalUnbound = true ∨ applicationUidIsUnique
    (if calls.enumerates then (installedApplicationIds s.system).getD [] else []) s.foreground = true

/-- The current release of the foreground application has a program to open. -/
structure InstalledOpens (daemon : SessionDaemon) (s : DaemonState) (application : VerifiedApplication) :
    Prop where
  verified : verifyInstalledApplication daemon.env s.system s.foreground daemon.profile =
    some (some application)
  executable : (listedExecutable application.release application.verification.manifest
    application.verification.manifest.entry).isSome

/-- The platform has a program for the foreground application. -/
def BuiltInOpens (daemon : SessionDaemon) (s : DaemonState) : Prop :=
  ∃ path, builtInProgramPath s.foreground = some path ∧
    (listedExecutable daemon.platform.directory daemon.platform.verification.manifest path).isSome

/-- A turn gets its child, or ends without a failure that is settled by a rollback. -/
def SetsUp (s : DaemonState) (calls : OpeningCalls) (asksStorage : Prop) : Prop :=
  calls.setup = none ∨ s.stopped = true ∨ calls.storage = false ∧ asksStorage

/-- No turn of an application that can be rolled back fails in another way than by its own program. -/
def Attributable (daemon : SessionDaemon) (s : DaemonState) : DaemonEvent → Prop
  | .openProgram calls => Revocable daemon s → OwnUser daemon s calls ∧
      ((∃ application, InstalledOpens daemon s application ∧
          SetsUp s calls (text "storage.private" ∈ application.verification.manifest.capabilities)) ∨
        (∀ application, ¬ InstalledOpens daemon s application) ∧ BuiltInOpens daemon s ∧
          SetsUp s calls (s.foreground = text "top.lvgl.game2048"))
  | .close _ _ => ∀ program loop executed, s.point = .running program loop executed →
      loop.action = .failure → s.stopped = false → Revocable daemon s →
      executed = true ∧ ∃ release, program.source = .installed release
  | _ => True

section

variable {daemon : SessionDaemon} {s t : DaemonState} {randoms : SlotRandoms}

def Keeps (s t : DaemonState) : Prop :=
  t.system = s.system ∧ ∃ records, t.log = s.log ++ records ∧ ∀ r ∈ records, r.isRollback = false

def RollsBack (daemon : SessionDaemon) (s t : DaemonState) : Prop :=
  Revocable daemon s ∧ t.log = s.log ++ [.failed s.foreground, .rolledBack s.foreground
    (storedReleaseOf daemon.env s.system s.foreground).selected.state.currentRelease]

def Idle (s : DaemonState) : Prop := ∀ program loop executed, s.point ≠ .running program loop executed

lemma idle_head (h : s.point = .head) : Idle s := by
  intro program loop executed hrunning
  rw [h] at hrunning
  cases hrunning

lemma idle_leaving {cause : EndCause} (h : s.point = .leaving cause) : Idle s := by
  intro program loop executed hrunning
  rw [h] at hrunning
  cases hrunning

lemma Keeps.silent (hsystem : t.system = s.system) (hlog : t.log = s.log) : Keeps s t :=
  ⟨hsystem, [], hlog.trans (List.append_nil _).symm, fun _ hr => absurd hr List.not_mem_nil⟩

lemma Keeps.adds (records : List SessionRecord) (hsystem : t.system = s.system)
    (hlog : t.log = s.log ++ records) (hrecords : records.all (fun r => !r.isRollback) = true) :
    Keeps s t := by
  refine ⟨hsystem, records, hlog, fun r hr => ?_⟩
  exact (Bool.not_eq_true' _).mp (List.all_eq_true.mp hrecords r hr)

lemma rollBack_cases {otherwise : Bytes} (h : daemon.rollBack s randoms otherwise = some t) :
    Idle t ∧ (Keeps s t ∨ RollsBack daemon s t) := by
  obtain ⟨rolledBack, hrolledBack, h⟩ := Option.bind_eq_some_iff.mp h
  obtain ⟨⟨system, detail⟩, hsystem, h⟩ := Option.bind_eq_some_iff.mp h
  obtain rfl := Option.some.inj h
  refine ⟨idle_head rfl, ?_⟩
  cases rolledBack with
  | none =>
    rw [rollbackApplicationAfterFailure, hrolledBack] at hsystem
    obtain ⟨rfl, rfl⟩ := Prod.mk.inj (Option.some.inj hsystem)
    exact .inl (Keeps.adds [.failed s.foreground] rfl rfl rfl)
  | some state => exact .inr ⟨⟨state, hrolledBack⟩, List.append_assoc _ _ _⟩

lemma settle_cases {action : ForegroundAction} {result : ℕ}
    (h : daemon.settle s action result randoms = some t) :
    Idle t ∧ (Keeps s t ∨ action = .failure ∧ s.stopped = false ∧ RollsBack daemon s t) := by
  rw [SessionDaemon.settle.eq_def] at h
  dsimp only at h
  split at h
  · obtain rfl := Option.some.inj h
    exact ⟨idle_leaving rfl, .inl (Keeps.silent rfl rfl)⟩
  rename_i hstopped
  cases action with
  | exitSession =>
    obtain rfl := Option.some.inj h
    exact ⟨idle_head rfl, .inl (Keeps.adds [.took .exitSession] rfl rfl rfl)⟩
  | launch app =>
    obtain rfl := Option.some.inj h
    exact ⟨idle_head rfl, .inl (Keeps.adds [.took (.launch app)] rfl rfl rfl)⟩
  | home =>
    obtain rfl := Option.some.inj h
    exact ⟨idle_head rfl, .inl (Keeps.adds [.took .home] rfl rfl rfl)⟩
  | failure =>
    dsimp only at h
    split at h
    · obtain ⟨u, hrollBack, rfl⟩ := Option.map_eq_some_iff.mp h
      obtain ⟨hidle, hkeeps | hrolled⟩ := rollBack_cases hrollBack
      · exact ⟨hidle, .inl hkeeps⟩
      · exact ⟨hidle, .inr ⟨rfl, Bool.eq_false_iff.mpr hstopped, hrolled⟩⟩
    · generalize (if result = 0 then 84 else result) = code at h
      split at h
      · obtain rfl := Option.some.inj h
        exact ⟨idle_leaving rfl, .inl (Keeps.adds [.failed s.foreground] rfl rfl rfl)⟩
      · obtain rfl := Option.some.inj h
        exact ⟨idle_head rfl, .inl (Keeps.adds [.failed s.foreground] rfl rfl rfl)⟩

variable {calls : OpeningCalls} {found : Option VerifiedProgram}

lemma opened_by_own_user (huser : OwnUser daemon s calls)
    (h : openVerifiedProgram daemon.env daemon.profile daemon.platform daemon.personalUnbound
      calls.enumerates s.system s.foreground = some found) :
    ∃ policy installed, openInstalledProgram daemon.env daemon.profile s.system policy s.foreground =
      some installed ∧ found = installed.or (openBuiltInProgram daemon.platform policy s.foreground) := by
  rw [openVerifiedProgram] at h
  rw [OwnUser] at huser
  generalize (if calls.enumerates then (installedApplicationIds s.system).getD [] else []) = installed
    at huser h
  dsimp only at h
  have hcollision : ¬ (!daemon.personalUnbound && !applicationUidIsUnique installed s.foreground) = true := by
    rcases huser with hunbound | hunique
    · simp [hunbound]
    · simp [hunique]
  rw [if_neg hcollision] at h
  obtain ⟨program, hprogram, rfl⟩ := Option.map_eq_some_iff.mp h
  exact ⟨_, program, hprogram, rfl⟩

lemma InstalledOpens.opened (policy : ProgramPolicy) {application : VerifiedApplication}
    (h : InstalledOpens daemon s application) :
    ∃ program, openInstalledProgram daemon.env daemon.profile s.system policy s.foreground =
        some (some program) ∧
      program.policy.privateStorage =
        application.verification.manifest.capabilities.contains (text "storage.private") := by
  have hreserved : reservedApplicationId s.foreground = false := by
    have hverified := h.verified
    rw [verifyInstalledApplication] at hverified
    split at hverified
    · cases Option.some.inj hverified
    · rename_i hnames
      exact ((Bool.or_eq_false_iff.mp (Bool.eq_false_iff.mpr hnames)).2)
  obtain ⟨executable, hexecutable⟩ := Option.isSome_iff_exists.mp h.executable
  rw [openInstalledProgram, hreserved, if_neg Bool.false_ne_true, h.verified, Option.map_some,
    Option.bind_some]
  dsimp only
  rw [hexecutable]
  exact ⟨_, rfl, rfl⟩

lemma InstalledOpens.of_opened {policy : ProgramPolicy} {program : VerifiedProgram}
    (h : openInstalledProgram daemon.env daemon.profile s.system policy s.foreground =
      some (some program)) : ∃ application, InstalledOpens daemon s application := by
  rw [openInstalledProgram] at h
  split at h
  · cases Option.some.inj h
  obtain ⟨verified, hverified, hprogram⟩ := Option.map_eq_some_iff.mp h
  obtain ⟨application, rfl, hexecutable⟩ := Option.bind_eq_some_iff.mp hprogram
  obtain ⟨executable, hlisted, -⟩ := Option.map_eq_some_iff.mp hexecutable
  exact ⟨application, hverified, Option.isSome_of_eq_some hlisted⟩

lemma BuiltInOpens.opened (policy : ProgramPolicy) (h : BuiltInOpens daemon s) :
    ∃ program, openBuiltInProgram daemon.platform policy s.foreground = some program ∧
      program.policy.privateStorage = decide (s.foreground = text "top.lvgl.game2048") := by
  obtain ⟨path, hpath, hlisted⟩ := h
  obtain ⟨executable, hexecutable⟩ := Option.isSome_iff_exists.mp hlisted
  rw [openBuiltInProgram, hpath]
  dsimp only
  rw [hexecutable]
  exact ⟨_, rfl, rfl⟩

lemma attributable_opened (hattributable : Attributable daemon s (.openProgram calls))
    (hrevocable : Revocable daemon s)
    (h : openVerifiedProgram daemon.env daemon.profile daemon.platform daemon.personalUnbound
      calls.enumerates s.system s.foreground = some found) :
    ∃ program, found = some program ∧ SetsUp s calls (program.policy.privateStorage = true) := by
  obtain ⟨huser, hopens⟩ := hattributable hrevocable
  obtain ⟨policy, installed, hinstalled, rfl⟩ := opened_by_own_user huser h
  rcases hopens with ⟨application, hopens, hsets⟩ | ⟨hnone, hbuiltIn, hsets⟩
  · obtain ⟨program, hprogram, hpolicy⟩ := hopens.opened policy
    obtain rfl := Option.some.inj (hinstalled.symm.trans hprogram)
    refine ⟨program, rfl, hsets.imp_right (Or.imp_right (And.imp_right fun hasks => ?_))⟩
    rw [hpolicy]
    exact List.contains_iff_mem.mpr hasks
  · cases installed with
    | some program =>
      obtain ⟨application, hopens⟩ := InstalledOpens.of_opened hinstalled
      exact absurd hopens (hnone application)
    | none =>
      obtain ⟨program, hprogram, hpolicy⟩ := hbuiltIn.opened policy
      refine ⟨program, hprogram, hsets.imp_right (Or.imp_right (And.imp_right fun hgame => ?_))⟩
      rw [hpolicy]
      exact decide_eq_true hgame

/-- Opening a program either leaves the releases alone, or rolls the application back before its
program has run. -/
lemma openStep_cases (h : daemon.openStep s calls = some t) :
    Keeps s t ∧ (∀ program loop executed, t.point = .running program loop executed →
        t.foreground = s.foreground ∧
        openVerifiedProgram daemon.env daemon.profile daemon.platform daemon.personalUnbound
          calls.enumerates s.system s.foreground = some (some program)) ∨
      Idle t ∧ RollsBack daemon s t ∧ ¬ Attributable daemon s (.openProgram calls) := by
  obtain ⟨opened, hopened, h⟩ := Option.bind_eq_some_iff.mp h
  cases opened with
  | none =>
    dsimp only at h
    split at h
    · obtain ⟨hidle, hkeeps | hrolled⟩ := rollBack_cases h
      · exact .inl ⟨hkeeps, fun program loop executed hrunning => absurd hrunning (hidle _ _ _)⟩
      · refine .inr ⟨hidle, hrolled, fun hattributable => ?_⟩
        obtain ⟨program, hprogram, -⟩ := attributable_opened hattributable hrolled.1 hopened
        cases hprogram
    · obtain rfl := Option.some.inj h
      exact .inl ⟨Keeps.silent rfl rfl,
        fun program loop executed hrunning => absurd hrunning (idle_leaving rfl _ _ _)⟩
  | some program =>
    dsimp only at h
    split at h
    · obtain rfl := Option.some.inj h
      exact .inl ⟨Keeps.silent rfl rfl,
        fun program loop executed hrunning => absurd hrunning (idle_leaving rfl _ _ _)⟩
    split at h
    · split at h
      · obtain rfl := Option.some.inj h
        exact .inl ⟨Keeps.adds [.failed s.foreground] rfl rfl rfl,
          fun program loop executed hrunning => absurd hrunning (idle_head rfl _ _ _)⟩
      · obtain rfl := Option.some.inj h
        exact .inl ⟨Keeps.silent rfl rfl,
          fun program loop executed hrunning => absurd hrunning (idle_leaving rfl _ _ _)⟩
    rename_i hstorage
    cases hsetup : calls.setup with
    | some failure =>
      rw [hsetup] at h
      obtain ⟨hidle, hkeeps | ⟨-, hstopped, hrolled⟩⟩ := settle_cases h
      · exact .inl ⟨hkeeps, fun program loop executed hrunning => absurd hrunning (hidle _ _ _)⟩
      refine .inr ⟨hidle, hrolled, fun hattributable => ?_⟩
      obtain ⟨opened, hprogram, hset | hstop | ⟨hmissing, hprivate⟩⟩ :=
        attributable_opened hattributable hrolled.1 hopened
      · rw [hsetup] at hset
        cases hset
      · rw [hstopped] at hstop
        cases hstop
      · obtain rfl := Option.some.inj hprogram
        rw [hmissing] at hstorage
        exact hstorage ⟨hprivate, rfl⟩
    | none =>
      rw [hsetup] at h
      obtain rfl := Option.some.inj h
      refine .inl ⟨Keeps.silent rfl rfl, ?_⟩
      intro other loop executed hrunning
      obtain ⟨rfl, -⟩ := DaemonPoint.running.inj hrunning
      exact ⟨rfl, hopened⟩

lemma executeStep_keeps (h : SessionDaemon.executeStep s = some t) :
    Keeps s t ∧ t.foreground = s.foreground ∧ ∃ program loop executed next,
      s.point = .running program loop executed ∧ t.point = .running program loop next := by
  rw [SessionDaemon.executeStep] at h
  split at h
  · rename_i program loop hrunning
    obtain ⟨-, ht⟩ := Option.ite_none_right_eq_some.mp h
    obtain rfl := Option.some.inj ht
    exact ⟨Keeps.adds [.started s.foreground program.source] rfl rfl rfl, rfl,
      program, loop, false, true, hrunning, rfl⟩
  · cases h

lemma foregroundStep_keeps {program : VerifiedProgram} {loop : Foreground} {executed : Bool}
    {event : ForegroundEvent} {renamed : Bool}
    (h : SessionDaemon.foregroundStep s program loop executed event renamed = some t) :
    Keeps s t ∧ t.foreground = s.foreground ∧ ∃ next, t.point = .running program next executed := by
  obtain ⟨next, -, hnext⟩ := Option.map_eq_some_iff.mp h
  dsimp only at hnext
  split at hnext
  · split at hnext
    · rw [← hnext]
      exact ⟨Keeps.adds [.ready, .published _] rfl (List.append_assoc _ _ _) rfl, rfl,
        next, rfl⟩
    · rw [← hnext]
      exact ⟨Keeps.adds [.ready] rfl rfl rfl, rfl, next, rfl⟩
  · rw [← hnext]
    exact ⟨Keeps.silent rfl rfl, rfl, next, rfl⟩

lemma leaveStep_keeps {cause : EndCause} {written : Bool} :
    Keeps s (SessionDaemon.leaveStep s cause written) := by
  rw [SessionDaemon.leaveStep]
  dsimp only
  split
  · exact Keeps.adds [.published _, .ended cause] rfl (List.append_assoc _ _ _) rfl
  · exact Keeps.adds [.ended cause] rfl rfl rfl

lemma publishStep_keeps {write : StatusWrite} :
    Keeps s (SessionDaemon.publishStep s write) ∧ Idle (SessionDaemon.publishStep s write) := by
  rw [SessionDaemon.publishStep]
  split
  · exact ⟨Keeps.silent rfl rfl, idle_leaving rfl⟩
  split
  · exact ⟨Keeps.silent rfl rfl, idle_leaving rfl⟩
  cases write with
  | kept => exact ⟨Keeps.silent rfl rfl, idle_leaving rfl⟩
  | renamed => exact ⟨Keeps.adds [.published _] rfl rfl rfl, idle_leaving rfl⟩
  | written =>
    refine ⟨Keeps.adds [.published _] rfl rfl rfl, ?_⟩
    intro program loop executed hrunning
    cases hrunning

lemma stop_keeps (h : daemon.step s .stop = some t) :
    Keeps s t ∧ t.foreground = s.foreground ∧ ∀ program loop executed,
      t.point = .running program loop executed → ∃ before, s.point = .running program before executed := by
  rw [SessionDaemon.step.eq_def] at h
  dsimp only at h
  split at h
  · rename_i program loop executed hrunning
    obtain rfl := Option.some.inj h
    refine ⟨Keeps.adds [.signalled] rfl rfl rfl, rfl, fun other next _ hother => ?_⟩
    obtain ⟨rfl, -, rfl⟩ := DaemonPoint.running.inj hother
    exact ⟨loop, hrunning⟩
  · obtain rfl := Option.some.inj h
    exact ⟨Keeps.adds [.signalled] rfl rfl rfl, rfl,
      fun program loop executed hrunning => ⟨loop, hrunning⟩⟩

/-- The program that runs has come from the release that is current. -/
def Sourced (daemon : SessionDaemon) (s : DaemonState) : Prop :=
  ∀ program loop executed release, s.point = .running program loop executed →
    program.source = .installed release →
    (storedReleaseOf daemon.env s.system s.foreground).selected.state.currentRelease = release

lemma sourced_idle (h : Idle s) : Sourced daemon s :=
  fun program loop executed _ hrunning => absurd hrunning (h program loop executed)

lemma step_sourced {e : DaemonEvent} (h : Sourced daemon s) (hstep : daemon.step s e = some t) :
    Sourced daemon t := by
  cases e with
  | outside system =>
    obtain ⟨hpoint, ht⟩ := Option.ite_none_right_eq_some.mp hstep
    rw [← Option.some.inj ht]
    exact sourced_idle (idle_head hpoint)
  | stop =>
    obtain ⟨hkeeps, hforeground, hrunning⟩ := stop_keeps hstep
    intro program loop executed release hpoint hsource
    obtain ⟨before, hbefore⟩ := hrunning program loop executed hpoint
    rw [hkeeps.1, hforeground]
    exact h program before executed release hbefore hsource
  | publish write =>
    obtain ⟨-, ht⟩ := Option.ite_none_right_eq_some.mp hstep
    rw [← Option.some.inj ht]
    exact sourced_idle publishStep_keeps.2
  | openProgram calls =>
    obtain ⟨-, hopen⟩ := Option.ite_none_right_eq_some.mp hstep
    obtain ⟨hkeeps, hopened⟩ | ⟨hidle, -, -⟩ := openStep_cases hopen
    · intro program loop executed release hpoint hsource
      obtain ⟨hforeground, hprogram⟩ := hopened program loop executed hpoint
      rw [hkeeps.1, hforeground]
      exact openVerifiedProgram_installed hprogram hsource
    · exact sourced_idle hidle
  | execute =>
    obtain ⟨hkeeps, hforeground, started, loop, executed, next, hbefore, hnext⟩ := executeStep_keeps hstep
    intro program after executed' release hpoint hsource
    obtain ⟨rfl, -⟩ := DaemonPoint.running.inj (hnext.symm.trans hpoint)
    rw [hkeeps.1, hforeground]
    exact h _ loop executed release hbefore hsource
  | foreground event renamed =>
    rw [SessionDaemon.step.eq_def] at hstep
    dsimp only at hstep
    split at hstep
    · cases hstep
    · rename_i before executed hbefore _
      obtain ⟨-, hforegroundStep⟩ := Option.ite_none_right_eq_some.mp hstep
      obtain ⟨hkeeps, hforeground, next, hnext⟩ := foregroundStep_keeps hforegroundStep
      intro program loop executed' release hpoint hsource
      obtain ⟨rfl, -⟩ := DaemonPoint.running.inj (hnext.symm.trans hpoint)
      rw [hkeeps.1, hforeground]
      exact h _ before executed release hbefore hsource
    · cases hstep
  | close waited randoms =>
    rw [SessionDaemon.step.eq_def] at hstep
    dsimp only at hstep
    split at hstep
    · obtain ⟨-, hsettle⟩ := Option.ite_none_right_eq_some.mp hstep
      exact sourced_idle (settle_cases hsettle).1
    · cases hstep
  | leave written =>
    rw [SessionDaemon.step.eq_def] at hstep
    dsimp only at hstep
    split at hstep
    · rw [← Option.some.inj hstep]
      refine sourced_idle fun program loop executed hpoint => ?_
      rw [SessionDaemon.leaveStep] at hpoint
      dsimp only at hpoint
      split at hpoint
      · cases hpoint
      · cases hpoint
    · cases hstep

lemma step_cases {e : DaemonEvent} (h : daemon.step s e = some t) (houtside : ∀ system, e ≠ .outside system) :
    Keeps s t ∨ RollsBack daemon s t ∧ (Attributable daemon s e →
      ∃ program loop release, s.point = .running program loop true ∧
        program.source = .installed release) := by
  cases e with
  | outside system => exact absurd rfl (houtside system)
  | stop => exact .inl (stop_keeps h).1
  | publish write =>
    obtain ⟨-, ht⟩ := Option.ite_none_right_eq_some.mp h
    rw [← Option.some.inj ht]
    exact .inl publishStep_keeps.1
  | openProgram calls =>
    obtain ⟨-, hopen⟩ := Option.ite_none_right_eq_some.mp h
    obtain ⟨hkeeps, -⟩ | ⟨-, hrolled, hcause⟩ := openStep_cases hopen
    · exact .inl hkeeps
    · exact .inr ⟨hrolled, fun hattributable => absurd hattributable hcause⟩
  | execute => exact .inl (executeStep_keeps h).1
  | foreground event renamed =>
    rw [SessionDaemon.step.eq_def] at h
    dsimp only at h
    split at h
    · cases h
    · obtain ⟨-, hforeground⟩ := Option.ite_none_right_eq_some.mp h
      exact .inl (foregroundStep_keeps hforeground).1
    · cases h
  | close waited randoms =>
    rw [SessionDaemon.step.eq_def] at h
    dsimp only at h
    split at h
    · rename_i program loop executed hpoint
      obtain ⟨-, hsettle⟩ := Option.ite_none_right_eq_some.mp h
      obtain ⟨-, hkeeps | ⟨hfailure, hstopped, hrolled⟩⟩ := settle_cases hsettle
      · exact .inl hkeeps
      · refine .inr ⟨hrolled, fun hattributable => ?_⟩
        obtain ⟨rfl, release, hsource⟩ :=
          hattributable program loop executed hpoint hfailure hstopped hrolled.1
        exact ⟨program, loop, release, hpoint, hsource⟩
    · cases h
  | leave written =>
    rw [SessionDaemon.step.eq_def] at h
    dsimp only at h
    split at h
    · rw [← Option.some.inj h]
      exact .inl leaveStep_keeps
    · cases h

lemma clean_records {log records : List SessionRecord} (h : Clean RollbackRule log)
    (hrecords : ∀ r ∈ records, r.isRollback = false) : Clean RollbackRule (log ++ records) := by
  induction records using List.reverseRecOn with
  | nil =>
    rw [List.append_nil]
    exact h
  | append_singleton records r ih =>
    rw [← List.append_assoc]
    refine (ih fun other hother => hrecords other (List.mem_append_left _ hother)).snoc ?_
    have hr := hrecords r (List.mem_append_right _ (List.mem_singleton_self r))
    cases r with
    | rolledBack app release => cases hr
    | _ => trivial

structure Blamed (daemon : SessionDaemon) (s : DaemonState) : Prop where
  recorded : Recorded s
  sourced : Sourced daemon s
  clean : Clean RollbackRule s.log

lemma step_clean {e : DaemonEvent} (h : Blamed daemon s) (hattributable : Attributable daemon s e)
    (hstep : daemon.step s e = some t) : Clean RollbackRule t.log := by
  by_cases houtside : ∃ system, e = .outside system
  · obtain ⟨system, rfl⟩ := houtside
    obtain ⟨-, ht⟩ := Option.ite_none_right_eq_some.mp hstep
    rw [← Option.some.inj ht]
    exact h.clean
  have houtside : ∀ system, e ≠ .outside system := fun system he => houtside ⟨system, he⟩
  rcases step_cases hstep houtside with ⟨-, records, hlog, hrecords⟩ | ⟨⟨-, hlog⟩, hrunning⟩
  · rw [hlog]
    exact clean_records h.clean hrecords
  obtain ⟨program, loop, release, hpoint, hsource⟩ := hrunning hattributable
  have hrule := h.recorded.point
  rw [hpoint] at hrule
  have hexecuted : Executed s.log s.foreground program.source loop := hrule.2.2
  rw [hsource] at hexecuted
  have hfailed : Clean RollbackRule (s.log ++ [.failed s.foreground]) := h.clean.snoc trivial
  rw [hlog, h.sourced program loop true release hpoint hsource, List.append_cons]
  exact hfailed.snoc ⟨s.log, rfl, hexecuted.latest, hexecuted.turn⟩

end

def failureCrypto : CryptoProvider :=
  { installCrypto with
    sha256 := fun bytes =>
      if bytes = (releaseFields (retreatState secondState true)).flatten then
        some (bigEndian 32 0x8f2793152deb6c3593ac651c2195480388b4f57f5a74823db351e72ed97ea4b9)
      else installCrypto.sha256 bytes }

def failureDaemon : SessionDaemon :=
  { penDaemon with env := { installEnvironment with crypto := failureCrypto } }

def installedRelease (release : SignedRelease) : Node :=
  privateDirectory [
    (text "demo", .file { mode := 0o755 } (text "hi")),
    (packageCopyName, .file { mode := 0o400 } release.package.bytes),
    (packageMarkerName, .file { mode := 0o400 } release.packageDigest.toList)]

def updatedSystem : Node :=
  let releases := privateDirectory
    [(text "1", installedRelease firstRelease), (text "2", installedRelease secondRelease)]
  let apps := privateDirectory
    [(text "org.pen.demo", privateDirectory [(text "releases", releases)])]
  systemWith (privateDirectory [(text "apps", apps)]) (policyWith secondState) secondRelease

def launchEvents (calls : OpeningCalls) : List DaemonEvent :=
  [.publish .written, .openProgram openedCalls, .execute] ++ turnOf { command := .ready } ++
    turnOf { command := .launchApplication, appId := text "org.pen.demo" } ++
    [.close 0 installRandoms.slots, .publish .written, .openProgram calls]

def attributableCheck (daemon : SessionDaemon) (s : DaemonState) (e : DaemonEvent) : Bool :=
  match failureRollback daemon.env daemon.profile s.system s.foreground, e with
  | some (some _), .openProgram calls => calls.setup.isNone && applicationUidIsUnique
        (if calls.enumerates then (installedApplicationIds s.system).getD [] else []) s.foreground &&
      match verifyInstalledApplication daemon.env s.system s.foreground daemon.profile with
      | some (some application) => (listedExecutable application.release
          application.verification.manifest application.verification.manifest.entry).isSome
      | _ => false
  | some (some _), .close _ _ =>
    match s.point with
    | .running program _ executed => executed && program.source ≠ .builtIn
    | _ => true
  | _, _ => true

lemma attributable_of_check (daemon : SessionDaemon) (s : DaemonState) (e : DaemonEvent)
    (h : attributableCheck daemon s e = true) : Attributable daemon s e := by
  cases e with
  | openProgram calls =>
    rintro ⟨state, hstate⟩
    rw [attributableCheck.eq_def, hstate] at h
    obtain ⟨hcalls, hopens⟩ := (Bool.and_eq_true _ _).mp h
    obtain ⟨hsetup, hunique⟩ := (Bool.and_eq_true _ _).mp hcalls
    split at hopens
    · rename_i application hverified
      exact ⟨.inr hunique, .inl ⟨application, ⟨hverified, hopens⟩,
        .inl (Option.isNone_iff_eq_none.mp hsetup)⟩⟩
    · cases hopens
  | close waited randoms =>
    rintro program loop executed hpoint - - ⟨state, hstate⟩
    rw [attributableCheck.eq_def, hstate] at h
    dsimp only at h
    rw [hpoint] at h
    obtain ⟨hexecuted, hinstalled⟩ := (Bool.and_eq_true _ _).mp h
    refine ⟨hexecuted, ?_⟩
    cases hsource : program.source with
    | installed release => exact ⟨release, rfl⟩
    | builtIn => exact absurd hsource (of_decide_eq_true hinstalled)
  | _ => trivial

def crashEvents : List DaemonEvent :=
  launchEvents openedCalls ++ [.execute] ++ [.exit 7, .poll .interrupted, .control true, .touch ⟨[], 0⟩ true,
    .storage true, .installer true, .deadline false, .reap].map (fun event => .foreground event true) ++
    [.close 0 installRandoms.slots]

end LvglPlatform

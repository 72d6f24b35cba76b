import LvglPlatform.Launcher.LauncherPage

namespace LvglPlatform

open Foundation

namespace LauncherPage

def Tracked (page : LauncherPage) : Prop := page.requestActive = true → page.launches ≠ []

/-- A launch call does not end with the flag set by it, unless another one goes on: it is still of the
generation of the page, or the flag is clear, or it is not the last one in flight. -/
def EndsTracked (page : LauncherPage) : PageEvent → Prop
  | .probed generation _ _ => page.requestActive = true → generation = page.generation ∨
      page.launches ≠ [⟨generation, .probing⟩]
  | .started generation _ _ => page.requestActive = true → generation = page.generation ∨
      page.launches ≠ [⟨generation, .starting⟩]
  | _ => True

structure SameLaunches (before after : LauncherPage) : Prop where
  requestActive : after.requestActive = before.requestActive
  launches : after.launches = before.launches
  generation : after.generation = before.generation

variable {page before after : LauncherPage} {generation : ℕ} {cancelled : ℕ → Bool}

lemma SameLaunches.refl : SameLaunches page page := ⟨rfl, rfl, rfl⟩

lemma SameLaunches.trans (h : SameLaunches page before) (h' : SameLaunches before after) :
    SameLaunches page after :=
  ⟨h'.requestActive.trans h.requestActive, h'.launches.trans h.launches,
    h'.generation.trans h.generation⟩

lemma SameLaunches.tracked (h : SameLaunches before after) (htracked : Tracked before) :
    Tracked after := by
  intro hactive
  rw [h.launches]
  apply htracked
  rw [← h.requestActive]
  exact hactive

lemma sameLaunches_catchError : SameLaunches page (page.catchError generation cancelled) := by
  rw [catchError]
  split
  · exact .refl
  · exact ⟨rfl, rfl, rfl⟩

lemma sameLaunches_schedulePoll {delay : ℕ} : SameLaunches page (page.schedulePoll generation delay) := by
  rw [schedulePoll]
  split
  · exact ⟨rfl, rfl, rfl⟩
  · exact ⟨rfl, rfl, rfl⟩

lemma sameLaunches_applyStatus {status : LauncherResult} :
    SameLaunches page (page.applyStatus status) := ⟨rfl, rfl, rfl⟩

section

variable {phase : TouchPhase} {release answer : Bool} {answers : ℕ → Bool} {touch : Touch}
  {key : Units} {contactId index : ℕ} {inherited : Units → Bool}

def left : Except LauncherPage LauncherPage → LauncherPage
  | .ok page => page
  | .error page => page

lemma sameLaunches_sendContact :
    SameLaunches page (left (page.sendContact phase release answer touch key contactId)) := by
  rw [sendContact]
  split
  · exact .refl
  split
  · exact .refl
  · exact ⟨rfl, rfl, rfl⟩

lemma sameLaunches_emitTouch :
    SameLaunches page (left (page.emitTouch inherited phase release answer touch index)) := by
  rw [emitTouch]
  split
  · exact .refl
  split
  · split
    · exact sameLaunches_sendContact
    · refine SameLaunches.trans ?_ sameLaunches_sendContact
      exact ⟨rfl, rfl, rfl⟩
    · exact ⟨rfl, rfl, rfl⟩
  · split
    · exact .refl
    · exact sameLaunches_sendContact

lemma sameLaunches_emitTouches (touches : List Touch) :
    SameLaunches page (left (emitTouches inherited phase release answers page touches index)) := by
  induction touches generalizing page index with
  | nil => exact .refl
  | cons touch touches ih =>
    rw [emitTouches]
    have hemit : SameLaunches page (left (page.emitTouch inherited phase release (answers index) touch index)) :=
      sameLaunches_emitTouch
    split
    · rename_i thrown hthrown
      rw [hthrown] at hemit
      exact hemit
    · rename_i next hnext
      rw [hnext] at hemit
      exact hemit.trans ih

lemma sameLaunches_forwardTouches {value : Option (List Touch)} {answers : SendAnswers} :
    SameLaunches page (page.forwardTouches inherited phase value release answers) := by
  rw [forwardTouches]
  split
  · exact .refl
  have hemit : SameLaunches page (left (emitTouches inherited phase release answers.frame page (touchList value) 0)) :=
    sameLaunches_emitTouches _
  split
  · rename_i next hnext
    rw [hnext] at hemit
    exact hemit
  · rename_i thrown hthrown
    rw [hthrown] at hemit
    exact hemit.trans ⟨rfl, rfl, rfl⟩

end

lemma beginLaunch_tracked (h : Tracked page) : Tracked page.beginLaunch := by
  rw [beginLaunch]
  split
  · exact h
  · intro _
    exact List.append_ne_nil_of_right_ne_nil _ (List.cons_ne_nil _ _)

lemma erase_ne_nil {calls : List LaunchCall} {call : LaunchCall} (hne : calls ≠ [])
    (hother : calls ≠ [call]) : calls.erase call ≠ [] := by
  intro herase
  rcases List.erase_eq_nil_iff.mp herase with hnil | hsingle
  · exact hne hnil
  · exact hother hsingle

lemma endLaunch_tracked {call : LaunchCall} (h : Tracked page)
    (hends : page.requestActive = true → call.generation = page.generation ∨ page.launches ≠ [call]) :
    Tracked (page.endLaunch call) := by
  intro hactive
  change (if call.generation = page.generation then false else page.requestActive) = true at hactive
  split at hactive
  · cases hactive
  · rename_i hgeneration
    have hother := (hends hactive).resolve_left hgeneration
    exact erase_ne_nil (h hactive) hother

lemma SameLaunches.ends {call : LaunchCall} (hsame : SameLaunches before after)
    (htracked : Tracked before)
    (hends : before.requestActive = true → call.generation = before.generation ∨
      before.launches ≠ [call]) : Tracked (after.endLaunch call) := by
  apply endLaunch_tracked (hsame.tracked htracked)
  rw [hsame.requestActive, hsame.launches, hsame.generation]
  exact hends

lemma resumeProbe_tracked {answer : Option LauncherResult} (h : Tracked page)
    (hends : page.requestActive = true → generation = page.generation ∨
      page.launches ≠ [⟨generation, .probing⟩]) :
    Tracked (page.resumeProbe generation answer cancelled) := by
  rw [resumeProbe.eq_def]
  dsimp only
  split
  · exact sameLaunches_catchError.ends h hends
  split
  · exact SameLaunches.refl.ends h hends
  split
  · exact (sameLaunches_applyStatus.trans sameLaunches_catchError).ends h hends
  split
  · intro _
    exact List.append_ne_nil_of_right_ne_nil _ (List.cons_ne_nil _ _)
  · exact (sameLaunches_applyStatus.trans sameLaunches_schedulePoll).ends h hends

lemma resumeStart_tracked {answer : Option LauncherResult} (h : Tracked page)
    (hends : page.requestActive = true → generation = page.generation ∨
      page.launches ≠ [⟨generation, .starting⟩]) :
    Tracked (page.resumeStart generation answer cancelled) := by
  rw [resumeStart.eq_def]
  dsimp only
  split
  · exact sameLaunches_catchError.ends h hends
  split
  · exact SameLaunches.refl.ends h hends
  split
  · exact (sameLaunches_applyStatus.trans sameLaunches_catchError).ends h hends
  · exact (sameLaunches_applyStatus.trans sameLaunches_schedulePoll).ends h hends

lemma sameLaunches_resumePoll {answer : Option LauncherResult} :
    SameLaunches page (page.resumePoll generation answer cancelled) := by
  rw [resumePoll.eq_def]
  dsimp only
  split
  · exact ⟨rfl, rfl, rfl⟩
  split
  · exact ⟨rfl, rfl, rfl⟩
  · refine SameLaunches.trans ?_ sameLaunches_schedulePoll
    exact ⟨rfl, rfl, rfl⟩

lemma Tracked.step {inherited : Units → Bool} {event : PageEvent} (h : Tracked before) (hends : EndsTracked before event)
    (hstep : before.step inherited event = some after) : Tracked after := by
  cases event with
  | «show» =>
    obtain rfl := Option.some.inj hstep
    exact beginLaunch_tracked h
  | hide cancelled =>
    obtain rfl := Option.some.inj hstep
    exact h
  | unload cancelled =>
    obtain rfl := Option.some.inj hstep
    exact nofun
  | retry =>
    obtain rfl := Option.some.inj hstep
    rw [retry]
    split
    · exact h
    · exact beginLaunch_tracked h
  | probed generation answer cancelled =>
    obtain ⟨-, hafter⟩ := Option.ite_none_right_eq_some.mp hstep
    rw [← Option.some.inj hafter]
    exact resumeProbe_tracked h hends
  | started generation answer cancelled =>
    obtain ⟨-, hafter⟩ := Option.ite_none_right_eq_some.mp hstep
    rw [← Option.some.inj hafter]
    exact resumeStart_tracked h hends
  | pollDue =>
    obtain ⟨timer, -, rfl⟩ := Option.map_eq_some_iff.mp hstep
    refine SameLaunches.tracked ?_ h
    rw [pollDue]
    split
    · exact ⟨rfl, rfl, rfl⟩
    · exact ⟨rfl, rfl, rfl⟩
  | polled generation answer cancelled =>
    obtain ⟨-, hafter⟩ := Option.ite_none_right_eq_some.mp hstep
    rw [← Option.some.inj hafter]
    exact sameLaunches_resumePoll.tracked h
  | touchStart event answers =>
    obtain rfl := Option.some.inj hstep
    refine SameLaunches.tracked (SameLaunches.trans ?_ sameLaunches_forwardTouches) h
    exact ⟨rfl, rfl, rfl⟩
  | touchMove event answers =>
    obtain rfl := Option.some.inj hstep
    exact SameLaunches.tracked sameLaunches_forwardTouches h
  | touchEnd event answers =>
    obtain rfl := Option.some.inj hstep
    refine SameLaunches.tracked (SameLaunches.trans ?_ sameLaunches_forwardTouches) h
    exact ⟨rfl, rfl, rfl⟩
  | touchCancel event cancelled =>
    obtain rfl := Option.some.inj hstep
    exact h

lemma tracked_initial : Tracked {} := nofun

lemma beginLaunch_starts (hrequest : page.requestActive = false) (hactive : page.pageActive = true) :
    (⟨page.generation + 1, .probing⟩ : LaunchCall) ∈ page.beginLaunch.launches := by
  rw [beginLaunch, hrequest, hactive, if_neg (by decide)]
  exact List.mem_append_right _ (List.mem_singleton_self _)

end LauncherPage

structure LaunchesFollow (page : LauncherPage) : Prop where
  tracked : page.requestActive = true → page.launches ≠ []
  «show» : page.launches = [] → ⟨page.generation + 1, .probing⟩ ∈ page.onShow.launches
  retry : page.pageActive = true → page.launches = [] →
    ⟨page.generation + 1, .probing⟩ ∈ page.retry.launches

lemma LauncherPage.Tracked.follow {page : LauncherPage} (h : page.Tracked) : LaunchesFollow page := by
  have hidle : page.launches = [] → page.requestActive = false := by
    intro hnone
    exact Bool.eq_false_iff.mpr fun hactive => h hactive hnone
  refine ⟨h, ?_, ?_⟩
  · intro hnone
    have hrequest : ({ page with pageActive := true } : LauncherPage).requestActive = false := hidle hnone
    exact beginLaunch_starts hrequest rfl
  · intro hactive hnone
    rw [retry, hidle hnone, if_neg Bool.false_ne_true]
    exact beginLaunch_starts (hidle hnone) hactive

/-- When no launch call ends as the last one in flight with a flag that another generation of the page
left set, the flag follows the calls. -/
theorem launch_flag_follows_calls (inherited : Units → Bool) (events : List PageEvent)
    (page : LauncherPage)
    (hends : (launcherPageProcess inherited).Along LauncherPage.EndsTracked {} events)
    (hrun : (launcherPageProcess inherited).run {} events = some page) : LaunchesFollow page := by
  have htracked : page.Tracked := Process.run_invariant (P := launcherPageProcess inherited)
    (fun before event after h hends hstep => h.step hends hstep) LauncherPage.tracked_initial hends hrun
  exact htracked.follow

def readyResult : LauncherResult where
  available := true
  accepted := true
  holeReady := true
  inputReady := true
  state := text "ready"
  logicalWidth := 960
  logicalHeight := 266

def noneSent : ℕ → Bool := fun _ => false

/-- The keys of `Object.prototype`. -/
def prototypeKey (key : Units) : Bool :=
  key ∈ ["constructor", "hasOwnProperty", "isPrototypeOf", "propertyIsEnumerable", "toLocaleString",
    "toString", "valueOf", "__proto__", "__defineGetter__", "__defineSetter__", "__lookupGetter__",
    "__lookupSetter__"].map fun name => utf16 name.toList

theorem shown_page_launches :
    ∃ page, (launcherPageProcess prototypeKey).run {}
        [.show, .probed 1 (some readyResult) noneSent] = some page ∧ LaunchesFollow page := by
  refine ⟨_, rfl, launch_flag_follows_calls prototypeKey [.show, .probed 1 (some readyResult) noneSent] _ ?_ rfl⟩
  refine ⟨trivial, fun page hpage => ?_⟩
  obtain rfl := Option.some.inj hpage
  exact ⟨fun _ => .inl rfl, fun _ _ => trivial⟩

/-- The page is hidden while it probes; when the probe has come back, no show ever launches again. -/
theorem hidden_page_never_launches :
    ¬ ∀ (events : List PageEvent) (page : LauncherPage),
      (launcherPageProcess prototypeKey).run {} events = some page → LaunchesFollow page := by
  intro hfollow
  have hpage := hfollow [.show, .hide noneSent, .probed 1 (some readyResult) noneSent] _ rfl
  exact hpage.tracked rfl rfl

end LvglPlatform

import LvglPlatform.Foundation.Machine

/-! The focus timer: its deadline, its pauses and the time it is really run. Times are nanoseconds. -/

namespace LvglPlatform

open Foundation

inductive TimerState
  | idle
  | running
  | paused
  | completed
  deriving DecidableEq

structure FocusTimerModel where
  durationSeconds : ℤ := 25 * 60
  pausedRemainingSeconds : ℤ := 25 * 60
  deadline : ℤ := 0
  state : TimerState := .idle

def second : ℤ := 1000000000

namespace FocusTimerModel

def selectMinutes (timer : FocusTimerModel) (minutes : ℤ) : FocusTimerModel :=
  if timer.state = .running ∨ (minutes ≠ 15 ∧ minutes ≠ 25 ∧ minutes ≠ 45) then timer
  else { timer with
    durationSeconds := minutes * 60
    pausedRemainingSeconds := minutes * 60
    state := .idle }

/-- The number of seconds is taken as an `int`. -/
def remainingSeconds (timer : FocusTimerModel) (now : ℤ) : ℤ :=
  if timer.state ≠ .running then timer.pausedRemainingSeconds
  else
    let remaining := (timer.deadline - now).tdiv second
    max 0 (remaining.bmod (2 ^ 32) +
      if timer.deadline > now ∧ remaining * second < timer.deadline - now then 1 else 0)

def toggle (timer : FocusTimerModel) (now : ℤ) : FocusTimerModel :=
  if timer.state = .running then
    { timer with pausedRemainingSeconds := timer.remainingSeconds now, state := .paused }
  else
    let paused := if timer.state = .completed then timer.durationSeconds else timer.pausedRemainingSeconds
    { timer with
      pausedRemainingSeconds := paused
      deadline := now + paused * second
      state := .running }

def reset (timer : FocusTimerModel) : FocusTimerModel :=
  { timer with pausedRemainingSeconds := timer.durationSeconds, state := .idle }

def update (timer : FocusTimerModel) (now : ℤ) : FocusTimerModel :=
  if timer.state = .running ∧ timer.remainingSeconds now ≤ 0 then
    { timer with pausedRemainingSeconds := 0, state := .completed }
  else timer

end FocusTimerModel

inductive TimerOperation
  | selectMinutes (minutes : ℤ)
  | toggle (now : ℤ)
  | reset
  | update (now : ℤ)

namespace FocusTimerModel

def operate (timer : FocusTimerModel) : TimerOperation → FocusTimerModel
  | .selectMinutes minutes => timer.selectMinutes minutes
  | .toggle now => timer.toggle now
  | .reset => timer.reset
  | .update now => timer.update now

def machine : Machine FocusTimerModel TimerOperation where
  initial := {}
  step := operate

/-- A duration can be selected, and a timer that is idle has all of it left. -/
structure Selected (timer : FocusTimerModel) : Prop where
  duration : timer.durationSeconds ∈ [15 * 60, 25 * 60, 45 * 60]
  idle : timer.state = .idle → timer.pausedRemainingSeconds = timer.durationSeconds

lemma selected_run (operations : List TimerOperation) : Selected (machine.run operations) := by
  have hpreserves : machine.Preserves Selected := by
    rintro timer operation ⟨hduration, hidle⟩
    cases operation with
    | selectMinutes minutes =>
      change Selected (timer.selectMinutes minutes)
      rw [selectMinutes]
      split <;> rename_i h
      · exact ⟨hduration, hidle⟩
      · refine ⟨?_, fun _ => rfl⟩
        simp only [List.mem_cons, List.not_mem_nil, or_false]
        omega
    | toggle now =>
      change Selected (timer.toggle now)
      rw [toggle]
      split
      · exact ⟨hduration, nofun⟩
      · exact ⟨hduration, nofun⟩
    | reset => exact ⟨hduration, fun _ => rfl⟩
    | update now =>
      change Selected (timer.update now)
      rw [update]
      split
      · exact ⟨hduration, nofun⟩
      · exact ⟨hduration, hidle⟩
  exact hpreserves.run ⟨by decide, fun _ => rfl⟩ operations

end FocusTimerModel

inductive TimerCall
  | toggle (now : ℤ)
  | update (now : ℤ)

def TimerCall.time : TimerCall → ℤ
  | toggle now => now
  | update now => now

def FocusTimerModel.call (timer : FocusTimerModel) : TimerCall → FocusTimerModel
  | .toggle now => timer.toggle now
  | .update now => timer.update now

/-- What the times of the calls say: the time of the runs that have been ended by a pause and what their seconds
leave over, the start of the run that goes on, the longest run and the last call. -/
structure RunTimes where
  running : Bool := false
  total : ℤ := 0
  fractions : ℤ := 0
  started : ℤ := 0
  longest : ℤ := 0
  last : ℤ := 0

namespace RunTimes

def call (times : RunTimes) : TimerCall → RunTimes
  | .toggle now =>
    if times.running then { times with
      running := false
      total := times.total + (now - times.started)
      fractions := times.fractions + (now - times.started) % second
      longest := max times.longest (now - times.started)
      last := now }
    else { times with running := true, started := now, last := now }
  | .update now => { times with
    longest := if times.running then max times.longest (now - times.started) else times.longest
    last := now }

def spent (times : RunTimes) (now : ℤ) : ℤ :=
  if times.running then times.total + (now - times.started) else times.total

/-- The seconds of every run up to a time fit the `int`. -/
def Counted (times : RunTimes) (now : ℤ) : Prop :=
  times.longest < 2 ^ 31 * second ∧ now - times.started < 2 ^ 31 * second

/-- The pauses have not rounded away more than a second, or the runs have already made up for it. -/
def MadeUp (times : RunTimes) (duration : ℤ) : Prop :=
  times.fractions ≤ second ∨ duration + times.fractions ≤ times.spent times.last

end RunTimes

def runTimes (start : ℤ) (calls : List TimerCall) : RunTimes := calls.foldl RunTimes.call { last := start }

section

variable {timer : FocusTimerModel} {started now remaining : ℤ}

/-- Before the deadline the seconds left are rounded up: a run has only taken away those that have passed in
full. -/
lemma remainingSeconds_before (hstate : timer.state = .running)
    (hdeadline : timer.deadline = started + remaining * second) (hhigh : remaining < 2 ^ 31)
    (hstarted : started ≤ now) (hbefore : now < timer.deadline) :
    timer.remainingSeconds now = remaining - (now - started) / second ∧
      (now - started) / second < remaining := by
  have hleft : (timer.deadline - now).tdiv second = (timer.deadline - now) / second :=
    Int.tdiv_eq_ediv_of_nonneg (by omega)
  have hbmod : ((timer.deadline - now) / second).bmod (2 ^ 32) = (timer.deadline - now) / second := by
    rw [second] at hdeadline ⊢
    exact Int.bmod_eq_of_le (by omega) (by omega)
  rw [FocusTimerModel.remainingSeconds, if_neg (by simp [hstate])]
  dsimp only
  rw [hleft, hbmod]
  rw [second] at hdeadline ⊢
  split <;> rename_i hround
  · omega
  · have hexact : timer.deadline - now ≤ (timer.deadline - now) / 1000000000 * 1000000000 := by
      by_contra! hlt
      exact hround ⟨hbefore, hlt⟩
    omega

lemma remainingSeconds_after (hstate : timer.state = .running) (hafter : timer.deadline ≤ now)
    (hshort : now - timer.deadline < 2 ^ 31 * second) : timer.remainingSeconds now = 0 := by
  have hnonpos : (timer.deadline - now).tdiv second ≤ 0 := by
    have hneg := Int.neg_tdiv (now - timer.deadline) second
    rw [Int.neg_sub] at hneg
    have hdiv : 0 ≤ (now - timer.deadline).tdiv second := Int.tdiv_nonneg (by omega) (by decide)
    omega
  have hlow : -(2 ^ 31) ≤ (timer.deadline - now).tdiv second := by
    have hneg := Int.neg_tdiv (now - timer.deadline) second
    rw [Int.neg_sub, Int.tdiv_eq_ediv_of_nonneg (a := now - timer.deadline) (by omega)] at hneg
    rw [second] at hneg hshort ⊢
    omega
  rw [FocusTimerModel.remainingSeconds, if_neg (by simp [hstate])]
  dsimp only
  rw [if_neg (fun h => absurd h.1 (by omega)), Int.bmod_eq_of_le (by simpa using hlow) (by omega)]
  omega

lemma remainingSeconds_range (hstate : timer.state = .running)
    (hdeadline : timer.deadline = started + remaining * second) (hhigh : remaining < 2 ^ 31)
    (hstarted : started ≤ now) : 0 ≤ timer.remainingSeconds now ∧ timer.remainingSeconds now < 2 ^ 31 := by
  by_cases hbefore : now < timer.deadline
  · obtain ⟨heq, hlt⟩ := remainingSeconds_before hstate hdeadline hhigh hstarted hbefore
    have hpassed : 0 ≤ (now - started) / second := Int.ediv_nonneg (by omega) (by decide)
    omega
  · have hbmod := @Int.bmod_lt ((timer.deadline - now).tdiv second) (2 ^ 32) (by decide)
    rw [FocusTimerModel.remainingSeconds, if_neg (by simp [hstate])]
    dsimp only
    rw [if_neg fun h => hbefore h.1]
    omega

lemma remainingSeconds_short (hstate : timer.state = .running)
    (hdeadline : timer.deadline = started + remaining * second) (hlow : 0 ≤ remaining) (hhigh : remaining < 2 ^ 31)
    (hstarted : started ≤ now) (hshort : now - started < 2 ^ 31 * second) :
    timer.remainingSeconds now = max 0 (remaining - (now - started) / second) := by
  by_cases hbefore : now < timer.deadline
  · obtain ⟨heq, hlt⟩ := remainingSeconds_before hstate hdeadline hhigh hstarted hbefore
    omega
  · have hzero : timer.remainingSeconds now = 0 :=
      remainingSeconds_after hstate (by omega) (by rw [second] at hdeadline hshort ⊢; omega)
    rw [second] at hdeadline ⊢
    omega

lemma update_completed (hstate : timer.state = .running) :
    (timer.update now).state = .completed ↔ timer.remainingSeconds now ≤ 0 := by
  rw [FocusTimerModel.update]
  constructor
  · intro h
    split at h <;> rename_i hupdate
    · exact hupdate.2
    · rw [hstate] at h
      exact absurd h nofun
  · intro h
    rw [if_pos ⟨hstate, h⟩]

end

/-- The seconds a timer still has to run, after calls that have not completed it: with the time of its runs they
make up the duration, and the fractions that the pauses have rounded away come on top of it. -/
structure TimeAccounted (duration : ℤ) (timer : FocusTimerModel) (times : RunTimes) : Prop where
  open_ : timer.state ≠ .completed
  running : timer.state = .running ↔ times.running = true
  low : 0 ≤ timer.pausedRemainingSeconds
  high : timer.pausedRemainingSeconds < 2 ^ 31
  covered : duration * second ≤ times.total + timer.pausedRemainingSeconds * second
  exact_ : times.longest < 2 ^ 31 * second → times.total + timer.pausedRemainingSeconds * second =
    max (duration * second + times.fractions) times.total
  deadline : times.running = true → timer.deadline = times.started + timer.pausedRemainingSeconds * second
  started : times.running = true → times.started ≤ times.last ∧ times.last - times.started ≤ times.longest
  longest : 0 ≤ times.longest
  total : 0 ≤ times.total

section

variable {duration : ℤ} {timer : FocusTimerModel} {times : RunTimes}

lemma TimeAccounted.pause (h : TimeAccounted duration timer times) {now : ℤ} (hnow : times.last ≤ now)
    (hrunning : timer.state = .running) :
    TimeAccounted duration (timer.toggle now) (times.call (.toggle now)) := by
  have htimes := h.running.mp hrunning
  have hstarted := (h.started htimes).1
  have hdeadline := h.deadline htimes
  obtain ⟨hlow, hhigh⟩ := remainingSeconds_range hrunning hdeadline h.high (hstarted.trans hnow)
  rw [FocusTimerModel.toggle, if_pos hrunning, RunTimes.call, if_pos htimes]
  have hcovered := h.covered
  have htotal := h.total
  have hlongest := h.longest
  refine ⟨nofun, ⟨nofun, nofun⟩, hlow, hhigh, ?_, fun hshort => ?_, nofun, nofun, by dsimp only; omega,
    by dsimp only; omega⟩
  · dsimp only
    by_cases hbefore : now < timer.deadline
    · obtain ⟨heq, -⟩ := remainingSeconds_before hrunning hdeadline h.high (hstarted.trans hnow) hbefore
      rw [heq]
      rw [second] at hcovered ⊢
      omega
    · rw [second] at hcovered hdeadline ⊢
      omega
  · dsimp only at hshort ⊢
    have hexact := h.exact_ (by omega)
    rw [remainingSeconds_short hrunning hdeadline h.low h.high (hstarted.trans hnow) (by omega)]
    have hremaining := h.low
    rw [second] at hexact ⊢
    omega

lemma TimeAccounted.start (h : TimeAccounted duration timer times) {now : ℤ}
    (hrunning : timer.state ≠ .running) :
    TimeAccounted duration (timer.toggle now) (times.call (.toggle now)) := by
  have htimes : times.running ≠ true := fun htimes => hrunning (h.running.mpr htimes)
  rw [FocusTimerModel.toggle, if_neg hrunning, if_neg h.open_, RunTimes.call, if_neg htimes]
  exact ⟨nofun, ⟨fun _ => rfl, fun _ => rfl⟩, h.low, h.high, h.covered, h.exact_, fun _ => rfl,
    fun _ => ⟨le_rfl, by simpa using h.longest⟩, h.longest, h.total⟩

lemma TimeAccounted.update (h : TimeAccounted duration timer times) {now : ℤ} (hnow : times.last ≤ now)
    (hopen : (timer.update now).state ≠ .completed) :
    TimeAccounted duration (timer.update now) (times.call (.update now)) := by
  have hsame : timer.update now = timer := by
    rw [FocusTimerModel.update]
    split <;> rename_i hupdate
    · exact absurd ((update_completed hupdate.1).mpr hupdate.2) hopen
    · rfl
  rw [hsame, RunTimes.call]
  have hlongest := h.longest
  refine ⟨h.open_, h.running, h.low, h.high, h.covered, fun hshort => h.exact_ ?_, h.deadline, fun htimes => ?_,
    ?_, h.total⟩
  · dsimp only at hshort
    split at hshort
    · omega
    · exact hshort
  · have hstarted := (h.started htimes).1
    dsimp only at htimes ⊢
    rw [if_pos htimes]
    omega
  · dsimp only
    split
    · omega
    · exact hlongest

lemma TimeAccounted.call (h : TimeAccounted duration timer times) {call : TimerCall} (htime : times.last ≤ call.time)
    (hopen : (timer.call call).state ≠ .completed) :
    TimeAccounted duration (timer.call call) (times.call call) := by
  cases call with
  | toggle now =>
    by_cases hrunning : timer.state = .running
    · exact h.pause htime hrunning
    · exact h.start hrunning
  | update now => exact h.update htime hopen

lemma RunTimes.last_call (times : RunTimes) (call : TimerCall) : (times.call call).last = call.time := by
  cases call with
  | toggle now =>
    rw [RunTimes.call]
    split <;> rfl
  | update now => rfl

lemma TimeAccounted.calls (h : TimeAccounted duration timer times) {calls : List TimerCall}
    (hordered : (times.last :: calls.map TimerCall.time).IsChain (· ≤ ·))
    (hopen : ∀ before, before <+: calls → (before.foldl FocusTimerModel.call timer).state ≠ .completed) :
    TimeAccounted duration (calls.foldl FocusTimerModel.call timer) (calls.foldl RunTimes.call times) := by
  induction calls generalizing timer times with
  | nil => exact h
  | cons call calls ih =>
    rw [List.map_cons, List.isChain_cons_cons] at hordered
    refine ih (h.call hordered.1 (hopen [call] (List.prefix_append _ _))) ?_ fun before hbefore => ?_
    · rw [RunTimes.last_call]
      exact hordered.2
    · exact hopen (call :: before) (List.prefix_cons_inj call |>.mpr hbefore)

lemma timeAccounted_selected (hselected : timer.Selected) (hidle : timer.state = .idle) (start : ℤ) :
    TimeAccounted timer.durationSeconds timer { last := start } := by
  have hduration := hselected.duration
  simp only [List.mem_cons, List.not_mem_nil, or_false] at hduration
  have hpaused := hselected.idle hidle
  refine ⟨?_, ?_, by omega, by omega, ?_, fun _ => ?_, nofun, nofun, le_rfl, le_rfl⟩
  · rw [hidle]
    decide
  · rw [hidle]
    exact ⟨nofun, nofun⟩
  · rw [hpaused, zero_add]
  · change 0 + timer.pausedRemainingSeconds * second = max (timer.durationSeconds * second + 0) 0
    rw [hpaused, second]
    omega

lemma TimeAccounted.due (h : TimeAccounted duration timer times) (htimes : times.running = true)
    (hlongest : times.longest < 2 ^ 31 * second) (now : ℤ) : timer.deadline ≤ now ↔
      max (duration * second + times.fractions) times.total ≤ times.spent now := by
  rw [← h.exact_ hlongest, h.deadline htimes, RunTimes.spent, if_pos htimes]
  constructor <;> intro hle <;> omega

lemma TimeAccounted.not_early (h : TimeAccounted duration timer times) (htimes : times.running = true) {now : ℤ}
    (hnow : times.last ≤ now) (hcompleted : (timer.update now).state = .completed) :
    timer.deadline ≤ now ∧ duration * second ≤ times.spent now := by
  have hrunning := h.running.mpr htimes
  have hdeadline := h.deadline htimes
  have hafter : timer.deadline ≤ now := by
    by_contra! hbefore
    obtain ⟨heq, hlt⟩ :=
      remainingSeconds_before hrunning hdeadline h.high ((h.started htimes).1.trans hnow) hbefore
    have hzero := (update_completed hrunning).mp hcompleted
    omega
  refine ⟨hafter, h.covered.trans ?_⟩
  rw [RunTimes.spent, if_pos htimes]
  omega

lemma TimeAccounted.completes (h : TimeAccounted duration timer times) (htimes : times.running = true) {now : ℤ}
    (hafter : timer.deadline ≤ now) (hshort : now - times.started < 2 ^ 31 * second) :
    (timer.update now).state = .completed := by
  have hrunning := h.running.mpr htimes
  have hlow := h.low
  have hdeadline := h.deadline htimes
  refine (update_completed hrunning).mpr (remainingSeconds_after hrunning hafter ?_).le
  rw [second] at hdeadline hshort ⊢
  omega

end

/-- The timer is never completed before it has run for its duration. It is completed by the first update that
comes a second after that, whenever this is, if and only if the pauses have not rounded away more than a second,
or the runs have already made up for it. -/
theorem timer_completes_iff (operations : List TimerOperation) (start : ℤ) (calls : List TimerCall)
    (hidle : (FocusTimerModel.machine.run operations).state = .idle)
    (hordered : (start :: calls.map TimerCall.time).IsChain (· ≤ ·))
    (hopen : ∀ before, before <+: calls →
      (before.foldl FocusTimerModel.call (FocusTimerModel.machine.run operations)).state ≠ .completed)
    (hrunning : (runTimes start calls).running = true) :
    let selected := FocusTimerModel.machine.run operations
    let timer := calls.foldl FocusTimerModel.call selected
    let times := runTimes start calls
    let duration := selected.durationSeconds * second
    (∀ now, times.last ≤ now → (timer.update now).state = .completed → duration ≤ times.spent now) ∧
      ((∀ now, times.last ≤ now → times.Counted now → duration + second ≤ times.spent now →
          (timer.update now).state = .completed) ↔
        (times.longest < 2 ^ 31 * second → times.MadeUp duration)) := by
  intro selected timer times duration
  have hselected : selected.Selected := FocusTimerModel.selected_run operations
  have haccounted : TimeAccounted selected.durationSeconds timer times :=
    (timeAccounted_selected hselected hidle start).calls hordered hopen
  have htimes : times.running = true := hrunning
  have hspent : ∀ now, times.spent now = times.total + (now - times.started) := fun now => by
    rw [RunTimes.spent, if_pos htimes]
  obtain ⟨hstarted, hlast⟩ := haccounted.started htimes
  refine ⟨fun now hnow hcompleted => (haccounted.not_early htimes hnow hcompleted).2, ?_⟩
  constructor
  · intro hcompletes hlongest
    rw [RunTimes.MadeUp]
    by_contra! hlost
    obtain ⟨hfractions, hbehind⟩ := hlost
    -- the run is updated a second after the duration, or at once
    obtain ⟨now, hnow⟩ : ∃ now, times.spent now = max (duration + second) (times.spent times.last) :=
      ⟨times.started - times.total + max (duration + second) (times.spent times.last), by rw [hspent]; omega⟩
    have hlow : selected.durationSeconds ≤ 45 * 60 := by
      have hduration := hselected.duration
      simp only [List.mem_cons, List.not_mem_nil, or_false] at hduration
      omega
    have htotal := haccounted.total
    have hbound : duration ≤ 45 * 60 * second := mul_le_mul_of_nonneg_right hlow (by decide)
    have hnow' := hspent now
    have hlast' := hspent times.last
    have hcounted : times.Counted now := ⟨hlongest, by rw [second] at hbound hlongest hnow ⊢; omega⟩
    have hcompleted := hcompletes now (by omega) hcounted (by omega)
    have hreached := (haccounted.due htimes hlongest now).mp
      (haccounted.not_early htimes (by omega) hcompleted).1
    change max (duration + times.fractions) times.total ≤ times.spent now at hreached
    omega
  · intro hkept now hnow hcounted hspentNow
    have hmade := hkept hcounted.1
    have hnow' := hspent now
    have hlast' := hspent times.last
    rw [RunTimes.MadeUp] at hmade
    refine haccounted.completes htimes ((haccounted.due htimes hcounted.1 now).mpr ?_) hcounted.2
    change max (duration + times.fractions) times.total ≤ times.spent now
    omega

def interruptedCalls : List TimerCall :=
  [.toggle 0, .toggle 900000000, .toggle 900000000, .toggle 1800000000, .toggle 1800000000,
    .toggle 2700000000, .toggle 2700000000]

def shortTimer : FocusTimerModel := FocusTimerModel.machine.run [.selectMinutes 15]

theorem interrupted_timer_not_completed :
    (runTimes 0 interruptedCalls).running = true ∧
      (runTimes 0 interruptedCalls).spent (901 * second) = shortTimer.durationSeconds * second + second ∧
      ((interruptedCalls.foldl FocusTimerModel.call shortTimer).update (901 * second)).state = .running := by
  decide

theorem uninterrupted_timer_completed :
    ((shortTimer.toggle 0).update (901 * second)).state = .completed := by
  refine (timer_completes_iff [.selectMinutes 15] 0 [.toggle 0] rfl (by decide) ?_ rfl).2.mpr
    (fun _ => .inl (by decide)) (901 * second) (by decide) ⟨by decide, by decide⟩ (by decide)
  intro before hbefore
  rcases List.prefix_cons_iff.mp hbefore with rfl | ⟨rest, rfl, hrest⟩
  · exact nofun
  · rw [List.prefix_nil.mp hrest]
    exact nofun

end LvglPlatform

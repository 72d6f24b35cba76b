import LvglPlatform.Foundation.Process

/-! Calls over an ordered channel: a call sends a request and takes the next reply, or gives up and
leaves its reply behind. -/

namespace Foundation

structure Protocol (Counter Args Request Content Reply Result : Type*) where
  prepare : Counter → Args → Counter × Option Request
  reply : Request → Content → Option Reply
  accept : Request → Reply → Option Result
  accept_reply : ∀ {request content answer}, reply request content = some answer →
    (accept request answer).isSome

/-- A call and the reply its receive has taken; `none` is a call that gave up. -/
structure CallOutcome where
  call : ℕ
  reply : Option ℕ
  deriving DecidableEq

/-- The requests sent and the replies delivered so far: the reply at an index answers the request
at this index, and the first `received` replies have been taken. -/
structure Channel (Counter Request Reply : Type*) where
  counter : Counter
  sent : List Request := []
  replies : List Reply := []
  received : ℕ := 0
  waiting : Bool := false
  log : List CallOutcome := []
  deriving DecidableEq

inductive ChannelEvent (Args Content : Type*)
  | call (args : Args) (sent : Bool)
  | answer (content : Content)
  | receive
  | giveUp

namespace Protocol

variable {Counter Args Request Content Reply Result : Type*}
  (P : Protocol Counter Args Request Content Reply Result)

def callStep (s : Channel Counter Request Reply) (args : Args) (sent : Bool) :
    Channel Counter Request Reply :=
  let prepared := P.prepare s.counter args
  match prepared.2 with
  | some request =>
    if sent then { s with counter := prepared.1, sent := s.sent ++ [request], waiting := true }
    else { s with counter := prepared.1 }
  | none => { s with counter := prepared.1 }

def answerStep (s : Channel Counter Request Reply) (content : Content) :
    Option (Channel Counter Request Reply) :=
  (s.sent[s.replies.length]?).bind fun request =>
    (P.reply request content).map fun answer => { s with replies := s.replies ++ [answer] }

/-- One call waits at a time, and it gives up only while nothing is there to take. -/
def step (s : Channel Counter Request Reply) :
    ChannelEvent Args Content → Option (Channel Counter Request Reply)
  | .call args sent => if s.waiting then none else some (P.callStep s args sent)
  | .answer content => P.answerStep s content
  | .receive =>
    if s.waiting ∧ s.received < s.replies.length then some { s with
      received := s.received + 1, waiting := false
      log := s.log ++ [⟨s.sent.length - 1, some s.received⟩] }
    else none
  | .giveUp =>
    if s.waiting ∧ s.received = s.replies.length then some { s with
      waiting := false, log := s.log ++ [⟨s.sent.length - 1, none⟩] }
    else none

def process : Process (Channel Counter Request Reply) (ChannelEvent Args Content) where
  step := P.step

def returned (s : Channel Counter Request Reply) (outcome : CallOutcome) : Option Result :=
  outcome.reply.bind fun taken => (s.sent[outcome.call]?).bind fun request =>
    (s.replies[taken]?).bind fun answer => P.accept request answer

def owed (s : Channel Counter Request Reply) (outcome : CallOutcome) : Option Result :=
  (s.sent[outcome.call]?).bind fun request =>
    (s.replies[outcome.call]?).bind fun answer => P.accept request answer

/-- A call that takes a reply accepts no other reply than its own, and returns what its own says. -/
structure Faithful (s : Channel Counter Request Reply) (outcome : CallOutcome) : Prop where
  foreign : ∀ taken, outcome.reply = some taken → taken ≠ outcome.call →
    P.returned s outcome = none
  own : outcome.reply.isSome → P.returned s outcome = P.owed s outcome

/-- Every call before the one that waits has taken its reply. -/
def Settled (s : Channel Counter Request Reply) (e : ChannelEvent Args Content) : Prop :=
  e = .receive → s.received + 1 = s.sent.length

structure InOrder (s : Channel Counter Request Reply) : Prop where
  replies : ∀ (i : ℕ) answer, s.replies[i]? = some answer →
    ∃ request content, s.sent[i]? = some request ∧ P.reply request content = some answer
  received : s.received ≤ s.replies.length
  waiting : s.waiting = true → s.received < s.sent.length
  log : ∀ outcome ∈ s.log, outcome.call < s.sent.length

variable {P} {s t : Channel Counter Request Reply} {e : ChannelEvent Args Content}

lemma inOrder_start (counter : Counter) : P.InOrder { counter } :=
  ⟨by simp, le_rfl, by simp, by simp⟩

lemma InOrder.replies_le (h : P.InOrder s) : s.replies.length ≤ s.sent.length := by
  by_contra hlong
  push Not at hlong
  obtain ⟨request, -, hrequest, -⟩ := h.replies s.sent.length s.replies[s.sent.length] (by simp)
  simp at hrequest

lemma InOrder.step (h : P.InOrder s) (hstep : P.step s e = some t) : P.InOrder t := by
  cases e with
  | call args sent =>
    rw [Protocol.step] at hstep
    split at hstep
    · cases hstep
    obtain rfl := Option.some.inj hstep
    rw [callStep]
    split
    · rename_i request hprepared
      split
      · refine ⟨?_, h.received, fun _ => ?_, fun outcome houtcome => ?_⟩
        · intro i answer hanswer
          obtain ⟨old, content, hold, hreply⟩ := h.replies i answer hanswer
          exact ⟨old, content, by rw [List.getElem?_append_left (by grind), hold], hreply⟩
        · have hle := h.received.trans h.replies_le
          simp only [List.length_append, List.length_singleton]
          omega
        · have hcall := h.log outcome houtcome
          simp only [List.length_append, List.length_singleton]
          omega
      · exact { h with }
    · exact { h with }
  | answer content =>
    obtain ⟨request, hrequest, hanswer⟩ := Option.bind_eq_some_iff.mp hstep
    obtain ⟨answer, hreply, rfl⟩ := Option.map_eq_some_iff.mp hanswer
    refine { h with replies := fun i found hfound => ?_, received := ?_ }
    · dsimp only at hfound ⊢
      rcases Nat.lt_or_ge i s.replies.length with hlt | hge
      · rw [List.getElem?_append_left hlt] at hfound
        exact h.replies i found hfound
      · obtain ⟨hi, hfound⟩ := List.getElem?_eq_some_iff.mp hfound
        simp only [List.length_append, List.length_singleton] at hi
        obtain rfl : i = s.replies.length := by omega
        obtain rfl : answer = found := by simpa using hfound
        exact ⟨request, content, hrequest, hreply⟩
    · have hle := h.received
      simp only [List.length_append, List.length_singleton]
      omega
  | receive =>
    obtain ⟨⟨hwaiting, hlt⟩, ht⟩ := Option.ite_none_right_eq_some.mp hstep
    obtain rfl := Option.some.inj ht
    refine { h with received := hlt, waiting := by simp, log := fun outcome houtcome => ?_ }
    have hsent := h.waiting hwaiting
    rcases List.mem_append.mp houtcome with hold | hnew
    · exact h.log outcome hold
    · obtain rfl := List.mem_singleton.mp hnew
      dsimp only
      omega
  | giveUp =>
    obtain ⟨⟨hwaiting, hlt⟩, ht⟩ := Option.ite_none_right_eq_some.mp hstep
    obtain rfl := Option.some.inj ht
    refine { h with waiting := by simp, log := fun outcome houtcome => ?_ }
    have hsent := h.waiting hwaiting
    rcases List.mem_append.mp houtcome with hold | hnew
    · exact h.log outcome hold
    · obtain rfl := List.mem_singleton.mp hnew
      dsimp only
      omega

/-- Every reply taken so far was taken by the call it answers. -/
def Matched (s : Channel Counter Request Reply) : Prop :=
  ∀ outcome ∈ s.log, ∀ taken, outcome.reply = some taken → taken = outcome.call

lemma matched_step (h : P.InOrder s) (hstep : P.step s e = some t) :
    Matched t ↔ Matched s ∧ Settled s e := by
  cases e with
  | call args sent =>
    rw [Protocol.step] at hstep
    split at hstep
    · cases hstep
    obtain rfl := Option.some.inj hstep
    have hlog : (P.callStep s args sent).log = s.log := by
      rw [callStep]
      split
      · split <;> rfl
      · rfl
    simp [Matched, Settled, hlog]
  | answer content =>
    obtain ⟨request, -, hanswer⟩ := Option.bind_eq_some_iff.mp hstep
    obtain ⟨answer, -, rfl⟩ := Option.map_eq_some_iff.mp hanswer
    simp [Matched, Settled]
  | receive =>
    obtain ⟨⟨hwaiting, hlt⟩, ht⟩ := Option.ite_none_right_eq_some.mp hstep
    obtain rfl := Option.some.inj ht
    have hsent := h.waiting hwaiting
    have hlast : s.received = s.sent.length - 1 ↔ s.received + 1 = s.sent.length := by omega
    simp only [Matched, Settled, List.mem_append, List.mem_singleton, or_imp, forall_and, forall_eq,
      Option.some.injEq, forall_const, forall_eq', hlast]
  | giveUp =>
    obtain ⟨-, ht⟩ := Option.ite_none_right_eq_some.mp hstep
    obtain rfl := Option.some.inj ht
    simp [Matched, Settled, or_imp, forall_and]

lemma InOrder.run {events : List (ChannelEvent Args Content)} (h : P.InOrder s)
    (hrun : P.process.run s events = some t) : P.InOrder t :=
  Process.run_keeps (fun _ _ _ hs hstep => hs.step hstep) h hrun

lemma matched_run {events : List (ChannelEvent Args Content)} (h : P.InOrder s)
    (hrun : P.process.run s events = some t) :
    Matched t ↔ Matched s ∧ P.process.Along Settled s events := by
  induction events generalizing s with
  | nil =>
    obtain rfl := Option.some.inj hrun
    simp [Process.Along]
  | cons e events ih =>
    obtain ⟨u, hstep, hrest⟩ := (Process.run_cons _).mp hrun
    rw [ih (h.step hstep) hrest, matched_step h hstep, Process.along_cons hstep, and_assoc]

lemma owed_isSome (h : P.InOrder s) (hanswered : s.replies.length = s.sent.length)
    {outcome : CallOutcome} (hmem : outcome ∈ s.log) : (P.owed s outcome).isSome := by
  have hcall := h.log outcome hmem
  have hlt : outcome.call < s.replies.length := by omega
  obtain ⟨request, content, hrequest, hreply⟩ :=
    h.replies outcome.call s.replies[outcome.call] (by simp [hlt])
  simp only [owed, hrequest, List.getElem?_eq_getElem hlt, Option.bind_some]
  exact P.accept_reply hreply

lemma faithful_iff_matched (h : P.InOrder s) (hanswered : s.replies.length = s.sent.length) :
    (∀ outcome ∈ s.log, P.Faithful s outcome) ↔ Matched s := by
  constructor
  · intro hfaithful outcome hmem taken htaken
    by_contra hne
    have hnone := (hfaithful outcome hmem).foreign taken htaken hne
    have hown := (hfaithful outcome hmem).own (by simp [htaken])
    have hsome := owed_isSome h hanswered hmem
    rw [← hown, hnone] at hsome
    cases hsome
  · intro hmatched outcome hmem
    refine ⟨fun taken htaken hne => absurd (hmatched outcome hmem taken htaken) hne, fun htook => ?_⟩
    obtain ⟨taken, htaken⟩ := Option.isSome_iff_exists.mp htook
    obtain rfl := hmatched outcome hmem taken htaken
    simp [returned, owed, htaken]

/-- A client that never gives up on a reply it still depends on is faithful, and only then. -/
theorem faithful_iff_settled {counter : Counter} {events : List (ChannelEvent Args Content)}
    (hrun : P.process.run { counter } events = some t)
    (hanswered : t.replies.length = t.sent.length) :
    (∀ outcome ∈ t.log, P.Faithful t outcome) ↔ P.process.Along Settled { counter } events := by
  have hstart : Matched ({ counter } : Channel Counter Request Reply) := by simp [Matched]
  rw [faithful_iff_matched ((inOrder_start counter).run hrun) hanswered,
    matched_run (inOrder_start counter) hrun, and_iff_right hstart]

end Protocol

end Foundation

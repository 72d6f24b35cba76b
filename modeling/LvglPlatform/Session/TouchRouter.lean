import LvglPlatform.Ipc.TouchProtocol

namespace LvglPlatform

open Foundation

structure TouchRouter where
  width : ℤ
  height : ℤ
  sequence : TouchSequenceGuard := {}
  contacts : TouchContactGuard := {}
  deriving DecidableEq

def TouchRouter.new (sessionNonce : UInt64) (width height : ℤ) : TouchRouter :=
  { width, height, sequence := .reset sessionNonce }

def maximumTouchAgeUs : UInt64 := 2000000

def maximumTouchFutureUs : UInt64 := 100000

/-- A datagram and the monotonic time at which it is looked at. -/
structure TouchDatagram where
  bytes : Bytes
  nowMonotonicUs : UInt64

def TouchRouter.route (router : TouchRouter) (datagram : TouchDatagram) :
    Except TouchError TouchFrame × TouchRouter :=
  match decodeTouchFrame datagram.bytes router.width router.height with
  | .error error => (.error error, router)
  | .ok frame =>
    if !touchTimestampFresh frame datagram.nowMonotonicUs maximumTouchAgeUs maximumTouchFutureUs then
      (.error .timestampStale, router)
    else match router.sequence.accept frame with
      | .error error => (.error error, router)
      | .ok sequence =>
        match router.contacts.accept frame with
        | .error error => (.error error, { router with sequence })
        | .ok contacts => (.ok frame, { router with sequence, contacts })

structure RoutedFrame where
  datagram : TouchDatagram
  frame : TouchFrame

def acceptedFrame (datagram : TouchDatagram) : Except TouchError TouchFrame → List RoutedFrame
  | .ok frame => [{ datagram, frame }]
  | .error _ => []

def TouchRouter.routeAll : TouchRouter → List TouchDatagram → List RoutedFrame × TouchRouter
  | router, [] => ([], router)
  | router, datagram :: datagrams =>
    let routed := router.route datagram
    let rest := routed.2.routeAll datagrams
    (acceptedFrame datagram routed.1 ++ rest.1, rest.2)

def contactPhases (contact : UInt32) (frames : List TouchFrame) : List TouchPhase :=
  logOf contact (frames.map fun frame => (frame.contactId, frame.phase))

@[simp] lemma contactPhases_cons_self (frame : TouchFrame) (frames : List TouchFrame) :
    contactPhases frame.contactId (frame :: frames) =
      frame.phase :: contactPhases frame.contactId frames := by
  simp [contactPhases, logOf]

lemma contactPhases_cons_of_ne {contact : UInt32} {frame : TouchFrame} (frames : List TouchFrame)
    (h : frame.contactId ≠ contact) :
    contactPhases contact (frame :: frames) = contactPhases contact frames := by
  simp [contactPhases, logOf, h]

lemma contactPhases_append (contact : UInt32) (frames rest : List TouchFrame) :
    contactPhases contact (frames ++ rest) =
      contactPhases contact frames ++ contactPhases contact rest := by
  rw [contactPhases, List.map_append, logOf_append]
  rfl

structure Routes (router : TouchRouter) (datagram : TouchDatagram) (frame : TouchFrame)
    (next : TouchRouter) : Prop where
  decoded : decodeTouchFrame datagram.bytes router.width router.height = .ok frame
  fresh : touchTimestampFresh frame datagram.nowMonotonicUs maximumTouchAgeUs
    maximumTouchFutureUs = true
  nonce : frame.sessionNonce = router.sequence.sessionNonce
  sequence : router.sequence.lastSequence < frame.sequence
  contacts : router.contacts.accept frame = .ok next.contacts
  next_eq : next = { router with
    sequence := { router.sequence with lastSequence := frame.sequence }, contacts := next.contacts }

section

variable {frame : TouchFrame}

lemma sequence_accept {guard next : TouchSequenceGuard} (h : guard.accept frame = .ok next) :
    frame.sessionNonce = guard.sessionNonce ∧ guard.lastSequence < frame.sequence ∧
      next = { guard with lastSequence := frame.sequence } := by
  rw [TouchSequenceGuard.accept] at h
  split at h
  · cases h
  rename_i hnonce
  split at h
  · cases h
  rename_i hreplayed
  cases h
  refine ⟨?_, by grind, rfl⟩
  by_contra hne
  exact hnonce (Or.inr hne)

lemma contacts_error {guard : TouchContactGuard} {error : TouchError}
    (h : guard.accept frame = .error error) : error = .contactInvalid := by
  rw [TouchContactGuard.accept] at h
  split at h
  · cases h
    rfl
  split at h <;> split at h <;> cases h <;> rfl

/-- A frame out of place uses up its sequence number; any other rejection changes nothing. -/
lemma route_cases (router : TouchRouter) (datagram : TouchDatagram) :
    (∃ frame, (router.route datagram).1 = .ok frame ∧
        Routes router datagram frame (router.route datagram).2) ∨
      (∃ error, (router.route datagram).1 = .error error ∧ (router.route datagram).2 = router) ∨
      ∃ last, (router.route datagram).1 = .error .contactInvalid ∧
        router.sequence.lastSequence < last ∧ (router.route datagram).2 =
          { router with sequence := { router.sequence with lastSequence := last } } := by
  generalize hroute : router.route datagram = routed
  rw [TouchRouter.route] at hroute
  split at hroute
  · subst hroute
    exact Or.inr (Or.inl ⟨_, rfl, rfl⟩)
  rename_i frame hdecoded
  split at hroute
  · subst hroute
    exact Or.inr (Or.inl ⟨_, rfl, rfl⟩)
  rename_i hfresh
  split at hroute
  · subst hroute
    exact Or.inr (Or.inl ⟨_, rfl, rfl⟩)
  rename_i sequence hsequence
  obtain ⟨hnonce, hlast, rfl⟩ := sequence_accept hsequence
  split at hroute
  · rename_i error hcontacts
    subst hroute
    exact Or.inr (Or.inr ⟨_, by rw [contacts_error hcontacts], hlast, rfl⟩)
  · rename_i contacts hcontacts
    subst hroute
    exact Or.inl ⟨frame, rfl, hdecoded, by simpa using hfresh, hnonce, hlast, hcontacts, rfl⟩

/-- An accepted frame continues the stroke of its contact, and no datagram touches another one. -/
lemma route_strokes (router : TouchRouter) (datagram : TouchDatagram) {contact : UInt32}
    (hcontact : contact ≤ maxTouchContactId) :
    strokeRun phaseMark (router.contacts.active contact) (contactPhases contact
        ((acceptedFrame datagram (router.route datagram).1).map RoutedFrame.frame)) =
      some ((router.route datagram).2.contacts.active contact) := by
  rcases route_cases router datagram with ⟨frame, hresult, hroutes⟩ | ⟨error, hresult, hnext⟩ |
    ⟨last, hresult, -, hnext⟩
  · rw [hresult]
    change strokeRun phaseMark _ (contactPhases contact [frame]) = _
    by_cases hsame : contact = frame.contactId
    · subst hsame
      rw [contactPhases_cons_self, strokeRun, accept_step hroutes.contacts]
      rfl
    · rw [contactPhases_cons_of_ne _ fun he => hsame he.symm,
        ← accept_other hroutes.contacts hcontact hsame]
      rfl
  · rw [hresult, hnext]
    rfl
  · rw [hresult, hnext]
    rfl

lemma routeAll_strokes (router : TouchRouter) (datagrams : List TouchDatagram) {contact : UInt32}
    (hcontact : contact ≤ maxTouchContactId) :
    strokeRun phaseMark (router.contacts.active contact)
        (contactPhases contact ((router.routeAll datagrams).1.map RoutedFrame.frame)) =
      some ((router.routeAll datagrams).2.contacts.active contact) := by
  induction datagrams generalizing router with
  | nil => rfl
  | cons datagram datagrams ih =>
    dsimp only [TouchRouter.routeAll]
    rw [List.map_append, contactPhases_append, strokeRun_append, route_strokes router datagram hcontact]
    exact ih (router.route datagram).2

lemma route_constants (router : TouchRouter) (datagram : TouchDatagram) :
    (router.route datagram).2.sequence.sessionNonce =
      router.sequence.sessionNonce ∧ (router.route datagram).2.width = router.width ∧
    (router.route datagram).2.height = router.height := by
  rcases route_cases router datagram with
    ⟨frame, -, hroutes⟩ | ⟨error, -, hnext⟩ | ⟨last, -, -, hnext⟩
  · rw [hroutes.next_eq]
    exact ⟨rfl, rfl, rfl⟩
  · rw [hnext]
    exact ⟨rfl, rfl, rfl⟩
  · rw [hnext]
    exact ⟨rfl, rfl, rfl⟩

lemma route_sequence_le (router : TouchRouter) (datagram : TouchDatagram) :
    router.sequence.lastSequence ≤ (router.route datagram).2.sequence.lastSequence := by
  rcases route_cases router datagram with
    ⟨frame, -, hroutes⟩ | ⟨error, -, hnext⟩ | ⟨last, -, hlast, hnext⟩
  · have := hroutes.sequence
    rw [hroutes.next_eq]
    grind
  · rw [hnext]
    grind
  · rw [hnext]
    grind

structure RoutedBy (router : TouchRouter) (routed : RoutedFrame) : Prop where
  decoded : decodeTouchFrame routed.datagram.bytes router.width router.height = .ok routed.frame
  fresh : touchTimestampFresh routed.frame routed.datagram.nowMonotonicUs maximumTouchAgeUs
    maximumTouchFutureUs = true
  nonce : routed.frame.sessionNonce = router.sequence.sessionNonce
  sequence : router.sequence.lastSequence < routed.frame.sequence
  contact : routed.frame.contactId ≤ maxTouchContactId

lemma routeAll_routed (router : TouchRouter) (datagrams : List TouchDatagram) :
    (∀ routed ∈ (router.routeAll datagrams).1, RoutedBy router routed) ∧
      (router.routeAll datagrams).1.Pairwise fun a b => a.frame.sequence < b.frame.sequence := by
  induction datagrams generalizing router with
  | nil => exact ⟨by simp [TouchRouter.routeAll], .nil⟩
  | cons datagram datagrams ih =>
    obtain ⟨hrest, hpairwise⟩ := ih (router.route datagram).2
    obtain ⟨hnonce, hwidth, hheight⟩ := route_constants router datagram
    have hle := route_sequence_le router datagram
    -- what the later router has checked holds of the earlier one as well
    have hlater : ∀ routed ∈ ((router.route datagram).2.routeAll datagrams).1,
        RoutedBy router routed := by
      intro routed hrouted
      obtain ⟨hd, hf, hn, hs, hc⟩ := hrest routed hrouted
      rw [hwidth, hheight] at hd
      exact ⟨hd, hf, hn.trans hnonce, by grind, hc⟩
    dsimp only [TouchRouter.routeAll]
    rcases route_cases router datagram with
      ⟨frame, hresult, hroutes⟩ | ⟨error, hresult, -⟩ | ⟨last, hresult, -, -⟩
    · rw [hresult]
      refine ⟨List.forall_mem_cons.mpr ⟨?_, hlater⟩, List.pairwise_cons.mpr ⟨?_, hpairwise⟩⟩
      · exact ⟨hroutes.decoded, hroutes.fresh, hroutes.nonce, hroutes.sequence,
          accept_contact hroutes.contacts⟩
      · intro routed hrouted
        have hs := (hrest routed hrouted).sequence
        rw [hroutes.next_eq] at hs
        exact hs
    · rw [hresult]
      exact ⟨hlater, hpairwise⟩
    · rw [hresult]
      exact ⟨hlater, hpairwise⟩

lemma decoded_bounds {bytes : Bytes} {width height : ℤ}
    (h : decodeTouchFrame bytes width height = .ok frame) :
    0 ≤ frame.x ∧ frame.x < width ∧ 0 ≤ frame.y ∧ frame.y < height := by
  rw [decodeTouchFrame] at h
  split at h
  · cases h
  split at h
  · cases h
  dsimp only at h
  split at h
  · rename_i hvalid
    cases h
    simp only [validTouchFrame, Bool.and_eq_true, decide_eq_true_eq] at hvalid
    grind
  · cases h

end

/-- The frames one router accepts belong to the session, lie on the screen, were fresh, come in
the order of their sequence numbers, and form strokes for each contact. -/
theorem touch_router_accepts_strokes (nonce : UInt64) (width height : ℤ)
    (datagrams : List TouchDatagram) :
    let accepted := ((TouchRouter.new nonce width height).routeAll datagrams).1
    (∀ routed ∈ accepted, routed.frame.sessionNonce = nonce ∧
      0 ≤ routed.frame.x ∧ routed.frame.x < width ∧ 0 ≤ routed.frame.y ∧ routed.frame.y < height ∧
      routed.frame.contactId ≤ maxTouchContactId ∧
      decodeTouchFrame routed.datagram.bytes width height = .ok routed.frame ∧
      touchTimestampFresh routed.frame routed.datagram.nowMonotonicUs maximumTouchAgeUs
        maximumTouchFutureUs = true) ∧
    (accepted.Pairwise fun a b => a.frame.sequence < b.frame.sequence ∧
      a.datagram.bytes ≠ b.datagram.bytes) ∧
    (∀ contact ≤ maxTouchContactId,
      StrokePrefix phaseMark (contactPhases contact (accepted.map RoutedFrame.frame))) ∧
    ∀ (router : TouchRouter) (datagram : TouchDatagram) (error : TouchError),
      (router.route datagram).1 = .error error → error ≠ .contactInvalid →
        (router.route datagram).2 = router := by
  obtain ⟨hrouted, hpairwise⟩ := routeAll_routed (TouchRouter.new nonce width height) datagrams
  refine ⟨?_, ?_, ?_, ?_⟩
  · intro routed hmem
    obtain ⟨hdecoded, hfresh, hnonce, -, hcontact⟩ := hrouted routed hmem
    obtain ⟨hx, hwidth, hy, hheight⟩ := decoded_bounds hdecoded
    exact ⟨hnonce, hx, hwidth, hy, hheight, hcontact, hdecoded, hfresh⟩
  · refine hpairwise.imp_of_mem ?_
    intro a b ha hb hlt
    refine ⟨hlt, fun hbytes => ?_⟩
    have hframe := (hrouted a ha).decoded
    rw [hbytes, (hrouted b hb).decoded] at hframe
    have hsame := Except.ok.inj hframe
    rw [hsame] at hlt
    exact absurd hlt (by grind)
  · intro contact hcontact
    have hrun := routeAll_strokes (TouchRouter.new nonce width height) datagrams hcontact
    have hidle : (TouchRouter.new nonce width height).contacts.active contact = false := by
      simp [TouchRouter.new, TouchContactGuard.active]
    rw [hidle] at hrun
    exact (strokePrefix_iff phaseMark_closing).mpr ⟨_, hrun⟩
  · intro router datagram error herror hne
    rcases route_cases router datagram with
      ⟨frame, hresult, -⟩ | ⟨error, -, hnext⟩ | ⟨last, hresult, -, -⟩
    · rw [hresult] at herror
      cases herror
    · exact hnext
    · rw [hresult] at herror
      cases herror
      exact absurd rfl hne

end LvglPlatform

import LvglPlatform.Launcher.LaunchCalls

namespace LvglPlatform

open Foundation

def slotPhases (slot : ℕ) (sent : List TouchPayload) : List TouchPhase :=
  (sent.filter fun frame => frame.contactId = slot).map TouchPayload.phase

/-- The frames of every slot are in order, and the slots with an open stroke are those that are held. -/
def Strokes (held : ℕ → Prop) (sent : List TouchPayload) : Prop :=
  ∀ slot, ∃ active, strokeRun phaseMark false (slotPhases slot sent) = some active ∧
    (active = true ↔ held slot)

lemma objectKeys_perm {α : Type} (properties : List (Units × α)) :
    (objectKeys properties).Perm properties := by
  rw [objectKeys, sortBy]
  exact ((List.mergeSort_perm _ _).append_right _).trans (List.filter_append_perm _ _)

section

variable {slot contactId : ℕ} {sent frames : List TouchPayload} {held : ℕ → Prop}

lemma slotPhases_append : slotPhases slot (sent ++ frames) = slotPhases slot sent ++ slotPhases slot frames := by
  simp [slotPhases]

lemma slotPhases_cons {frame : TouchPayload} :
    slotPhases slot (frame :: frames) = slotPhases slot [frame] ++ slotPhases slot frames :=
  @slotPhases_append slot [frame] frames

lemma slotPhases_self {phase : TouchPhase} {x y : ℚ} :
    slotPhases contactId [⟨phase, contactId, x, y⟩] = [phase] := by
  simp [slotPhases]

lemma slotPhases_other {phase : TouchPhase} {x y : ℚ} (h : slot ≠ contactId) :
    slotPhases slot [⟨phase, contactId, x, y⟩] = [] := by
  simp [slotPhases, h.symm]

lemma slotPhases_cancels {entries : List (Units × ℕ)} {cancelled : ℕ → Bool}
    (hnodup : (entries.map Prod.snd).Nodup) :
    slotPhases slot ((entries.filter fun contact => cancelled contact.2).map
      fun contact => ⟨.cancel, contact.2, 0, 0⟩) =
      if slot ∈ entries.map Prod.snd ∧ cancelled slot = true then [.cancel] else [] := by
  induction entries with
  | nil => simp [slotPhases]
  | cons entry entries ih =>
    obtain ⟨hnotin, hnodup⟩ := List.nodup_cons.mp hnodup
    have hrest := ih hnodup
    by_cases hslot : entry.2 = slot
    · subst hslot
      rw [if_neg (fun h => hnotin h.1)] at hrest
      cases hcancelled : cancelled entry.2 with
      | false => simpa [hcancelled] using hrest
      | true =>
        simp only [List.filter_cons, hcancelled, if_true, List.map_cons]
        rw [slotPhases_cons, slotPhases_self, hrest]
        simp
    · have hmem : slot ∈ (entry :: entries).map Prod.snd ↔ slot ∈ entries.map Prod.snd := by
        simp [Ne.symm hslot]
      simp only [hmem]
      rw [← hrest]
      cases hcancelled : cancelled entry.2 with
      | false => rw [List.filter_cons_of_neg (by simp [hcancelled])]
      | true =>
        simp only [List.filter_cons, hcancelled, if_true, List.map_cons]
        rw [slotPhases_cons, slotPhases_other (Ne.symm hslot), List.nil_append]

lemma Strokes.frame {held' : ℕ → Prop} {active next : Bool} {phase : TouchPhase} {x y : ℚ}
    (h : Strokes held sent) (hactive : active = true ↔ held contactId)
    (hstep : strokeStep phaseMark active phase = some next)
    (hother : ∀ slot, slot ≠ contactId → (held slot ↔ held' slot))
    (hnext : next = true ↔ held' contactId) :
    Strokes held' (sent ++ [⟨phase, contactId, x, y⟩]) := by
  intro slot
  obtain ⟨stroke, hrun, hopen⟩ := h slot
  rw [slotPhases_append, strokeRun_append, hrun, Option.bind_some]
  by_cases hslot : slot = contactId
  · subst hslot
    obtain rfl : stroke = active := Bool.eq_iff_iff.mpr (hopen.trans hactive.symm)
    refine ⟨next, ?_, hnext⟩
    rw [slotPhases_self, strokeRun, hstep]
    rfl
  · refine ⟨stroke, ?_, hopen.trans (hother slot hslot)⟩
    rw [slotPhases_other hslot]
    rfl

end

def Touch.located (touch : Touch) : Bool :=
  (touch.pageX.getD touch.screenX).isSome && (touch.pageY.getD touch.screenY).isSome

/-- No cancellation of a contact is refused. -/
def CancelsSent (table : SlotTable Units maxContacts) (cancelled : ℕ → Bool) : Prop :=
  ∀ slot, table.Held slot → cancelled slot = true

section

variable (inherited : Units → Bool) (answers : SendAnswers)

/-- Every touch that starts is new and its frame is sent, until one is refused: it finds no slot, is not sent
though it has a contact, or has a key that is not its own. -/
def StartCleanly : SlotTable Units maxContacts → List Touch → ℕ → Prop
  | _, [], _ => True
  | table, touch :: touches, index =>
    let sends := touch.located && answers.frame index
    if inherited (touchKey touch index) then CancelsSent table answers.cancel
    else match table.slot? (touchKey touch index), table.allocate (touchKey touch index) with
      | some _, _ => sends = false ∧ CancelsSent table answers.cancel
      | none, none => CancelsSent table answers.cancel
      | none, some (_, next) => sends = true ∧ StartCleanly next touches (index + 1)

/-- When a frame of a touch that has a contact is not sent, the contacts that are left are cancelled. -/
def ContinueCleanly (release : Bool) : SlotTable Units maxContacts → List Touch → ℕ → Prop
  | _, [], _ => True
  | table, touch :: touches, index =>
    let key := touchKey touch index
    if inherited key then CancelsSent table answers.cancel
    else match table.slot? key with
      | none => ContinueCleanly release table touches (index + 1)
      | some _ =>
        if touch.located && answers.frame index then
          ContinueCleanly release (if release then table.release key else table) touches (index + 1)
        else CancelsSent table answers.cancel

end

namespace LauncherPage

structure Sound (page : LauncherPage) : Prop where
  strokes : Strokes page.contactSlots.Held page.sent
  refused : ∀ key down, .refused key down ∈ page.placements → maxContacts ≤ (down.erase key).card
  placed : ∀ key contactId down, .placed key contactId down ∈ page.placements → down ⊆ {key} →
    contactId = 0

def HeldDown (page : LauncherPage) : Prop :=
  ∀ contact ∈ page.contactSlots.entries, contact.1 ∈ page.down

structure ContactsFollow (page : LauncherPage) : Prop where
  sound : page.Sound
  held : page.HeldDown

/-- Touches start cleanly, none that has a contact ends while the page does not take input, and wherever
contacts are dropped their cancellations are sent. -/
def TouchesCleanly (inherited : Units → Bool) (page : LauncherPage) : PageEvent → Prop
  | .hide cancelled => CancelsSent page.contactSlots cancelled
  | .unload cancelled => CancelsSent page.contactSlots cancelled
  | .touchCancel _ cancelled => CancelsSent page.contactSlots cancelled
  | .probed generation answer cancelled => page.stale generation = false →
    (∀ probe ∈ answer, probe.available = false) → CancelsSent page.contactSlots cancelled
  | .started generation answer cancelled => page.stale generation = false →
    (∀ started ∈ answer, startRefused started = true) → CancelsSent page.contactSlots cancelled
  | .polled generation answer cancelled => page.stale generation = false → answer = none →
    CancelsSent page.contactSlots cancelled
  | .touchStart event answers => page.inputReady = true →
    StartCleanly inherited answers page.contactSlots (touchList (event.changedTouches.or event.touches)) 0
  | .touchMove event answers => page.inputReady = true →
    ContinueCleanly inherited answers false page.contactSlots (touchList event.touches) 0
  | .touchEnd event answers =>
    if page.inputReady then
      ContinueCleanly inherited answers true page.contactSlots (touchList event.changedTouches) 0
    else ∀ key ∈ touchKeys (touchList event.changedTouches), page.contactSlots.slot? key = none
  | _ => True

/-- What a function leaves that sends frames: a page that threw can cancel all of its contacts. -/
def Leaves (cancelled : ℕ → Bool) : Except LauncherPage LauncherPage → Prop
  | .ok page => page.Sound
  | .error page => page.Sound ∧ CancelsSent page.contactSlots cancelled

variable {inherited : Units → Bool} {page before after next : LauncherPage} {cancelled : ℕ → Bool}
  {phase : TouchPhase} {release answer : Bool} {touch : Touch} {key : Units} {contactId index : ℕ}

lemma heldDown_empty (h : page.contactSlots = ∅) : page.HeldDown := by
  rw [HeldDown, h]
  nofun

lemma Sound.cancelTouches (h : page.Sound) (hcancels : CancelsSent page.contactSlots cancelled) :
    (page.cancelTouches cancelled).Sound := by
  refine ⟨fun slot => ?_, h.refused, h.placed⟩
  obtain ⟨active, hrun, hopen⟩ := h.strokes slot
  have hperm := (objectKeys_perm page.contactSlots.entries).map Prod.snd
  have hphases := @slotPhases_cancels slot _ cancelled (hperm.nodup_iff.mpr page.contactSlots.slots_nodup)
  have hnone : ¬ SlotTable.Held (page.cancelTouches cancelled).contactSlots slot := nofun
  rw [LauncherPage.cancelTouches, slotPhases_append, strokeRun_append, hrun, hphases, Option.bind_some]
  refine ⟨false, ?_, iff_of_false Bool.false_ne_true hnone⟩
  split
  · rename_i hheld
    rw [hopen.mpr (hperm.mem_iff.mp hheld.1)]
    rfl
  · rename_i hfree
    have hclosed : active ≠ true := by
      intro hactive
      have hheld := hopen.mp hactive
      exact hfree ⟨hperm.mem_iff.mpr hheld, hcancels slot hheld⟩
    rw [Bool.eq_false_iff.mpr hclosed]
    rfl

lemma pointFor_isSome (page : LauncherPage) (touch : Touch) :
    (page.pointFor touch).isSome = touch.located := by
  rw [pointFor, Touch.located]
  cases touch.pageX.getD touch.screenX with
  | none => rfl
  | some rawX =>
    cases touch.pageY.getD touch.screenY with
    | none => rfl
    | some rawY => rfl

lemma sendContact_cases (page : LauncherPage) (phase : TouchPhase) (release answer : Bool) (touch : Touch)
    (key : Units) (contactId : ℕ) :
    (touch.located && answer) = false ∧
        page.sendContact phase release answer touch key contactId = .error page ∨
      (touch.located && answer) = true ∧ ∃ x y,
        page.sendContact phase release answer touch key contactId = .ok { page with
          sent := page.sent ++ [⟨phase, contactId, x, y⟩]
          contactSlots := if release then page.contactSlots.release key else page.contactSlots } := by
  rw [sendContact, ← pointFor_isSome page]
  cases hpoint : page.pointFor touch with
  | none => exact .inl ⟨rfl, rfl⟩
  | some point =>
    cases answer with
    | false => exact .inl ⟨rfl, rfl⟩
    | true => exact .inr ⟨rfl, point.1, point.2, rfl⟩

inductive Continues (inherited : Units → Bool) (page : LauncherPage) (phase : TouchPhase)
    (release answer : Bool) (touch : Touch) (index : ℕ) : Except LauncherPage LauncherPage → Prop
  | inherited (hkey : inherited (touchKey touch index) = true) : Continues _ _ _ _ _ _ _ (.error page)
  | unknown (hkey : inherited (touchKey touch index) = false)
      (hslot : page.contactSlots.slot? (touchKey touch index) = none) : Continues _ _ _ _ _ _ _ (.ok page)
  | unsent (contactId : ℕ) (hkey : inherited (touchKey touch index) = false)
      (hslot : page.contactSlots.slot? (touchKey touch index) = some contactId)
      (hsends : (touch.located && answer) = false) : Continues _ _ _ _ _ _ _ (.error page)
  | sent (contactId : ℕ) (x y : ℚ) (hkey : inherited (touchKey touch index) = false)
      (hslot : page.contactSlots.slot? (touchKey touch index) = some contactId)
      (hsends : (touch.located && answer) = true) : Continues _ _ _ _ _ _ _ (.ok { page with
        sent := page.sent ++ [⟨phase, contactId, x, y⟩]
        contactSlots := if release then page.contactSlots.release (touchKey touch index)
          else page.contactSlots })

lemma emitTouch_continues (hphase : phase ≠ .start) :
    Continues inherited page phase release answer touch index
      (page.emitTouch inherited phase release answer touch index) := by
  rw [emitTouch]
  cases hkey : inherited (touchKey touch index) with
  | true => exact .inherited hkey
  | false =>
    rw [if_neg Bool.false_ne_true, if_neg hphase]
    cases hslot : page.contactSlots.slot? (touchKey touch index) with
    | none => exact .unknown hkey hslot
    | some contactId =>
      rcases sendContact_cases page phase release answer touch (touchKey touch index) contactId with
        ⟨hsends, hresult⟩ | ⟨hsends, x, y, hresult⟩
      · dsimp only
        rw [hresult]
        exact .unsent contactId hkey hslot hsends
      · dsimp only
        rw [hresult]
        exact .sent contactId x y hkey hslot hsends

inductive Starts (inherited : Units → Bool) (page : LauncherPage) (answer : Bool) (touch : Touch) (index : ℕ) :
    Except LauncherPage LauncherPage → Prop
  | inherited (hkey : inherited (touchKey touch index) = true) : Starts _ _ _ _ _ (.error page)
  | unsent (contactId : ℕ) (hkey : inherited (touchKey touch index) = false)
      (hslot : page.contactSlots.slot? (touchKey touch index) = some contactId)
      (hsends : (touch.located && answer) = false) : Starts _ _ _ _ _ (.error page)
  | again (contactId : ℕ) (x y : ℚ) (hkey : inherited (touchKey touch index) = false)
      (hslot : page.contactSlots.slot? (touchKey touch index) = some contactId)
      (hsends : (touch.located && answer) = true) : Starts _ _ _ _ _ (.ok { page with
        sent := page.sent ++ [⟨.start, contactId, x, y⟩] })
  | full (hkey : inherited (touchKey touch index) = false)
      (hslot : page.contactSlots.slot? (touchKey touch index) = none)
      (hfree : page.contactSlots.free = none) : Starts _ _ _ _ _ (.error (page.refuse (touchKey touch index)))
  | leaked (slot : ℕ) (hkey : inherited (touchKey touch index) = false)
      (hslot : page.contactSlots.slot? (touchKey touch index) = none)
      (hfree : page.contactSlots.free = some slot) (hsends : (touch.located && answer) = false) :
      Starts _ _ _ _ _ (.error (page.place (touchKey touch index) slot
        (page.contactSlots.insert _ slot hslot hfree)))
  | placed (slot : ℕ) (x y : ℚ) (hkey : inherited (touchKey touch index) = false)
      (hslot : page.contactSlots.slot? (touchKey touch index) = none)
      (hfree : page.contactSlots.free = some slot) (hsends : (touch.located && answer) = true) :
      Starts _ _ _ _ _ (.ok { page.place (touchKey touch index) slot
        (page.contactSlots.insert _ slot hslot hfree) with sent := page.sent ++ [⟨.start, slot, x, y⟩] })

lemma emitTouch_starts :
    Starts inherited page answer touch index (page.emitTouch inherited .start false answer touch index) := by
  rw [emitTouch]
  cases hkey : inherited (touchKey touch index) with
  | true => exact .inherited hkey
  | false =>
    rw [if_neg Bool.false_ne_true, if_pos rfl]
    cases hslot : page.contactSlots.slot? (touchKey touch index) with
    | some contactId =>
      rw [SlotTable.allocate_held hslot]
      dsimp only
      rcases sendContact_cases page .start false answer touch (touchKey touch index) contactId with
        ⟨hsends, hresult⟩ | ⟨hsends, x, y, hresult⟩
      · rw [hresult]
        exact .unsent contactId hkey hslot hsends
      · rw [hresult]
        exact .again contactId x y hkey hslot hsends
    | none =>
      cases hfree : page.contactSlots.free with
      | none =>
        rw [SlotTable.allocate_full hslot hfree]
        exact .full hkey hslot hfree
      | some slot =>
        rw [SlotTable.allocate_new hslot hfree]
        dsimp only
        rcases sendContact_cases (page.place (touchKey touch index) slot
            (page.contactSlots.insert _ slot hslot hfree)) .start false answer touch (touchKey touch index) slot
          with ⟨hsends, hresult⟩ | ⟨hsends, x, y, hresult⟩
        · rw [hresult]
          exact .leaked slot hkey hslot hfree hsends
        · rw [hresult]
          exact .placed slot x y hkey hslot hfree hsends

lemma held_slot (h : page.contactSlots.slot? key = some contactId) :
    page.contactSlots.Held contactId := List.mem_map_of_mem (SlotTable.mem_of_slot? h)

lemma Sound.refuse (h : page.Sound) (hdown : page.HeldDown)
    (hkey : page.contactSlots.slot? key = none) (hfull : page.contactSlots.free = none) :
    (page.refuse key).Sound := by
  refine ⟨h.strokes, ?_, ?_⟩
  · intro other down hmem
    rcases List.mem_append.mp hmem with hmem | hmem
    · exact h.refused other down hmem
    · cases List.mem_singleton.mp hmem
      apply SlotTable.le_card_of_full hfull
      intro contact hcontact
      refine Finset.mem_erase.mpr ⟨?_, hdown contact hcontact⟩
      rintro rfl
      exact SlotTable.slot?_eq_none.mp hkey (List.mem_map_of_mem hcontact)
  · intro other slot down hmem
    rcases List.mem_append.mp hmem with hmem | hmem
    · exact h.placed other slot down hmem
    · cases List.mem_singleton.mp hmem

lemma first_slot (hdown : page.HeldDown) (hkey : page.contactSlots.slot? key = none)
    (hfree : page.contactSlots.free = some contactId) (honly : page.down ⊆ {key}) : contactId = 0 := by
  have hempty : page.contactSlots.entries = [] := by
    apply List.eq_nil_iff_forall_not_mem.mpr
    intro contact hcontact
    obtain rfl := Finset.mem_singleton.mp (honly (hdown contact hcontact))
    exact SlotTable.slot?_eq_none.mp hkey (List.mem_map_of_mem hcontact)
  have hzero := SlotTable.free_of_empty (by decide) hempty
  exact Option.some.inj (hfree.symm.trans hzero)

lemma Sound.place {x y : ℚ} (h : page.Sound) (hdown : page.HeldDown)
    (hslot : page.contactSlots.slot? key = none) (hfree : page.contactSlots.free = some contactId) :
    Sound { page.place key contactId (page.contactSlots.insert key contactId hslot hfree) with
      sent := page.sent ++ [⟨.start, contactId, x, y⟩] } := by
  have hheld : ∀ slot, (page.contactSlots.insert key contactId hslot hfree).Held slot ↔
      page.contactSlots.Held slot ∨ slot = contactId := by
    intro slot
    rw [SlotTable.Held, SlotTable.insert, List.map_append, List.mem_append]
    exact or_congr_right List.mem_singleton
  have hclosed : false = true ↔ page.contactSlots.Held contactId :=
    iff_of_false Bool.false_ne_true (SlotTable.free_spec hfree).2
  refine ⟨h.strokes.frame hclosed rfl ?_ ?_, ?_, ?_⟩
  · intro slot hother
    exact ((hheld slot).trans (or_iff_left hother)).symm
  · exact iff_of_true rfl ((hheld contactId).mpr (.inr rfl))
  · intro other down hmem
    rcases List.mem_append.mp hmem with hmem | hmem
    · exact h.refused other down hmem
    · cases List.mem_singleton.mp hmem
  · intro other slot down hmem
    rcases List.mem_append.mp hmem with hmem | hmem
    · exact h.placed other slot down hmem
    · cases List.mem_singleton.mp hmem
      exact first_slot hdown hslot hfree

lemma Sound.continue {x y : ℚ} (h : page.Sound)
    (hphase : phase = .move ∧ release = false ∨ phase = .end ∧ release = true)
    (hslot : page.contactSlots.slot? key = some contactId) :
    Sound { page with
      sent := page.sent ++ [⟨phase, contactId, x, y⟩]
      contactSlots := if release then page.contactSlots.release key else page.contactSlots } := by
  have hopen : true = true ↔ page.contactSlots.Held contactId := iff_of_true rfl (held_slot hslot)
  rcases hphase with ⟨rfl, rfl⟩ | ⟨rfl, rfl⟩
  · exact ⟨h.strokes.frame hopen rfl (fun _ _ => .rfl) hopen, h.refused, h.placed⟩
  · refine ⟨h.strokes.frame hopen rfl ?_ ?_, h.refused, h.placed⟩
    · intro slot hother
      constructor
      · intro hheld
        obtain ⟨contact, hcontact, rfl⟩ := List.mem_map.mp hheld
        refine List.mem_map_of_mem (SlotTable.mem_release.mpr ⟨hcontact, ?_⟩)
        rintro rfl
        have hpair := List.inj_on_of_nodup_map page.contactSlots.keys_nodup hcontact
          (SlotTable.mem_of_slot? hslot) rfl
        exact hother (congrArg Prod.snd hpair)
      · intro hheld
        obtain ⟨contact, hcontact, rfl⟩ := List.mem_map.mp hheld
        exact List.mem_map_of_mem (SlotTable.mem_release.mp hcontact).1
    · refine iff_of_false Bool.false_ne_true fun hheld => ?_
      obtain ⟨contact, hcontact, rfl⟩ := List.mem_map.mp hheld
      obtain ⟨hcontact, hother⟩ := SlotTable.mem_release.mp hcontact
      exact hother (SlotTable.key_unique hcontact (SlotTable.mem_of_slot? hslot))

lemma emitTouches_continue {answers : SendAnswers}
    (hphase : phase = .move ∧ release = false ∨ phase = .end ∧ release = true) (touches : List Touch)
    (h : page.Sound) (hclean : ContinueCleanly inherited answers release page.contactSlots touches index) :
    Leaves answers.cancel (emitTouches inherited phase release answers.frame page touches index) := by
  induction touches generalizing page index with
  | nil => exact h
  | cons touch touches ih =>
    have hstart : phase ≠ .start := by
      rcases hphase with ⟨rfl, -⟩ | ⟨rfl, -⟩ <;> nofun
    have hemit := @emitTouch_continues inherited page phase release (answers.frame index) touch index hstart
    rw [ContinueCleanly] at hclean
    rw [emitTouches]
    generalize page.emitTouch inherited phase release (answers.frame index) touch index = result at hemit
    cases hemit with
    | «inherited» hkey =>
      simp only [hkey, if_true] at hclean
      exact ⟨h, hclean⟩
    | unknown hkey hslot =>
      simp only [hkey, hslot, Bool.false_eq_true, if_false] at hclean
      exact ih h hclean
    | unsent contactId hkey hslot hsends =>
      simp only [hkey, hslot, hsends, Bool.false_eq_true, if_false] at hclean
      exact ⟨h, hclean⟩
    | sent contactId x y hkey hslot hsends =>
      simp only [hkey, hslot, hsends, Bool.false_eq_true, if_false, if_true] at hclean
      exact ih (h.continue hphase hslot) hclean

lemma emitTouches_kept {answers : ℕ → Bool} (hphase : phase ≠ .start) (touches : List Touch)
    (hnext : emitTouches inherited phase release answers page touches index = .ok next) :
    next.down = page.down ∧ ∀ contact ∈ next.contactSlots.entries, contact ∈ page.contactSlots.entries ∧
      (release = true → ∀ place (hplace : place < touches.length),
        contact.1 ≠ touchKey touches[place] (index + place)) := by
  induction touches generalizing page index with
  | nil =>
    cases hnext
    exact ⟨rfl, fun contact hcontact => ⟨hcontact, fun _ place hplace => absurd hplace (Nat.not_lt_zero _)⟩⟩
  | cons touch touches ih =>
    rw [emitTouches] at hnext
    split at hnext
    · cases hnext
    · rename_i between hbetween
      obtain ⟨hdownRest, hkeptRest⟩ := ih hnext
      have hkept : between.down = page.down ∧ ∀ contact ∈ between.contactSlots.entries,
          contact ∈ page.contactSlots.entries ∧ (release = true → contact.1 ≠ touchKey touch index) := by
        have hemit := @emitTouch_continues inherited page phase release (answers index) touch index hphase
        rw [hbetween] at hemit
        cases hemit with
        | unknown hkey hslot =>
          refine ⟨rfl, fun contact hcontact => ⟨hcontact, ?_⟩⟩
          rintro - hsame
          exact SlotTable.slot?_eq_none.mp hslot (hsame ▸ List.mem_map_of_mem hcontact)
        | sent contactId x y hkey hslot hsends =>
          refine ⟨rfl, fun contact hcontact => ?_⟩
          cases release with
          | false => exact ⟨hcontact, fun hrelease => absurd hrelease Bool.false_ne_true⟩
          | true => exact (SlotTable.mem_release.mp hcontact).imp_right fun hkey _ => hkey
      obtain ⟨hdown, hkept⟩ := hkept
      refine ⟨hdownRest.trans hdown, fun contact hcontact => ?_⟩
      obtain ⟨hmem, hrest⟩ := hkeptRest contact hcontact
      obtain ⟨hmem, hfirst⟩ := hkept contact hmem
      refine ⟨hmem, fun hrelease place hplace => ?_⟩
      cases place with
      | zero => exact hfirst hrelease
      | succ place =>
        have hlater := hrest hrelease place (Nat.lt_of_succ_lt_succ hplace)
        rw [Nat.add_right_comm, Nat.add_assoc] at hlater
        exact hlater

lemma emitTouches_start {answers : SendAnswers} (touches : List Touch) (h : page.ContactsFollow)
    (hclean : StartCleanly inherited answers page.contactSlots touches index)
    (hkeys : ∀ place (hplace : place < touches.length), touchKey touches[place] (index + place) ∈ page.down) :
    Leaves answers.cancel (emitTouches inherited .start false answers.frame page touches index) ∧
      ∀ next, emitTouches inherited .start false answers.frame page touches index = .ok next →
        next.HeldDown := by
  induction touches generalizing page index with
  | nil =>
    refine ⟨h.sound, ?_⟩
    rintro next ⟨⟩
    exact h.held
  | cons touch touches ih =>
    have hemit := @emitTouch_starts inherited page (answers.frame index) touch index
    rw [StartCleanly] at hclean
    rw [emitTouches]
    generalize page.emitTouch inherited .start false (answers.frame index) touch index = result at hemit
    cases hemit with
    | «inherited» hkey =>
      simp only [hkey, if_true] at hclean
      exact ⟨⟨h.sound, hclean⟩, fun _ hnext => by cases hnext⟩
    | unsent contactId hkey hslot hsends =>
      simp only [hkey, hslot, Bool.false_eq_true, if_false] at hclean
      exact ⟨⟨h.sound, hclean.2⟩, fun _ hnext => by cases hnext⟩
    | again contactId x y hkey hslot hsends =>
      simp only [hkey, hslot, hsends, Bool.false_eq_true, if_false, Bool.true_eq_false, false_and] at hclean
    | full hkey hslot hfree =>
      simp only [hkey, hslot, SlotTable.allocate_full hslot hfree, Bool.false_eq_true, if_false] at hclean
      exact ⟨⟨h.sound.refuse h.held hslot hfree, hclean⟩, fun _ hnext => by cases hnext⟩
    | leaked slot hkey hslot hfree hsends =>
      simp only [hkey, hslot, hsends, SlotTable.allocate_new hslot hfree, Bool.false_eq_true, if_false,
        false_and] at hclean
    | placed slot x y hkey hslot hfree hsends =>
      simp only [hkey, hslot, SlotTable.allocate_new hslot hfree, Bool.false_eq_true, if_false] at hclean
      refine ih ⟨h.sound.place h.held hslot hfree, ?_⟩ hclean.2 ?_
      · intro contact hcontact
        have hentry : contact ∈ (page.contactSlots.insert _ slot hslot hfree).entries := hcontact
        rcases SlotTable.mem_insert.mp hentry with hcontact | rfl
        · exact h.held contact hcontact
        · exact hkeys 0 (Nat.succ_pos _)
      · intro place hplace
        have hlater := hkeys (place + 1) (Nat.succ_lt_succ hplace)
        rw [List.getElem_cons_succ, ← Nat.add_assoc, Nat.add_right_comm] at hlater
        exact hlater

lemma mem_touchKeys {touches : List Touch} :
    key ∈ touchKeys touches ↔ ∃ place, ∃ hplace : place < touches.length, touchKey touches[place] place = key := by
  rw [touchKeys, List.mem_toFinset, List.mem_mapIdx]

lemma touchKey_mem {touches : List Touch} (place : ℕ) (hplace : place < touches.length) :
    touchKey touches[place] (0 + place) ∈ touchKeys touches :=
  mem_touchKeys.mpr ⟨place, hplace, by rw [Nat.zero_add]⟩

lemma Sound.caught (h : page.Sound) (hcancels : CancelsSent page.contactSlots cancelled) :
    ContactsFollow (LauncherPage.cancelTouches { page with inputReady := false } cancelled) := by
  have hquiet : ({ page with inputReady := false } : LauncherPage).Sound := ⟨h.strokes, h.refused, h.placed⟩
  exact ⟨hquiet.cancelTouches hcancels, heldDown_empty rfl⟩

lemma onTouchStart_follow {event : PageTouchEvent} {answers : SendAnswers} (h : page.ContactsFollow)
    (hkeys : touchKeys (touchList (event.changedTouches.or event.touches)) ⊆ page.down)
    (hclean : page.inputReady = true → StartCleanly inherited answers page.contactSlots
      (touchList (event.changedTouches.or event.touches)) 0) :
    (page.onTouchStart inherited event answers).ContactsFollow := by
  rw [onTouchStart, forwardTouches]
  split
  · exact h
  rename_i hready
  obtain ⟨hleaves, hheld⟩ := emitTouches_start _ h (hclean (by simpa using hready))
    fun place hplace => hkeys (touchKey_mem place hplace)
  split
  · rename_i next hnext
    rw [hnext] at hleaves
    exact ⟨hleaves, hheld next hnext⟩
  · rename_i thrown hthrown
    rw [hthrown] at hleaves
    exact hleaves.1.caught hleaves.2

lemma onTouchMove_follow {event : PageTouchEvent} {answers : SendAnswers} (h : page.ContactsFollow)
    (hclean : page.inputReady = true →
      ContinueCleanly inherited answers false page.contactSlots (touchList event.touches) 0) :
    (page.onTouchMove inherited event answers).ContactsFollow := by
  rw [onTouchMove, forwardTouches]
  split
  · exact h
  rename_i hready
  have hleaves : Leaves answers.cancel
      (emitTouches inherited .move false answers.frame page (touchList event.touches) 0) :=
    emitTouches_continue (.inl ⟨rfl, rfl⟩) _ h.sound (hclean (by simpa using hready))
  split
  · rename_i next hnext
    rw [hnext] at hleaves
    obtain ⟨hdown, hkept⟩ := emitTouches_kept (by decide) _ hnext
    refine ⟨hleaves, fun contact hcontact => ?_⟩
    rw [hdown]
    exact h.held contact (hkept contact hcontact).1
  · rename_i thrown hthrown
    rw [hthrown] at hleaves
    exact hleaves.1.caught hleaves.2

lemma onTouchEnd_follow {event : PageTouchEvent} {answers : SendAnswers} (h : page.ContactsFollow)
    (hclean : page.TouchesCleanly inherited (.touchEnd event answers)) :
    (onTouchEnd inherited { page with down := page.down \ touchKeys (touchList event.changedTouches) } event
      answers).ContactsFollow := by
  have hsound : ({ page with down := page.down \ touchKeys (touchList event.changedTouches) } :
      LauncherPage).Sound := ⟨h.sound.strokes, h.sound.refused, h.sound.placed⟩
  rw [TouchesCleanly] at hclean
  rw [onTouchEnd, forwardTouches]
  dsimp only
  split
  · rename_i hready
    rw [if_neg (by simpa using hready)] at hclean
    refine ⟨hsound, fun contact hcontact => Finset.mem_sdiff.mpr ⟨h.held contact hcontact, fun hended => ?_⟩⟩
    exact SlotTable.slot?_eq_none.mp (hclean _ hended) (List.mem_map_of_mem hcontact)
  rename_i hready
  rw [if_pos (by simpa using hready)] at hclean
  have hleaves : Leaves answers.cancel (emitTouches inherited .end true answers.frame
      { page with down := page.down \ touchKeys (touchList event.changedTouches) }
      (touchList event.changedTouches) 0) := emitTouches_continue (.inr ⟨rfl, rfl⟩) _ hsound hclean
  split
  · rename_i next hnext
    rw [hnext] at hleaves
    obtain ⟨hdown, hkept⟩ := emitTouches_kept (by decide) _ hnext
    refine ⟨hleaves, fun contact hcontact => ?_⟩
    obtain ⟨hmem, hended⟩ := hkept contact hcontact
    rw [hdown]
    refine Finset.mem_sdiff.mpr ⟨h.held contact hmem, fun hkey => ?_⟩
    obtain ⟨place, hplace, hsame⟩ := mem_touchKeys.mp hkey
    apply hended rfl place hplace
    rw [Nat.zero_add]
    exact hsame.symm
  · rename_i thrown hthrown
    rw [hthrown] at hleaves
    exact hleaves.1.caught hleaves.2

structure SameTouches (before after : LauncherPage) : Prop where
  contactSlots : after.contactSlots = before.contactSlots
  sent : after.sent = before.sent
  placements : after.placements = before.placements
  down : after.down = before.down

lemma ContactsFollow.same (h : before.ContactsFollow) (hsame : SameTouches before after) :
    after.ContactsFollow := by
  constructor
  · refine ⟨?_, ?_, ?_⟩
    · rw [hsame.contactSlots, hsame.sent]
      exact h.sound.strokes
    · rw [hsame.placements]
      exact h.sound.refused
    · rw [hsame.placements]
      exact h.sound.placed
  · rw [HeldDown, hsame.contactSlots, hsame.down]
    exact h.held

lemma cancelTouches_follow (h : page.ContactsFollow) (hcancels : CancelsSent page.contactSlots cancelled) :
    (page.cancelTouches cancelled).ContactsFollow :=
  ⟨h.sound.cancelTouches hcancels, heldDown_empty rfl⟩

lemma showError_follow (h : page.ContactsFollow) (hcancels : CancelsSent page.contactSlots cancelled) :
    (page.showError cancelled).ContactsFollow :=
  (cancelTouches_follow h hcancels).same ⟨rfl, rfl, rfl, rfl⟩

lemma catchError_follow {generation : ℕ} (h : page.ContactsFollow)
    (hcancels : page.stale generation = false → CancelsSent page.contactSlots cancelled) :
    (page.catchError generation cancelled).ContactsFollow := by
  rw [catchError]
  split
  · exact h
  · rename_i hstale
    exact showError_follow h (hcancels (Bool.eq_false_iff.mpr hstale))

lemma schedulePoll_follow {generation delay : ℕ} (h : page.ContactsFollow) :
    (page.schedulePoll generation delay).ContactsFollow := by
  rw [schedulePoll]
  split
  · exact h.same ⟨rfl, rfl, rfl, rfl⟩
  · exact h.same ⟨rfl, rfl, rfl, rfl⟩

lemma applyStatus_follow {status : LauncherResult} (h : page.ContactsFollow) :
    (page.applyStatus status).ContactsFollow := h.same ⟨rfl, rfl, rfl, rfl⟩

lemma endLaunch_follow {call : LaunchCall} (h : page.ContactsFollow) :
    (page.endLaunch call).ContactsFollow := h.same ⟨rfl, rfl, rfl, rfl⟩

lemma beginLaunch_follow (h : page.ContactsFollow) : page.beginLaunch.ContactsFollow := by
  rw [beginLaunch]
  split
  · exact h
  · exact h.same ⟨rfl, rfl, rfl, rfl⟩

lemma resumeProbe_follow {generation : ℕ} {answer : Option LauncherResult} (h : page.ContactsFollow)
    (hcancels : page.stale generation = false → (∀ probe ∈ answer, probe.available = false) →
      CancelsSent page.contactSlots cancelled) :
    (page.resumeProbe generation answer cancelled).ContactsFollow := by
  rw [resumeProbe.eq_def]
  dsimp only
  split
  · exact endLaunch_follow (catchError_follow h fun hstale => hcancels hstale (by rintro _ ⟨⟩))
  rename_i probe
  split
  · exact endLaunch_follow h
  split
  · rename_i hrefused
    have hunavailable : ∀ other ∈ some probe, other.available = false := by
      rintro _ ⟨⟩
      simpa using hrefused
    exact endLaunch_follow (catchError_follow (applyStatus_follow h) fun hstale => hcancels hstale hunavailable)
  split
  · exact h.same ⟨rfl, rfl, rfl, rfl⟩
  · exact endLaunch_follow (schedulePoll_follow (applyStatus_follow h))

lemma resumeStart_follow {generation : ℕ} {answer : Option LauncherResult} (h : page.ContactsFollow)
    (hcancels : page.stale generation = false → (∀ started ∈ answer, startRefused started = true) →
      CancelsSent page.contactSlots cancelled) :
    (page.resumeStart generation answer cancelled).ContactsFollow := by
  rw [resumeStart.eq_def]
  dsimp only
  split
  · exact endLaunch_follow (catchError_follow h fun hstale => hcancels hstale (by rintro _ ⟨⟩))
  rename_i started
  split
  · exact endLaunch_follow h
  split
  · rename_i hrefused
    have hall : ∀ other ∈ some started, startRefused other = true := by
      rintro _ ⟨⟩
      exact hrefused
    exact endLaunch_follow (catchError_follow (applyStatus_follow h) fun hstale => hcancels hstale hall)
  · exact endLaunch_follow (schedulePoll_follow (applyStatus_follow h))

lemma resumePoll_follow {generation : ℕ} {answer : Option LauncherResult} (h : page.ContactsFollow)
    (hcancels : page.stale generation = false → answer = none → CancelsSent page.contactSlots cancelled) :
    (page.resumePoll generation answer cancelled).ContactsFollow := by
  have hpolls : ({ page with polls := page.polls.erase generation } : LauncherPage).ContactsFollow :=
    h.same ⟨rfl, rfl, rfl, rfl⟩
  rw [resumePoll.eq_def]
  dsimp only
  split
  · exact hpolls
  rename_i hstale
  split
  · exact showError_follow hpolls (hcancels (Bool.eq_false_iff.mpr hstale) rfl)
  · exact schedulePoll_follow (applyStatus_follow hpolls)

lemma onHide_follow (h : page.ContactsFollow) (hcancels : CancelsSent page.contactSlots cancelled) :
    (page.onHide cancelled).ContactsFollow := (cancelTouches_follow h hcancels).same ⟨rfl, rfl, rfl, rfl⟩

lemma ContactsFollow.step {event : PageEvent} (h : before.ContactsFollow)
    (hclean : before.TouchesCleanly inherited event) (hstep : before.step inherited event = some after) :
    after.ContactsFollow := by
  cases event with
  | «show» =>
    obtain rfl := Option.some.inj hstep
    exact beginLaunch_follow (h.same ⟨rfl, rfl, rfl, rfl⟩)
  | hide cancelled =>
    obtain rfl := Option.some.inj hstep
    exact onHide_follow h hclean
  | unload cancelled =>
    obtain rfl := Option.some.inj hstep
    exact (onHide_follow h hclean).same ⟨rfl, rfl, rfl, rfl⟩
  | retry =>
    obtain rfl := Option.some.inj hstep
    rw [retry]
    split
    · exact h
    · exact beginLaunch_follow h
  | probed generation answer cancelled =>
    obtain ⟨-, hafter⟩ := Option.ite_none_right_eq_some.mp hstep
    rw [← Option.some.inj hafter]
    exact resumeProbe_follow h hclean
  | started generation answer cancelled =>
    obtain ⟨-, hafter⟩ := Option.ite_none_right_eq_some.mp hstep
    rw [← Option.some.inj hafter]
    exact resumeStart_follow h hclean
  | pollDue =>
    obtain ⟨timer, -, rfl⟩ := Option.map_eq_some_iff.mp hstep
    rw [pollDue]
    split
    · exact h.same ⟨rfl, rfl, rfl, rfl⟩
    · exact h.same ⟨rfl, rfl, rfl, rfl⟩
  | polled generation answer cancelled =>
    obtain ⟨-, hafter⟩ := Option.ite_none_right_eq_some.mp hstep
    rw [← Option.some.inj hafter]
    exact resumePoll_follow h hclean
  | touchStart event answers =>
    obtain rfl := Option.some.inj hstep
    refine onTouchStart_follow ⟨⟨h.sound.strokes, h.sound.refused, h.sound.placed⟩, ?_⟩
      Finset.subset_union_right hclean
    exact fun contact hcontact => Finset.mem_union_left _ (h.held contact hcontact)
  | touchMove event answers =>
    obtain rfl := Option.some.inj hstep
    exact onTouchMove_follow h hclean
  | touchEnd event answers =>
    obtain rfl := Option.some.inj hstep
    exact onTouchEnd_follow h hclean
  | touchCancel event cancelled =>
    obtain rfl := Option.some.inj hstep
    have hsound : ({ before with down := before.down \ touchKeys (touchList event.changedTouches) } :
        LauncherPage).Sound := ⟨h.sound.strokes, h.sound.refused, h.sound.placed⟩
    exact ⟨hsound.cancelTouches hclean, heldDown_empty rfl⟩

lemma contactsFollow_initial : ContactsFollow {} :=
  ⟨⟨fun _ => ⟨false, rfl, iff_of_false Bool.false_ne_true nofun⟩, nofun, nofun⟩, nofun⟩

end LauncherPage

/-- The contacts of a page, and what became of the touches that asked for one. -/
structure TouchesTracked (page : LauncherPage) : Prop where
  keys : (page.contactSlots.entries.map Prod.fst).Nodup
  slots : (page.contactSlots.entries.map Prod.snd).Nodup
  below : ∀ contact ∈ page.contactSlots.entries, contact.2 < 32
  down : ∀ contact ∈ page.contactSlots.entries, contact.1 ∈ page.down
  strokes : ∀ slot, StrokePrefix phaseMark (slotPhases slot page.sent)
  refused : ∀ key down, .refused key down ∈ page.placements → 32 ≤ (down.erase key).card
  first : ∀ key contactId down, .placed key contactId down ∈ page.placements → down ⊆ {key} → contactId = 0

def touchAt (identifier : String) : Touch where
  identifier := some (utf16 identifier.toList)
  pageX := some (some 10)
  pageY := some (some 10)

def touching (identifiers : List String) : PageTouchEvent where
  changedTouches := some (identifiers.map touchAt)

def allSent : SendAnswers := ⟨fun _ => true, fun _ => true⟩

def tappedEvents : List PageEvent :=
  [.show, .probed 1 (some readyResult) noneSent, .touchStart (touching ["7", "3"]) allSent,
    .touchEnd (touching ["7"]) allSent, .hide fun _ => true]

end LvglPlatform

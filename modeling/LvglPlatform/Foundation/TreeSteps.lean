import LvglPlatform.Foundation.FileCreation
import LvglPlatform.Foundation.Steps

/-! Creating directories, writing files and renaming them below a directory, one system call at a time:
what the uninterrupted calls amount to, and what is there when they stop. -/

namespace Foundation

namespace Node

def erase (node : Node) (name : Bytes) : Node :=
  match node with
  | .directory stat entries => .directory stat (entries.filter fun entry => entry.1 ≠ name)
  | node => node

def rename (node : Node) (name other : Bytes) : Node :=
  match node.child name with
  | some child => (node.erase name).put other child
  | none => node

def makeDirectorySteps (uid mode : ℕ) (name : Bytes) : Steps Node Unit := do
  let parent ← Steps.current
  match parent.child name with
  | none => Steps.step fun node => node.put name (.directory { uid, mode } [])
  | some _ => pure ()

def ensureDirectorySteps (uid mode : ℕ) (name : Bytes) : Steps Node (Option Node) := do
  makeDirectorySteps uid mode name
  let parent ← Steps.current
  pure <| match parent.openDirectory name with
    | .directory child => if child.trusted uid then some child else none
    | _ => none

def withinSteps {α : Type} (uid mode : ℕ) (name : Bytes) (failed : α) (action : Steps Node α) :
    Steps Node α := do
  match ← ensureDirectorySteps uid mode name with
  | none => pure failed
  | some child => Steps.zoom (fun _ => child) (fun child node => node.put name child) action

def insideSteps {α : Type} (uid mode : ℕ) (failed : α) (action : Steps Node α) : Path → Steps Node α
  | [] => action
  | name :: path => withinSteps uid mode name failed (insideSteps uid mode failed action path)

/-- The bytes reach the file one at a time: every split of the writes stops at one of these states. -/
def fillSteps (name : Bytes) (stat : Stat) (written : Bytes) : Bytes → Steps Node Unit
  | [] => pure ()
  | byte :: rest => do
    Steps.step fun node => node.put name (.file stat (written ++ [byte]))
    fillSteps name stat (written ++ [byte]) rest

def writeSteps (name : Bytes) (mode : ℕ) (stat : Stat) (content : Bytes) : Steps Node Unit := do
  Steps.step fun node => node.put name (.file { stat with mode } [])
  fillSteps name { stat with mode } [] content
  Steps.step fun node => node.put name (.file stat content)

def createFileSteps (uid mode : ℕ) (initial : ℕ) (stat : Stat) (content : Bytes) : Path → Steps Node Bool
  | [] => pure false
  | [name] => do
    let parent ← Steps.current
    match parent.child name with
    | none => do
      writeSteps name initial stat content
      pure true
    | some _ => pure false
  | name :: next :: path =>
    withinSteps uid mode name false (createFileSteps uid mode initial stat content (next :: path))

section

variable {node child other : Node} {name : Bytes}

@[simp] lemma put_put : (node.put name child).put name other = node.put name other := by
  cases node with
  | file stat content => rfl
  | other stat => rfl
  | directory stat entries =>
    by_cases hany : entries.any (fun entry => entry.1 = name) = true
    · have hmapped : (entries.map fun entry => if entry.1 = name then (name, child) else entry).any
          (fun entry => entry.1 = name) = true := by
        obtain ⟨entry, hentry, hname⟩ := List.any_eq_true.mp hany
        refine List.any_eq_true.mpr ⟨_, List.mem_map_of_mem hentry, ?_⟩
        simp [of_decide_eq_true hname]
      simp only [put, hany, hmapped, if_true, List.map_map]
      congr 1
      refine List.map_congr_left fun entry _ => ?_
      by_cases h : entry.1 = name <;> simp [h]
    · have hnone : ∀ entry ∈ entries, entry.1 ≠ name := by
        intro entry hentry hname
        exact hany (List.any_eq_true.mpr ⟨entry, hentry, decide_eq_true hname⟩)
      have hsame : (entries.map fun entry => if entry.1 = name then (name, other) else entry) = entries :=
        (List.map_congr_left fun entry hentry => if_neg (hnone entry hentry)).trans (List.map_id' entries)
      simp [put, hany, hsame]

lemma none_named (h : node.child name = none) : ∀ entry ∈ node.entries, entry.1 ≠ name := by
  have hfind := Option.map_eq_none_iff.mp h
  simpa using hfind

lemma erase_put (h : node.child name = none) : (node.put name child).erase name = node := by
  have hnamed := none_named h
  cases node with
  | file stat content => rfl
  | other stat => rfl
  | directory stat entries =>
    have hany : ¬ entries.any (fun entry => entry.1 = name) = true := by
      intro hany
      obtain ⟨entry, hentry, hname⟩ := List.any_eq_true.mp hany
      exact hnamed entry hentry (of_decide_eq_true hname)
    have hkept : entries.filter (fun entry => entry.1 ≠ name) = entries :=
      List.filter_eq_self.mpr fun entry hentry => decide_eq_true (hnamed entry hentry)
    rw [put, if_neg hany, erase, List.filter_append, hkept]
    simp

lemma rename_put (h : node.child name = none) (target : Bytes) :
    (node.put name child).rename name target = node.put target child := by
  by_cases hd : node.isDirectory = true
  · rw [rename, child_put_self hd]
    dsimp only
    rw [erase_put h]
  · cases node with
    | directory stat entries => exact absurd rfl hd
    | file stat content => rfl
    | other stat => rfl

end

section

variable {α : Type} {uid mode initial : ℕ} {failed : α} {action : Steps Node α} {node : Node}
  {name : Bytes} {stat : Stat} {content : Bytes} {path : Path}

lemma run_makeDirectorySteps : ((makeDirectorySteps uid mode name).run node).1 =
    match node.child name with
    | none => node.put name (.directory { uid, mode } [])
    | some _ => node := by
  rw [makeDirectorySteps, Steps.run_bind, Steps.run_current]
  cases node.child name <;> rfl

lemma run_ensureDirectorySteps :
    (ensureDirectorySteps uid mode name).run node = node.ensureDirectory uid mode name := by
  rw [ensureDirectorySteps, Steps.run_bind, run_makeDirectorySteps, ensureDirectory, Steps.run_bind,
    Steps.run_current, Steps.run_pure]
  cases node.child name with
  | none =>
    dsimp only
    cases (node.put name (.directory { uid, mode } [])).openDirectory name <;> rfl
  | some found =>
    dsimp only
    cases node.openDirectory name <;> rfl

lemma run_withinSteps : (withinSteps uid mode name failed action).run node =
    node.within uid mode name failed action.run := by
  unfold withinSteps within
  rw [Steps.run_bind, run_ensureDirectorySteps]
  match node.ensureDirectory uid mode name with
  | (parent, none) => rfl
  | (parent, some child) => rfl

lemma run_insideSteps : (insideSteps uid mode failed action path).run node =
    node.inside uid mode failed action.run path := by
  induction path generalizing node with
  | nil => rfl
  | cons name path ih =>
    rw [insideSteps, run_withinSteps, inside]
    exact congrArg (node.within uid mode name failed) (funext fun child => ih)

lemma run_fillSteps (written rest : Bytes) (hput : node = node.put name (.file stat written)) :
    ((fillSteps name stat written rest).run node).1 = node.put name (.file stat (written ++ rest)) := by
  induction rest generalizing node written with
  | nil => rw [List.append_nil]; exact hput
  | cons byte rest ih =>
    rw [fillSteps, Steps.run_bind, Steps.run_step, ih _ put_put.symm, put_put, List.append_assoc]
    rfl

lemma run_writeSteps : ((writeSteps name initial stat content).run node).1 =
    node.put name (.file stat content) := by
  simp only [writeSteps, Steps.run_bind, Steps.run_step]
  rw [run_fillSteps [] content put_put.symm, put_put, put_put]

lemma run_createFileSteps : (createFileSteps uid mode initial stat content path).run node =
    createFile uid mode (.file stat content) node path := by
  induction path generalizing node with
  | nil => rfl
  | cons name path ih =>
    cases path with
    | nil =>
      rw [createFileSteps, createFile, Steps.run_bind, Steps.run_current]
      cases node.child name with
      | none =>
        dsimp only
        rw [Steps.run_bind, run_writeSteps]
        rfl
      | some found => rfl
    | cons next path =>
      rw [createFileSteps, run_withinSteps, createFile]
      exact congrArg (node.within uid mode name false) (funext fun child => ih)

end

def walk (uid : ℕ) : Node → Path → Opened
  | node, [] => if node.trusted uid then .directory node else .refused
  | node, name :: path =>
    if node.trusted uid then
      match node.openDirectory name with
      | .missing => .missing
      | .refused => .refused
      | .directory child => child.walk uid path
    else .refused

section

variable {α : Type} {uid mode : ℕ} {failed : α} {action : Steps Node α} {node child target : Node}
  {name : Bytes} {path : Path} {inner crash : Node → Prop}

lemma ensureDirectorySteps_spec {post : Option Node → Node → Prop}
    (hcrash : crash (node.ensureDirectory uid mode name).1)
    (hpost : post (node.ensureDirectory uid mode name).2 (node.ensureDirectory uid mode name).1) :
    Steps.Spec node (ensureDirectorySteps uid mode name) crash post := by
  rw [← run_ensureDirectorySteps] at hcrash hpost
  refine ⟨fun t ht => ?_, hpost⟩
  rcases List.mem_append.mp ht with ht | ht
  · have hmade : t = ((makeDirectorySteps uid mode name).run node).1 := by
      rw [run_makeDirectorySteps]
      rcases List.mem_append.mp ht with ht | ht
      · cases ht
      · change t ∈ ((match node.child name with
          | none => Steps.step fun node => node.put name (.directory { uid, mode } [])
          | some _ => pure () : Steps Node Unit) node).visited at ht
        cases hc : node.child name with
        | none =>
          rw [hc] at ht
          exact List.mem_singleton.mp ht
        | some found =>
          rw [hc] at ht
          cases ht
    rw [hmade]
    exact hcrash
  · cases ht

/-- An action in a directory leaves that directory, wherever it stops, as the action may leave it. -/
lemma withinSteps_ends {post post' : α → Node → Prop} (hm : mode &&& 0o022 = 0)
    (hd : node.isDirectory = true) (h : node.directoryFor uid mode name = some child)
    (hchild : inner child) (haction : Steps.Spec child action inner post)
    (hcrash : ∀ t node', inner t → Replaced node name t node' → crash node')
    (hpost : ∀ a t node', post a t → Replaced node name t node' → post' a node') :
    Steps.Spec node (withinSteps uid mode name failed action) crash post' := by
  obtain ⟨hopened, hreplaced⟩ := ensureDirectory_some hd hm h
  refine Steps.spec_bind (ensureDirectorySteps_spec (hcrash child _ hchild hreplaced) ?_)
  rw [hopened]
  refine Steps.spec_zoom ?_
  exact haction.weaken (fun t ht => hcrash t _ ht hreplaced.put) fun a t ht => hpost a t _ ht hreplaced.put

lemma withinSteps_spec (hm : mode &&& 0o022 = 0) (hd : node.isDirectory = true)
    (h : node.directoryFor uid mode name = some child) (hchild : inner child)
    (haction : Steps.Spec child action inner fun _ => inner)
    (hcrash : ∀ t node', inner t → Replaced node name t node' → crash node') :
    Steps.Spec node (withinSteps uid mode name failed action) crash fun _ => crash :=
  withinSteps_ends hm hd h hchild haction hcrash fun _ => hcrash

lemma withinSteps_none (h : node.directoryFor uid mode name = none) (hcrash : crash node) :
    Steps.Spec node (withinSteps uid mode name failed action) crash fun _ => crash := by
  have hnone : node.ensureDirectory uid mode name = (node, none) := ensureDirectory_none h
  refine Steps.spec_bind (ensureDirectorySteps_spec ?_ ?_)
  · rw [hnone]
    exact hcrash
  · rw [hnone]
    exact Steps.spec_pure hcrash

structure Leads (uid mode : ℕ) (path : Path) (inner : Node → Prop) (node : Node) : Prop where
  trusted : node.trusted uid = true
  target : ∃ found, node.directoryAt uid mode path = some found ∧ inner found

lemma insideSteps_leads (hm : mode &&& 0o022 = 0) (ht : node.trusted uid = true)
    (h : node.directoryAt uid mode path = some target) (htarget : inner target)
    (htrusted : ∀ t, inner t → t.trusted uid = true)
    (haction : Steps.Spec target action inner fun _ => inner) :
    Steps.Spec node (insideSteps uid mode failed action path) (Leads uid mode path inner)
      fun _ => Leads uid mode path inner := by
  induction path generalizing node with
  | nil =>
    obtain rfl := Option.some.inj h
    have hleads : ∀ t, inner t → Leads uid mode [] inner t := fun t ht => ⟨htrusted t ht, t, rfl, ht⟩
    exact haction.weaken hleads fun _ => hleads
  | cons name path ih =>
    obtain ⟨child, hchild, hrest⟩ := directoryAt_cons h
    have hct := directoryFor_trusted hm hchild
    refine withinSteps_spec hm (isDirectory_of_trusted ht) hchild ⟨hct, target, hrest, htarget⟩
      (ih hct hrest) ?_
    rintro t node' ⟨httrusted, found, hfound, hinner⟩ hreplaced
    refine ⟨hreplaced.trusted ht, found, ?_, hinner⟩
    rw [directoryAt, directoryFor, hreplaced.child]
    simp [httrusted, hfound]

structure Blocked (uid mode : ℕ) (path : Path) (before node : Node) : Prop where
  trusted : node.trusted uid = true
  target : node.directoryAt uid mode path = none
  lookup : ∀ rest, rest ≠ [] → node.lookup (path ++ rest) = before.lookup (path ++ rest)

lemma insideSteps_blocked (hm : mode &&& 0o022 = 0) (ht : node.trusted uid = true)
    (h : node.directoryAt uid mode path = none) :
    Steps.Spec node (insideSteps uid mode failed action path) (Blocked uid mode path node)
      fun _ => Blocked uid mode path node := by
  induction path generalizing node with
  | nil => cases h
  | cons name path ih =>
    have hself : Blocked uid mode (name :: path) node node := ⟨ht, h, fun _ _ => rfl⟩
    rw [directoryAt] at h
    cases hc : node.directoryFor uid mode name with
    | none => exact withinSteps_none hc hself
    | some child =>
      rw [hc] at h
      have hct := directoryFor_trusted hm hc
      refine withinSteps_spec hm (isDirectory_of_trusted ht) hc ⟨hct, h, fun _ _ => rfl⟩ (ih hct h) ?_
      rintro t node' ⟨httrusted, htarget, hlookup⟩ hreplaced
      refine ⟨hreplaced.trusted ht, ?_, ?_⟩
      · rw [directoryAt, directoryFor, hreplaced.child]
        simp [httrusted, htarget]
      · intro rest hrest
        rw [List.cons_append, lookup, hreplaced.child, directoryFor_lookup hc (by simp [hrest])]
        exact hlookup rest hrest

lemma Replaced.walk {node' : Node} (h : Replaced node name child node') (ht : node.trusted uid = true)
    (hd : child.isDirectory = true) : node'.walk uid (name :: path) = child.walk uid path := by
  simp [Node.walk, h.trusted ht, openDirectory, h.child, hd]

lemma trusted_of_walk {opened : Opened} (h : node.walk uid path = opened) (hopened : opened ≠ .refused) :
    node.trusted uid = true := by
  by_contra hnot
  refine hopened (h.symm.trans ?_)
  cases path with
  | nil => rw [walk, if_neg hnot]
  | cons name path => rw [walk, if_neg hnot]

lemma walk_trusted (h : node.walk uid path = .directory target) : target.trusted uid = true := by
  induction path generalizing node with
  | nil =>
    rw [walk] at h
    split at h
    · cases h
      assumption
    · cases h
  | cons name path ih =>
    rw [walk] at h
    split at h
    · split at h
      · cases h
      · cases h
      · exact ih h
    · cases h

lemma walk_cons (h : node.walk uid (name :: path) = .directory target) :
    ∃ child, node.child name = some child ∧ child.trusted uid = true ∧
      child.walk uid path = .directory target := by
  rw [walk, openDirectory] at h
  split at h
  · cases hc : node.child name with
    | none =>
      rw [hc] at h
      cases h
    | some child =>
      rw [hc] at h
      by_cases hd : child.isDirectory = true
      · simp only [hd, if_true] at h
        exact ⟨child, rfl, trusted_of_walk h (by simp), h⟩
      · simp [hd] at h
  · cases h

lemma directoryAt_new (path : Path) :
    (directory { uid, mode } []).directoryAt uid mode path = some (.directory { uid, mode } []) := by
  induction path with
  | nil => rfl
  | cons name path ih => exact ih

lemma directoryAt_missing (h : node.walk uid path = .missing) :
    node.directoryAt uid mode path = some (.directory { uid, mode } []) := by
  induction path generalizing node with
  | nil =>
    rw [walk] at h
    split at h
    · cases h
    · cases h
  | cons name path ih =>
    rw [walk, openDirectory] at h
    split at h
    · rw [directoryAt, directoryFor]
      cases hc : node.child name with
      | none => exact directoryAt_new path
      | some child =>
        rw [hc] at h
        dsimp only at h
        by_cases hd : child.isDirectory = true
        · rw [if_pos hd] at h
          have hct : child.trusted uid = true := trusted_of_walk h (by simp)
          simp only [hct, if_true, Option.bind_some]
          exact ih h
        · simp [hd] at h
    · cases h

structure Arrives (uid : ℕ) (path : Path) (inner : Node → Prop) (node : Node) : Prop where
  trusted : node.trusted uid = true
  target : node.walk uid path = .missing ∨ ∃ found, node.walk uid path = .directory found ∧ inner found

lemma arrives_start (hm : mode &&& 0o022 = 0) (ht : node.trusted uid = true)
    (h : node.directoryAt uid mode path = some target) (htarget : inner target) :
    Arrives uid path inner node := by
  refine ⟨ht, ?_⟩
  induction path generalizing node with
  | nil =>
    obtain rfl := Option.some.inj h
    exact Or.inr ⟨node, if_pos ht, htarget⟩
  | cons name path ih =>
    obtain ⟨child, hchild, hrest⟩ := directoryAt_cons h
    have hct := directoryFor_trusted hm hchild
    cases hc : node.child name with
    | none => exact Or.inl (by simp [walk, ht, openDirectory, hc])
    | some found =>
      rw [directoryFor, hc] at hchild
      obtain rfl : found = child := by simpa using (Option.ite_none_right_eq_some.mp hchild).2
      have hwalk : node.walk uid (name :: path) = found.walk uid path := by
        simp [walk, ht, openDirectory, hc, isDirectory_of_trusted hct]
      rw [hwalk]
      exact ih hct hrest

lemma insideSteps_arrives (hm : mode &&& 0o022 = 0) (ht : node.trusted uid = true)
    (h : node.directoryAt uid mode path = some target) (htarget : inner target)
    (htrusted : ∀ t, inner t → t.trusted uid = true)
    (haction : Steps.Spec target action inner fun _ => inner) :
    Steps.Spec node (insideSteps uid mode failed action path) (Arrives uid path inner)
      fun _ => Arrives uid path inner := by
  induction path generalizing node with
  | nil =>
    obtain rfl := Option.some.inj h
    have harrives : ∀ t, inner t → Arrives uid [] inner t := fun t hinner =>
      ⟨htrusted t hinner, Or.inr ⟨t, if_pos (htrusted t hinner), hinner⟩⟩
    exact haction.weaken harrives fun _ => harrives
  | cons name path ih =>
    obtain ⟨child, hchild, hrest⟩ := directoryAt_cons h
    have hct := directoryFor_trusted hm hchild
    refine withinSteps_spec hm (isDirectory_of_trusted ht) hchild (arrives_start hm hct hrest htarget)
      (ih hct hrest) ?_
    rintro t node' ⟨httrusted, htarget⟩ hreplaced
    refine ⟨hreplaced.trusted ht, ?_⟩
    rw [hreplaced.walk ht (isDirectory_of_trusted httrusted)]
    exact htarget

lemma insideSteps_ends {post : α → Node → Prop} (hm : mode &&& 0o022 = 0) (ht : node.trusted uid = true)
    (h : node.directoryAt uid mode path = some target)
    (htrusted : ∀ a t, post a t → t.trusted uid = true)
    (haction : Steps.Spec target action (fun _ => True) post) :
    Steps.Spec node (insideSteps uid mode failed action path) (fun _ => True)
      fun a node' => ∃ found, node'.walk uid path = .directory found ∧ post a found := by
  induction path generalizing node with
  | nil =>
    obtain rfl := Option.some.inj h
    refine haction.weaken (fun _ => id) fun a t hpost => ⟨t, ?_, hpost⟩
    exact if_pos (htrusted a t hpost)
  | cons name path ih =>
    obtain ⟨child, hchild, hrest⟩ := directoryAt_cons h
    have hct := directoryFor_trusted hm hchild
    refine withinSteps_ends hm (isDirectory_of_trusted ht) hchild trivial (ih hct hrest)
      (fun _ _ _ _ => trivial) ?_
    rintro a t node' ⟨found, hfound, hpost⟩ hreplaced
    refine ⟨found, ?_, hpost⟩
    have htt : t.trusted uid = true := trusted_of_walk hfound (by simp)
    rw [hreplaced.walk ht (isDirectory_of_trusted htt)]
    exact hfound

lemma withinSteps_creates (h : node.child name = none) :
    Steps.Visits (withinSteps uid mode name failed action) node
      (node.put name (.directory { uid, mode } [])) := by
  refine Steps.Visits.bind (Steps.Visits.bind (Steps.Visits.rest ?_) _) _
  rw [Steps.run_current, h]
  exact Steps.visits_step _ _

lemma withinSteps_visits {t : Node} (hm : mode &&& 0o022 = 0) (hd : node.isDirectory = true)
    (h : node.directoryFor uid mode name = some child) (hvisits : Steps.Visits action child t) :
    Steps.Visits (withinSteps uid mode name failed action) node
      ((node.ensureDirectory uid mode name).1.put name t) := by
  refine Steps.Visits.rest ?_
  rw [run_ensureDirectorySteps, (ensureDirectory_some hd hm h).1]
  exact Steps.Visits.zoom hvisits

/-- Following a path that is not there yet passes through a state in which its end is still empty. -/
lemma insideSteps_creates (hm : mode &&& 0o022 = 0) (ht : node.trusted uid = true)
    (h : node.walk uid path = .missing) :
    ∃ t, Steps.Visits (insideSteps uid mode failed action path) node t ∧
      t.walk uid path = .directory (.directory { uid, mode } []) := by
  induction path generalizing node with
  | nil => simp [walk, ht] at h
  | cons name path ih =>
    obtain ⟨child, hchild, -⟩ := directoryAt_cons (directoryAt_missing h)
    have hct := directoryFor_trusted hm hchild
    have hd := isDirectory_of_trusted ht
    by_cases hpath : child.walk uid path = .missing
    · obtain ⟨t, hvisits, hwalk⟩ := ih hct hpath
      refine ⟨_, withinSteps_visits hm hd hchild hvisits, ?_⟩
      have hreplaced : Replaced node name t ((node.ensureDirectory uid mode name).1.put name t) :=
        (ensureDirectory_some hd hm hchild).2.put
      rw [hreplaced.walk ht (isDirectory_of_trusted (trusted_of_walk hwalk (by simp)))]
      exact hwalk
    · cases hc : node.child name with
      | some found =>
        rw [directoryFor, hc] at hchild
        obtain rfl : found = child := by simpa using (Option.ite_none_right_eq_some.mp hchild).2
        simp only [walk, ht, if_true, openDirectory, hc, isDirectory_of_trusted hct] at h
        exact absurd h hpath
      | none =>
        rw [directoryFor, hc] at hchild
        obtain rfl := Option.some.inj hchild
        cases path with
        | nil =>
          refine ⟨_, withinSteps_creates hc, ?_⟩
          simp [walk, ht, openDirectory, child_put_self hd, isDirectory, trusted_directory hm []]
        | cons next path =>
          refine absurd ?_ hpath
          rw [walk, if_pos hct]
          rfl

lemma writeSteps_spec {initial : ℕ} {stat : Stat} {content : Bytes}
    (hcrash : ∀ stat written, crash (node.put name (.file stat written))) :
    Steps.Spec node (writeSteps name initial stat content) crash fun _ => crash := by
  have hfill : ∀ (stat : Stat) (written rest : Bytes), Steps.Spec (node.put name (.file stat written))
      (fillSteps name stat written rest) crash fun _ t => ∃ content, t = node.put name (.file stat content) := by
    intro stat written rest
    induction rest generalizing written with
    | nil => exact Steps.spec_pure ⟨written, rfl⟩
    | cons byte rest ih =>
      refine Steps.spec_bind (Steps.spec_step ?_ ?_)
      · rw [put_put]
        exact hcrash _ _
      · rw [put_put]
        exact ih _
  refine Steps.spec_bind (Steps.spec_step (hcrash _ _) (Steps.spec_bind ((hfill _ _ _).weaken (fun _ => id) ?_)))
  rintro - t ⟨written, rfl⟩
  refine Steps.spec_step ?_ ?_
  · rw [put_put]
    exact hcrash _ _
  · rw [put_put]
    exact hcrash _ _

end

end Node

end Foundation

import LvglPlatform.Foundation.FileTree

/-! Creating directories and files below a directory, the way `mkdirat` and an exclusive `openat` do:
which paths can be created one after the other, and what is found under them afterwards. -/

namespace Foundation

namespace Node

def directoryFor (uid mode : ℕ) (parent : Node) (name : Bytes) : Option Node :=
  match parent.child name with
  | none => some (.directory { uid, mode } [])
  | some child => if child.trusted uid then some child else none

/-- `mkdirat` and opening: the parent afterwards, and the directory if it can be trusted. -/
def ensureDirectory (uid mode : ℕ) (parent : Node) (name : Bytes) : Node × Option Node :=
  let parent := match parent.child name with
    | none => parent.put name (.directory { uid, mode } [])
    | some _ => parent
  match parent.openDirectory name with
  | .directory child => (parent, if child.trusted uid then some child else none)
  | _ => (parent, none)

def within {α : Type} (uid mode : ℕ) (parent : Node) (name : Bytes) (failed : α)
    (action : Node → Node × α) : Node × α :=
  match parent.ensureDirectory uid mode name with
  | (parent, none) => (parent, failed)
  | (parent, some child) => (parent.put name (action child).1, (action child).2)

/-- Creating a file that must not exist, in directories that are created on the way to it. -/
def createFile (uid mode : ℕ) (file : Node) : Node → Path → Node × Bool
  | node, [] => (node, false)
  | node, [name] =>
    match node.child name with
    | none => (node.put name file, true)
    | some _ => (node, false)
  | node, name :: next :: path =>
    node.within uid mode name false fun child => createFile uid mode file child (next :: path)

/-- Opening a path through trusted directories; what it leads to may be anything. -/
def openFile (uid : ℕ) : Node → Path → Option Node
  | _, [] => none
  | node, [name] => node.child name
  | node, name :: next :: path =>
    match node.child name with
    | none => none
    | some child => if child.trusted uid then child.openFile uid (next :: path) else none

def Vacant (uid mode : ℕ) : Node → Path → Prop
  | _, [] => False
  | node, [name] => node.child name = none
  | node, name :: next :: path =>
    ∃ child, node.directoryFor uid mode name = some child ∧ child.Vacant uid mode (next :: path)

/-- The second directory is the first one but for what a name means. -/
structure Replaced (node : Node) (name : Bytes) (child node' : Node) : Prop where
  stat : node'.stat = node.stat
  isDirectory : node'.isDirectory = true
  child : node'.child name = some child
  other : ∀ other, other ≠ name → node'.child other = node.child other

section

variable {uid mode : ℕ} {node child : Node} {name : Bytes}

lemma replaced_put (hd : node.isDirectory = true) : Replaced node name child (node.put name child) :=
  ⟨stat_put, isDirectory_put.trans hd, child_put_self hd, fun _ hne => child_put_of_ne hne⟩

lemma Replaced.put {first node' : Node} (h : Replaced node name first node') :
    Replaced node name child (node'.put name child) := by
  have hput : Replaced node' name child (node'.put name child) := replaced_put h.isDirectory
  exact ⟨hput.stat.trans h.stat, hput.isDirectory, hput.child,
    fun other hne => (hput.other other hne).trans (h.other other hne)⟩

lemma Replaced.trusted {node' : Node} (h : Replaced node name child node')
    (ht : node.trusted uid = true) : node'.trusted uid = true := by
  have hd := isDirectory_of_trusted ht
  simp only [Node.trusted, h.stat, h.isDirectory, hd] at ht ⊢
  exact ht

lemma trusted_directory (hm : mode &&& 0o022 = 0) (entries : List (Bytes × Node)) :
    (directory { uid, mode } entries).trusted uid = true := by
  simp [trusted, isDirectory, stat, hm]

lemma directoryFor_trusted (hm : mode &&& 0o022 = 0)
    (h : node.directoryFor uid mode name = some child) : child.trusted uid = true := by
  unfold directoryFor at h
  split at h
  · obtain rfl := Option.some.inj h
    exact trusted_directory hm []
  · obtain ⟨ht, he⟩ := Option.ite_none_right_eq_some.mp h
    obtain rfl := Option.some.inj he
    exact ht

lemma ensureDirectory_some (hd : node.isDirectory = true) (hm : mode &&& 0o022 = 0)
    (h : node.directoryFor uid mode name = some child) :
    (node.ensureDirectory uid mode name).2 = some child ∧
      Replaced node name child (node.ensureDirectory uid mode name).1 := by
  unfold directoryFor at h
  cases hc : node.child name with
  | none =>
    rw [hc] at h
    obtain rfl := Option.some.inj h
    have hput : Replaced node name (directory { uid, mode } []) _ := replaced_put hd
    have hopen : (node.put name (directory { uid, mode } [])).openDirectory name =
        .directory (directory { uid, mode } []) := by
      rw [openDirectory, hput.child]
      rfl
    simp only [ensureDirectory, hc, hopen, trusted_directory hm, if_true, true_and]
    exact hput
  | some found =>
    rw [hc] at h
    obtain ⟨ht, he⟩ := Option.ite_none_right_eq_some.mp h
    obtain rfl := Option.some.inj he
    have hopen : node.openDirectory name = .directory found := by
      rw [openDirectory, hc]
      exact if_pos (isDirectory_of_trusted ht)
    simp only [ensureDirectory, hc, hopen, ht, if_true, true_and]
    exact ⟨rfl, hd, hc, fun _ _ => rfl⟩

lemma ensureDirectory_none (h : node.directoryFor uid mode name = none) :
    node.ensureDirectory uid mode name = (node, none) := by
  unfold directoryFor at h
  cases hc : node.child name with
  | none =>
    rw [hc] at h
    cases h
  | some found =>
    rw [hc] at h
    have ht : found.trusted uid ≠ true := fun ht => by simp [ht] at h
    by_cases hd : found.isDirectory = true
    · simp [ensureDirectory, openDirectory, hc, hd, ht]
    · simp [ensureDirectory, openDirectory, hc, hd]

lemma child_of_openDirectory {child : Node} (h : node.openDirectory name = .directory child) :
    node.child name = some child := by
  rw [openDirectory] at h
  cases hc : node.child name with
  | none =>
    rw [hc] at h
    cases h
  | some found =>
    rw [hc] at h
    dsimp only at h
    split at h
    · rw [Opened.directory.inj h]
    · cases h

lemma ensureDirectory_cases : ((node.ensureDirectory uid mode name).1 = node ∨
      (node.ensureDirectory uid mode name).1 = node.put name (directory { uid, mode } [])) ∧
    ∀ child, (node.ensureDirectory uid mode name).2 = some child →
      (node.ensureDirectory uid mode name).1.child name = some child := by
  rw [ensureDirectory]
  cases node.child name with
  | none =>
    dsimp only
    split <;> rename_i hopen
    · refine ⟨.inr rfl, fun child hchild => ?_⟩
      rw [← (Option.ite_none_right_eq_some.mp hchild).2]
      exact child_of_openDirectory hopen
    · exact ⟨.inr rfl, fun child hchild => by cases hchild⟩
  | some found =>
    dsimp only
    split <;> rename_i hopen
    · refine ⟨.inl rfl, fun child hchild => ?_⟩
      rw [← (Option.ite_none_right_eq_some.mp hchild).2]
      exact child_of_openDirectory hopen
    · exact ⟨.inl rfl, fun child hchild => by cases hchild⟩

variable {α : Type} {failed : α} {action : Node → Node × α}

lemma within_some (hd : node.isDirectory = true) (hm : mode &&& 0o022 = 0)
    (h : node.directoryFor uid mode name = some child) :
    (node.within uid mode name failed action).2 = (action child).2 ∧
      Replaced node name (action child).1 (node.within uid mode name failed action).1 := by
  obtain ⟨hopened, hreplaced⟩ := ensureDirectory_some hd hm h
  rw [within]
  split <;> rename_i heq
  · rw [heq] at hopened
    cases hopened
  · rw [heq] at hopened hreplaced
    obtain rfl := Option.some.inj hopened
    exact ⟨rfl, hreplaced.put⟩

lemma within_none (h : node.directoryFor uid mode name = none) :
    node.within uid mode name failed action = (node, failed) := by
  rw [within, ensureDirectory_none h]

end

section

variable {uid mode : ℕ} {file : Node} {node : Node} {path : Path}

lemma createFile_trusted (hm : mode &&& 0o022 = 0) (ht : node.trusted uid = true) :
    (createFile uid mode file node path).1.trusted uid = true := by
  induction path generalizing node with
  | nil => exact ht
  | cons name path ih =>
    cases path with
    | nil =>
      rw [createFile]
      split
      · exact trusted_put.trans ht
      · exact ht
    | cons next path =>
      rw [createFile]
      cases hc : node.directoryFor uid mode name with
      | none => exact (within_none hc).symm ▸ ht
      | some child => exact (within_some (isDirectory_of_trusted ht) hm hc).2.trusted ht

lemma createFile_ok (hm : mode &&& 0o022 = 0) (hd : node.isDirectory = true) :
    (createFile uid mode file node path).2 = true ↔ node.Vacant uid mode path := by
  induction path generalizing node with
  | nil => simp [createFile, Vacant]
  | cons name path ih =>
    cases path with
    | nil =>
      rw [createFile, Vacant]
      cases node.child name <;> simp
    | cons next path =>
      rw [createFile, Vacant]
      cases hc : node.directoryFor uid mode name with
      | none => simp [within_none hc]
      | some child =>
        rw [(within_some hd hm hc).1, ih (isDirectory_of_trusted (directoryFor_trusted hm hc))]
        simp

/-- Neither path runs through the other. -/
def Apart (path other : Path) : Prop := ¬ path <+: other ∧ ¬ other <+: path

instance (path other : Path) : Decidable (Apart path other) := inferInstanceAs (Decidable (_ ∧ _))

lemma Replaced.directoryFor {name other : Bytes} {child node' : Node}
    (h : Replaced node name child node') (hne : other ≠ name) :
    node'.directoryFor uid mode other = node.directoryFor uid mode other := by
  rw [Node.directoryFor, h.other other hne, Node.directoryFor]

lemma Replaced.vacant_of_ne {name other : Bytes} {child node' : Node} {rest : Path}
    (h : Replaced node name child node') (hne : other ≠ name) :
    node'.Vacant uid mode (other :: rest) ↔ node.Vacant uid mode (other :: rest) := by
  cases rest with
  | nil => rw [Vacant, Vacant, h.other other hne]
  | cons next rest => rw [Vacant, Vacant, h.directoryFor hne]

lemma apart_of_ne {name other : Bytes} {path rest : Path} (hne : other ≠ name) :
    Apart (name :: path) (other :: rest) :=
  ⟨fun h => hne (List.cons_prefix_cons.mp h).1.symm, fun h => hne (List.cons_prefix_cons.mp h).1⟩

lemma apart_cons {name : Bytes} {path rest : Path} :
    Apart (name :: path) (name :: rest) ↔ Apart path rest := by
  simp [Apart]

lemma not_apart_nil {path : Path} : ¬ Apart path [] := fun h => h.2 (List.nil_prefix)

inductive Created (uid mode : ℕ) (file node : Node) (name : Bytes) : Path → Node → Prop
  | file : node.child name = none → Created uid mode file node name [] file
  | inside (next : Bytes) (path : Path) (child : Node) :
      node.directoryFor uid mode name = some child →
      (createFile uid mode file child (next :: path)).2 = true →
      Created uid mode file node name (next :: path) (createFile uid mode file child (next :: path)).1

lemma createFile_cons (hm : mode &&& 0o022 = 0) (hd : node.isDirectory = true) {name : Bytes}
    (hok : (createFile uid mode file node (name :: path)).2 = true) :
    ∃ child, Replaced node name child (createFile uid mode file node (name :: path)).1 ∧
      Created uid mode file node name path child := by
  cases path with
  | nil =>
    rw [createFile] at hok ⊢
    cases hc : node.child name with
    | none => exact ⟨file, replaced_put hd, .file hc⟩
    | some found => simp [hc] at hok
  | cons next path =>
    rw [createFile] at hok ⊢
    cases hc : node.directoryFor uid mode name with
    | none => simp [within_none hc] at hok
    | some child =>
      refine ⟨_, (within_some hd hm hc).2, .inside next path child hc ?_⟩
      rw [(within_some hd hm hc).1] at hok
      exact hok

lemma vacant_createFile (hm : mode &&& 0o022 = 0) (hd : node.isDirectory = true)
    (hfile : file.isDirectory = false) (hok : (createFile uid mode file node path).2 = true)
    {other : Path} :
    (createFile uid mode file node path).1.Vacant uid mode other ↔
      node.Vacant uid mode other ∧ Apart path other := by
  induction path generalizing node other with
  | nil => cases hok
  | cons name path ih =>
    obtain ⟨child, hreplaced, hcreated⟩ := createFile_cons hm hd hok
    cases other with
    | nil => simp [Vacant]
    | cons other rest =>
      by_cases hne : other = name
      · subst hne
        rw [apart_cons]
        cases rest with
        | nil =>
          -- a name that has a meaning now is not free
          have hfree : ¬ Apart path [] := not_apart_nil
          simp [Vacant, hreplaced.child, hfree]
        | cons next rest =>
          rw [Vacant, Vacant, Node.directoryFor, hreplaced.child]
          cases hcreated with
          | file hnone =>
            have hnot : file.trusted uid ≠ true := fun h => by simp [trusted, hfile] at h
            simp [hnot, Apart]
          | inside first tail child hchild hrest =>
            have ht := directoryFor_trusted hm hchild
            have htrusted : (createFile uid mode file child (first :: tail)).1.trusted uid = true :=
              createFile_trusted hm ht
            simp only [htrusted, if_true, hchild, Option.some.injEq, exists_eq_left']
            exact ih (isDirectory_of_trusted ht) hrest
      · simp [hreplaced.vacant_of_ne hne, apart_of_ne hne]

lemma Replaced.openFile_of_ne {name other : Bytes} {child node' : Node} {rest : Path}
    (h : Replaced node name child node') (hne : other ≠ name) :
    openFile uid node' (other :: rest) = openFile uid node (other :: rest) := by
  cases rest with
  | nil => exact h.other other hne
  | cons next rest => rw [openFile, openFile, h.other other hne]

lemma openFile_createFile_self (hm : mode &&& 0o022 = 0) (hd : node.isDirectory = true)
    (hok : (createFile uid mode file node path).2 = true) :
    openFile uid (createFile uid mode file node path).1 path = some file := by
  induction path generalizing node with
  | nil => cases hok
  | cons name path ih =>
    obtain ⟨child, hreplaced, hcreated⟩ := createFile_cons hm hd hok
    cases hcreated with
    | file hnone => exact hreplaced.child
    | inside next path child hchild hrest =>
      have ht := directoryFor_trusted hm hchild
      rw [openFile, hreplaced.child]
      simp only [createFile_trusted hm ht, if_true]
      exact ih (isDirectory_of_trusted ht) hrest

lemma openFile_createFile_other (hm : mode &&& 0o022 = 0) (hd : node.isDirectory = true)
    (hok : (createFile uid mode file node path).2 = true) {other : Path} {found : Node}
    (hfound : found.isDirectory = false) (hopen : openFile uid node other = some found) :
    openFile uid (createFile uid mode file node path).1 other = some found := by
  induction path generalizing node other with
  | nil => cases hok
  | cons name path ih =>
    obtain ⟨child, hreplaced, hcreated⟩ := createFile_cons hm hd hok
    cases other with
    | nil => cases hopen
    | cons other rest =>
      by_cases hne : other = name
      · subst hne
        cases hcreated with
        | file hnone =>
          cases rest with
          | nil => exact absurd hopen (by simp [openFile, hnone])
          | cons next rest => simp [openFile, hnone] at hopen
        | inside next path child hchild hrest =>
          have ht := directoryFor_trusted hm hchild
          have hctrusted : (createFile uid mode file child (next :: path)).1.trusted uid = true :=
            createFile_trusted hm ht
          unfold directoryFor at hchild
          cases hc : node.child other with
          | none => cases rest <;> simp [openFile, hc] at hopen
          | some existing =>
            rw [hc] at hchild
            obtain ⟨-, he⟩ := Option.ite_none_right_eq_some.mp hchild
            obtain rfl := Option.some.inj he
            cases rest with
            | nil =>
              rw [openFile, hc] at hopen
              obtain rfl := Option.some.inj hopen
              exact absurd (isDirectory_of_trusted ht) (by simp [hfound])
            | cons second rest =>
              rw [openFile, hc] at hopen
              rw [openFile, hreplaced.child]
              simp only [ht, hctrusted, if_true] at hopen ⊢
              exact ih (isDirectory_of_trusted ht) hrest hopen
      · rw [hreplaced.openFile_of_ne hne]
        exact hopen

end

section

variable {uid : ℕ} {node : Node} {path other : Path} {f : Node → Node}

lemma lookup_update_apart (h : Apart path other) : (node.update path f).lookup other = node.lookup other := by
  induction path generalizing node other with
  | nil => exact absurd List.nil_prefix h.1
  | cons name path ih =>
    cases other with
    | nil => exact absurd h not_apart_nil
    | cons next rest =>
      rw [update]
      cases hc : node.child name with
      | none => rfl
      | some child =>
        by_cases hne : next = name
        · subst hne
          rw [lookup_cons (child_put_self (isDirectory_of_child hc)), lookup_cons hc]
          exact ih (apart_cons.mp h)
        · simp only [lookup, child_put_of_ne hne]

lemma openTrusted_update_apart (h : Apart path other) :
    (node.update path f).openTrusted uid other = node.openTrusted uid other := by
  induction path generalizing node other with
  | nil => exact absurd List.nil_prefix h.1
  | cons name path ih =>
    cases other with
    | nil => exact absurd h not_apart_nil
    | cons next rest =>
      rw [update]
      cases hc : node.child name with
      | none => rfl
      | some child =>
        apply Option.ext
        intro target
        rw [openTrusted_cons_iff, openTrusted_cons_iff, trusted_put]
        by_cases hne : next = name
        · subst hne
          simp [child_put_self (isDirectory_of_child hc), hc, ih (apart_cons.mp h)]
        · rw [child_put_of_ne hne]

end

def createFiles (uid mode : ℕ) : Node → List (Path × Node) → Node × Bool
  | node, [] => (node, true)
  | node, (path, leaf) :: files =>
    match createFile uid mode leaf node path with
    | (node, true) => createFiles uid mode node files
    | (node, false) => (node, false)

section

variable {uid mode : ℕ} {node : Node} {files : List (Path × Node)}

lemma createFiles_cons {path : Path} {file : Node} (hok : (createFile uid mode file node path).2 = true) :
    createFiles uid mode node ((path, file) :: files) =
      createFiles uid mode (createFile uid mode file node path).1 files := by
  rw [createFiles]
  split <;> rename_i heq
  · rw [heq]
  · simp [heq] at hok

lemma createFiles_ok_cons {path : Path} {file : Node} :
    (createFiles uid mode node ((path, file) :: files)).2 = true ↔
      (createFile uid mode file node path).2 = true ∧
        (createFiles uid mode (createFile uid mode file node path).1 files).2 = true := by
  constructor
  · intro h
    have hok : (createFile uid mode file node path).2 = true := by
      rw [createFiles] at h
      split at h <;> rename_i heq
      · rw [heq]
      · cases h
    exact ⟨hok, createFiles_cons hok ▸ h⟩
  · rintro ⟨hok, h⟩
    rw [createFiles_cons hok]
    exact h

lemma createFiles_append {others : List (Path × Node)} :
    createFiles uid mode node (files ++ others) =
      match createFiles uid mode node files with
      | (node, true) => createFiles uid mode node others
      | (node, false) => (node, false) := by
  induction files generalizing node with
  | nil => rfl
  | cons entry files ih =>
    obtain ⟨path, leaf⟩ := entry
    rw [List.cons_append, createFiles, createFiles]
    match createFile uid mode leaf node path with
    | (node, true) => exact ih
    | (node, false) => rfl

lemma createFiles_ok (hm : mode &&& 0o022 = 0) (ht : node.trusted uid = true)
    (hfiles : ∀ entry ∈ files, entry.2.isDirectory = false) :
    (createFiles uid mode node files).2 = true ↔
      (∀ entry ∈ files, node.Vacant uid mode entry.1) ∧ (files.map Prod.fst).Pairwise Apart := by
  induction files generalizing node with
  | nil => simp [createFiles]
  | cons entry files ih =>
    obtain ⟨path, file⟩ := entry
    obtain ⟨hfile, hrest⟩ := List.forall_mem_cons.mp hfiles
    have hd := isDirectory_of_trusted ht
    rw [createFiles_ok_cons, List.forall_mem_cons, List.map_cons, List.pairwise_cons,
      createFile_ok hm hd]
    constructor
    · rintro ⟨hvacant, hothers⟩
      have hok : (createFile uid mode file node path).2 = true := (createFile_ok hm hd).mpr hvacant
      obtain ⟨hall, hpairwise⟩ := (ih (createFile_trusted hm ht) hrest).mp hothers
      have hboth := fun entry hentry => (vacant_createFile hm hd hfile hok).mp (hall entry hentry)
      refine ⟨⟨hvacant, fun entry hentry => (hboth entry hentry).1⟩, ?_, hpairwise⟩
      intro other hother
      obtain ⟨entry, hentry, rfl⟩ := List.mem_map.mp hother
      exact (hboth entry hentry).2
    · rintro ⟨⟨hvacant, hall⟩, hapart, hpairwise⟩
      have hok : (createFile uid mode file node path).2 = true := (createFile_ok hm hd).mpr hvacant
      refine ⟨hvacant, (ih (createFile_trusted hm ht) hrest).mpr ⟨?_, hpairwise⟩⟩
      intro entry hentry
      apply (vacant_createFile hm hd hfile hok).mpr
      exact ⟨hall entry hentry, hapart entry.1 (List.mem_map_of_mem hentry)⟩

lemma createFiles_trusted (hm : mode &&& 0o022 = 0) (ht : node.trusted uid = true) :
    (createFiles uid mode node files).1.trusted uid = true := by
  induction files generalizing node with
  | nil => exact ht
  | cons entry files ih =>
    obtain ⟨path, file⟩ := entry
    have hcreated : (createFile uid mode file node path).1.trusted uid = true :=
      createFile_trusted hm ht
    rw [createFiles]
    split <;> rename_i heq
    · rw [heq] at hcreated
      exact ih hcreated
    · rw [heq] at hcreated
      exact hcreated

lemma openFile_createFiles_other (hm : mode &&& 0o022 = 0) (ht : node.trusted uid = true)
    (hok : (createFiles uid mode node files).2 = true) {other : Path} {found : Node}
    (hfound : found.isDirectory = false) (hopen : openFile uid node other = some found) :
    openFile uid (createFiles uid mode node files).1 other = some found := by
  induction files generalizing node with
  | nil => exact hopen
  | cons entry files ih =>
    obtain ⟨path, file⟩ := entry
    obtain ⟨hfirst, hrest⟩ := createFiles_ok_cons.mp hok
    rw [createFiles_cons hfirst]
    exact ih (createFile_trusted hm ht) hrest
      (openFile_createFile_other hm (isDirectory_of_trusted ht) hfirst hfound hopen)

lemma openFile_createFiles (hm : mode &&& 0o022 = 0) (ht : node.trusted uid = true)
    (hfiles : ∀ entry ∈ files, entry.2.isDirectory = false)
    (hok : (createFiles uid mode node files).2 = true) :
    ∀ entry ∈ files, openFile uid (createFiles uid mode node files).1 entry.1 = some entry.2 := by
  induction files generalizing node with
  | nil => simp
  | cons entry files ih =>
    obtain ⟨path, file⟩ := entry
    obtain ⟨hfile, hothers⟩ := List.forall_mem_cons.mp hfiles
    obtain ⟨hfirst, hrest⟩ := createFiles_ok_cons.mp hok
    have hcreated : (createFile uid mode file node path).1.trusted uid = true :=
      createFile_trusted hm ht
    rw [createFiles_cons hfirst]
    refine List.forall_mem_cons.mpr ⟨?_, ih hcreated hothers hrest⟩
    exact openFile_createFiles_other hm hcreated hrest hfile
      (openFile_createFile_self hm (isDirectory_of_trusted ht) hfirst)

lemma vacant_empty {stat : Stat} {path : Path} (hpath : path ≠ []) :
    (directory stat []).Vacant uid mode path := by
  induction path generalizing stat with
  | nil => exact absurd rfl hpath
  | cons name path ih =>
    cases path with
    | nil => rfl
    | cons next path => exact ⟨_, rfl, ih (by simp)⟩

end

/-- An action in the directory a path leads to, created on the way where its names are free. -/
def inside {α : Type} (uid mode : ℕ) (failed : α) (action : Node → Node × α) : Node → Path → Node × α
  | node, [] => action node
  | node, name :: path =>
    node.within uid mode name failed fun child => inside uid mode failed action child path

def directoryAt (uid mode : ℕ) : Node → Path → Option Node
  | node, [] => some node
  | node, name :: path =>
    (node.directoryFor uid mode name).bind fun child => directoryAt uid mode child path

section

variable {α : Type} {uid mode : ℕ} {failed : α} {action : Node → Node × α} {node target : Node}
  {path : Path}

lemma directoryAt_cons {name : Bytes} (h : node.directoryAt uid mode (name :: path) = some target) :
    ∃ child, node.directoryFor uid mode name = some child ∧
      child.directoryAt uid mode path = some target := Option.bind_eq_some_iff.mp h

lemma inside_cons (failed : α) (action : Node → Node × α) (path : Path) (hm : mode &&& 0o022 = 0)
    (ht : node.trusted uid = true) {name : Bytes} {child : Node}
    (h : node.directoryFor uid mode name = some child) :
    (inside uid mode failed action node (name :: path)).2 = (inside uid mode failed action child path).2 ∧
      Replaced node name (inside uid mode failed action child path).1
        (inside uid mode failed action node (name :: path)).1 :=
  within_some (isDirectory_of_trusted ht) hm h

lemma inside_some (hm : mode &&& 0o022 = 0) (ht : node.trusted uid = true)
    (h : node.directoryAt uid mode path = some target) :
    (inside uid mode failed action node path).2 = (action target).2 := by
  induction path generalizing node with
  | nil =>
    obtain rfl := Option.some.inj h
    rfl
  | cons name path ih =>
    obtain ⟨child, hchild, hrest⟩ := directoryAt_cons h
    rw [(inside_cons failed action path hm ht hchild).1]
    exact ih (directoryFor_trusted hm hchild) hrest

lemma inside_none (hm : mode &&& 0o022 = 0) (ht : node.trusted uid = true)
    (h : node.directoryAt uid mode path = none) :
    (inside uid mode failed action node path).2 = failed := by
  induction path generalizing node with
  | nil => cases h
  | cons name path ih =>
    rw [directoryAt] at h
    cases hc : node.directoryFor uid mode name with
    | none => rw [inside, within_none hc]
    | some child =>
      rw [hc] at h
      rw [(inside_cons failed action path hm ht hc).1]
      exact ih (directoryFor_trusted hm hc) h

lemma openTrusted_cons {name : Bytes} {child : Node} (ht : node.trusted uid = true)
    (hc : node.child name = some child) (hchild : child.isDirectory = true) :
    node.openTrusted uid (name :: path) = child.openTrusted uid path := by
  simp [openTrusted, ht, openDirectory, hc, hchild]

lemma directoryAt_trusted (hm : mode &&& 0o022 = 0) (ht : node.trusted uid = true)
    (h : node.directoryAt uid mode path = some target) : target.trusted uid = true := by
  induction path generalizing node with
  | nil =>
    obtain rfl := Option.some.inj h
    exact ht
  | cons name path ih =>
    obtain ⟨child, hchild, hrest⟩ := directoryAt_cons h
    exact ih (directoryFor_trusted hm hchild) hrest

lemma inside_trusted (hm : mode &&& 0o022 = 0) (ht : node.trusted uid = true)
    (haction : ∀ target, target.trusted uid = true → (action target).1.trusted uid = true) :
    (inside uid mode failed action node path).1.trusted uid = true := by
  cases path with
  | nil => exact haction node ht
  | cons name path =>
    cases hc : node.directoryFor uid mode name with
    | none =>
      rw [inside, within_none hc]
      exact ht
    | some child => exact (inside_cons failed action path hm ht hc).2.trusted ht

lemma openTrusted_inside (hm : mode &&& 0o022 = 0) (ht : node.trusted uid = true)
    (haction : ∀ target, target.trusted uid = true → (action target).1.trusted uid = true)
    (h : node.directoryAt uid mode path = some target) :
    (inside uid mode failed action node path).1.openTrusted uid path = some (action target).1 := by
  induction path generalizing node with
  | nil =>
    obtain rfl := Option.some.inj h
    exact if_pos (haction node ht)
  | cons name path ih =>
    obtain ⟨child, hchild, hrest⟩ := directoryAt_cons h
    have hct := directoryFor_trusted hm hchild
    have hreplaced := (inside_cons failed action path hm ht hchild).2
    rw [openTrusted_cons (hreplaced.trusted ht) hreplaced.child
      (isDirectory_of_trusted (inside_trusted hm hct haction))]
    exact ih hct hrest

lemma directoryFor_lookup {name : Bytes} {child : Node} {rest : Path}
    (h : node.directoryFor uid mode name = some child) (hrest : rest ≠ []) :
    node.lookup (name :: rest) = child.lookup rest := by
  unfold directoryFor at h
  cases hc : node.child name with
  | none =>
    rw [hc] at h
    obtain rfl := Option.some.inj h
    obtain ⟨next, rest, rfl⟩ := List.exists_cons_of_ne_nil hrest
    rw [lookup, hc]
    rfl
  | some found =>
    rw [hc] at h
    obtain rfl := Option.some.inj (Option.ite_none_right_eq_some.mp h).2
    simp [lookup, hc]

lemma directoryAt_lookup {rest : Path} (h : node.directoryAt uid mode path = some target)
    (hrest : rest ≠ []) : node.lookup (path ++ rest) = target.lookup rest := by
  induction path generalizing node with
  | nil =>
    obtain rfl := Option.some.inj h
    rfl
  | cons name path ih =>
    obtain ⟨child, hchild, hpath⟩ := directoryAt_cons h
    rw [List.cons_append, directoryFor_lookup hchild (by simp [hrest])]
    exact ih hpath

lemma inside_lookup (hm : mode &&& 0o022 = 0) (ht : node.trusted uid = true) {rest : Path}
    (h : node.directoryAt uid mode path = some target) :
    (inside uid mode failed action node path).1.lookup (path ++ rest) =
      (action target).1.lookup rest := by
  induction path generalizing node with
  | nil =>
    obtain rfl := Option.some.inj h
    rfl
  | cons name path ih =>
    obtain ⟨child, hchild, hpath⟩ := directoryAt_cons h
    rw [List.cons_append, lookup, (inside_cons failed action path hm ht hchild).2.child]
    exact ih (directoryFor_trusted hm hchild) hpath

lemma inside_lookup_none (hm : mode &&& 0o022 = 0) (ht : node.trusted uid = true) {rest : Path}
    (h : node.directoryAt uid mode path = none) (hrest : rest ≠ []) :
    (inside uid mode failed action node path).1.lookup (path ++ rest) = node.lookup (path ++ rest) := by
  induction path generalizing node with
  | nil => cases h
  | cons name path ih =>
    rw [directoryAt] at h
    cases hc : node.directoryFor uid mode name with
    | none => rw [inside, within_none hc]
    | some child =>
      rw [hc] at h
      rw [List.cons_append, directoryFor_lookup hc (by simp [hrest]), lookup,
        (inside_cons failed action path hm ht hc).2.child]
      exact ih (directoryFor_trusted hm hc) h

lemma inside_lookup_apart (hm : mode &&& 0o022 = 0) (ht : node.trusted uid = true) {other : Path}
    (hapart : Apart path other) :
    (inside uid mode failed action node path).1.lookup other = node.lookup other := by
  induction path generalizing node other with
  | nil => exact absurd (List.nil_prefix) hapart.1
  | cons name path ih =>
    cases hc : node.directoryFor uid mode name with
    | none => rw [inside, within_none hc]
    | some child =>
      have hreplaced := (inside_cons failed action path hm ht hc).2
      cases other with
      | nil => exact absurd hapart not_apart_nil
      | cons other rest =>
        by_cases hne : other = name
        · subst hne
          have hrest := apart_cons.mp hapart
          have hne : rest ≠ [] := by
            rintro rfl
            exact not_apart_nil hrest
          rw [lookup, hreplaced.child, directoryFor_lookup hc hne]
          exact ih (directoryFor_trusted hm hc) hrest
        · rw [lookup, lookup, hreplaced.other other hne]

end

end Node

end Foundation

import LvglPlatform.Foundation.TreeSteps

namespace Foundation

namespace Node

structure Beside (uid : ℕ) (path : Path) (before node : Node) : Prop where
  trusted : node.trusted uid = true
  walk : ∀ other, Apart path other → node.walk uid other = before.walk uid other
  lookup : ∀ other, Apart path other → node.lookup other = before.lookup other

/-- No name of the kind means two nodes of a directory. -/
def Distinct (kind : Bytes → Bool) (node : Node) : Prop := ((node.entries.map Prod.fst).filter kind).Nodup

section

variable {α : Type} {uid mode : ℕ} {failed : α} {action : Steps Node α} {node child target : Node}
  {name : Bytes} {path other rest : Path}

lemma beside_nil (ht : node.trusted uid = true) : Beside uid [] target node :=
  ⟨ht, fun _ h => absurd List.nil_prefix h.1, fun _ h => absurd List.nil_prefix h.1⟩

lemma walk_child (ht : node.trusted uid = true) (hc : node.child name = some child)
    (hct : child.trusted uid = true) : node.walk uid (name :: path) = child.walk uid path := by
  simp [walk, ht, openDirectory, hc, isDirectory_of_trusted hct]

lemma walk_within (hc : node.child name = some child) (hd : child.isDirectory = true) :
    node.walk uid (name :: path) = if node.trusted uid then child.walk uid path else .refused := by
  simp [walk, openDirectory, hc, hd]

lemma walk_absent (ht : node.trusted uid = true) (hc : node.child name = none) :
    node.walk uid (name :: path) = .missing := by
  simp [walk, ht, openDirectory, hc]

lemma walk_empty (hm : mode &&& 0o022 = 0) (hpath : path ≠ []) :
    (directory { uid, mode } []).walk uid path = .missing := by
  cases path with
  | nil => exact absurd rfl hpath
  | cons name path => exact walk_absent (trusted_directory hm []) rfl

lemma Apart.ne_nil (h : Apart path other) : other ≠ [] := by
  rintro rfl
  exact not_apart_nil h

lemma Beside.within (hm : mode &&& 0o022 = 0) (ht : node.trusted uid = true)
    (hchild : node.directoryFor uid mode name = some child) (h : Beside uid path child target)
    {node' : Node} (hreplaced : Replaced node name target node') :
    Beside uid (name :: path) node node' := by
  have hct := directoryFor_trusted hm hchild
  refine ⟨hreplaced.trusted ht, fun other hother => ?_, fun other hother => ?_⟩
  · cases other with
    | nil => exact absurd hother not_apart_nil
    | cons next rest =>
      by_cases hnext : next = name
      · subst hnext
        have hrest := apart_cons.mp hother
        rw [hreplaced.walk ht (isDirectory_of_trusted h.trusted), h.walk rest hrest]
        rw [Node.directoryFor] at hchild
        cases hc : node.child next with
        | none =>
          rw [hc] at hchild
          obtain rfl := Option.some.inj hchild
          rw [walk_absent ht hc, walk_empty hm hrest.ne_nil]
        | some found =>
          rw [hc] at hchild
          obtain rfl : found = child := by simpa using (Option.ite_none_right_eq_some.mp hchild).2
          exact (walk_child ht hc hct).symm
      · rw [Node.walk, Node.walk, hreplaced.trusted ht, ht, openDirectory, openDirectory,
          hreplaced.other next hnext]
  · cases other with
    | nil => exact absurd hother not_apart_nil
    | cons next rest =>
      by_cases hnext : next = name
      · subst hnext
        have hrest := apart_cons.mp hother
        rw [lookup_cons hreplaced.child, h.lookup rest hrest]
        exact (directoryFor_lookup hchild hrest.ne_nil).symm
      · rw [Node.lookup, Node.lookup, hreplaced.other next hnext]

/-- A computation in the directory of a path leaves the paths that lead elsewhere as they are. -/
lemma insideSteps_beside (hm : mode &&& 0o022 = 0) (ht : node.trusted uid = true)
    (haction : ∀ target, node.directoryAt uid mode path = some target → Steps.Spec target action
      (fun t => t.trusted uid = true) fun _ t => t.trusted uid = true) :
    Steps.Spec node (insideSteps uid mode failed action path) (Beside uid path node)
      fun _ => Beside uid path node := by
  induction path generalizing node with
  | nil => exact (haction node rfl).weaken (fun _ => beside_nil) fun _ _ => beside_nil
  | cons name path ih =>
    cases hc : node.directoryFor uid mode name with
    | none => exact withinSteps_none hc ⟨ht, fun _ _ => rfl, fun _ _ => rfl⟩
    | some child =>
      have hct := directoryFor_trusted hm hc
      refine withinSteps_spec hm (isDirectory_of_trusted ht) hc ⟨hct, fun _ _ => rfl, fun _ _ => rfl⟩
        (ih hct fun target htarget => haction target (by rw [directoryAt, hc]; exact htarget)) ?_
      intro t node' hbeside hreplaced
      exact hbeside.within hm ht hc hreplaced

lemma distinct_put {kind : Bytes → Bool} (h : Distinct kind node) : Distinct kind (node.put name child) := by
  cases node with
  | file stat content => exact h
  | other stat => exact h
  | directory stat entries =>
    rw [put]
    split <;> rename_i hany
    · have hnames : (entries.map fun entry => if entry.1 = name then (name, child) else entry).map Prod.fst =
          entries.map Prod.fst := by
        rw [List.map_map]
        refine List.map_congr_left fun entry _ => ?_
        by_cases he : entry.1 = name
        · simp [he]
        · simp [he]
      rw [Distinct, Node.entries, hnames]
      exact h
    · have hfresh : name ∉ entries.map Prod.fst := by
        intro hmem
        obtain ⟨entry, hentry, rfl⟩ := List.mem_map.mp hmem
        exact hany (List.any_eq_true.mpr ⟨entry, hentry, decide_eq_true rfl⟩)
      rw [Distinct, Node.entries, List.map_append, List.filter_append]
      refine List.nodup_append.mpr ⟨h, (List.nodup_singleton name).filter _, ?_⟩
      rintro other hother _ hsingle rfl
      obtain rfl := List.mem_singleton.mp (List.mem_of_mem_filter hsingle)
      exact hfresh (List.mem_of_mem_filter hother)

lemma withinSteps_distinct {kind : Bytes → Bool} (h : Distinct kind node) :
    Steps.Spec node (withinSteps uid mode name failed action) (Distinct kind) fun _ => Distinct kind := by
  have hensured : Distinct kind (node.ensureDirectory uid mode name).1 := by
    obtain ⟨he | he, -⟩ : (_ ∨ (node.ensureDirectory uid mode name).1 = _) ∧ _ := ensureDirectory_cases
    · rw [he]
      exact h
    · rw [he]
      exact distinct_put h
  refine Steps.spec_bind (ensureDirectorySteps_spec hensured ?_)
  cases (node.ensureDirectory uid mode name).2 with
  | none => exact Steps.spec_pure hensured
  | some child =>
    refine Steps.spec_zoom ⟨fun t _ => distinct_put hensured, distinct_put hensured⟩

lemma insideSteps_distinct {kind : Bytes → Bool} {next : Bytes} (hm : mode &&& 0o022 = 0)
    (ht : node.trusted uid = true) (h : ∀ child, node.child name = some child → Distinct kind child) :
    Steps.Spec node (insideSteps uid mode failed action (name :: next :: path))
      (fun after => ∀ child, after.child name = some child → Distinct kind child)
      fun _ after => ∀ child, after.child name = some child → Distinct kind child := by
  cases hc : node.directoryFor uid mode name with
  | none => exact withinSteps_none hc h
  | some child =>
    have hchild : Distinct kind child := by
      rw [directoryFor] at hc
      split at hc
      · obtain rfl := Option.some.inj hc
        exact List.nodup_nil
      · rename_i found hfound
        obtain rfl : found = child := by simpa using (Option.ite_none_right_eq_some.mp hc).2
        exact h found hfound
    refine withinSteps_spec hm (isDirectory_of_trusted ht) hc hchild (withinSteps_distinct hchild) ?_
    intro t node' hdistinct hreplaced child hfound
    obtain rfl := Option.some.inj (hfound.symm.trans hreplaced.child)
    exact hdistinct

lemma child_of_mem {kind : Bytes → Bool} (h : Distinct kind node) (hname : kind name = true)
    (hmem : (name, child) ∈ node.entries) : node.child name = some child := by
  rw [Distinct] at h
  rw [Node.child]
  generalize node.entries = entries at h hmem
  induction entries with
  | nil => cases hmem
  | cons entry entries ih =>
    by_cases he : entry.1 = name
    · subst he
      rw [List.map_cons, List.filter_cons_of_pos hname, List.nodup_cons] at h
      rcases List.mem_cons.mp hmem with hfirst | hrest
      · rw [← hfirst]
        simp
      · exact absurd (List.mem_filter.mpr ⟨List.mem_map_of_mem hrest, hname⟩) h.1
    · rw [List.find?_cons_of_neg (by simpa using he)]
      refine ih (h.sublist ?_) ?_
      · rw [List.map_cons]
        exact (List.sublist_cons_self _ _).filter _
      · rcases List.mem_cons.mp hmem with rfl | hrest
        · exact absurd rfl he
        · exact hrest

lemma mem_of_child (h : node.child name = some child) : (name, child) ∈ node.entries := by
  obtain ⟨entry, hfind, rfl⟩ := Option.map_eq_some_iff.mp h
  obtain rfl : entry.1 = name := by simpa using List.find?_some hfind
  exact List.mem_of_find?_eq_some hfind

lemma child_congr {kind : Bytes → Bool} (h : Distinct kind node) (hother : Distinct kind child)
    (hname : kind name = true)
    (hentries : ∀ target, (name, target) ∈ node.entries ↔ (name, target) ∈ child.entries) :
    node.child name = child.child name := by
  apply Option.ext
  intro target
  constructor
  · exact fun hfound => child_of_mem hother hname ((hentries target).mp (mem_of_child hfound))
  · exact fun hfound => child_of_mem h hname ((hentries target).mpr (mem_of_child hfound))

lemma walk_directory : node.walk uid path = .directory target ↔ node.openTrusted uid path = some target := by
  induction path generalizing node with
  | nil =>
    by_cases ht : node.trusted uid = true
    · simp [walk, openTrusted, ht]
    · simp [walk, openTrusted, ht]
  | cons name path ih =>
    rw [walk, openTrusted]
    by_cases ht : node.trusted uid = true
    · rw [if_pos ht, if_pos ht]
      cases node.openDirectory name with
      | missing => simp
      | refused => simp
      | directory child => exact ih
    · simp [ht]

lemma directoryAt_walk (h : node.walk uid path = .directory target) :
    node.directoryAt uid mode path = some target := by
  induction path generalizing node with
  | nil =>
    rw [walk] at h
    split at h
    · exact congrArg some (Opened.directory.inj h)
    · cases h
  | cons name path ih =>
    obtain ⟨child, hc, hct, hrest⟩ := walk_cons h
    rw [directoryAt, directoryFor, hc]
    simp only [hct, if_true, Option.bind_some]
    exact ih hrest

lemma directoryAt_cases (ht : node.trusted uid = true) (h : node.directoryAt uid mode path = some target)
    (hm : mode &&& 0o022 = 0) : node.walk uid path = .directory target ∨
      node.walk uid path = .missing ∧ target = .directory { uid, mode } [] := by
  induction path generalizing node with
  | nil =>
    obtain rfl := Option.some.inj h
    exact Or.inl (if_pos ht)
  | cons name path ih =>
    obtain ⟨child, hchild, hrest⟩ := directoryAt_cons h
    have hct := directoryFor_trusted hm hchild
    cases hc : node.child name with
    | none =>
      rw [directoryFor, hc] at hchild
      obtain rfl := Option.some.inj hchild
      rw [directoryAt_new] at hrest
      exact Or.inr ⟨walk_absent ht hc, (Option.some.inj hrest).symm⟩
    | some found =>
      rw [directoryFor, hc] at hchild
      obtain rfl : found = child := by simpa using (Option.ite_none_right_eq_some.mp hchild).2
      rw [walk_child ht hc hct]
      exact ih hct hrest

lemma update_append (f : Node → Node) :
    node.update (path ++ rest) f = node.update path fun target => target.update rest f := by
  induction path generalizing node with
  | nil => rfl
  | cons name path ih =>
    rw [List.cons_append, update, update]
    cases node.child name with
    | none => rfl
    | some child => exact congrArg (node.put name) ih

lemma lookup_of_missing (h : node.walk uid path = .missing) (rest : Path) :
    node.lookup (path ++ rest) = none := by
  induction path generalizing node with
  | nil =>
    rw [walk] at h
    split at h
    · cases h
    · cases h
  | cons name path ih =>
    have ht : node.trusted uid = true := trusted_of_walk h (by simp)
    rw [List.cons_append]
    cases hc : node.child name with
    | none => rw [lookup, hc]
    | some child =>
      rw [lookup_cons hc]
      apply ih
      rw [walk, if_pos ht, openDirectory, hc] at h
      dsimp only at h
      by_cases hd : child.isDirectory = true
      · rwa [if_pos hd] at h
      · rw [if_neg hd] at h
        cases h

lemma lookup_of_walk (h : node.walk uid path = .directory target) (rest : Path) :
    node.lookup (path ++ rest) = target.lookup rest := by
  rw [lookup_append, openTrusted_lookup (walk_directory.mp h)]
  rfl

end

end Node

end Foundation

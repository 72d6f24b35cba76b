import LvglPlatform.Foundation.TreeRemoval

/-! Clearing the directories a parent holds under marked names. A sweep that is cut off by the limit
on names is repeated until nothing marked is left. -/

namespace Foundation

inductive NameKind
  | plain
  | marked
  | malformed
  deriving DecidableEq, Repr

/-- `opens` is asked of a marked directory itself, and the remover it gives of those below it. -/
structure Sweeper where
  kind : Bytes → NameKind
  opens : Stat → Bool
  remover : Stat → Remover
  levels : ℕ

namespace Sweeper

variable (S : Sweeper)

/-- The loop over the parent's names; one count of names serves all marked directories. -/
def sweepListing (order : ReadOrder) : ℕ → List (Bytes × Node) → Removal
  | nodes, [] => ⟨none, nodes, []⟩
  | nodes, (name, node) :: rest =>
    match S.kind name with
    | .plain =>
      let r := sweepListing order nodes rest
      { r with left := (name, node) :: r.left }
    | .malformed => ⟨some .refused, nodes, (name, node) :: rest⟩
    | .marked =>
      match node with
      | .directory stat below =>
        if S.opens stat then
          match (S.remover stat).removeContents order S.levels nodes below with
          | ⟨none, nodes, _⟩ => sweepListing order nodes rest
          | ⟨some failure, nodes, left⟩ => ⟨some failure, nodes, (name, .directory stat left) :: rest⟩
        else ⟨some .refused, nodes, (name, .directory stat below) :: rest⟩
      | node => ⟨some .refused, nodes, (name, node) :: rest⟩

def sweep (order : ReadOrder) (entries : List (Bytes × Node)) : Removal :=
  S.sweepListing order 0 (order.read entries)

def sweeps (orders : ℕ → ReadOrder) : ℕ → List (Bytes × Node) → List (Bytes × Node)
  | 0, entries => entries
  | n + 1, entries => (S.sweep (orders n) (sweeps orders n entries)).left

def marked (entry : Bytes × Node) : Bool := S.kind entry.1 = .marked

def weight (entries : List (Bytes × Node)) : ℕ :=
  (entries.map fun entry => if S.marked entry then entry.2.size else 0).sum

/-- No name is malformed, and every marked directory can be removed whole. -/
def Sweepable (entries : List (Bytes × Node)) : Prop :=
  ∀ entry ∈ entries, S.kind entry.1 ≠ .malformed ∧ (S.kind entry.1 = .marked →
    ∃ stat below, entry.2 = .directory stat below ∧ S.opens stat = true ∧
      (S.remover stat).Fits S.levels below)

/-- Some marked directory holds a chain of directories as long as the depth limit. -/
def Stuck (entries : List (Bytes × Node)) : Prop :=
  ∃ entry ∈ entries, S.kind entry.1 = .marked ∧ ∃ stat below, entry.2 = .directory stat below ∧
    Nested S.levels below

variable {S}

lemma weight_cons (entry : Bytes × Node) (entries : List (Bytes × Node)) :
    S.weight (entry :: entries) = (if S.marked entry then entry.2.size else 0) + S.weight entries := by
  simp [weight]

lemma weight_perm {entries others : List (Bytes × Node)} (h : entries.Perm others) :
    S.weight entries = S.weight others := (h.map _).sum_eq

lemma Sweepable.perm {entries others : List (Bytes × Node)} (h : S.Sweepable entries)
    (hperm : entries.Perm others) : S.Sweepable others :=
  fun entry hentry => h entry (hperm.mem_iff.mpr hentry)

lemma Stuck.perm {entries others : List (Bytes × Node)} (h : S.Stuck entries)
    (hperm : entries.Perm others) : S.Stuck others := by
  obtain ⟨entry, hentry, hstuck⟩ := h
  exact ⟨entry, hperm.mem_iff.mp hentry, hstuck⟩

/-- What a sweep leaves: nothing marked if it got through, and otherwise fewer nodes than it has
counted names. -/
structure Sweeps (S : Sweeper) (nodes : ℕ) (entries : List (Bytes × Node)) (r : Removal) : Prop where
  plain : (r.left.filter fun entry => !S.marked entry) = entries.filter fun entry => !S.marked entry
  done : r.failure = none → ∀ entry ∈ r.left, S.kind entry.1 ≠ .marked
  failed : r.failure ≠ none → r.nodes + S.weight r.left ≤ nodes + S.weight entries + S.levels
  tooMany : r.failure = some .tooMany → ∃ stat, (S.remover stat).nodeLimit < r.nodes
  sweepable : S.Sweepable entries →
    S.Sweepable r.left ∧ ∀ failure, r.failure = some failure → failure = .tooMany
  stuck : S.Stuck entries → r.failure ≠ none ∧ S.Stuck r.left

section

variable {nodes later : ℕ} {entry : Bytes × Node} {entries : List (Bytes × Node)} {r : Removal}

lemma stuck_cons (h : S.Stuck (entry :: entries)) (hfirst : ∀ stat below, S.kind entry.1 = .marked →
    entry.2 = .directory stat below → ¬ Nested S.levels below) : S.Stuck entries := by
  obtain ⟨other, hother, hmarked, stat, below, hnode, hnested⟩ := h
  rcases List.mem_cons.mp hother with rfl | hrest
  · exact absurd hnested (hfirst stat below hmarked hnode)
  · exact ⟨other, hrest, hmarked, stat, below, hnode, hnested⟩

lemma Sweepable.tail (h : S.Sweepable (entry :: entries)) : S.Sweepable entries :=
  fun other hother => h other (List.mem_cons_of_mem _ hother)

lemma Sweeps.keep (hkind : S.kind entry.1 = .plain) (h : Sweeps S nodes entries r) :
    Sweeps S nodes (entry :: entries) { r with left := entry :: r.left } := by
  have hmarked : S.marked entry = false := by simp [marked, hkind]
  refine ⟨?_, fun hd => ?_, fun hf => ?_, h.tooMany, fun hs => ?_, fun hs => ?_⟩
  · simp [hmarked, h.plain]
  · exact List.forall_mem_cons.mpr ⟨by simp [hkind], h.done hd⟩
  · have hcount := h.failed hf
    dsimp only
    rw [weight_cons, weight_cons]
    omega
  · obtain ⟨hleft, hcause⟩ := h.sweepable hs.tail
    exact ⟨List.forall_mem_cons.mpr ⟨hs entry List.mem_cons_self, hleft⟩, hcause⟩
  · have hrest := stuck_cons hs fun _ _ hm => by
      rw [hkind] at hm
      cases hm
    obtain ⟨hfailed, other, hother, hstuck⟩ := h.stuck hrest
    exact ⟨hfailed, other, List.mem_cons_of_mem _ hother, hstuck⟩

lemma Sweeps.gone (hkind : S.kind entry.1 = .marked) (hlater : later ≤ nodes + entry.2.size)
    (hflat : ∀ stat below, entry.2 = .directory stat below → ¬ Nested S.levels below)
    (h : Sweeps S later entries r) : Sweeps S nodes (entry :: entries) r := by
  have hmarked : S.marked entry = true := by simp [marked, hkind]
  refine ⟨?_, h.done, fun hf => ?_, h.tooMany, fun hs => h.sweepable hs.tail, fun hs => ?_⟩
  · simp [hmarked, h.plain]
  · have hcount := h.failed hf
    rw [weight_cons, if_pos hmarked]
    omega
  · exact h.stuck (stuck_cons hs fun stat below _ => hflat stat below)

lemma Sweeps.refused (h : S.Sweepable (entry :: entries) → False) :
    Sweeps S nodes (entry :: entries) ⟨some .refused, nodes, entry :: entries⟩ :=
  ⟨rfl, nofun, fun _ => by dsimp only; omega, nofun, fun hs => (h hs).elim, fun hs => ⟨nofun, hs⟩⟩

lemma Sweeps.stopped {name : Bytes} {stat : Stat} {below left : List (Bytes × Node)}
    {failure : RemovalFailure} (hkind : S.kind name = .marked)
    (hremoves : Remover.Removes (S.remover stat) S.levels nodes below ⟨some failure, later, left⟩)
    (hsticks : Nested S.levels below → Nested S.levels left) :
    Sweeps S nodes ((name, .directory stat below) :: entries)
      ⟨some failure, later, (name, .directory stat left) :: entries⟩ := by
  have hmarked : ∀ node, S.marked (name, node) = true := fun node => by simp [marked, hkind]
  refine ⟨?_, nofun, fun _ => ?_, fun hf => ⟨stat, hremoves.tooMany hf⟩, fun hs => ?_, fun hs => ?_⟩
  · simp [hmarked]
  · have hcount := hremoves.failed nofun
    dsimp only at hcount ⊢
    rw [weight_cons, weight_cons, if_pos (hmarked _), if_pos (hmarked _), size_directory, size_directory]
    omega
  · obtain ⟨hwell, hdirectory⟩ := hs _ List.mem_cons_self
    obtain ⟨stat', below', he, hopens, hfits⟩ := hdirectory hkind
    cases he
    obtain ⟨hleft, hcause⟩ := hremoves.fits hfits
    refine ⟨List.forall_mem_cons.mpr ⟨⟨hwell, fun _ => ?_⟩, hs.tail⟩, hcause⟩
    exact ⟨stat, left, rfl, hopens, hleft⟩
  · refine ⟨nofun, ?_⟩
    obtain ⟨other, hother, hm, stat', below', hnode, hnested⟩ := hs
    rcases List.mem_cons.mp hother with rfl | hrest
    · cases hnode
      exact ⟨_, List.mem_cons_self, hkind, stat, left, rfl, hsticks hnested⟩
    · exact ⟨other, List.mem_cons_of_mem _ hrest, hm, stat', below', hnode, hnested⟩

end

lemma sweepListing_sweeps (order : ReadOrder) (nodes : ℕ) (entries : List (Bytes × Node)) :
    Sweeps S nodes entries (S.sweepListing order nodes entries) := by
  induction entries generalizing nodes with
  | nil =>
    refine ⟨rfl, fun _ => nofun, fun hf => absurd rfl hf, nofun, fun h => ⟨h, nofun⟩, ?_⟩
    rintro ⟨entry, hentry, -⟩
    cases hentry
  | cons entry entries ih =>
    obtain ⟨name, node⟩ := entry
    rw [sweepListing.eq_def]
    dsimp only
    cases hkind : S.kind name with
    | plain => exact (ih nodes).keep hkind
    | malformed => exact .refused fun hs => (hs _ List.mem_cons_self).1 hkind
    | marked =>
      cases node with
      | file stat content =>
        refine .refused fun hs => ?_
        obtain ⟨_, _, he, -⟩ := (hs _ List.mem_cons_self).2 hkind
        cases he
      | other stat =>
        refine .refused fun hs => ?_
        obtain ⟨_, _, he, -⟩ := (hs _ List.mem_cons_self).2 hkind
        cases he
      | directory stat below =>
        dsimp only
        by_cases hopens : S.opens stat = true
        · rw [if_pos hopens]
          have hremoves := Remover.removeContents_removes (R := S.remover stat) order S.levels nodes below
          have hsticks : Nested S.levels below → Remover.Sticks S.levels
              ((S.remover stat).removeContents order S.levels nodes below) :=
            Remover.removeContents_sticks order S.levels nodes
          match hr : (S.remover stat).removeContents order S.levels nodes below with
          | ⟨none, later, left⟩ =>
            rw [hr] at hremoves hsticks
            obtain ⟨-, hnodes⟩ := hremoves.done rfl
            refine (ih later).gone hkind ?_ fun stat' below' he hnested => ?_
            · dsimp only at hnodes ⊢
              rw [hnodes, size_directory]
              omega
            · cases he
              exact (hsticks hnested).failed rfl
          | ⟨some failure, later, left⟩ =>
            rw [hr] at hremoves hsticks
            exact .stopped hkind hremoves fun hnested => (hsticks hnested).nested
        · rw [if_neg hopens]
          refine .refused fun hs => ?_
          obtain ⟨_, _, he, hopen, -⟩ := (hs _ List.mem_cons_self).2 hkind
          cases he
          exact hopens hopen

section

variable {entries : List (Bytes × Node)}

lemma sweep_done {order : ReadOrder} (h : (S.sweep order entries).failure = none) :
    ∀ entry ∈ (S.sweep order entries).left, S.kind entry.1 ≠ .marked :=
  (sweepListing_sweeps order 0 (order.read entries)).done h

lemma sweep_sweepable (order : ReadOrder) (h : S.Sweepable entries) :
    S.Sweepable (S.sweep order entries).left :=
  ((sweepListing_sweeps order 0 (order.read entries)).sweepable (h.perm (order.perm entries).symm)).1

/-- A sweep that does not get through was cut off by the limit on names, and has made progress. -/
lemma sweep_failed {order : ReadOrder} (h : S.Sweepable entries)
    (hlimit : ∀ stat, S.levels ≤ (S.remover stat).nodeLimit)
    (hf : (S.sweep order entries).failure ≠ none) :
    (S.sweep order entries).failure = some .tooMany ∧
      S.weight (S.sweep order entries).left < S.weight entries := by
  have hsweeps := sweepListing_sweeps (S := S) order 0 (order.read entries)
  obtain ⟨-, hcause⟩ := hsweeps.sweepable (h.perm (order.perm entries).symm)
  obtain ⟨failure, hfailure⟩ := Option.ne_none_iff_exists'.mp hf
  have htooMany : (S.sweep order entries).failure = some .tooMany := by
    rw [hfailure, hcause failure hfailure]
  refine ⟨htooMany, ?_⟩
  have hcount := hsweeps.failed hf
  obtain ⟨stat, hnodes⟩ := hsweeps.tooMany htooMany
  rw [weight_perm (order.perm entries)] at hcount
  have := hlimit stat
  change _ < S.weight entries
  rw [sweep]
  omega

lemma sweep_stuck (order : ReadOrder) (h : S.Stuck entries) :
    (S.sweep order entries).failure ≠ none ∧ S.Stuck (S.sweep order entries).left :=
  (sweepListing_sweeps order 0 (order.read entries)).stuck (h.perm (order.perm entries).symm)

variable (orders : ℕ → ReadOrder)

lemma sweeps_sweepable (h : S.Sweepable entries) (n : ℕ) : S.Sweepable (S.sweeps orders n entries) := by
  induction n with
  | zero => exact h
  | succ n ih => exact sweep_sweepable (orders n) ih

lemma sweeps_stuck (h : S.Stuck entries) (n : ℕ) : S.Stuck (S.sweeps orders n entries) := by
  induction n with
  | zero => exact h
  | succ n ih => exact (sweep_stuck (orders n) ih).2

/-- Finitely many sweeps suffice: those that do not get through use up the nodes. -/
lemma sweeps_finish (h : S.Sweepable entries)
    (hlimit : ∀ stat, S.levels ≤ (S.remover stat).nodeLimit) :
    ∃ n, (S.sweep (orders n) (S.sweeps orders n entries)).failure = none := by
  by_contra hnever
  rw [not_exists] at hnever
  have hfewer : ∀ n, S.weight (S.sweeps orders n entries) + n ≤ S.weight entries := by
    intro n
    induction n with
    | zero => exact le_rfl
    | succ n ih =>
      obtain ⟨-, hless⟩ := sweep_failed (sweeps_sweepable orders h n) hlimit (hnever n)
      rw [sweeps]
      omega
  have := hfewer (S.weight entries + 1)
  omega

end

end Sweeper

end Foundation

import LvglPlatform.Session.InstallerBroker
import LvglPlatform.Session.StoreRuns
import LvglPlatform.Session.VerifiedProgram

/-! Runs of the system: requests of the installer application, rollbacks after failures, and calls that
a loss of power cuts off, in any order. -/

namespace LvglPlatform

open Foundation

def applicationDirectory (root : Node) (appId : Bytes) : Option Node :=
  (storesOf root).payload.bind fun payload => payload.lookup [text "apps", appId]

/-- The applications whose directories a change takes away. -/
def Lost (root after : Node) : Set Bytes :=
  {appId | LvglPlatform.appId appId = true ∧ (applicationDirectory root appId).isSome = true ∧
    applicationDirectory after appId = none}

/-- The entries of the applications' directory while something is removed from it: an application is
there with all that it had, or it is gone. -/
structure Tidied (gone : Set Bytes) (applications : Node) (entries : List (Bytes × Node)) : Prop where
  kept : ∀ appId, LvglPlatform.appId appId = true →
    (Node.directory applications.stat entries).child appId = applications.child appId ∨
      appId ∈ gone ∧ (Node.directory applications.stat entries).child appId = none
  listed : Node.Distinct LvglPlatform.appId applications →
    Node.Distinct LvglPlatform.appId (.directory applications.stat entries)

/-- The changes of the system. The calls that are cut off are those of an installation, of a rollback
and of removing an application or what is left of one. -/
inductive SystemStep (env : Environment) (profile : CertifiedSessionProfile) : Node → Node → Prop
  | request (root after : Node) (calls : BrokerCalls) (request : InstallerRequest)
      (response : InstallerResponse) :
      handleInstallerRequest env profile calls root request = some (response, after) →
      SystemStep env profile root after
  | failure (root after : Node) (randoms : SlotRandoms) (appId : Bytes) (detail : Option Bytes) :
      rollbackApplicationAfterFailure env profile randoms root appId = some (after, detail) →
      SystemStep env profile root after
  | installation (root : Node) (randoms : InstallRandoms) (bytes : Bytes)
      (steps : Steps Stores InstallerResult) (cut : Option ℕ) :
      installOfficialPackageSteps env randoms bytes (launchContext profile) = some steps →
      SystemStep env profile root (withStores root (steps.stop (storesOf root) cut))
  | rollback (root : Node) (randoms : SlotRandoms) (appId : Bytes) (active next : ApplicationReleaseState)
      (recordLaunchFailure : Bool) (cut : Option ℕ) :
      recordedState env (storesOf root) appId = some active →
      rollbackRelease active recordLaunchFailure = some next →
      SystemStep env profile root (replaceStore root applicationPolicyRoot
        ((persistReleaseStateSteps env.euid randoms next env.crypto).stop
          (root.lookup applicationPolicyRoot) cut))
  | removal (root applications : Node) (entries : List (Bytes × Node)) :
      applicationsDirectory root = some applications → Tidied Set.univ applications entries →
      SystemStep env profile root
        (root.update applicationsPath fun _ => .directory applications.stat entries)
  | elsewhere (root after : Node) : storesOf after = storesOf root → SystemStep env profile root after

abbrev SystemRun (env : Environment) (profile : CertifiedSessionProfile) : Node → Node → Prop :=
  Relation.ReflTransGen (SystemStep env profile)

abbrev RunKeeping (env : Environment) (profile : CertifiedSessionProfile) (appId : Bytes) :
    Node → Node → Prop :=
  Relation.ReflTransGen fun root after => SystemStep env profile root after ∧ appId ∉ Lost root after

structure Ready (root : Node) : Prop where
  payload : ∃ payload, root.lookup applicationPayloadRoot = some payload
  policy : ∃ policy, root.lookup applicationPolicyRoot = some policy

/-- A change that keeps the applications' directories, and does to the stores what a run may do. -/
structure Settles (env : Environment) (profile : CertifiedSessionProfile) (root after : Node) : Prop where
  run : StoreRun env (launchContext profile) ∅ (storesOf root) (storesOf after)
  directories : ∀ appId, LvglPlatform.appId appId = true →
    applicationDirectory after appId = applicationDirectory root appId

section

variable {env : Environment} {profile : CertifiedSessionProfile} {root mid after applications payload : Node}
  {stores : Stores} {gone : Set Bytes} {policy : Option Node} {entries : List (Bytes × Node)}

lemma Healthy.ready {context : InstallPolicyContext} (h : Healthy env context (storesOf root)) : Ready root := by
  obtain ⟨⟨payload, hpayload, -⟩, -, ⟨slots, hslots, -⟩, -⟩ := h.consistent (text "org.pen.demo") (by decide)
  obtain ⟨policy, hpolicy, -⟩ := storesSlots_some hslots
  exact ⟨⟨payload, hpayload⟩, ⟨policy, hpolicy⟩⟩

lemma storesOf_withStores (h : Ready root) (hpath : stores.payloadPath = (storesOf root).payloadPath)
    (hpayload : stores.payload.isSome = true) (hpolicy : stores.policy.isSome = true) :
    storesOf (withStores root stores) = stores := by
  obtain ⟨⟨before, hbefore⟩, ⟨beforePolicy, hbeforePolicy⟩⟩ := h
  obtain ⟨payload, hpayload⟩ := Option.isSome_iff_exists.mp hpayload
  obtain ⟨policy, hpolicy⟩ := Option.isSome_iff_exists.mp hpolicy
  have hfound := withStores_payload hbefore hpayload hpolicy
  have hfoundPolicy := withStores_policy hbeforePolicy hpayload hpolicy
  rw [storesOf, hfound, hfoundPolicy, ← hpayload, ← hpolicy]
  cases stores
  exact congrArg (Stores.mk · _ _) hpath.symm

lemma storesOf_replacePolicy (h : Ready root) (hpolicy : policy.isSome = true) :
    storesOf (replaceStore root applicationPolicyRoot policy) = { storesOf root with policy } := by
  obtain ⟨-, ⟨before, hbefore⟩⟩ := h
  obtain ⟨policy, rfl⟩ := Option.isSome_iff_exists.mp hpolicy
  have hkept : (replaceStore root applicationPolicyRoot (some policy)).lookup applicationPayloadRoot =
      root.lookup applicationPayloadRoot := Node.lookup_update_apart ⟨roots_apart.2, roots_apart.1⟩
  have hfound : (replaceStore root applicationPolicyRoot (some policy)).lookup applicationPolicyRoot =
      some policy := Node.lookup_update_self hbefore _
  rw [storesOf, hkept, hfound]
  rfl

lemma installation_run {randoms : InstallRandoms} {bytes : Bytes} {steps : Steps Stores InstallerResult}
    (hhealthy : Healthy env (launchContext profile) (storesOf root))
    (hsteps : installOfficialPackageSteps env randoms bytes (launchContext profile) = some steps)
    (cut : Option ℕ) : StoreRun env (launchContext profile) gone (storesOf root)
      (storesOf (withStores root (steps.stop (storesOf root) cut))) := by
  have hready := hhealthy.ready
  have hstep : StoreStep env (launchContext profile) gone (storesOf root) (steps.stop (storesOf root) cut) :=
    .install _ randoms bytes steps cut hsteps
  have hafter := hstep.healthy hhealthy
  have hsame : storesOf (withStores root (steps.stop (storesOf root) cut)) =
      steps.stop (storesOf root) cut := by
    obtain ⟨⟨payload, hpayload, -⟩, -, ⟨slots, hslots, -⟩, -⟩ :=
      hafter.consistent (text "org.pen.demo") (by decide)
    obtain ⟨policy, hpolicy, -⟩ := storesSlots_some hslots
    refine storesOf_withStores hready ?_ (Option.isSome_iff_exists.mpr ⟨payload, hpayload⟩)
      (Option.isSome_iff_exists.mpr ⟨policy, hpolicy⟩)
    rcases install_cut hhealthy hsteps cut with hself | ⟨_, _, _, _, hinstalls, -⟩
    · rw [hself]
    · exact hinstalls.path
  rw [hsame]
  exact Relation.ReflTransGen.single hstep

lemma rollback_run {randoms : SlotRandoms} {appId : Bytes} {active next : ApplicationReleaseState}
    {recordLaunchFailure : Bool} (hhealthy : Healthy env (launchContext profile) (storesOf root))
    (hactive : recordedState env (storesOf root) appId = some active)
    (hnext : rollbackRelease active recordLaunchFailure = some next) (cut : Option ℕ) :
    StoreRun env (launchContext profile) gone (storesOf root) (storesOf (replaceStore root
      applicationPolicyRoot ((persistReleaseStateSteps env.euid randoms next env.crypto).stop
        (root.lookup applicationPolicyRoot) cut))) := by
  have hstep : StoreStep env (launchContext profile) gone (storesOf root) { storesOf root with
      policy := (persistReleaseStateSteps env.euid randoms next env.crypto).stop (storesOf root).policy cut } :=
    .rollBack _ appId active next recordLaunchFailure randoms cut hactive hnext
  obtain ⟨-, -, ⟨slots, hslots, -⟩, -⟩ :=
    (hstep.healthy hhealthy).consistent (text "org.pen.demo") (by decide)
  obtain ⟨policy, hpolicy, -⟩ := storesSlots_some hslots
  have hpresent : ((persistReleaseStateSteps env.euid randoms next env.crypto).stop
      (root.lookup applicationPolicyRoot) cut).isSome = true := Option.isSome_iff_exists.mpr ⟨policy, hpolicy⟩
  rw [storesOf_replacePolicy hhealthy.ready hpresent]
  exact Relation.ReflTransGen.single hstep

lemma applicationsPath_eq : applicationsPath = applicationPayloadRoot ++ [text "apps"] := by decide

lemma applicationsDirectory_payload (h : applicationsDirectory root = some applications) :
    ∃ payload, root.lookup applicationPayloadRoot = some payload ∧
      payload.child (text "apps") = some applications := by
  rw [applicationsDirectory, applicationsPath_eq, Node.openTrusted_append] at h
  obtain ⟨payload, hpayload, happs⟩ := Option.bind_eq_some_iff.mp h
  exact ⟨payload, Node.openTrusted_lookup hpayload,
    (lookup_singleton _ _).symm.trans (Node.openTrusted_lookup happs)⟩

lemma storesOf_update (hpayload : root.lookup applicationPayloadRoot = some payload)
    (happs : payload.child (text "apps") = some applications) :
    storesOf (root.update applicationsPath fun _ => .directory applications.stat entries) =
      { storesOf root with
        payload := some (payload.put (text "apps") (.directory applications.stat entries)) } := by
  have hfound : (root.update applicationsPath fun _ => .directory applications.stat entries).lookup
      applicationPayloadRoot = some (payload.put (text "apps") (.directory applications.stat entries)) := by
    rw [applicationsPath_eq, Node.update_append, Node.lookup_update_self hpayload, Node.update, happs]
    rfl
  have hapart : Node.Apart applicationsPath applicationPolicyRoot := by
    rw [applicationsPath_eq]
    exact Node.apart_cons.mpr (Node.apart_cons.mpr (Node.apart_of_ne (by decide)))
  rw [storesOf, hfound, Node.lookup_update_apart hapart]
  rfl

lemma applicationDirectory_eq {store : Node} (hpayload : (storesOf root).payload = some store)
    (happs : store.child (text "apps") = some applications) (appId : Bytes) :
    applicationDirectory root appId = applications.child appId := by
  rw [applicationDirectory, hpayload, Option.bind_some, Node.lookup_cons happs, lookup_singleton]

lemma trusted_entries {euid : ℕ} (ht : applications.trusted euid = true) (entries : List (Bytes × Node)) :
    (Node.directory applications.stat entries).trusted euid = true := by
  simp only [Node.trusted, Bool.and_eq_true] at ht ⊢
  exact ⟨⟨rfl, ht.1.2⟩, ht.2⟩

lemma Tidied.walk {euid : ℕ} {appId : Bytes} {rest : Path} (h : Tidied gone applications entries)
    (happ : LvglPlatform.appId appId = true) (hwalk : applications.walk euid (appId :: rest) ≠ .refused) :
    (Node.directory applications.stat entries).walk euid (appId :: rest) ≠ .refused := by
  have ht : applications.trusted euid = true := Node.trusted_of_walk rfl hwalk
  have hentries := trusted_entries ht entries
  rcases h.kept appId happ with hkept | ⟨-, hnone⟩
  · rw [Node.walk, if_pos hentries, Node.openDirectory, hkept]
    rwa [Node.walk, if_pos ht, Node.openDirectory] at hwalk
  · rw [Node.walk_absent hentries hnone]
    simp

lemma Tidied.discards (h : Tidied gone applications entries) (hd : applications.isDirectory = true)
    (happs : payload.child (text "apps") = some applications) :
    Discards env.euid gone (some payload)
      (some (payload.put (text "apps") (.directory applications.stat entries))) := by
  have hput : (payload.put (text "apps") (.directory applications.stat entries)).child (text "apps") =
      some (.directory applications.stat entries) := Node.child_put_self (Node.isDirectory_of_child happs)
  refine ⟨fun appId happ counter => ?_, fun appId happ hpassable => ?_, fun hlisted => ?_⟩
  · rw [committedRelease_some, committedRelease_some, releasesPath, List.cons_append, Node.lookup_cons hput,
      Node.lookup_cons happs]
    rcases h.kept appId happ with hkept | ⟨hgone, hnone⟩
    · left
      simp only [List.cons_append, Node.lookup, hkept]
    · refine Or.inr ⟨hgone, ?_⟩
      simp only [List.cons_append, Node.lookup, hnone]
  · obtain ⟨node, hnode, hwalk⟩ := hpassable
    obtain rfl := Option.some.inj hnode
    refine ⟨_, rfl, ?_⟩
    rw [releasesPath, Node.walk_within happs hd] at hwalk
    rw [releasesPath, Node.walk_within hput rfl, Node.trusted_put]
    split at hwalk <;> rename_i htrusted
    · rw [if_pos htrusted]
      exact h.walk happ hwalk
    · exact absurd rfl hwalk
  · rintro _ ⟨⟩ apps hfound
    obtain rfl := Option.some.inj (hput.symm.trans hfound)
    exact h.listed (hlisted payload rfl applications happs)

lemma removal_run (happlications : applicationsDirectory root = some applications)
    (h : Tidied gone applications entries) :
    StoreRun env (launchContext profile) gone (storesOf root)
      (storesOf (root.update applicationsPath fun _ => .directory applications.stat entries)) := by
  obtain ⟨payload, hpayload, happs⟩ := applicationsDirectory_payload happlications
  rw [storesOf_update hpayload happs]
  refine Relation.ReflTransGen.single (.discard _ _ ?_)
  rw [storesOf, hpayload]
  exact h.discards (Node.isDirectory_of_trusted (Node.openTrusted_trusted happlications)) happs

lemma removal_directories (happlications : applicationsDirectory root = some applications) (appId : Bytes) :
    applicationDirectory root appId = applications.child appId ∧
      applicationDirectory (root.update applicationsPath fun _ => .directory applications.stat entries)
        appId = (Node.directory applications.stat entries).child appId := by
  obtain ⟨payload, hpayload, happs⟩ := applicationsDirectory_payload happlications
  have hstores : storesOf (root.update applicationsPath fun _ => .directory applications.stat entries) = _ :=
    storesOf_update hpayload happs
  exact ⟨applicationDirectory_eq hpayload happs appId, applicationDirectory_eq
    (congrArg Stores.payload hstores) (Node.child_put_self (Node.isDirectory_of_child happs)) appId⟩

lemma settles_same (h : storesOf after = storesOf root) : Settles env profile root after := by
  refine ⟨?_, fun appId _ => by rw [applicationDirectory, applicationDirectory, h]⟩
  rw [h]

lemma Settles.trans (h : Settles env profile root mid) (hnext : Settles env profile mid after) :
    Settles env profile root after :=
  ⟨Relation.ReflTransGen.trans h.run hnext.run, fun appId happ =>
    (hnext.directories appId happ).trans (h.directories appId happ)⟩

lemma Settles.run_lost (h : Settles env profile root mid)
    (hnext : StoreRun env (launchContext profile) (Lost mid after) (storesOf mid) (storesOf after)) :
    StoreRun env (launchContext profile) (Lost root after) (storesOf root) (storesOf after) := by
  have hlost : Lost mid after ⊆ Lost root after := by
    rintro appId ⟨happ, hthere, hgone⟩
    exact ⟨happ, (h.directories appId happ) ▸ hthere, hgone⟩
  exact (h.run.mono (Set.empty_subset _)).trans (hnext.mono hlost)

lemma prepare_settles (hready : Ready root) :
    Settles env profile root (prepareApplicationStorage env.euid root).1 := by
  apply settles_same
  obtain ⟨⟨payload, hpayload⟩, ⟨policy, hpolicy⟩⟩ := hready
  rw [prepareApplicationStorage]
  cases happs : root.openTrusted 0 appsPath with
  | none => rfl
  | some apps =>
    have hlookup := Node.openTrusted_lookup happs
    have hchild : ∀ name, root.lookup (appsPath ++ [name]) = apps.child name := by
      intro name
      rw [Node.lookup_append, hlookup, Option.bind_some, lookup_singleton]
    have hkept : ∀ name found, apps.child name = some found →
        (ensureDirectory env.euid apps name).1 = apps := by
      intro name found hfound
      rw [ensureDirectory, hfound]
      dsimp only
      split <;> rfl
    have hinbox : ∀ name, name ≠ text "lvgl-inbox" →
        (ensureDirectory env.euid apps (text "lvgl-inbox")).1.child name = apps.child name := by
      intro name hname
      rw [ensureDirectory]
      cases apps.child (text "lvgl-inbox") with
      | none =>
        dsimp only
        split <;> exact Node.child_put_of_ne hname
      | some found =>
        dsimp only
        split <;> rfl
    have hafter : ∀ name, name ≠ text "lvgl-inbox" → (root.update appsPath fun _ =>
        (ensureDirectory env.euid apps (text "lvgl-inbox")).1).lookup (appsPath ++ [name]) =
        root.lookup (appsPath ++ [name]) := by
      intro name hname
      rw [Node.lookup_append, Node.lookup_update_self hlookup, Option.bind_some, lookup_singleton,
        hinbox name hname, hchild]
    dsimp only
    rw [hkept _ payload ((hchild _).symm.trans hpayload), hkept _ policy ((hchild _).symm.trans hpolicy)]
    exact congrArg₂ (Stores.mk _) (hafter _ (by decide)) (hafter _ (by decide))

lemma appId_ne_removed {appId : Bytes} (happ : LvglPlatform.appId appId = true) (rest : Bytes) :
    appId ≠ removedPrefix ++ rest := by
  intro he
  have hhead : appId.head? = some (chr '.') := by rw [he]; rfl
  simp [LvglPlatform.appId, identifier, hhead] at happ

lemma appId_not_tombstone {appId : Bytes} (happ : LvglPlatform.appId appId = true) :
    applicationTombstone appId = false := by
  by_contra htombstone
  simp only [applicationTombstone, Bool.not_eq_false, Bool.and_eq_true] at htombstone
  obtain ⟨rest, rfl⟩ := List.isPrefixOf_iff_prefix.mp htombstone.1.2
  exact appId_ne_removed happ rest rfl

lemma tidied_sweep (order : ReadOrder) (h : Node.Distinct LvglPlatform.appId applications) :
    Tidied ∅ applications (tombstoneSweeper.sweep order applications.entries).left := by
  have hplain := (Sweeper.sweepListing_sweeps (S := tombstoneSweeper) order 0
    (order.read applications.entries)).plain
  have hmarked : ∀ name node, LvglPlatform.appId name = true →
      (!tombstoneSweeper.marked (name, node)) = true := by
    intro name node hname
    simp [Sweeper.marked, tombstoneSweeper, appId_not_tombstone hname]
  have hnames : ∀ entries : List (Bytes × Node), (entries.map Prod.fst).filter LvglPlatform.appId =
      ((entries.filter fun entry => !tombstoneSweeper.marked entry).map Prod.fst).filter
        LvglPlatform.appId := by
    intro entries
    rw [List.filter_map, List.filter_map, List.filter_filter]
    refine congrArg (List.map Prod.fst) (List.filter_congr fun entry _ => ?_)
    by_cases hname : LvglPlatform.appId entry.1 = true
    · simp [hname, hmarked entry.1 entry.2 hname]
    · simp [hname]
  have hlisted : Node.Distinct LvglPlatform.appId
      (.directory applications.stat (tombstoneSweeper.sweep order applications.entries).left) := by
    rw [Node.Distinct, Node.entries, hnames, Sweeper.sweep, hplain, ← hnames]
    exact (((order.perm applications.entries).map _).filter _).nodup_iff.mpr h
  refine ⟨fun appId happ => Or.inl ?_, fun _ => hlisted⟩
  refine Node.child_congr hlisted h happ fun target => ?_
  have hmem : ∀ entries : List (Bytes × Node), (appId, target) ∈ entries ↔
      (appId, target) ∈ entries.filter fun entry => !tombstoneSweeper.marked entry :=
    fun entries => by rw [List.mem_filter, hmarked appId target happ, and_iff_left rfl]
  rw [Node.entries, hmem, Sweeper.sweep, hplain, ← hmem]
  exact (order.perm applications.entries).mem_iff

lemma tidied_removal (removed : Bytes) (extra : List (Bytes × Node))
    (hextra : ∀ entry ∈ extra, LvglPlatform.appId entry.1 = false) :
    Tidied {appId | appId = removed} applications
      ((applications.entries.filter fun entry => entry.1 ≠ removed) ++ extra) := by
  have hnone : ∀ appId, LvglPlatform.appId appId = true →
      extra.find? (fun entry => entry.1 = appId) = none := by
    intro appId happ
    refine List.find?_eq_none.mpr fun entry hentry he => ?_
    rw [← of_decide_eq_true he, hextra entry hentry] at happ
    cases happ
  refine ⟨fun appId happ => ?_, fun hlisted => ?_⟩
  · simp only [Node.child, Node.entries, List.find?_append, hnone appId happ, Option.or_none,
      List.find?_filter]
    by_cases hremoved : appId = removed
    · refine Or.inr ⟨hremoved, ?_⟩
      rw [Option.map_eq_none_iff, List.find?_eq_none]
      rintro entry - he
      simp only [ne_eq, decide_not, Bool.not_eq_true', decide_eq_false_iff_not, decide_eq_true_eq] at he
      exact he.1 (he.2.trans hremoved)
    · left
      congr 2
      funext entry
      by_cases he : entry.1 = appId
      · simp [he, hremoved]
      · simp [he]
  · have hnames : (extra.map Prod.fst).filter LvglPlatform.appId = [] := by
      rw [List.filter_eq_nil_iff]
      intro name hname
      obtain ⟨entry, hentry, rfl⟩ := List.mem_map.mp hname
      simp [hextra entry hentry]
    rw [Node.Distinct, Node.entries, List.map_append, List.filter_append, hnames, List.append_nil]
    exact hlisted.sublist ((List.filter_sublist.map _).filter _)

lemma Healthy.distinct {context : InstallPolicyContext} (h : Healthy env context (storesOf root))
    (happlications : applicationsDirectory root = some applications) :
    Node.Distinct LvglPlatform.appId applications := by
  obtain ⟨payload, hpayload, happs⟩ := applicationsDirectory_payload happlications
  exact h.listed payload hpayload applications happs

lemma openStore_applications {store : Node} (hstore : openAbsoluteDirectory root applicationStore = some store)
    (happs : store.openDirectory (text "apps") = .directory applications)
    (ht : trustedDirectory applications = true) : applicationsDirectory root = some applications := by
  have hpayload : root.openTrusted 0 applicationPayloadRoot = some store := by
    have hsplit : Session.splitPath applicationStore = applicationPayloadRoot := by decide
    rw [openAbsoluteDirectory, if_neg (by decide), hsplit] at hstore
    exact hstore
  rw [applicationsDirectory, applicationsPath_eq, Node.openTrusted_append, hpayload, Option.bind_some]
  exact openTrusted_singleton (Node.openTrusted_trusted hpayload)
    (Node.child_of_openDirectory happs) ht

lemma cleanup_settles {order : ReadOrder} (hhealthy : Healthy env (launchContext profile) (storesOf root)) :
    Settles env profile root (cleanupApplicationTombstones order root).2 := by
  rw [cleanupApplicationTombstones]
  cases hstore : openAbsoluteDirectory root applicationStore with
  | none => exact settles_same rfl
  | some store =>
    dsimp only
    cases happs : store.openDirectory (text "apps") with
    | missing => exact settles_same rfl
    | refused => exact settles_same rfl
    | directory applications =>
      dsimp only
      split <;> rename_i htrusted
      · exact settles_same rfl
      have happlications := openStore_applications hstore happs (by simpa using htrusted)
      have htidied := tidied_sweep order (hhealthy.distinct happlications)
      refine ⟨removal_run happlications htidied, fun appId happ => ?_⟩
      obtain ⟨hbefore, hafter⟩ := removal_directories happlications appId
      rcases htidied.kept appId happ with hkept | ⟨hgone, -⟩
      · exact hafter.trans (hkept.trans hbefore.symm)
      · exact absurd hgone (Set.notMem_empty appId)

lemma removal_lost {removed : Bytes} {application : Node} {extra : List (Bytes × Node)}
    (happlications : applicationsDirectory root = some applications)
    (hthere : applications.child removed = some application)
    (hextra : ∀ entry ∈ extra, LvglPlatform.appId entry.1 = false) :
    StoreRun env (launchContext profile) (Lost root (root.update applicationsPath fun _ =>
      .directory applications.stat ((applications.entries.filter fun entry => entry.1 ≠ removed) ++ extra)))
      (storesOf root) (storesOf (root.update applicationsPath fun _ => .directory applications.stat
        ((applications.entries.filter fun entry => entry.1 ≠ removed) ++ extra))) := by
  have htidied : Tidied {appId | appId = removed} applications
      ((applications.entries.filter fun entry => entry.1 ≠ removed) ++ extra) :=
    tidied_removal removed extra hextra
  refine removal_run happlications ⟨fun appId happ => ?_, htidied.listed⟩
  obtain ⟨hbefore, hafter⟩ := removal_directories happlications appId
  refine (htidied.kept appId happ).imp_right fun ⟨hremoved, hnone⟩ => ⟨⟨happ, ?_, ?_⟩, hnone⟩
  · rw [hbefore, hremoved, hthere]
    rfl
  · rw [hafter, hnone]

lemma remove_run {calls : BrokerCalls} {snapshot : InstalledApplicationSnapshot} :
    StoreRun env (launchContext profile)
      (Lost root (removeInstalledApplication env calls root snapshot).1) (storesOf root)
      (storesOf (removeInstalledApplication env calls root snapshot).1) := by
  unfold removeInstalledApplication
  dsimp only
  generalize (if snapshot.stateLoaded then some snapshot.state else none) = state
  split
  · exact .refl
  rename_i applications hopened
  have happlications : applicationsDirectory root = some applications := by
    have hsplit : Session.splitPath (applicationStore ++ text "/apps") = applicationsPath := by decide
    have hnil : applicationsPath ≠ [] := by decide
    rw [openAbsoluteDirectory, if_neg (by decide), hsplit] at hopened
    rw [applicationsDirectory]
    generalize applicationsPath = path at hopened hnil
    cases path with
    | nil => exact absurd rfl hnil
    | cons name path => exact hopened
  cases happlication : applications.openDirectory snapshot.publicValue.appId with
  | missing => exact .refl
  | refused => exact .refl
  | directory application =>
    have hthere := Node.child_of_openDirectory happlication
    dsimp only
    split
    · exact .refl
    cases hsuffix : calls.suffix with
    | none => exact .refl
    | some random =>
      have hextra : ∀ node : Node, ∀ entry ∈ [(removedPrefix ++ hexText random.toList, node)],
          LvglPlatform.appId entry.1 = false := by
        intro node entry hentry
        rw [List.mem_singleton.mp hentry, Bool.eq_false_iff]
        exact fun happ => appId_ne_removed happ _ rfl
      dsimp only
      split
      · exact .refl
      split
      · exact removal_lost happlications hthere (hextra application)
      split
      · have hlost := @removal_lost env profile root applications snapshot.publicValue.appId application []
          happlications hthere (by simp)
        rwa [List.append_nil] at hlost
      · exact removal_lost happlications hthere (hextra _)

lemma install_run {randoms : InstallRandoms} {token : Bytes} {result : InboxInstallResult}
    (hhealthy : Healthy env (launchContext profile) (storesOf root))
    (h : installOfficialInboxCandidate env randoms root token (launchContext profile) =
      some (after, result)) :
    StoreRun env (launchContext profile) gone (storesOf root) (storesOf after) := by
  unfold installOfficialInboxCandidate at h
  split at h
  · obtain ⟨rfl, -⟩ := Prod.mk.inj (Option.some.inj h)
    exact .refl
  obtain ⟨⟨scan, candidates⟩, -, h⟩ := Option.bind_eq_some_iff.mp h
  dsimp only at h
  split at h
  · obtain ⟨rfl, -⟩ := Prod.mk.inj (Option.some.inj h)
    exact .refl
  split at h
  · obtain ⟨rfl, -⟩ := Prod.mk.inj (Option.some.inj h)
    exact .refl
  rename_i candidate _
  unfold installCandidate at h
  split at h
  · obtain ⟨rfl, -⟩ := Prod.mk.inj (Option.some.inj h)
    exact .refl
  obtain ⟨⟨stores, installer⟩, hinstall, h⟩ := Option.map_eq_some_iff.mp h
  obtain ⟨rfl, -⟩ := Prod.mk.inj h
  obtain ⟨verification, hverified, hrun⟩ := Option.map_eq_some_iff.mp hinstall
  have hsteps : installOfficialPackageSteps env randoms candidate.bytes (launchContext profile) =
      some (installVerifiedSteps env randoms candidate.bytes (launchContext profile) verification) :=
    congrArg (Option.map _) hverified
  have hstores : stores = (installVerifiedSteps env randoms candidate.bytes (launchContext profile)
      verification).stop (storesOf root) none :=
    congrArg Prod.fst (hrun.symm.trans run_installVerifiedSteps.symm)
  rw [hstores]
  exact installation_run hhealthy hsteps none

lemma persist_run {randoms : SlotRandoms} {appId : Bytes} {next : ApplicationReleaseState}
    {recordLaunchFailure : Bool} (hhealthy : Healthy env (launchContext profile) (storesOf root))
    (hloaded : (storedReleaseOf env root appId).isLoaded = true)
    (hnext : rollbackRelease (storedReleaseOf env root appId).selected.state recordLaunchFailure = some next) :
    StoreRun env (launchContext profile) gone (storesOf root) (storesOf (replaceStore root
      applicationPolicyRoot (persistReleaseStateTo env.euid randoms (root.lookup applicationPolicyRoot) next
        env.crypto).1)) := by
  have hactive : recordedState env (storesOf root) appId =
      some (storedReleaseOf env root appId).selected.state := if_pos hloaded
  have hrun := @rollback_run env profile root gone randoms appId _ next recordLaunchFailure hhealthy hactive
    hnext none
  rwa [← run_persistReleaseStateSteps]

lemma rollbackInstalled_run {calls : BrokerCalls} {snapshot : InstalledApplicationSnapshot}
    {completed : Option Bytes} (hhealthy : Healthy env (launchContext profile) (storesOf root))
    (h : rollbackInstalledApplication env profile calls root snapshot = some (after, completed)) :
    StoreRun env (launchContext profile) gone (storesOf root) (storesOf after) := by
  unfold rollbackInstalledApplication at h
  dsimp only at h
  split at h <;> rename_i hmatches
  · obtain ⟨rfl, -⟩ := Prod.mk.inj (Option.some.inj h)
    exact .refl
  obtain ⟨previous, -, h⟩ := Option.bind_eq_some_iff.mp h
  split at h
  · rename_i rolledBack hrolledBack
    split at h
    · obtain ⟨rfl, -⟩ := Prod.mk.inj (Option.some.inj h)
      exact .refl
    · obtain ⟨rfl, -⟩ := Prod.mk.inj (Option.some.inj h)
      have hloaded : (storedReleaseOf env root snapshot.publicValue.appId).isLoaded = true := by
        simp only [rollbackMatches, Bool.or_eq_true, Bool.not_eq_true', not_or, Bool.not_eq_false,
          Bool.and_eq_true] at hmatches
        exact hmatches.2.1.1.1.1.1.1
      exact persist_run hhealthy hloaded hrolledBack
  · obtain ⟨rfl, -⟩ := Prod.mk.inj (Option.some.inj h)
    exact .refl

lemma failure_run {randoms : SlotRandoms} {appId : Bytes} {detail : Option Bytes}
    (hhealthy : Healthy env (launchContext profile) (storesOf root))
    (h : rollbackApplicationAfterFailure env profile randoms root appId = some (after, detail)) :
    StoreRun env (launchContext profile) gone (storesOf root) (storesOf after) := by
  obtain ⟨rolledBack, hrollback, h⟩ := Option.map_eq_some_iff.mp h
  cases rolledBack with
  | none =>
    obtain ⟨rfl, -⟩ := Prod.mk.inj h
    exact .refl
  | some next =>
    obtain ⟨rfl, -⟩ := Prod.mk.inj h
    unfold failureRollback at hrollback
    split at hrollback
    · cases Option.some.inj hrollback
    dsimp only at hrollback
    split at hrollback <;> rename_i hloaded
    · cases Option.some.inj hrollback
    obtain ⟨previous, -, hnext⟩ := Option.map_eq_some_iff.mp hrollback
    obtain ⟨-, -, hnext⟩ := Option.bind_eq_some_iff.mp hnext
    exact persist_run hhealthy (by simp only [Bool.or_eq_true, Bool.not_eq_true', not_or,
      Bool.not_eq_false] at hloaded; exact hloaded.1) hnext

lemma mutate_run {calls : BrokerCalls} {request : InstallerRequest} {response : InstallerResponse}
    {installed : List InstalledApplicationSnapshot}
    (hhealthy : Healthy env (launchContext profile) (storesOf root))
    (h : mutateInstalled env profile calls root request installed = some (response, after)) :
    StoreRun env (launchContext profile) (Lost root after) (storesOf root) (storesOf after) := by
  unfold mutateInstalled at h
  dsimp only at h
  split at h
  · obtain ⟨-, rfl⟩ := Prod.mk.inj (Option.some.inj h)
    exact .refl
  rename_i selected _
  split at h
  · split at h
    · obtain ⟨-, rfl⟩ := Prod.mk.inj (Option.some.inj h)
      exact .refl
    obtain ⟨⟨rolledBack, completed⟩, hrollback, h⟩ := Option.map_eq_some_iff.mp h
    have hafter : rolledBack = after := by
      cases completed with
      | none => exact (Prod.mk.inj h).2
      | some detail => exact (Prod.mk.inj h).2
    rw [← hafter]
    exact rollbackInstalled_run hhealthy hrollback
  · have hafter : after = (removeInstalledApplication env calls root selected).1 := by
      split at h
      · exact (Prod.mk.inj (Option.some.inj h)).2.symm
      · exact (Prod.mk.inj (Option.some.inj h)).2.symm
    rw [hafter]
    exact remove_run

lemma installed_run {calls : BrokerCalls} {request : InstallerRequest} {response : InstallerResponse}
    (hhealthy : Healthy env (launchContext profile) (storesOf root))
    (h : handleInstalledRequest env profile calls root request = some (response, after)) :
    StoreRun env (launchContext profile) (Lost root after) (storesOf root) (storesOf after) := by
  have hsettles : Settles env profile root (cleanupApplicationTombstones calls.order root).2 :=
    cleanup_settles hhealthy
  unfold handleInstalledRequest at h
  rcases hcleanup : cleanupApplicationTombstones calls.order root with ⟨failure, settled⟩
  rw [hcleanup] at h hsettles
  have hsettled := StoreRun.healthy hsettles.run hhealthy
  cases failure with
  | some failure =>
    obtain ⟨-, rfl⟩ := Prod.mk.inj (Option.some.inj h)
    exact hsettles.run.mono (Set.empty_subset _)
  | none =>
    apply hsettles.run_lost
    obtain ⟨snapshots, -, h⟩ := Option.bind_eq_some_iff.mp h
    unfold installedResponse at h
    dsimp only at h
    cases snapshots with
    | none =>
      obtain ⟨-, rfl⟩ := Prod.mk.inj (Option.some.inj h)
      exact .refl
    | some installed =>
      dsimp only at h
      split at h
      · obtain ⟨-, rfl⟩ := Prod.mk.inj (Option.some.inj h)
        exact .refl
      · split at h
        · obtain ⟨-, rfl⟩ := Prod.mk.inj (Option.some.inj h)
          exact .refl
        · obtain ⟨-, rfl⟩ := Prod.mk.inj (Option.some.inj h)
          exact .refl
      · exact mutate_run hsettled h

lemma request_run {calls : BrokerCalls} {request : InstallerRequest} {response : InstallerResponse}
    (hhealthy : Healthy env (launchContext profile) (storesOf root))
    (h : handleInstallerRequest env profile calls root request = some (response, after)) :
    StoreRun env (launchContext profile) (Lost root after) (storesOf root) (storesOf after) := by
  have hsettles : Settles env profile root (prepareApplicationStorage env.euid root).1 :=
    prepare_settles hhealthy.ready
  unfold handleInstallerRequest at h
  dsimp only at h
  generalize prepareApplicationStorage env.euid root = prepared at h hsettles
  have hprepared := StoreRun.healthy hsettles.run hhealthy
  split at h
  · obtain ⟨-, rfl⟩ := Prod.mk.inj (Option.some.inj h)
    exact hsettles.run.mono (Set.empty_subset _)
  apply hsettles.run_lost
  split at h
  · obtain ⟨⟨installed, result⟩, hinstall, h⟩ := Option.map_eq_some_iff.mp h
    obtain ⟨-, rfl⟩ := Prod.mk.inj h
    exact install_run hprepared hinstall
  · obtain ⟨scan, -, h⟩ := Option.map_eq_some_iff.mp h
    obtain ⟨-, rfl⟩ := Prod.mk.inj h
    exact .refl
  · obtain ⟨scan, -, h⟩ := Option.map_eq_some_iff.mp h
    obtain ⟨-, rfl⟩ := Prod.mk.inj h
    exact .refl
  all_goals exact installed_run hprepared h

lemma SystemStep.run (h : SystemStep env profile root after)
    (hhealthy : Healthy env (launchContext profile) (storesOf root)) :
    StoreRun env (launchContext profile) (Lost root after) (storesOf root) (storesOf after) := by
  cases h with
  | request _ calls request response hrequest => exact request_run hhealthy hrequest
  | failure _ randoms appId detail hfailure => exact failure_run hhealthy hfailure
  | installation randoms bytes steps cut hsteps => exact installation_run hhealthy hsteps cut
  | rollback randoms appId active next recordLaunchFailure cut hactive hnext =>
    exact rollback_run hhealthy hactive hnext cut
  | removal applications entries happlications htidied =>
    refine removal_run happlications ⟨fun appId happ => ?_, htidied.listed⟩
    obtain ⟨hbefore, hafter⟩ := removal_directories happlications appId
    rcases htidied.kept appId happ with hkept | ⟨-, hnone⟩
    · exact Or.inl hkept
    · cases hthere : applications.child appId with
      | none => exact Or.inl hnone
      | some application =>
        refine Or.inr ⟨⟨happ, ?_, hafter.trans hnone⟩, hnone⟩
        rw [hbefore, hthere]
        rfl
  | elsewhere _ hstores =>
    rw [hstores]

lemma SystemRun.refines (h : SystemRun env profile root after)
    (hhealthy : Healthy env (launchContext profile) (storesOf root)) :
    StoreRun env (launchContext profile) Set.univ (storesOf root) (storesOf after) := by
  induction h with
  | refl => exact .refl
  | tail _ hstep ih =>
    have hrun := hstep.run (StoreRun.healthy ih hhealthy)
    exact ih.trans (hrun.mono (Set.subset_univ _))

lemma RunKeeping.refines {appId : Bytes} (h : RunKeeping env profile appId root after)
    (hhealthy : Healthy env (launchContext profile) (storesOf root)) :
    StoreRun env (launchContext profile) {other | other ≠ appId} (storesOf root) (storesOf after) := by
  induction h with
  | refl => exact .refl
  | tail _ hstep ih =>
    have hrun := hstep.1.run (StoreRun.healthy ih hhealthy)
    refine ih.trans (hrun.mono fun other hlost he => hstep.2 ?_)
    exact he ▸ hlost

end

/-- In every run of the system, whatever is cut off in it, the recorded state of each application comes
from the one before by activations of official packages and by rollbacks, and can always be loaded. -/
theorem system_runs_follow_release_history (env : Environment) (profile : CertifiedSessionProfile)
    (root after : Node) (appId : Bytes) (happ : LvglPlatform.appId appId = true)
    (hhealthy : Healthy env (launchContext profile) (storesOf root))
    (hrun : SystemRun env profile root after) :
    Evolves env (launchContext profile) appId (recordedState env (storesOf root) appId)
        (recordedState env (storesOf after) appId) ∧
      (storedReleaseOf env after appId).status ∈
        [StateStoreStatus.notFound, .uninitialized, .loaded, .loadedDegraded] := by
  have hstores := SystemRun.refines hrun hhealthy
  have hupheld := StoreRun.upheld hstores hhealthy happ
  exact ⟨hupheld.evolves, hupheld.consistent.status happ⟩

/-- No run of the system takes back what is recorded of an application: generations, the highest release
and its security epoch only rise, and the release that was rolled back is never named again. -/
theorem system_runs_never_go_back (env : Environment) (profile : CertifiedSessionProfile)
    (root after : Node) (appId : Bytes) (state : ApplicationReleaseState)
    (hhealthy : Healthy env (launchContext profile) (storesOf root))
    (hrun : SystemRun env profile root after)
    (hstate : recordedState env (storesOf root) appId = some state) :
    ∃ next, recordedState env (storesOf after) appId = some next ∧ Progress state next ∧
      (state.quarantinedRelease ≠ 0 → state.previousRelease ≠ state.quarantinedRelease →
        next.currentRelease ≠ state.quarantinedRelease ∧
          next.previousRelease ≠ state.quarantinedRelease) := by
  have happ : LvglPlatform.appId appId = true := by
    obtain ⟨hwell, rfl⟩ := recordedState_wellformed hstate
    exact hwell.appId
  have hsound := (hhealthy.consistent appId happ).sound state hstate
  have hupheld := StoreRun.upheld (SystemRun.refines hrun hhealthy) hhealthy happ
  have hevolves := hupheld.evolves
  rw [hstate] at hevolves
  exact hevolves.advances hsound

lemma freshSystem_healthy : Healthy installEnvironment (launchContext penProfile) (storesOf freshSystem) :=
  healthy_fresh (by decide)

def installedSystem (root : Node) (release : SignedRelease) : Node :=
  withStores root (installVerified installEnvironment installRandoms (storesOf root) release.package.bytes
    (launchContext penProfile) release.package.verification).1

def interruptedSystem (root : Node) (release : SignedRelease) (steps : ℕ) : Node :=
  withStores root ((installVerifiedSteps installEnvironment repeatRandoms release.package.bytes
    (launchContext penProfile) release.package.verification).stop (storesOf root) (some steps))

lemma installSteps_verified {release : SignedRelease}
    (hverified : (installEnvironment.trust.verify release.package.bytes installEnvironment.crypto).answer =
      some release.package.verification) (randoms : InstallRandoms) :
    installOfficialPackageSteps installEnvironment randoms release.package.bytes
      (launchContext penProfile) = some (installVerifiedSteps installEnvironment randoms
        release.package.bytes (launchContext penProfile) release.package.verification) := by
  rw [installOfficialPackageSteps, hverified]
  rfl

lemma installedSystem_step {root : Node} {release : SignedRelease}
    (hverified : (installEnvironment.trust.verify release.package.bytes installEnvironment.crypto).answer =
      some release.package.verification) :
    SystemStep installEnvironment penProfile root (installedSystem root release) := by
  have hstep := @SystemStep.installation installEnvironment penProfile root installRandoms _ _ none
    (installSteps_verified hverified installRandoms)
  rw [installedSystem, ← run_installVerifiedSteps]
  exact hstep

lemma interruptedSystem_step {root : Node} {release : SignedRelease}
    (hverified : (installEnvironment.trust.verify release.package.bytes installEnvironment.crypto).answer =
      some release.package.verification) (steps : ℕ) :
    SystemStep installEnvironment penProfile root (interruptedSystem root release steps) :=
  .installation root repeatRandoms _ _ _ (installSteps_verified hverified repeatRandoms)

lemma secondRelease_verified : (installEnvironment.trust.verify secondRelease.package.bytes
    installEnvironment.crypto).answer = some secondRelease.package.verification := by decide +kernel

theorem interrupted_update_follows_history :
    Evolves installEnvironment (launchContext penProfile) (text "org.pen.demo")
        (recordedState installEnvironment (storesOf freshSystem) (text "org.pen.demo"))
        (recordedState installEnvironment (storesOf (interruptedSystem (installedSystem freshSystem
          firstRelease) secondRelease 5)) (text "org.pen.demo")) ∧
      (storedReleaseOf installEnvironment (interruptedSystem (installedSystem freshSystem firstRelease)
        secondRelease 5) (text "org.pen.demo")).status ∈
        [StateStoreStatus.notFound, .uninitialized, .loaded, .loadedDegraded] :=
  system_runs_follow_release_history installEnvironment penProfile freshSystem _ (text "org.pen.demo")
    (by decide) freshSystem_healthy (.tail (.single (installedSystem_step firstRelease_first.verified))
      (interruptedSystem_step secondRelease_verified 5))

lemma installedSystem_healthy : Healthy installEnvironment (launchContext penProfile)
    (storesOf (installedSystem freshSystem firstRelease)) := by
  have hrun : SystemRun installEnvironment penProfile freshSystem
      (installedSystem freshSystem firstRelease) :=
    .single (installedSystem_step firstRelease_first.verified)
  exact StoreRun.healthy (SystemRun.refines hrun freshSystem_healthy) freshSystem_healthy

lemma installedSystem_recorded : recordedState installEnvironment
    (storesOf (installedSystem freshSystem firstRelease)) (text "org.pen.demo") = some firstState := by
  decide +kernel

def updatedRoot : Node := installedSystem (installedSystem freshSystem firstRelease) secondRelease

def rolledBackRoot : Node :=
  replaceStore updatedRoot applicationPolicyRoot
    ((persistReleaseStateSteps 0 installRandoms.slots rolledBackState installCrypto).stop
      (updatedRoot.lookup applicationPolicyRoot) none)

lemma updatedRoot_recorded :
    recordedState installEnvironment (storesOf updatedRoot) (text "org.pen.demo") = some secondState := by
  decide +kernel

lemma rolledBackRoot_healthy :
    Healthy installEnvironment (launchContext penProfile) (storesOf rolledBackRoot) := by
  have hrun : SystemRun installEnvironment penProfile (installedSystem freshSystem firstRelease)
      rolledBackRoot :=
    (Relation.ReflTransGen.single (installedSystem_step secondRelease_verified)).tail
      (.rollback updatedRoot installRandoms.slots (text "org.pen.demo") secondState rolledBackState false
        none updatedRoot_recorded (by decide))
  exact StoreRun.healthy (SystemRun.refines hrun installedSystem_healthy) installedSystem_healthy

theorem quarantined_release_not_reinstalled :
    rolledBackState.quarantinedRelease = 2 ∧ ∃ next, recordedState installEnvironment
        (storesOf (installedSystem rolledBackRoot secondRelease)) (text "org.pen.demo") = some next ∧
      Progress rolledBackState next ∧ next.currentRelease ≠ 2 ∧ next.previousRelease ≠ 2 := by
  obtain ⟨next, hnext, hprogress, hquarantined⟩ := system_runs_never_go_back installEnvironment penProfile
    rolledBackRoot _ (text "org.pen.demo") rolledBackState rolledBackRoot_healthy
    (.single (installedSystem_step secondRelease_verified)) (by decide +kernel)
  exact ⟨by decide, next, hnext, hprogress, hquarantined (by decide) (by decide)⟩

end LvglPlatform

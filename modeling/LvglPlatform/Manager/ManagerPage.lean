import LvglPlatform.Foundation.Bytes
import LvglPlatform.Foundation.Process

/-! The page of the platform manager: one operation at a time, and the snapshot it is chosen from. -/

namespace LvglPlatform

open Foundation

inductive ManagerOperation
  | install
  | repair
  | upgrade
  | remove
  deriving DecidableEq

structure ManagerSnapshot where
  success : Bool := false
  available : Bool := false
  payloadAvailable : Bool := false
  installed : Bool := false
  repairRequired : Bool := false
  updateAvailable : Bool := false
  busy : Bool := false
  currentVersion : Bytes := []
  payloadVersion : Bytes := []
  profileId : Bytes := []
  code : Bytes := text "MANAGER_INVALID_RESPONSE"
  detail : Bytes := []
  deriving DecidableEq

abbrev Rejection := Option Bytes

structure OperationCall where
  generation : ℕ
  operation : ManagerOperation
  deriving DecidableEq

structure ManagerPage where
  pageActive : Bool := false
  busy : Bool := false
  generation : ℕ := 0
  stageIndex : ℕ := 0
  stageLabel : Bytes := text "检查"
  overlayTitle : Bytes := []
  overlayDetail : Bytes := []
  overlayVisible : Bool := false
  confirmingRemove : Bool := false
  snapshot : ManagerSnapshot := { code := text "MANAGER_LOADING", detail := text "正在读取设备与平台状态" }
  inspections : List ℕ := []
  operations : List OperationCall := []
  transactionTimers : List ℕ := []
  deriving DecidableEq

def operationEnabled (snapshot : ManagerSnapshot) (operation : ManagerOperation) : Bool :=
  if snapshot.busy then false
  else match operation with
    | .remove => snapshot.installed
    | .install => snapshot.available && snapshot.payloadAvailable &&
        (!snapshot.installed && !snapshot.repairRequired)
    | .repair => snapshot.available && snapshot.payloadAvailable &&
        (snapshot.installed || snapshot.repairRequired)
    | .upgrade => snapshot.available && snapshot.payloadAvailable &&
        (snapshot.installed && snapshot.updateAvailable)

namespace ManagerPage

/-- What a call has awaited no longer concerns the page. -/
def stale (page : ManagerPage) (generation : ℕ) : Bool :=
  !page.pageActive || generation ≠ page.generation

def refresh (page : ManagerPage) : ManagerPage :=
  { page with
    generation := page.generation + 1
    inspections := page.inspections ++ [page.generation + 1] }

def onShow (page : ManagerPage) : ManagerPage := refresh { page with pageActive := true }

def onHide (page : ManagerPage) : ManagerPage :=
  { page with
    pageActive := false
    generation := page.generation + 1
    confirmingRemove := false }

def onUnload (page : ManagerPage) : ManagerPage := page.onHide

def rejectionText (rejection : Rejection) (otherwise : Bytes) : Bytes := rejection.getD otherwise

def resumeInspection (page : ManagerPage) (generation : ℕ)
    (answer : Except Rejection ManagerSnapshot) : ManagerPage :=
  let page := { page with inspections := page.inspections.erase generation }
  if page.stale generation then page
  else match answer with
    | .ok result => { page with snapshot := result }
    | .error rejection => { page with snapshot := { page.snapshot with
        available := false
        code := text "MANAGER_INSPECT_FAILED"
        detail := rejectionText rejection (text "检查失败") } }

/-- The part of `execute` before its promise. -/
def execute (page : ManagerPage) (operation : ManagerOperation) : ManagerPage :=
  let generation := page.generation + 1
  { page with
    generation
    busy := true
    overlayVisible := true
    confirmingRemove := false
    stageIndex := 1
    stageLabel := text "验签"
    overlayTitle := text "正在执行可信事务"
    overlayDetail := text "只验证编译内置的官方 Ed25519 发布密钥"
    transactionTimers := page.transactionTimers ++ [generation]
    operations := page.operations ++ [⟨generation, operation⟩] }

def selectOperation (page : ManagerPage) (operation : ManagerOperation) : ManagerPage :=
  if !operationEnabled { page.snapshot with busy := page.busy } operation then page
  else if operation = .remove then
    { page with
      stageIndex := 0
      stageLabel := text "需要确认"
      overlayTitle := text "移除 LVGL 平台？"
      overlayDetail := text "不会移除本管理器，也不会向 Falcon 或 miniapp 发送终止信号。"
      confirmingRemove := true
      overlayVisible := true }
  else page.execute operation

def confirmRemove (page : ManagerPage) : ManagerPage :=
  if !page.confirmingRemove || page.busy then page
  else execute { page with confirmingRemove := false } .remove

def transactionDue (page : ManagerPage) (generation : ℕ) : ManagerPage :=
  let page := { page with transactionTimers := page.transactionTimers.erase generation }
  if page.stale generation then page
  else { page with
    stageIndex := 2
    stageLabel := text "事务"
    overlayDetail := text "写入隔离暂存区并原子提交版本与状态" }

/-- The `catch` of an operation. -/
def operationFailed (page : ManagerPage) (generation : ℕ) (message : Bytes) : ManagerPage :=
  if page.stale generation then page
  else { page with
    stageIndex := 3
    stageLabel := text "失败关闭"
    overlayTitle := text "操作未生效"
    overlayDetail := message }

/-- The `finally` of an operation, after which it is no longer in flight. -/
def endOperation (page : ManagerPage) (call : OperationCall) : ManagerPage :=
  { page with
    transactionTimers := page.transactionTimers.erase call.generation
    operations := page.operations.erase call
    busy := if call.generation = page.generation then false else page.busy }

def resultText (result : ManagerSnapshot) : Bytes :=
  if result.detail = [] then result.code else result.detail

/-- The text of the error that a result without success throws; an empty message leaves its name. -/
def failureText (result : ManagerSnapshot) : Bytes :=
  if resultText result = [] then text "Error" else resultText result

def resumeOperation (page : ManagerPage) (call : OperationCall)
    (answer : Except Rejection ManagerSnapshot) : ManagerPage :=
  match answer with
  | .error rejection =>
    (page.operationFailed call.generation (rejectionText rejection (text "安全检查失败"))).endOperation call
  | .ok result =>
    if page.stale call.generation then page.endOperation call
    else
      let page := { page with stageIndex := 3, stageLabel := text "结果", snapshot := result }
      if !result.success then (page.operationFailed call.generation (failureText result)).endOperation call
      else
        { page with
          overlayTitle := if result.code = text "MANAGER_REMOVED" then text "平台已移除"
            else text "可信事务完成"
          overlayDetail := resultText result }.endOperation call

def closeOverlay (page : ManagerPage) : ManagerPage :=
  if page.busy then page
  else refresh { page with overlayVisible := false, confirmingRemove := false }

end ManagerPage

inductive ManagerEvent
  | show
  | hide
  | unload
  | select (operation : ManagerOperation)
  | confirm
  | close
  | inspected (generation : ℕ) (answer : Except Rejection ManagerSnapshot)
  | operated (call : OperationCall) (answer : Except Rejection ManagerSnapshot)
  | transactionDue (generation : ℕ)

def ManagerPage.step (page : ManagerPage) : ManagerEvent → Option ManagerPage
  | .show => some page.onShow
  | .hide => some page.onHide
  | .unload => some page.onUnload
  | .select operation => some (page.selectOperation operation)
  | .confirm => some page.confirmRemove
  | .close => some page.closeOverlay
  | .inspected generation answer =>
    if generation ∈ page.inspections then some (page.resumeInspection generation answer) else none
  | .operated call answer =>
    if call ∈ page.operations then some (page.resumeOperation call answer) else none
  | .transactionDue generation =>
    if generation ∈ page.transactionTimers then some (page.transactionDue generation) else none

def managerPageProcess : Process ManagerPage ManagerEvent where
  step := ManagerPage.step

namespace ManagerPage

structure Single (page : ManagerPage) : Prop where
  single : page.operations.length ≤ 1
  busy : page.operations ≠ [] → page.busy = true

def Released (page : ManagerPage) : Prop := page.busy = true → page.operations ≠ []

/-- An operation ends while the page is still of its generation. -/
def EndsCurrent (page : ManagerPage) : ManagerEvent → Prop
  | .operated call _ => call.generation = page.generation
  | _ => True

structure SameOperations (before after : ManagerPage) : Prop where
  operations : after.operations = before.operations
  busy : after.busy = before.busy
  generation : after.generation = before.generation

variable {page before after : ManagerPage} {operation : ManagerOperation} {call : OperationCall}
  {answer : Except Rejection ManagerSnapshot} {generation : ℕ}

lemma enabled_idle (h : operationEnabled { page.snapshot with busy := page.busy } operation = true) :
    page.busy = false := by
  refine Bool.eq_false_iff.mpr fun hbusy => ?_
  rw [operationEnabled.eq_def, if_pos hbusy] at h
  cases h

lemma operationFailed_same {message : Bytes} :
    SameOperations page (page.operationFailed generation message) := by
  rw [operationFailed]
  split
  · exact ⟨rfl, rfl, rfl⟩
  · exact ⟨rfl, rfl, rfl⟩

lemma SameOperations.trans (h : SameOperations page before) (h' : SameOperations before after) :
    SameOperations page after :=
  ⟨h'.operations.trans h.operations, h'.busy.trans h.busy, h'.generation.trans h.generation⟩

lemma resumeOperation_ends : ∃ between, SameOperations page between ∧
    page.resumeOperation call answer = between.endOperation call := by
  rw [resumeOperation.eq_def]
  split
  · exact ⟨_, operationFailed_same, rfl⟩
  split
  · exact ⟨page, ⟨rfl, rfl, rfl⟩, rfl⟩
  dsimp only
  split
  · refine ⟨_, SameOperations.trans ?_ operationFailed_same, rfl⟩
    exact ⟨rfl, rfl, rfl⟩
  · refine ⟨_, ?_, rfl⟩
    exact ⟨rfl, rfl, rfl⟩

lemma erase_single {calls : List OperationCall} (hsingle : calls.length ≤ 1) (hmem : call ∈ calls) :
    calls.erase call = [] := by
  obtain ⟨only, rfl⟩ := List.length_eq_one_iff.mp (le_antisymm hsingle (List.length_pos_of_mem hmem))
  rw [List.mem_singleton.mp hmem, List.erase_cons_head]

lemma resumeOperation_single (h : page.Single) (hmem : call ∈ page.operations) :
    (page.resumeOperation call answer).operations = [] := by
  obtain ⟨between, hsame, hends⟩ := @resumeOperation_ends page call answer
  rw [hends]
  change between.operations.erase call = []
  rw [hsame.operations]
  exact erase_single h.single hmem

lemma resumeOperation_released (hcurrent : call.generation = page.generation) :
    (page.resumeOperation call answer).busy = false := by
  obtain ⟨between, hsame, hends⟩ := @resumeOperation_ends page call answer
  rw [hends]
  change (if call.generation = between.generation then false else between.busy) = false
  rw [hsame.generation, if_pos hcurrent]

lemma resumeInspection_same :
    (page.resumeInspection generation answer).operations = page.operations ∧
      (page.resumeInspection generation answer).busy = page.busy := by
  rw [resumeInspection.eq_def]
  dsimp only
  split
  · exact ⟨rfl, rfl⟩
  split
  · exact ⟨rfl, rfl⟩
  · exact ⟨rfl, rfl⟩

lemma transactionDue_same :
    (page.transactionDue generation).operations = page.operations ∧
      (page.transactionDue generation).busy = page.busy := by
  rw [transactionDue]
  split
  · exact ⟨rfl, rfl⟩
  · exact ⟨rfl, rfl⟩

inductive OperationStep (before : ManagerPage) : ManagerPage → ManagerEvent → Prop
  | same {after : ManagerPage} {event : ManagerEvent} (hoperations : after.operations = before.operations)
      (hbusy : after.busy = before.busy) : OperationStep before after event
  | starts {after : ManagerPage} {event : ManagerEvent} (call : OperationCall) (hidle : before.busy = false)
      (hoperations : after.operations = before.operations ++ [call]) (hbusy : after.busy = true) :
      OperationStep before after event
  | ends (call : OperationCall) (answer : Except Rejection ManagerSnapshot) (hmem : call ∈ before.operations) :
      OperationStep before (before.resumeOperation call answer) (.operated call answer)

lemma selectOperation_step {event : ManagerEvent} :
    OperationStep page (page.selectOperation operation) event := by
  rw [selectOperation]
  split
  · exact .same rfl rfl
  rename_i henabled
  split
  · exact .same rfl rfl
  · exact .starts _ (enabled_idle (by simpa using henabled)) rfl rfl

lemma confirmRemove_step {event : ManagerEvent} : OperationStep page page.confirmRemove event := by
  rw [confirmRemove]
  split
  · exact .same rfl rfl
  · rename_i hconfirms
    refine .starts ⟨page.generation + 1, .remove⟩ ?_ rfl rfl
    simp only [Bool.or_eq_true, not_or] at hconfirms
    exact Bool.eq_false_iff.mpr hconfirms.2

lemma step_operations {event : ManagerEvent} (hstep : before.step event = some after) :
    OperationStep before after event := by
  cases event with
  | «show» =>
    obtain rfl := Option.some.inj hstep
    exact .same rfl rfl
  | hide =>
    obtain rfl := Option.some.inj hstep
    exact .same rfl rfl
  | unload =>
    obtain rfl := Option.some.inj hstep
    exact .same rfl rfl
  | select operation =>
    obtain rfl := Option.some.inj hstep
    exact selectOperation_step
  | confirm =>
    obtain rfl := Option.some.inj hstep
    exact confirmRemove_step
  | close =>
    obtain rfl := Option.some.inj hstep
    rw [closeOverlay]
    split
    · exact .same rfl rfl
    · exact .same rfl rfl
  | inspected generation answer =>
    obtain ⟨-, hafter⟩ := Option.ite_none_right_eq_some.mp hstep
    rw [← Option.some.inj hafter]
    exact .same resumeInspection_same.1 resumeInspection_same.2
  | operated call answer =>
    obtain ⟨hmem, hafter⟩ := Option.ite_none_right_eq_some.mp hstep
    rw [← Option.some.inj hafter]
    exact .ends call answer hmem
  | transactionDue generation =>
    obtain ⟨-, hafter⟩ := Option.ite_none_right_eq_some.mp hstep
    rw [← Option.some.inj hafter]
    exact .same transactionDue_same.1 transactionDue_same.2

lemma Single.step {event : ManagerEvent} (h : before.Single) (hstep : before.step event = some after) :
    after.Single := by
  cases step_operations hstep with
  | same hoperations hbusy =>
    constructor
    · rw [hoperations]
      exact h.single
    · rw [hoperations, hbusy]
      exact h.busy
  | starts call hidle hoperations hbusy =>
    have hnone : before.operations = [] := by
      by_contra hsome
      exact Bool.false_ne_true (hidle.symm.trans (h.busy hsome))
    refine ⟨?_, fun _ => hbusy⟩
    rw [hoperations, hnone]
    exact le_refl 1
  | ends call answer hmem =>
    have hnone : (before.resumeOperation call answer).operations = [] := resumeOperation_single h hmem
    exact ⟨by rw [hnone]; exact Nat.zero_le 1, fun hsome => absurd hnone hsome⟩

lemma Released.step {event : ManagerEvent} (h : before.Released) (hcurrent : before.EndsCurrent event)
    (hstep : before.step event = some after) : after.Released := by
  cases step_operations hstep with
  | same hoperations hbusy =>
    rw [Released, hoperations, hbusy]
    exact h
  | starts call hidle hoperations hbusy =>
    intro _
    rw [hoperations]
    exact List.append_ne_nil_of_right_ne_nil _ (List.cons_ne_nil _ _)
  | ends call answer hmem =>
    intro hbusy
    rw [resumeOperation_released hcurrent] at hbusy
    cases hbusy

lemma single_initial : Single {} := ⟨Nat.zero_le 1, fun hsome => absurd rfl hsome⟩

lemma released_initial : Released {} := nofun

structure Responsive (page : ManagerPage) : Prop where
  close : page.closeOverlay.overlayVisible = false ∧ page.closeOverlay.confirmingRemove = false ∧
    page.generation + 1 ∈ page.closeOverlay.inspections
  operate : ∀ operation, operation ≠ .remove →
    operationEnabled { page.snapshot with busy := false } operation = true →
      ⟨page.generation + 1, operation⟩ ∈ (page.selectOperation operation).operations
  remove : operationEnabled { page.snapshot with busy := false } .remove = true →
    (page.selectOperation .remove).confirmingRemove = true ∧
      (page.selectOperation .remove).overlayVisible = true ∧
      ⟨page.generation + 1, .remove⟩ ∈ (page.selectOperation .remove).confirmRemove.operations

lemma responsive_of_idle (hidle : page.busy = false) : page.Responsive := by
  refine ⟨?_, fun operation hremove henabled => ?_, fun henabled => ?_⟩
  · rw [closeOverlay, hidle, if_neg Bool.false_ne_true]
    exact ⟨rfl, rfl, List.mem_append_right _ (List.mem_singleton_self _)⟩
  · rw [selectOperation, hidle, henabled, if_neg (by decide), if_neg hremove]
    exact List.mem_append_right _ (List.mem_singleton_self _)
  · rw [selectOperation, hidle, henabled, if_neg (by decide), if_pos rfl]
    refine ⟨rfl, rfl, ?_⟩
    rw [confirmRemove, if_neg (by simp)]
    exact List.mem_append_right _ (List.mem_singleton_self _)

end ManagerPage

/-- At most one operation is ever in flight; and when every operation ends while the page is of its
generation, the page is busy only meanwhile, and it responds when none is pending. -/
theorem operations_follow_page (events : List ManagerEvent) (page : ManagerPage)
    (hrun : managerPageProcess.run {} events = some page) :
    page.operations.length ≤ 1 ∧
      (managerPageProcess.Along ManagerPage.EndsCurrent {} events →
        (page.busy = true → page.operations ≠ []) ∧
        (page.pageActive = true → page.operations = [] → page.Responsive)) := by
  have hsingle : page.Single := Process.run_keeps (P := managerPageProcess)
    (fun before event after h hstep => h.step hstep) ManagerPage.single_initial hrun
  refine ⟨hsingle.single, fun hcurrent => ?_⟩
  have hreleased : page.Released := Process.run_invariant (P := managerPageProcess)
    (fun before event after h hcurrent hstep => h.step hcurrent hstep) ManagerPage.released_initial
    hcurrent hrun
  refine ⟨hreleased, fun _ hnone => ManagerPage.responsive_of_idle ?_⟩
  exact Bool.eq_false_iff.mpr fun hbusy => hreleased hbusy hnone

def repairedSnapshot : ManagerSnapshot where
  success := true
  available := true
  payloadAvailable := true
  installed := true
  code := text "MANAGER_REPAIRED"

def repairedEvents : List ManagerEvent :=
  [.show, .inspected 1 (.ok repairedSnapshot), .select .repair, .operated ⟨2, .repair⟩ (.ok repairedSnapshot)]

theorem repaired_page_responds :
    ∃ page, managerPageProcess.run {} repairedEvents = some page ∧ page.operations.length ≤ 1 ∧
      (page.busy = true → page.operations ≠ []) ∧
      (page.pageActive = true → page.operations = [] → page.Responsive) := by
  obtain ⟨hsingle, hfollow⟩ := operations_follow_page repairedEvents _ rfl
  refine ⟨_, rfl, hsingle, hfollow ?_⟩
  refine ⟨trivial, fun shown hshown => ⟨trivial, fun inspected hinspected => ⟨trivial, fun started hstarted =>
    ⟨?_, fun _ _ => trivial⟩⟩⟩⟩
  obtain rfl := Option.some.inj hshown
  obtain rfl := Option.some.inj hinspected
  obtain rfl := Option.some.inj hstarted
  rfl

/-- The page is hidden during a repair, and stays busy when it is over. -/
theorem hidden_page_stays_busy :
    ¬ ∀ (events : List ManagerEvent) (page : ManagerPage),
      managerPageProcess.run {} events = some page →
        page.operations.length ≤ 1 ∧ (page.busy = true → page.operations ≠ []) ∧
          (page.pageActive = true → page.operations = [] → page.Responsive) := by
  intro hfollow
  obtain ⟨-, hreleased, -⟩ := hfollow [.show, .inspected 1 (.ok repairedSnapshot), .select .repair, .hide,
    .operated ⟨2, .repair⟩ (.ok repairedSnapshot), .show] _ rfl
  exact hreleased rfl rfl

end LvglPlatform

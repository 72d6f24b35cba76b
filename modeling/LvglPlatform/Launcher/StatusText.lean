import LvglPlatform.Launcher.Launcher

namespace LvglPlatform

open Foundation

/-- A key and a value that can stand on a line of a status text. -/
structure PlainField (field : Bytes × Bytes) : Prop where
  key : field.1 ≠ [] ∧ field.1.length ≤ 32
  value : field.2.length ≤ 128
  separator : chr '=' ∉ field.1
  newline : chr '\n' ∉ field.1 ∧ chr '\n' ∉ field.2
  carriage : chr '\r' ∉ field.2

lemma parseStatus_flatMap {fields : List (Bytes × Bytes)} (h : ∀ field ∈ fields, PlainField field) :
    parseStatus (fields.flatMap fun field => (field.1 ++ chr '=' :: field.2) ++ [chr '\n']) =
      fields := by
  have hlines : linesOf (chr '\n')
      (fields.flatMap fun field => (field.1 ++ chr '=' :: field.2) ++ [chr '\n']) =
      fields.map fun field => field.1 ++ chr '=' :: field.2 := by
    rw [← List.flatMap_map (fun field : Bytes × Bytes => field.1 ++ chr '=' :: field.2)
      (fun line => line ++ [chr '\n'])]
    apply linesOf_flatMap
    intro line hline hmem
    obtain ⟨field, hfield, rfl⟩ := List.mem_map.mp hline
    obtain ⟨hkey, hvalue⟩ := (h field hfield).newline
    rcases List.mem_append.mp hmem with hmem | hmem
    · exact hkey hmem
    rcases List.mem_cons.mp hmem with hmem | hmem
    · exact absurd hmem (by decide)
    · exact hvalue hmem
  rw [parseStatus, hlines, List.filterMap_map]
  refine (List.filterMap_congr fun field hfield => ?_).trans List.filterMap_some
  obtain ⟨⟨hkey, hshort⟩, hvalue, hseparator, -, hcarriage⟩ := h field hfield
  have hlast : (field.1 ++ chr '=' :: field.2).getLast? ≠ some (chr '\r') := by
    intro hlast
    rw [List.getLast?_append_of_ne_nil _ (List.cons_ne_nil _ _)] at hlast
    rcases List.mem_cons.mp (List.mem_of_getLast? hlast) with hmem | hmem
    · exact absurd hmem (by decide)
    · exact hcarriage hmem
  simp only [Function.comp_apply, if_neg hlast, splitFirst_append hseparator]
  rw [if_neg]
  rintro (h | h | h)
  · exact hkey h
  · omega
  · omega

lemma int32_length (n : Int32) : (signedDecimal n.toInt).length ≤ 128 := by
  have hlow := n.le_toInt
  have hhigh := n.toInt_lt
  refine (signedDecimal_length (e := 10) (by omega) ?_).trans (by omega)
  omega

lemma stateName_plain (state : SessionState) : state.stateName.length ≤ 128 ∧
    chr '\n' ∉ state.stateName ∧ chr '\r' ∉ state.stateName := by
  cases state <;> decide

lemma flagText_plain (value : Bool) : (flagText value).length ≤ 128 ∧
    chr '\n' ∉ flagText value ∧ chr '\r' ∉ flagText value := by
  cases value <;> decide

lemma int32_plain (n : Int32) : (signedDecimal n.toInt).length ≤ 128 ∧
    chr '\n' ∉ signedDecimal n.toInt ∧ chr '\r' ∉ signedDecimal n.toInt :=
  ⟨int32_length n, fun h => absurd (signedDecimal_range h) (by decide),
    fun h => absurd (signedDecimal_range h) (by decide)⟩

lemma uint64_plain (n : UInt64) : (decimal n.toNat).length ≤ 128 ∧
    chr '\n' ∉ decimal n.toNat ∧ chr '\r' ∉ decimal n.toNat := by
  have hlt := n.toNat_lt
  refine ⟨(decimal_length (e := 20) (by omega) (by omega)).trans (by omega),
    fun h => absurd (decimal_range h).1 (by decide), fun h => absurd (decimal_range h).1 (by decide)⟩

lemma SessionStatusDocument.fields_plain (status : SessionStatusDocument) :
    ∀ field ∈ status.fields, PlainField field := by
  have hkeys : ∀ key ∈ status.fields.map Prod.fst, key ≠ [] ∧ key.length ≤ 32 ∧ chr '=' ∉ key ∧
      chr '\n' ∉ key := by
    change ∀ key ∈ [text "SESSION_PID", text "SESSION_NONCE", text "STATE", text "RESULT",
      text "HOLE_READY", text "INPUT_READY", text "LOGICAL_WIDTH", text "LOGICAL_HEIGHT"], _
    decide
  have hvalues : ∀ field ∈ status.fields, field.2.length ≤ 128 ∧ chr '\n' ∉ field.2 ∧
      chr '\r' ∉ field.2 := by
    simp only [fields, List.forall_mem_cons, List.not_mem_nil, false_imp_iff, implies_true, and_true]
    exact ⟨int32_plain _, uint64_plain _, stateName_plain _, int32_plain _, flagText_plain _,
      flagText_plain _, int32_plain _, int32_plain _⟩
  intro field hfield
  obtain ⟨hkey, hshort, hseparator, hnewline⟩ :=
    hkeys field.1 (List.mem_map_of_mem hfield)
  obtain ⟨hvalue, hvalueNewline, hcarriage⟩ := hvalues field hfield
  exact ⟨⟨hkey, hshort⟩, hvalue, hseparator, ⟨hnewline, hvalueNewline⟩, hcarriage⟩

structure ReadsDocument (values : List (Bytes × Bytes)) (status : SessionStatusDocument) : Prop where
  nonce : parseUnsigned values (text "SESSION_NONCE") = status.sessionNonce
  width : (parseUnsigned values (text "LOGICAL_WIDTH")).toNat = status.logicalWidth.toInt
  height : (parseUnsigned values (text "LOGICAL_HEIGHT")).toNat = status.logicalHeight.toInt

lemma strtoull_nonnegative {n : Int32} (h : 0 ≤ n) :
    strtoull (signedDecimal n.toInt) = some (UInt64.ofNat n.toInt.toNat) := by
  have hnonnegative : 0 ≤ n.toInt := Int32.le_iff_toInt_le.mp h
  have hlt := n.toInt_lt
  rw [signedDecimal, if_neg (by omega), show n.toInt.natAbs = n.toInt.toNat by omega]
  exact strtoull_decimal (by omega)

lemma parseUnsigned_int32 {values : List (Bytes × Bytes)} {key : Bytes} {n : Int32} (h : 0 ≤ n)
    (hvalue : statusValue values key = some (signedDecimal n.toInt)) :
    (parseUnsigned values key).toNat = n.toInt := by
  have hnonnegative : 0 ≤ n.toInt := Int32.le_iff_toInt_le.mp h
  have hlt := n.toInt_lt
  rw [parseUnsigned, hvalue, Option.bind_some, strtoull_nonnegative h, Option.getD_some,
    UInt64.toNat_ofNat', Nat.mod_eq_of_lt (by omega)]
  omega

lemma parseUnsigned_uint64 {values : List (Bytes × Bytes)} {key : Bytes} {n : UInt64}
    (hvalue : statusValue values key = some (decimal n.toNat)) : parseUnsigned values key = n := by
  rw [parseUnsigned, hvalue, Option.bind_some, strtoull_decimal n.toNat_lt, Option.getD_some,
    UInt64.ofNat_toNat]

lemma flag_flagText {values : List (Bytes × Bytes)} {key : Bytes} {value : Bool}
    (hvalue : statusValue values key = some (flagText value)) : flag values key = value := by
  rw [flag, hvalue]
  cases value <;> decide

structure Published (status : SessionStatusDocument) : Prop where
  sessionPid : 1 < status.sessionPid
  sessionNonce : status.sessionNonce ≠ 0
  result : 0 ≤ status.result
  width : 0 < status.logicalWidth
  height : 0 < status.logicalHeight
  ready : status.state ≠ .ready → status.holeReady = false ∧ status.inputReady = false
  hole : status.inputReady = true → status.holeReady = true

lemma encodeSessionStatus_cases (status : SessionStatusDocument) : encodeSessionStatus status = [] ∨
    Published status ∧ parseStatus (encodeSessionStatus status) = status.fields := by
  rw [encodeSessionStatus]
  split
  · exact .inl rfl
  · rename_i hvalid
    simp only [not_or, Int32.not_le, Int32.not_lt, not_and, Bool.not_eq_true', Bool.not_eq_false,
      Bool.not_eq_true] at hvalid
    obtain ⟨hpid, hnonce, hresult, hwidth, hheight, hready, hhole⟩ := hvalid
    exact .inr ⟨⟨hpid, hnonce, hresult, hwidth, hheight, hready, hhole⟩,
      parseStatus_flatMap status.fields_plain⟩

lemma parseStatus_encode (status : SessionStatusDocument) :
    parseStatus (encodeSessionStatus status) = [] ∨
      ReadsDocument (parseStatus (encodeSessionStatus status)) status := by
  rcases encodeSessionStatus_cases status with hempty | ⟨hpublished, hfields⟩
  · left
    rw [hempty]
    rfl
  · right
    rw [hfields]
    exact ⟨parseUnsigned_uint64 rfl, parseUnsigned_int32 (Int32.le_of_lt hpublished.width) rfl,
      parseUnsigned_int32 (Int32.le_of_lt hpublished.height) rfl⟩

structure RecoversDocument (values : List (Bytes × Bytes)) (status : SessionStatusDocument) : Prop where
  sessionPid : (parseUnsigned values (text "SESSION_PID")).toNat = status.sessionPid.toInt
  sessionNonce : parseUnsigned values (text "SESSION_NONCE") = status.sessionNonce
  state : statusValue values (text "STATE") = some status.state.stateName
  result : (parseUnsigned values (text "RESULT")).toNat = status.result.toInt
  holeReady : flag values (text "HOLE_READY") = status.holeReady
  inputReady : flag values (text "INPUT_READY") = status.inputReady
  logicalWidth : (parseUnsigned values (text "LOGICAL_WIDTH")).toNat = status.logicalWidth.toInt
  logicalHeight : (parseUnsigned values (text "LOGICAL_HEIGHT")).toNat = status.logicalHeight.toInt

lemma stateName_injective : Function.Injective SessionState.stateName := by
  intro a b h
  cases a <;> cases b <;> first | rfl | exact absurd h (by decide)

lemma RecoversDocument.unique {values : List (Bytes × Bytes)} {a b : SessionStatusDocument}
    (ha : RecoversDocument values a) (hb : RecoversDocument values b) : a = b := by
  obtain ⟨pid, nonce, state, result, hole, input, width, height⟩ := a
  obtain ⟨pid', nonce', state', result', hole', input', width', height'⟩ := b
  obtain rfl : pid = pid' := Int32.toInt_inj.mp (ha.sessionPid.symm.trans hb.sessionPid)
  obtain rfl : nonce = nonce' := ha.sessionNonce.symm.trans hb.sessionNonce
  obtain rfl : state = state' := stateName_injective (Option.some.inj (ha.state.symm.trans hb.state))
  obtain rfl : result = result' := Int32.toInt_inj.mp (ha.result.symm.trans hb.result)
  obtain rfl : hole = hole' := ha.holeReady.symm.trans hb.holeReady
  obtain rfl : input = input' := ha.inputReady.symm.trans hb.inputReady
  obtain rfl : width = width' := Int32.toInt_inj.mp (ha.logicalWidth.symm.trans hb.logicalWidth)
  obtain rfl : height = height' := Int32.toInt_inj.mp (ha.logicalHeight.symm.trans hb.logicalHeight)
  rfl

/-- What the launcher makes of the state; it has no state of its own for a session that has stopped. -/
def shownState : SessionState → LauncherState
  | .starting => .starting
  | .ready => .ready
  | .error => .error
  | .stopped => .idle

lemma RecoversDocument.launcherState {values : List (Bytes × Bytes)} {status : SessionStatusDocument}
    (h : RecoversDocument values status) : launcherState values = shownState status.state := by
  rw [LvglPlatform.launcherState, h.state]
  cases status.state <;> decide

lemma flatMap_length_le {fields : List (Bytes × Bytes)} (h : ∀ field ∈ fields, PlainField field) :
    (fields.flatMap fun field => (field.1 ++ chr '=' :: field.2) ++ [chr '\n']).length ≤
      162 * fields.length := by
  induction fields with
  | nil => rfl
  | cons field fields ih =>
    obtain ⟨hfield, hfields⟩ := List.forall_mem_cons.mp h
    have hkey := hfield.key.2
    have hvalue := hfield.value
    have hrest := ih hfields
    simp only [List.flatMap_cons, List.length_append, List.length_cons, List.length_nil] at hrest ⊢
    omega

/-- A document that has a text is read back from it: nothing else reads as this text, and the text is not
too long for the launcher. -/
theorem published_status_recovered (status : SessionStatusDocument) (h : encodeSessionStatus status ≠ []) :
    (encodeSessionStatus status).length ≤ 4096 ∧
      RecoversDocument (parseStatus (encodeSessionStatus status)) status ∧
      launcherState (parseStatus (encodeSessionStatus status)) = shownState status.state ∧
      ∀ other, encodeSessionStatus other = encodeSessionStatus status → other = status := by
  have hrecovers : ∀ status, encodeSessionStatus status ≠ [] →
      RecoversDocument (parseStatus (encodeSessionStatus status)) status := by
    intro status h
    obtain ⟨hpublished, hfields⟩ := (encodeSessionStatus_cases status).resolve_left h
    rw [hfields]
    exact ⟨parseUnsigned_int32 (Int32.le_of_lt (Int32.lt_trans (by decide) hpublished.sessionPid)) rfl,
      parseUnsigned_uint64 rfl, rfl, parseUnsigned_int32 hpublished.result rfl, flag_flagText rfl,
      flag_flagText rfl, parseUnsigned_int32 (Int32.le_of_lt hpublished.width) rfl,
      parseUnsigned_int32 (Int32.le_of_lt hpublished.height) rfl⟩
  have hlength : (encodeSessionStatus status).length ≤ 4096 := by
    rw [encodeSessionStatus]
    split
    · exact Nat.zero_le _
    · exact (flatMap_length_le status.fields_plain).trans (by change 162 * 8 ≤ 4096; omega)
  refine ⟨hlength, hrecovers status h, (hrecovers status h).launcherState, fun other hother => ?_⟩
  have hread := hrecovers other (by rwa [hother])
  rw [hother] at hread
  exact hread.unique (hrecovers status h)

def stoppedDocument : SessionStatusDocument :=
  { sessionPid := 2, sessionNonce := 18446744073709551615, state := .stopped, result := 2147483647,
    logicalWidth := 1, logicalHeight := 480 }

theorem stopped_document_recovered :
    RecoversDocument (parseStatus (encodeSessionStatus stoppedDocument)) stoppedDocument :=
  (published_status_recovered stoppedDocument (by decide)).2.1

end LvglPlatform

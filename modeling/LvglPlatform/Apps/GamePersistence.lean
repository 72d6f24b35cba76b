import LvglPlatform.Apps.GameConsistency
import LvglPlatform.Platform.Primitives

namespace LvglPlatform

open Foundation

def gameStateWireSize : ℕ := 128

def gameMagic : Bytes := text "G2048V01"

def crcBit (value : UInt32) : UInt32 := (value >>> 1) ^^^ (0xedb88320 &&& (0 - (value &&& 1)))

def crc32 (bytes : Bytes) : UInt32 :=
  ~~~bytes.foldl (fun value byte => crcBit^[8] (value ^^^ byte.toUInt32)) 0xffffffff

def GamePhase.code : GamePhase → ℕ
  | .playing => 0
  | .won => 1
  | .lost => 2

def GamePhase.ofCode : ℕ → GamePhase
  | 0 => .playing
  | 1 => .won
  | _ => .lost

def boardFields (board : Board) : List Bytes := board.toList.map fun value => littleEndian 2 value.toNat

def putBoard (board : Board) : Bytes := (boardFields board).flatten

def getBoard (bytes : Bytes) (offset : ℕ) : Board :=
  .ofFn fun index => readU16 bytes (offset + index.val * 2)

/-- What stands in the record after the checksum. -/
def stateFields (state : PersistentGameState) : List Bytes :=
  [putBoard state.board,
    littleEndian 4 state.score.toNat,
    littleEndian 4 state.bestScore.toNat,
    littleEndian 8 state.randomState.toNat,
    littleEndian 1 state.phase.code,
    littleEndian 1 (if state.undoValid then 1 else 0),
    List.replicate 2 0,
    putBoard state.undoBoard,
    littleEndian 4 state.undoScore.toNat,
    littleEndian 8 state.undoRandomState.toNat,
    littleEndian 1 state.undoPhase.code,
    List.replicate 15 0]

def gameFields (state : PersistentGameState) : List Bytes :=
  gameMagic :: littleEndian 2 gameStateWireSize :: littleEndian 2 1 ::
    littleEndian 4 (crc32 (stateFields state).flatten).toNat :: stateFields state

def encodeGameState (state : PersistentGameState) : Bytes := (gameFields state).flatten

def decodeGameState (bytes : Bytes) : Option PersistentGameState :=
  if bytes.length ≠ gameStateWireSize ∨ slice bytes 0 8 ≠ gameMagic ∨
      value (slice bytes 8 2) ≠ gameStateWireSize ∨ value (slice bytes 10 2) ≠ 1 ∨
      readU32 bytes 12 ≠ crc32 (bytes.drop 16) ∨
      value (slice bytes 64 1) > GamePhase.lost.code ∨ value (slice bytes 65 1) > 1 ∨
      value (slice bytes 66 1) ≠ 0 ∨ value (slice bytes 67 1) ≠ 0 ∨
      value (slice bytes 112 1) > GamePhase.lost.code ∨ !allZero (bytes.drop 113) then none
  else some {
    board := getBoard bytes 16
    score := readU32 bytes 48
    bestScore := readU32 bytes 52
    randomState := readU64 bytes 56
    phase := .ofCode (value (slice bytes 64 1))
    undoValid := value (slice bytes 65 1) = 1
    undoBoard := getBoard bytes 68
    undoScore := readU32 bytes 100
    undoRandomState := readU64 bytes 104
    undoPhase := .ofCode (value (slice bytes 112 1)) }

section

variable {board : Board} {bytes : Bytes} {offset : ℕ}

lemma boardFields_length : ∀ field ∈ boardFields board, field.length = 2 := by
  intro field hfield
  obtain ⟨value, -, rfl⟩ := List.mem_map.mp hfield
  exact littleEndian_length 2 value.toNat

lemma boardFields_offset {k : ℕ} (hk : k ≤ 16) : offsetOf (boardFields board) k = k * 2 := by
  have htwo : ((boardFields board).take k).map List.length = List.replicate k 2 := by
    rw [List.eq_replicate_iff]
    refine ⟨by simp [boardFields, hk], ?_⟩
    intro length hlength
    obtain ⟨field, hfield, rfl⟩ := List.mem_map.mp hlength
    exact boardFields_length field (List.mem_of_mem_take hfield)
  rw [offsetOf, htwo, List.sum_replicate, smul_eq_mul]

@[simp] lemma putBoard_length (board : Board) : (putBoard board).length = 32 := by
  have hall : (boardFields board).take 16 = boardFields board :=
    List.take_of_length_le (by simp [boardFields])
  have hoffset := @boardFields_offset board 16 le_rfl
  rw [offsetOf, hall] at hoffset
  rw [putBoard, List.length_flatten, hoffset]

lemma getBoard_of_slice (h : slice bytes offset 32 = putBoard board) : getBoard bytes offset = board := by
  refine Vector.ext fun i hi => ?_
  rw [getBoard, Vector.getElem_ofFn]
  apply readU16_of_slice
  have hslice : slice bytes (offset + i * 2) 2 = slice (putBoard board) (i * 2) 2 := by
    rw [← h, slice_slice (by omega)]
  rw [hslice]
  refine slice_field i ?_ (boardFields_offset hi.le).symm (by simp)
  rw [boardFields, List.getElem?_map, Vector.getElem?_toList]
  simp [hi]

end

lemma GamePhase.ofCode_code (phase : GamePhase) : GamePhase.ofCode phase.code = phase := by
  cases phase with
  | playing => rfl
  | won => rfl
  | lost => rfl

lemma GamePhase.code_le (phase : GamePhase) : phase.code ≤ GamePhase.lost.code := by
  cases phase with
  | playing => decide
  | won => decide
  | lost => decide

lemma stateFields_length (state : PersistentGameState) : (stateFields state).flatten.length = 112 := by
  simp [stateFields]

lemma encodeGameState_length (state : PersistentGameState) :
    (encodeGameState state).length = gameStateWireSize := by
  have hmagic : gameMagic.length = 8 := rfl
  simp only [encodeGameState, gameFields, List.flatten_cons, List.length_append, littleEndian_length,
    stateFields_length, hmagic]
  rfl

lemma drop_encodeGameState (state : PersistentGameState) :
    (encodeGameState state).drop 16 = (stateFields state).flatten := by
  have hsplit : encodeGameState state =
      (gameMagic ++ littleEndian 2 gameStateWireSize ++ littleEndian 2 1 ++
        littleEndian 4 (crc32 (stateFields state).flatten).toNat) ++ (stateFields state).flatten := by
    simp only [encodeGameState, gameFields, List.flatten_cons, List.append_assoc]
  rw [hsplit]
  exact List.drop_left' (by simp; rfl)

lemma decodeGameState_encode (state : PersistentGameState) :
    decodeGameState (encodeGameState state) = some state := by
  have hlength := encodeGameState_length state
  have hfields : FieldsAt (encodeGameState state) 0 (gameFields state) := fieldsAt_flatten _
  have hmagic : gameMagic.length = 8 := rfl
  have hchecked := drop_encodeGameState state
  generalize encodeGameState state = bytes at hlength hfields hchecked
  simp only [gameFields, stateFields, FieldsAt, littleEndian_length, putBoard_length, hmagic,
    List.length_replicate, Nat.reduceAdd, and_true] at hfields
  obtain ⟨hstart, hsize, hversion, hcrc, hboard, hscore, hbest, hrandom, hphase, hvalid, hzero, hundoBoard,
    hundoScore, hundoRandom, hundoPhase, hrest⟩ := hfields
  have hphaseCode : value (slice bytes 64 1) = state.phase.code := by
    rw [hphase, value_littleEndian_of_lt (state.phase.code_le.trans_lt (by decide))]
  have hundoCode : value (slice bytes 112 1) = state.undoPhase.code := by
    rw [hundoPhase, value_littleEndian_of_lt (state.undoPhase.code_le.trans_lt (by decide))]
  have hvalidCode : value (slice bytes 65 1) = if state.undoValid then 1 else 0 := by
    rw [hvalid, value_littleEndian_of_lt]
    split
    · decide
    · decide
  have hreserved : value (slice bytes 66 1) = 0 ∧ value (slice bytes 67 1) = 0 := by
    have hfirst : slice (slice bytes 66 2) 0 1 = slice bytes 66 1 := slice_slice (by decide)
    have hsecond : slice (slice bytes 66 2) 1 1 = slice bytes 67 1 := slice_slice (by decide)
    rw [← hfirst, ← hsecond, hzero]
    decide
  have hpadding : allZero (bytes.drop 113) = true := by
    have hdrop : slice bytes 113 15 = bytes.drop 113 := by
      rw [slice, List.take_of_length_le]
      rw [List.length_drop, hlength, gameStateWireSize]
    rw [← hdrop, hrest]
    exact allZero_replicate 15
  rw [decodeGameState, hphaseCode, hundoCode, hvalidCode, hchecked, if_neg]
  · rw [getBoard_of_slice hboard, readU32_of_slice hscore, readU32_of_slice hbest,
      readU64_of_slice hrandom, getBoard_of_slice hundoBoard, readU32_of_slice hundoScore,
      readU64_of_slice hundoRandom, GamePhase.ofCode_code, GamePhase.ofCode_code]
    cases state with
    | mk board score bestScore phase randomState undoBoard undoScore undoPhase undoRandomState undoValid =>
      cases undoValid with
      | true => rfl
      | false => rfl
  · have hflag : (if state.undoValid then 1 else 0) ≤ 1 := by
      split
      · decide
      · decide
    have hphaseCode := state.phase.code_le
    have hundoCode := state.undoPhase.code_le
    rw [readU32_of_slice hcrc, hsize, hversion, hpadding]
    simp only [not_or, not_not, not_lt, gt_iff_lt, Bool.not_true, Bool.false_eq_true, not_false_eq_true]
    exact ⟨hlength, hstart, by decide, by decide, rfl, hphaseCode, hflag, hreserved.1, hreserved.2,
      hundoCode, trivial⟩

/-- A game played from a seed is kept as it is: its record is read back, and any other game that takes the
state of it over goes on as it would have. -/
theorem played_game_restored (seed : UInt64) (operations : List GameOperation) :
    let game := (Game2048.machine seed).run operations
    decodeGameState (encodeGameState game.persistentState) = some game.persistentState ∧
      ∀ other : Game2048, (other.restoreState game.persistentState).1 = true ∧
        (other.restoreState game.persistentState).2 = game ∧
        ∀ further, (other.restoreState game.persistentState).2.answers further = game.answers further := by
  intro game
  have hgame : game.Consistent := Game2048.consistent_run seed operations
  refine ⟨decodeGameState_encode _, fun other => ?_⟩
  rw [hgame.restoreState_eq other]
  exact ⟨rfl, rfl, fun _ => rfl⟩

end LvglPlatform

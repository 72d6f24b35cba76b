import LvglPlatform.Foundation.Machine

namespace LvglPlatform

open Foundation

inductive MoveDirection
  | left
  | right
  | up
  | down
  deriving DecidableEq

inductive GamePhase
  | playing
  | won
  | lost
  deriving DecidableEq

abbrev Board := Vector UInt16 16

structure LineMove where
  values : Vector UInt16 4 := .replicate 4 0
  scoreDelta : UInt32 := 0
  mergeMask : UInt8 := 0
  changed : Bool := false
  deriving DecidableEq

structure TileMotion where
  fromCell : Fin 16
  toCell : Fin 16
  value : UInt16
  merged : Bool
  deriving DecidableEq

/-- What a move has done; the motions are the first `motion_count` of them. -/
structure MoveOutcome where
  changed : Bool := false
  scoreDelta : UInt32 := 0
  motions : List TileMotion := []
  spawnedCell : ℕ := 255
  spawnedValue : UInt16 := 0
  deriving DecidableEq

structure PersistentGameState where
  board : Board := .replicate 16 0
  score : UInt32 := 0
  bestScore : UInt32 := 0
  phase : GamePhase := .playing
  randomState : UInt64 := 1
  undoBoard : Board := .replicate 16 0
  undoScore : UInt32 := 0
  undoPhase : GamePhase := .playing
  undoRandomState : UInt64 := 1
  undoValid : Bool := false
  deriving DecidableEq

structure Snapshot where
  board : Board := .replicate 16 0
  score : UInt32 := 0
  phase : GamePhase := .playing
  randomState : UInt64 := 1
  deriving DecidableEq

structure Game2048 where
  board : Board := .replicate 16 0
  score : UInt32 := 0
  bestScore : UInt32 := 0
  phase : GamePhase := .playing
  randomState : UInt64 := 1
  undoSnapshot : Snapshot := {}
  undoValid : Bool := false
  deriving DecidableEq

/-- The tiles of a line that are left, from the output cell on. -/
def collapseTiles : LineMove → ℕ → List UInt16 → LineMove
  | result, _, [] => result
  | result, output, [value] => { result with values := result.values.setIfInBounds output value }
  | result, output, value :: next :: rest =>
    if next = value then
      -- a tile that cannot be doubled any more stays as it is
      let value := if value ≤ 65535 / 2 then value * 2 else value
      collapseTiles { result with
        values := result.values.setIfInBounds output value
        scoreDelta := result.scoreDelta + value.toUInt32
        mergeMask := result.mergeMask ||| (1 <<< UInt8.ofNat output) } (output + 1) rest
    else
      collapseTiles { result with values := result.values.setIfInBounds output value } (output + 1)
        (next :: rest)

def collapseLine (input : Vector UInt16 4) : LineMove :=
  let compact := input.toList.filter (· ≠ 0)
  let result := collapseTiles {} 0 compact
  { result with changed := result.values ≠ input }

def cell (direction : MoveDirection) (line offset : Fin 4) : Fin 16 :=
  match direction with
  | .left => ⟨line.val * 4 + offset.val, by omega⟩
  | .right => ⟨line.val * 4 + (3 - offset.val), by omega⟩
  | .up => ⟨offset.val * 4 + line.val, by omega⟩
  | .down => ⟨(3 - offset.val) * 4 + line.val, by omega⟩

def lineMotions (direction : MoveDirection) (line : Fin 4) :
    Fin 4 → List (Fin 4 × UInt16) → List TileMotion
  | _, [] => []
  | destination, [(offset, value)] =>
    [⟨cell direction line offset, cell direction line destination, value, false⟩]
  | destination, (first, value) :: (second, next) :: rest =>
    if next = value then
      ⟨cell direction line first, cell direction line destination, value, true⟩ ::
        ⟨cell direction line second, cell direction line destination, value, true⟩ ::
          lineMotions direction line (destination + 1) rest
    else
      ⟨cell direction line first, cell direction line destination, value, false⟩ ::
        lineMotions direction line (destination + 1) ((second, next) :: rest)

/-- The offset that a count of destinations has come to. -/
def destinationAt (k : ℕ) : Fin 4 := Fin.ofNat 4 k

/-- One round of the loop over the lines, with the board and the outcome it has come to. -/
def moveLine (board : Board) (direction : MoveDirection) (state : Board × MoveOutcome) (line : Fin 4) :
    Board × MoveOutcome :=
  let values : Vector UInt16 4 := .ofFn fun offset => board[cell direction line offset]
  let sources := (List.finRange 4).filter fun offset => values[offset] ≠ 0
  let collapsed := collapseLine values
  let next := (List.finRange 4).foldl
    (fun next offset => next.set (cell direction line offset) collapsed.values[offset]) state.1
  (next, { state.2 with
    scoreDelta := state.2.scoreDelta + collapsed.scoreDelta
    motions := state.2.motions ++
      lineMotions direction line 0 (sources.map fun offset => (offset, values[offset])) })

def phaseForBoard (board : Board) : GamePhase :=
  if board.any (· ≥ 2048) then .won
  else if board.any (· = 0) then .playing
  else if (List.range 4).any fun row => (List.range 4).any fun column =>
      let index := row * 4 + column
      (column < 3 && board[index]? = board[index + 1]?) ||
        (row < 3 && board[index]? = board[index + 4]?) then .playing
  else .lost

def validTile (value : UInt16) : Bool := value = 0 || (2 ≤ value && value &&& (value - 1) = 0)

def validBoard (board : Board) : Bool := board.all validTile

def Board.put (board : Board) (cell : Fin 16) (value : UInt16) : Board := board.set cell value

lemma Board.get_put (board : Board) (cell : Fin 16) (value : UInt16) (other : Fin 16) :
    (board.put cell value).get other = if cell = other then value else board.get other := by
  simp only [Fin.ext_iff]
  exact Vector.getElem_set cell.isLt other.isLt

def nextRandomState (value : UInt64) : UInt64 :=
  let value := value ^^^ (value >>> 12)
  let value := value ^^^ (value <<< 25)
  value ^^^ (value >>> 27)

namespace Game2048

def random (game : Game2048) : UInt64 × Game2048 :=
  let value := nextRandomState game.randomState
  (value * 2685821657736338717, { game with randomState := value })

def spawn (game : Game2048) : Option (Fin 16 × UInt16) × Game2048 :=
  let empty := (List.finRange 16).filter fun index => game.board[index] = 0
  if empty = [] then (none, game)
  else
    let (number, game) := game.random
    let selected := empty.getD (number.toNat % empty.length) 0
    let (number, game) := game.random
    let value : UInt16 := if number % 10 = 0 then 4 else 2
    (some (selected, value), { game with board := game.board.set selected value })

def spawnTwice (game : Game2048) : Game2048 := game.spawn.2.spawn.2

def reset (game : Game2048) : Game2048 :=
  spawnTwice { game with board := .replicate 16 0, score := 0, phase := .playing, undoValid := false }

def new (seed : UInt64) : Game2048 :=
  ({ randomState := if seed = 0 then 1 else seed } : Game2048).reset

def updatePhase (game : Game2048) : Game2048 := { game with phase := phaseForBoard game.board }

def move (game : Game2048) (direction : MoveDirection) : MoveOutcome × Game2048 :=
  if game.phase = .lost then ({}, game)
  else
    let before : Snapshot := ⟨game.board, game.score, game.phase, game.randomState⟩
    let (next, outcome) := (List.finRange 4).foldl (moveLine game.board direction) (game.board, {})
    if next = game.board then ({ outcome with motions := [] }, game.updatePhase)
    else
      let score := game.score + outcome.scoreDelta
      let game := { game with
        board := next
        score
        bestScore := max game.bestScore score
        undoSnapshot := before
        undoValid := true }
      let (spawned, game) := game.spawn
      let outcome := { outcome with changed := true }
      let outcome := match spawned with
        | none => outcome
        | some (cell, value) => { outcome with spawnedCell := cell.val, spawnedValue := value }
      (outcome, game.updatePhase)

def undo (game : Game2048) : Bool × Game2048 :=
  if !game.undoValid then (false, game)
  else (true, { game with
    board := game.undoSnapshot.board
    score := game.undoSnapshot.score
    phase := game.undoSnapshot.phase
    randomState := game.undoSnapshot.randomState
    undoValid := false })

def persistentState (game : Game2048) : PersistentGameState where
  board := game.board
  score := game.score
  bestScore := game.bestScore
  phase := game.phase
  randomState := game.randomState
  undoBoard := game.undoSnapshot.board
  undoScore := game.undoSnapshot.score
  undoPhase := game.undoSnapshot.phase
  undoRandomState := game.undoSnapshot.randomState
  undoValid := game.undoValid

def restoreState (game : Game2048) (state : PersistentGameState) : Bool × Game2048 :=
  if !validBoard state.board ∨ state.randomState = 0 ∨ state.bestScore < state.score ∨
      phaseForBoard state.board ≠ state.phase ∨ !validBoard state.undoBoard ∨
      state.undoRandomState = 0 ∨ state.undoScore > state.bestScore ∨
      phaseForBoard state.undoBoard ≠ state.undoPhase then (false, game)
  else (true, {
    board := state.board
    score := state.score
    bestScore := state.bestScore
    phase := state.phase
    randomState := state.randomState
    undoSnapshot := ⟨state.undoBoard, state.undoScore, state.undoPhase, state.undoRandomState⟩
    undoValid := state.undoValid })

def setBestScore (game : Game2048) (value : UInt32) : Game2048 :=
  { game with bestScore := max value game.score }

/-- The new game of the page: the best score is kept. -/
def confirmRestart (game : Game2048) : Game2048 :=
  game.reset.setBestScore game.bestScore

end Game2048

inductive GameOperation
  | move (direction : MoveDirection)
  | undo
  | restart
  | restore (state : PersistentGameState)

inductive GameAnswer
  | moved (outcome : MoveOutcome)
  | undone (accepted : Bool)
  | restarted
  | restored (accepted : Bool)
  deriving DecidableEq

namespace Game2048

def operate (game : Game2048) : GameOperation → GameAnswer × Game2048
  | .move direction => (.moved (game.move direction).1, (game.move direction).2)
  | .undo => (.undone game.undo.1, game.undo.2)
  | .restart => (.restarted, game.confirmRestart)
  | .restore state => (.restored (game.restoreState state).1, (game.restoreState state).2)

def machine (seed : UInt64) : Machine Game2048 GameOperation where
  initial := .new seed
  step game operation := (game.operate operation).2

def answers : Game2048 → List GameOperation → List GameAnswer
  | _, [] => []
  | game, operation :: operations =>
    (game.operate operation).1 :: (game.operate operation).2.answers operations

end Game2048

end LvglPlatform

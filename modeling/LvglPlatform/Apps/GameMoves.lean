import LvglPlatform.Apps.GameConsistency

namespace LvglPlatform

open Foundation

namespace Game2048

variable {game : Game2048} {direction : MoveDirection}

/-- The board and the outcome of a move before its random tile. -/
def moveLines (board : Board) (direction : MoveDirection) : Board × MoveOutcome :=
  (List.finRange 4).foldl (moveLine board direction) (board, {})

def advance (game : Game2048) (moved : Board × MoveOutcome) : Game2048 :=
  { game with
    board := moved.1
    score := game.score + moved.2.scoreDelta
    bestScore := max game.bestScore (game.score + moved.2.scoreDelta)
    undoSnapshot := ⟨game.board, game.score, game.phase, game.randomState⟩
    undoValid := true }

def withSpawned (outcome : MoveOutcome) : Option (Fin 16 × UInt16) → MoveOutcome
  | none => { outcome with changed := true }
  | some (cell, value) => { outcome with changed := true, spawnedCell := cell.val, spawnedValue := value }

lemma withSpawned_fields (outcome : MoveOutcome) (spawned : Option (Fin 16 × UInt16)) :
    (withSpawned outcome spawned).changed = true ∧
      (withSpawned outcome spawned).scoreDelta = outcome.scoreDelta ∧
      (withSpawned outcome spawned).motions = outcome.motions := by
  cases spawned <;> exact ⟨rfl, rfl, rfl⟩

lemma move_lost (h : game.phase = .lost) : game.move direction = ({}, game) := by
  rw [move, if_pos h]

lemma move_still (h : game.phase ≠ .lost) (hstill : (moveLines game.board direction).1 = game.board) :
    game.move direction = ({ (moveLines game.board direction).2 with motions := [] }, game.updatePhase) := by
  rw [move, if_neg h]
  dsimp only
  rw [← moveLines, if_pos hstill]

lemma move_changed (h : game.phase ≠ .lost) (hmoved : (moveLines game.board direction).1 ≠ game.board) :
    game.move direction =
      (withSpawned (moveLines game.board direction).2 (game.advance (moveLines game.board direction)).spawn.1,
        (game.advance (moveLines game.board direction)).spawn.2.updatePhase) := by
  rw [move, if_neg h]
  dsimp only
  rw [← moveLines, if_neg hmoved, advance]
  generalize spawn _ = spawned
  obtain ⟨spawned, after⟩ := spawned
  cases spawned <;> rfl

lemma moveLines_unchanged (board : Board) (direction : MoveDirection) :
    (moveLines board direction).2.changed = false := by
  rw [moveLines]
  refine List.foldlRecOn (motive := fun state : Board × MoveOutcome => state.2.changed = false)
    (List.finRange 4) _ rfl ?_
  intro state hstate line _
  exact hstate

lemma changed_iff : (game.move direction).1.changed = true ↔
    game.phase ≠ .lost ∧ (moveLines game.board direction).1 ≠ game.board := by
  constructor
  · intro hchanged
    have hlost : game.phase ≠ .lost := fun hlost => by
      rw [move_lost hlost] at hchanged
      exact Bool.false_ne_true hchanged
    refine ⟨hlost, fun hstill => ?_⟩
    rw [move_still hlost hstill] at hchanged
    have hunchanged := moveLines_unchanged game.board direction
    generalize moveLines game.board direction = moved at hchanged hunchanged
    exact Bool.false_ne_true (hunchanged.symm.trans hchanged)
  · rintro ⟨hlost, hmoved⟩
    rw [move_changed hlost hmoved]
    generalize (game.advance (moveLines game.board direction)).spawn.1 = spawned
    generalize moveLines game.board direction = moved
    exact (withSpawned_fields moved.2 spawned).1

lemma max_score_again (a b : UInt32) : max (max a b) b = max a b := by
  have hle := (le_max_score a b).2
  change (if max a b ≤ b then b else max a b) = max a b
  split <;> rename_i h
  · exact UInt32.le_antisymm hle h
  · rfl

lemma undo_move (h : (game.move direction).1.changed = true) :
    (game.move direction).2.undo = (true, { game with
      bestScore := max game.bestScore (game.score + (moveLines game.board direction).2.scoreDelta)
      undoSnapshot := ⟨game.board, game.score, game.phase, game.randomState⟩
      undoValid := false }) := by
  obtain ⟨hlost, hmoved⟩ := changed_iff.mp h
  rw [move_changed hlost hmoved]
  have hspawned := spawned_spawn (game.advance (moveLines game.board direction))
  generalize (game.advance (moveLines game.board direction)).spawn.2 = after at hspawned
  have hvalid : after.updatePhase.undoValid = true := hspawned.undoValid
  have hundo : after.updatePhase.undoSnapshot = ⟨game.board, game.score, game.phase, game.randomState⟩ :=
    hspawned.undoSnapshot
  have hbest : after.updatePhase.bestScore =
      max game.bestScore (game.score + (moveLines game.board direction).2.scoreDelta) := hspawned.bestScore
  rw [undo, hvalid, hundo, hbest]
  rfl

/-- Of the game that is gone back to a move only sees what the undo restores. -/
lemma move_undone (h : (game.move direction).1.changed = true) :
    ((game.move direction).2.undo.2).move direction = game.move direction := by
  obtain ⟨hlost, hmoved⟩ := changed_iff.mp h
  rw [undo_move h, move_changed hlost hmoved]
  refine (@move_changed { game with
    bestScore := max game.bestScore (game.score + (moveLines game.board direction).2.scoreDelta)
    undoSnapshot := ⟨game.board, game.score, game.phase, game.randomState⟩
    undoValid := false } direction hlost hmoved).trans ?_
  rw [advance, advance, max_score_again]

/-- After a move that changed the board the undo gives the game before it back, up to the best score, and the
same move then ends as it did the first time. -/
theorem move_replayed (game : Game2048) (direction : MoveDirection)
    (h : (game.move direction).1.changed = true) :
    let moved := (game.move direction).2
    moved.undo.1 = true ∧ moved.undo.2.board = game.board ∧ moved.undo.2.score = game.score ∧
      moved.undo.2.phase = game.phase ∧ moved.undo.2.randomState = game.randomState ∧
      moved.undo.2.move direction = game.move direction := by
  dsimp only
  rw [move_undone h, undo_move h]
  exact ⟨rfl, rfl, rfl, rfl, rfl, rfl⟩

theorem first_move_replayed : ((Game2048.new 77).move .left).1.changed = true ∧
    ((Game2048.new 77).move .left).2.undo.2.move .left = (Game2048.new 77).move .left := by
  have hchanged : ((Game2048.new 77).move .left).1.changed = true := by decide
  exact ⟨hchanged, (move_replayed (.new 77) .left hchanged).2.2.2.2.2⟩

end Game2048

end LvglPlatform

import LvglPlatform.Apps.GameMotions

namespace LvglPlatform

open Foundation

lemma cell_right (row offset : Fin 4) : cell .right row offset = cell .left row offset.rev := by
  decide +revert

lemma cell_up (column offset : Fin 4) : cell .up column offset = cell .left offset column := by
  decide +revert

lemma cell_down (column offset : Fin 4) : cell .down column offset = cell .left offset.rev column := by
  decide +revert

structure Stuck (board : Board) : Prop where
  full : ∀ c : Fin 16, board.get c ≠ 0
  rows : ∀ (row : Fin 4) (k : Fin 3), board.get (cell .left row k.succ) ≠ board.get (cell .left row k.castSucc)
  columns : ∀ (column : Fin 4) (k : Fin 3),
    board.get (cell .left k.succ column) ≠ board.get (cell .left k.castSucc column)

variable {board : Board}

lemma getElem?_cell (row column : Fin 4) {i : ℕ} (h : i = row.val * 4 + column.val) :
    board[i]? = some (board.get (cell .left row column)) := by
  subst h
  exact Vector.getElem?_eq_getElem (cell .left row column).isLt

lemma pair_row (row : Fin 4) (k : Fin 3) : board[row.val * 4 + k.val]? = board[row.val * 4 + k.val + 1]? ↔
    board.get (cell .left row k.succ) = board.get (cell .left row k.castSucc) := by
  rw [getElem?_cell row k.castSucc (i := row.val * 4 + k.val) rfl,
    getElem?_cell row k.succ (i := row.val * 4 + k.val + 1) rfl, Option.some_inj, eq_comm]

lemma pair_column (column : Fin 4) (k : Fin 3) :
    board[k.val * 4 + column.val]? = board[k.val * 4 + column.val + 4]? ↔
      board.get (cell .left k.succ column) = board.get (cell .left k.castSucc column) := by
  rw [getElem?_cell k.castSucc column (i := k.val * 4 + column.val) rfl,
    getElem?_cell k.succ column (i := k.val * 4 + column.val + 4) (by rw [Fin.val_succ]; omega),
    Option.some_inj, eq_comm]

lemma phaseForBoard_lost_iff (hsmall : ∀ tile ∈ board, tile < 2048) :
    phaseForBoard board = .lost ↔ Stuck board := by
  have hwon : board.any (· ≥ 2048) = false := by
    rw [Vector.any_eq_false']
    intro tile htile
    simpa using hsmall tile htile
  rw [phaseForBoard, hwon, if_neg Bool.false_ne_true]
  constructor
  · intro h
    split at h
    · cases h
    rename_i hfull
    split at h
    · cases h
    rename_i hpairs
    simp only [List.any_eq_true, List.mem_range, Bool.or_eq_true, Bool.and_eq_true, decide_eq_true_eq,
      not_exists, not_and, not_or] at hpairs
    refine ⟨fun c hzero => hfull ?_, fun row k heq => ?_, fun column k heq => ?_⟩
    · rw [Vector.any_eq_true']
      exact ⟨board.get c, Vector.getElem_mem _, decide_eq_true hzero⟩
    · exact (hpairs row.val row.isLt k.val (by omega)).1 k.isLt ((pair_row row k).mpr heq)
    · exact (hpairs k.val (by omega) column.val column.isLt).2 k.isLt ((pair_column column k).mpr heq)
  · intro h
    rw [if_neg, if_neg]
    · simp only [List.any_eq_true, List.mem_range, Bool.or_eq_true, Bool.and_eq_true, decide_eq_true_eq,
        not_exists, not_and, not_or]
      intro row hrow column hcolumn
      constructor
      · exact fun hlt heq => h.rows ⟨row, hrow⟩ ⟨column, hlt⟩ ((pair_row ⟨row, hrow⟩ ⟨column, hlt⟩).mp heq)
      · exact fun hlt heq =>
          h.columns ⟨column, hcolumn⟩ ⟨row, hlt⟩ ((pair_column ⟨column, hcolumn⟩ ⟨row, hlt⟩).mp heq)
    · rw [Vector.any_eq_true']
      rintro ⟨tile, htile, hzero⟩
      obtain ⟨i, hi, rfl⟩ := Vector.mem_iff_getElem.mp htile
      exact h.full ⟨i, hi⟩ (of_decide_eq_true hzero)

def Still (board : Board) : Prop := ∀ direction, (Game2048.moveLines board direction).1 = board

lemma still_iff : Still board ↔ ∀ direction line,
    (collapseLine (boardLine board direction line)).values = boardLine board direction line :=
  forall_congr' fun _ => Game2048.moveLines_eq_iff

lemma Stuck.still (h : Stuck board) : Still board := by
  refine still_iff.mpr fun direction line => settled_of_full (fun k => ?_) fun k => ?_
  · rw [boardLine_get]
    exact h.full _
  · rw [boardLine_get, boardLine_get]
    cases direction with
    | left => exact h.rows line k
    | right =>
      simp only [cell_right, Fin.rev_succ, Fin.rev_castSucc]
      exact (h.rows line k.rev).symm
    | up =>
      simp only [cell_up]
      exact h.columns line k
    | down =>
      simp only [cell_down, Fin.rev_succ, Fin.rev_castSucc]
      exact (h.columns line k.rev).symm

lemma Still.zero_along (h : Still board) (direction : MoveDirection) (line : Fin 4) {i j : Fin 4} (hij : i ≤ j)
    (hzero : board.get (cell direction line i) = 0) : board.get (cell direction line j) = 0 := by
  rw [← boardLine_get] at hzero ⊢
  exact settled_zero (still_iff.mp h direction line) hij hzero

lemma Still.row_zero (h : Still board) {row column : Fin 4} (hzero : board.get (cell .left row column) = 0)
    (other : Fin 4) : board.get (cell .left row other) = 0 := by
  rcases le_total column other with hle | hle
  · exact h.zero_along .left row hle hzero
  · have hright := h.zero_along .right row (Fin.rev_le_rev.mpr hle)
    simp only [cell_right, Fin.rev_rev] at hright
    exact hright hzero

lemma Still.column_zero (h : Still board) {row column : Fin 4} (hzero : board.get (cell .left row column) = 0)
    (other : Fin 4) : board.get (cell .left other column) = 0 := by
  rcases le_total row other with hle | hle
  · have hup := h.zero_along .up column hle
    simp only [cell_up] at hup
    exact hup hzero
  · have hdown := h.zero_along .down column (Fin.rev_le_rev.mpr hle)
    simp only [cell_down, Fin.rev_rev] at hdown
    exact hdown hzero

lemma Still.stuck (h : Still board) (htile : ∃ c : Fin 16, board.get c ≠ 0) : Stuck board := by
  have hfull : ∀ c : Fin 16, board.get c ≠ 0 := by
    intro c hzero
    obtain ⟨c', hne⟩ := htile
    obtain ⟨row, column, rfl⟩ := exists_cell .left c
    obtain ⟨row', column', rfl⟩ := exists_cell .left c'
    exact hne (h.column_zero (h.row_zero hzero column') row')
  have hne : ∀ direction line (k : Fin 3),
      board.get (cell direction line k.succ) ≠ board.get (cell direction line k.castSucc) := by
    intro direction line k
    have hline := settled_ne (still_iff.mp h direction line) (k := k)
    rw [boardLine_get, boardLine_get] at hline
    exact hline (hfull _)
  refine ⟨hfull, hne .left, fun column k => ?_⟩
  have hcolumn := hne .up column k
  simpa only [cell_up] using hcolumn

/-- A board with a tile, all of whose tiles are less than the winning one, is lost if and only if no move would
change it: a game that is not lost yet finds that out by its moves. -/
theorem lost_iff_no_move (board : Board) (htile : ∃ c : Fin 16, board.get c ≠ 0)
    (hsmall : ∀ tile ∈ board, tile = 0 ∨ ∃ k, 1 ≤ k ∧ k ≤ 10 ∧ tile.toNat = 2 ^ k) :
    (phaseForBoard board = .lost ↔ ∀ direction, (Game2048.moveLines board direction).1 = board) ∧
      ∀ game : Game2048, game.board = board → game.phase ≠ .lost →
        (phaseForBoard board = .lost ↔ ∀ direction, (game.move direction).1.changed = false) := by
  have hlow : ∀ tile ∈ board, tile < 2048 := by
    intro tile hmem
    rcases hsmall tile hmem with rfl | ⟨k, -, hk, hvalue⟩
    · decide
    · have hpow := Nat.pow_le_pow_right (n := 2) (by omega) hk
      refine UInt16.lt_iff_toNat_lt.mpr ?_
      rw [hvalue]
      exact hpow.trans_lt (by decide)
  have hlost : phaseForBoard board = .lost ↔ Still board :=
    (phaseForBoard_lost_iff hlow).trans ⟨Stuck.still, fun h => h.stuck htile⟩
  refine ⟨hlost, ?_⟩
  rintro game rfl hphase
  refine hlost.trans (forall_congr' fun direction => ?_)
  rw [Bool.eq_false_iff, ne_eq, Game2048.changed_iff, not_and_not_right]
  exact ⟨fun hstill _ => hstill, fun hstill => hstill hphase⟩

def checkeredBoard : Board := #v[2, 4, 2, 4, 4, 2, 4, 2, 2, 4, 2, 4, 4, 2, 4, 2]

theorem checkered_board_lost : phaseForBoard checkeredBoard = .lost := by
  refine (lost_iff_no_move checkeredBoard ⟨0, by decide⟩ ?_).1.mpr fun direction => ?_
  · intro tile htile
    have hvalue : tile = 2 ∨ tile = 4 := by
      simp only [checkeredBoard, Vector.mem_mk, List.mem_toArray, List.mem_cons, List.not_mem_nil,
        or_false] at htile
      tauto
    rcases hvalue with rfl | rfl
    · exact .inr ⟨1, by decide, by decide, rfl⟩
    · exact .inr ⟨2, by decide, by decide, rfl⟩
  · cases direction <;> decide

end LvglPlatform

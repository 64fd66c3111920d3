import Numbering.Expression.Value
import Numbering.Proofs.Expression.Read

/-! # Setting the reordering flag

A text whose expression sets no flag ends with its last part and white space, and behind them is where
flags stand. So the mark of reordering can be put at its end, whatever the parts are: the white space
goes in front of the flags, and the start ends where it ended before. The expression is the same but
for this flag, and no value depends on it.
-/

namespace Numbering

/-! ## The mark behind a layout -/

/-- The white space at the end of a layout, moved in front of the flags. -/
def Blanks.beforeFlags (blanks : Blanks) : Blanks :=
  { blanks with flags := blanks.flags ++ blanks.last, last := [] }

/-- The parts with reordering as the only flag. -/
def Spelling.reordering (spelling : Spelling) : Spelling :=
  { spelling with flags := ['!'] }

/-- The same sequence for targets in reading order. -/
def Expression.reordering (expression : Expression) : Expression :=
  { expression with reorder := true }

theorem Blanks.wellFormed_beforeFlags {blanks : Blanks} (white : blanks.WellFormed) :
    blanks.beforeFlags.WellFormed := by
  refine { white with flags := fun c member => ?_, last := by simp [beforeFlags, Text.IsBlank] }
  exact (List.mem_append.mp member).elim (white.flags c) (white.last c)

namespace Spelling

variable {spelling : Spelling} {blanks : Blanks}

theorem wellFormed_reordering (formed : spelling.WellFormed) : spelling.reordering.WellFormed :=
  { formed with flags := by simp [reordering] }

theorem layout_reordering (unflagged : spelling.flags = []) :
    spelling.reordering.layout blanks.beforeFlags = spelling.layout blanks ++ ['!'] := by
  simp [layout, reordering, Blanks.beforeFlags, unflagged]

theorem behindStart_reordering (unflagged : spelling.flags = []) :
    spelling.reordering.behindStart blanks.beforeFlags = spelling.behindStart blanks ++ ['!'] := by
  simp [behindStart, behindOperator, behindStep, behindMode, behindPad, behindRepeats, reordering,
    Blanks.beforeFlags, unflagged]

/-- The mark continues no start. -/
theorem ends_append_mark {start : StartPart} {rest : Text}
    (ends : Expression.StartPart.Ends start rest) :
    Expression.StartPart.Ends start (rest ++ ['!']) := by
  have stop : Character.isWordLetter '!' = false := by decide
  cases rest with
  | nil => cases start <;> simp [Expression.StartPart.Ends, stop]
  | cons c tail => cases start <;> exact ends

theorem isReading_append_mark {text : Text} (reading : spelling.IsReading text)
    (unflagged : spelling.flags = []) : spelling.reordering.IsReading (text ++ ['!']) := by
  obtain ⟨blanks, white, rfl, ends⟩ := reading.exists_layout
  rw [← layout_reordering unflagged]
  refine isReading_layout (wellFormed_reordering reading.1.1)
    (Blanks.wellFormed_beforeFlags white) ?_
  rw [behindStart_reordering unflagged]
  exact ends_append_mark ends

theorem denotes_reordering {expression : Expression} (denotes : spelling.Denotes expression)
    (plain : expression.showPlus = false) : spelling.reordering.Denotes expression.reordering :=
  { denotes with
    reorder := by simp [reordering, Expression.reordering]
    showPlus := by simp [reordering, Expression.reordering, plain] }

/-- Without a flag set there is no flag typed. -/
theorem flags_eq_nil {expression : Expression} (formed : spelling.WellFormed)
    (denotes : spelling.Denotes expression) (listed : expression.reorder = false)
    (plain : expression.showPlus = false) : spelling.flags = [] := by
  have noMark : '!' ∉ spelling.flags := fun typed => by simp [denotes.reorder.mpr typed] at listed
  have noPlus : '@' ∉ spelling.flags := fun typed => by simp [denotes.showPlus.mpr typed] at plain
  apply List.eq_nil_iff_forall_not_mem.mpr
  intro c typed
  rcases formed.flags c typed with rfl | rfl
  · exact noMark typed
  · exact noPlus typed

end Spelling

/-! ## Reading the text with the mark -/

namespace Expression

variable {alphabet : Alphabet} {expression : Expression} {text : Text}

/-- Behind a text whose expression sets no flag, the mark sets the flag of reordering and changes
nothing else. -/
theorem read_append_mark (reads : read alphabet text = .ok expression)
    (listed : expression.reorder = false) (plain : expression.showPlus = false) :
    read alphabet (text ++ ['!']) = .ok expression.reordering := by
  obtain ⟨spelling, reading, free, denotes⟩ := exists_isReading_of_read reads
  have unflagged := Spelling.flags_eq_nil reading.1.1 denotes listed plain
  have same : spelling.reordering.firstFault? alphabet = spelling.firstFault? alphabet := rfl
  exact read_eq_ok_of_denotes (Spelling.isReading_append_mark reading unflagged)
    (same.trans free) (Spelling.denotes_reordering denotes plain)

/-- The values of a sequence do not depend on the order of its targets. -/
theorem valueAt_reordering (expression : Expression) (alphabet : Alphabet) (index : Nat) :
    expression.reordering.valueAt alphabet index = expression.valueAt alphabet index :=
  rfl

end Expression

end Numbering

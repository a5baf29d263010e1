/-!
# Occurrence of one text in another

* `occursIn_iff`: the test finds exactly the texts that stand somewhere in the other.
-/

namespace Calculator.Text

variable {α : Type} [DecidableEq α]

/-- Whether the first text stands somewhere in the second. -/
def occursIn (part : List α) : List α → Bool
  | [] => part.isEmpty
  | c :: rest => part.isPrefixOf (c :: rest) || occursIn part rest

/-- The test finds exactly the texts that stand somewhere in the other. -/
theorem occursIn_iff (part cs : List α) : occursIn part cs = true ↔ part <:+: cs := by
  induction cs with
  | nil => simp [occursIn]
  | cons c rest ih => simp [occursIn, ih, List.infix_cons_iff]

/-- The empty text stands in every text. -/
theorem occursIn_nil (cs : List α) : occursIn [] cs = true := by
  simp [occursIn_iff]

end Calculator.Text

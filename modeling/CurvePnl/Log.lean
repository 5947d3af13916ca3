/-! # Logs

A log takes entries one at a time and shows them in the order in which they came. It holds the
newest first, so that an entry costs the same however many there are.
-/

namespace CurvePnl

/-- Entries in the order of their arrival. -/
structure Log (ε : Type) where
  /-- The entries, the newest first. -/
  newest : List ε
  deriving Repr, DecidableEq

namespace Log

def empty : Log ε := ⟨[]⟩

/-- The entries in the order in which they came. -/
def toList (l : Log ε) : List ε := l.newest.reverse

/-- The log with one more entry at its end. -/
def push (l : Log ε) (e : ε) : Log ε := ⟨e :: l.newest⟩

@[simp] theorem toList_empty : (empty : Log ε).toList = [] := rfl

@[simp] theorem toList_push (l : Log ε) (e : ε) : (l.push e).toList = l.toList ++ [e] := by
  simp [toList, push]

end Log

end CurvePnl

/-!
# Cutting texts

A text is cut at its marks into the pieces between them.  There is one piece more than there are
marks, so there is always a first one.
-/

namespace SubnetRouter.Text

/-- The piece before the first mark, and the pieces after each mark. -/
def cut (isMark : Char → Bool) : List Char → List Char × List (List Char)
  | [] => ([], [])
  | c :: rest =>
    let (first, others) := cut isMark rest
    if isMark c then ([], first :: others) else (c :: first, others)

def pieces (isMark : Char → Bool) (text : List Char) : List (List Char) :=
  let (first, others) := cut isMark text
  first :: others

theorem pieces_eq_splitOnP (isMark : Char → Bool) (text : List Char) :
    pieces isMark text = text.splitOnP isMark := by
  induction text with
  | nil => rfl
  | cons c rest ih =>
      rw [List.splitOnP_cons_eq_if_modifyHead, ← ih]
      by_cases h : isMark c <;> simp [pieces, cut, h]

end SubnetRouter.Text

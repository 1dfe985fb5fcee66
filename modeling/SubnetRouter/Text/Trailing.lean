/-!
# The end of a list

Taking matching elements off the end of a list.
-/

namespace SubnetRouter.Text

def dropEnd {α : Type} (p : α → Bool) (l : List α) : List α :=
  (l.reverse.dropWhile p).reverse

end SubnetRouter.Text

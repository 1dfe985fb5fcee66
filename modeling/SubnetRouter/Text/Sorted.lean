/-!
# Sorting texts

Texts in ascending order, whatever order they are listed in.
-/

namespace SubnetRouter.Text

def sorted (texts : List String) : List String :=
  texts.mergeSort fun a b => a ≤ b

end SubnetRouter.Text

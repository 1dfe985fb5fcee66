import SubnetRouter.Text.CodeRange
import SubnetRouter.Text.Trailing

/-!
# White space

The characters with the Unicode property White_Space, and texts without them at either end.
-/

namespace SubnetRouter.Text

/-- The White_Space ranges. -/
def blankRanges : Array CodeRange :=
  #[(0x9, 0xD), (0x20, 0x20), (0x85, 0x85), (0xA0, 0xA0), (0x1680, 0x1680), (0x2000, 0x200A),
    (0x2028, 0x2029), (0x202F, 0x202F), (0x205F, 0x205F), (0x3000, 0x3000)]

def isBlank (c : Char) : Bool :=
  CodeRange.covers blankRanges c

def trimBlank (text : String) : String :=
  String.ofList (dropEnd isBlank (text.toList.dropWhile isBlank))

end SubnetRouter.Text

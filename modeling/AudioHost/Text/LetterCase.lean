/-!
# Letter case

Names reported by the stack are compared without regard to the case of the 26
ASCII letters. No other character has a case here.
-/

set_option autoImplicit false

namespace AudioHost.Text

/-- Equal up to the case of ASCII letters. -/
def sameUpToCase (left right : String) : Bool :=
  left.toList.map Char.toLower == right.toList.map Char.toLower

theorem sameUpToCase_iff {left right : String} :
    sameUpToCase left right = true ↔
      left.toList.map Char.toLower = right.toList.map Char.toLower := by
  simp [sameUpToCase]

end AudioHost.Text

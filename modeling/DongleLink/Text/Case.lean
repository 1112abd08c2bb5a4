/-!
# DongleLink.Text.Case

Comparing texts without regard to case.  Only the ASCII letters have two cases
here; every other character stands for itself.
-/

namespace DongleLink.Text

/-- A text with its ASCII letters in lower case. -/
def lowered (s : String) : String := String.ofList (s.toList.map Char.toLower)

end DongleLink.Text

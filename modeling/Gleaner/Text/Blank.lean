import Gleaner.Unicode.Space

/-! # Blank text

Text is blank when white space is all it has; the empty text is blank. -/

namespace Gleaner.Text

open Gleaner.Unicode

/-- Whether a text holds nothing but white space. -/
def isBlank (text : String) : Bool := text.toList.all isWhiteSpace

end Gleaner.Text

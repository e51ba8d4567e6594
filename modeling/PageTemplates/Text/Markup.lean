/-!
# Texts within markup

The six characters that could end a text or an attribute are written as character references.
-/

namespace PageTemplates.Text

/-- How a character stands in the text of a markup document. -/
def escapeChar (c : Char) : List Char :=
  match c with
  | '<' => "&lt;".toList
  | '>' => "&gt;".toList
  | '&' => "&amp;".toList
  | '"' => "&quot;".toList
  | '\'' => "&#x27;".toList
  | '/' => "&#x2f;".toList
  | c => [c]

/-- The text with its markup characters as references. -/
def escape (s : String) : String := String.ofList (s.toList.flatMap escapeChar)

end PageTemplates.Text

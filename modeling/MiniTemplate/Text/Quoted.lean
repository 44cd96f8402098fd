import MiniTemplate.Text.Hidden

/-!
# Quoted text

Text in double quotes for diagnostics: the quote and the backslash are escaped, and characters that
are not shown are given by their number.
-/

namespace MiniTemplate.Text

/-- A character by its number in braces. -/
def numbered (c : Char) : String :=
  "\\u\x7b" ++ String.ofList (Nat.toDigits 16 c.toNat) ++ "\x7d"

/-- A character inside quotes. -/
def quoteChar (c : Char) : String :=
  match c with
  | '"' => "\\\""
  | '\\' => "\\\\"
  | '\x00' => "\\0"
  | '\t' => "\\t"
  | '\n' => "\\n"
  | '\r' => "\\r"
  | c => if isHidden c then numbered c else c.toString

/-- A text in quotes. -/
def quote (s : String) : String := "\"" ++ String.join (s.toList.map quoteChar) ++ "\""

end MiniTemplate.Text

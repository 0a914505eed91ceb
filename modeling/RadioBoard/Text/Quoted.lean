import RadioBoard.Text.Digits
import RadioBoard.Text.Numbered

/-!
Quoted text: double quotes around it, and inside a written form for what would not show as it is.
-/

namespace RadioBoard.Text

def quoteChar (c : Char) : String :=
  match c with
  | '\x00' => "\\0"
  | '\t' => "\\t"
  | '\r' => "\\r"
  | '\n' => "\\n"
  | '"' => "\\\""
  | '\\' => "\\\\"
  | c => if isNumbered c then "\\u\x7b" ++ hex c.toNat ++ "\x7d" else c.toString

def quote (s : String) : String :=
  s.foldl (fun quoted c => quoted ++ quoteChar c) "\"" ++ "\""

end RadioBoard.Text

/-
# ScenarioGraph.Text.Quoted -- texts between quotes

A quoted text shows its characters so that none is lost to the eye: quotes,
backslashes and line ends are escaped, and what is not shown as it is
(`isHidden`) stands as its code point in braces.
-/
import ScenarioGraph.Text.Hidden

namespace ScenarioGraph.Text

set_option autoImplicit false

/-- One character as it stands in a quoted text. -/
def shown (c : Char) : String :=
  match c with
  | '"' => "\\\""
  | '\\' => "\\\\"
  | '\n' => "\\n"
  | '\r' => "\\r"
  | '\t' => "\\t"
  | '\x00' => "\\0"
  | c =>
      if isHidden c then "\\u\x7b" ++ String.ofList (Nat.toDigits 16 c.toNat) ++ "\x7d"
      else c.toString

def quoted (text : String) : String :=
  "\"" ++ String.join (text.toList.map shown) ++ "\""

end ScenarioGraph.Text

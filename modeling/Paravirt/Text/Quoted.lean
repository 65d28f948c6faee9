import Paravirt.Text.Hexadecimal
import Paravirt.Text.Printable

/-!
# Quoted text

Names are shown between double quotes, on one line. A quote or backslash has a backslash before it,
the common control characters have letters of their own, and every other character that is not
printable is named by its code point.
-/

namespace Paravirt.Text

/-- How one character is written inside quotes. -/
def quoteChar (char : Char) : String :=
  match char with
  | '\x00' => "\\0"
  | '\t' => "\\t"
  | '\n' => "\\n"
  | '\r' => "\\r"
  | '"' => "\\\""
  | '\\' => "\\\\"
  | _ =>
    if isPrintable char then String.singleton char
    else "\\u\x7b" ++ hexadecimal char.toNat ++ "\x7d"

/-- A text between quotes. -/
def quote (text : String) : String :=
  "\"" ++ String.join (text.toList.map quoteChar) ++ "\""

end Paravirt.Text

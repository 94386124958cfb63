import Custody.Text.Hexadecimal
import Custody.Text.Printable

/-!
# Quoted text

Text between double quotes on one line, every character of it visible: quotes,
backslashes and the common controls are escaped by a letter, and whatever does
not show as itself by its code point in hexadecimal.
-/

namespace Custody.Text

/-- One character between the quotes. -/
def escapeChar (c : Char) : List Char :=
  match c with
  | '"' => ['\\', '"']
  | '\\' => ['\\', '\\']
  | '\n' => ['\\', 'n']
  | '\r' => ['\\', 'r']
  | '\t' => ['\\', 't']
  | '\x00' => ['\\', '0']
  | c => if isPrintable c then [c] else ['\\', 'u', '{'] ++ hexDigits c.toNat ++ ['}']

/-- The text between double quotes. -/
def quoted (text : String) : String :=
  String.ofList ('"' :: text.toList.flatMap escapeChar ++ ['"'])

end Custody.Text

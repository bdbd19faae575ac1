import RelyingParty.Text.Hex
import RelyingParty.Text.Printable

/-!
# Text/Quoted — a text between quotes, every character visible

For diagnosis a text is shown on one line and without doubt about what it holds: the quote, the
backslash and the common controls are escaped by a letter, and any other character without a
printed form of its own by its code point.
-/

namespace RelyingParty.Text

/-- How a character shows between quotes. -/
def showChar : Char → List Char
  | '"' => ['\\', '"']
  | '\\' => ['\\', '\\']
  | '\n' => ['\\', 'n']
  | '\r' => ['\\', 'r']
  | '\t' => ['\\', 't']
  | '\x00' => ['\\', '0']
  | c =>
    if isPrintable c then [c]
    else ['\\', 'u', '{'] ++ Nat.toDigits 16 c.toNat ++ ['}']

/-- **The text between quotes.** -/
def quoted (s : String) : String :=
  String.ofList ('"' :: s.toList.flatMap showChar ++ ['"'])

end RelyingParty.Text

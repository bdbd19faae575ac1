import RelyingParty.Text.Hex

/-!
# Json/Write — the JSON form of texts and of objects whose members are texts
-/

namespace RelyingParty.Json

/-- The written form of a character inside a text: quote, backslash and controls are escaped. -/
def writeChar : Char → List Char
  | '"' => ['\\', '"']
  | '\\' => ['\\', '\\']
  | '\x08' => ['\\', 'b']
  | '\x0c' => ['\\', 'f']
  | '\n' => ['\\', 'n']
  | '\r' => ['\\', 'r']
  | '\t' => ['\\', 't']
  | c =>
    if c.toNat < 0x20 then
      ['\\', 'u', '0', '0', Text.hexLower (c.toNat / 16), Text.hexLower (c.toNat % 16)]
    else [c]

/-- **The JSON form of a text.** -/
def writeText (s : String) : String :=
  String.ofList ('"' :: s.toList.flatMap writeChar ++ ['"'])

/-- **The JSON form of an object** with the given members, in their order and without white
space. -/
def writeObject (members : List (String × String)) : String :=
  "\x7b" ++ String.intercalate "," (members.map fun (name, value) =>
    writeText name ++ ":" ++ writeText value) ++ "\x7d"

end RelyingParty.Json

import RelyingParty.Number.Shortest
import RelyingParty.Text.Quoted

/-!
# Json/Fault — why a text is not the JSON form of a value

A reader goes through the text once and stops at the first thing that is wrong, be it the grammar
of JSON or the value that the grammar spells. Every such thing is one constructor of `Fault`;
`Fault.message` is the only place that puts them into words.
-/

namespace RelyingParty.Json

/-- A value that was met where another kind was due. -/
inductive Found where
  | null
  | flag (value : Bool)
  | integer (value : Int)
  | real (negative : Bool) (magnitude : Double)
  | text (content : String)
  | sequence
  | map
  deriving DecidableEq

/-- The kind of value that was due. -/
inductive Due where
  | text
  | flag
  | sequence
  | record (name : String)
  | identifier
  | unit
  deriving DecidableEq

/-- **The first thing that is wrong with a text.** -/
inductive Fault where
  /-- The text ends where a value has to begin or inside a literal or number. -/
  | valueUnfinished
  | listUnfinished
  | objectUnfinished
  | textUnfinished
  /-- A character that begins no value. -/
  | valueExpected
  /-- A word that begins as `null`, `true` or `false` and goes on otherwise. -/
  | misspeltLiteral
  | colonExpected
  | listSeparatorExpected
  | objectSeparatorExpected
  | trailingComma
  | trailingCharacters
  /-- A member whose name is not a text. -/
  | nameNotText
  | controlCharacter
  | badEscape
  /-- Half of a surrogate pair with a wrong other half, or a second half without a first. -/
  | loneSurrogate
  /-- The first half of a surrogate pair with no escape after it. -/
  | pairUnfinished
  | badNumber
  | numberTooLarge
  | wrongKind (found : Found) (due : Due)
  /-- A list for the record `record` of `size` fields that ends before the required one at
  `index`. -/
  | tooFewElements (index : Nat) (record : String) (size : Nat)
  | missingField (name : String)
  | repeatedField (name : String)
  | unknownChoice (name : String) (choices : List String)
  /-- A text that its reader refuses, with the reader's reason. -/
  | refused (reason : String)
  deriving DecidableEq

/-- Magnitudes are positional from `0.00001` up to sixteen digits before the point. -/
def magnitudeFormat : MagnitudeFormat := ⟨-5, 16⟩

/-- What was met, in words. -/
def Found.describe : Found → String
  | null => "null"
  | flag value => "boolean `" ++ (if value then "true" else "false") ++ "`"
  | integer value => "integer `" ++ toString value ++ "`"
  | real negative magnitude =>
    "floating point `" ++ (if negative then "-" else "") ++ magnitudeFormat.write magnitude ++ "`"
  | text content => "string " ++ Text.quoted content
  | sequence => "sequence"
  | map => "map"

/-- What was due, in words. -/
def Due.describe : Due → String
  | text => "a string"
  | flag => "a boolean"
  | sequence => "a sequence"
  | record name => "struct " ++ name
  | identifier => "a formatted UUID string"
  | unit => "unit"

/-- A name between grave accents. -/
def ticked (name : String) : String := "`" ++ name ++ "`"

/-- **The fault in words.** -/
def Fault.message : Fault → String
  | valueUnfinished => "EOF while parsing a value"
  | listUnfinished => "EOF while parsing a list"
  | objectUnfinished => "EOF while parsing an object"
  | textUnfinished => "EOF while parsing a string"
  | valueExpected => "expected value"
  | misspeltLiteral => "expected ident"
  | colonExpected => "expected `:`"
  | listSeparatorExpected => "expected `,` or `]`"
  | objectSeparatorExpected => "expected `,` or `\x7d`"
  | trailingComma => "trailing comma"
  | trailingCharacters => "trailing characters"
  | nameNotText => "key must be a string"
  | controlCharacter => "control character (\\u0000-\\u001F) found while parsing a string"
  | badEscape => "invalid escape"
  | loneSurrogate => "lone leading surrogate in hex escape"
  | pairUnfinished => "unexpected end of hex escape"
  | badNumber => "invalid number"
  | numberTooLarge => "number out of range"
  | wrongKind found due => "invalid type: " ++ found.describe ++ ", expected " ++ due.describe
  | tooFewElements index record size =>
    "invalid length " ++ toString index ++ ", expected struct " ++ record ++ " with "
      ++ toString size ++ " elements"
  | missingField name => "missing field " ++ ticked name
  | repeatedField name => "duplicate field " ++ ticked name
  | unknownChoice name choices =>
    "unknown variant " ++ ticked name ++ ", expected "
      ++ String.intercalate " or " (choices.map ticked)
  | refused reason => reason

end RelyingParty.Json

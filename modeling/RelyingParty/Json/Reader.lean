import RelyingParty.Json.Skip

/-!
# Json/Reader — readers for texts, flags, options, choices and lists

A reader takes the text in front of a value and gives back the value and the text after it. It goes
straight for the kind of value that is due, so whether grammar or kind is wrong is decided by what
comes first in the text. A scalar of the wrong kind is read to its end before it is refused, and a
fault inside it comes first; of a list or an object the bracket is enough.
-/

namespace RelyingParty.Json

/-- **A reader of values.** -/
abbrev Reader (α : Type) := List Char → Except Fault (α × List Char)

/-- What kind of value stands at the front of the text. -/
def Found.scan : List Char → Except Fault Found
  | [] => .error .valueUnfinished
  | '[' :: _ => .ok .sequence
  | '{' :: _ => .ok .map
  | '"' :: s => do
    let (content, _) ← textContent s
    .ok (.text (String.ofList content))
  | 'n' :: s => do
    let _ ← literal ['u', 'l', 'l'] s
    .ok .null
  | 't' :: s => do
    let _ ← literal ['r', 'u', 'e'] s
    .ok (.flag true)
  | 'f' :: s => do
    let _ ← literal ['a', 'l', 's', 'e'] s
    .ok (.flag false)
  | c :: s =>
    if c = '-' ∨ c.isDigit then
      match Numeral.scan (c :: s) with
      | .ok (x, _) => x.found
      | .error .unfinished => .error .valueUnfinished
      | .error .malformed => .error .badNumber
    else .error .valueExpected

/-- The fault of a text with another value in front than the one that is due. -/
def mismatch (due : Due) (s : List Char) : Fault :=
  match Found.scan s with
  | .ok f => .wrongKind f due
  | .error e => e

namespace Reader

/-- **A text that passes a test**, which gives what the text stands for or the reason why not. -/
def refined (due : Due) (test : String → Except String α) : Reader α := fun s =>
  match skipSpace s with
  | '"' :: s => do
    let (content, s) ← textContent s
    match test (String.ofList content) with
    | .ok a => .ok (a, s)
    | .error reason => .error (.refused reason)
  | s => .error (mismatch due s)

/-- **A text.** -/
def text : Reader String := refined .text .ok

/-- **A truth value.** -/
def flag : Reader Bool := fun s =>
  match skipSpace s with
  | 't' :: s => do .ok (true, ← literal ['r', 'u', 'e'] s)
  | 'f' :: s => do .ok (false, ← literal ['a', 'l', 's', 'e'] s)
  | s => .error (mismatch .flag s)

/-- **The null value.** -/
def unit : Reader Unit := fun s =>
  match skipSpace s with
  | 'n' :: s => do .ok ((), ← literal ['u', 'l', 'l'] s)
  | s => .error (mismatch .unit s)

/-- **A value or null**; whatever begins as null is taken for null. -/
def optional (item : Reader α) : Reader (Option α) := fun s =>
  match skipSpace s with
  | 'n' :: s => do .ok (none, ← literal ['u', 'l', 'l'] s)
  | s => do
    let (a, s) ← item s
    .ok (some a, s)

/-- The elements of a list up to its closing bracket, at most `bound - 1` of them. -/
def elementsWithin (item : Reader α) :
    (bound : Nat) → (first : Bool) → List Char → Except Fault (List α × List Char)
  | 0, _, _ => .error .listUnfinished
  | bound + 1, first, s => do
    match ← turn .list first s with
    | .closed s => .ok ([], s)
    | .another s =>
      let (a, s) ← item s
      let (as, s) ← elementsWithin item bound false s
      .ok (a :: as, s)

/-- **A list.** No text holds more elements than characters. -/
def list (item : Reader α) : Reader (List α) := fun s =>
  match skipSpace s with
  | '[' :: s => elementsWithin item (s.length + 1) true s
  | s => .error (mismatch .sequence s)

/-- The value of a choice by its name. -/
def choose (choices : List (String × α)) (name : String) : Except Fault α :=
  match choices.lookup name with
  | some a => .ok a
  | none => .error (.unknownChoice name (choices.map (·.1)))

/-- **One of several named values**: the name as a text, or as the only member of an object with
the value null. -/
def choice (choices : List (String × α)) : Reader α := fun s =>
  match skipSpace s with
  | [] => .error .valueUnfinished
  | '"' :: s => do
    let (name, s) ← textContent s
    .ok (← choose choices (String.ofList name), s)
  | '{' :: s =>
    match skipSpace s with
    | [] => .error .objectUnfinished
    | '"' :: s => do
      let (name, s) ← textContent s
      let a ← choose choices (String.ofList name)
      let ((), s) ← unit (← colon s)
      match skipSpace s with
      | [] => .error .objectUnfinished
      | '}' :: s => .ok (a, s)
      | _ => .error .valueExpected
    | '}' :: _ => .error .valueExpected
    | _ => .error .nameNotText
  | _ => .error .valueExpected

end Reader

/-- **Reads a whole text**: one value, and nothing but white space around it. -/
def read (item : Reader α) (s : String) : Except Fault α := do
  let (a, rest) ← item s.toList
  if skipSpace rest = [] then .ok a else .error .trailingCharacters

end RelyingParty.Json

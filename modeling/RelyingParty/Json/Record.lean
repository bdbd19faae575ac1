import RelyingParty.Json.Reader

/-!
# Json/Record — records as objects and as lists

A record is written as an object, its members in any order, or as a list of its fields in their
order. Reading fills a draft field by field: a `Field` knows its name, whether the draft has it, and
how to read it into the draft. At the end `finish` turns the draft into the record, fields with a
default taking it, or names the first required field that the draft lacks.
-/

namespace RelyingParty.Json

/-- **A field of a record** that is read into drafts of type `σ`. -/
structure Field (σ : Type) where
  name : String
  isGiven : σ → Bool
  read : σ → Reader σ

/-- The field that `get` and `put` reach in the draft. -/
def Field.of (name : String) (get : σ → Option β) (put : β → σ → σ) (value : Reader β) :
    Field σ where
  name := name
  isGiven draft := (get draft).isSome
  read draft s := do
    let (b, s) ← value s
    .ok (put b draft, s)

/-- **The written form of records** of type `α`. -/
structure RecordForm (σ α : Type) where
  name : String
  /-- The fields in their order. -/
  fields : List (Field σ)
  /-- The draft without any field. -/
  empty : σ
  /-- The record, or the place of the first required field that the draft lacks. -/
  finish : σ → Except Nat α

namespace RecordForm

/-- The name of the field at the given place. -/
def fieldName (form : RecordForm σ α) (place : Nat) : String :=
  (form.fields[place]?.map (·.name)).getD ""

/-- A member's name. -/
def memberName : List Char → Except Fault (List Char × List Char)
  | '"' :: s => textContent s
  | _ => .error .nameNotText

/-- The members of an object up to its closing bracket, at most `bound - 1` of them. -/
def membersWithin (fields : List (Field σ)) :
    (bound : Nat) → (first : Bool) → σ → List Char → Except Fault (σ × List Char)
  | 0, _, _, _ => .error .objectUnfinished
  | bound + 1, first, draft, s => do
    match ← turn .object first s with
    | .closed s => .ok (draft, s)
    | .another s =>
      let (name, s) ← memberName s
      match fields.find? (·.name == String.ofList name) with
      | some field =>
        if field.isGiven draft then .error (.repeatedField field.name)
        else
          let (draft, s) ← field.read draft (← colon s)
          membersWithin fields bound false draft s
      | none => membersWithin fields bound false draft (← skipValue (← colon s))

/-- The end of a list whose fields have all been read. -/
def endOfList (s : List Char) : Except Fault (List Char) :=
  match skipSpace s with
  | [] => .error .listUnfinished
  | ']' :: s => .ok s
  | ',' :: s =>
    match skipSpace s with
    | ']' :: _ => .error .trailingComma
    | _ => .error .trailingCharacters
  | _ => .error .trailingCharacters

/-- The elements of a list, one for each field until the list ends. -/
def elements : List (Field σ) → (first : Bool) → σ → List Char → Except Fault (σ × List Char)
  | [], _, draft, s => do .ok (draft, ← endOfList s)
  | field :: fields, first, draft, s => do
    match ← turn .list first s with
    | .closed s => .ok (draft, s)
    | .another s =>
      let (draft, s) ← field.read draft s
      elements fields false draft s

/-- **Reads a record.** -/
def reader (form : RecordForm σ α) : Reader α := fun s =>
  match skipSpace s with
  | '{' :: s => do
    let (draft, s) ← membersWithin form.fields (s.length + 1) true form.empty s
    match form.finish draft with
    | .ok a => .ok (a, s)
    | .error place => .error (.missingField (form.fieldName place))
  | '[' :: s => do
    let (draft, s) ← elements form.fields true form.empty s
    match form.finish draft with
    | .ok a => .ok (a, s)
    | .error place => .error (.tooFewElements place form.name form.fields.length)
  | s => .error (mismatch (.record form.name) s)

/-- A field that must be given, at its place. -/
def required (place : Nat) : Option β → Except Nat β
  | some b => .ok b
  | none => .error place

end RecordForm

end RelyingParty.Json

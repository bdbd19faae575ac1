import RelyingParty.Text.Quoted

/-!
# Inspection — what a value shows of itself in a log or a diagnostic

A value is inspected in two steps. First it says what it shows: an `Inspection`, a tree of names,
texts, lists and records. Then the tree is laid out, `inline` on one line or as a `block` with one
line per entry. A secret that is left out of the tree is therefore in neither layout.
-/

namespace RelyingParty

/-- **What a value shows of itself.** -/
inductive Inspection where
  /-- A name, number or identifier, shown as it is. -/
  | word (text : String)
  /-- A text, shown between quotes. -/
  | text (content : String)
  /-- A list of values. -/
  | list (items : List Inspection)
  /-- A value under a constructor's name. -/
  | wrapped (name : String) (inner : Inspection)
  /-- A record: its name and its fields; `whole` says that no field is left out. -/
  | record (name : String) (fields : List (String × Inspection)) (whole : Bool)

namespace Inspection

/-- An optional value. -/
def optional (show? : α → Inspection) : Option α → Inspection
  | none => word "None"
  | some a => wrapped "Some" (show? a)

/-- A truth value. -/
def flag (b : Bool) : Inspection := word (if b then "true" else "false")

/-! ## On one line -/

/-- Entries between commas. -/
def commaSeparated (entries : List String) : String := String.intercalate ", " entries

mutual

/-- **The layout on one line.** -/
def inline : Inspection → String
  | word w => w
  | .text content => Text.quoted content
  | list items => "[" ++ commaSeparated (inlineItems items) ++ "]"
  | wrapped name inner => name ++ "(" ++ inner.inline ++ ")"
  | record name fields whole =>
    name ++ " \x7b " ++ commaSeparated (inlineFields fields ++ if whole then [] else [".."])
      ++ " \x7d"

/-- The items of a list, each on one line. -/
def inlineItems : List Inspection → List String
  | [] => []
  | item :: items => item.inline :: inlineItems items

/-- The fields of a record, each on one line. -/
def inlineFields : List (String × Inspection) → List String
  | [] => []
  | (name, value) :: fields => (name ++ ": " ++ value.inline) :: inlineFields fields

end

/-! ## One line per entry -/

/-- A line break and the indentation of the given depth. -/
def newLine (depth : Nat) : String := String.ofList ('\n' :: List.replicate (4 * depth) ' ')

mutual

/-- **The layout with one line per entry**, the surrounding indentation being `depth` steps. -/
def block (depth : Nat) : Inspection → String
  | word w => w
  | .text content => Text.quoted content
  | list [] => "[]"
  | list (item :: items) =>
    "[" ++ blockItems (depth + 1) (item :: items) ++ newLine depth ++ "]"
  | wrapped name inner =>
    name ++ "(" ++ newLine (depth + 1) ++ inner.block (depth + 1) ++ "," ++ newLine depth ++ ")"
  | record name fields whole =>
    name ++ " \x7b" ++ blockFields (depth + 1) fields
      ++ (if whole then "" else newLine (depth + 1) ++ "..") ++ newLine depth ++ "\x7d"

/-- The items of a list, each on lines of its own. -/
def blockItems (depth : Nat) : List Inspection → String
  | [] => ""
  | item :: items => newLine depth ++ item.block depth ++ "," ++ blockItems depth items

/-- The fields of a record, each on lines of its own. -/
def blockFields (depth : Nat) : List (String × Inspection) → String
  | [] => ""
  | (name, value) :: fields =>
    newLine depth ++ name ++ ": " ++ value.block depth ++ "," ++ blockFields depth fields

end

end Inspection

/-- How a value is shown: on one line or with one line per entry. -/
inductive InspectionStyle where
  | inline
  | block

/-- The text of an inspection in the given style. -/
def Inspection.render (style : InspectionStyle) (shown : Inspection) : String :=
  match style with
  | .inline => shown.inline
  | .block => shown.block 0

end RelyingParty

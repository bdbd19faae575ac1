import RelyingParty.TenantId.Basic

/-!
# TenantId/Spelling — the four spellings of a tenant's identity, and what is wrong with any other

An identity may be spelled by its 32 digits alone, with the hyphens of the canonical spelling, and
the latter also in braces or after `urn:uuid:`, everything in either case of letters. `parse` reads
exactly these. A text that is none of them is diagnosed afterwards: first its characters, then its
length, then the number and the lengths of its groups.
-/

namespace RelyingParty.TenantId

/-! ## The spellings -/

/-- The number that hexadecimal digits spell, if all of them are such. -/
def ofHex? (cs : List Char) : Option Nat := (cs.mapM Text.hexValue).map Text.ofHexDigits

/-- The characters less the hyphens, if the hyphens stand where the canonical spelling has them. -/
def unhyphenate? (cs : List Char) : Option (List Char) :=
  let bare := cs.filter (· ≠ '-')
  if cs = hyphenate bare then some bare else none

/-- What stands between braces, if the text is in braces. -/
def unbrace? : List Char → Option (List Char)
  | '{' :: cs => if cs.getLast? = some '}' then some cs.dropLast else none
  | _ => none

/-- The mark in front of an identity that is written as a resource name. -/
def resourceMark : List Char := "urn:uuid:".toList

/-- What stands after the mark of a resource name, if the text has it in either case. -/
def unmark? (cs : List Char) : Option (List Char) :=
  if (cs.take resourceMark.length).map Char.toLower = resourceMark
  then some (cs.drop resourceMark.length) else none

/-- The digits of a text that is spelled in one of the four ways. -/
def spelledDigits? (cs : List Char) : Option (List Char) :=
  if cs.length = 32 then some cs
  else unhyphenate? ((unbrace? cs <|> unmark? cs).getD cs)

/-- The identity that the text spells. -/
def parse? (text : String) : Option TenantId := do
  let digits ← spelledDigits? text.toList
  if digits.length = 32 then return ⟨BitVec.ofNat 128 (← ofHex? digits)⟩ else none

/-! ## What is wrong -/

/-- **Why a text spells no identity.** -/
inductive Flaw where
  /-- The text has `found` bytes. -/
  | length (found : Nat)
  /-- The character `found` at byte `index` is neither digit nor hyphen. -/
  | character (found : Char) (index : Nat)
  | groupCount (found : Nat)
  | groupLength (group expected found : Nat)
  deriving DecidableEq

/-- The flaw in words. -/
def Flaw.message : Flaw → String
  | length found => "invalid length: found " ++ Nat.repr found
  | character found index =>
    "invalid character: found `" ++ String.singleton found ++ "` at " ++ Nat.repr index
  | groupCount found => "invalid group count: expected 5, found " ++ Nat.repr found
  | groupLength group expected found =>
    "invalid group length in group " ++ Nat.repr group ++ ": expected " ++ Nat.repr expected
      ++ ", found " ++ Nat.repr found

/-- The flaw in words, with what was to be read. -/
def Flaw.report (flaw : Flaw) : String := "Failed to parse TenantId: " ++ flaw.message

/-- The number of bytes of a text. -/
def byteCount (cs : List Char) : Nat := (String.ofList cs).utf8ByteSize

/-- The first character that is neither digit nor hyphen, with the byte it stands at. -/
def firstStray (index : Nat) : List Char → Option Flaw
  | [] => none
  | c :: cs =>
    if (Text.hexValue c).isSome ∨ c = '-' then firstStray (index + c.utf8Size) cs
    else some (.character c index)

/-- The places of the hyphens. -/
def hyphenPlaces (cs : List Char) : List Nat :=
  (cs.zipIdx.filter (·.1 = '-')).map (·.2)

/-- Where the first four groups begin and how long they have to be. -/
def leadingGroups : List (Nat × Nat) := [(0, 8), (9, 4), (14, 4), (19, 4)]

/-- The first group of a wrong length in a text of `bytes` bytes that has four hyphens. -/
def groupFlaw (bytes : Nat) (hyphens : List Nat) : Flaw :=
  let wrong := (hyphens.zip leadingGroups).zipIdx.find? fun ((place, start, size), _) =>
    place ≠ start + size
  match wrong with
  | some ((place, start, size), group) => .groupLength group size (place - start)
  | none => .groupLength 4 12 (bytes - 24)

/-- What is wrong with the groups of a text of `bytes` bytes in which `scanned` has hyphens. -/
def hyphenFlaw (bytes : Nat) (scanned : List Char) : Flaw :=
  let hyphens := hyphenPlaces scanned
  if hyphens.length = 4 then groupFlaw bytes hyphens else .groupCount (hyphens.length + 1)

/-- What is wrong with a text that should have hyphens and stands alone. -/
def diagnoseHyphenated (cs : List Char) : Flaw :=
  (firstStray 0 cs).getD (hyphenFlaw (byteCount cs) cs)

/-- What is wrong with a text that may be spelled in any way. -/
def diagnoseAny (cs : List Char) : Flaw :=
  let bytes := byteCount cs
  if bytes = 0 ∨ 45 < bytes then .length bytes
  else match unbrace? cs, unmark? cs with
    | some inner, _ => (firstStray 1 inner).getD (hyphenFlaw bytes inner)
    | none, some inner => (firstStray resourceMark.length inner).getD (hyphenFlaw bytes inner)
    | none, none =>
      (firstStray 0 cs).getD (if '-' ∈ cs then hyphenFlaw bytes cs else .length bytes)

/-- The part that has to be in hyphens, if the length of the text or of what its wrapping holds
says so. -/
def hyphenatedPart? (cs : List Char) : Option (List Char) :=
  if byteCount cs = 36 then some cs
  else (unbrace? cs <|> unmark? cs).filter (byteCount · = 36)

/-- **What is wrong with a text.** -/
def diagnose (cs : List Char) : Flaw :=
  match hyphenatedPart? cs with
  | some part => diagnoseHyphenated part
  | none => diagnoseAny cs

/-- **Reads an identity.** -/
def parse (text : String) : Except Flaw TenantId :=
  match parse? text with
  | some id => .ok id
  | none => .error (diagnose text.toList)

end RelyingParty.TenantId

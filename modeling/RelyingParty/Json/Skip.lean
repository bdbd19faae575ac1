import RelyingParty.Json.Numeral
import RelyingParty.Json.Scan

/-!
# Json/Skip — passing over a value that nobody asked for

A member with an unknown name is passed over. Only its shape is checked, at any depth of nesting:
numbers of any size pass, and so do escapes of half a surrogate pair.
-/

namespace RelyingParty.Json

/-- The text behind the closing quote of a text whose content nobody reads. -/
def skipText : List Char → Except Fault (List Char)
  | [] => .error .textUnfinished
  | c :: s =>
    if c = '"' then .ok s
    else if c = '\\' then
      match s with
      | [] => .error .textUnfinished
      | 'u' :: s =>
        match h : hexQuad s with
        | .error e => .error e
        | .ok (_, r) =>
          have : r.length < s.length := length_of_hexQuad h
          skipText r
      | c :: s => if (letterEscape c).isSome then skipText s else .error .badEscape
    else if c.toNat < 0x20 then .error .controlCharacter
    else skipText s
termination_by s => s.length
decreasing_by all_goals simp; try omega

/-- The name of a member and the colon after it; the elements of a list have neither. -/
def skipLabel (b : Bracket) (s : List Char) : Except Fault (List Char) :=
  match b with
  | .list => .ok s
  | .object =>
    match skipSpace s with
    | [] => .error .objectUnfinished
    | '"' :: s => do colon (← skipText s)
    | _ => .error .nameNotText

/-- The text after a number of any size. -/
def skipNumber (s : List Char) : Except Fault (List Char) :=
  match Numeral.scan s with
  | .ok (_, s) => .ok s
  | .error _ => .error .badNumber

mutual

/-- Passes over one value, given a bound on the steps that it takes. -/
def skipValueWithin : (bound : Nat) → List Char → Except Fault (List Char)
  | 0, _ => .error .valueUnfinished
  | bound + 1, s =>
    match skipSpace s with
    | [] => .error .valueUnfinished
    | '[' :: s => skipBracketWithin .list bound s
    | '{' :: s => skipBracketWithin .object bound s
    | '"' :: s => skipText s
    | 'n' :: s => literal ['u', 'l', 'l'] s
    | 't' :: s => literal ['r', 'u', 'e'] s
    | 'f' :: s => literal ['a', 'l', 's', 'e'] s
    | c :: s => if c = '-' ∨ c.isDigit then skipNumber (c :: s) else .error .valueExpected

/-- Passes over the entries behind an opening bracket. -/
def skipBracketWithin (b : Bracket) : (bound : Nat) → List Char → Except Fault (List Char)
  | 0, _ => .error b.unfinished
  | bound + 1, s =>
    match skipSpace s with
    | [] => .error b.unfinished
    | c :: r => if c = b.close then .ok r else skipEntriesWithin b bound (c :: r)

/-- Passes over one entry or more, up to the closing bracket. -/
def skipEntriesWithin (b : Bracket) : (bound : Nat) → List Char → Except Fault (List Char)
  | 0, _ => .error b.unfinished
  | bound + 1, s => do
    let s ← skipValueWithin bound (← skipLabel b s)
    match skipSpace s with
    | [] => .error b.unfinished
    | c :: r =>
      if c = b.close then .ok r
      else if c = ',' then skipEntriesWithin b bound r
      else .error b.separatorExpected

end

/-- **The text after one value.** A value takes at most three steps per character. -/
def skipValue (s : List Char) : Except Fault (List Char) :=
  skipValueWithin (3 * s.length + 3) s

end RelyingParty.Json

import RelyingParty.Json.Fault

/-!
# Json/Numeral — the grammar of numbers, and the number a numeral stands for

`Numeral.scan` splits a number off a text into sign, whole digits, fraction and exponent.
`Numeral.found` says what number that is: an integer when it has neither fraction nor exponent and
fits a machine word, a magnitude of double precision otherwise. The digits of a magnitude count as
long as they fit a 64-bit word; later ones only move the exponent.
-/

namespace RelyingParty.Json

/-- **A number as it is written.** -/
structure Numeral where
  negative : Bool
  whole : List Char
  /-- The digits after the point, if there is a point. -/
  fraction : Option (List Char)
  /-- The sign of the exponent, `true` for minus, and its digits, if there is one. -/
  exponent : Option (Bool × List Char)

namespace Numeral

/-- Why a text begins with no number although it looks like one. -/
inductive Flaw where
  /-- The text ends where a digit is due. -/
  | unfinished
  /-- Something else stands where a digit is due, or a digit after a leading zero. -/
  | malformed

/-- At least one digit. -/
def digits (s : List Char) : Except Flaw (List Char × List Char) :=
  match s.takeWhile Char.isDigit with
  | [] => .error (if s.isEmpty then .unfinished else .malformed)
  | ds => .ok (ds, s.dropWhile Char.isDigit)

/-- The digits before the point: no zero in front of another digit. -/
def wholeDigits (s : List Char) : Except Flaw (List Char × List Char) := do
  match ← digits s with
  | ('0' :: _ :: _, _) => .error .malformed
  | split => .ok split

/-- The digits after the point, if there is one. -/
def fractionDigits : List Char → Except Flaw (Option (List Char) × List Char)
  | '.' :: s => do
    let (ds, s) ← digits s
    .ok (some ds, s)
  | s => .ok (none, s)

/-- The sign and the digits of the exponent, if there is one. -/
def exponentDigits : List Char → Except Flaw (Option (Bool × List Char) × List Char)
  | [] => .ok (none, [])
  | c :: s =>
    if c = 'e' ∨ c = 'E' then do
      let (negative, s) := match s with
        | '-' :: s => (true, s)
        | '+' :: s => (false, s)
        | s => (false, s)
      let (ds, s) ← digits s
      .ok (some (negative, ds), s)
    else .ok (none, c :: s)

/-- **Splits a number off the text.** -/
def scan (s : List Char) : Except Flaw (Numeral × List Char) := do
  let (negative, s) := match s with
    | '-' :: s => (true, s)
    | s => (false, s)
  let (whole, s) ← wholeDigits s
  let (fraction, s) ← fractionDigits s
  let (exponent, s) ← exponentDigits s
  .ok (⟨negative, whole, fraction, exponent⟩, s)

/-! ## The number -/

/-- The number that the digits spell. -/
def ofDigits (ds : List Char) : Nat := ds.foldl (fun n d => 10 * n + (d.toNat - 48)) 0

/-- Appends digits to `n` while the result fits a word of 64 bits; the digits left over follow. -/
def absorb (n : Nat) : List Char → Nat × List Char
  | [] => (n, [])
  | d :: ds =>
    let m := 10 * n + (d.toNat - 48)
    if m < UInt64.size then absorb m ds else (n, d :: ds)

/-- The exponent as a number. -/
def exponentValue : Option (Bool × List Char) → Int
  | none => 0
  | some (negative, ds) => if negative then -(ofDigits ds : Int) else ofDigits ds

/-- The magnitude of a numeral whose whole part has been absorbed into `n` but for `spill`. -/
def magnitude (x : Numeral) (n : Nat) (spill : List Char) : Except Fault Found :=
  let fraction := x.fraction.getD []
  let (significand, unread) := absorb n fraction
  let shift : Int := (spill.length : Int) - (fraction.length - unread.length : Nat)
  match Double.ofDecimal significand (shift + exponentValue x.exponent) with
  | some d => .ok (.real x.negative d)
  | none => .error .numberTooLarge

/-- **The number that a numeral stands for.** -/
def found (x : Numeral) : Except Fault Found :=
  match absorb 0 x.whole, x.fraction, x.exponent with
  | (n, []), none, none =>
    if !x.negative then .ok (.integer n)
    else if 0 < n ∧ n ≤ UInt64.size / 2 then .ok (.integer (-n))
    else x.magnitude n []
  | (n, spill), _, _ => x.magnitude n spill

end Numeral

end RelyingParty.Json

import RelyingParty.Number.Double

/-!
# Number/Shortest — the fewest decimal digits that read back as the same double

The reals that round to a double form an interval around it. `shortest` tries 1, 2, … digits: on
the decimal grid of that many digits the two neighbours of the value are tested against the interval
in exact arithmetic, the first grid with a hit wins, and of two hits the nearer.
-/

namespace RelyingParty

/-- Decimal digits and a power of ten: `digits · 10 ^ exponent`. -/
structure Decimal where
  digits : Nat
  exponent : Int
  deriving Repr, DecidableEq

namespace Double

/-- `digits · 10 ^ exponent` over `den · 2 ^ shift`, as a quotient of natural numbers. -/
def decimalOver (digits : Nat) (exponent : Int) (shift : Int) : Nat × Nat :=
  let scaled := scale digits 1 (-shift)
  if 0 ≤ exponent then (scaled.1 * Nat.pow 10 exponent.toNat, scaled.2)
  else (scaled.1, scaled.2 * Nat.pow 10 (-exponent).toNat)

/-- Whether a decimal reads back as `x`: four times its distance in units of `x`'s grid is at most
two, or one below a power of two, where the grid is finer; the ends belong to even mantissas. -/
def readsAs (x : Double) (d : Decimal) : Bool :=
  let (num, den) := decimalOver d.digits d.exponent x.exponent
  let four := 4 * num
  let centre := 4 * x.mantissa
  let low := if x.mantissa = Nat.pow 2 52 ∧ x.exponent > -1074 then centre - 1 else centre - 2
  let high := centre + 2
  if x.mantissa % 2 = 0 then low * den ≤ four ∧ four ≤ high * den
  else low * den < four ∧ four < high * den

/-- The number of digits before the point of `x`, less one: `10 ^ k ≤ x < 10 ^ (k + 1)`. -/
def decimalExponent (x : Double) : Int :=
  let (num, den) := scale x.mantissa 1 x.exponent
  if den ≤ num then ((Nat.toDigits 10 (num / den)).length : Int) - 1
  else
    let zeros := (Nat.toDigits 10 (den / num)).length
    if num * Nat.pow 10 (zeros - 1) = den then 1 - (zeros : Int) else -(zeros : Int)

/-- The best decimal with `n` digits that reads back as `x`, if there is one. -/
def onGrid (x : Double) (n : Nat) : Option Decimal :=
  let unit := x.decimalExponent - n + 1
  let (num, den) := decimalOver 1 unit x.exponent
  let below := x.mantissa * den / num
  let twiceOver := 2 * (x.mantissa * den % num)
  match x.readsAs ⟨below, unit⟩, x.readsAs ⟨below + 1, unit⟩ with
  | false, false => none
  | true, false => some ⟨below, unit⟩
  | false, true => some ⟨below + 1, unit⟩
  | true, true =>
    if twiceOver < num ∨ (twiceOver = num ∧ below % 2 = 0) then some ⟨below, unit⟩
    else some ⟨below + 1, unit⟩

/-- **The fewest digits that read back as `x`**; seventeen always do. -/
def shortest (x : Double) : Decimal :=
  ((List.range 17).findSome? fun n => x.onGrid (n + 1)).getD ⟨0, 0⟩

end Double

/-- How a magnitude is written: positionally while the exponent of its first digit lies in
`[low, high)`, with `.0` when it is whole, and in scientific form otherwise. -/
structure MagnitudeFormat where
  low : Int
  high : Int

/-- **The written form of a magnitude.** -/
def MagnitudeFormat.write (format : MagnitudeFormat) (x : Double) : String :=
  if x.mantissa = 0 then "0.0"
  else
    let d := x.shortest
    let digits := Nat.toDigits 10 d.digits
    let trimmed := (digits.reverse.dropWhile (· == '0')).reverse
    let first := d.exponent + digits.length - 1
    if format.low ≤ first ∧ first < format.high then
      if first < 0 then
        "0." ++ String.ofList (List.replicate (-first - 1).toNat '0' ++ trimmed)
      else
        let whole := first.toNat + 1
        let padded := trimmed ++ List.replicate (whole - trimmed.length) '0'
        let rest := padded.drop whole
        String.ofList (padded.take whole ++ '.' :: (if rest.isEmpty then ['0'] else rest))
    else
      let fraction := trimmed.drop 1
      String.ofList (trimmed.take 1 ++ (if fraction.isEmpty then [] else '.' :: fraction))
        ++ "e" ++ (if 0 ≤ first then "+" else "-") ++ toString first.natAbs

end RelyingParty

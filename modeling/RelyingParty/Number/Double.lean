/-!
# Number/Double — magnitudes on the grid of double precision, by exact arithmetic

A `Double` is a magnitude `mantissa · 2 ^ exponent` with at most 53 bits of mantissa and an exponent
of at least -1074. `ofRatio` rounds any quotient of natural numbers to the nearest such magnitude,
half to even; sums aside, every operation is that rounding of an exact result. What lies beyond the
largest double is no magnitude.
-/

namespace RelyingParty

/-- **A magnitude of double precision.** -/
structure Double where
  mantissa : Nat
  exponent : Int
  deriving Repr, DecidableEq

namespace Double

/-- The magnitude zero. -/
def zero : Double := ⟨0, -1074⟩

/-- `num / den · 2 ^ shift` as a quotient of natural numbers. -/
def scale (num den : Nat) (shift : Int) : Nat × Nat :=
  if 0 ≤ shift then (num * Nat.pow 2 shift.toNat, den)
  else (num, den * Nat.pow 2 (-shift).toNat)

/-- The natural number nearest to `num / den`, half to even. -/
def roundHalfEven (num den : Nat) : Nat :=
  let q := num / den
  let twice := 2 * (num % den)
  if twice > den ∨ (twice = den ∧ q % 2 = 1) then q + 1 else q

/-- The exponent of the grid that `num / den` is rounded on: 53 bits stand before the point, or the
grid is the finest one. -/
def gridExponent (num den : Nat) : Int :=
  let guess : Int := (num.log2 : Int) - (den.log2 : Int) - 53
  let scaled := scale num den (-guess)
  max (if scaled.1 < Nat.pow 2 53 * scaled.2 then guess else guess + 1) (-1074)

/-- **The double nearest to `num / den`**, or nothing when it is beyond the largest one. -/
def ofRatio (num den : Nat) : Option Double :=
  if num = 0 then some zero
  else
    let e := gridExponent num den
    let scaled := scale num den (-e)
    let m := roundHalfEven scaled.1 scaled.2
    let d : Double := if m = Nat.pow 2 53 then ⟨Nat.pow 2 52, e + 1⟩ else ⟨m, e⟩
    if d.exponent ≤ 971 then some d else none

/-- The double nearest to a natural number. -/
def ofNat (n : Nat) : Option Double := ofRatio n 1

/-- The product, rounded. -/
def mul (x y : Double) : Option Double :=
  let scaled := scale (x.mantissa * y.mantissa) 1 (x.exponent + y.exponent)
  ofRatio scaled.1 scaled.2

/-- The quotient by a positive double, rounded. -/
def div (x y : Double) : Option Double :=
  let scaled := scale x.mantissa y.mantissa (x.exponent - y.exponent)
  ofRatio scaled.1 scaled.2

/-- The greatest power of ten that is kept ready. -/
def maxTenPower : Nat := 308

/-- Divides by `10 ^ k`, in steps of the greatest ready power; zero stays zero. -/
def divTenPower (x : Double) (k : Nat) : Option Double :=
  if x.mantissa = 0 then some x
  else if k ≤ maxTenPower then do div x (← ofNat (Nat.pow 10 k))
  else do divTenPower (← div x (← ofNat (Nat.pow 10 maxTenPower))) (k - maxTenPower)
termination_by k
decreasing_by simp only [maxTenPower] at *; omega

/-- **The double written `significand · 10 ^ exponent`**: the significand is rounded first, then the
product or quotient with the power of ten, so the last bit may differ from the nearest double. -/
def ofDecimal (significand : Nat) (exponent : Int) : Option Double := do
  let x ← ofNat significand
  if x.mantissa = 0 then some x
  else if exponent < 0 then divTenPower x exponent.natAbs
  else if exponent.natAbs ≤ maxTenPower then mul x (← ofNat (Nat.pow 10 exponent.natAbs))
  else none

end Double

end RelyingParty

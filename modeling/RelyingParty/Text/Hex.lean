/-!
# Text/Hex — hexadecimal digits and numbers of fixed width

`hexValue` reads a digit in either case, `hexLower` and `hexUpper` write one. `hexDigits w n` are
the `w` lowest digits of `n`, the highest first, and `ofHexDigits` puts them together again.
-/

namespace RelyingParty.Text

/-- The value of a hexadecimal digit in either case. -/
def hexValue (c : Char) : Option Nat :=
  if '0' ≤ c ∧ c ≤ '9' then some (c.toNat - 48)
  else if 'a' ≤ c ∧ c ≤ 'f' then some (c.toNat - 87)
  else if 'A' ≤ c ∧ c ≤ 'F' then some (c.toNat - 55)
  else none

/-- The digit of value `n`, letters in lower case. -/
def hexLower (n : Nat) : Char := Char.ofNat (if n < 10 then 48 + n else 87 + n)

/-- The digit of value `n`, letters in upper case. -/
def hexUpper (n : Nat) : Char := Char.ofNat (if n < 10 then 48 + n else 55 + n)

theorem hexValue_hexLower : ∀ n < 16, hexValue (hexLower n) = some n := by decide

theorem hexValue_hexUpper : ∀ n < 16, hexValue (hexUpper n) = some n := by decide

/-- The `w` lowest hexadecimal digits of `n`, the highest first. -/
def hexDigits : Nat → Nat → List Nat
  | 0, _ => []
  | w + 1, n => hexDigits w (n / 16) ++ [n % 16]

/-- The number that the digits spell. -/
def ofHexDigits (ds : List Nat) : Nat := ds.foldl (fun n d => 16 * n + d) 0

@[simp] theorem length_hexDigits : ∀ w n, (hexDigits w n).length = w
  | 0, _ => rfl
  | w + 1, n => by simp [hexDigits, length_hexDigits w]

theorem ofHexDigits_append (ds : List Nat) (d : Nat) :
    ofHexDigits (ds ++ [d]) = 16 * ofHexDigits ds + d := by
  simp [ofHexDigits]

/-- The digits of a number spell it, as far as the width reaches. -/
theorem ofHexDigits_hexDigits (w n : Nat) : ofHexDigits (hexDigits w n) = n % Nat.pow 16 w := by
  induction w generalizing n with
  | zero => exact (Nat.mod_one n).symm
  | succ w ih =>
    have power : Nat.pow 16 (w + 1) = 16 * Nat.pow 16 w := Nat.mul_comm _ _
    rw [hexDigits, ofHexDigits_append, ih, power, Nat.mod_mul]
    omega

theorem lt_of_mem_hexDigits : ∀ {w n d}, d ∈ hexDigits w n → d < 16
  | 0, _, _, h => by simp [hexDigits] at h
  | w + 1, n, d, h => by
      rw [hexDigits, List.mem_append, List.mem_singleton] at h
      rcases h with h | rfl
      · exact lt_of_mem_hexDigits h
      · omega

end RelyingParty.Text

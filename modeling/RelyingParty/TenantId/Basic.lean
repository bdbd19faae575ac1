import RelyingParty.Inspection
import RelyingParty.Text.Hex

/-!
# TenantId/Basic — a tenant's identity, 128 bits, and its canonical spelling

The canonical spelling has 32 lower-case hexadecimal digits in groups of 8, 4, 4, 4 and 12 with
hyphens between them. Identities made at random carry the marks of version 4.
-/

namespace RelyingParty

/-- **A tenant's identity.** -/
structure TenantId where
  bits : BitVec 128
  deriving DecidableEq

namespace TenantId

/-- Puts hyphens between groups of 8, 4, 4, 4 and the remaining characters. -/
def hyphenate (cs : List Char) : List Char :=
  cs.take 8 ++ '-' :: (cs.drop 8).take 4 ++ '-' :: (cs.drop 12).take 4 ++
    '-' :: (cs.drop 16).take 4 ++ '-' :: cs.drop 20

/-- The 32 hexadecimal digits of the identity. -/
def digits (id : TenantId) : List Char :=
  (Text.hexDigits 32 id.bits.toNat).map Text.hexLower

/-- **The canonical spelling.** -/
def toString (id : TenantId) : String := String.ofList (hyphenate id.digits)

instance : ToString TenantId := ⟨toString⟩

/-- What an identity shows of itself: its canonical spelling under the type's name. -/
def inspect (id : TenantId) : Inspection := .wrapped "TenantId" (.word id.toString)

/-! ## Random identities -/

/-- The bits that hold the version and the variant. -/
def markBits : BitVec 128 := (0xF#128 <<< 76) ||| (0x3#128 <<< 62)

/-- Version 4, and the common variant. -/
def randomMarks : BitVec 128 := (0x4#128 <<< 76) ||| (0x2#128 <<< 62)

/-- The identity whose bits are the given ones but for the marks of a random one. -/
def ofRandom (bits : BitVec 128) : TenantId := ⟨(bits &&& ~~~markBits) ||| randomMarks⟩

/-- The version that the identity is marked with. -/
def version (id : TenantId) : Nat := ((id.bits >>> 76) &&& 0xF#128).toNat

/-- Whether the identity carries the mark of the common layout. -/
def isCommonVariant (id : TenantId) : Bool := (id.bits >>> 62) &&& 0x3#128 == 0x2#128

theorem length_digits (id : TenantId) : id.digits.length = 32 := by simp [digits]

end TenantId

end RelyingParty

import Mathlib.Data.List.Infix
import RelyingParty.Endpoint

/-!
# Proofs/Expansion — what a base URL makes of a location

A location is a placeholder, a fixed path and an alias.  Expanding it puts the base URL in front of
the path and goes on in the alias (`expand_location`), which stays as it is if it is `Plain`.  So
under one base URL the alias alone tells two locations of a kind apart, and the path tells the two
kinds apart whatever the aliases are (`consumer_ne_logout`).
-/

namespace RelyingParty.Endpoint

/-- **A text is plain** if no placeholder occurs in it. -/
def Plain (text : String) : Prop := ¬placeholder.toList <:+: text.toList

instance (text : String) : Decidable (Plain text) := inferInstanceAs (Decidable (¬_))

/-- What a base URL contributes to a location. -/
def baseOf (baseUrl : String) : String := String.ofList (trimSlashes baseUrl.toList)

/-! ## Substituting -/

section Substitute

variable (base : List Char)

theorem substitute_placeholder_append (rest : List Char) :
    substitute base (placeholder.toList ++ rest) = base ++ substitute base rest := rfl

theorem substitute_cons_of_ne {c : Char} (h : c ≠ '{') (rest : List Char) :
    substitute base (c :: rest) = c :: substitute base rest := by
  rw [substitute]
  exact fun _ opens _ => absurd opens h

/-- A stretch without an opening brace is passed over: no placeholder begins in it. -/
theorem substitute_append_of_notMem {front : List Char} (h : '{' ∉ front) (rest : List Char) :
    substitute base (front ++ rest) = front ++ substitute base rest := by
  induction front with
  | nil => rfl
  | cons c front ih =>
    rw [List.mem_cons, not_or] at h
    rw [List.cons_append, substitute_cons_of_ne base (Ne.symm h.1), ih h.2, List.cons_append]

theorem substitute_of_not_isInfix {template : List Char}
    (h : ¬placeholder.toList <:+: template) : substitute base template = template := by
  fun_induction substitute base template with
  | case1 rest => exact absurd (List.prefix_append placeholder.toList rest).isInfix h
  | case2 c rest _ ih => rw [ih fun inRest => h (inRest.trans (List.suffix_cons c rest).isInfix)]
  | case3 => rfl

end Substitute

/-! ## Expanding -/

/-- **A plain text stands for itself.** -/
theorem expand_of_plain {text : String} (h : Plain text) (baseUrl : String) :
    expand text baseUrl = text := by
  rw [expand, substitute_of_not_isInfix _ h, String.ofList_toList]

/-- **A location expands to the base URL, the path and what the alias expands to.** -/
theorem expand_location {path : String} (h : '{' ∉ path.toList) (entityAlias baseUrl : String) :
    expand (placeholder ++ path ++ entityAlias) baseUrl
      = baseOf baseUrl ++ path ++ expand entityAlias baseUrl := by
  rw [← String.toList_inj]
  simp only [expand, baseOf, String.toList_append, String.toList_ofList, List.append_assoc]
  rw [substitute_placeholder_append, substitute_append_of_notMem _ h]

theorem expand_consumerLocation (entityAlias baseUrl : String) :
    expand (consumerLocation entityAlias) baseUrl
      = baseOf baseUrl ++ "/saml/SSO/alias/" ++ expand entityAlias baseUrl :=
  expand_location (by decide) entityAlias baseUrl

theorem expand_logoutLocation (entityAlias baseUrl : String) :
    expand (logoutLocation entityAlias) baseUrl
      = baseOf baseUrl ++ "/saml/SingleLogout/alias/" ++ expand entityAlias baseUrl :=
  expand_location (by decide) entityAlias baseUrl

/-- Two aliases may expand to one if they are not plain. -/
example : expand (consumerLocation "\x7bbaseUrl\x7d.sp") "zone"
    = expand (consumerLocation "zone.sp") "zone" := by decide

/-! ## Telling locations apart -/

theorem consumerLocation_inj {a a' : String} :
    consumerLocation a = consumerLocation a' ↔ a = a' := String.append_right_inj _

theorem logoutLocation_inj {a a' : String} :
    logoutLocation a = logoutLocation a' ↔ a = a' := String.append_right_inj _

/-- **Locations of one kind expand alike for one alias only**, as far as aliases are plain. -/
theorem expand_location_inj {path : String} (h : '{' ∉ path.toList) {a a' : String}
    (plain : Plain a) (plain' : Plain a') (baseUrl : String) :
    expand (placeholder ++ path ++ a) baseUrl = expand (placeholder ++ path ++ a') baseUrl
      ↔ a = a' := by
  rw [expand_location h, expand_location h, expand_of_plain plain, expand_of_plain plain',
    String.append_right_inj]

/-- The two kinds of location differ in their paths, whatever stands before and after. -/
theorem consumer_ne_logout (base a a' : String) :
    base ++ "/saml/SSO/alias/" ++ a ≠ base ++ "/saml/SingleLogout/alias/" ++ a' := by
  rw [String.append_assoc, String.append_assoc, Ne, String.append_right_inj, ← String.toList_inj,
    String.toList_append, String.toList_append]
  -- The paths part at the second letter of their second segments.
  simp

/-- **Locations of different kinds never expand alike.** -/
theorem expand_consumer_ne_logout (a a' baseUrl : String) :
    expand (consumerLocation a) baseUrl ≠ expand (logoutLocation a') baseUrl := by
  rw [expand_consumerLocation, expand_logoutLocation]
  exact consumer_ne_logout _ _ _

end RelyingParty.Endpoint

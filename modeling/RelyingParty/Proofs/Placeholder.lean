import Mathlib.Data.List.DropRight
import RelyingParty.Proofs.Credentials
import RelyingParty.Proofs.Expansion

/-!
# Proofs/Placeholder — what an expansion replaces, and what it leaves alone

No slash is part of a placeholder, so an expansion goes from slash to slash (`expand_append_slash`),
and no placeholder arises where the pieces meet (`plain_append_slash_iff`).  But it does not stop
behind the placeholder that a location begins with: it goes on in the alias, nothing keeps an alias
from holding another one, and then the alias is not left alone (`expand_eq_self_iff`).
-/

namespace RelyingParty

namespace Endpoint

/-! ## The base of a base URL -/

/-- **What is left of a base URL** without its trailing slashes. -/
structure IsBaseOf (base baseUrl : String) : Prop where
  exists_slashes : ∃ n, baseUrl.toList = base.toList ++ List.replicate n '/'
  no_slash : base.toList.getLast? ≠ some '/'

theorem trimSlashes_append_slashes (base : List Char) (n : ℕ) :
    trimSlashes (base ++ List.replicate n '/') = trimSlashes base := by
  rw [trimSlashes, trimSlashes, List.reverse_append, List.dropWhile_append_of_pos]
  simp

theorem trimSlashes_of_no_slash {base : List Char} (h : base.getLast? ≠ some '/') :
    trimSlashes base = base := by
  refine List.rdropWhile_eq_self_iff.mpr fun ne => ?_
  rw [List.getLast?_eq_some_getLast ne] at h
  simpa using h

theorem getLast?_trimSlashes (baseUrl : List Char) :
    (trimSlashes baseUrl).getLast? ≠ some '/' := by
  intro slash
  have ne : trimSlashes baseUrl ≠ [] := by
    rintro none
    simp [none] at slash
  rw [List.getLast?_eq_some_getLast ne, Option.some.injEq] at slash
  have last : ((trimSlashes baseUrl).getLast ne == '/') ≠ true :=
    List.rdropWhile_last_not (· == '/') baseUrl ne
  exact last (by simpa using slash)

/-- Trimming takes away slashes only. -/
theorem exists_slashes_trimSlashes (baseUrl : List Char) :
    ∃ n, baseUrl = trimSlashes baseUrl ++ List.replicate n '/' := by
  have slashes : ∀ c ∈ (baseUrl.reverse.takeWhile (· == '/')).reverse, c = '/' := by
    intro c hc
    simpa using List.mem_takeWhile_imp (List.mem_reverse.mp hc)
  refine ⟨(baseUrl.reverse.takeWhile (· == '/')).reverse.length, ?_⟩
  rw [← List.eq_replicate_of_mem slashes, trimSlashes, ← List.reverse_append,
    List.takeWhile_append_dropWhile, List.reverse_reverse]

/-- **A base URL has one base.** -/
theorem isBaseOf_iff {base baseUrl : String} : IsBaseOf base baseUrl ↔ base = baseOf baseUrl := by
  constructor
  · rintro ⟨⟨n, h⟩, no_slash⟩
    rw [baseOf, h, trimSlashes_append_slashes, trimSlashes_of_no_slash no_slash,
      String.ofList_toList]
  · rintro rfl
    rw [baseOf]
    refine ⟨?_, ?_⟩
    · rw [String.toList_ofList]
      exact exists_slashes_trimSlashes baseUrl.toList
    · rw [String.toList_ofList]
      exact getLast?_trimSlashes baseUrl.toList

/-! ## From slash to slash -/

/-- **Induction from placeholder to placeholder**, along which substitution goes. -/
theorem induct_placeholder {motive : List Char → Prop} (nil : motive [])
    (placeholder : ∀ rest, motive rest → motive (placeholder.toList ++ rest))
    (cons : ∀ c rest, ¬Endpoint.placeholder.toList <+: c :: rest → motive rest →
      motive (c :: rest)) (template : List Char) : motive template := by
  fun_induction substitute [] template with
  | case1 rest ih => exact placeholder rest ih
  | case2 c rest apart ih =>
    refine cons c rest ?_ ih
    rintro ⟨tail, split⟩
    exact apart tail (List.cons.inj split).1.symm (List.cons.inj split).2.symm
  | case3 => exact nil

section Pieces

variable {c : Char} {front rest : List Char}

/-- A placeholder cannot reach over a character that it does not have. -/
theorem placeholder_isPrefix_append_cons (h : c ∉ placeholder.toList) :
    placeholder.toList <+: front ++ c :: rest ↔ placeholder.toList <+: front := by
  refine ⟨fun reached => ?_, fun within => within.trans (List.prefix_append _ _)⟩
  rcases List.prefix_or_prefix_of_prefix reached (List.prefix_append front (c :: rest)) with
    within | ⟨tail, split⟩
  · exact within
  · rw [← split, List.prefix_append_right_inj] at reached
    cases tail with
    | nil => exact ⟨[], by rw [List.append_nil, ← split, List.append_nil]⟩
    | cons d tail =>
      obtain rfl := (List.cons_prefix_cons.mp reached).1
      exact absurd (split ▸ by simp) h

theorem placeholder_isInfix_append_cons (h : c ∉ placeholder.toList) :
    placeholder.toList <:+: front ++ c :: rest ↔
      placeholder.toList <:+: front ∨ placeholder.toList <:+: rest := by
  induction front with
  | nil =>
    have here : ¬placeholder.toList <+: c :: rest := fun ⟨_, split⟩ =>
      h ((List.cons.inj split).1 ▸ List.mem_cons_self)
    have nowhere : ¬placeholder.toList <:+: [] := by decide
    rw [List.nil_append, List.infix_cons_iff, or_iff_right here, or_iff_right nowhere]
  | cons d front ih =>
    rw [List.cons_append, List.infix_cons_iff, ih, List.infix_cons_iff, or_assoc,
      ← List.cons_append, placeholder_isPrefix_append_cons h]

theorem substitute_cons_of_not_isPrefix (base : List Char)
    (h : ¬placeholder.toList <+: c :: rest) :
    substitute base (c :: rest) = c :: substitute base rest := by
  rw [substitute]
  rintro tail rfl rfl
  exact h (List.prefix_append placeholder.toList tail)

/-- **Substitution goes on behind a character** that no placeholder has. -/
theorem substitute_append_cons (base : List Char) (h : c ∉ placeholder.toList)
    (front rest : List Char) :
    substitute base (front ++ c :: rest) = substitute base front ++ c :: substitute base rest := by
  induction front using induct_placeholder with
  | nil => exact substitute_cons_of_ne base (by rintro rfl; exact h (by decide)) rest
  | placeholder front ih =>
    rw [List.append_assoc, substitute_placeholder_append, substitute_placeholder_append, ih,
      List.append_assoc]
  | cons d front here ih =>
    have there : ¬placeholder.toList <+: d :: front ++ c :: rest :=
      mt (placeholder_isPrefix_append_cons h).mp here
    rw [List.cons_append] at there ⊢
    rw [substitute_cons_of_not_isPrefix base there, substitute_cons_of_not_isPrefix base here, ih,
      List.cons_append]

end Pieces

/-- **An expansion goes from slash to slash.** -/
theorem expand_append_slash (x y baseUrl : String) :
    expand (x ++ "/" ++ y) baseUrl = expand x baseUrl ++ "/" ++ expand y baseUrl := by
  have slash : '/' ∉ placeholder.toList := by decide
  rw [← String.toList_inj]
  simp only [expand, String.toList_append, String.toList_ofList, List.append_assoc]
  exact substitute_append_cons _ slash x.toList y.toList

/-- A placeholder in front gives way to the base. -/
theorem expand_placeholder_append (x baseUrl : String) :
    expand (placeholder ++ x) baseUrl = baseOf baseUrl ++ expand x baseUrl := by
  rw [← String.toList_inj]
  simp only [expand, baseOf, String.toList_append, String.toList_ofList]
  exact substitute_placeholder_append _ x.toList

/-- One slash more behind the base URL makes no difference. -/
theorem expand_slash (x baseUrl : String) : expand x (baseUrl ++ "/") = expand x baseUrl := by
  rw [expand, expand, String.toList_append]
  exact congrArg (fun base => String.ofList (substitute base x.toList))
    (trimSlashes_append_slashes baseUrl.toList 1)

theorem plain_append_slash_iff {x y : String} : Plain (x ++ "/" ++ y) ↔ Plain x ∧ Plain y := by
  have slash : '/' ∉ placeholder.toList := by decide
  rw [Plain, Plain, Plain, ← not_or, ← placeholder_isInfix_append_cons slash, String.toList_append,
    String.toList_append, List.append_assoc]
  rfl

/-! ## Placeholders that stay where they are -/

section Fixed

variable {base : List Char}

theorem length_substitute_le (short : base.length ≤ placeholder.toList.length)
    (template : List Char) : (substitute base template).length ≤ template.length := by
  induction template using induct_placeholder with
  | nil => exact Nat.le_refl 0
  | placeholder rest ih =>
    rw [substitute_placeholder_append, List.length_append, List.length_append]
    exact Nat.add_le_add short ih
  | cons c rest here ih =>
    rw [substitute_cons_of_not_isPrefix base here]
    exact Nat.succ_le_succ ih

theorem length_le_substitute (long : placeholder.toList.length ≤ base.length)
    (template : List Char) : template.length ≤ (substitute base template).length := by
  induction template using induct_placeholder with
  | nil => exact Nat.le_refl 0
  | placeholder rest ih =>
    rw [substitute_placeholder_append, List.length_append, List.length_append]
    exact Nat.add_le_add long ih
  | cons c rest here ih =>
    rw [substitute_cons_of_not_isPrefix base here]
    exact Nat.succ_le_succ ih

/-- What takes the place of a placeholder without a trace is a placeholder. -/
theorem eq_placeholder_of_substitute {rest : List Char}
    (same : base ++ substitute base rest = placeholder.toList ++ rest) :
    base = placeholder.toList := by
  have lengths := congrArg List.length same
  rw [List.length_append, List.length_append] at lengths
  refine List.append_inj_left same ?_
  rcases Nat.le_total base.length placeholder.toList.length with short | long
  · have := length_substitute_le short rest
    omega
  · have := length_le_substitute long rest
    omega

/-- **Substitution leaves a text as it is** just if there is nothing to replace, or nothing to
replace it by but itself. -/
theorem substitute_eq_self_iff {template : List Char} :
    substitute base template = template ↔
      ¬placeholder.toList <:+: template ∨ base = placeholder.toList := by
  induction template using induct_placeholder with
  | nil => exact iff_of_true rfl (Or.inl (by decide))
  | placeholder rest ih =>
    have inside : placeholder.toList <:+: placeholder.toList ++ rest :=
      (List.prefix_append _ rest).isInfix
    rw [substitute_placeholder_append, or_iff_right (not_not_intro inside)]
    refine ⟨eq_placeholder_of_substitute, fun same => ?_⟩
    rw [ih.mpr (Or.inr same), same]
  | cons c rest here ih =>
    rw [substitute_cons_of_not_isPrefix base here, List.infix_cons_iff, or_iff_right here, ← ih,
      List.cons_inj_right]

end Fixed

/-- **A text stands for itself** just if it is plain or the base is a placeholder. -/
theorem expand_eq_self_iff {text base baseUrl : String} (h : IsBaseOf base baseUrl) :
    expand text baseUrl = text ↔ Plain text ∨ base = placeholder := by
  rw [isBaseOf_iff.mp h, baseOf, ← String.toList_inj, expand, String.toList_ofList,
    substitute_eq_self_iff, ← String.toList_inj, String.toList_ofList]
  rfl

/-! ## Laws -/

/-- Around a plain path nothing but what stands before and behind it can hold a placeholder. -/
theorem plain_append_path_iff {path : String} (h : Plain path) {x y : String} :
    Plain (x ++ ("/" ++ path ++ "/") ++ y) ↔ Plain x ∧ Plain y := by
  have pieces : x ++ ("/" ++ path ++ "/") ++ y = x ++ "/" ++ (path ++ "/" ++ y) := by
    simp only [String.append_assoc]
  rw [pieces, plain_append_slash_iff, plain_append_slash_iff, and_iff_right h]

theorem plain_append_consumerPath_iff {x y : String} :
    Plain (x ++ "/saml/SSO/alias/" ++ y) ↔ Plain x ∧ Plain y := by
  have plain : Plain "saml/SSO/alias" := by decide
  exact plain_append_path_iff plain

theorem plain_append_logoutPath_iff {x y : String} :
    Plain (x ++ "/saml/SingleLogout/alias/" ++ y) ↔ Plain x ∧ Plain y := by
  have plain : Plain "saml/SingleLogout/alias" := by decide
  exact plain_append_path_iff plain

/-- **A location expands to plain text** if alias and base are plain. -/
theorem plain_expand_location {entityAlias baseUrl : String} (plain : Plain entityAlias)
    (plainBase : Plain (baseOf baseUrl)) :
    ∀ location ∈ [consumerLocation entityAlias, logoutLocation entityAlias],
      Plain (expand location baseUrl) := by
  simp only [List.forall_mem_cons, List.not_mem_nil, false_implies, implies_true, and_true]
  rw [expand_consumerLocation, expand_logoutLocation, plain_append_consumerPath_iff,
    plain_append_logoutPath_iff, expand_of_plain plain]
  exact ⟨⟨plainBase, plain⟩, plainBase, plain⟩

/-- **The laws of expansion.**  A base URL has one base, what is left of it without its trailing
slashes.  An expansion goes from slash to slash, puts the base in the place of a placeholder in
front, leaves a plain text alone, and takes no notice of one more slash behind the base URL.  So a
location expands to the base, its path, which begins with the one slash between them, and what the
alias expands to; and where alias and base are plain that is plain too, and final. -/
theorem expansion_laws (baseUrl : String) :
    ∃ base, (∀ b, IsBaseOf b baseUrl ↔ b = base) ∧
      (∀ x y, expand (x ++ "/" ++ y) baseUrl = expand x baseUrl ++ "/" ++ expand y baseUrl) ∧
      (∀ x, expand ("\x7bbaseUrl\x7d" ++ x) baseUrl = base ++ expand x baseUrl) ∧
      (∀ x, Plain x → expand x baseUrl = x) ∧
      (∀ x, expand x baseUrl = expand x (baseUrl ++ "/")) ∧
      ∀ entityAlias,
        expand (consumerLocation entityAlias) baseUrl
          = base ++ "/saml/SSO/alias/" ++ expand entityAlias baseUrl ∧
        expand (logoutLocation entityAlias) baseUrl
          = base ++ "/saml/SingleLogout/alias/" ++ expand entityAlias baseUrl ∧
        (Plain entityAlias → Plain base →
          ∀ location ∈ [consumerLocation entityAlias, logoutLocation entityAlias],
            Plain (expand location baseUrl) ∧
            ∀ other, expand (expand location baseUrl) other = expand location baseUrl) := by
  refine ⟨baseOf baseUrl, fun b => isBaseOf_iff, fun x y => expand_append_slash x y baseUrl,
    fun x => expand_placeholder_append x baseUrl, fun x plain => expand_of_plain plain baseUrl,
    fun x => (expand_slash x baseUrl).symm, fun entityAlias =>
      ⟨expand_consumerLocation entityAlias baseUrl, expand_logoutLocation entityAlias baseUrl,
        fun plain plainBase location mem => ?_⟩⟩
  have expanded := plain_expand_location plain plainBase location mem
  exact ⟨expanded, expand_of_plain expanded⟩

theorem expansion_laws_braced :
    let baseUrl := "https://\x7bbase//"
    let location := consumerLocation "Url\x7d.\x7bbaseUrl"
    (∃ base, IsBaseOf base baseUrl ∧ Plain base) ∧
      expand location baseUrl = "https://\x7bbase/saml/SSO/alias/Url\x7d.\x7bbaseUrl" ∧
      expand (expand location baseUrl) "x" = expand location baseUrl := by
  intro baseUrl location
  obtain ⟨base, bases, -, -, fixed, -, locations⟩ := expansion_laws baseUrl
  have is : IsBaseOf "https://\x7bbase" baseUrl := ⟨⟨2, by decide⟩, by decide⟩
  obtain rfl := (bases _).mp is
  have plain : Plain "https://\x7bbase" := by decide
  have plainAlias : Plain "Url\x7d.\x7bbaseUrl" := by decide
  obtain ⟨expanded, -, final⟩ := locations "Url\x7d.\x7bbaseUrl"
  refine ⟨⟨_, is, plain⟩, ?_, (final plainAlias plain location List.mem_cons_self).2 "x"⟩
  rw [expanded, fixed _ plainAlias]
  decide

end Endpoint

/-! ## Registrations -/

theorem Registry.Obtains.locations {g : Registry} {around : Surroundings} {t : Tenant}
    {id : String} {r : Registration} (h : g.Obtains around t id r) :
    r.consumerLocation = Endpoint.consumerLocation r.entityAlias ∧
      r.logoutLocation = Endpoint.logoutLocation r.entityAlias := by
  rcases obtains_iff.mp h with ⟨-, rfl⟩ | ⟨-, rfl⟩ <;> exact ⟨rfl, rfl⟩

/-- **An expansion keeps an alias only if it is plain.**  The locations of a registration that is
handed out expand to the base, the path and what the alias expands to.  That is the alias itself
just if no placeholder occurs in it, or if the base is a placeholder too. -/
theorem Registry.expanded_locations {g : Registry} {around : Surroundings} {t : Tenant}
    {id : String} {r : Registration} (obtained : g.Obtains around t id r) {base baseUrl : String}
    (h : Endpoint.IsBaseOf base baseUrl) :
    Endpoint.expand r.consumerLocation baseUrl
      = base ++ "/saml/SSO/alias/" ++ Endpoint.expand r.entityAlias baseUrl ∧
    Endpoint.expand r.logoutLocation baseUrl
      = base ++ "/saml/SingleLogout/alias/" ++ Endpoint.expand r.entityAlias baseUrl ∧
    (Endpoint.expand r.consumerLocation baseUrl = base ++ "/saml/SSO/alias/" ++ r.entityAlias ↔
      Endpoint.Plain r.entityAlias ∨ base = Endpoint.placeholder) ∧
    (Endpoint.expand r.logoutLocation baseUrl
        = base ++ "/saml/SingleLogout/alias/" ++ r.entityAlias ↔
      Endpoint.Plain r.entityAlias ∨ base = Endpoint.placeholder) := by
  obtain ⟨consumer, logout⟩ := obtained.locations
  have expandedConsumer := Endpoint.expand_consumerLocation r.entityAlias baseUrl
  have expandedLogout := Endpoint.expand_logoutLocation r.entityAlias baseUrl
  rw [← consumer, ← Endpoint.isBaseOf_iff.mp h] at expandedConsumer
  rw [← logout, ← Endpoint.isBaseOf_iff.mp h] at expandedLogout
  refine ⟨expandedConsumer, expandedLogout, ?_, ?_⟩
  · rw [expandedConsumer, String.append_right_inj, Endpoint.expand_eq_self_iff h]
  · rw [expandedLogout, String.append_right_inj, Endpoint.expand_eq_self_iff h]

/-- A subdomain that is a placeholder is replaced, and one that is not is kept. -/
theorem Registry.expanded_locations_replaced :
    let g := MetadataService.slashed.registry
    let base := "https://login.example.com"
    let hostile : Tenant := { id := ⟨9⟩, subdomain := "\x7bbaseUrl\x7d" }
    let braced : Tenant := { hostile with subdomain := "\x7bbase" }
    ∃ r r', g.Obtains ⟨hostile, []⟩ hostile g.ownId r ∧ g.Obtains ⟨hostile, []⟩ braced g.ownId r' ∧
      Endpoint.expand r.consumerLocation (base ++ "/")
        = "https://login.example.com/saml/SSO/alias/https://login.example.com.entity" ∧
      Endpoint.expand r.consumerLocation (base ++ "/")
        ≠ base ++ "/saml/SSO/alias/" ++ r.entityAlias ∧
      Endpoint.expand r.logoutLocation (base ++ "/")
        ≠ base ++ "/saml/SingleLogout/alias/" ++ r.entityAlias ∧
      Endpoint.expand r'.consumerLocation (base ++ "/")
        = base ++ "/saml/SSO/alias/" ++ r'.entityAlias := by
  intro g base hostile braced
  have handed (t : Tenant) : g.Obtains ⟨hostile, []⟩ t g.ownId _ := obtains_ownId_iff.mpr rfl
  have bases : Endpoint.IsBaseOf base (base ++ "/") := ⟨⟨1, by decide⟩, by decide⟩
  obtain ⟨expanded, -, consumer, logout⟩ := expanded_locations (handed hostile) bases
  obtain ⟨-, -, kept, -⟩ := expanded_locations (handed braced) bases
  have replaced : ¬(Endpoint.Plain "\x7bbaseUrl\x7d.entity" ∨ base = Endpoint.placeholder) := by
    decide
  have plain : Endpoint.Plain "\x7bbase.entity" := by decide
  refine ⟨_, _, handed hostile, handed braced, expanded.trans (by decide +kernel),
    mt consumer.mp replaced, mt logout.mp replaced, kept.mpr (Or.inl plain)⟩

end RelyingParty

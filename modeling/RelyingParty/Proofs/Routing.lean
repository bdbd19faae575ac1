import Mathlib.Data.List.TakeWhile
import RelyingParty.Metadata.Service

/-!
# Proofs/Routing — the paths of the service, and the id that each of them names

`Route.ofPath` matches exactly the five shapes of path that `ofPath_eq_own_iff` and
`ofPath_eq_named_iff` list.  The parameter of a path is unescaped once: `Unescapes` says what that
is, byte by byte, and `decode` finds the only text that a parameter unescapes to
(`decode_eq_some_iff`).  An encoded id has no slash in it, so each id but the empty one has a path.
-/

namespace RelyingParty

/-! ## Paths -/

namespace Route

theorem ofTail_eq_own_iff {tail : List Char} :
    ofTail tail = some own ↔ tail = [] ∨ tail = ['/'] := by
  unfold ofTail
  split
  · simp
  · next rest =>
    by_cases hnil : rest = []
    · simp [hnil]
    · by_cases hslash : rest = ['/']
      · simp [hslash]
      · simp [hnil, hslash]
  · next hnil hslash =>
    simp only [reduceCtorEq, false_iff, not_or]
    exact ⟨hnil, fun h => hslash [] h⟩

/-- A parameter ends where the tail does, or at the only slash that follows. -/
theorem takeWhile_eq_iff {rest parameter : List Char} :
    rest.takeWhile (· ≠ '/') = parameter ∧
        (rest.dropWhile (· ≠ '/') = [] ∨ rest.dropWhile (· ≠ '/') = ['/'])
      ↔ '/' ∉ parameter ∧ (rest = parameter ∨ rest = parameter ++ ['/']) := by
  have split : rest.takeWhile (· ≠ '/') ++ rest.dropWhile (· ≠ '/') = rest :=
    List.takeWhile_append_dropWhile
  constructor
  · rintro ⟨rfl, hrest⟩
    refine ⟨fun hmem => by simpa using List.mem_takeWhile_imp hmem, ?_⟩
    rcases hrest with h | h
    · exact Or.inl (by rw [h, List.append_nil] at split; exact split.symm)
    · exact Or.inr (by rw [h] at split; exact split.symm)
  · rintro ⟨noSlash, hrest⟩
    have keep : ∀ c ∈ parameter, (decide (c ≠ '/')) = true := fun c hc =>
      decide_eq_true fun h => noSlash (h ▸ hc)
    rcases hrest with rfl | rfl
    · exact ⟨List.takeWhile_eq_self_iff.mpr keep, Or.inl (List.dropWhile_eq_nil_iff.mpr keep)⟩
    · rw [List.takeWhile_append_of_pos keep, List.dropWhile_append_of_pos keep]
      simp

theorem ofTail_parameter {rest parameter : List Char} (ne : parameter ≠ [])
    (noSlash : '/' ∉ parameter) (h : rest = parameter ∨ rest = parameter ++ ['/']) :
    ofTail ('/' :: rest) = some (named (String.ofList parameter)) := by
  have notNil : rest ≠ [] := by
    rcases h with rfl | rfl
    · exact ne
    · simp
  have notSlash : rest ≠ ['/'] := by
    rintro rfl
    rcases h with h | h
    · exact noSlash (h ▸ List.mem_singleton_self '/')
    · exact ne (by simpa using h.symm)
  obtain ⟨hparameter, hafter⟩ := takeWhile_eq_iff.mpr ⟨noSlash, h⟩
  rw [ofTail, if_neg notNil, if_neg notSlash]
  simp only [hparameter]
  rw [if_pos ⟨ne, hafter⟩]

theorem ofTail_eq_named_iff {tail : List Char} {s : String} : ofTail tail = some (named s)
    ↔ (s ≠ "" ∧ '/' ∉ s.toList ∧ (tail = '/' :: s.toList ∨ tail = '/' :: s.toList ++ ['/'])) ∨
      (s = "" ∧ tail = ['/', '/']) := by
  constructor
  · intro h
    unfold ofTail at h
    split at h
    · exact absurd h (by simp)
    · next rest =>
      split_ifs at h with hnil hslash
      · exact absurd h (by simp)
      · rw [Option.some.injEq, named.injEq] at h
        exact Or.inr ⟨h.symm, by rw [hslash]⟩
      · obtain ⟨hend, hs⟩ := Option.ite_none_right_eq_some.mp h
        obtain ⟨noSlash, hrest⟩ := takeWhile_eq_iff.mp ⟨rfl, hend.2⟩
        rw [Option.some.injEq, named.injEq] at hs
        subst hs
        rw [String.toList_ofList, List.cons_append, List.cons.injEq, List.cons.injEq]
        exact Or.inl ⟨by simpa using hend.1, noSlash, hrest.imp (⟨rfl, ·⟩) (⟨rfl, ·⟩)⟩
    · exact absurd h (by simp)
  · rintro (⟨ne, noSlash, rfl | rfl⟩ | ⟨rfl, rfl⟩)
    · simpa using ofTail_parameter (by simpa using ne) noSlash (Or.inl rfl)
    · simpa using ofTail_parameter (by simpa using ne) noSlash (Or.inr rfl)
    · rfl

theorem ofPath_root_append (tail : String) : ofPath (root ++ tail) = ofTail tail.toList := by
  have isPrefix : root.toList.isPrefixOf (root ++ tail).toList = true := by
    rw [String.toList_append, List.isPrefixOf_iff_prefix]
    exact List.prefix_append _ _
  rw [ofPath, if_pos isPrefix, String.toList_append, ← String.length_toList, List.drop_left]

/-- **Every path of the service begins with the root.** -/
theorem exists_tail {path : String} {route : Route} (h : ofPath path = some route) :
    ∃ tail, path = root ++ tail ∧ ofTail tail.toList = some route := by
  unfold ofPath at h
  split at h
  · next isPrefix =>
    obtain ⟨tail, htail⟩ := List.isPrefixOf_iff_prefix.mp isPrefix
    refine ⟨String.ofList tail, ?_, ?_⟩
    · rw [← String.toList_inj, String.toList_append, String.toList_ofList, htail]
    · rw [← htail, ← String.length_toList, List.drop_left] at h
      rwa [String.toList_ofList]
  · exact absurd h (by simp)

/-- **The paths of the service's own registration.** -/
theorem ofPath_eq_own_iff {path : String} :
    ofPath path = some own ↔ path = "/saml/metadata" ∨ path = "/saml/metadata/" := by
  constructor
  · intro h
    obtain ⟨tail, rfl, htail⟩ := exists_tail h
    rcases ofTail_eq_own_iff.mp htail with hnil | hslash
    · obtain rfl : tail = "" := String.toList_eq_nil_iff.mp hnil
      exact Or.inl (String.append_empty)
    · obtain rfl : tail = "/" := String.toList_inj.mp hslash
      exact Or.inr rfl
  · rintro (rfl | rfl)
    · exact (ofPath_root_append "").trans (ofTail_eq_own_iff.mpr (Or.inl rfl))
    · exact (ofPath_root_append "/").trans (ofTail_eq_own_iff.mpr (Or.inr rfl))

/-- **The paths of the registration with a given parameter.** -/
theorem ofPath_eq_named_iff {path s : String} : ofPath path = some (named s)
    ↔ (s ≠ "" ∧ '/' ∉ s.toList ∧
        (path = "/saml/metadata/" ++ s ∨ path = "/saml/metadata/" ++ s ++ "/")) ∨
      (s = "" ∧ path = "/saml/metadata//") := by
  have slash : ("/saml/metadata/" : String) = root ++ "/" := rfl
  constructor
  · intro h
    obtain ⟨tail, rfl, htail⟩ := exists_tail h
    refine (ofTail_eq_named_iff.mp htail).imp ?_ ?_
    · rintro ⟨ne, noSlash, h⟩
      refine ⟨ne, noSlash, h.imp (fun h => ?_) fun h => ?_⟩
      · rw [slash, String.append_assoc, String.append_right_inj, ← String.toList_inj, h,
          String.toList_append]
        rfl
      · rw [slash, String.append_assoc, String.append_assoc, String.append_right_inj,
          ← String.toList_inj, h, String.toList_append, String.toList_append]
        rfl
    · rintro ⟨empty, h⟩
      obtain rfl : tail = "//" := String.toList_inj.mp h
      exact ⟨empty, rfl⟩
  · rintro (⟨ne, noSlash, rfl | rfl⟩ | ⟨rfl, rfl⟩)
    · rw [slash, String.append_assoc, ofPath_root_append, ofTail_eq_named_iff]
      exact Or.inl ⟨ne, noSlash, Or.inl (by rw [String.toList_append]; rfl)⟩
    · rw [slash, String.append_assoc, String.append_assoc, ofPath_root_append, ofTail_eq_named_iff]
      refine Or.inl ⟨ne, noSlash, Or.inr ?_⟩
      rw [String.toList_append, String.toList_append]
      rfl
    · exact (ofPath_root_append "//").trans (ofTail_eq_named_iff.mpr (Or.inr ⟨rfl, rfl⟩))

end Route

/-! ## Parameters -/

namespace Text.Percent

/-- **One pass over percent-encoded bytes**: `%` and two digits give the byte that they spell, and
every other byte stays, a `%` without two digits after it among them. -/
inductive Unescapes : List UInt8 → List UInt8 → Prop
  | nil : Unescapes [] []
  | digits {hi lo x : UInt8} {rest out : List UInt8} (h : byteOf? hi lo = some x) :
    Unescapes rest out → Unescapes (37 :: hi :: lo :: rest) (x :: out)
  | kept {b : UInt8} {rest out : List UInt8}
    (h : b = 37 → ∀ hi lo more, rest = hi :: lo :: more → byteOf? hi lo = none) :
    Unescapes rest out → Unescapes (b :: rest) (b :: out)

theorem unescapes_decodeBytes (bytes : List UInt8) : Unescapes bytes (decodeBytes bytes) := by
  fun_induction decodeBytes bytes with
  | case1 => exact .nil
  | case2 a => exact .kept (by simp) .nil
  | case3 a b => exact .kept (by simp) (.kept (by simp) .nil)
  | case4 b c rest x h ih => exact .digits h ih
  | case5 b c rest h ih =>
    refine .kept (fun _ hi lo more hrest => ?_) ih
    simp only [List.cons.injEq] at hrest
    rw [← hrest.1, ← hrest.2.1, h]
  | case6 a b c rest ne ih => exact .kept (fun h => absurd h ne) ih

/-- **One pass has one result.** -/
theorem Unescapes.eq_decodeBytes {bytes out : List UInt8} (h : Unescapes bytes out) :
    out = decodeBytes bytes := by
  induction h with
  | nil => rfl
  | digits h _ ih => rw [decodeBytes, if_pos rfl, h, ih]
  | @kept b rest out h _ ih =>
    rcases rest with _ | ⟨hi, _ | ⟨lo, more⟩⟩
    · rw [ih]; rfl
    · rw [ih]; rfl
    · by_cases hb : b = 37
      · rw [decodeBytes, if_pos hb, h hb hi lo more rfl, ih]
      · rw [decodeBytes, if_neg hb, ih]

/-- **A parameter decodes to the text whose bytes it unescapes to**, and to nothing if there is no
such text. -/
theorem decode_eq_some_iff {s id : String} :
    decode s = some id ↔ Unescapes (utf8 s.toList) (utf8 id.toList) := by
  constructor
  · intro h
    rw [← eq_utf8_of_ofUtf8? h]
    exact unescapes_decodeBytes _
  · intro h
    rw [decode, ← h.eq_decodeBytes, ofUtf8?_utf8, String.ofList_toList]

theorem slash_notMem_encodeByte : ∀ b : UInt8, '/' ∉ encodeByte b :=
  forall_byte (by decide +kernel)

/-- **An encoded text is one segment of a path.** -/
theorem slash_notMem_encode (id : String) : '/' ∉ (encode id).toList := by
  rw [encode, String.toList_ofList, List.mem_flatMap]
  rintro ⟨b, -, hb⟩
  exact slash_notMem_encodeByte b hb

theorem encode_ne_empty {id : String} (h : id ≠ "") : encode id ≠ "" := by
  intro empty
  have decoded := decode_encode id
  rw [empty] at decoded
  exact h (Option.some.inj decoded).symm

end Text.Percent

/-! ## Requests -/

namespace MetadataService

variable (service : MetadataService) (around : Surroundings)

theorem respond_get {path : String} {route : Route} (h : Route.ofPath path = some route)
    (tenant? : Option Tenant) :
    service.respond around ⟨"GET", path⟩ tenant? = service.answer around route tenant? := by
  simp only [respond, h, if_pos]

theorem answer_own (t : Tenant) :
    service.answer around .own (some t) = service.serve around service.registry.ownId t := rfl

theorem answer_named {s id : String}
    (h : Text.Percent.Unescapes (Text.utf8 s.toList) (Text.utf8 id.toList)) (t : Tenant) :
    service.answer around (.named s) (some t) = service.serve around id t := by
  simp only [answer, Text.Percent.decode_eq_some_iff.mpr h]

theorem answer_notText {s : String}
    (h : ∀ id : String, ¬Text.Percent.Unescapes (Text.utf8 s.toList) (Text.utf8 id.toList))
    (t : Tenant) : service.answer around (.named s) (some t) = ⟨parameterNotText, []⟩ := by
  have none : Text.Percent.decode s = none :=
    Option.eq_none_iff_forall_ne_some.mpr fun id decoded =>
      h id (Text.Percent.decode_eq_some_iff.mp decoded)
  simp only [answer, none]
  rfl

/-- **The two paths of an id**: its encoded form after the root, with and without a slash. -/
def pathsOf (id : String) : List String :=
  ["/saml/metadata/" ++ Text.Percent.encode id, "/saml/metadata/" ++ Text.Percent.encode id ++ "/"]

theorem ofPath_of_mem_pathsOf {id path : String} (ne : id ≠ "") (h : path ∈ pathsOf id) :
    Route.ofPath path = some (.named (Text.Percent.encode id)) := by
  rw [Route.ofPath_eq_named_iff]
  refine Or.inl ⟨Text.Percent.encode_ne_empty ne, Text.Percent.slash_notMem_encode id, ?_⟩
  simpa [pathsOf] using h

theorem answer_encode (id : String) (t : Tenant) :
    service.answer around (.named (Text.Percent.encode id)) (some t)
      = service.serve around id t :=
  service.answer_named around
    (Text.Percent.decode_eq_some_iff.mp (Text.Percent.decode_encode id)) t

/-- **The encoded own id asks for the own registration.** -/
theorem answer_encode_ownId (tenant? : Option Tenant) :
    service.answer around (.named (Text.Percent.encode service.registry.ownId)) tenant?
      = service.answer around .own tenant? := by
  cases tenant? with
  | none => rfl
  | some t => exact service.answer_encode around service.registry.ownId t

/-- The service of a registry whose own id needs encoding. -/
def slashed : MetadataService where
  registry :=
    { ownId := "a/b %?é"
      profile :=
        { identity := ⟨"entity", none⟩
          nameIdFormat := none
          signing := {}
          assertingParty := {}
          entityId_not_blank := by decide +kernel
          alias_not_blank := by decide +kernel }
      keySource := .shared
      ownId_not_blank := by decide +kernel
      ownId_ne_example := by decide }
  renderer := .outline
  baseUrl := fun _ => "https://login"

open Text Text.Percent in
/-- **The paths of the service are exactly its grammar, and every id has one.**  The own
registration has two paths; a parameter is one segment that is not empty, perhaps with a slash after
it, and two slashes give the empty one; nothing else is routed.  A parameter names the text that it
unescapes to, if there is one.  So an id is reached by its encoded form, and the own id also by no
id at all. -/
theorem metadata_paths_exact (service : MetadataService) (around : Surroundings) :
    (∀ path, Route.ofPath path = some .own ↔
      path = "/saml/metadata" ∨ path = "/saml/metadata/") ∧
    (∀ path s, Route.ofPath path = some (.named s) ↔
      (s ≠ "" ∧ '/' ∉ s.toList ∧
        (path = "/saml/metadata/" ++ s ∨ path = "/saml/metadata/" ++ s ++ "/")) ∨
      (s = "" ∧ path = "/saml/metadata//")) ∧
    (∀ path, Route.ofPath path = none → ∀ method tenant?,
      service.respond around ⟨method, path⟩ tenant? = ⟨{ status := 404 }, []⟩) ∧
    (∀ path t, Route.ofPath path = some .own →
      service.respond around ⟨"GET", path⟩ (some t)
        = service.serve around service.registry.ownId t) ∧
    (∀ path s t, Route.ofPath path = some (.named s) →
      (∀ id : String, Unescapes (utf8 s.toList) (utf8 id.toList) →
        service.respond around ⟨"GET", path⟩ (some t) = service.serve around id t) ∧
      ((∀ id : String, ¬Unescapes (utf8 s.toList) (utf8 id.toList)) →
        service.respond around ⟨"GET", path⟩ (some t) = ⟨parameterNotText, []⟩ ∧
          parameterNotText.status = 400)) ∧
    (∀ id t, id ≠ "" → ∀ path ∈ pathsOf id,
      service.respond around ⟨"GET", path⟩ (some t) = service.serve around id t) ∧
    ∀ method tenant?, ∀ path ∈ "/saml/metadata/" :: pathsOf service.registry.ownId,
      service.respond around ⟨method, path⟩ tenant?
        = service.respond around ⟨method, "/saml/metadata"⟩ tenant? := by
  refine ⟨fun _ => Route.ofPath_eq_own_iff, fun _ _ => Route.ofPath_eq_named_iff,
    ?_, ?_, ?_, ?_, ?_⟩
  · intro path h method tenant?
    simp only [respond, h]
    rfl
  · intro path t h
    rw [service.respond_get around h, answer_own]
  · intro path s t h
    rw [service.respond_get around h]
    exact ⟨fun id hid => service.answer_named around hid t,
      fun hid => ⟨service.answer_notText around hid t, rfl⟩⟩
  · intro id t ne path hpath
    rw [service.respond_get around (ofPath_of_mem_pathsOf ne hpath), service.answer_encode]
  · intro method tenant? path hpath
    have ownPath : Route.ofPath "/saml/metadata" = some .own :=
      Route.ofPath_eq_own_iff.mpr (Or.inl rfl)
    rcases List.mem_cons.mp hpath with rfl | hpath
    · simp only [respond, ownPath, Route.ofPath_eq_own_iff.mpr (Or.inr rfl)]
    · have ne := Text.ne_empty_of_not_isBlank service.registry.ownId_not_blank
      simp only [respond, ownPath, ofPath_of_mem_pathsOf ne hpath, service.answer_encode_ownId]

open Text Text.Percent in
theorem metadata_paths_exact_slashed :
    let around : Surroundings := ⟨Tenant.default ⟨7⟩, []⟩
    let zone : Tenant := { id := ⟨9⟩, subdomain := "zone" }
    (Route.ofPath "/saml/metadata/a/b" = none ∧
      slashed.respond around ⟨"GET", "/saml/metadata/a/b"⟩ (some zone) = ⟨{ status := 404 }, []⟩) ∧
    (Route.ofPath "/saml/metadata/%ff/" = some (.named "%ff") ∧
      (∀ id : String, ¬Unescapes (utf8 "%ff".toList) (utf8 id.toList)) ∧
      slashed.respond around ⟨"GET", "/saml/metadata/%ff/"⟩ (some zone)
        = ⟨parameterNotText, []⟩) ∧
    ("/saml/metadata/a%2Fb%20%25%3F%C3%A9/" ∈ pathsOf "a/b %?é" ∧
      slashed.respond around ⟨"GET", "/saml/metadata/a%2Fb%20%25%3F%C3%A9/"⟩ (some zone)
        = slashed.serve around slashed.registry.ownId zone) := by
  intro around zone
  obtain ⟨-, -, unrouted, -, named, encoded, -⟩ := metadata_paths_exact slashed around
  have notRouted : Route.ofPath "/saml/metadata/a/b" = none := by decide +kernel
  have routed : Route.ofPath "/saml/metadata/%ff/" = some (.named "%ff") := by decide +kernel
  have notText : ∀ id : String, ¬Unescapes (utf8 "%ff".toList) (utf8 id.toList) := fun id h => by
    have undecoded : decode "%ff" = none := by decide +kernel
    rw [← decode_eq_some_iff, undecoded] at h
    exact absurd h (by simp)
  have member : "/saml/metadata/a%2Fb%20%25%3F%C3%A9/" ∈ pathsOf "a/b %?é" := by decide +kernel
  exact ⟨⟨notRouted, unrouted _ notRouted _ _⟩,
    ⟨routed, notText, ((named _ _ zone routed).2 notText).1⟩,
    ⟨member, encoded _ zone (by decide) _ member⟩⟩

end MetadataService

end RelyingParty

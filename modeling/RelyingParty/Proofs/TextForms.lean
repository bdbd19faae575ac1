import RelyingParty.Json.Write
import RelyingParty.Proofs.Forms

/-!
# Proofs/TextForms — the text forms of an identity agree

An identity is shown in one form and read in four (`Writes`), each of which determines the number
that the identity is.  `Spells` says which texts spell an identity; here the texts come first: which
of them are read at all (`spells_iff`), and that it makes no difference whether a text is read as it
is or from the JSON text that says it (`read_of_content`).
-/

namespace RelyingParty.TenantId

open Json (Document Slot Spelling)

/-! ## Digits -/

/-- **Thirty-two hexadecimal digits**, in either case of letters. -/
def AreDigits (ds : List Char) : Prop :=
  ds.length = 32 ∧ ∀ c ∈ ds, c ∈ "0123456789abcdefABCDEF".toList

/-- The number that hexadecimal digits spell. -/
def numberOf (ds : List Char) : Nat := Text.ofHexDigits (ds.filterMap Text.hexValue)

variable {id : TenantId} {ds : List Char}

theorem isSome_hexValue_iff {c : Char} :
    (Text.hexValue c).isSome ↔ c ∈ "0123456789abcdefABCDEF".toList := by
  refine ⟨fun h => ?_, ?_⟩
  · obtain ⟨n, hn⟩ := Option.isSome_iff_exists.mp h
    exact of_hexValue (P := fun c => c ∈ "0123456789abcdefABCDEF".toList) hn (by decide)
  · have digits : ∀ c ∈ "0123456789abcdefABCDEF".toList, (Text.hexValue c).isSome :=
      List.forall_iff_forall_mem.mp (by decide)
    exact digits c

/-- The values of digits, none of which is left out. -/
theorem map_hexValue (h : ∀ c ∈ ds, c ∈ "0123456789abcdefABCDEF".toList) :
    ds.map Text.hexValue = (ds.filterMap Text.hexValue).map some := by
  induction ds with
  | nil => rfl
  | cons c ds ih =>
    rw [List.forall_mem_cons] at h
    obtain ⟨n, hn⟩ := Option.isSome_iff_exists.mp (isSome_hexValue_iff.mpr h.1)
    rw [List.map_cons, List.filterMap_cons_some hn, List.map_cons, ih h.2, hn]

theorem hasDigits_iff : id.HasDigits ds ↔ AreDigits ds ∧ id.bits.toNat = numberOf ds := by
  refine ⟨fun h => ?_, fun ⟨⟨length, digits⟩, number⟩ => ?_⟩
  · have digits : AreDigits ds := ⟨h.length_eq, fun c hc =>
      isSome_hexValue_iff.mp (Option.isSome_iff_exists.mpr (h.isHex hc))⟩
    obtain ⟨values, -, all, spelled⟩ := h
    rw [map_hexValue digits.2, List.map_inj_right fun _ _ => Option.some.inj] at all
    exact ⟨digits, by rw [numberOf, all, spelled]⟩
  · have all := map_hexValue digits
    refine ⟨_, ?_, all, number.symm⟩
    rw [← length, ← List.length_map some, ← all, List.length_map]

/-- An identity is its number. -/
theorem eq_of_toNat_eq {id id' : TenantId} (h : id.bits.toNat = id'.bits.toNat) : id = id' := by
  cases id
  cases id'
  exact congrArg mk (BitVec.eq_of_toNat_eq h)

/-- **Thirty-two digits are those of an identity.** -/
theorem exists_hasDigits (h : AreDigits ds) : ∃ id, HasDigits id ds := by
  have all : ds.mapM Text.hexValue = some (ds.filterMap Text.hexValue) :=
    mapM_eq_some_iff.mpr (map_hexValue h.2)
  exact ⟨_, hasDigits_of_ofHex? h.1 (congrArg (Option.map _) all)⟩

/-! ## Hyphens -/

/-- **Digits in groups of 8, 4, 4, 4 and 12**, with hyphens between them. -/
inductive Hyphenated : List Char → List Char → Prop
  | groups {a b c d e : List Char} (ha : a.length = 8) (hb : b.length = 4) (hc : c.length = 4)
    (hd : d.length = 4) (he : e.length = 12) :
    Hyphenated (a ++ b ++ c ++ d ++ e) (a ++ '-' :: b ++ '-' :: c ++ '-' :: d ++ '-' :: e)

theorem hyphenated_iff {cs : List Char} :
    Hyphenated ds cs ↔ ds.length = 32 ∧ cs = hyphenate ds := by
  constructor
  · rintro ⟨ha, hb, hc, hd, he⟩
    simp (disch := omega) [hyphenate, List.drop_append, List.drop_eq_nil_of_le, *]
  · rintro ⟨length, rfl⟩
    have h := Hyphenated.groups (a := ds.take 8) (b := (ds.drop 8).take 4)
      (c := (ds.drop 12).take 4) (d := (ds.drop 16).take 4) (e := ds.drop 20)
      (by simp [length]) (by simp [length]) (by simp [length]) (by simp [length]) (by simp [length])
    simp only [List.append_assoc, append_groups] at h
    simpa [hyphenate] using h

/-- **The ways to write digits.** -/
inductive Writes (ds : List Char) : List Char → Prop
  | alone : Writes ds ds
  | hyphens {cs : List Char} (h : Hyphenated ds cs) : Writes ds cs
  | braces {cs : List Char} (h : Hyphenated ds cs) : Writes ds ('{' :: (cs ++ ['}']))
  | resource {mark cs : List Char} (hm : mark.map Char.toLower = "urn:uuid:".toList)
    (h : Hyphenated ds cs) : Writes ds (mark ++ cs)

theorem spells_iff {cs : List Char} : id.Spells cs ↔ ∃ ds, id.HasDigits ds ∧ Writes ds cs := by
  have grouped {ds : List Char} (h : id.HasDigits ds) : Hyphenated ds (hyphenate ds) :=
    hyphenated_iff.mpr ⟨h.length_eq, rfl⟩
  constructor
  · rintro (h | h | h | ⟨hm, h⟩)
    · exact ⟨_, h, .alone⟩
    · exact ⟨_, h, .hyphens (grouped h)⟩
    · exact ⟨_, h, .braces (grouped h)⟩
    · exact ⟨_, h, .resource hm (grouped h)⟩
  · rintro ⟨ds, h, w | w | w | ⟨hm, w⟩⟩
    · exact .digits h
    · exact (hyphenated_iff.mp w).2 ▸ .hyphens h
    · exact (hyphenated_iff.mp w).2 ▸ .braces h
    · exact (hyphenated_iff.mp w).2 ▸ .resource hm h

/-! ## The canonical spelling -/

theorem digits_lower (id : TenantId) : ∀ c ∈ id.digits, c ∈ "0123456789abcdef".toList := by
  have lower : ∀ n < 16, Text.hexLower n ∈ "0123456789abcdef".toList := by decide
  rw [digits, List.forall_mem_map]
  exact fun n hn => lower n (Text.lt_of_mem_hexDigits hn)

theorem hyphenated_toString (id : TenantId) : Hyphenated id.digits id.toString.toList :=
  hyphenated_iff.mpr ⟨id.length_digits, String.toList_ofList⟩

/-- No character of the canonical spelling has to be escaped. -/
theorem writeText_toString (id : TenantId) :
    Json.writeText id.toString = "\"" ++ id.toString ++ "\"" := by
  have bare : ∀ c ∈ "-0123456789abcdef".toList, Json.writeChar c = [c] :=
    List.forall_iff_forall_mem.mp (by decide)
  have same : id.toString.toList.flatMap Json.writeChar = id.toString.toList := by
    rw [List.flatMap_congr (g := fun c => [c]), List.flatMap_singleton']
    intro c hc
    refine bare c (List.mem_cons.mpr (or_iff_not_imp_left.mpr fun ne => id.digits_lower c ?_))
    rw [← filter_hyphenate id.hasDigits_digits.ne_hyphen, List.mem_filter]
    rw [toString, String.toList_ofList] at hc
    exact ⟨hc, decide_eq_true ne⟩
  rw [Json.writeText, same, ← String.toList_inj]
  simp

/-! ## JSON -/

/-- **A JSON text is read as what it says is read**, and refused for the same flaw. -/
theorem read_of_content {slot : Slot Document} {s : Spelling} {text : String}
    (hs : slot.value = .text s) (content : s.content = .ok text.toList) :
    Json.read reader slot.text = (parse text).mapError fun flaw =>
      .refused ("UUID parsing failed: " ++ flaw.message) := by
  have reads : reader.Reads _ := Json.Reader.refined_reads .identifier _
  rw [Json.read_text reads.isLocal, reads.decode_eq, hs]
  simp only [Json.Reader.textOf, content, bind, Except.bind, String.ofList_toList]
  cases parse text <;> rfl

theorem read_of_content_iff {slot : Slot Document} {s : Spelling} {text : String}
    (hs : slot.value = .text s) (content : s.content = .ok text.toList) :
    Json.read reader slot.text = .ok id ↔ parse text = .ok id := by
  rw [read_of_content hs content, mapError_eq_ok_iff]

theorem read_writeText (text : String) :
    Json.read reader (Json.writeText text) = .ok id ↔ parse text = .ok id := by
  have alone : (⟨.none, .said text, .none⟩ : Slot Document).text = Json.writeText text := by
    rw [Slot.text_alone, Document.write_said, String.ofList_toList]
  rw [← alone]
  exact read_of_content_iff rfl (Spelling.content_ofText text.toList)

/-! ## Agreement -/

/-- **The text forms of an identity agree.**  Its canonical spelling has 36 characters, lower-case
digits of its number in groups of 8, 4, 4, 4 and 12 with hyphens between them; it is read back, and
so is its JSON text, which is the same between quotes; and no two identities share it.  A text is
read just if it writes 32 digits in one of the four ways.  Then the identity is the number that the
digits spell, whatever the way and the case of letters.  A JSON text is read just if what it says
is, as the same identity. -/
theorem text_forms_agree :
    (∀ id : TenantId, id.toString.length = 36 ∧
      (∃ ds, (∀ c ∈ ds, c ∈ "0123456789abcdef".toList) ∧ id.bits.toNat = numberOf ds ∧
        Hyphenated ds id.toString.toList) ∧
      parse id.toString = .ok id ∧
      Json.writeText id.toString = "\"" ++ id.toString ++ "\"" ∧
      Json.read reader (Json.writeText id.toString) = .ok id) ∧
    (∀ id id' : TenantId, id.toString = id'.toString → id = id') ∧
    (∀ text, (∃ id, parse text = .ok id) ↔ ∃ ds, AreDigits ds ∧ Writes ds text.toList) ∧
    (∀ text ds, AreDigits ds → Writes ds text.toList →
      ∃ id, parse text = .ok id ∧ id.bits.toNat = numberOf ds ∧ parse id.toString = .ok id) ∧
    (∀ text text' ds ds', AreDigits ds → AreDigits ds' → numberOf ds = numberOf ds' →
      Writes ds text.toList → Writes ds' text'.toList → parse text = parse text') ∧
    ∀ (slot : Slot Document) (s : Spelling) (text : String), slot.value = .text s →
      s.content = .ok text.toList →
      ∀ id, Json.read reader slot.text = .ok id ↔ parse text = .ok id := by
  have canonical (id : TenantId) : parse id.toString = .ok id := id.spells_toString.parse
  have written {text : String} {ds : List Char} (digits : AreDigits ds)
      (h : Writes ds text.toList) : ∃ id, parse text = .ok id ∧ id.bits.toNat = numberOf ds := by
    obtain ⟨id, hid⟩ := exists_hasDigits digits
    exact ⟨id, parse_eq_ok_iff.mpr (spells_iff.mpr ⟨ds, hid, h⟩), (hasDigits_iff.mp hid).2⟩
  refine ⟨fun id => ⟨?_, ?_, canonical id, id.writeText_toString, ?_⟩, fun id id' same => ?_,
    fun text => ⟨?_, fun ⟨ds, digits, h⟩ => ?_⟩, fun text ds digits h => ?_, ?_,
    fun slot s text hs content id => read_of_content_iff hs content⟩
  · rw [toString, String.length_ofList, length_hyphenate id.length_digits]
  · exact ⟨id.digits, id.digits_lower, (hasDigits_iff.mp id.hasDigits_digits).2,
      id.hyphenated_toString⟩
  · exact (read_writeText _).mpr (canonical id)
  · have read := canonical id
    rw [same, canonical id'] at read
    exact (Except.ok.inj read).symm
  · rintro ⟨id, h⟩
    obtain ⟨ds, digits, writes⟩ := spells_iff.mp (parse_eq_ok_iff.mp h)
    exact ⟨ds, (hasDigits_iff.mp digits).1, writes⟩
  · obtain ⟨id, read, -⟩ := written digits h
    exact ⟨id, read⟩
  · obtain ⟨id, read, number⟩ := written digits h
    exact ⟨id, read, number, canonical id⟩
  · intro text text' ds ds' digits digits' same h h'
    obtain ⟨id, read, number⟩ := written digits h
    obtain ⟨id', read', number'⟩ := written digits' h'
    rw [read, read', eq_of_toNat_eq (number.trans (same.trans number'.symm))]

/-- The mark of a resource name and an identity, the first letter being escaped. -/
def escapedName : Spelling :=
  .unit ⟨['0', '0', '5', '5'].get, [0, 0, 5, 5].get, by decide⟩ ::
    Spelling.ofText "RN:uuid:550E8400-e29b-41d4-A716-446655440000".toList

theorem text_forms_agree_marked :
    let ds := "550E8400e29b41d4A716446655440000".toList
    let text := "URN:uuid:550E8400-e29b-41d4-A716-446655440000"
    let slot : Slot Document := ⟨⟨[' ', '\n'], by simp [Json.isSpace]⟩, .text escapedName, .none⟩
    AreDigits ds ∧ Writes ds text.toList ∧ escapedName.content = .ok text.toList ∧
    (∃ id, parse text = .ok id ∧ id.bits = 0x550e8400e29b41d4a716446655440000#128 ∧
      Json.read reader slot.text = .ok id) ∧
    parse text = parse "550e8400E29B41D4a716446655440000" := by
  intro ds text slot
  have digits : AreDigits ds := ⟨by decide, List.forall_iff_forall_mem.mp (by decide)⟩
  have others : AreDigits "550e8400E29B41D4a716446655440000".toList :=
    ⟨by decide, List.forall_iff_forall_mem.mp (by decide)⟩
  have same : numberOf ds = numberOf "550e8400E29B41D4a716446655440000".toList := by decide +kernel
  have number : numberOf ds = (0x550e8400e29b41d4a716446655440000#128).toNat := by decide +kernel
  have writes : Writes ds text.toList := by
    have parts : text.toList = "URN:uuid:".toList ++ hyphenate ds := by decide +kernel
    rw [parts]
    exact .resource (by decide) (hyphenated_iff.mpr ⟨digits.1, rfl⟩)
  have content : escapedName.content = .ok text.toList := by
    rw [escapedName, Spelling.content_unit (by decide) (by decide), Spelling.content_ofText]
    decide +kernel
  obtain ⟨-, -, -, reads, alike, json⟩ := text_forms_agree
  obtain ⟨id, read, spelled, -⟩ := reads text ds digits writes
  refine ⟨digits, writes, content, ⟨id, read, ?_, ?_⟩, ?_⟩
  · exact BitVec.eq_of_toNat_eq (spelled.trans number)
  · exact (json slot escapedName text rfl content id).mpr read
  · exact alike text "550e8400E29B41D4a716446655440000" ds _ digits others same writes .alone

end RelyingParty.TenantId

import RelyingParty.Metadata.Download
import RelyingParty.Proofs.Isolation

/-!
# Proofs/Disposition — the header that names a download is safe and loses nothing

Whatever the name, every byte of the header is legal in a header, and the two quotes in it are the
ones around the plain form of the name.  The other form is strictly percent-encoded (`Encodes`) and
stands for the name, so the header tells all names apart, and the names of the metadata of any two
zones.
-/

namespace RelyingParty

/-! ## Bytes -/

namespace Text

/-- A character outside ASCII has no byte of ASCII. -/
theorem high_of_mem_utf8EncodeChar {c : Char} (h : 128 ≤ c.toNat) :
    ∀ b ∈ String.utf8EncodeChar c, 128 ≤ b.toNat := by
  have lead₂ : ∀ x : UInt8, 128 ≤ (x ||| 0xC0).toNat := Percent.forall_byte (by decide +kernel)
  have lead₃ : ∀ x : UInt8, 128 ≤ (x ||| 0xE0).toNat := Percent.forall_byte (by decide +kernel)
  have lead₄ : ∀ x : UInt8, 128 ≤ (x ||| 0xF0).toNat := Percent.forall_byte (by decide +kernel)
  have trail : ∀ x : UInt8, 128 ≤ (x ||| 0x80).toNat := Percent.forall_byte (by decide +kernel)
  rcases Char.utf8Size_eq c with h1 | h2 | h3 | h4
  · have ascii := UInt32.le_iff_toNat_le.mp (Char.utf8Size_eq_one_iff.mp h1)
    exact absurd ascii (Nat.not_le_of_lt h)
  · rw [String.utf8EncodeChar_eq_cons_cons h2]
    simp only [List.forall_mem_cons]
    exact ⟨lead₂ _, trail _, nofun⟩
  · rw [String.utf8EncodeChar_eq_cons_cons_cons h3]
    simp only [List.forall_mem_cons]
    exact ⟨lead₃ _, trail _, trail _, nofun⟩
  · rw [String.utf8EncodeChar_eq_cons_cons_cons_cons h4]
    simp only [List.forall_mem_cons]
    exact ⟨lead₄ _, trail _, trail _, trail _, nofun⟩

/-- A character of ASCII is its byte. -/
theorem utf8EncodeChar_of_ascii {c : Char} (h : c.toNat < 128) :
    String.utf8EncodeChar c = [c.toUInt8] := by
  refine String.utf8EncodeChar_eq_singleton (Char.utf8Size_eq_one_iff.mpr ?_)
  exact UInt32.le_iff_toNat_le.mpr (Nat.le_of_lt_succ h)

/-- Whether a header can have the character between quotes as it is. -/
def isPlain (c : Char) : Bool := 0x20 ≤ c.toNat && c.toNat != 0x7F && c != '"' && c != '\\'

theorem isPlain_iff {c : Char} :
    isPlain c = true ↔ 0x20 ≤ c.toNat ∧ c.toNat ≠ 0x7F ∧ c ≠ '"' ∧ c ≠ '\\' := by
  simp [isPlain, and_assoc]

/-- **No control byte comes from other characters.** -/
theorem legal_of_mem_utf8 {cs : List Char} (h : ∀ c ∈ cs, 0x20 ≤ c.toNat ∧ c.toNat ≠ 0x7F) :
    ∀ b ∈ utf8 cs, 0x20 ≤ b ∧ b ≠ 0x7F := by
  intro b hb
  obtain ⟨c, hc, hb⟩ := List.mem_flatMap.mp hb
  obtain ⟨visible, undeleted⟩ := h c hc
  rw [UInt8.le_iff_toNat_le, Ne, ← UInt8.toNat_inj]
  change 0x20 ≤ b.toNat ∧ b.toNat ≠ 0x7F
  rcases Nat.lt_or_ge c.toNat 128 with ascii | high
  · -- one byte, which is the character's code
    rw [utf8EncodeChar_of_ascii ascii, List.mem_singleton] at hb
    have same : b.toNat = c.toNat := by
      rw [hb]
      exact Nat.mod_eq_of_lt (Nat.lt_trans ascii (by decide))
    omega
  · have := high_of_mem_utf8EncodeChar high b hb
    omega

/-! ## Strict percent-encoding -/

namespace Percent

/-- **Strict percent-encoding**: unreserved characters for themselves, and upper-case triples. -/
inductive Encodes : List Char → List UInt8 → Prop
  | nil : Encodes [] []
  | unreserved {c : Char} {cs : List Char} {bytes : List UInt8}
    (h : c.isAlphanum = true ∨ c ∈ ['-', '.', '_', '~']) :
    Encodes cs bytes → Encodes (c :: cs) (c.toUInt8 :: bytes)
  | triple {hi lo : Nat} {cs : List Char} {bytes : List UInt8} (hhi : hi < 16) (hlo : lo < 16) :
    Encodes cs bytes →
      Encodes ('%' :: hexUpper hi :: hexUpper lo :: cs) (UInt8.ofNat (16 * hi + lo) :: bytes)

theorem encodeByte_of_isUnreserved : ∀ b : UInt8, isUnreserved b = true →
    encodeByte b = [Char.ofUInt8 b] ∧ (Char.ofUInt8 b).toUInt8 = b ∧
      ((Char.ofUInt8 b).isAlphanum = true ∨ Char.ofUInt8 b ∈ ['-', '.', '_', '~']) :=
  forall_byte (by decide +kernel)

theorem Encodes.encodeByte_append (b : UInt8) {cs : List Char} {bytes : List UInt8}
    (h : Encodes cs bytes) : Encodes (encodeByte b ++ cs) (b :: bytes) := by
  cases known : isUnreserved b with
  | true =>
    obtain ⟨one, same, kind⟩ := encodeByte_of_isUnreserved b known
    have single := Encodes.unreserved kind h
    rw [same] at single
    rw [one]
    exact single
  | false =>
    have whole : UInt8.ofNat (16 * (b.toNat / 16) + b.toNat % 16) = b := by
      rw [Nat.div_add_mod, UInt8.ofNat_toNat]
    have small := b.toNat_lt
    have hhi : b.toNat / 16 < 16 := by omega
    have hlo : b.toNat % 16 < 16 := by omega
    have triple := Encodes.triple hhi hlo h
    rw [whole] at triple
    simpa [encodeByte, known] using triple

/-- **Encoding is strict**, and stands for the bytes of the text. -/
theorem encodes_encode (s : String) : Encodes (encode s).toList (utf8 s.toList) := by
  rw [encode, String.toList_ofList]
  induction utf8 s.toList with
  | nil => exact .nil
  | cons b bytes ih => exact ih.encodeByte_append b

theorem all_isPlain_encodeByte : ∀ b : UInt8, (encodeByte b).all isPlain = true :=
  forall_byte (by decide +kernel)

theorem all_isPlain_encode (s : String) : (encode s).toList.all isPlain = true := by
  rw [encode, String.toList_ofList, List.all_flatMap]
  exact List.all_eq_true.mpr fun b _ => all_isPlain_encodeByte b

end Percent

end Text

/-! ## The header -/

namespace Download

open Text (isPlain isPlain_iff)

/-- The characters between the quotes. -/
def quoted (name : String) : List Char := name.toList.filter isQuotable

theorem all_isPlain_quoted (name : String) : (quoted name).all isPlain = true := by
  refine List.all_eq_true.mpr fun c hc => isPlain_iff.mpr ?_
  have quotable := (List.mem_filter.mp hc).2
  simp only [isQuotable, isControl, Bool.and_eq_true, Bool.not_eq_true', Bool.or_eq_false_iff,
    Bool.and_eq_false_iff, decide_eq_false_iff_not, bne_iff_ne] at quotable
  obtain ⟨⟨⟨visible, undeleted⟩, quote⟩, backslash⟩ := quotable
  exact ⟨by omega, by omega, quote, backslash⟩

/-- What stands before the quotes. -/
def front : List Char := "attachment; filename=".toList

/-- What stands between the quotes and the encoded form. -/
def middle : List Char := "; filename*=UTF-8''".toList

theorem all_isPlain_front : front.all isPlain = true := by decide +kernel

theorem all_isPlain_middle : middle.all isPlain = true := by decide +kernel

theorem toList_parts (plain encoded : String) :
    ("attachment; filename=\"" ++ plain ++ "\"; filename*=UTF-8''" ++ encoded).toList
      = front ++ '"' :: (plain.toList ++ '"' :: (middle ++ encoded.toList)) := by
  have opening : "attachment; filename=\"".toList = front ++ ['"'] := by decide +kernel
  have closing : "\"; filename*=UTF-8''".toList = '"' :: middle := by decide +kernel
  simp only [String.toList_append, opening, closing, List.append_assoc, List.cons_append,
    List.nil_append]

/-- **The parts of the header.** -/
theorem toList_contentDisposition (name : String) :
    (contentDisposition name).toList
      = front ++ '"' :: (quoted name ++ '"' :: (middle ++ (Text.Percent.encode name).toList)) := by
  have parts := toList_parts (String.ofList (quoted name)) (Text.Percent.encode name)
  rwa [String.toList_ofList] at parts

theorem toList_quoted (name : String) :
    (String.ofList (quoted name)).toList = name.toList.filter (fun c =>
      ¬(c.toNat < 0x20 ∨ 0x7F ≤ c.toNat ∧ c.toNat < 0xA0 ∨ c = '"' ∨ c = '\\')) := by
  rw [String.toList_ofList, quoted]
  refine List.filter_congr fun c _ => ?_
  rw [Bool.eq_iff_iff]
  simp [isQuotable, isControl, and_assoc]

/-- **The header offers a document under the name**: between quotes, less the characters that
cannot stand there, and as a whole in strict percent-encoding. -/
def Offers (header name : String) : Prop :=
  ∃ plain encoded : String,
    header = "attachment; filename=\"" ++ plain ++ "\"; filename*=UTF-8''" ++ encoded ∧
    plain.toList = name.toList.filter (fun c =>
      ¬(c.toNat < 0x20 ∨ 0x7F ≤ c.toNat ∧ c.toNat < 0xA0 ∨ c = '"' ∨ c = '\\')) ∧
    Text.Percent.Encodes encoded.toList (Text.utf8 name.toList)

theorem offers_contentDisposition (name : String) : Offers (contentDisposition name) name :=
  ⟨String.ofList (quoted name), Text.Percent.encode name, rfl, toList_quoted name,
    Text.Percent.encodes_encode name⟩

theorem eq_quote_or_isPlain {name : String} {c : Char} (h : c ∈ (contentDisposition name).toList) :
    c = '"' ∨ isPlain c = true := by
  rw [toList_contentDisposition] at h
  simp only [List.mem_append, List.mem_cons] at h
  rcases h with h | rfl | h | rfl | h | h
  · exact .inr (List.all_eq_true.mp all_isPlain_front c h)
  · exact .inl rfl
  · exact .inr (List.all_eq_true.mp (all_isPlain_quoted name) c h)
  · exact .inl rfl
  · exact .inr (List.all_eq_true.mp all_isPlain_middle c h)
  · exact .inr (List.all_eq_true.mp (Text.Percent.all_isPlain_encode name) c h)

/-- A plain part has no quote in it. -/
theorem ne_quote_of_all_isPlain {cs : List Char} (h : cs.all isPlain = true) :
    ∀ c ∈ cs, c ≠ '"' := fun c hc =>
  (isPlain_iff.mp (List.all_eq_true.mp h c hc)).2.2.1

theorem count_quote {cs : List Char} (h : cs.all isPlain = true) : cs.count '"' = 0 :=
  List.count_eq_zero.mpr fun mem => ne_quote_of_all_isPlain h '"' mem rfl

/-- **The quotes in the header** are the two around the plain form. -/
theorem count_quote_contentDisposition (name : String) :
    (contentDisposition name).toList.count '"' = 2 := by
  rw [toList_contentDisposition]
  simp [List.count_append, count_quote all_isPlain_front, count_quote (all_isPlain_quoted name),
    count_quote all_isPlain_middle, count_quote (Text.Percent.all_isPlain_encode name)]

/-- What stands before the first quote is plain, so the rest is found by it. -/
theorem dropWhile_quote {cs : List Char} (h : cs.all isPlain = true) (rest : List Char) :
    (cs ++ '"' :: rest).dropWhile (· ≠ '"') = '"' :: rest := by
  rw [List.dropWhile_append_of_pos fun c hc => by simpa using ne_quote_of_all_isPlain h c hc]
  rfl

/-- **The header tells all names apart.** -/
theorem contentDisposition_injective : Function.Injective contentDisposition := by
  intro name name' same
  have parts := congrArg String.toList same
  rw [toList_contentDisposition, toList_contentDisposition, List.append_cancel_left_eq,
    List.cons.injEq] at parts
  -- the plain form may be the same for both, and ends at the next quote
  have behind := congrArg (List.dropWhile (· ≠ '"')) parts.2
  rw [dropWhile_quote (all_isPlain_quoted name), dropWhile_quote (all_isPlain_quoted name'),
    List.cons.injEq, List.append_cancel_left_eq, String.toList_inj] at behind
  have decoded := congrArg Text.Percent.decode behind.2
  rw [Text.Percent.decode_encode, Text.Percent.decode_encode] at decoded
  exact Option.some.inj decoded

/-! ## The names of zones -/

/-- **Two tenants have their metadata under one name** just if they are of one zone. -/
theorem filename_eq_iff {t t' : Tenant} : filename t = filename t' ↔ t.SameZone t' := by
  have longer (subdomain : String) : "saml-sp.xml" ≠ "saml-" ++ subdomain ++ "-sp.xml" := by
    intro same
    have := congrArg String.length same
    simp only [String.length_append] at this
    have short : "saml-sp.xml".length = 11 := rfl
    have sides : "saml-".length = 5 ∧ "-sp.xml".length = 7 := ⟨rfl, rfl⟩
    omega
  rcases hd : t.isDefault <;> rcases hd' : t'.isDefault
  · simp [filename, Tenant.SameZone, hd, hd']
  · simp [filename, Tenant.SameZone, hd, hd', (longer _).symm]
  · simp [filename, Tenant.SameZone, hd, hd', longer]
  · simp [filename, Tenant.SameZone, hd, hd']

/-- **The header is safe and faithful.**  Every byte of it is legal, no backslash is in it and no
quote but the two around the plain form, which is the name less its control characters, quotes and
backslashes.  The encoded form is strict and stands for the name.  So no two names share a header,
and two tenants do just if they are of one zone. -/
theorem contentDisposition_safe_and_faithful :
    (∀ name : String, ∃ plain encoded : String,
      contentDisposition name
        = "attachment; filename=\"" ++ plain ++ "\"; filename*=UTF-8''" ++ encoded ∧
      (∀ b ∈ Text.utf8 (contentDisposition name).toList, 0x20 ≤ b ∧ b ≠ 0x7F) ∧
      (contentDisposition name).toList.count '"' = 2 ∧
      '\\' ∉ (contentDisposition name).toList ∧
      plain.toList = name.toList.filter (fun c =>
        ¬(c.toNat < 0x20 ∨ 0x7F ≤ c.toNat ∧ c.toNat < 0xA0 ∨ c = '"' ∨ c = '\\')) ∧
      Text.Percent.Encodes encoded.toList (Text.utf8 name.toList) ∧
      Text.Percent.decode encoded = some name) ∧
    Function.Injective contentDisposition ∧
    ∀ t t' : Tenant,
      contentDisposition (filename t) = contentDisposition (filename t') ↔ t.SameZone t' := by
  refine ⟨fun name => ⟨String.ofList (quoted name), Text.Percent.encode name, rfl, ?_,
    count_quote_contentDisposition name, ?_, toList_quoted name, Text.Percent.encodes_encode name,
    Text.Percent.decode_encode name⟩, contentDisposition_injective, fun t t' => ?_⟩
  · refine Text.legal_of_mem_utf8 fun c hc => ?_
    rcases eq_quote_or_isPlain hc with rfl | plain
    · decide
    · obtain ⟨visible, undeleted, -⟩ := isPlain_iff.mp plain
      exact ⟨visible, undeleted⟩
  · intro backslash
    rcases eq_quote_or_isPlain backslash with quote | plain
    · exact absurd quote (by decide)
    · exact (isPlain_iff.mp plain).2.2.2 rfl
  · rw [contentDisposition_injective.eq_iff, filename_eq_iff]

theorem contentDisposition_safe_and_faithful_hostile :
    let name := "a\"; filename*=x\r\n"
    contentDisposition name = "attachment; filename=\"a; filename*=x\"; filename*=UTF-8''"
      ++ "a%22%3B%20filename%2A%3Dx%0D%0A" ∧
    (∀ b ∈ Text.utf8 (contentDisposition name).toList, 0x20 ≤ b ∧ b ≠ 0x7F) ∧
    (contentDisposition name).toList.count '"' = 2 ∧
    contentDisposition name ≠ contentDisposition "a; filename*=x" := by
  intro name
  obtain ⟨safe, injective, -⟩ := contentDisposition_safe_and_faithful
  obtain ⟨plain, encoded, -, legal, quotes, -⟩ := safe name
  exact ⟨by decide +kernel, legal, quotes, injective.ne (by decide)⟩

end Download

end RelyingParty

import Mathlib.Data.List.Forall2
import RelyingParty.Proofs.Acceptance
import RelyingParty.Proofs.Naming

/-!
# Proofs/TruthValue — which texts are read as truth values

A truth value is read from what trimming leaves of a text (`Text.toList_trim_eq_iff`), in lower
case.  The full lower case takes characters of all scripts, and it goes by their neighbours, but a
character beyond ASCII never becomes one of ASCII alone, unless it is the Kelvin sign, which becomes
a `k` (`Text.lowerFrom_eq_iff`).  The words for truth values have no `k`, so nothing but their
spellings in ASCII is read as one (`readFlag_eq_ok_iff`).
-/

namespace RelyingParty

namespace Text

/-! ## Trimming -/

/-- **What stands between the white space** at both ends of a text. -/
structure IsCoreOf (core text : List Char) : Prop where
  padded : ∃ front back, text = front ++ core ++ back ∧ (∀ c ∈ front, isBlankChar c = true) ∧
    ∀ c ∈ back, isBlankChar c = true
  first_not_blank : ∀ c ∈ core.head?, isBlankChar c = false
  last_not_blank : ∀ c ∈ core.getLast?, isBlankChar c = false

theorem dropBlank_append_of_blank {front rest : List Char}
    (blank : ∀ c ∈ front, isBlankChar c = true) : dropBlank (front ++ rest) = dropBlank rest :=
  List.dropWhile_append_of_pos blank

theorem dropBlank_of_head? {cs : List Char} (first : ∀ c ∈ cs.head?, isBlankChar c = false) :
    dropBlank cs = cs := by
  cases cs with
  | nil => rfl
  | cons c cs => exact List.dropWhile_cons_of_neg (by simp [first c rfl])

theorem head?_dropBlank (cs : List Char) : ∀ c ∈ (dropBlank cs).head?, isBlankChar c = false := by
  intro c first
  have kept := List.head?_dropWhile_not isBlankChar cs
  rwa [show (cs.dropWhile isBlankChar).head? = some c from first] at kept

/-- What is dropped is white space. -/
theorem exists_blank_dropBlank (cs : List Char) :
    ∃ front, cs = front ++ dropBlank cs ∧ ∀ c ∈ front, isBlankChar c = true :=
  ⟨cs.takeWhile isBlankChar, List.takeWhile_append_dropWhile.symm, fun _ => List.mem_takeWhile_imp⟩

/-- The blanks behind a core, seen from the end. -/
theorem dropBlank_reverse_append {core back : List Char}
    (first : ∀ c ∈ core.head?, isBlankChar c = false)
    (last : ∀ c ∈ core.getLast?, isBlankChar c = false)
    (blank : ∀ c ∈ back, isBlankChar c = true) :
    dropBlank (dropBlank (core ++ back)).reverse = core.reverse := by
  cases core with
  | nil =>
    rw [List.nil_append, dropBlank_eq_nil_iff.mpr blank]
    rfl
  | cons c cs =>
    have kept : dropBlank (c :: cs ++ back) = c :: cs ++ back := dropBlank_of_head? first
    rw [kept, List.reverse_append, dropBlank_append_of_blank (by simpa using blank),
      dropBlank_of_head?]
    rwa [List.head?_reverse]

/-- **A text has one core**, which trimming leaves. -/
theorem toList_trim_eq_iff {text : String} {core : List Char} :
    (trim text).toList = core ↔ IsCoreOf core text.toList := by
  rw [trim, String.toList_ofList]
  constructor
  · rintro rfl
    obtain ⟨front, split, blank⟩ := exists_blank_dropBlank text.toList
    obtain ⟨back, split', blank'⟩ := exists_blank_dropBlank (dropBlank text.toList).reverse
    have inner : dropBlank text.toList
        = (dropBlank (dropBlank text.toList).reverse).reverse ++ back.reverse := by
      rw [← List.reverse_append, ← split', List.reverse_reverse]
    refine ⟨⟨front, back.reverse, ?_, blank, fun c h => blank' c (List.mem_reverse.mp h)⟩,
      fun c first => ?_, fun c last => ?_⟩
    · rw [List.append_assoc, ← inner, ← split]
    · refine head?_dropBlank text.toList c ?_
      rw [inner]
      exact List.mem_head?_append_of_mem_head? first
    · rw [List.getLast?_reverse] at last
      exact head?_dropBlank _ c last
  · rintro ⟨⟨front, back, padded, blank, blank'⟩, first, last⟩
    rw [padded, List.append_assoc, dropBlank_append_of_blank blank,
      dropBlank_reverse_append first last blank', List.reverse_reverse]

/-! ## Lower case -/

/-- **The characters that become ASCII** in lower case: those of ASCII, and the Kelvin sign. -/
inductive Lowers : Char → Char → Prop
  | ascii {c : Char} (h : c.toNat < 128) : Lowers c c.toLower
  | kelvin : Lowers '\u212a' 'k'

/-- No run of capitals but these leads into ASCII. -/
theorem lower_of_mem_lowerRuns : ∀ r ∈ lowerRuns,
    r.last < 128 ∨ (r.first = 0x212A ∧ r.last = 0x212A) ∨
      ∀ k ≤ r.last - r.first, 128 ≤ r.lower + k ∧ (r.lower + k).isValidChar := by
  decide +kernel

theorem lowerChar_of_ascii {c : Char} (h : c.toNat < 128) : lowerChar c = [c.toLower] := by
  have checked : ∀ n < 128, lowerChar (Char.ofNat n) = [(Char.ofNat n).toLower] := by
    decide +kernel
  simpa [Char.ofNat_toNat] using checked c.toNat h

theorem toLower_of_beyond {c : Char} (h : 128 ≤ c.toNat) : c.toLower = c := by
  refine dif_neg fun capital => ?_
  have : c.toNat ≤ 'Z'.toNat := capital.2
  have : 'Z'.toNat = 90 := rfl
  omega

theorem exists_beyond_lowerChar {c : Char} (h : 128 ≤ c.toNat) (ne : c ≠ '\u212a') :
    ∃ d ∈ lowerChar c, 128 ≤ d.toNat := by
  unfold lowerChar
  split_ifs with dotted
  · -- the capital I with a dot becomes two characters, and the second one is the dot
    exact ⟨'\u0307', by simp, by decide⟩
  cases found : lowerRuns.find? (·.covers c.toNat) with
  | none => exact ⟨c, by simp, h⟩
  | some r =>
    have covers : r.covers c.toNat = true :=
      List.find?_some (p := fun r : CaseRun => r.covers c.toNat) found
    simp only [CaseRun.covers, Bool.and_eq_true, decide_eq_true_eq] at covers
    obtain ⟨⟨first, last⟩, -⟩ := covers
    refine ⟨_, List.mem_singleton_self _, ?_⟩
    rcases lower_of_mem_lowerRuns r (List.mem_of_find?_eq_some found) with
      ascii | ⟨kelvin, kelvin'⟩ | beyond
    · omega
    · have : c.toNat = 0x212A := by omega
      exact absurd (by rw [← Char.ofNat_toNat c, this]) ne
    · obtain ⟨large, valid⟩ := beyond (c.toNat - r.first) (by omega)
      rw [Char.ofNat, dif_pos valid]
      exact large

theorem beyond_lowerSigma (before after : List Char) : 128 ≤ (lowerSigma before after).toNat := by
  unfold lowerSigma
  split_ifs <;> decide

theorem Lowers.lowerFrom_cons {c w : Char} (h : Lowers c w) (before after : List Char) :
    lowerFrom before (c :: after) = w :: lowerFrom (c :: before) after := by
  cases h with
  | ascii h =>
    have : c ≠ 'Σ' := by
      rintro rfl
      exact absurd h (by decide)
    rw [lowerFrom, if_neg this, lowerChar_of_ascii h, List.singleton_append]
  | kelvin =>
    have : lowerChar '\u212a' = ['k'] := by decide +kernel
    rw [lowerFrom, if_neg (by decide), this, List.singleton_append]

/-- Whatever stands around a character, it becomes one of ASCII or something that is not all in
ASCII. -/
theorem lowers_or_beyond (before : List Char) (c : Char) (after : List Char) :
    (∃ w, Lowers c w) ∨ ∃ d ∈ lowerFrom before (c :: after), 128 ≤ d.toNat := by
  by_cases ascii : c.toNat < 128
  · exact .inl ⟨_, .ascii ascii⟩
  by_cases kelvin : c = '\u212a'
  · exact .inl ⟨'k', kelvin ▸ Lowers.kelvin⟩
  right
  rw [lowerFrom]
  split_ifs with sigma
  · exact ⟨_, List.mem_cons_self, beyond_lowerSigma before after⟩
  · obtain ⟨d, mem, beyond⟩ := exists_beyond_lowerChar (Nat.le_of_not_lt ascii) kelvin
    exact ⟨d, List.mem_append_left _ mem, beyond⟩

/-- **A text whose lower case is in ASCII** is one that becomes it character by character. -/
theorem lowerFrom_eq_iff {before cs word : List Char} (ascii : ∀ w ∈ word, w.toNat < 128) :
    lowerFrom before cs = word ↔ List.Forall₂ Lowers cs word := by
  constructor
  · -- a sigma looks back at `before`, so that has to vary along the text
    rintro rfl
    induction cs generalizing before with
    | nil => exact .nil
    | cons c cs ih =>
      rcases lowers_or_beyond before c cs with ⟨w, h⟩ | ⟨d, mem, beyond⟩
      · rw [h.lowerFrom_cons] at ascii ⊢
        exact .cons h (ih fun w mem => ascii w (List.mem_cons_of_mem _ mem))
      · exact absurd (ascii d mem) (Nat.not_lt_of_le beyond)
  · intro h
    clear ascii
    induction h generalizing before with
    | nil => rfl
    | cons h _ ih => rw [h.lowerFrom_cons, ih]

/-- The word needs to have no `k`. -/
example : lower "O\u212a" = "ok" := by decide +kernel

theorem ascii_of_toLower {c : Char} (h : c.toLower.toNat < 128) : c.toNat < 128 := by
  by_contra beyond
  rw [toLower_of_beyond (Nat.le_of_not_lt beyond)] at h
  exact beyond h

theorem map_toLower_of_lowers {cs word : List Char} (h : List.Forall₂ Lowers cs word)
    (plain : 'k' ∉ word) : cs.map Char.toLower = word := by
  induction h with
  | nil => rfl
  | cons h _ ih =>
    obtain ⟨first, rest⟩ := List.ne_and_not_mem_of_not_mem_cons plain
    cases h with
    | ascii => rw [List.map_cons, ih rest]
    | kelvin => exact absurd rfl first

/-- **Words without a `k` are spelled in ASCII**, each letter small or capital. -/
theorem lower_eq_iff {text word : String} (ascii : ∀ w ∈ word.toList, w.toNat < 128)
    (plain : 'k' ∉ word.toList) :
    lower text = word ↔ text.toList.map Char.toLower = word.toList := by
  rw [lower, ← String.toList_inj, String.toList_ofList, lowerFrom_eq_iff ascii]
  refine ⟨fun h => map_toLower_of_lowers h plain, fun h => ?_⟩
  rw [← h, List.forall₂_map_right_iff, List.forall₂_same]
  intro c mem
  refine .ascii (ascii_of_toLower (ascii _ ?_))
  exact h ▸ List.mem_map_of_mem mem

end Text

/-! ## Truth values -/

/-- The words for a truth value. -/
def flagWords : Bool → List String
  | true => ["true", "1", "yes"]
  | false => ["false", "0", "no"]

/-- **A text says a truth value**: between the white space at its ends stands one of the words for
it, each letter of ASCII in either case. -/
def SaysFlag (value : String) (b : Bool) : Prop :=
  ∃ core, Text.IsCoreOf core value.toList ∧
    ∃ word ∈ flagWords b, core.map Char.toLower = word.toList

theorem flagOfWord_eq_some_iff {word : String} {b : Bool} :
    flagOfWord word = some b ↔ word ∈ flagWords b := by
  unfold flagOfWord
  split <;> cases b <;> simp_all [flagWords]

theorem ascii_of_mem_flagWords (b : Bool) :
    ∀ word ∈ flagWords b, (∀ w ∈ word.toList, w.toNat < 128) ∧ 'k' ∉ word.toList := by
  cases b <;> simp [flagWords]

theorem saysFlag_iff {value : String} {b : Bool} :
    SaysFlag value b ↔ ∃ word ∈ flagWords b,
      (Text.trim value).toList.map Char.toLower = word.toList := by
  simp only [SaysFlag, ← Text.toList_trim_eq_iff, exists_eq_left']

/-- **What says a truth value is in ASCII**, the white space apart. -/
theorem SaysFlag.ascii {value : String} {b : Bool} (h : SaysFlag value b) {core : List Char}
    (isCore : Text.IsCoreOf core value.toList) : ∀ c ∈ core, c.toNat < 128 := by
  obtain rfl := Text.toList_trim_eq_iff.mpr isCore
  obtain ⟨word, listed, said⟩ := saysFlag_iff.mp h
  intro c mem
  refine Text.ascii_of_toLower ((ascii_of_mem_flagWords b word listed).1 _ ?_)
  exact said ▸ List.mem_map_of_mem mem

theorem readFlag_eq_ok_iff {name value : String} {b : Bool} :
    readFlag name value = .ok b ↔ SaysFlag value b :=
  calc
    readFlag name value = .ok b ↔ Text.lower (Text.trim value) ∈ flagWords b := by
      rw [← flagOfWord_eq_some_iff, readFlag]
      split <;> simp [*]
    _ ↔ ∃ word ∈ flagWords b, Text.lower (Text.trim value) = word := by simp
    _ ↔ ∃ word ∈ flagWords b, (Text.trim value).toList.map Char.toLower = word.toList := by
      refine exists_congr fun word => and_congr_right fun listed => ?_
      obtain ⟨ascii, plain⟩ := ascii_of_mem_flagWords b word listed
      exact Text.lower_eq_iff ascii plain
    _ ↔ SaysFlag value b := saysFlag_iff.symm

/-- **Truth values are recognised by their words.**  A text is read as true exactly if `true`, `1`
or `yes` stands between the white space at its ends, as false exactly if `false`, `0` or `no` does,
each letter in either case; any other text is an error that names the variable.  So no text is read
that has a character beyond ASCII between the white space, whatever becomes of it in lower case. -/
theorem truth_values_recognized (name value : String) :
    (∀ b, readFlag name value = .ok b ↔ SaysFlag value b) ∧
    (∀ e, readFlag name value = .error e ↔ (∀ b, ¬SaysFlag value b) ∧
      e = .invalidValue name (.notFlag (Text.lower (Text.trim value)))) ∧
    ∀ core, Text.IsCoreOf core value.toList → ∀ c ∈ core, 128 ≤ c.toNat →
      ∃ problem, readFlag name value = .error (.invalidValue name problem) := by
  have refused (e : ConfigError) : readFlag name value = .error e ↔ (∀ b, ¬SaysFlag value b) ∧
      e = .invalidValue name (.notFlag (Text.lower (Text.trim value))) := by
    simp only [readFlag_eq_error_iff, ne_eq, readFlag_eq_ok_iff]
  refine ⟨fun b => readFlag_eq_ok_iff, refused, fun core isCore c mem beyond => ?_⟩
  refine ⟨_, (refused _).mpr ⟨fun b said => ?_, rfl⟩⟩
  exact Nat.not_lt_of_le beyond (said.ascii isCore c mem)

/-- A wide space is white space and a zero-width one is not; the long `s` is no `s`, though its
capital is an `S`. -/
theorem truth_values_recognized_padded :
    readFlag "SAML_SIGN_REQUEST" "\u3000YeS\u00a0" = .ok true ∧
      readFlag "SAML_SIGN_REQUEST" "No\u200b"
        = .error (.invalidValue "SAML_SIGN_REQUEST" (.notFlag "no\u200b")) ∧
      ∃ problem, readFlag "SAML_SIGN_REQUEST" " ye\u017f "
        = .error (.invalidValue "SAML_SIGN_REQUEST" problem) := by
  obtain ⟨accepted, -, -⟩ := truth_values_recognized "SAML_SIGN_REQUEST" "\u3000YeS\u00a0"
  obtain ⟨-, refused, -⟩ := truth_values_recognized "SAML_SIGN_REQUEST" "No\u200b"
  obtain ⟨-, -, beyond⟩ := truth_values_recognized "SAML_SIGN_REQUEST" " ye\u017f "
  refine ⟨(accepted true).mpr ?_, (refused _).mpr ⟨fun b said => ?_, by decide +kernel⟩, ?_⟩
  · exact ⟨"YeS".toList, Text.toList_trim_eq_iff.mp (by decide +kernel), "yes", by decide,
      by decide⟩
  · revert said
    rw [saysFlag_iff]
    cases b <;> decide +kernel
  · exact beyond "ye\u017f".toList (Text.toList_trim_eq_iff.mp (by decide +kernel)) '\u017f'
      (by decide) (by decide)

end RelyingParty

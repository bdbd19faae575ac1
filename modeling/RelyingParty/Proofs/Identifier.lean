import Mathlib.Algebra.Group.Nat.Defs
import Mathlib.Data.List.Induction
import RelyingParty.Proofs.Except
import RelyingParty.TenantId.Spelling

/-!
# Proofs/Identifier — what spells a tenant's identity

Thirty-two hexadecimal digits spell an identity, by themselves or with hyphens, and with hyphens
also in braces or after the mark of a resource name (`Spells`).  Each of these is read as the
identity that it spells, the canonical spelling among them (`spells_toString`), and nothing else is
read at all (`parse_eq_ok_iff`).
-/

namespace RelyingParty.TenantId

/-- **The digits of an identity**, in either case of letters. -/
def HasDigits (id : TenantId) (ds : List Char) : Prop :=
  ∃ values : List Nat, values.length = 32 ∧ ds.map Text.hexValue = values.map some ∧
    Text.ofHexDigits values = id.bits.toNat

/-- **The spellings of an identity.** -/
inductive Spells (id : TenantId) : List Char → Prop
  | digits {ds : List Char} (h : id.HasDigits ds) : Spells id ds
  | hyphens {ds : List Char} (h : id.HasDigits ds) : Spells id (hyphenate ds)
  | braces {ds : List Char} (h : id.HasDigits ds) : Spells id ('{' :: (hyphenate ds ++ ['}']))
  | resource {mark ds : List Char} (hm : mark.map Char.toLower = resourceMark)
      (h : id.HasDigits ds) : Spells id (mark ++ hyphenate ds)

/-! ## Digits -/

/-- A digit is no character that is none. -/
theorem ne_of_hexValue {c d : Char} {n : Nat} (hc : Text.hexValue c = some n)
    (hd : Text.hexValue d = none) : c ≠ d := by
  rintro rfl
  simp [hc] at hd

/-- Digits are ASCII, so what is to be known of them can be checked. -/
theorem of_hexValue {P : Char → Prop} {c : Char} {n : Nat} (hc : Text.hexValue c = some n)
    (h : ∀ m < 128, (Text.hexValue (Char.ofNat m)).isSome → P (Char.ofNat m)) : P c := by
  have small : c.toNat < 128 := by
    refine Nat.lt_of_not_le fun large => ?_
    have above {d : Char} (hd : d.toNat < 128) : ¬c ≤ d := by
      rw [Char.le_def, UInt32.le_iff_toNat_le]
      exact Nat.not_le_of_lt (Nat.lt_of_lt_of_le hd large)
    rw [Text.hexValue, if_neg fun h => above (by decide) h.2, if_neg fun h => above (by decide) h.2,
      if_neg fun h => above (by decide) h.2] at hc
    contradiction
  have checked := h c.toNat small
  rw [Char.ofNat_toNat, hc] at checked
  exact checked rfl

/-- No digit begins the mark of a resource name. -/
theorem toLower_ne_of_hexValue {c : Char} {n : Nat} (hc : Text.hexValue c = some n) :
    c.toLower ≠ 'u' := of_hexValue (P := fun c => c.toLower ≠ 'u') hc (by decide)

variable {id : TenantId} {ds : List Char}

theorem HasDigits.length_eq (h : id.HasDigits ds) : ds.length = 32 := by
  obtain ⟨values, length, all, -⟩ := h
  simpa [length] using congrArg List.length all

theorem HasDigits.isHex (h : id.HasDigits ds) {c : Char} (hc : c ∈ ds) :
    ∃ n, Text.hexValue c = some n := by
  obtain ⟨values, -, all, -⟩ := h
  have mem := List.mem_map_of_mem (f := Text.hexValue) hc
  rw [all] at mem
  obtain ⟨n, -, hn⟩ := List.mem_map.mp mem
  exact ⟨n, hn.symm⟩

theorem HasDigits.ofHex? (h : id.HasDigits ds) : ofHex? ds = some id.bits.toNat := by
  obtain ⟨values, -, all, spelled⟩ := h
  rw [TenantId.ofHex?, mapM_eq_some_iff.mpr all, Option.map_some, spelled]

/-- The digits of the canonical spelling. -/
theorem hasDigits_digits (id : TenantId) : id.HasDigits id.digits := by
  refine ⟨_, Text.length_hexDigits 32 id.bits.toNat, ?_, ?_⟩
  · rw [digits, List.map_map]
    exact List.map_congr_left fun d hd => Text.hexValue_hexLower d (Text.lt_of_mem_hexDigits hd)
  · rw [Text.ofHexDigits_hexDigits]
    exact Nat.mod_eq_of_lt id.bits.isLt

/-! ## Hyphens -/

theorem length_hyphenate (h : ds.length = 32) : (hyphenate ds).length = 36 := by
  simp [hyphenate, h]

/-- The groups that are hyphenated make up the digits. -/
theorem append_groups (ds : List Char) :
    ds.take 8 ++ ((ds.drop 8).take 4 ++ ((ds.drop 12).take 4 ++ ((ds.drop 16).take 4 ++
      ds.drop 20))) = ds := by
  have join (n m : Nat) : (ds.drop n).take m ++ ds.drop (n + m) = ds.drop n := by
    rw [← List.drop_drop, List.take_append_drop]
  rw [join 16 4, join 12 4, join 8 4, List.take_append_drop]

/-- Hyphens are all that is put between the digits. -/
theorem filter_hyphenate (h : ∀ c ∈ ds, c ≠ '-') : (hyphenate ds).filter (· ≠ '-') = ds := by
  have keep {cs : List Char} (sub : ∀ c ∈ cs, c ∈ ds) : cs.filter (· ≠ '-') = cs :=
    List.filter_eq_self.mpr fun c hc => by simpa using h c (sub c hc)
  have group (n m : Nat) : ((ds.drop n).take m).filter (· ≠ '-') = (ds.drop n).take m :=
    keep fun c hc => List.mem_of_mem_drop (List.mem_of_mem_take hc)
  have hyphen (cs : List Char) : ('-' :: cs).filter (· ≠ '-') = cs.filter (· ≠ '-') := rfl
  rw [hyphenate]
  simp only [List.filter_append, hyphen, group, List.append_assoc]
  rw [keep fun _ => List.mem_of_mem_take, keep fun _ => List.mem_of_mem_drop, append_groups]

/-- The hyphens can be taken out again. -/
theorem unhyphenate?_hyphenate (h : ∀ c ∈ ds, c ≠ '-') : unhyphenate? (hyphenate ds) = some ds := by
  rw [unhyphenate?, filter_hyphenate h]
  exact if_pos rfl

/-- A text in hyphens begins with its first digit. -/
theorem HasDigits.hyphenate_eq_cons (h : id.HasDigits ds) :
    ∃ c n rest, Text.hexValue c = some n ∧ hyphenate ds = c :: rest := by
  cases ds with
  | nil => exact absurd h.length_eq (by simp)
  | cons c ds =>
    obtain ⟨n, hn⟩ := h.isHex List.mem_cons_self
    exact ⟨c, n, _, hn, rfl⟩

theorem HasDigits.ne_hyphen (h : id.HasDigits ds) : ∀ c ∈ ds, c ≠ '-' := fun _ hc => by
  obtain ⟨n, hn⟩ := h.isHex hc
  exact ne_of_hexValue hn rfl

theorem HasDigits.unhyphenate? (h : id.HasDigits ds) : unhyphenate? (hyphenate ds) = some ds :=
  unhyphenate?_hyphenate h.ne_hyphen

/-! ## Spellings -/

/-- **Every spelling is taken down to its digits.** -/
theorem Spells.spelledDigits? {cs : List Char} (h : id.Spells cs) :
    ∃ ds, id.HasDigits ds ∧ spelledDigits? cs = some ds := by
  cases h with
  | digits h => exact ⟨cs, h, if_pos h.length_eq⟩
  | @hyphens ds h =>
    -- the first digit is neither a brace nor the beginning of the mark
    refine ⟨ds, h, ?_⟩
    obtain ⟨c, n, rest, hn, front⟩ := h.hyphenate_eq_cons
    have noBrace : unbrace? (hyphenate ds) = none := by
      rw [front, unbrace?]
      exact fun _ eq => ne_of_hexValue hn rfl (List.cons.inj eq).1
    have noMark : unmark? (hyphenate ds) = none := by
      rw [front, unmark?, if_neg]
      exact fun eq => toLower_ne_of_hexValue hn (List.cons.inj eq).1
    rw [TenantId.spelledDigits?, if_neg (by rw [length_hyphenate h.length_eq]; decide), noBrace,
      noMark]
    exact h.unhyphenate?
  | @braces ds h =>
    refine ⟨ds, h, ?_⟩
    have inner : unbrace? ('{' :: (hyphenate ds ++ ['}'])) = some (hyphenate ds) := by
      simp [unbrace?]
    rw [TenantId.spelledDigits?, if_neg (by simp [length_hyphenate h.length_eq]), inner]
    exact h.unhyphenate?
  | @resource mark ds hm h =>
    refine ⟨ds, h, ?_⟩
    have length : mark.length = resourceMark.length := by
      rw [← hm, List.length_map]
    have noBrace : unbrace? (mark ++ hyphenate ds) = none := by
      cases mark with
      | nil => contradiction
      | cons c mark =>
        rw [List.cons_append, unbrace?]
        rintro _ eq
        obtain rfl := (List.cons.inj eq).1
        exact absurd (List.cons.inj hm).1 (by decide)
    have inner : unmark? (mark ++ hyphenate ds) = some (hyphenate ds) := by
      rw [unmark?, ← length, List.take_left, if_pos hm, List.drop_left]
    rw [TenantId.spelledDigits?, if_neg, noBrace, inner]
    · exact h.unhyphenate?
    · rw [List.length_append, length, length_hyphenate h.length_eq]
      decide

/-- **What spells an identity is read as that identity.** -/
theorem Spells.parse {text : String} (h : id.Spells text.toList) : parse text = .ok id := by
  obtain ⟨ds, hds, spelled⟩ := h.spelledDigits?
  have found : parse? text = some id := by
    simp [parse?, spelled, hds.length_eq, hds.ofHex?]
  rw [TenantId.parse, found]

theorem spells_toString (id : TenantId) : id.Spells id.toString.toList := by
  rw [toString, String.toList_ofList]
  exact .hyphens id.hasDigits_digits

/-! ## Nothing else spells an identity -/

/-- The digits of a number of fixed width. -/
theorem ofHexDigits_lt {values : List Nat} (h : ∀ d ∈ values, d < 16) :
    Text.ofHexDigits values < 16 ^ values.length := by
  induction values using List.reverseRecOn with
  | nil => exact Nat.one_pos
  | append_singleton values d ih =>
    have front := ih fun d' hd' => h d' (List.mem_append_left _ hd')
    have last := h d (List.mem_append_right _ List.mem_cons_self)
    rw [Text.ofHexDigits_append, List.length_append, List.length_singleton, Nat.pow_succ]
    omega

/-- A digit is worth less than sixteen. -/
theorem hexValue_lt {c : Char} {n : Nat} (hc : Text.hexValue c = some n) : n < 16 := by
  have all := of_hexValue (P := fun c => (Text.hexValue c).all (· < 16)) hc (by decide)
  simpa [hc] using all

/-- **Thirty-two digits spell an identity**: their number fits its bits. -/
theorem hasDigits_of_ofHex? {n : Nat} (length : ds.length = 32) (h : ofHex? ds = some n) :
    HasDigits ⟨BitVec.ofNat 128 n⟩ ds := by
  obtain ⟨values, read, rfl⟩ := Option.map_eq_some_iff.mp h
  have all := mapM_eq_some_iff.mp read
  have length' : values.length = 32 := by
    rw [← length, ← List.length_map some, ← all, List.length_map]
  refine ⟨values, length', all, ?_⟩
  have small : Text.ofHexDigits values < 2 ^ 128 := by
    have bound : Text.ofHexDigits values < 16 ^ values.length := ofHexDigits_lt fun d hd => by
      have mem := List.mem_map_of_mem (f := some) hd
      rw [← all] at mem
      obtain ⟨c, -, hc⟩ := List.mem_map.mp mem
      exact hexValue_lt hc
    rwa [length'] at bound
  rw [BitVec.toNat_ofNat, Nat.mod_eq_of_lt small]

theorem eq_of_unhyphenate? {cs : List Char} (h : unhyphenate? cs = some ds) :
    cs = hyphenate ds := by
  obtain ⟨same, bare⟩ := Option.ite_none_right_eq_some.mp h
  exact Option.some.inj bare ▸ same

theorem eq_of_unbrace? {cs inner : List Char} (h : unbrace? cs = some inner) :
    cs = '{' :: (inner ++ ['}']) := by
  unfold unbrace? at h
  split at h
  · next cs =>
    obtain ⟨closed, inside⟩ := Option.ite_none_right_eq_some.mp h
    rw [← Option.some.inj inside, List.dropLast_append_getLast? _ closed]
  · contradiction

theorem exists_mark_of_unmark? {cs inner : List Char} (h : unmark? cs = some inner) :
    ∃ mark, mark.map Char.toLower = resourceMark ∧ cs = mark ++ inner := by
  obtain ⟨marked, after⟩ := Option.ite_none_right_eq_some.mp h
  obtain rfl := Option.some.inj after
  exact ⟨_, marked, (List.take_append_drop _ cs).symm⟩

/-- **What is taken down to the digits of an identity spells it.** -/
theorem spells_of_spelledDigits? {cs : List Char} (h : spelledDigits? cs = some ds)
    (digits : id.HasDigits ds) : id.Spells cs := by
  unfold spelledDigits? at h
  split at h
  · obtain rfl := Option.some.inj h
    exact .digits digits
  · have inner := eq_of_unhyphenate? h
    cases braced : unbrace? cs with
    | some part =>
      rw [braced] at inner
      obtain rfl : part = hyphenate ds := inner
      exact eq_of_unbrace? braced ▸ .braces digits
    | none =>
      cases marked : unmark? cs with
      | some part =>
        rw [braced, marked] at inner
        obtain rfl : part = hyphenate ds := inner
        obtain ⟨mark, hm, rfl⟩ := exists_mark_of_unmark? marked
        exact .resource hm digits
      | none =>
        rw [braced, marked] at inner
        obtain rfl : cs = hyphenate ds := inner
        exact .hyphens digits

/-- **A text is read as an identity just if it spells it.** -/
theorem parse_eq_ok_iff {text : String} : parse text = .ok id ↔ id.Spells text.toList := by
  refine ⟨fun h => ?_, Spells.parse⟩
  have found : parse? text = some id := by
    unfold parse at h
    split at h
    · next found => rw [found, Except.ok.inj h]
    · contradiction
  obtain ⟨ds, spelled, found⟩ := Option.bind_eq_some_iff.mp found
  obtain ⟨length, found⟩ := Option.ite_none_right_eq_some.mp found
  obtain ⟨n, number, same⟩ := Option.bind_eq_some_iff.mp found
  obtain rfl := Option.some.inj same
  exact spells_of_spelledDigits? spelled (hasDigits_of_ofHex? length number)

end RelyingParty.TenantId

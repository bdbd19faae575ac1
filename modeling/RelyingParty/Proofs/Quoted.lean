import RelyingParty.Text.Quoted

/-!
# Proofs/Quoted — a text is read off from between its quotes

The shown forms of two characters are the same or part before either of them ends
(`ShowsAs.append_inj`), so `quoted` loses nothing of a text.
-/

namespace RelyingParty.Text

/-! ## Digits -/

theorem digitChar_inj : ∀ m < 16, ∀ n < 16, Nat.digitChar m = Nat.digitChar n → m = n := by
  decide

theorem digitChar_ne_brace : ∀ n < 16, Nat.digitChar n ≠ '}' := by
  decide

theorem brace_notMem_toDigits (n : Nat) : '}' ∉ Nat.toDigits 16 n := by
  induction n using Nat.strongRecOn with
  | ind n ih =>
    rw [Nat.toDigits_eq_if (by decide)]
    split
    · next h =>
      rw [List.mem_singleton]
      exact (digitChar_ne_brace n h).symm
    · next h =>
      rw [List.mem_append, List.mem_singleton, not_or]
      exact ⟨ih (n / 16) (by omega), (digitChar_ne_brace _ (by omega)).symm⟩

/-- **Different numbers have different digits.** -/
theorem toDigits_inj {m n : Nat} (h : Nat.toDigits 16 m = Nat.toDigits 16 n) : m = n := by
  induction m using Nat.strongRecOn generalizing n with
  | ind m ih =>
    have ne_nil (k : Nat) : Nat.toDigits 16 k ≠ [] := Nat.toDigits_ne_nil
    rw [Nat.toDigits_eq_if (by decide), Nat.toDigits_eq_if (n := n) (by decide)] at h
    split at h <;> split at h
    · next hm hn => exact digitChar_inj m hm n hn (List.singleton_inj.1 h)
    · exact absurd (List.append_eq_singleton_iff.1 h.symm) (by simp [ne_nil])
    · exact absurd (List.append_eq_singleton_iff.1 h) (by simp [ne_nil])
    · next hm hn =>
      obtain ⟨high, low⟩ := List.append_inj' h rfl
      have quotient := ih (m / 16) (by omega) high
      have remainder := digitChar_inj _ (by omega) _ (by omega) (List.singleton_inj.1 low)
      omega

/-- The first brace ends the digits. -/
theorem takeWhile_toDigits (n : Nat) (s : List Char) :
    (Nat.toDigits 16 n ++ '}' :: s).takeWhile (· ≠ '}') = Nat.toDigits 16 n := by
  have digits : ∀ c ∈ Nat.toDigits 16 n, decide (c ≠ '}') = true := by
    intro c hc
    have ne : c ≠ '}' := fun h => brace_notMem_toDigits n (h ▸ hc)
    exact decide_eq_true ne
  rw [List.takeWhile_append_of_pos digits]
  simp

theorem toDigits_append_inj {m n : Nat} {s t : List Char}
    (h : Nat.toDigits 16 m ++ '}' :: s = Nat.toDigits 16 n ++ '}' :: t) : m = n ∧ s = t := by
  have taken := congrArg (List.takeWhile fun c => decide (c ≠ '}')) h
  rw [takeWhile_toDigits, takeWhile_toDigits] at taken
  rw [taken] at h
  exact ⟨toDigits_inj taken, (List.cons.inj (List.append_cancel_left h)).2⟩

/-! ## Characters -/

/-- The characters that show as an escape of one letter, with their letters. -/
def letters : List (Char × Char) :=
  [('"', '"'), ('\\', '\\'), ('\n', 'n'), ('\r', 'r'), ('\t', 't'), ('\x00', '0')]

/-- **The three ways in which a character shows.** -/
inductive ShowsAs (c : Char) : List Char → Prop
  | letter (l : Char) : (c, l) ∈ letters → ShowsAs c ['\\', l]
  | plain : c ≠ '\\' → ShowsAs c [c]
  | code : ShowsAs c ('\\' :: 'u' :: '{' :: (Nat.toDigits 16 c.toNat ++ ['}']))

theorem showsAs_showChar (c : Char) : ShowsAs c (showChar c) := by
  unfold showChar
  split
  · exact .letter _ (by decide)
  · exact .letter _ (by decide)
  · exact .letter _ (by decide)
  · exact .letter _ (by decide)
  · exact .letter _ (by decide)
  · exact .letter _ (by decide)
  · next ne_backslash _ _ _ _ =>
    split
    · exact .plain (by assumption)
    · exact .code

theorem letters_inj : ∀ p ∈ letters, ∀ q ∈ letters, p.2 = q.2 → p.1 = q.1 := by
  decide

theorem u_notMem_letters : ∀ p ∈ letters, p.2 ≠ 'u' := by
  decide

/-- **No shown form is the beginning of another.** -/
theorem ShowsAs.append_inj {c d : Char} {x y s t : List Char} (hx : ShowsAs c x)
    (hy : ShowsAs d y) (h : x ++ s = y ++ t) : c = d ∧ s = t := by
  cases hx with
  | letter l hl =>
    cases hy with
    | letter m hm =>
      obtain ⟨-, same, rest⟩ : True ∧ l = m ∧ s = t := by simpa using h
      exact ⟨letters_inj _ hl _ hm same, rest⟩
    | plain ne => exact absurd (List.cons.inj h).1.symm ne
    | code => exact absurd (List.cons.inj (List.cons.inj h).2).1 (u_notMem_letters _ hl)
  | plain ne =>
    cases hy with
    | letter m hm => exact absurd (List.cons.inj h).1 ne
    | plain ne' => exact List.cons.inj h
    | code => exact absurd (List.cons.inj h).1 ne
  | code =>
    cases hy with
    | letter m hm => exact absurd (List.cons.inj (List.cons.inj h).2).1.symm (u_notMem_letters _ hm)
    | plain ne => exact absurd (List.cons.inj h).1.symm ne
    | code =>
      have digits : Nat.toDigits 16 c.toNat ++ '}' :: s = Nat.toDigits 16 d.toNat ++ '}' :: t := by
        simpa using h
      obtain ⟨same, rest⟩ := toDigits_append_inj digits
      exact ⟨Char.toNat_inj.1 same, rest⟩

/-! ## Texts -/

theorem showChar_ne_nil (c : Char) : showChar c ≠ [] := by
  intro h
  have shown := h ▸ showsAs_showChar c
  cases shown

theorem flatMap_showChar_inj {cs ds : List Char}
    (h : cs.flatMap showChar = ds.flatMap showChar) : cs = ds := by
  induction cs generalizing ds with
  | nil =>
    cases ds with
    | nil => rfl
    | cons d ds => simp [showChar_ne_nil] at h
  | cons c cs ih =>
    cases ds with
    | nil => simp [showChar_ne_nil] at h
    | cons d ds =>
      rw [List.flatMap_cons, List.flatMap_cons] at h
      obtain ⟨rfl, rest⟩ := (showsAs_showChar c).append_inj (showsAs_showChar d) h
      rw [ih rest]

/-- **Different texts show differently.** -/
theorem quoted_inj {s t : String} (h : quoted s = quoted t) : s = t := by
  have chars := (List.cons.inj (String.ofList_inj.1 h)).2
  exact String.toList_inj.1 (flatMap_showChar_inj (List.append_cancel_right chars))

end RelyingParty.Text

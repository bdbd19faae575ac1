import RelyingParty.Proofs.Json.Following

/-!
# Proofs/Json/Members — an object as the list of its members

A record is read by the names that it knows: in which order its members stand, and which others
stand among them, is lost.  `Reader.members` loses neither.  So it tells what a text that is written
as an object is to anyone who takes it apart (`writeObject_isObject`), since a text has one meaning,
however many documents could be meant by it.
-/

namespace RelyingParty.Json

/-! ## Reading all members -/

namespace Reader

/-- The members of an object up to its closing bracket, at most `bound - 1` of them. -/
def membersWithin (item : Reader α) :
    (bound : Nat) → (first : Bool) → List Char → Except Fault (List (String × α) × List Char)
  | 0, _, _ => .error .objectUnfinished
  | bound + 1, first, s => do
    match ← turn .object first s with
    | .closed s => .ok ([], s)
    | .another s =>
      let (name, s) ← RecordForm.memberName s
      let (a, s) ← item (← colon s)
      let (members, s) ← membersWithin item bound false s
      .ok ((String.ofList name, a) :: members, s)

/-- **An object as the list of its members**, whatever their names are. -/
def members (item : Reader α) : Reader (List (String × α)) := fun s =>
  match skipSpace s with
  | '{' :: s => membersWithin item (s.length + 1) true s
  | s => .error (mismatch (.record "object") s)

/-- The name and the value of a member. -/
def memberOf (item : Reader α) (member : Slot Spelling × Slot Document) :
    Except Fault (String × α) := do
  let name ← member.1.value.content
  let a ← item.decode member.2.value
  .ok (String.ofList name, a)

theorem membersWithin_write {item : Reader α} (h : item.IsLocal) (members : Members)
    (first : Bool) (g : Gap) (rest : List Char) {bound : Nat} (enough : members.length < bound) :
    membersWithin item bound first (g.chars ++ (writeMembers first members ++ rest))
      = (members.mapM (memberOf item)).map fun as => (as, rest) := by
  obtain ⟨bound, rfl⟩ : ∃ b, bound = b + 1 := ⟨bound - 1, by omega⟩
  induction members generalizing first g bound with
  | nil =>
    have closed : turn .object first (g.chars ++ '}' :: rest) = .ok (.closed rest) :=
      turn_close .object first g rest
    change membersWithin item (bound + 1) first (g.chars ++ '}' :: rest) = .ok ([], rest)
    rw [membersWithin, closed]
    rfl
  | cons member members ih =>
    obtain ⟨name, slot⟩ := member
    obtain ⟨bound, rfl⟩ : ∃ b, bound = b + 1 := ⟨bound - 1, by simp at enough; omega⟩
    have one := h slot.before slot.value
      (Ends.gap (Ends.writeMembers_false members rest) slot.after)
    have behind := ih false slot.after bound (Nat.lt_of_succ_lt_succ enough)
    rw [writeMembers_cons, membersWithin, turn_another .object first g name.before Begins.quote,
      List.mapM_cons, memberOf]
    simp only [bind, Except.bind, RecordForm.memberName, textContent_write]
    cases name.value.content with
    | error e => rfl
    | ok content =>
      simp only [Except.map, colon_gap, one]
      cases item.decode slot.value with
      | error e => rfl
      | ok a =>
        simp only [Except.map, behind]
        cases members.mapM (memberOf item) <;> rfl

/-- The members of a document that is an object. -/
def membersOf (item : Reader α) : Document → Except Fault (List (String × α))
  | .object _ members => members.mapM (memberOf item)
  | d => .error (d.mismatch (.record "object"))

/-- **Reading an object reads its members in order.** -/
theorem members_reads {item : Reader α} (h : item.IsLocal) :
    (members item).Reads (membersOf item) := by
  intro g d rest ends
  rw [members, skipSpace_gap_write]
  split
  · next front =>
    obtain ⟨gap, members, rfl, rfl⟩ := Document.of_brace front
    refine membersWithin_write h members true gap rest ?_
    have enough := length_le_writeMembers true members
    simp only [List.length_append]
    omega
  · next other =>
    rw [mismatch_write _ d ends]
    cases d with
    | object gap members => exact absurd rfl (other _)
    | _ => rfl

/-! ## Objects whose members are texts -/

/-- The text of a document is what the document says as a text. -/
theorem text_decode_iff {d : Document} {x : String} :
    text.decode d = .ok x ↔ Format.text.Stands d x := by
  refine ⟨fun h => ?_, text_follows.decode_of_stands⟩
  rw [text_reads.decode_eq] at h
  cases d with
  | text s =>
    obtain ⟨content, said, rfl⟩ := map_eq_ok_iff.mp h
    exact ⟨s, rfl, by rw [said, String.toList_ofList]⟩
  | _ => contradiction

theorem memberOf_text_eq_ok_iff {entry : Slot Spelling × Slot Document}
    {member : String × String} :
    memberOf text entry = .ok member ↔
      entry.1.value.content = .ok member.1.toList ∧ Format.text.Stands entry.2.value member.2 := by
  rw [memberOf, bind_eq_ok_iff]
  constructor
  · rintro ⟨content, said, h⟩
    obtain ⟨x, value, h⟩ := bind_eq_ok_iff.mp h
    obtain rfl := Except.ok.inj h
    exact ⟨by rw [said, String.toList_ofList], text_decode_iff.mp value⟩
  · rintro ⟨said, value⟩
    refine ⟨_, said, bind_eq_ok_iff.mpr ⟨_, text_decode_iff.mpr value, ?_⟩⟩
    rw [String.ofList_toList]

end Reader

/-- **The document is an object with the given members**, each of them a text, in the given order
and with no other among them. -/
def Document.IsObject (d : Document) (members : List (String × String)) : Prop :=
  ∃ gap entries, d = .object gap entries ∧
    List.Forall₂ (fun entry member => entry.1.value.content = .ok member.1.toList ∧
      Format.text.Stands entry.2.value member.2) entries members

/-- **What all members are read as settles what the object is.** -/
theorem Reader.members_decode_iff {d : Document} {members : List (String × String)} :
    (Reader.members .text).decode d = .ok members ↔ d.IsObject members := by
  rw [(members_reads text_reads.isLocal).decode_eq]
  constructor
  · intro h
    cases d with
    | object gap entries =>
      exact ⟨gap, entries, rfl, (mapM_eq_ok_iff.mp h).imp fun _ _ => memberOf_text_eq_ok_iff.mp⟩
    | _ => contradiction
  · rintro ⟨gap, entries, rfl, h⟩
    exact mapM_eq_ok_iff.mpr (h.imp fun _ _ => memberOf_text_eq_ok_iff.mpr)

/-- **The text is an object with the given members** to everyone who takes it apart: there is a
document of which it is the text, each such document is that object, and the members are read. -/
structure IsObject (text : String) (members : List (String × String)) : Prop where
  exists_slot : ∃ slot : Slot Document, slot.text = text
  forall_slot : ∀ slot : Slot Document, slot.text = text → slot.value.IsObject members
  read_members : read (.members .text) text = .ok members

/-- **A text has one meaning**: if one of its documents is the object, each one is. -/
theorem IsObject.of_slot {slot : Slot Document} {members : List (String × String)}
    (h : slot.value.IsObject members) : IsObject slot.text members := by
  have whole (slot : Slot Document) :
      read (.members .text) slot.text = (Reader.members .text).decode slot.value :=
    read_text (Reader.members_reads Reader.text_reads.isLocal).isLocal slot
  have reads : read (.members .text) slot.text = .ok members :=
    (whole slot).trans (Reader.members_decode_iff.mpr h)
  refine ⟨⟨slot, rfl⟩, fun slot' same => ?_, reads⟩
  rw [← Reader.members_decode_iff, ← whole slot', same, reads]

/-! ## Writing objects -/

/-- The members as entries of an object, without white space. -/
def Members.ofTexts (members : List (String × String)) : Members :=
  members.map fun (name, value) => Members.entry name (.said value)

/-- The characters of a member. -/
def writeEntry (member : String × String) : List Char :=
  (writeText member.1).toList ++ ':' :: (writeText member.2).toList

theorem writeMembers_ofTexts_cons (first : Bool) (member : String × String)
    (members : List (String × String)) :
    writeMembers first (Members.ofTexts (member :: members))
      = comma first ++ (writeEntry member ++ writeMembers false (Members.ofTexts members)) := by
  simp [Members.ofTexts, Members.entry, writeMembers, writeEntry, Gap.none, ← Document.write_said,
    Document.said]

-- Commas are written in front of all entries but the first, and put between them on the other side;
-- so the cases look one entry ahead.
theorem writeMembers_ofTexts : ∀ members : List (String × String),
    writeMembers true (Members.ofTexts members)
      = [','].intercalate (members.map writeEntry) ++ ['}']
  | [] => rfl
  | [member] => by
    rw [writeMembers_ofTexts_cons]
    simp [Members.ofTexts, writeMembers]
  | member :: member' :: members => by
    have behind := writeMembers_ofTexts (member' :: members)
    rw [writeMembers_ofTexts_cons] at behind ⊢
    rw [writeMembers_ofTexts_cons, List.map_cons, List.map_cons, List.intercalate_cons_cons,
      ← List.map_cons, List.append_assoc, ← behind]
    simp [comma]

/-- **An object is what it is written as**: the members that were given, in their order, and none
besides. -/
theorem writeObject_isObject (members : List (String × String)) :
    IsObject (writeObject members) members := by
  have written : (⟨.none, .object .none (Members.ofTexts members), .none⟩ : Slot Document).text
      = writeObject members := by
    rw [Slot.text_alone, Document.write_object, writeMembers_ofTexts, ← String.toList_inj]
    simp [writeObject, Gap.none, Function.comp_def]
    rfl
  rw [← written]
  refine IsObject.of_slot ⟨_, _, rfl, ?_⟩
  rw [Members.ofTexts, List.forall₂_map_left_iff, List.forall₂_same]
  exact fun member _ => ⟨Spelling.content_ofText _, Format.text_stands_said _⟩

end RelyingParty.Json

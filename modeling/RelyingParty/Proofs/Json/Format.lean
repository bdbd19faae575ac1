import Mathlib.Data.List.Forall2
import RelyingParty.Proofs.Json.Escaping

/-!
# Proofs/Json/Format — which documents stand for a value

A *format* relates documents to values and knows nothing of readers.  It also says which documents
are *flawed*: something in them keeps them from standing for any value.  The format of a record
lists the members of its object; they come in any order, among others with unknown names, each at
most once, and a member with a default may be left out where the record has the default.
-/

namespace RelyingParty.Json

/-- **How values are written.** -/
structure Format (α : Type) where
  /-- The document stands for the value. -/
  Stands : Document → α → Prop
  /-- Something in the document keeps it from standing for any value. -/
  Flawed : Document → Prop

namespace Format

/-! ## Scalars, options and lists -/

/-- Texts are written as texts that say them. -/
def text : Format String where
  Stands d x := ∃ s, d = .text s ∧ s.content = .ok x.toList
  Flawed _ := False

/-- Values that are written as texts; `Reads` says which texts stand for a value. -/
def spelled (Reads : String → α → Prop) : Format α where
  Stands d a := ∃ x, text.Stands d x ∧ Reads x a
  Flawed _ := False

/-- Truth values are written as such. -/
def flag : Format Bool where
  Stands d b := d = .flag b
  Flawed _ := False

/-- A value that may be absent is written as null if it is. -/
def optional (F : Format α) : Format (Option α) where
  Stands
    | .null, o => o = none
    | d, o => ∃ a, o = some a ∧ F.Stands d a
  Flawed
    | .null => False
    | d => F.Flawed d

/-- Lists are written item by item. -/
def list (F : Format α) : Format (List α) where
  Stands d as := ∃ gap items, d = .list gap items ∧
    List.Forall₂ (fun slot a => F.Stands slot.value a) items as
  Flawed d := ∃ gap items, d = .list gap items ∧ ∃ slot ∈ items, F.Flawed slot.value

end Format

/-! ## Records -/

/-- **The members of an object.** -/
abbrev Members := List (Slot Spelling × Slot Document)

namespace Members

/-- The values of the members with the given name. -/
def named (name : String) (members : Members) : List Document :=
  members.filterMap fun (label, slot) =>
    if label.value.content.toOption = some name.toList then some slot.value else none

theorem named_cons {label : Slot Spelling} {x : List Char} (h : label.value.content = .ok x)
    (name : String) (slot : Slot Document) (members : Members) :
    named name ((label, slot) :: members)
      = if String.ofList x = name then slot.value :: named name members
        else named name members := by
  have same : some x = some name.toList ↔ String.ofList x = name := by
    rw [Option.some.injEq, ← String.toList_inj, String.toList_ofList]
  by_cases hx : String.ofList x = name
  · rw [if_pos hx]
    exact List.filterMap_cons_some (by simp only [h, Except.toOption, if_pos (same.mpr hx)])
  · rw [if_neg hx]
    exact List.filterMap_cons_none (by simp only [h, Except.toOption, if_neg (mt same.mp hx)])

/-- Every member has a name that says something; half of a surrogate pair does not. -/
def Legible (members : Members) : Prop :=
  ∀ member ∈ members, ∃ name, member.1.value.content = .ok name

end Members

/-- **A member of the objects that stand for records** of type `α`. -/
structure Member (α : Type) where
  name : String
  Value : Type
  /-- What the record has in this place. -/
  of : α → Value
  format : Format Value
  /-- What the record has there if the object has no such member. -/
  default : Option Value

namespace Member

/-- A member that must not be left out. -/
def required (name : String) (of : α → β) (format : Format β) : Member α :=
  ⟨name, β, of, format, none⟩

/-- A member that may be left out where the record has the default. -/
def omissible (name : String) (of : α → β) (format : Format β) (default : β) : Member α :=
  ⟨name, β, of, format, some default⟩

/-- The values under the member's name stand for what the record has. -/
inductive Given (m : Member α) (a : α) : List Document → Prop
  | omitted (h : m.default = some (m.of a)) : Given m a []
  | once {d : Document} (h : m.format.Stands d (m.of a)) : Given m a [d]

/-- **What is wrong with the values under a member's name.** -/
inductive Flawed (m : Member α) : List Document → Prop
  | missing (h : m.default = none) : Flawed m []
  | repeated (d d' : Document) (others : List Document) : Flawed m (d :: d' :: others)
  | inside {d : Document} {ds : List Document} (hd : d ∈ ds) (h : m.format.Flawed d) : Flawed m ds

end Member

/-- **Records are written as objects.** -/
def Format.record (spec : List (Member α)) : Format α where
  Stands d a := ∃ gap members, d = .object gap members ∧ Members.Legible members ∧
    ∀ m ∈ spec, m.Given a (Members.named m.name members)
  Flawed d := ∃ gap members, d = .object gap members ∧
    (¬Members.Legible members ∨ ∃ m ∈ spec, m.Flawed (Members.named m.name members))

/-! ## Every value can be written -/

/-- The text that says `x`. -/
def Document.said (x : String) : Document := .text (.ofText x.toList)

theorem Slot.text_alone (d : Document) :
    (⟨.none, d, .none⟩ : Slot Document).text = String.ofList d.write := by
  rw [Slot.text, Gap.none, List.nil_append, List.append_nil]

/-- A text is said as it is written. -/
theorem Document.write_said (x : String) : (said x).write = (writeText x).toList := by
  rw [said, write_text, Spelling.write_ofText, writeText, String.toList_ofList, List.cons_append]

theorem Format.text_stands_said (x : String) : text.Stands (.said x) x :=
  ⟨_, rfl, Spelling.content_ofText x.toList⟩

/-- The documents as a list without white space. -/
def Document.listed (ds : List Document) : Document :=
  .list .none (ds.map fun d => ⟨.none, d, .none⟩)

namespace Members

/-- A member with the given name and value, without white space. -/
def entry (name : String) (d : Document) : Slot Spelling × Slot Document :=
  (⟨.none, .ofText name.toList, .none⟩, ⟨.none, d, .none⟩)

theorem legible_nil : Legible [] := nofun

theorem legible_entry_cons (name : String) (d : Document) {members : Members}
    (h : members.Legible) : Legible (entry name d :: members) :=
  List.forall_mem_cons.mpr ⟨⟨_, Spelling.content_ofText name.toList⟩, h⟩

theorem named_entry_cons (name name' : String) (d : Document) (members : Members) :
    named name (entry name' d :: members)
      = if name' = name then d :: named name members else named name members := by
  rw [entry, named_cons (Spelling.content_ofText name'.toList), String.ofList_toList]

end Members

namespace Format

/-- **Every value is stood for** by some document. -/
def IsTotal (F : Format α) : Prop := ∀ a, ∃ d, F.Stands d a

/-- Null stands for no value. -/
def NotNull (F : Format α) : Prop := ∀ a, ¬F.Stands .null a

theorem text_isTotal : text.IsTotal := fun x => ⟨.said x, text_stands_said x⟩

theorem text_notNull : text.NotNull := by
  rintro x ⟨s, h, -⟩
  contradiction

theorem spelled_isTotal {Reads : String → α → Prop} (h : ∀ a, ∃ x, Reads x a) :
    (spelled Reads).IsTotal := by
  intro a
  obtain ⟨x, reads⟩ := h a
  obtain ⟨d, stands⟩ := text_isTotal x
  exact ⟨d, x, stands, reads⟩

theorem flag_isTotal : flag.IsTotal := fun b => ⟨.flag b, rfl⟩

theorem optional_isTotal {F : Format α} (h : F.IsTotal) (notNull : F.NotNull) :
    F.optional.IsTotal := by
  rintro (_ | a)
  · exact ⟨.null, rfl⟩
  · obtain ⟨d, stands⟩ := h a
    refine ⟨d, ?_⟩
    cases d with
    | null => exact absurd stands (notNull a)
    | _ => exact ⟨a, rfl, stands⟩

theorem list_isTotal {F : Format α} (h : F.IsTotal) : F.list.IsTotal := by
  intro as
  choose write stands using h
  refine ⟨.listed (as.map write), _, _, rfl, ?_⟩
  rw [List.forall₂_map_left_iff, List.forall₂_map_left_iff]
  exact List.forall₂_same.mpr fun a _ => stands a

theorem record_notNull (spec : List (Member α)) : (record spec).NotNull := by
  rintro a ⟨gap, members, h, -⟩
  contradiction

end Format

/-- **Every record can be written** if its members can, in their order and with none left out. -/
theorem Format.record_isTotal {spec : List (Member α)} (total : ∀ m ∈ spec, m.format.IsTotal)
    (distinct : (spec.map (·.name)).Nodup) : (record spec).IsTotal := by
  intro a
  -- that no other name occurs keeps the members that are added in front apart from the rest
  suffices written : ∃ members : Members, members.Legible ∧
      (∀ m ∈ spec, m.Given a (members.named m.name)) ∧
        ∀ name ∉ spec.map (·.name), members.named name = [] by
    obtain ⟨members, legible, given, -⟩ := written
    exact ⟨.object .none members, _, _, rfl, legible, given⟩
  induction spec with
  | nil => exact ⟨[], Members.legible_nil, by simp, fun _ _ => rfl⟩
  | cons m spec ih =>
    rw [List.map_cons, List.nodup_cons] at distinct
    obtain ⟨members, legible, given, others⟩ :=
      ih (fun m hm => total m (List.mem_cons_of_mem _ hm)) distinct.2
    obtain ⟨d, stands⟩ := total m List.mem_cons_self (m.of a)
    refine ⟨Members.entry m.name d :: members, Members.legible_entry_cons _ _ legible, ?_, ?_⟩
    · intro m' hm'
      rw [Members.named_entry_cons]
      rcases List.mem_cons.mp hm' with rfl | hm'
      · rw [if_pos rfl, others m'.name distinct.1]
        exact .once stands
      · have ne : m.name ≠ m'.name := fun h =>
          distinct.1 (h ▸ List.mem_map_of_mem hm')
        rw [if_neg ne]
        exact given m' hm'
    · intro name hname
      rw [List.map_cons, List.mem_cons, not_or] at hname
      rw [Members.named_entry_cons, if_neg (Ne.symm hname.1)]
      exact others name hname.2

end RelyingParty.Json

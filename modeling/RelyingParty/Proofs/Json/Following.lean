import Mathlib.Data.List.Nodup
import RelyingParty.Proofs.Except
import RelyingParty.Proofs.Json.Choosing
import RelyingParty.Proofs.Json.Format

/-!
# Proofs/Json/Following — readers that follow a format

A reader *follows* a format if it makes of every document the value that the document stands for,
and refuses every flawed one.  Readers of scalars do so at once, and options and lists as soon as
their parts do.  For a record it is enough that the places of its draft do not interfere and that
finishing a draft fills in the defaults (`Lawful`): then an object is read exactly if every member
is given once or has the default (`recordOf_object_iff`).
-/

namespace RelyingParty.Json

/-- **The reader follows the format.** -/
structure Reader.Follows (r : Reader α) (F : Format α) : Prop where
  isLocal : r.IsLocal
  decode_of_stands : ∀ {d a}, F.Stands d a → r.decode d = .ok a
  refuses_flawed : ∀ {d}, F.Flawed d → ∀ a, r.decode d ≠ .ok a

section

variable {r : Reader α} {F : Format α}

/-- **Reading a whole text** whose document stands for a value. -/
theorem Reader.Follows.read_of_stands (h : r.Follows F) {s : Slot Document} {a : α}
    (stands : F.Stands s.value a) : read r s.text = .ok a :=
  (read_text h.isLocal s).trans (h.decode_of_stands stands)

/-- **Reading a whole text** whose document is flawed. -/
theorem Reader.Follows.read_of_flawed (h : r.Follows F) {s : Slot Document}
    (flawed : F.Flawed s.value) : ∃ fault, read r s.text = .error fault := by
  rw [read_text h.isLocal s]
  rcases read : r.decode s.value with fault | a
  · exact ⟨fault, rfl⟩
  · exact absurd read (h.refuses_flawed flawed a)

end

/-! ## Scalars, options and lists -/

theorem exists_of_forall₂_of_mem {R : α → β → Prop} {xs : List α} {ys : List β}
    (h : List.Forall₂ R xs ys) {x : α} (hx : x ∈ xs) : ∃ y, R x y := by
  obtain ⟨i, hi, rfl⟩ := List.getElem_of_mem hx
  exact ⟨_, h.get hi (h.length_eq ▸ hi)⟩

namespace Reader

theorem text_follows : text.Follows .text where
  isLocal := text_reads.isLocal
  decode_of_stands := by
    rintro _ x ⟨s, rfl, h⟩
    rw [text_reads.decode_eq, wordsOf, h]
    exact congrArg Except.ok String.ofList_toList
  refuses_flawed := False.elim

theorem refined_follows (due : Due) {test : String → Except String α} {Reads : String → α → Prop}
    (h : ∀ {x a}, Reads x a → test x = .ok a) : (refined due test).Follows (.spelled Reads) where
  isLocal := (refined_reads due test).isLocal
  decode_of_stands := by
    rintro _ a ⟨x, ⟨s, rfl, said⟩, reads⟩
    rw [(refined_reads due test).decode_eq, textOf, said]
    simp only [bind, Except.bind, String.ofList_toList, h reads]
  refuses_flawed := False.elim

theorem choice_follows {choices : List (String × α)} {Reads : String → α → Prop}
    (h : ∀ {x a}, Reads x a → choices.lookup x = some a) :
    (choice choices).Follows (.spelled Reads) where
  isLocal := (choice_reads choices).isLocal
  decode_of_stands := by
    rintro _ a ⟨x, ⟨s, rfl, said⟩, reads⟩
    rw [(choice_reads choices).decode_eq, choiceOf, said]
    simp only [bind, Except.bind, String.ofList_toList, choose, h reads]
  refuses_flawed := False.elim

theorem flag_follows : flag.Follows .flag where
  isLocal := flag_reads.isLocal
  decode_of_stands := by
    rintro _ b rfl
    exact flag_reads.decode_eq _
  refuses_flawed := False.elim

theorem optional_follows {item : Reader α} {F : Format α} (h : item.Follows F) :
    (optional item).Follows F.optional where
  isLocal := (optional_reads h.isLocal).isLocal
  decode_of_stands {d o} stands := by
    rw [(optional_reads h.isLocal).decode_eq]
    cases d with
    | null => exact congrArg Except.ok (Eq.symm stands)
    | _ =>
      obtain ⟨a, rfl, stands⟩ := stands
      exact congrArg (Except.map some) (h.decode_of_stands stands)
  refuses_flawed {d} flawed o := by
    rw [(optional_reads h.isLocal).decode_eq]
    cases d with
    | null => exact flawed.elim
    | _ =>
      intro read
      obtain ⟨a, one, -⟩ := map_eq_ok_iff.mp read
      exact h.refuses_flawed flawed a one

theorem list_follows {item : Reader α} {F : Format α} (h : item.Follows F) :
    (list item).Follows F.list where
  isLocal := (list_reads h.isLocal).isLocal
  decode_of_stands := by
    rintro _ as ⟨gap, items, rfl, stand⟩
    rw [(list_reads h.isLocal).decode_eq, itemsOf, mapM_eq_ok_iff]
    exact stand.imp fun _ _ => h.decode_of_stands
  refuses_flawed := by
    rintro _ ⟨gap, items, rfl, slot, mem, flawed⟩ as
    rw [(list_reads h.isLocal).decode_eq, itemsOf, Ne, mapM_eq_ok_iff]
    intro read
    obtain ⟨a, one⟩ := exists_of_forall₂_of_mem read mem
    exact h.refuses_flawed flawed a one

end Reader

/-! ## Records -/

/-- **A member and its place in the drafts** of type `σ`. -/
structure Entry (σ α : Type) extends Member α where
  get : σ → Option Value
  put : Value → σ → σ
  reader : Reader Value

namespace Entry

/-- The field that reads the member into its place. -/
def field (e : Entry σ α) : Field σ := .of e.name e.get e.put e.reader

/-- What is in the entry's place of a draft, and the values that are still to be read there, make
up what the record has. -/
inductive Completes (e : Entry σ α) (a : α) : Option e.Value → List Document → Prop
  | settled {o : Option e.Value} (h : o.or e.default = some (e.of a)) : Completes e a o []
  | read {d : Document} (h : e.reader.decode d = .ok (e.of a)) : Completes e a none [d]

theorem completes_nil_iff {e : Entry σ α} {a : α} {o : Option e.Value} :
    e.Completes a o [] ↔ o.or e.default = some (e.of a) :=
  ⟨fun | .settled h => h, .settled⟩

theorem completes_cons_iff {e : Entry σ α} {a : α} {o : Option e.Value} {d : Document}
    {ds : List Document} :
    e.Completes a o (d :: ds) ↔ o = none ∧ e.reader.decode d = .ok (e.of a) ∧ ds = [] := by
  constructor
  · rintro (_ | h)
    exact ⟨rfl, h, rfl⟩
  · rintro ⟨rfl, h, rfl⟩
    exact .read h

/-- Reading the first value into an empty place. -/
theorem completes_put_iff {e : Entry σ α} {a : α} {d : Document} {v : e.Value}
    (h : e.reader.decode d = .ok v) (ds : List Document) :
    e.Completes a (some v) ds ↔ e.Completes a none (d :: ds) := by
  cases ds with
  | nil => simp [completes_nil_iff, completes_cons_iff, h]
  | cons d' ds => simp [completes_cons_iff]

theorem completes_of_given {e : Entry σ α} (h : e.reader.Follows e.format) {a : α}
    {ds : List Document} : e.Given a ds → e.Completes a none ds
  | .omitted default => .settled default
  | .once stands => .read (h.decode_of_stands stands)

theorem not_completes_of_flawed {e : Entry σ α} (h : e.reader.Follows e.format) {a : α}
    {ds : List Document} (flawed : e.Flawed ds) : ¬e.Completes a none ds := by
  rintro (default | read)
  · cases flawed with
    | missing none => simp [none] at default
    | inside hd _ => simp at hd
  · cases flawed with
    | inside hd flawed =>
      obtain rfl := List.mem_singleton.mp hd
      exact h.refuses_flawed flawed _ read

end Entry

namespace RecordForm

/-- **A form reads its entries**: each has a name and a place of its own, and a draft is finished by
filling in the defaults. -/
structure Lawful (form : RecordForm σ α) (entries : List (Entry σ α)) : Prop where
  fields_eq : form.fields = entries.map Entry.field
  names_nodup : (entries.map (·.name)).Nodup
  get_empty : ∀ e ∈ entries, e.get form.empty = none
  get_put_self : ∀ e ∈ entries, ∀ v draft, e.get (e.put v draft) = some v
  get_put_ne : ∀ e ∈ entries, ∀ e' ∈ entries, e.name ≠ e'.name →
    ∀ v draft, e.get (e'.put v draft) = e.get draft
  finish_iff : ∀ draft a, form.finish draft = .ok a ↔
    ∀ e ∈ entries, (e.get draft).or e.default = some (e.of a)

variable {form : RecordForm σ α} {entries : List (Entry σ α)}

/-- No field bears the name, or exactly one entry's does. -/
theorem Lawful.find?_field (lawful : form.Lawful entries) (name : String) :
    (form.fields.find? (·.name == name) = none ∧ ∀ e ∈ entries, e.name ≠ name) ∨
      ∃ e ∈ entries, form.fields.find? (·.name == name) = some e.field ∧ e.name = name ∧
        ∀ e' ∈ entries, e'.name = name → e' = e := by
  have found : form.fields.find? (·.name == name)
      = (entries.find? (·.name == name)).map Entry.field := by
    rw [lawful.fields_eq, List.find?_map]
    rfl
  rw [found]
  rcases here : entries.find? (·.name == name) with _ | e
  · refine .inl ⟨by rw [here]; rfl, fun e he => ?_⟩
    simpa using List.find?_eq_none.mp here e he
  · have mem := List.mem_of_find?_eq_some here
    have named : e.name = name := by simpa using List.find?_some here
    refine .inr ⟨e, mem, by rw [here]; rfl, named, fun e' mem' named' => ?_⟩
    exact List.inj_on_of_nodup_map lawful.names_nodup mem' mem (named'.trans named.symm)

theorem Lawful.isLocal (lawful : form.Lawful entries) (h : ∀ e ∈ entries, e.reader.IsLocal) :
    ∀ field ∈ form.fields, field.IsLocal := by
  rw [lawful.fields_eq]
  rintro _ mem draft
  obtain ⟨e, he, rfl⟩ := List.mem_map.mp mem
  exact (Field.of_reads (h e he) e.name e.get e.put draft).isLocal

/-- What an entry's field makes of a document. -/
theorem decode_field {e : Entry σ α} (h : e.reader.IsLocal) (draft : σ) (d : Document) :
    (e.field.read draft).decode d = (e.reader.decode d).map fun v => e.put v draft :=
  (Field.of_reads h e.name e.get e.put draft).decode_eq d

/-- **The draft and the members that are still to be read** make up the record, entry by entry. -/
def Completing (entries : List (Entry σ α)) (a : α) (draft : σ) (members : Members) : Prop :=
  ∀ e ∈ entries, e.Completes a (e.get draft) (members.named e.name)

section Completing

variable {a : α} {draft : σ} {label : Slot Spelling} {slot : Slot Document} {members : Members}
  {x : List Char}

theorem completing_nil_iff (lawful : form.Lawful entries) :
    Completing entries a draft [] ↔ form.finish draft = .ok a := by
  rw [lawful.finish_iff]
  exact forall₂_congr fun e _ => Entry.completes_nil_iff

/-- A member that no entry has the name of. -/
theorem completing_cons_other (hx : label.value.content = .ok x)
    (others : ∀ e ∈ entries, e.name ≠ String.ofList x) :
    Completing entries a draft ((label, slot) :: members) ↔ Completing entries a draft members := by
  refine forall₂_congr fun e he => ?_
  rw [Members.named_cons hx, if_neg (others e he).symm]

/-- A member of an entry whose place is still empty. -/
theorem Lawful.completing_cons_put (lawful : form.Lawful entries) (hx : label.value.content = .ok x)
    {e : Entry σ α} (he : e ∈ entries) (hname : e.name = String.ofList x)
    (only : ∀ e' ∈ entries, e'.name = String.ofList x → e' = e) (place : e.get draft = none)
    {v : e.Value} (one : e.reader.decode slot.value = .ok v) :
    Completing entries a draft ((label, slot) :: members)
      ↔ Completing entries a (e.put v draft) members := by
  refine forall₂_congr fun e' he' => ?_
  rw [Members.named_cons hx]
  by_cases same : e' = e
  · rw [same, if_pos hname.symm, lawful.get_put_self e he, place, Entry.completes_put_iff one]
  · have ne : e'.name ≠ e.name := fun h => same (only e' he' (h.trans hname))
    rw [lawful.get_put_ne e' he' e he ne, if_neg (hname ▸ ne.symm)]

/-- A member of an entry that cannot take it. -/
theorem not_completing_cons (hx : label.value.content = .ok x) {e : Entry σ α} (he : e ∈ entries)
    (hname : e.name = String.ofList x)
    (h : ¬(e.get draft = none ∧ e.reader.decode slot.value = .ok (e.of a))) :
    ¬Completing entries a draft ((label, slot) :: members) := by
  intro completing
  have completes := completing e he
  rw [Members.named_cons hx, if_pos hname.symm, Entry.completes_cons_iff] at completes
  exact h ⟨completes.1, completes.2.1⟩

end Completing

/-- **Filling a draft and finishing it** gives the record that draft and members make up. -/
theorem fill_finish_iff (lawful : form.Lawful entries) (h : ∀ e ∈ entries, e.reader.IsLocal)
    (a : α) (members : Members) (draft : σ) :
    (∃ filled, fillByName form.fields draft members = .ok filled ∧ form.finish filled = .ok a) ↔
      members.Legible ∧ Completing entries a draft members := by
  -- every member that is read leaves another draft, so the statement is about all drafts
  induction members generalizing draft with
  | nil => simp [fillByName, Members.Legible, completing_nil_iff lawful]
  | cons member members ih =>
    obtain ⟨label, slot⟩ := member
    rw [fillByName, Members.Legible, List.forall_mem_cons]
    rcases hx : label.value.content with fault | x
    · simp [bind, Except.bind]
    simp only [bind, Except.bind, Except.ok.injEq, exists_eq', true_and]
    rcases lawful.find?_field (String.ofList x) with ⟨none, others⟩ | ⟨e, he, here, hname, only⟩
    · -- the member is passed over
      simp only [none, ih, completing_cons_other hx others]
      rfl
    · -- the member belongs in the place of `e`, if that is empty and the value can be read
      have isGiven : e.field.isGiven draft = (e.get draft).isSome := rfl
      simp only [here, isGiven, decode_field (h e he)]
      rcases place : e.get draft with _ | w
      · rcases one : e.reader.decode slot.value with fault | v
        · exact iff_of_false (by simp [Except.map]) fun all =>
            not_completing_cons hx he hname (by simp [one]) all.2
        · rw [lawful.completing_cons_put hx he hname only place one]
          simp only [Option.isSome_none, Bool.false_eq_true, if_false, Except.map, ih]
          rfl
      · exact iff_of_false (by simp) fun all =>
          not_completing_cons hx he hname (by simp [place]) all.2

/-- **Reading an object** gives the record that its members make up. -/
theorem recordOf_object_iff (lawful : form.Lawful entries) (h : ∀ e ∈ entries, e.reader.IsLocal)
    (a : α) (gap : Gap) (members : Members) :
    form.recordOf (.object gap members) = .ok a ↔
      members.Legible ∧ ∀ e ∈ entries, e.Completes a none (members.named e.name) := by
  have empty : Completing entries a form.empty members
      ↔ ∀ e ∈ entries, e.Completes a none (members.named e.name) :=
    forall₂_congr fun e he => by rw [lawful.get_empty e he]
  rw [recordOf, concluded, bind_eq_ok_iff]
  simp only [mapError_eq_ok_iff]
  rw [fill_finish_iff lawful h, empty]

/-- **A lawful form follows the format of its entries**, if they follow theirs. -/
theorem Lawful.follows (lawful : form.Lawful entries)
    (h : ∀ e ∈ entries, e.reader.Follows e.format) :
    form.reader.Follows (.record (entries.map Entry.toMember)) := by
  have parts : ∀ e ∈ entries, e.reader.IsLocal := fun e he => (h e he).isLocal
  have reads := reader_reads (lawful.isLocal parts)
  refine ⟨reads.isLocal, ?_, ?_⟩
  · rintro _ a ⟨gap, members, rfl, legible, given⟩
    rw [reads.decode_eq, recordOf_object_iff lawful parts]
    refine ⟨legible, fun e he => ?_⟩
    exact Entry.completes_of_given (h e he) (given e.toMember (List.mem_map_of_mem he))
  · rintro _ ⟨gap, members, rfl, flawed⟩ a
    rw [reads.decode_eq, Ne, recordOf_object_iff lawful parts]
    rintro ⟨legible, completes⟩
    rcases flawed with illegible | ⟨_, mem, flawed⟩
    · exact illegible legible
    obtain ⟨e, he, rfl⟩ := List.mem_map.mp mem
    exact Entry.not_completes_of_flawed (h e he) flawed (completes e he)

end RecordForm

/-! ## Readers that follow nothing else -/

/-- **The reader reads the format and nothing else**: what stands for no value is refused. -/
def Reader.IsExact (r : Reader α) (F : Format α) : Prop :=
  ∀ {d a}, r.decode d = .ok a ↔ F.Stands d a

theorem Entry.completes_none_iff {e : Entry σ α} (exact : e.reader.IsExact e.format) {a : α}
    {ds : List Document} : e.Completes a none ds ↔ e.Given a ds := by
  constructor
  · rintro (default | read)
    · exact .omitted default
    · exact .once (exact.mp read)
  · rintro (default | stands)
    · exact .settled default
    · exact .read (exact.mpr stands)

/-- **Among objects a lawful form reads the format of its entries and nothing else**, if they do. -/
theorem RecordForm.Lawful.recordOf_object_iff_stands {form : RecordForm σ α}
    {entries : List (Entry σ α)} (lawful : form.Lawful entries)
    (isLocal : ∀ e ∈ entries, e.reader.IsLocal)
    (exact : ∀ e ∈ entries, e.reader.IsExact e.format) {a : α} {gap : Gap} {members : Members} :
    form.recordOf (.object gap members) = .ok a ↔
      (Format.record (entries.map Entry.toMember)).Stands (.object gap members) a := by
  rw [recordOf_object_iff lawful isLocal]
  constructor
  · rintro ⟨legible, completes⟩
    refine ⟨gap, members, rfl, legible, fun m hm => ?_⟩
    obtain ⟨e, he, rfl⟩ := List.mem_map.mp hm
    exact (Entry.completes_none_iff (exact e he)).mp (completes e he)
  · rintro ⟨_, _, same, legible, given⟩
    obtain ⟨-, rfl⟩ := Document.object.inj same
    refine ⟨legible, fun e he => ?_⟩
    exact (Entry.completes_none_iff (exact e he)).mpr (given e.toMember (List.mem_map_of_mem he))

end RelyingParty.Json

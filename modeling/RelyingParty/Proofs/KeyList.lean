import RelyingParty.Proofs.Forms
import RelyingParty.Proofs.Json.Members
import RelyingParty.Proofs.Json.Recognition
import RelyingParty.Proofs.Refusal

/-!
# Proofs/KeyList — which texts are lists of key pairs

A key pair has two written forms: an object with its members by their names, or a list of three
texts by their places.  `IsListText` says so without any reader, and the reader accepts these texts
and no others (`read_listReader_iff`).
-/

namespace RelyingParty

open Json (Slot Document Format Reader)

namespace KeyPair

/-- **The document denotes the key pair**: an object that stands for it, or the list of its key, its
passphrase and its certificate. -/
inductive Denotes (k : KeyPair) : Document → Prop
  | object {d : Document} (h : format.Stands d k) : Denotes k d
  | list {gap : Json.Gap} {key passphrase certificate : Slot Document}
      (key_stands : Format.text.Stands key.value k.key)
      (passphrase_stands : Format.text.Stands passphrase.value k.passphrase)
      (certificate_stands : Format.text.Stands certificate.value k.certificate) :
      Denotes k (.list gap [key, passphrase, certificate])

/-- **The text is a list of key pairs.** -/
def IsListText (text : String) (ks : List KeyPair) : Prop :=
  ∃ (s : Slot Document) (gap : Json.Gap) (items : List (Slot Document)),
    text = s.text ∧ s.value = .list gap items ∧
      List.Forall₂ (fun slot k => Denotes k slot.value) items ks

theorem finish_eq_ok_iff {draft : Draft} {k : KeyPair} :
    form.finish draft = .ok k ↔
      draft.key = some k.key ∧ draft.passphrase.getD "" = k.passphrase ∧
        draft.certificate = some k.certificate := by
  obtain ⟨key, passphrase, certificate⟩ := k
  simp [form, bind_eq_ok_iff, Json.RecordForm.required_eq_ok_iff, pure, Except.pure, and_comm]

/-- **A list is read as a key pair** if it has a text for each of the three fields.  With fewer the
certificate is missing, whatever they are. -/
theorem recordOf_list_iff {gap : Json.Gap} {items : List (Slot Document)} {k : KeyPair} :
    form.recordOf (.list gap items) = .ok k ↔ Denotes k (.list gap items) := by
  have decode (name : String) (get : Draft → Option String) (put : String → Draft → Draft)
      (draft : Draft) (d : Document) :=
    (Json.Field.of_reads Reader.text_reads.isLocal name get put draft).decode_eq d
  have fields : form.fields = [
      .of "key" (·.key) (fun v d => { d with key := some v }) .text,
      .of "passphrase" (·.passphrase) (fun v d => { d with passphrase := some v }) .text,
      .of "certificate" (·.certificate) (fun v d => { d with certificate := some v }) .text] := rfl
  have filled : form.recordOf (.list gap items) = .ok k ↔ ∃ draft,
      Json.RecordForm.fillByPlace form.fields {} items = .ok draft ∧ form.finish draft = .ok k := by
    rw [Json.RecordForm.recordOf, Json.RecordForm.concluded, bind_eq_ok_iff]
    simp only [mapError_eq_ok_iff]
    rfl
  rw [filled, fields]
  constructor
  · rcases items with _ | ⟨a, _ | ⟨b, _ | ⟨c, _ | ⟨d, items⟩⟩⟩⟩
    all_goals simp [Json.RecordForm.fillByPlace, bind_eq_ok_iff, map_eq_ok_iff, decode,
      Reader.text_decode_iff, finish_eq_ok_iff]
    exact .list
  · rintro (⟨_, _, same, -⟩ | ⟨key, passphrase, certificate⟩)
    · contradiction
    · simp [Json.RecordForm.fillByPlace, bind_eq_ok_iff, map_eq_ok_iff, decode,
        Reader.text_decode_iff, finish_eq_ok_iff, key, passphrase, certificate]

theorem reader_decode_iff {d : Document} {k : KeyPair} :
    reader.decode d = .ok k ↔ Denotes k d := by
  rw [reader, (Json.RecordForm.reader_reads fields_isLocal).decode_eq]
  cases d with
  | list gap items => exact recordOf_list_iff
  | object gap members =>
    have texts : ∀ e ∈ entries, e.reader.IsLocal ∧ e.reader.IsExact e.format := by
      intro e he
      fin_cases he <;> exact ⟨Reader.text_reads.isLocal, Reader.text_decode_iff⟩
    rw [form_lawful.recordOf_object_iff_stands (fun e he => (texts e he).1)
      fun e he => (texts e he).2]
    refine ⟨.object, fun h => ?_⟩
    cases h
    assumption
  | _ =>
    refine iff_of_false (fun read => ?_) ?_
    · contradiction
    · rintro (⟨_, _, same, -⟩ | _)
      contradiction

theorem listReader_isStrict : listReader.IsStrict := by
  refine Reader.list_isStrict (Json.RecordForm.reader_isStrict ?_)
  exact forall_fields fun name get put _ _ =>
    Json.Field.of_isStrict Reader.text_isStrict name get put

/-- **What is read as a list of key pairs is one**, and the other way round. -/
theorem read_listReader_iff {text : String} {ks : List KeyPair} :
    Json.read listReader text = .ok ks ↔ IsListText text ks := by
  rw [Json.read_eq_ok_iff listReader_isLocal listReader_isStrict]
  have items (d : Document) : listReader.decode d = .ok ks ↔ ∃ gap items, d = .list gap items ∧
      List.Forall₂ (fun slot k => Denotes k slot.value) items ks := by
    rw [listReader, (Reader.list_reads reader_isLocal).decode_eq]
    cases d with
    | list gap items =>
      rw [Reader.itemsOf, mapM_eq_ok_iff]
      simp only [reader_decode_iff]
      refine ⟨fun h => ⟨gap, items, rfl, h⟩, ?_⟩
      rintro ⟨_, _, same, h⟩
      rwa [(Document.list.inj same).2]
    | _ =>
      refine iff_of_false (fun read => ?_) ?_
      · contradiction
      · rintro ⟨_, _, same, -⟩
        contradiction
  simp only [items]
  constructor
  · rintro ⟨s, written, gap, items, h⟩
    exact ⟨s, gap, items, written, h⟩
  · rintro ⟨s, gap, items, written, h⟩
    exact ⟨s, written, gap, items, h⟩

end KeyPair

end RelyingParty

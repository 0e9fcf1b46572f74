import IndentLint.Proofs.Document.Merging
import IndentLint.Proofs.Except
import IndentLint.Settings.Validation

/-! Validated settings. Where the groups leave it to their settings what they consist of, every setting
has a value, and the value has been judged. -/
namespace IndentLint
open Document (Value Entries)

theorem recordGet {ε α : Type} {key : α → String} {of : α → Except ε Value} {xs : List α}
    {fields : List (String × Value)} (distinct : (xs.map key).Nodup)
    (written : List.Forall₂ (fun x field => field.1 = key x ∧ of x = .ok field.2) xs fields)
    {x : α} (member : x ∈ xs) :
    ∃ v, of x = .ok v ∧ Entries.get? (fields.map fun f => (.text f.1, f.2)) (.text (key x)) = some v := by
  induction written with
  | nil => contradiction
  | @cons first field rest fields here later ih =>
    obtain ⟨apart, distinct⟩ := List.nodup_cons.mp (List.map_cons ▸ distinct)
    rcases List.mem_cons.mp member with rfl | behind
    · exact ⟨field.2, here.2, by rw [List.map_cons, Entries.getCons, here.1, if_pos rfl]⟩
    · obtain ⟨v, held, found⟩ := ih distinct behind
      refine ⟨v, held, ?_⟩
      have other : key first ≠ key x := fun same => apart (same ▸ List.mem_map_of_mem behind)
      rwa [List.map_cons, Entries.getCons, here.1, if_neg fun same => other (by simpa [Document.keyText] using same)]

theorem validationOrderHolds (setting : Setting) : setting ∈ setting.group.validationOrder := by
  cases setting <;> decide

theorem groupHolds (setting : Setting) : setting ∈ setting.group.settings := by
  cases setting <;> decide

namespace Settings

theorem getSet (s : Settings) (setting other : Setting) (v : Value) :
    (s.set setting v).get other = if other = setting then .ok v else s.get other := by
  by_cases same : other = setting <;> simp [get, set, same]

variable {s : Settings}

theorem groupFieldsWritten {g : Group} {fields : List (String × Value)} (given : s.groupFields g = .ok fields) :
    List.Forall₂ (fun setting field => field.1 = setting.key ∧ s.get setting = .ok field.2)
      g.settings fields := by
  refine (mapMOk.mp given).imp fun setting field written => ?_
  obtain ⟨v, got, rest⟩ := bindOk.mp written
  split at rest
  · contradiction
  · cases rest
    exact ⟨rfl, got⟩

theorem documentWritten {doc : Value} (written : s.document = .ok doc) :
    ∃ groups, doc = .record groups ∧ List.Forall₂ (fun g field => field.1 = g.key ∧
      s.groupDocument g = .ok field.2) Group.all groups := by
  obtain ⟨groups, mapped, rest⟩ := bindOk.mp written
  refine ⟨groups, (Except.ok.inj rest).symm, (mapMOk.mp mapped).imp fun g field given => ?_⟩
  obtain ⟨v, got, rest⟩ := bindOk.mp given
  cases rest
  exact ⟨rfl, got⟩

theorem validatedEach {codecs : Codecs} (valid : s.validate codecs = .ok ())
    (plain : ∀ g, s.outline g = none) (setting : Setting) :
    ∃ v, s.get setting = .ok v ∧ setting.validate codecs v = .ok () := by
  obtain ⟨doc, documented, judged⟩ := bindOk.mp valid
  obtain ⟨groups, rfl, written⟩ := documentWritten (mapErrorOk.mp documented)
  obtain ⟨_, -, judged⟩ := bindOk.mp judged
  have listed : setting.group ∈ Group.all := by cases setting <;> decide
  have apart : (Group.all.map Group.key).Nodup := by decide
  obtain ⟨group, given, found⟩ := recordGet apart written listed
  rw [groupDocument, plain] at given
  obtain ⟨fields, gathered, rfl⟩ := mapOk.mp given
  obtain ⟨entries, taken, judged⟩ := bindOk.mp (forMOk judged listed)
  have same : entries = fields.map fun f => (.text f.1, f.2) := by
    rw [Group.entries, Value.record, Value.entries?, Option.getD_some, found] at taken
    exact (Except.ok.inj taken).symm
  have distinct : (setting.group.settings.map Setting.key).Nodup := by cases setting <;> decide
  obtain ⟨v, got, found⟩ := recordGet distinct (groupFieldsWritten gathered) (groupHolds setting)
  have checked := forMOk judged (validationOrderHolds setting)
  rw [same, found] at checked
  exact ⟨v, got, checked⟩

end Settings
end IndentLint

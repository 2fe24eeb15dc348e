import Docsmith.Proofs.Change
import Docsmith.Value.Access

/-!
# Parts of values

When a lookup succeeds, and what it then gives.
-/

namespace Docsmith.Value

@[simp] theorem keyName_text (s : String) : (Value.text s).keyName = .ok s := by
  simp [Value.keyName, Value.isKey, Value.display]

@[simp] theorem display_text (s : String) : (Value.text s).display = s.toList := rfl

/-- Only a text can be found in a table. -/
theorem lookup_eq_ok {α : Type} {fs : Fields α} {key : Value} {a : α} (h : Value.lookup fs key = .ok a) :
    ∃ name, key = .text name ∧ fs.get? name = some a := by
  cases key with
  | text name =>
    refine ⟨name, rfl, ?_⟩
    rcases hget : fs.get? name with _ | b <;> simp [Value.lookup, hget] at h
    rw [h]
  | _ => cases h

theorem field_record_eq_ok {fields : Fields Value} {name : String} {v : Value} :
    (Value.record fields).field name = .ok v ↔ fields.get? name = some v := by
  simp only [field, item, lookup]
  cases fields.get? name <;> simp

theorem field_creature (attributes : Fields Value) {name : String} (h : name ≠ "baseStats") :
    (Value.creature attributes).field name = (Value.creature attributes).attr name := by
  simp [Value.field, Value.item, Value.creatureKey, h]

theorem contains_record (fs : Fields Value) (k : String) :
    (Value.record fs).contains (.text k) = .ok (Fields.has k fs) := by
  simp [Value.contains, Value.isKey]

theorem getOr_record (fs : Fields Value) (k : String) (fallback : Value) :
    (Value.record fs).getOr (.text k) fallback = .ok ((fs.get? k).getD fallback) := by
  rw [Value.getOr, contains_record, Outcome.ok_bind, Fields.has]
  cases hget : fs.get? k with
  | none => rfl
  | some v => simp [Value.item, Value.lookup, hget]

theorem item_list_of_getElem? {vs : List Value} {i : Nat} {v : Value} (h : vs[i]? = some v) :
    (Value.list vs).item (.int i) = .ok v := by
  simp [Value.item, Value.int?, Value.nth?, h]

end Docsmith.Value

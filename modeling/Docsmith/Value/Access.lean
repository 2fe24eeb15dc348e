import Docsmith.Fault

/-!
# Looking into values

Members of lists and texts by position, fields of records by name, attributes of creatures by name, membership and
enumeration.  Each fails with a fault that says what was missing, or that the value has no such access.
-/

namespace Docsmith.Value

/-- The methods of a creature, which lookups by name find as well. -/
def creatureMethods : List String := ["get", "to_json", "set_stats", "effective_stat"]

/-- A creature's attribute or method. -/
def attr? (name : String) (attributes : Fields Value) : Option Value :=
  match attributes.get? name with
  | some v => some v
  | none => if creatureMethods.contains name then some .method else none

/-- A value's attribute. -/
def attr (name : String) (v : Value) : Outcome Value :=
  match v with
  | .creature attributes =>
    match attr? name attributes with
    | some a => .ok a
    | none => .error (.noAttribute v.typeName name)
  | _ => .error (.noAttribute v.typeName name)

/-- The member of a list at a position; negative positions count from the end. -/
def nth? {α : Type} (items : List α) (i : Int) : Option α :=
  if 0 ≤ i then items[i.toNat]?
  else if 0 ≤ i + items.length then items[(i + items.length).toNat]?
  else none

/-- A creature's base stats have a second name in lookups. -/
def creatureKey (name : String) : String := if name = "baseStats" then "base_stats" else name

/-- What a table has under a key: only texts are names, and lists and records are no keys at all. -/
def lookup {α : Type} (fields : Fields α) (key : Value) : Outcome α :=
  match key with
  | .text name =>
    match fields.get? name with
    | some w => .ok w
    | none => .error (.missingKey key)
  | .list _ => .error .wrongType
  | .record _ => .error .wrongType
  | _ => .error (.missingKey key)

/-- The part of a value under a key. -/
def item (v key : Value) : Outcome Value :=
  match v with
  | .record fields => lookup fields key
  | .creature _ =>
    match key with
    | .text name => v.attr (creatureKey name)
    | _ => .error .wrongType
  | .list items =>
    match key.int? with
    | some i =>
      match nth? items i with
      | some w => .ok w
      | none => .error .badIndex
    | none => .error .wrongType
  | .text s =>
    match key.int? with
    | some i =>
      match nth? s.toList i with
      | some c => .ok (.text (String.singleton c))
      | none => .error .badIndex
    | none => .error .wrongType
  | _ => .error .wrongType

/-- The part of a value under a name. -/
def field (name : String) (v : Value) : Outcome Value := v.item (.text name)

/-- Whether a value has a key or a member. -/
def contains (v key : Value) : Outcome Bool :=
  match v with
  | .record fields =>
    if !key.isKey then .error .wrongType
    else match key with
      | .text name => .ok (Fields.has name fields)
      | _ => .ok false
  | .creature attributes =>
    match key with
    | .text name => .ok (attr? name attributes).isSome
    | _ => .error .wrongType
  | .list items => .ok (items.any fun w => w.same key)
  | .text s =>
    match key with
    | .text part => .ok (Text.occursIn part.toList s.toList)
    | _ => .error .wrongType
  | _ => .error .wrongType

/-- The part of a value under a key, or a default if there is none. -/
def getOr (v key fallback : Value) : Outcome Value :=
  match v with
  | .record _ => do
    if ← v.contains key then v.item key else .ok fallback
  | .creature attributes =>
    if Fields.has "get" attributes then .error .wrongType
    else do
      if ← v.contains key then v.item key else .ok fallback
  | _ => .error (.noAttribute v.typeName "get")

/-- The members of a list, characters of a text or names of a record, in order. -/
def elements (v : Value) : Outcome (List Value) :=
  match v with
  | .list items => .ok items
  | .text s => .ok (s.toList.map fun c => .text (String.singleton c))
  | .record fields => .ok (fields.map fun f => .text f.1)
  | _ => .error .wrongType

/-- How many members, characters or fields a value has. -/
def size (v : Value) : Outcome Nat :=
  match v with
  | .list items => .ok items.length
  | .text s => .ok s.length
  | .record fields => .ok fields.length
  | _ => .error .wrongType

/-- The name under which a table keeps a key; lists and records are no keys. -/
def keyName (key : Value) : Outcome String :=
  if key.isKey then .ok (String.ofList key.display) else .error .wrongType

/-- The attributes of a value on which one of the methods of creatures can be called; an attribute of the same name
hides the method. -/
def receiver (method : String) (v : Value) : Outcome (Fields Value) :=
  match v with
  | .creature attributes => if Fields.has method attributes then .error .wrongType else .ok attributes
  | _ => .error (.noAttribute v.typeName method)

/-- The value as a text, or the fault that it has no such method of texts. -/
def textWith (method : String) (v : Value) : Outcome String :=
  match v with
  | .text s => .ok s
  | _ => .error (.noAttribute v.typeName method)

mutual

/-- How deep lists, records and creatures are nested in a value. -/
def depth : Value → Nat
  | .list items => depthItems items + 1
  | .record fields => depthFields fields + 1
  | .creature attributes => depthFields attributes + 1
  | _ => 0

/-- The largest depth of the members of a list. -/
def depthItems : List Value → Nat
  | [] => 0
  | v :: vs => max (depth v) (depthItems vs)

/-- The largest depth of the values of a table. -/
def depthFields : List (String × Value) → Nat
  | [] => 0
  | (_, v) :: fs => max (depth v) (depthFields fs)

end

end Docsmith.Value

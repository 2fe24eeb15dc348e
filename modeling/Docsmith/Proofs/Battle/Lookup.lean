import Docsmith.Proofs.Battle.Training

/-!
# Three ways to look into a creature

An attribute can be looked up, asked for, or looked up with a default.  Every creature that `make` gives has the same
attributes, whatever the rules say (`get?_isSome_of_make`), and assignments only add to them.  The three ways agree but
for the second name of the base stats, which only the first of them knows, and for an attribute that hides the method
for defaults (`lookups_agree_iff`).
-/

namespace Docsmith

namespace Fields

variable {α : Type}

private theorem get?_put_isSome (name other : String) (v : α) (fs : Fields α) :
    ((fs.put name v).get? other).isSome ↔ other = name ∨ (fs.get? other).isSome := by
  rw [get?_put]
  split <;> simp [*]

private theorem get?_overlay_isSome (name : String) (fs base : Fields α) :
    ((fs.overlay base).get? name).isSome ↔ name ∈ fs.names ∨ (base.get? name).isSome := by
  induction fs generalizing base with
  | nil => simp [overlay, names]
  | cons f fs ih =>
    rw [overlay, List.foldl_cons, ← overlay, ih, get?_put_isSome, names, names, List.map_cons, List.mem_cons,
      or_left_comm, or_assoc]

end Fields

namespace Battle.Creature

variable {rules : Rules} {s s' : Attributes}

/-! ### The attributes of a new creature -/

/-- The attributes of a creature before its stats are computed. -/
def bornNames : List String :=
  ["name", "level", "moves", "types", "base_stats", "dex_num", "status", "status_turns", "evs", "increase_stat"]

/-- The attributes that every creature is made with. -/
def attributeNames : List String := bornNames ++ computedNames ++ ["boosts", "volatile_status"]

/-- What can be multiplied is an attribute and not a method. -/
private theorem get?_isSome_of_mul {name : String} {v w : Value} {n : Int} (hv : (Value.creature s).attr name = .ok v)
    (hn : (v.mul w >>= Value.floor) = .ok n) : (s.get? name).isSome := by
  rw [Value.attr, Value.attr?] at hv
  cases hget : s.get? name with
  | some u => rfl
  | none =>
    rw [hget] at hv
    dsimp only at hv
    obtain ⟨p, hp, -⟩ := Outcome.bind_eq_ok.1 hn
    split at hv
    next a ha =>
      split at ha
      · cases ha
        cases hv
        cases w <;> cases hp
      · cases ha
    next => cases hv

private theorem get?_applyNature_isSome {nature : Value} (h : (applyNature nature).apply s = (.ok (), s'))
    (hlabel : (s.get? "increase_stat").isSome) (name : String) : (s'.get? name).isSome ↔ (s.get? name).isSome := by
  rcases applyNature_eq_ok.1 h with ⟨-, rfl⟩ | ⟨up, down, v, w, m, n, -, -, hv, hm, hw, hn, rfl⟩
  · exact Iff.rfl
  · have hup := get?_isSome_of_mul hv hm
    have hdown := get?_isSome_of_mul hw hn
    simp only [Fields.get?_put_isSome]
    constructor
    · rintro (rfl | rfl | rfl | h)
      · exact hdown
      · exact hup
      · exact hlabel
      · exact h
    · exact fun h => .inr (.inr (.inr h))

/-- A creature has the same attributes whatever it was made from. -/
private theorem get?_isSome_of_make {options : Fields Value} {made : Attributes} (h : make rules options = .ok made)
    (name : String) : (made.get? name).isSome ↔ name ∈ attributeNames := by
  obtain ⟨title, species, types, base, number, given, moves, grown, -, -, -, -, -, hset, rfl⟩ := make_ok h
  obtain ⟨_, level, plain, entry, -, -, hplain, -, hnature⟩ := setStats_eq_ok.1 hset
  have hborn : ∀ name, ((plain.overlay (newborn options title types base number moves)).get? name).isSome ↔
      name ∈ computedNames ∨ name ∈ bornNames := by
    intro name
    rw [Fields.get?_overlay_isSome, names_plainStats hplain, Fields.get?_isSome_iff]
    rfl
  have hlabel := (hborn "increase_stat").2 (.inr (by decide))
  rw [finished, Fields.get?_put_isSome, Fields.get?_put_isSome, get?_applyNature_isSome hnature hlabel, hborn]
  simp only [attributeNames, List.mem_append, List.mem_cons, List.not_mem_nil, or_false]
  constructor
  · rintro (h | h | h | h)
    · exact .inr (.inr h)
    · exact .inr (.inl h)
    · exact .inl (.inr h)
    · exact .inl (.inl h)
  · rintro ((h | h) | h | h)
    · exact .inr (.inr (.inr h))
    · exact .inr (.inr (.inl h))
    · exact .inr (.inl h)
    · exact .inl h

/-! ### Lookups -/

/-- Whether a lookup fails for lack of an attribute. -/
def Lacks (v : Value) (key : String) : Prop :=
  ∃ fault, v.item (.text key) = .error fault ∧ fault.kind = "AttributeError"

/-- Whether a value is said to have a key exactly if a lookup finds it. -/
def MembershipAgrees (v : Value) (key : String) : Prop := v.contains (.text key) = .ok true ↔ ¬ Lacks v key

/-- Whether a lookup with a default gives what the lookup finds, and else the default. -/
def DefaultAgrees (v : Value) (key : String) (fallback : Value) : Prop :=
  v.getOr (.text key) fallback = .ok ((v.item (.text key)).toOption.getD fallback)

section Agreement

variable {key : String} {v fallback : Value}

private theorem attr?_isSome_iff (s : Attributes) (name : String) :
    (Value.attr? name s).isSome ↔ (s.get? name).isSome ∨ name ∈ Value.creatureMethods := by
  unfold Value.attr?
  cases s.get? name with
  | some v => simp
  | none => by_cases h : name ∈ Value.creatureMethods <;> simp [h]

private theorem contains_creature (s : Attributes) (key : String) :
    (Value.creature s).contains (.text key) = .ok (Value.attr? key s).isSome := rfl

private theorem item_of_some (h : Value.attr? (Value.creatureKey key) s = some v) :
    (Value.creature s).item (.text key) = .ok v := by
  simp only [Value.item, Value.attr, h]

private theorem item_of_none (h : Value.attr? (Value.creatureKey key) s = none) :
    (Value.creature s).item (.text key) = .error (.noAttribute "Pokemon" (Value.creatureKey key)) := by
  simp only [Value.item, Value.attr, h, Value.typeName]

private theorem not_lacks_iff : ¬ Lacks (.creature s) key ↔ (Value.attr? (Value.creatureKey key) s).isSome := by
  cases h : Value.attr? (Value.creatureKey key) s with
  | some v => simp [Lacks, item_of_some h]
  | none => simp [Lacks, item_of_none h, Fault.kind]

private theorem item_or_lacks (s : Attributes) (key : String) :
    (∃ v, (Value.creature s).item (.text key) = .ok v) ∨ Lacks (.creature s) key := by
  cases h : Value.attr? (Value.creatureKey key) s with
  | some v => exact .inl ⟨v, item_of_some h⟩
  | none => exact .inr ⟨_, item_of_none h, rfl⟩

private theorem membershipAgrees_iff : MembershipAgrees (.creature s) key ↔
    ((Value.attr? key s).isSome ↔ (Value.attr? (Value.creatureKey key) s).isSome) := by
  rw [MembershipAgrees, not_lacks_iff, contains_creature, Except.ok.injEq]

/-- An attribute hides the method for defaults. -/
private theorem not_defaultAgrees_of_hidden (h : Fields.has "get" s = true) :
    ¬ DefaultAgrees (.creature s) key fallback := by
  rw [DefaultAgrees, Value.getOr, if_pos h]
  exact fun h => by cases h

private theorem getOr_creature (h : Fields.has "get" s = false) : (Value.creature s).getOr (.text key) fallback =
    if (Value.attr? key s).isSome then (Value.creature s).item (.text key) else .ok fallback := by
  rw [Value.getOr, if_neg (by simp [h]), contains_creature, Outcome.ok_bind]

private theorem defaultAgrees_iff (h : Fields.has "get" s = false) : DefaultAgrees (.creature s) key fallback ↔
    MembershipAgrees (.creature s) key ∨ (Value.creature s).item (.text key) = .ok fallback := by
  rw [DefaultAgrees, getOr_creature h, membershipAgrees_iff]
  cases hkey : Value.attr? (Value.creatureKey key) s with
  | some v =>
    rw [item_of_some hkey]
    cases (Value.attr? key s).isSome <;> simp [Except.toOption, eq_comm]
  | none =>
    rw [item_of_none hkey]
    cases (Value.attr? key s).isSome <;> simp [Except.toOption]

end Agreement

section Made

variable {options : Fields Value} {made : Attributes} (hmade : make rules options = .ok made) (changes : Fields Value)

include hmade

private theorem get?_changed_isSome (name : String) :
    ((changes.overlay made).get? name).isSome ↔ name ∈ changes.names ∨ name ∈ attributeNames := by
  rw [Fields.get?_overlay_isSome, get?_isSome_of_make hmade]

/-- Only the second name of the base stats can be found without being a key, and it is until it is assigned. -/
private theorem membershipAgrees_changed (key : String) :
    MembershipAgrees (.creature (changes.overlay made)) key ↔ key ≠ "baseStats" ∨ "baseStats" ∈ changes.names := by
  rw [membershipAgrees_iff]
  by_cases hkey : key = "baseStats"
  · have hstats : (Value.attr? (Value.creatureKey "baseStats") (changes.overlay made)).isSome :=
      (attr?_isSome_iff _ _).2 (.inl ((get?_changed_isSome hmade changes _).2 (.inr (by decide))))
    have hsecond : (Value.attr? "baseStats" (changes.overlay made)).isSome ↔ "baseStats" ∈ changes.names := by
      have hattribute : "baseStats" ∉ attributeNames := by decide
      have hmethod : "baseStats" ∉ Value.creatureMethods := by decide
      rw [attr?_isSome_iff, get?_changed_isSome hmade]
      simp only [hattribute, hmethod, or_false]
    rw [hkey, hsecond]
    simp [hstats]
  · rw [Value.creatureKey, if_neg hkey]
    simp [hkey]

/-- After any assignments to a creature, a lookup finds a value or lacks the attribute.  That the creature has a key
says the same, but for the second name of the base stats as long as nothing is assigned to it; and so does a lookup
with a default, unless something was assigned to the name of its method, or the default is what should be found. -/
theorem lookups_agree_iff (key : String) (fallback : Value) :
    ((∃ v, (Value.creature (changes.overlay made)).item (.text key) = .ok v) ∨
        Lacks (.creature (changes.overlay made)) key) ∧
      (MembershipAgrees (.creature (changes.overlay made)) key ↔ key ≠ "baseStats" ∨ "baseStats" ∈ changes.names) ∧
      (DefaultAgrees (.creature (changes.overlay made)) key fallback ↔ "get" ∉ changes.names ∧
        (key ≠ "baseStats" ∨ "baseStats" ∈ changes.names ∨
          (Value.creature (changes.overlay made)).item (.text key) = .ok fallback)) := by
  have hget : Fields.has "get" (changes.overlay made) = true ↔ "get" ∈ changes.names := by
    have hattribute : "get" ∉ attributeNames := by decide
    rw [Fields.has, get?_changed_isSome hmade]
    simp only [hattribute, or_false]
  refine ⟨item_or_lacks _ key, membershipAgrees_changed hmade changes key, ?_⟩
  by_cases hhidden : "get" ∈ changes.names
  · exact iff_of_false (not_defaultAgrees_of_hidden (hget.2 hhidden)) fun h => h.1 hhidden
  · rw [defaultAgrees_iff (Bool.eq_false_iff.2 (mt hget.1 hhidden)), membershipAgrees_changed hmade, or_assoc]
    exact (and_iff_right hhidden).symm

end Made

namespace Sample

/-- A spinda with one move. -/
def spinda : Fields Value := [("name", .text "spinda"), ("moves", .list [.text "return"])]

/-- Assignments to an attribute that no creature has and to the second name of the base stats. -/
def changes : Fields Value := [("nature", .text "calm"), ("baseStats", .int 1)]

private theorem make_spinda : ∃ made, make .standard spinda = .ok made :=
  ⟨_, Outcome.eq_ok_getD [] (by decide +kernel)⟩

end Sample

/-- Once something is assigned to the second name of the base stats, the three ways agree on it. -/
theorem sample_lookups_agree_iff :
    ∃ made, make .standard Sample.spinda = .ok made ∧
      MembershipAgrees (.creature (Sample.changes.overlay made)) "baseStats" ∧
      DefaultAgrees (.creature (Sample.changes.overlay made)) "baseStats" .null := by
  obtain ⟨made, hmade⟩ := Sample.make_spinda
  have hassigned : "baseStats" ∈ Sample.changes.names := by decide
  have hmethod : "get" ∉ Sample.changes.names := by decide
  obtain ⟨-, hmembership, hdefault⟩ := lookups_agree_iff hmade Sample.changes "baseStats" .null
  exact ⟨made, hmade, hmembership.2 (.inr hassigned), hdefault.2 ⟨hmethod, .inr (.inl hassigned)⟩⟩

/-- A spinda's base stats are found under their second name, but it is said not to have that key, and a lookup with a
default gives the default. -/
theorem second_name_not_contained :
    ∃ made stats, make .standard Sample.spinda = .ok made ∧
      (Value.creature made).item (.text "baseStats") = .ok (.record stats) ∧
      (Value.creature made).contains (.text "baseStats") = .ok false ∧
      (Value.creature made).getOr (.text "baseStats") .null = .ok .null := by
  obtain ⟨made, hmade⟩ := Sample.make_spinda
  obtain ⟨name, species, types, base, number, moves, hname, hspecies, -, hbase, -, hleaves⟩ :=
    make_leaves (standard_tempered _) hmade
  obtain rfl : Value.text "spinda" = name := Option.some.inj (Eq.trans rfl hname)
  obtain rfl := Except.ok.inj (Eq.trans rfl hspecies)
  obtain rfl := Except.ok.inj (Eq.trans rfl hbase)
  have hstats := attr_of_get? (hleaves "base_stats" (by decide))
  have hcontained : (Value.attr? "baseStats" made).isSome = false := by
    rw [Bool.eq_false_iff, Ne, attr?_isSome_iff, get?_isSome_of_make hmade]
    decide
  have hmethod : Fields.has "get" made = false := by
    rw [Fields.has, Bool.eq_false_iff, Ne, get?_isSome_of_make hmade]
    decide
  refine ⟨made, _, hmade, hstats, ?_, ?_⟩
  · rw [contains_creature, hcontained]
  · rw [getOr_creature hmethod, hcontained]
    rfl

end Battle.Creature

end Docsmith

import Docsmith.Proofs.Battle.Turn

/-!
# A turn as a sequence of attacks

To learn from a turn is to learn from its attacks, one after the other, and then from their order (`learnTurn_eq`).  Of
the other events it only matters that they say what type they are, and a switch is never found among attacks
(`hasSwitch_of_attacks`).
-/

namespace Docsmith.Battle.Tracker

variable {rules : Rules} {me event turn : Value} {t t' : Tracker} {attacks : List Value}

/-- An event with the surplus of a critical hit taken away from its damage. -/
def reduced (event : Value) : Value := (reduceCritical.apply event).2

theorem field_reduced {name : String} (h : name ∉ ["damage", "pct_damage"]) (event : Value) :
    (reduced event).field name = event.field name :=
  reduceCritical_keeps h event

theorem isAttack_reduced (event : Value) : isAttack (reduced event) = isAttack event := by
  rw [isAttack, field_reduced (by decide), isAttack]

/-- The attacks of a turn, if each of its events says what type it is. -/
def sifted (turn : Value) : Outcome (List Value) := do
  let events ← turn.elements
  let marks ← events.mapM isAttack
  .ok (attacksOf marks events)

private theorem sifted_of_elements {events : List Value} (h : turn.elements = .ok events) :
    sifted turn = (events.mapM isAttack).map fun marks => attacksOf marks events := by
  rw [sifted, h]
  show (events.mapM isAttack >>= fun marks => Except.ok (attacksOf marks events)) = _
  cases events.mapM isAttack <;> rfl

theorem sifted_cons (event : Value) (events : List Value) :
    sifted (.list (event :: events)) = (isAttack event >>= fun attacks =>
      (sifted (.list events)).map fun rest => if attacks then event :: rest else rest) := by
  rw [sifted_of_elements rfl, sifted_of_elements rfl, List.mapM_cons]
  rcases isAttack event with fault | b
  · rfl
  rcases events.mapM isAttack with fault | marks
  · rfl
  · cases b <;> rfl

theorem attacksIn_of_sifted (h : sifted turn = .ok attacks) : attacksIn turn = attacks := by
  unfold sifted at h
  simp only [Outcome.bind_eq_ok] at h
  obtain ⟨events, hevents, marks, hmarks, h⟩ := h
  cases h
  rw [attacksIn, hevents, attacksOf]
  exact (filter_marks hmarks).symm

private theorem isAttack_of_mem_attacksIn (h : event ∈ attacksIn turn) : isAttack event = .ok true := by
  unfold attacksIn at h
  split at h
  · have hholds := (List.mem_filter.1 h).2
    rcases hattack : isAttack event with fault | b
    · rw [hattack] at hholds
      cases hholds
    · rw [hattack] at hholds
      exact congrArg Except.ok hholds
  · cases h

/-! ### Attacks one after the other -/

/-- Learns from an attack whose damage has not been reduced. -/
def learnAttack (rules : Rules) (me event : Value) : Change Tracker Unit := do
  (reduceCritical.apply event).1
  learnEvent rules me (reduced event)

/-- Learns from attacks, one after the other, and then from their order. -/
def learnAttacks (rules : Rules) (me : Value) (attacks : List Value) : Change Tracker Unit := do
  attacks.forM (learnAttack rules me)
  learnOrder rules me (attacks.map reduced)

theorem apply_learnAttack (rules : Rules) (me event : Value) (t : Tracker) :
    (learnAttack rules me event).apply t = match reduceCritical.apply event with
      | (.error fault, _) => (.error fault, t)
      | (.ok (), event) => (learnEvent rules me event).apply t := by
  unfold learnAttack reduced
  rw [Change.apply_bind, Change.apply_liftM]
  rcases reduceCritical.apply event with ⟨fault | _, event'⟩ <;> rfl

/-- The events that are not marked are passed over. -/
private theorem learnEvents_eq (rules : Rules) (me : Value) (marked : List (Bool × Value)) (t : Tracker) :
    (learnEvents rules me marked t).2 =
      (((marked.filter (·.1)).map (·.2)).forM (learnAttack rules me)).apply t := by
  induction marked generalizing t with
  | nil => rfl
  | cons e marked ih =>
    obtain ⟨mark, event⟩ := e
    cases mark with
    | false => exact ih t
    | true =>
      rw [List.filter_cons_of_pos rfl, List.map_cons, List.forM, Change.apply_bind, apply_learnAttack, learnEvents]
      rcases reduceCritical.apply event with ⟨fault | _, event'⟩
      · rfl
      rcases hlearn : (learnEvent rules me event').apply t with ⟨fault | _, u⟩
      · simp only [hlearn]
      · simp only [hlearn]
        exact ih u

/-- A turn teaches what its attacks teach, one after the other, and then what their order teaches. -/
theorem learnTurn_eq (rules : Rules) (me turn : Value) (t : Tracker) :
    (learnTurn rules me turn t).2 =
      ((liftM (sifted turn) : Change Tracker (List Value)) >>= learnAttacks rules me).apply t := by
  rcases helements : turn.elements with fault | events
  · simp only [readTurn, sifted, helements, Except.bind]
    rfl
  rw [sifted_of_elements helements]
  rcases hmarks : events.mapM isAttack with fault | marks
  · simp only [readTurn, helements, hmarks, Except.bind, Except.map]
    rfl
  have hlearn := learnEvents_eq rules me (marks.zip events) t
  simp only [readTurn, helements, hmarks, Except.bind, Except.map, learnAttacks, Change.apply_bind, Change.apply_liftM,
    attacksOf, ← hlearn]
  rcases hevents : learnEvents rules me (marks.zip events) t with ⟨events', fault | _, u⟩
  · rfl
  · have hattacks := attacksOf_learnEvents hevents
    rw [List.map_fst_zip (Nat.le_of_eq (Outcome.length_of_mapM hmarks)), attacksOf] at hattacks
    simp only [hattacks, List.map_map]
    rfl

/-- What each attack and their order preserve is preserved by a turn, however it ends. -/
theorem learnTurn_closed {P : Tracker → Prop} (hevent : ∀ event, (learnEvent rules me event).Preserves P)
    (horder : ∀ attacks, (learnOrder rules me attacks).Preserves P) (turn : Value) (h : P t) :
    P (learnTurn rules me turn t).2.2 := by
  rw [learnTurn_eq]
  refine (Change.preserves_liftM _).bind (fun attacks => Change.Preserves.bind ?_ fun _ => horder _) t h
  exact Change.preserves_forM fun e => (Change.preserves_liftM _).bind fun _ => hevent _

/-! ### The order of attacks -/

/-- An attack is no switch. -/
private theorem isSwitch_of_isAttack (h : isAttack event = .ok true) : isSwitch event = .ok false := by
  obtain ⟨kind, hkind, hattack⟩ := Outcome.bind_eq_ok.1 h
  rw [Except.ok.injEq] at hattack
  have hkind' : kind = .text "ATTACK" := by
    cases kind <;> simp_all [Value.isText]
  rw [isSwitch, hkind, hkind']
  rfl

/-- Among attacks there is no switch to be found. -/
private theorem hasSwitch_of_attacks (h : ∀ e ∈ attacks, isAttack e = .ok true) : hasSwitch attacks = .ok false := by
  induction attacks with
  | nil => rfl
  | cons e attacks ih =>
    obtain ⟨he, hrest⟩ := List.forall_mem_cons.1 h
    rw [hasSwitch, isSwitch_of_isAttack he]
    exact ih hrest

/-- The order of attacks teaches about the speed if there are two of them. -/
theorem learnOrder_of_attacks {σ : Type} [Store σ] (h : ∀ e ∈ attacks, isAttack e = .ok true) :
    (learnOrder rules me attacks : Change σ Unit) =
      if attacks.length = 2 then learnSpeed rules (.list attacks) me else pure () := by
  unfold learnOrder
  rw [hasSwitch_of_attacks h]
  show (if attacks.length == 2 && !false then learnSpeed rules (.list attacks) me else pure () : Change σ Unit) = _
  by_cases htwo : attacks.length = 2 <;> simp [htwo]

theorem isAttack_of_mem_reduced {e : Value} (h : e ∈ (attacksIn turn).map reduced) : isAttack e = .ok true := by
  obtain ⟨event, hevent, rfl⟩ := List.mem_map.1 h
  rw [isAttack_reduced]
  exact isAttack_of_mem_attacksIn hevent

/-- A turn with one attack teaches what that attack teaches. -/
theorem learnTurn_single (h : sifted turn = .ok [event]) (rules : Rules) (me : Value) (t : Tracker) :
    (learnTurn rules me turn t).2 = (learnAttack rules me event).apply t := by
  have hmem : event ∈ attacksIn turn := by
    rw [attacksIn_of_sifted h]
    exact List.mem_singleton_self event
  have horder : (learnOrder rules me [reduced event] : Change Tracker Unit) = pure () := by
    rw [learnOrder_of_attacks, if_neg (by simp)]
    intro e he
    rw [List.mem_singleton.1 he, isAttack_reduced, isAttack_of_mem_attacksIn hmem]
  rw [learnTurn_eq, h, Change.ok_bind, learnAttacks, List.map_singleton, horder, List.forM, List.forM,
    Change.apply_bind, Change.apply_bind]
  rcases (learnAttack rules me event).apply t with ⟨fault | _, u⟩ <;> rfl

end Docsmith.Battle.Tracker

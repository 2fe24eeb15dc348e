import Docsmith.Change

/-!
# Outcomes and changes, taken apart

A sequence of steps succeeds exactly when each of its steps does: `Outcome.bind_eq_ok` for computations without a
state and `Change.bind_eq_ok` for changes, where the second step starts from the state that the first one leaves.  It
fails if the first step does, or the second from there (`Change.bind_eq_error`).  Proofs about changes take one apart
with these and never unfold the two layers of `Change`.
-/

namespace Docsmith

namespace Outcome

variable {α β : Type}

theorem bind_eq_ok {o : Outcome α} {f : α → Outcome β} {b : β} :
    (o >>= f) = .ok b ↔ ∃ a, o = .ok a ∧ f a = .ok b := by
  cases o <;> simp [bind, Except.bind]

theorem ok_bind (a : α) (f : α → Outcome β) : (Except.ok a >>= f : Outcome β) = f a := rfl

theorem bind_eq_error {o : Outcome α} {f : α → Outcome β} {e : Fault} :
    (o >>= f) = .error e ↔ o = .error e ∨ ∃ a, o = .ok a ∧ f a = .error e := by
  cases o <;> simp [bind, Except.bind]

/-- A refusal in front of what follows. -/
theorem refuse_eq_ok {c : Prop} [Decidable c] {e : Fault} {f : α → Outcome β} {o : Outcome β} {b : β} :
    (if c then .error e >>= f else o) = .ok b ↔ ¬c ∧ o = .ok b := by
  by_cases hc : c <;> simp [hc, bind, Except.bind]

/-- A choice in front of what follows. -/
theorem ite_bind {c : Prop} [Decidable c] {o o' : Outcome α} {f : α → Outcome β} :
    (if c then o >>= f else o' >>= f) = (if c then o else o') >>= f := by
  split <;> rfl

theorem map_eq_ok {o : Outcome α} {f : α → β} {b : β} : o.map f = .ok b ↔ ∃ a, o = .ok a ∧ f a = b := by
  cases o <;> simp [Except.map]

/-- Success, from a test that can be evaluated. -/
theorem eq_ok_of_isOk {o : Outcome Unit} (h : o.isOk = true) : o = .ok () := by
  cases o with
  | error e => cases h
  | ok u => rfl

theorem eq_ok_getD {o : Outcome α} (a : α) (h : o.isOk = true) : o = .ok (o.toOption.getD a) := by
  cases o with
  | error e => cases h
  | ok b => rfl

theorem eq_ok_of_toOption {o : Outcome α} {a : α} (h : o.toOption = some a) : o = .ok a := by
  cases o with
  | error e => cases h
  | ok b =>
    cases h
    rfl

theorem forM_eq_ok {f : α → Outcome Unit} {as : List α} (h : as.forM f = .ok ()) : ∀ a ∈ as, f a = .ok () := by
  induction as with
  | nil => simp
  | cons a as ih =>
    rw [List.forM, bind_eq_ok] at h
    obtain ⟨_, ha, h⟩ := h
    exact List.forall_mem_cons.2 ⟨ha, ih h⟩

/-- Members that are all computed are computed one for one. -/
theorem length_of_mapM {f : α → Outcome β} {as : List α} {bs : List β} (h : as.mapM f = .ok bs) :
    bs.length = as.length := by
  induction as generalizing bs with
  | nil =>
    cases h
    rfl
  | cons a as ih =>
    rw [List.mapM_cons, bind_eq_ok] at h
    obtain ⟨b, -, h⟩ := h
    rw [bind_eq_ok] at h
    obtain ⟨rest, hrest, h⟩ := h
    cases h
    simp [ih hrest]

/-- Members that are made of others and all computed. -/
theorem mapM_map_eq_ok {γ : Type} {f : α → Outcome β} {e : γ → α} {g : γ → β} {cs : List γ}
    (h : ∀ c ∈ cs, f (e c) = .ok (g c)) : (cs.map e).mapM f = .ok (cs.map g) := by
  induction cs with
  | nil => rfl
  | cons c cs ih =>
    obtain ⟨hc, h⟩ := List.forall_mem_cons.1 h
    rw [List.map_cons, List.mapM_cons, hc, ih h]
    rfl

/-- Computations each of which gives what is specified or fails with one and the same fault: together they give all
that is specified, or fail with this fault. -/
theorem mapM_cases {γ : Type} {f : α → Outcome β} {as : List α} {view : β → γ} {spec : α → γ} {bad : α → Prop}
    {e : Fault} (h : ∀ a ∈ as, (∃ b, f a = .ok b ∧ view b = spec a ∧ ¬bad a) ∨ (f a = .error e ∧ bad a)) :
    (∃ bs, as.mapM f = .ok bs ∧ bs.map view = as.map spec ∧ ∀ a ∈ as, ¬bad a) ∨
      (as.mapM f = .error e ∧ ∃ a ∈ as, bad a) := by
  induction as with
  | nil => exact .inl ⟨[], rfl, rfl, by simp⟩
  | cons a as ih =>
    obtain ⟨ha, h⟩ := List.forall_mem_cons.1 h
    rw [List.mapM_cons]
    rcases ha with ⟨b, hfa, hview, hgood⟩ | ⟨hfa, hbad⟩
    · rw [hfa]
      rcases ih h with ⟨bs, hbs, hviews, hall⟩ | ⟨herror, x, hx, hbad⟩
      · refine .inl ⟨b :: bs, by rw [hbs]; rfl, ?_, List.forall_mem_cons.2 ⟨hgood, hall⟩⟩
        rw [List.map_cons, List.map_cons, hview, hviews]
      · exact .inr ⟨by rw [herror]; rfl, x, List.mem_cons_of_mem _ hx, hbad⟩
    · rw [hfa]
      exact .inr ⟨rfl, a, List.mem_cons_self, hbad⟩

end Outcome

namespace Change

variable {σ α β : Type}

@[simp] theorem apply_pure (a : α) (s : σ) : (pure a : Change σ α).apply s = (.ok a, s) := rfl

@[simp] theorem apply_throw (e : Fault) (s : σ) : (throw e : Change σ α).apply s = (.error e, s) := rfl

@[simp] theorem apply_get (s : σ) : (get : Change σ σ).apply s = (.ok s, s) := rfl

@[simp] theorem apply_set (s s' : σ) : (set s' : Change σ PUnit).apply s = (.ok ⟨⟩, s') := rfl

@[simp] theorem apply_modify (f : σ → σ) (s : σ) : (modify f : Change σ PUnit).apply s = (.ok ⟨⟩, f s) := rfl

@[simp] theorem apply_liftM (o : Outcome α) (s : σ) : (liftM o : Change σ α).apply s = (o, s) := rfl

@[simp] theorem apply_ofFun (f : σ → Outcome α × σ) (s : σ) : (ofFun f).apply s = f s := rfl

theorem apply_bind (c : Change σ α) (f : α → Change σ β) (s : σ) :
    (c >>= f).apply s = match c.apply s with
      | (.ok a, s') => (f a).apply s'
      | (.error e, s') => (.error e, s') := by
  show (ExceptT.bindCont f (c.apply s).1 : StateM σ _) (c.apply s).2 = _
  rcases c.apply s with ⟨o, s'⟩
  cases o <;> rfl

theorem ok_bind (a : α) (f : α → Change σ β) : ((liftM (Except.ok a : Outcome α) : Change σ α) >>= f) = f a := rfl

theorem error_bind (e : Fault) (f : α → Change σ β) :
    ((liftM (Except.error e : Outcome α) : Change σ α) >>= f) = liftM (Except.error e : Outcome β) := rfl

/-- A sequence that succeeds, taken apart. -/
theorem bind_eq_ok {c : Change σ α} {f : α → Change σ β} {s s'' : σ} {b : β} :
    (c >>= f).apply s = (.ok b, s'') ↔ ∃ a s', c.apply s = (.ok a, s') ∧ (f a).apply s' = (.ok b, s'') := by
  rw [apply_bind]
  rcases c.apply s with ⟨o, s'⟩
  cases o <;> simp [and_assoc]

theorem apply_bind_of_ok {c : Change σ α} {s s' : σ} {a : α} (h : c.apply s = (.ok a, s')) (f : α → Change σ β) :
    (c >>= f).apply s = (f a).apply s' := by
  rw [apply_bind, h]

theorem apply_of_isOk {c : Change σ Unit} {s : σ} (h : (c.apply s).1.isOk = true) :
    c.apply s = (.ok (), (c.apply s).2) := Prod.ext (Outcome.eq_ok_of_isOk h) rfl

/-- A computation without a state and what follows it. -/
theorem liftM_bind_eq_ok {o : Outcome α} {f : α → Change σ β} {s s' : σ} {b : β} :
    ((liftM o : Change σ α) >>= f).apply s = (.ok b, s') ↔ ∃ a, o = .ok a ∧ (f a).apply s = (.ok b, s') := by
  rw [bind_eq_ok]
  constructor
  · rintro ⟨a, s₁, ho, hf⟩
    rw [apply_liftM, Prod.mk.injEq] at ho
    obtain ⟨ho, rfl⟩ := ho
    exact ⟨a, ho, hf⟩
  · rintro ⟨a, rfl, hf⟩
    exact ⟨a, s, rfl, hf⟩

/-- A sequence that fails, taken apart. -/
theorem bind_eq_error {c : Change σ α} {f : α → Change σ β} {s s'' : σ} {e : Fault} :
    (c >>= f).apply s = (.error e, s'') ↔ c.apply s = (.error e, s'') ∨
      ∃ a s', c.apply s = (.ok a, s') ∧ (f a).apply s' = (.error e, s'') := by
  rw [apply_bind]
  rcases c.apply s with ⟨o, s'⟩
  cases o <;> simp [and_assoc]

theorem liftM_bind_eq_error {o : Outcome α} {f : α → Change σ β} {s s' : σ} {e : Fault} :
    ((liftM o : Change σ α) >>= f).apply s = (.error e, s') ↔ (o = .error e ∧ s' = s) ∨
      ∃ a, o = .ok a ∧ (f a).apply s = (.error e, s') := by
  rw [apply_bind, apply_liftM]
  cases o <;> simp [eq_comm]

@[simp] theorem get_bind_apply (f : σ → Change σ β) (s : σ) : ((get : Change σ σ) >>= f).apply s = (f s).apply s := rfl

/-- If a sequence over a list succeeds, so does each of its steps, from some state on. -/
theorem exists_of_forM {f : α → Change σ Unit} {as : List α} {s s' : σ} (h : (as.forM f).apply s = (.ok (), s')) :
    ∀ a ∈ as, ∃ u u', (f a).apply u = (.ok (), u') := by
  induction as generalizing s with
  | nil => simp
  | cons a as ih =>
    rw [List.forM, bind_eq_ok] at h
    obtain ⟨_, u, ha, h⟩ := h
    exact List.forall_mem_cons.2 ⟨⟨s, u, ha⟩, ih h⟩

/-- A change leaves a part of the state as it was, whether it succeeds or not. -/
def Keeps {τ : Type} (part : σ → τ) (c : Change σ α) : Prop := ∀ s, part (c.apply s).2 = part s

section Keeps

variable {τ : Type} {part : σ → τ}

theorem Keeps.of_apply {c : Change σ α} (hc : Keeps part c) {o : Outcome α} {s s' : σ} (h : c.apply s = (o, s')) :
    part s' = part s := by
  rw [← hc s, h]

theorem keeps_pure (a : α) : Keeps part (pure a : Change σ α) := fun _ => rfl

theorem keeps_liftM (o : Outcome α) : Keeps part (liftM o : Change σ α) := fun _ => rfl

theorem keeps_get : Keeps part (get : Change σ σ) := fun _ => rfl

theorem keeps_modify {f : σ → σ} (h : ∀ s, part (f s) = part s) : Keeps part (modify f : Change σ PUnit) := h

/-- What follows has to leave the part alone only for the results that the first change can have. -/
theorem Keeps.bind_of_ok {c : Change σ α} {f : α → Change σ β} (hc : Keeps part c)
    (hf : ∀ a s s', c.apply s = (.ok a, s') → Keeps part (f a)) : Keeps part (c >>= f) := by
  intro s
  rw [apply_bind, ← hc s]
  rcases hstep : c.apply s with ⟨e | a, s'⟩
  · rfl
  · exact hf a s s' hstep s'

theorem Keeps.bind {c : Change σ α} {f : α → Change σ β} (hc : Keeps part c) (hf : ∀ a, Keeps part (f a)) :
    Keeps part (c >>= f) :=
  hc.bind_of_ok fun a _ _ _ => hf a

theorem Keeps.ite {b : Prop} [Decidable b] {c d : Change σ α} (hc : Keeps part c) (hd : Keeps part d) :
    Keeps part (if b then c else d) := by
  split
  · exact hc
  · exact hd

theorem keeps_liftM_bind {o : Outcome α} {f : α → Change σ β} (hf : ∀ a, o = .ok a → Keeps part (f a)) :
    Keeps part ((liftM o : Change σ α) >>= f) :=
  (keeps_liftM o).bind_of_ok fun a _ _ h => hf a (congrArg Prod.fst h)

theorem keeps_forM {f : α → Change σ Unit} {as : List α} (hf : ∀ a ∈ as, Keeps part (f a)) :
    Keeps part (as.forM f) := by
  induction as with
  | nil => exact keeps_pure ()
  | cons a as ih =>
    obtain ⟨ha, has⟩ := List.forall_mem_cons.1 hf
    exact ha.bind fun _ => ih has

theorem keeps_forIn {as : List α} {f : α → β → Change σ (ForInStep β)} (hf : ∀ a b, Keeps part (f a b)) (b : β) :
    Keeps part (forIn as b f) := by
  induction as generalizing b with
  | nil => exact keeps_pure b
  | cons a as ih =>
    rw [List.forIn_cons]
    refine (hf a b).bind fun step => ?_
    cases step with
    | done b => exact keeps_pure b
    | yield b => exact ih b

theorem length_of_mapM {f : α → Change σ β} {as : List α} {bs : List β} {s s' : σ}
    (h : (as.mapM f).apply s = (.ok bs, s')) : bs.length = as.length := by
  induction as generalizing bs s with
  | nil =>
    cases h
    rfl
  | cons a as ih =>
    rw [List.mapM_cons, bind_eq_ok] at h
    obtain ⟨b, u, -, h⟩ := h
    rw [bind_eq_ok] at h
    obtain ⟨rest, u', hrest, h⟩ := h
    cases h
    simp [ih hrest]

end Keeps

/-- A property of the state holds after a change if it holds before, whether the change succeeds or not. -/
def Preserves (P : σ → Prop) (c : Change σ α) : Prop := ∀ s, P s → P (c.apply s).2

section Preserves

variable {P : σ → Prop}

theorem preserves_pure (a : α) : Preserves P (pure a : Change σ α) := fun _ h => h

theorem preserves_liftM (o : Outcome α) : Preserves P (liftM o : Change σ α) := fun _ h => h

theorem preserves_get : Preserves P (get : Change σ σ) := fun _ h => h

theorem preserves_modify {f : σ → σ} (h : ∀ s, P s → P (f s)) : Preserves P (modify f : Change σ PUnit) := h

/-- What follows has to preserve the property only for the results that the first change can have. -/
theorem Preserves.bind_of_ok {c : Change σ α} {f : α → Change σ β} (hc : Preserves P c)
    (hf : ∀ a s s', c.apply s = (.ok a, s') → Preserves P (f a)) : Preserves P (c >>= f) := by
  intro s hs
  have hnext := hc s hs
  rw [apply_bind]
  rcases hstep : c.apply s with ⟨e | a, s'⟩
  · rwa [hstep] at hnext
  · rw [hstep] at hnext
    exact hf a s s' hstep s' hnext

theorem Preserves.bind {c : Change σ α} {f : α → Change σ β} (hc : Preserves P c) (hf : ∀ a, Preserves P (f a)) :
    Preserves P (c >>= f) :=
  hc.bind_of_ok fun a _ _ _ => hf a

theorem preserves_liftM_bind {o : Outcome α} {f : α → Change σ β} (hf : ∀ a, o = .ok a → Preserves P (f a)) :
    Preserves P ((liftM o : Change σ α) >>= f) :=
  (preserves_liftM o).bind_of_ok fun a _ _ h => hf a (congrArg Prod.fst h)

theorem Preserves.ite {b : Prop} [Decidable b] {c d : Change σ α} (hc : Preserves P c) (hd : Preserves P d) :
    Preserves P (if b then c else d) := by
  split
  · exact hc
  · exact hd

theorem preserves_forM {f : α → Change σ Unit} {as : List α} (hf : ∀ a, Preserves P (f a)) :
    Preserves P (as.forM f) := by
  induction as with
  | nil => exact preserves_pure ()
  | cons a as ih => exact (hf a).bind fun _ => ih

theorem preserves_mapM {f : α → Change σ β} {as : List α} (hf : ∀ a, Preserves P (f a)) :
    Preserves P (as.mapM f) := by
  induction as with
  | nil => exact preserves_pure []
  | cons a as ih =>
    rw [List.mapM_cons]
    exact (hf a).bind fun _ => ih.bind fun _ => preserves_pure _

/-- A property of a part of the state is preserved by a change that keeps the part. -/
theorem Keeps.preserves {τ : Type} {part : σ → τ} {c : Change σ α} (hc : Keeps part c) (Q : τ → Prop) :
    Preserves (fun s => Q (part s)) c := by
  intro s hs
  rw [hc s]
  exact hs

end Preserves

end Change

end Docsmith

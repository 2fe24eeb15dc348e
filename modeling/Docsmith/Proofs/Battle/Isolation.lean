import Docsmith.Proofs.Battle.Notebook
import Docsmith.Proofs.Battle.Reachable

/-!
# Creatures that a turn leaves alone

A turn concerns the creatures on the other side of its attacks.  The others keep what is known of them, and this has to
be shown for a notebook, where lists are shared and changed in place.  `Mirrors` relates a change of a notebook to the
same change of a tracker: from a notebook that is `Steady`, both come to the same outcome, the tracker is what the
notebook says, and the notebook is steady again.  This is carried from one step to the next by `Mirrors.bind`, from
attack to attack by `learnEvents_ends` and from call to call by `Together.steady`.
-/

namespace Docsmith.Battle

/-- The creature on the other side is not one of those to be kept. -/
def Strike.Spares (K : String → Prop) (s : Strike) : Prop := ∀ key, s.foe = .ok key → ¬K key

private theorem Strike.Spares.not_kept {K : String → Prop} {mine me event attacker name : Value} {key : String}
    (h : (⟨mine, me, event⟩ : Strike).Spares K) (hattacker : event.field "attacker" = .ok attacker)
    (hname : event.field (if attacker.same me then "def_poke" else "atk_poke") = .ok name)
    (hkey : name.keyName = .ok key) : ¬K key := by
  refine h key ?_
  rw [Strike.foe, Strike.isMine_eq hattacker, hname]
  exact hkey

namespace Notebook

variable {α β : Type} {P P' E : Notebook → Prop}

/-- Two changes come to the same outcome, and the tracker is what the notebook says. -/
inductive Ends (Q : α → Notebook → Prop) (E : Notebook → Prop) : Outcome α × Notebook → Outcome α × Tracker → Prop
  | ok {a : α} {n : Notebook} (h : Q a n) : Ends Q E (.ok a, n) (.ok a, n.view)
  | error {fault : Fault} {n : Notebook} (h : E n) : Ends Q E (.error fault, n) (.error fault, n.view)

private theorem Ends.eq {Q : α → Notebook → Prop} {x : Outcome α × Notebook} {y : Outcome α × Tracker}
    (h : Ends Q E x y) :
    y = (x.1, x.2.view) := by
  cases h <;> rfl

private theorem Ends.after {x : Outcome α × Notebook} {y : Outcome α × Tracker} (h : Ends (fun _ => E) E x y) :
    E x.2 := by
  cases h with
  | ok h => exact h
  | error h => exact h

/-- From a notebook with `P` and from what it says, two changes end alike: with `Q` if they succeed, else with `E`. -/
def Mirrors (P : Notebook → Prop) (c : Change Notebook α) (d : Change Tracker α) (Q : α → Notebook → Prop)
    (E : Notebook → Prop) : Prop :=
  ∀ n, P n → Ends Q E (c.apply n) (d.apply n.view)

/-- From a steady notebook and from what it says, two changes end alike, and the notebook is steady again. -/
abbrev Follows (K : String → Prop) (old : Notebook) (c : Change Notebook α) (d : Change Tracker α) : Prop :=
  Mirrors (Steady K old) c d (fun _ => Steady K old) (Steady K old)

section Mirrors

variable {c : Change Notebook α} {d : Change Tracker α} {Q : α → Notebook → Prop} {R : β → Notebook → Prop}

private theorem mirrors_pure {a : α} (h : ∀ n, P n → Q a n) :
    Mirrors P (pure a) (pure a) Q E := fun n hn => .ok (h n hn)

private theorem mirrors_throw {fault : Fault} (h : ∀ n, P n → E n) : Mirrors P (throw fault) (throw fault) Q E :=
  fun n hn => .error (h n hn)

private theorem mirrors_modify {f : Notebook → Notebook} {g : Tracker → Tracker} {Q : PUnit → Notebook → Prop}
    (h : ∀ n, P n → (f n).view = g n.view ∧ Q ⟨⟩ (f n)) : Mirrors P (modify f) (modify g) Q E := by
  intro n hn
  obtain ⟨hview, hQ⟩ := h n hn
  rw [Change.apply_modify, Change.apply_modify, ← hview]
  exact .ok hQ

private theorem Mirrors.bind {f : α → Change Notebook β} {g : α → Change Tracker β} (hc : Mirrors P c d Q E)
    (hf : ∀ a, Mirrors (Q a) (f a) (g a) R E) : Mirrors P (c >>= f) (d >>= g) R E := by
  intro n hn
  have hends := hc n hn
  rw [Change.apply_bind, Change.apply_bind]
  generalize c.apply n = x, d.apply n.view = y at hends ⊢
  cases hends with
  | ok h => exact hf _ _ h
  | error h => exact .error h

private theorem Mirrors.mono (h : Mirrors P c d Q E) (hP : ∀ n, P' n → P n) : Mirrors P' c d Q E :=
  fun n hn => h n (hP n hn)

private theorem mirrors_of_and {φ : Prop} (h : φ → Mirrors P c d Q E) : Mirrors (fun n => φ ∧ P n) c d Q E :=
  fun n hn => h hn.1 n hn.2

private theorem mirrors_liftM {o : Outcome α} (hE : ∀ n, P n → E n) (hQ : ∀ a n, P n → Q a n) :
    Mirrors P (liftM o) (liftM o) Q E := by
  intro n hn
  rw [Change.apply_liftM, Change.apply_liftM]
  cases o with
  | ok a => exact .ok (hQ a n hn)
  | error fault => exact .error (hE n hn)

private theorem mirrors_liftM_bind {o : Outcome α} {f : α → Change Notebook β} {g : α → Change Tracker β}
    (hE : ∀ n, P n → E n) (hf : ∀ a, o = .ok a → Mirrors P (f a) (g a) R E) :
    Mirrors P ((liftM o : Change Notebook α) >>= f) ((liftM o : Change Tracker α) >>= g) R E := by
  intro n hn
  rw [Change.apply_bind, Change.apply_bind, Change.apply_liftM, Change.apply_liftM]
  cases o with
  | ok a => exact hf a rfl n hn
  | error fault => exact .error (hE n hn)

/-- The state may be read where only what holds of it matters. -/
private theorem mirrors_read {f : Notebook → Change Notebook β} {g : Tracker → Change Tracker β}
    (h : ∀ m, Mirrors P (f m) (g m.view) R E) : Mirrors P (get >>= f) (get >>= g) R E :=
  fun n hn => h n n hn

private theorem mirrors_get_bind {f : Notebook → Change Notebook β} {g : Tracker → Change Tracker β}
    (h : ∀ m, P m → Mirrors (· = m) (f m) (g m.view) R E) :
    Mirrors P (get >>= f) (get >>= g) R E :=
  fun n hn => h n hn n rfl

private theorem Mirrors.ite {b : Prop} [Decidable b] {c' : Change Notebook α} {d' : Change Tracker α}
    (hc : b → Mirrors P c d Q E) (hc' : ¬b → Mirrors P c' d' Q E) :
    Mirrors P (if b then c else c') (if b then d else d') Q E := by
  split
  · next hb => exact hc hb
  · next hb => exact hc' hb

end Mirrors

variable {K : String → Prop} {old : Notebook} {p stat : String}

section known

variable {σ : Type} [Store σ] {s : σ}

private theorem apply_known_of_some {vs : List Value} (h : ((Store.view s).knowledge p).get? stat = some vs) :
    (Tracker.known p stat).apply s = (.ok vs, s) := by
  rw [Tracker.known, Change.get_bind_apply, h]
  rfl

private theorem apply_known_of_none (h : ((Store.view s).knowledge p).get? stat = none) :
    (Tracker.known p stat).apply s = (.error (.missingKey (.text stat)), s) := by
  rw [Tracker.known, Change.get_bind_apply, h]
  rfl

end known

private theorem mirrors_known (hE : ∀ n, P n → (n.sheets p).get? stat = none → E n) :
    Mirrors P (Tracker.known p stat) (Tracker.known p stat)
      (fun vs n => P n ∧ ((n.sheets p).get? stat).map Sheet.values = some vs) E := by
  intro n hn
  cases hget : ((n.sheets p).get? stat).map Sheet.values with
  | none =>
    have hview : (n.view.knowledge p).get? stat = none := (get?_view n p stat).trans hget
    rw [apply_known_of_none (s := n) hview, apply_known_of_none (s := n.view) hview]
    exact .error (hE n hn (Option.map_eq_none_iff.1 hget))
  | some vs =>
    have hview : (n.view.knowledge p).get? stat = some vs := (get?_view n p stat).trans hget
    rw [apply_known_of_some (s := n) hview, apply_known_of_some (s := n.view) hview]
    exact .ok ⟨hn, hget⟩

/-- Where room is made for a creature that need not be kept, the others are kept. -/
private theorem mirrors_ensureKnowledge {name : Value} (hname : ∀ key, name.keyName = .ok key → ¬K key) :
    Mirrors (Steady K old) (Tracker.ensureKnowledge name) (Tracker.ensureKnowledge name)
      (fun key n => name.keyName = .ok key ∧ Steady K old n) (Steady K old) := by
  refine mirrors_liftM_bind (fun _ h => h) fun key hkey => mirrors_get_bind fun m hm => ?_
  refine Mirrors.ite (fun hhas => ?_) (fun _ => ?_)
  · have hnone : m.investment.has key = false := by
      rw [← has_view]
      exact (Bool.not_eq_true' _).mp hhas
    refine Mirrors.bind (Q := fun _ => Steady K old) (mirrors_modify ?_) fun _ => mirrors_pure fun n hn => ⟨hkey, hn⟩
    rintro n rfl
    exact ⟨view_put key [] n, hm.room (hname key hkey) hnone⟩
  · exact mirrors_pure fun n hn => ⟨hkey, hn ▸ hm⟩

private theorem Steady.points_own {n : Notebook} (h : Steady K old n) {physical : Bool}
    (hnone : ((n.view.knowledge p).has (defenceName physical)) = false) : n.Own p "hp" := by
  refine h.guarded p physical ?_
  rw [Fields.has, Option.isSome_eq_false_iff, Option.isNone_iff_eq_none] at hnone
  rw [Tracker.possible, hnone, Option.getD_none]

private theorem mirrors_allowedDefences {name : Value} (hname : ∀ key, name.keyName = .ok key → ¬K key)
    (physical : Bool) (damage results combinations : Value) :
    Follows K old (Tracker.allowedDefences name (.text (defenceName physical)) damage results combinations)
      (Tracker.allowedDefences name (.text (defenceName physical)) damage results combinations) := by
  refine mirrors_liftM_bind (fun _ h => h) fun count _ => (mirrors_ensureKnowledge hname).bind fun key => ?_
  refine mirrors_liftM_bind (fun _ h => h.2) fun statKey hstatKey => ?_
  rw [Value.keyName_text, Except.ok.injEq] at hstatKey
  subst hstatKey
  refine mirrors_get_bind fun m hm => ?_
  obtain ⟨hkey, hm⟩ := hm
  have hp := hname key hkey
  refine Mirrors.ite (fun hhas => ?_) (fun _ => ?_)
  · have hown : m.Own key "hp" := hm.points_own ((Bool.not_eq_true' _).mp hhas)
    refine Mirrors.bind (Q := fun _ n => Steady K old n ∧ n.Own key "hp") (mirrors_modify ?_) fun _ => ?_
    · rintro n rfl
      exact ⟨view_assign _ _ _ _, hm.assign hp [] (.inl hown), hown.write _ _ _ _⟩
    refine Mirrors.bind (Q := fun _ => Steady K old) (mirrors_modify ?_) fun _ => ?_
    · rintro n ⟨hn, hown⟩
      exact ⟨view_assign _ _ _ _, hn.assign hp [] (.inl hown)⟩
    · exact mirrors_liftM (fun _ h => h) fun _ _ h => h
  · exact mirrors_liftM (fun _ h => h ▸ hm) fun _ _ h => h ▸ hm

private theorem mirrors_allowedAttacks {name : Value} (hname : ∀ key, name.keyName = .ok key → ¬K key)
    (hstat : ∀ physical, stat ≠ defenceName physical) (damage results combinations : Value) :
    Follows K old (Tracker.allowedAttacks name (.text stat) damage results combinations)
      (Tracker.allowedAttacks name (.text stat) damage results combinations) := by
  refine mirrors_liftM_bind (fun _ h => h) fun count _ => (mirrors_ensureKnowledge hname).bind fun key => ?_
  refine mirrors_liftM_bind (fun _ h => h.2) fun statKey hstatKey => ?_
  rw [Value.keyName_text, Except.ok.injEq] at hstatKey
  subst hstatKey
  refine mirrors_read fun m => Mirrors.ite (fun _ => ?_) (fun _ => ?_)
  · refine Mirrors.bind (Q := fun _ => Steady K old) (mirrors_modify ?_) fun _ => ?_
    · rintro n ⟨hkey, hn⟩
      exact ⟨view_assign _ _ _ _, hn.assign (hname key hkey) [] (.inr hstat)⟩
    · exact mirrors_liftM (fun _ h => h) fun _ _ h => h
  · exact mirrors_liftM (fun _ h => h.2) fun _ _ h => h.2

private theorem mirrors_keepKnown (hE : ∀ n, P n → (n.sheets p).get? stat = none → E n) (vs : List Value) :
    Mirrors P (Tracker.keepKnown p stat vs) (Tracker.keepKnown p stat vs) (fun _ => P) E := by
  cases vs with
  | nil => exact mirrors_pure fun _ h => h
  | cons v vs => exact (mirrors_known hE).bind fun before => mirrors_pure fun _ h => h.1

/-- Lists of a creature that were written for their places grow in place. -/
private theorem mirrors_addDefences (hp : ¬K p) (ds : List (Value × Value)) :
    Mirrors (fun n => Steady K old n ∧ n.Own p stat ∧ n.Own p "hp") (Tracker.addDefences p stat ds)
      (Tracker.addDefences p stat ds) (fun _ => Steady K old) (Steady K old) := by
  induction ds with
  | nil => exact mirrors_pure fun _ h => h.1
  | cons d ds ih =>
    have hgrow : ∀ s, s = stat ∨ s = "hp" → ∀ (v : Value) {c : Change Notebook Unit} {d : Change Tracker Unit},
        Mirrors (fun n => Steady K old n ∧ n.Own p stat ∧ n.Own p "hp") c d (fun _ => Steady K old) (Steady K old) →
        Mirrors (fun n => Steady K old n ∧ n.Own p stat ∧ n.Own p "hp")
          (Tracker.known p s >>= fun vs => Tracker.changeStat p s (vs ++ [v]) >>= fun _ => c)
          (Tracker.known p s >>= fun vs => Tracker.changeStat p s (vs ++ [v]) >>= fun _ => d)
          (fun _ => Steady K old) (Steady K old) := by
      intro s hs v c d hrest
      refine (mirrors_known fun _ h _ => h.1).bind fun vs => Mirrors.bind (mirrors_modify ?_) fun _ => hrest
      rintro n ⟨⟨hn, hstat, hpoints⟩, hget⟩
      have hown : n.Own p s := by
        rcases hs with rfl | rfl
        · exact hstat
        · exact hpoints
      obtain ⟨hview, hn', hkeep⟩ := hn.overwrite hp hown hget (vs ++ [v]) (.inl hpoints)
      exact ⟨hview, hn', hkeep stat hstat, hkeep "hp" hpoints⟩
    exact hgrow stat (.inl rfl) d.1 (hgrow "hp" (.inr rfl) d.2 ih)

/-- Lists of a creature are narrowed by writing new ones. -/
private theorem mirrors_narrowDefences (hp : ¬K p) (ds : List (Value × Value)) :
    Follows K old (Tracker.narrowDefences p stat ds) (Tracker.narrowDefences p stat ds) := by
  refine (mirrors_keepKnown (fun _ h _ => h) _).bind fun vs => ?_
  -- the defence may be empty now, while the list of the hit points may still be one that was dealt out
  refine Mirrors.bind (Q := fun _ n => Keeping K old n ∧ ∀ q, q ≠ p → n.Guarded q) (mirrors_modify ?_) fun _ => ?_
  · intro n hn
    refine ⟨view_assign _ _ _ _, hn.toKeeping.assign hp _ _, fun q hq => (hn.guarded q).congr ?_⟩
    exact sheets_put p q _ n ▸ if_neg hq
  refine (mirrors_keepKnown ?_ _).bind fun points => ?_
  · rintro n ⟨hn, hguarded⟩ hnone
    refine ⟨hn, fun q => ?_⟩
    by_cases hq : q = p
    · subst hq
      intro _ _ sheet hget
      rw [hnone] at hget
      cases hget
    · exact hguarded q hq
  refine Mirrors.bind (Q := fun _ n => Steady K old n ∧ n.Own p "hp") (mirrors_modify ?_) fun _ => ?_
  · rintro n ⟨hn, hguarded⟩
    exact ⟨view_assign _ _ _ _, ⟨hn.assign hp _ _, guarded_write hguarded (.inr rfl)⟩, own_write_self _ _ _ _ _⟩
  refine (mirrors_known fun _ h _ => h.1).bind fun vs => ?_
  refine Mirrors.bind (Q := fun _ n => Steady K old n ∧ n.Own p "hp") (mirrors_modify ?_) fun _ => ?_
  · rintro n ⟨⟨hn, hown⟩, -⟩
    exact ⟨view_assign _ _ _ _, hn.assign hp _ (.inl hown), hown.write _ _ _ _⟩
  refine (mirrors_known fun _ h _ => h.1).bind fun points => mirrors_modify ?_
  rintro n ⟨⟨hn, hown⟩, -⟩
  exact ⟨view_assign _ _ _ _, hn.assign hp _ (.inl hown)⟩

private theorem mirrors_learnAttacking {event : Value}
    (hfoe : ∀ name key, event.field "def_poke" = .ok name → name.keyName = .ok key → ¬K key)
    (results combinations : Value) :
    Follows K old (Tracker.learnAttacking event results combinations)
      (Tracker.learnAttacking event results combinations) := by
  refine mirrors_liftM_bind (fun _ h => h) fun move _ => mirrors_liftM_bind (fun _ h => h) fun damage _ => ?_
  refine mirrors_liftM_bind (fun _ h => h) fun category _ => mirrors_liftM_bind (fun _ h => h) fun name hname => ?_
  refine (mirrors_allowedDefences (hfoe name · hname) (category.isText "Physical") damage results combinations).bind
    fun ways => ?_
  refine mirrors_liftM_bind (fun _ h => h) fun key hkey => (mirrors_known fun _ h _ => h).bind fun vs => ?_
  have hp := hfoe name key hname hkey
  refine Mirrors.ite (fun hempty => ?_) (fun _ => ?_)
  · refine (mirrors_addDefences hp _).mono ?_
    rintro n ⟨hn, hget⟩
    have hnothing : n.view.possible key (defenceName (category.isText "Physical")) = [] := by
      rw [possible_view]
      exact hget ▸ List.isEmpty_iff.1 hempty
    exact ⟨hn, hn.tidy.filled key _ hnothing, hn.guarded key _ hnothing⟩
  · exact (mirrors_narrowDefences hp _).mono fun _ h => h.1

private theorem mirrors_learnDefending {event : Value}
    (hfoe : ∀ name key, event.field "atk_poke" = .ok name → name.keyName = .ok key → ¬K key)
    (results combinations : Value) :
    Follows K old (Tracker.learnDefending event results combinations)
      (Tracker.learnDefending event results combinations) := by
  refine mirrors_liftM_bind (fun _ h => h) fun move _ => mirrors_liftM_bind (fun _ h => h) fun damage _ => ?_
  refine mirrors_liftM_bind (fun _ h => h) fun category _ => mirrors_liftM_bind (fun _ h => h) fun name hname => ?_
  have hstat : ∀ physical, (if category.isText "Physical" then "atk" else "spa") ≠ defenceName physical := by
    intro physical
    cases physical <;> split <;> decide
  refine (mirrors_allowedAttacks (hfoe name · hname) hstat damage results combinations).bind fun ways => ?_
  refine mirrors_liftM_bind (fun _ h => h) fun key hkey => (mirrors_known fun _ h _ => h).bind fun vs => ?_
  have hlast : ∀ vs, Follows K old
      (Tracker.setStat key (if category.isText "Physical" then "atk" else "spa") vs)
      (Tracker.setStat key (if category.isText "Physical" then "atk" else "spa") vs) := fun vs =>
    mirrors_modify fun n hn => ⟨view_assign _ _ _ _, hn.assign (hfoe name key hname hkey) vs (.inr hstat)⟩
  refine Mirrors.ite (fun _ => ?_) (fun _ => ?_)
  · exact (hlast (Tracker.orAll ways Investment.all)).mono fun _ h => h.1
  · refine ((mirrors_keepKnown (fun _ h _ => h) ways).mono fun _ h => h.1).bind fun left => ?_
    exact hlast (Tracker.orAll left Investment.all)

private theorem speed_ne_defenceName (physical : Bool) : "spe" ≠ defenceName physical := by
  cases physical <;> decide

private theorem mirrors_ensureSpeed (rules : Rules) {name : Value} (hname : ∀ key, name.keyName = .ok key → ¬K key) :
    Mirrors (Steady K old) (Tracker.ensureSpeed rules name) (Tracker.ensureSpeed rules name)
      (fun key n => name.keyName = .ok key ∧ Steady K old n) (Steady K old) := by
  refine (mirrors_ensureKnowledge hname).bind fun key => mirrors_read fun m => ?_
  refine Mirrors.ite (fun _ => ?_) (fun _ => mirrors_pure fun _ h => h)
  refine mirrors_liftM_bind (fun _ h => h.2) fun least _ => mirrors_liftM_bind (fun _ h => h.2) fun greatest _ => ?_
  refine Mirrors.bind (Q := fun _ n => name.keyName = .ok key ∧ Steady K old n) (mirrors_modify ?_)
    fun _ => mirrors_pure fun _ h => h
  rintro n ⟨hkey, hn⟩
  exact ⟨view_assign _ _ _ _, hkey, hn.assign (hname key hkey) _ (.inr speed_ne_defenceName)⟩

private theorem mirrors_speedEnd (key : String) (i : Nat) :
    Follows K old (Tracker.speedEnd key i) (Tracker.speedEnd key i) := by
  refine (mirrors_known fun _ h _ => h).bind fun vs => ?_
  cases vs[i]? with
  | none => exact mirrors_throw fun _ h => h.1
  | some v => exact mirrors_pure fun _ h => h.1

private theorem mirrors_setSpeedEnd (hp : ¬K p) (i : Nat) (v : Value) :
    Follows K old (Tracker.setSpeedEnd p i v) (Tracker.setSpeedEnd p i v) := by
  refine (mirrors_known fun _ h _ => h).bind fun vs => mirrors_modify ?_
  rintro n ⟨hn, hget⟩
  obtain ⟨hview, hn', -⟩ := hn.overwrite hp (hn.tidy.speed p) hget (vs.set i v) (.inr speed_ne_defenceName)
  exact ⟨hview, hn'⟩

private theorem mirrors_learnSpeed (rules : Rules) {turn mine me : Value}
    (hspares : ∀ first, turn.item (.int 0) = .ok first → (⟨mine, me, first⟩ : Strike).Spares K) :
    Follows K old (Tracker.learnSpeed rules turn me) (Tracker.learnSpeed rules turn me) := by
  -- one end of the range is compared with the player's speed and perhaps replaced
  have hend : ∀ {key : String} (_ : ¬K key) (i : Nat) (isNarrower : Value → Value → Outcome Bool),
      Follows K old
        (do
          let bound ← Tracker.speedEnd key i
          let speed ← (Store.view (← get)).speed
          if ← isNarrower speed bound then Tracker.setSpeedEnd key i speed)
        (do
          let bound ← Tracker.speedEnd key i
          let speed ← (Store.view (← get)).speed
          if ← isNarrower speed bound then Tracker.setSpeedEnd key i speed) := by
    intro key hp i isNarrower
    refine (mirrors_speedEnd key i).bind fun bound => mirrors_read fun m => ?_
    refine mirrors_liftM_bind (fun _ h => h) fun speed _ => mirrors_liftM_bind (fun _ h => h) fun narrower _ => ?_
    exact Mirrors.ite (fun _ => mirrors_setSpeedEnd hp i speed) (fun _ => mirrors_pure fun _ h => h)
  refine mirrors_liftM_bind (fun _ h => h) fun priority _ => mirrors_liftM_bind (fun _ h => h) fun other _ => ?_
  refine Mirrors.ite (fun _ => mirrors_pure fun _ h => h) (fun _ => ?_)
  refine mirrors_liftM_bind (fun _ h => h) fun first hfirst => ?_
  refine mirrors_liftM_bind (fun _ h => h) fun striker hstriker => ?_
  refine mirrors_liftM_bind (fun _ h => h) fun attacker hattacker => ?_
  refine Mirrors.ite (fun hme => ?_) (fun hme => ?_)
  · refine mirrors_liftM_bind (fun _ h => h) fun name hname => ?_
    have hp : ∀ key, name.keyName = .ok key → ¬K key := fun key =>
      (hspares first hfirst).not_kept hattacker (by rw [if_pos hme, hname])
    refine (mirrors_ensureSpeed rules hp).bind fun key => mirrors_of_and fun hkey => ?_
    exact Mirrors.ite (fun _ => hend (hp key hkey) 1 Value.lt)
      (fun _ => hend (hp key hkey) 0 fun speed bound => bound.lt speed)
  · have hp : ∀ key, striker.keyName = .ok key → ¬K key := fun key =>
      (hspares first hfirst).not_kept hattacker (by rw [if_neg hme, hstriker])
    refine (mirrors_ensureSpeed rules hp).bind fun key => mirrors_of_and fun hkey => ?_
    exact Mirrors.ite (fun _ => hend (hp key hkey) 1 Value.lt)
      (fun _ => hend (hp key hkey) 0 fun speed bound => bound.lt speed)

/-- Taking note of a move changes no list of investments. -/
private theorem mirrors_learnMove (event : Value) :
    Follows K old (Tracker.learnMove event) (Tracker.learnMove event) := by
  have hlast : ∀ key : String, Follows K old
      (do
        let move ← event.field "move"
        let shown := ((Store.view (← get)).moves.get? key).getD []
        if !(shown.any fun m => m.same move) then
          modify fun s => Store.setMoves ((Store.view s).moves.put key (shown ++ [move])) s)
      (do
        let move ← event.field "move"
        let shown := ((Store.view (← get)).moves.get? key).getD []
        if !(shown.any fun m => m.same move) then
          modify fun s => Store.setMoves ((Store.view s).moves.put key (shown ++ [move])) s) := by
    intro key
    refine mirrors_liftM_bind (fun _ h => h) fun move _ => mirrors_read fun m => ?_
    refine Mirrors.ite (fun _ => mirrors_modify ?_) (fun _ => mirrors_pure fun _ h => h)
    exact fun n hn => ⟨rfl, hn.congr rfl (Nat.le_refl _)⟩
  refine mirrors_read fun m => mirrors_liftM_bind (fun _ h => h) fun active _ => ?_
  refine mirrors_liftM_bind (fun _ h => h) fun name _ => mirrors_liftM_bind (fun _ h => h) fun key _ => ?_
  refine mirrors_read fun m' => Mirrors.ite (fun _ => ?_) (fun _ => hlast key)
  refine Mirrors.bind (mirrors_modify ?_) fun _ => hlast key
  exact fun n hn => ⟨rfl, hn.congr rfl (Nat.le_refl _)⟩

private theorem mirrors_learnEvent (rules : Rules) {mine me event : Value}
    (hspares : (⟨mine, me, event⟩ : Strike).Spares K) :
    Follows K old (Tracker.learnEvent rules me event) (Tracker.learnEvent rules me event) := by
  refine mirrors_liftM_bind (fun _ h => h) fun attacker hattacker => mirrors_liftM_bind (fun _ h => h) fun hits _ => ?_
  refine Mirrors.ite (fun hme => ?_) (fun hme => ?_)
  · refine Mirrors.ite (fun _ => ?_) (fun _ => mirrors_pure fun _ h => h)
    refine mirrors_read fun m => mirrors_liftM_bind (fun _ h => h) fun results _ => mirrors_learnAttacking ?_ _ _
    exact fun name key hname => hspares.not_kept hattacker (by rw [if_pos hme, hname])
  · refine Mirrors.ite (fun _ => ?_) (fun _ => mirrors_learnMove event)
    refine mirrors_read fun m => mirrors_liftM_bind (fun _ h => h) fun results _ => ?_
    refine (mirrors_learnDefending ?_ _ _).bind fun _ => mirrors_learnMove event
    exact fun name key hname => hspares.not_kept hattacker (by rw [if_neg hme, hname])

/-! ### A turn -/

private theorem learnEvents_ends (rules : Rules) {mine me : Value} {marked : List (Bool × Value)} {n : Notebook}
    (hn : Steady K old n) (hspares : ∀ e ∈ marked, e.1 = true → (⟨mine, me, e.2⟩ : Strike).Spares K) :
    (Tracker.learnEvents rules me marked n).1 = (Tracker.learnEvents rules me marked n.view).1 ∧
      Ends (fun _ => Steady K old) (Steady K old) (Tracker.learnEvents rules me marked n).2
        (Tracker.learnEvents rules me marked n.view).2 := by
  induction marked generalizing n with
  | nil => exact ⟨rfl, .ok hn⟩
  | cons e marked ih =>
    obtain ⟨mark, event⟩ := e
    obtain ⟨hfirst, hrest⟩ := List.forall_mem_cons.1 hspares
    cases mark with
    | false =>
      obtain ⟨hevents, hends⟩ := ih hn hrest
      simp only [Tracker.learnEvents]
      exact ⟨by rw [hevents], hends⟩
    | true =>
      rcases hreduce : Tracker.reduceCritical.apply event with ⟨fault | _, event'⟩
      · simp only [Tracker.learnEvents, hreduce]
        exact ⟨trivial, .error hn⟩
      have hreduced : (⟨mine, me, event'⟩ : Strike).Spares K := by
        intro key hkey
        refine hfirst rfl key ?_
        rw [← Tracker.foe_reduceCritical, hreduce]
        exact hkey
      have hends := mirrors_learnEvent rules hreduced n hn
      simp only [Tracker.learnEvents, hreduce]
      generalize (Tracker.learnEvent rules me event').apply n = x,
        (Tracker.learnEvent rules me event').apply n.view = y at hends ⊢
      cases hends with
      | error h => exact ⟨rfl, .error h⟩
      | ok h =>
        obtain ⟨hevents, hends⟩ := ih h hrest
        exact ⟨by simp only [hevents], hends⟩

private theorem mirrors_learnOrder (rules : Rules) {mine me : Value} {attacks : List Value}
    (hspares : ∀ e ∈ attacks, (⟨mine, me, e⟩ : Strike).Spares K) :
    Follows K old (Tracker.learnOrder rules me attacks) (Tracker.learnOrder rules me attacks) := by
  refine mirrors_liftM_bind (fun _ h => h) fun switched _ => ?_
  refine Mirrors.ite (fun htwo => ?_) (fun _ => mirrors_pure fun _ h => h)
  have hlength : attacks.length = 2 := by
    simp only [Bool.and_eq_true, beq_iff_eq] at htwo
    exact htwo.1
  have hfirst : ∀ first, (Value.list attacks).item (.int 0) = .ok first → (⟨mine, me, first⟩ : Strike).Spares K := by
    intro first hitem
    match attacks, hlength with
    | [e, e'], _ =>
      cases hitem
      exact hspares first List.mem_cons_self
  exact mirrors_learnSpeed rules hfirst

/-- The attacks that are returned have the same creatures on the other side. -/
private theorem spares_returned {rules : Rules} {mine me : Value} {marked : List (Bool × Value)} {events : List Value}
    {t t' : Tracker} (hspares : ∀ e ∈ marked, e.1 = true → (⟨mine, me, e.2⟩ : Strike).Spares K)
    (h : Tracker.learnEvents rules me marked t = (events, .ok (), t')) :
    ∀ e ∈ Tracker.attacksOf (marked.map (·.1)) events, (⟨mine, me, e⟩ : Strike).Spares K := by
  intro e he
  rw [Tracker.attacksOf_learnEvents h] at he
  obtain ⟨m, hm, rfl⟩ := List.mem_map.1 he
  obtain ⟨hmem, hmark⟩ := List.mem_filter.1 hm
  intro key hkey
  rw [Tracker.foe_reduceCritical] at hkey
  exact hspares m hmem hmark key hkey

/-- A turn teaches the notebook what it teaches the tracker, and the notebook keeps the creatures not concerned. -/
private theorem learnTurn_ends (rules : Rules) {mine me turn : Value} {n : Notebook} (hn : Steady K old n)
    (hspares : ∀ e ∈ attacksIn turn, (⟨mine, me, e⟩ : Strike).Spares K) :
    (Tracker.readTurn rules me turn n).1 = (Tracker.readTurn rules me turn n.view).1 ∧
      Ends (fun _ => Steady K old) (Steady K old) (Tracker.readTurn rules me turn n).2
        (Tracker.readTurn rules me turn n.view).2 := by
  unfold Tracker.readTurn
  rcases helements : turn.elements with fault | events
  · exact ⟨rfl, .error hn⟩
  rcases hmarks : events.mapM Tracker.isAttack with fault | marks
  · simp only [hmarks, Except.bind, Except.map]
    exact ⟨trivial, .error hn⟩
  have hattacks : ∀ e ∈ marks.zip events, e.1 = true → (⟨mine, me, e.2⟩ : Strike).Spares K := by
    intro e he hmark
    apply hspares
    rw [attacksIn, helements]
    simp only [← Tracker.filter_marks hmarks]
    exact List.mem_map_of_mem (List.mem_filter.2 ⟨he, hmark⟩)
  have hevents := learnEvents_ends rules hn hattacks
  simp only [hmarks, Except.bind, Except.map]
  rcases hshared : Tracker.learnEvents rules me (marks.zip events) n with ⟨es, x⟩
  rcases hplain : Tracker.learnEvents rules me (marks.zip events) n.view with ⟨es', y⟩
  rw [hshared, hplain] at hevents
  obtain ⟨rfl, hends⟩ := hevents
  cases hends with
  | error h => exact ⟨rfl, .error h⟩
  | ok h =>
    have hreturned := spares_returned hattacks hplain
    rw [List.map_fst_zip (Nat.le_of_eq (Outcome.length_of_mapM hmarks))] at hreturned
    exact ⟨rfl, mirrors_learnOrder rules hreturned _ h⟩

/-! ### Calls -/

private theorem mirrors_forM {α : Type} {f : α → Change Notebook Unit} {g : α → Change Tracker Unit} {as : List α}
    (h : ∀ a, Mirrors P (f a) (g a) (fun _ => P) E) :
    Mirrors P (as.forM f) (as.forM g) (fun _ => P) E := by
  induction as with
  | nil => exact mirrors_pure fun _ h => h
  | cons a as ih => exact (h a).bind fun _ => ih

private theorem mirrors_initialiseOne (rules : Rules) (number : Nat) (creature : Value) (hK : ∀ p, ¬K p) :
    Follows K old (Tracker.initialiseOne rules number creature) (Tracker.initialiseOne rules () creature) := by
  refine mirrors_liftM_bind (fun _ h => h) fun name _ => mirrors_liftM_bind (fun _ h => h) fun key _ => ?_
  refine Mirrors.bind (Q := fun _ => Steady K old) (mirrors_modify ?_) fun _ => ?_
  · intro n hn
    exact ⟨view_put key (dealt number) n, hn.deal (hK key) number⟩
  refine mirrors_liftM_bind (fun _ h => h) fun range _ => mirrors_modify ?_
  intro n hn
  exact ⟨view_assign _ _ _ _, hn.assign (hK key) _ (.inr speed_ne_defenceName)⟩

private theorem mirrors_initialise (rules : Rules) (team active : Value) (hK : ∀ p, ¬K p) :
    Follows K old (Tracker.initialise rules team active) (Tracker.initialise rules team active) := by
  intro n hn
  have hbody : Follows K old
      (Tracker.initialiseOne rules n.next active >>= fun _ => liftM team.elements >>= fun es =>
        es.forM (Tracker.initialiseOne rules n.next))
      (Tracker.initialiseOne rules () active >>= fun _ => liftM team.elements >>= fun es =>
        es.forM (Tracker.initialiseOne rules ())) :=
    (mirrors_initialiseOne rules n.next active hK).bind fun _ => mirrors_liftM_bind (fun _ h => h) fun es _ =>
      mirrors_forM fun creature => mirrors_initialiseOne rules n.next creature hK
  exact hbody { n with next := n.next + 1 } (hn.congr rfl (Nat.le_succ _))

/-- A call does the same to a notebook and to what it says. -/
private theorem mirrors_perform (rules : Rules) (call : Call) (hK : ∀ p, ¬K p) :
    Follows K old (call.perform rules) (call.perform rules) := by
  intro n hn
  cases call with
  | reset => exact .ok ⟨⟨tidy_start, fun q hq => absurd hq (hK q)⟩, guarded_start⟩
  | update mine theirs => exact .ok (hn.congr rfl (Nat.le_refl _))
  | initialise team active => exact mirrors_initialise rules team active hK n hn
  | learn me turn =>
    have hspares : ∀ e ∈ attacksIn turn, (⟨n.mine, me, e⟩ : Strike).Spares K := fun e _ key _ => hK key
    exact (learnTurn_ends rules hn hspares).2

end Notebook

open Notebook

/-- A notebook and a tracker after the same calls; what a call did before it failed stays. -/
inductive Together (rules : Rules) : Notebook → Tracker → Prop
  | start : Together rules Notebook.start Tracker.start
  | call {n : Notebook} {t : Tracker} (call : Call) (h : Together rules n t) :
    Together rules ((call.perform rules).apply n).2 ((call.perform rules).apply t).2

variable {rules : Rules} {n : Notebook} {t : Tracker}

private theorem Reachable.together (h : Reachable rules t) : ∃ n, Together rules n t := by
  induction h with
  | start => exact ⟨_, .start⟩
  | call call _ ih =>
    obtain ⟨n, hn⟩ := ih
    exact ⟨_, hn.call call⟩

/-- The tracker is what the notebook says, and only what may be shared is. -/
private theorem Together.steady (h : Together rules n t) : t = n.view ∧ Steady (fun _ => False) Notebook.start n := by
  induction h with
  | start => exact ⟨rfl, ⟨tidy_start, fun _ h => h.elim⟩, guarded_start⟩
  | call call _ ih =>
    obtain ⟨rfl, hn⟩ := ih
    have hends := mirrors_perform rules call (fun _ h => h) _ hn
    exact ⟨by rw [hends.eq], hends.after⟩

/-- What a turn teaches the tracker it teaches the notebook, and a creature that is on the other side of none of its
attacks keeps its lists. -/
private theorem Together.learnTurn (h : Together rules n t) {me turn : Value} {q : String}
    (hq : ∀ e ∈ attacksIn turn, (⟨t.mine, me, e⟩ : Strike).foe ≠ .ok q) :
    ∃ turn' outcome n', Tracker.readTurn rules me turn n = (turn', outcome, n') ∧
      Tracker.learnTurn rules me turn t = (turn', outcome, n'.view) ∧
      n'.investment.get? q = n.investment.get? q := by
  obtain ⟨rfl, hsteady⟩ := h.steady
  have hspares : ∀ e ∈ attacksIn turn, (⟨n.mine, me, e⟩ : Strike).Spares (· = q) := by
    rintro e he key hkey rfl
    exact hq e he hkey
  have hrenewed : Steady (· = q) n n := hsteady.renew
  obtain ⟨hturn, hends⟩ := learnTurn_ends rules hrenewed hspares
  exact ⟨_, _, _, rfl, Prod.ext hturn.symm hends.eq, hends.after.kept q rfl⟩

/-- A turn leaves alone what is known of a creature that is on the other side of none of its attacks, whether it is
learned from to the end or not.  This is so although lists are shared among creatures and changed in place: a notebook
that has seen the same calls comes to the same outcome and says the same, and the creature keeps its lists, with their
labels and what is in them. -/
theorem others_left_alone (ht : Reachable rules t) (me turn : Value) {q : String}
    (hq : ∀ e ∈ attacksIn turn, (⟨t.mine, me, e⟩ : Strike).foe ≠ .ok q) :
    (Tracker.learnTurn rules me turn t).2.2.investment.get? q = t.investment.get? q ∧
    (∃ n, Together rules n t) ∧
    ∀ n, Together rules n t → ∃ turn' outcome n', Tracker.readTurn rules me turn n = (turn', outcome, n') ∧
      Tracker.learnTurn rules me turn t = (turn', outcome, n'.view) ∧
      n'.investment.get? q = n.investment.get? q := by
  obtain ⟨n, hn⟩ := ht.together
  refine ⟨?_, ⟨n, hn⟩, fun m hm => hm.learnTurn hq⟩
  obtain ⟨turn', outcome, n', -, hlearn, hkept⟩ := hn.learnTurn hq
  obtain ⟨rfl, -⟩ := hn.steady
  rw [hlearn, get?_investment_view, get?_investment_view, hkept]

namespace Sample

/-- The positions, before the battle. -/
def greeting : Call := .update position (.record [("active", foe)])

/-- The opponent has a second creature. -/
def meeting : Call := .initialise (.list [.record [("name", .text "spinda")]]) foe

/-- An attack from each side, the player's first. -/
def exchange : Value := .list [mine true 48 false, theirs 60 false]

/-- The tracker for which everything is possible for both creatures. -/
def opened : Tracker :=
  ((meeting.perform Rules.standard).apply ((greeting.perform Rules.standard).apply Tracker.start).2).2

/-- The notebook in which everything is possible for both creatures. -/
def openedNotes : Notebook :=
  ((meeting.perform Rules.standard).apply ((greeting.perform Rules.standard).apply Notebook.start).2).2

end Sample

/-- Two creatures share their lists; a turn narrows those of one, changes the range of its speed in place, and leaves
the other alone. -/
theorem sample_others_left_alone :
    Reachable Rules.standard Sample.opened ∧ Together Rules.standard Sample.openedNotes Sample.opened ∧
    (∀ e ∈ attacksIn Sample.exchange, (⟨Sample.opened.mine, .text "me", e⟩ : Strike).foe ≠ .ok "spinda") ∧
    (Tracker.learnTurn Rules.standard (.text "me") Sample.exchange Sample.opened).2.2.investment.get? "spinda" =
      Sample.opened.investment.get? "spinda" ∧
    (∀ p ∈ ["floatzel", "spinda"],
      ((Sample.openedNotes.sheets p).get? "def").map (·.label) = some (.dealt 0 "def")) ∧
    ∃ turn' n', Tracker.readTurn Rules.standard (.text "me") Sample.exchange Sample.openedNotes = (turn', .ok (), n') ∧
      (((n'.sheets "floatzel").get? "def").map (·.values.length) = some 3) ∧
      n'.investment.get? "spinda" = Sample.openedNotes.investment.get? "spinda" := by
  have hreachable : Reachable Rules.standard Sample.opened := (Reachable.start.call _).call _
  have htogether : Together Rules.standard Sample.openedNotes Sample.opened := (Together.start.call _).call _
  have hfoes : ∀ e ∈ attacksIn Sample.exchange,
      (⟨Sample.opened.mine, .text "me", e⟩ : Strike).foe.toOption ≠ some "spinda" := by decide +kernel
  have hq : ∀ e ∈ attacksIn Sample.exchange, (⟨Sample.opened.mine, .text "me", e⟩ : Strike).foe ≠ .ok "spinda" := by
    intro e he hfoe
    exact hfoes e he (by rw [hfoe]; rfl)
  have hshared : ∀ p ∈ ["floatzel", "spinda"],
      ((Sample.openedNotes.sheets p).get? "def").map (·.label) = some (.dealt 0 "def") := by decide +kernel
  obtain ⟨hkept, -, hnotes⟩ := others_left_alone hreachable (.text "me") Sample.exchange hq
  obtain ⟨turn', outcome, n', hlearn, -, hsheets⟩ := hnotes _ htogether
  have hok : (Tracker.readTurn Rules.standard (.text "me") Sample.exchange Sample.openedNotes).2.1.isOk = true ∧
      ((((Tracker.readTurn Rules.standard (.text "me") Sample.exchange Sample.openedNotes).2.2.sheets "floatzel").get?
        "def").map (·.values.length) = some 3) := by decide +kernel
  rw [hlearn] at hok
  obtain rfl := Outcome.eq_ok_of_isOk hok.1
  exact ⟨hreachable, htogether, hq, hkept, hshared, turn', n', hlearn, hok.2, hsheets⟩

end Docsmith.Battle

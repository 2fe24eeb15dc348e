import Docsmith.Battle.Creature
import Docsmith.Proofs.Change
import Docsmith.Proofs.Value.Access

/-!
# Training

What `Creature.setStats` does, in two steps: the hit points and the stats follow from the base stats, the effort and
the level (`plainStats`), and a nature changes two of them (`applyNature`).  Together with the name of what was raised
last these are all the attributes that change (`setStats_leaves`), if natures change nothing but stats.  A creature
that `make` gives has been trained once (`make_ok`), and is as it was born in all else (`make_leaves`).
-/

namespace Docsmith.Battle

/-- The codes of the stats with the attributes that hold them. -/
def statNames : List (String × String) :=
  [("atk", "attack"), ("def", "defense"), ("spa", "sp_attack"), ("spd", "sp_defense"), ("spe", "speed")]

/-- The attributes that are computed: the hit points and the stats. -/
def computedNames : List String := "max_hp" :: "current_hp" :: statNames.map (·.2)

namespace Creature

variable {rules : Rules} {s s' : Attributes} {α : Type} {a : α}

theorem attr_put_self (s : Attributes) (name : String) (v : Value) :
    (Value.creature (Fields.put name v s)).attr name = .ok v := by
  simp [Value.attr, Value.attr?]

theorem attr_put_of_ne (s : Attributes) {name other : String} (h : other ≠ name) (v : Value) :
    (Value.creature (Fields.put name v s)).attr other = (Value.creature s).attr other := by
  simp [Value.attr, Value.attr?, h, Value.typeName]

theorem attr_of_get? {name : String} {v : Value} (h : s.get? name = some v) :
    (Value.creature s).attr name = .ok v := by
  simp [Value.attr, Value.attr?, h]

theorem attr_congr {t : Attributes} {name : String} (h : s.get? name = t.get? name) :
    (Value.creature s).attr name = (Value.creature t).attr name := by
  simp [Value.attr, Value.attr?, h, Value.typeName]

private theorem own_bind_eq_ok {name : String} {f : Value → Change Attributes α} :
    (own name >>= f).apply s = (.ok a, s') ↔ ∃ v, (Value.creature s).attr name = .ok v ∧ (f v).apply s = (.ok a, s') :=
  Change.liftM_bind_eq_ok

private theorem assign_bind_eq_ok {name : String} {v : Value} {f : Unit → Change Attributes α} :
    (assign name v >>= f).apply s = (.ok a, s') ↔ (f ()).apply (Fields.put name v s) = (.ok a, s') := by
  rw [Change.apply_bind]
  rfl

private theorem attributeAt_bind_eq_ok {key : Value} {f : String × Value → Change Attributes α} :
    (attributeAt key >>= f).apply s = (.ok a, s') ↔
      ∃ name v, key = .text name ∧ (Value.creature s).attr name = .ok v ∧ (f (name, v)).apply s = (.ok a, s') := by
  rw [Change.bind_eq_ok]
  constructor
  · rintro ⟨⟨name, v⟩, s₁, hkey, hf⟩
    cases key with
    | text key =>
      obtain ⟨w, hw, hkey⟩ := own_bind_eq_ok.1 hkey
      cases hkey
      exact ⟨_, _, rfl, hw, hf⟩
    | _ => cases hkey
  · rintro ⟨name, v, rfl, hv, hf⟩
    exact ⟨_, s, own_bind_eq_ok.2 ⟨v, hv, rfl⟩, hf⟩

/-- A stat that no nature has changed. -/
def statOf (base effort level : Value) (code : String) : Outcome Value := do
  stat (← base.field code) (← effort.getOr (.text code) (.int 0)) level

/-- Stats that no nature has changed, under the names of their attributes. -/
def statsOf (base effort level : Value) (codes : List (String × String)) : Outcome (Fields Value) :=
  codes.mapM fun c => do .ok (c.2, ← statOf base effort level c.1)

/-- The hit points and all stats that no nature has changed. -/
def plainStats (base effort level : Value) : Outcome (Fields Value) := do
  let points ← hitPoints (← base.field "hp") (← effort.getOr (.text "hp") (.int 0)) level
  .ok (("max_hp", points) :: ("current_hp", points) :: (← statsOf base effort level statNames))

/-- What a nature does to the stats. -/
def applyNature (nature : Value) : Change Attributes Unit := do
  let increase ← nature.field "increase"
  match increase with
  | .null => return ()
  | _ =>
    let decrease ← nature.field "decrease"
    let (up, raised) ← attributeAt increase
    let raised ← (← raised.mul (.decimal 11 1)).floor
    let (down, lowered) ← attributeAt decrease
    let lowered ← (← lowered.mul (.decimal 9 1)).floor
    assign "increase_stat" increase
    assign up (.int raised)
    assign down (.int lowered)

private theorem assignStat_eq_ok {base effort level : Value} {code name : String}
    (hlevel : (Value.creature s).attr "level" = .ok level) :
    (assignStat base effort code name).apply s = (.ok (), s') ↔
      ∃ v, statOf base effort level code = .ok v ∧ s' = Fields.put name v s := by
  simp only [assignStat, statOf, Change.liftM_bind_eq_ok, own_bind_eq_ok, Outcome.bind_eq_ok, hlevel, Except.ok.injEq,
    exists_eq_left']
  constructor
  · rintro ⟨b, hb, e, he, v, hv, h⟩
    cases h
    exact ⟨v, ⟨b, hb, e, he, hv⟩, rfl⟩
  · rintro ⟨v, ⟨b, hb, e, he, hv⟩, rfl⟩
    exact ⟨b, hb, e, he, v, hv, rfl⟩

/-- Stats are computed and stored one after the other; none of them is the level. -/
private theorem assignStats_eq_ok {base effort level : Value} {codes : List (String × String)}
    (hcodes : ∀ c ∈ codes, c.2 ≠ "level") (hlevel : (Value.creature s).attr "level" = .ok level) :
    (codes.forM fun c => assignStat base effort c.1 c.2).apply s = (.ok (), s') ↔
      ∃ stats, statsOf base effort level codes = .ok stats ∧ s' = stats.overlay s := by
  induction codes generalizing s with
  | nil =>
    constructor
    · intro h
      cases h
      exact ⟨[], rfl, rfl⟩
    · rintro ⟨_, ⟨⟩, rfl⟩
      rfl
  | cons c codes ih =>
    obtain ⟨hc, hcodes⟩ := List.forall_mem_cons.1 hcodes
    have hnext : ∀ v, (Value.creature (Fields.put c.2 v s)).attr "level" = .ok level := fun v =>
      (attr_put_of_ne s hc.symm v).trans hlevel
    rw [List.forM, Change.bind_eq_ok, statsOf, List.mapM_cons]
    simp only [assignStat_eq_ok hlevel, Outcome.bind_eq_ok]
    constructor
    · rintro ⟨_, _, ⟨v, hv, rfl⟩, h⟩
      obtain ⟨stats, hstats, rfl⟩ := (ih hcodes (hnext v)).1 h
      exact ⟨_, ⟨_, ⟨v, hv, rfl⟩, stats, hstats, rfl⟩, rfl⟩
    · rintro ⟨_, ⟨_, ⟨v, hv, ⟨⟩⟩, stats, hstats, ⟨⟩⟩, rfl⟩
      exact ⟨(), _, ⟨v, hv, rfl⟩, (ih hcodes (hnext v)).2 ⟨stats, hstats, rfl⟩⟩

private theorem setStats_eq (nature effort : Value) :
    setStats rules nature effort = (do
      let base ← own "base_stats"
      let points ← hitPoints (← base.field "hp") (← effort.getOr (.text "hp") (.int 0)) (← own "level")
      assign "max_hp" points
      assign "current_hp" points
      statNames.forM fun c => assignStat base effort c.1 c.2
      applyNature (← Value.lookup rules.natures nature)) := by
  simp only [setStats, statNames, List.forM, bind_assoc, pure_bind]
  rfl

/-- The stats follow from the base stats, the level and the effort, and the nature is applied to them last. -/
theorem setStats_eq_ok {nature effort : Value} :
    (setStats rules nature effort).apply s = (.ok (), s') ↔
      ∃ base level plain entry, (Value.creature s).attr "base_stats" = .ok base ∧
        (Value.creature s).attr "level" = .ok level ∧ plainStats base effort level = .ok plain ∧
        Value.lookup rules.natures nature = .ok entry ∧ (applyNature entry).apply (plain.overlay s) = (.ok (), s') := by
  rw [setStats_eq]
  simp only [Change.liftM_bind_eq_ok, own_bind_eq_ok, assign_bind_eq_ok, plainStats, Outcome.bind_eq_ok,
    Change.bind_eq_ok (c := List.forM _ _)]
  have hnext : ∀ {level points}, (Value.creature s).attr "level" = .ok level →
      (Value.creature (Fields.put "current_hp" points (Fields.put "max_hp" points s))).attr "level" = .ok level := by
    intro level points hlevel
    rw [attr_put_of_ne _ (by decide), attr_put_of_ne _ (by decide), hlevel]
  constructor
  · rintro ⟨base, hbase, hp, hhp, e, he, level, hlevel, points, hpoints, _, _, hassigned, entry, hentry, h⟩
    obtain ⟨stats, hstats, rfl⟩ := (assignStats_eq_ok (by decide) (hnext hlevel)).1 hassigned
    exact ⟨base, level, _, entry, hbase, hlevel, ⟨hp, hhp, e, he, points, hpoints, stats, hstats, rfl⟩, hentry, h⟩
  · rintro ⟨base, level, _, entry, hbase, hlevel, ⟨hp, hhp, e, he, points, hpoints, stats, hstats, ⟨⟩⟩, hentry, h⟩
    exact ⟨base, hbase, hp, hhp, e, he, level, hlevel, points, hpoints, (), _,
      (assignStats_eq_ok (by decide) (hnext hlevel)).2 ⟨stats, hstats, rfl⟩, entry, hentry, h⟩

/-- A nature that changes nothing, or raises and lowers two attributes. -/
theorem applyNature_eq_ok {nature : Value} :
    (applyNature nature).apply s = (.ok (), s') ↔
      (nature.field "increase" = .ok .null ∧ s' = s) ∨
        ∃ up down v w m n, nature.field "increase" = .ok (.text up) ∧ nature.field "decrease" = .ok (.text down) ∧
          (Value.creature s).attr up = .ok v ∧ (v.mul (.decimal 11 1) >>= Value.floor) = .ok m ∧
          (Value.creature s).attr down = .ok w ∧ (w.mul (.decimal 9 1) >>= Value.floor) = .ok n ∧
          s' = Fields.put down (.int n) (Fields.put up (.int m) (Fields.put "increase_stat" (.text up) s)) := by
  simp only [applyNature, Change.liftM_bind_eq_ok]
  constructor
  · rintro ⟨increase, hincrease, h⟩
    split at h
    · cases h
      exact .inl ⟨hincrease, rfl⟩
    · simp only [Change.liftM_bind_eq_ok, attributeAt_bind_eq_ok, assign_bind_eq_ok] at h
      obtain ⟨decrease, hdecrease, up, v, rfl, hv, p, hp, m, hm, down, w, rfl, hw, q, hq, n, hn, h⟩ := h
      cases h
      exact .inr ⟨up, down, v, w, m, n, hincrease, hdecrease, hv, Outcome.bind_eq_ok.2 ⟨p, hp, hm⟩, hw,
        Outcome.bind_eq_ok.2 ⟨q, hq, hn⟩, rfl⟩
  · rintro (⟨hincrease, rfl⟩ | ⟨up, down, v, w, m, n, hincrease, hdecrease, hv, hm, hw, hn, rfl⟩)
    · exact ⟨.null, hincrease, rfl⟩
    · obtain ⟨p, hp, hm⟩ := Outcome.bind_eq_ok.1 hm
      obtain ⟨q, hq, hn⟩ := Outcome.bind_eq_ok.1 hn
      refine ⟨.text up, hincrease, ?_⟩
      simp only [Change.liftM_bind_eq_ok, attributeAt_bind_eq_ok, assign_bind_eq_ok]
      exact ⟨_, hdecrease, up, v, rfl, hv, p, hp, m, hm, down, w, rfl, hw, q, hq, n, hn, rfl⟩

section plain

variable {base effort level : Value} {codes : List (String × String)} {stats plain : Fields Value}

private theorem names_statsOf (h : statsOf base effort level codes = .ok stats) : stats.names = codes.map (·.2) := by
  induction codes generalizing stats with
  | nil =>
    cases h
    rfl
  | cons c codes ih =>
    simp only [statsOf, List.mapM_cons, Outcome.bind_eq_ok] at h
    obtain ⟨_, ⟨v, hv, ⟨⟩⟩, rest, hrest, ⟨⟩⟩ := h
    exact congrArg (c.2 :: ·) (ih hrest)

private theorem get?_statsOf (hnodup : (codes.map (·.2)).Nodup) (h : statsOf base effort level codes = .ok stats)
    {code name : String} (hc : (code, name) ∈ codes) :
    ∃ v, statOf base effort level code = .ok v ∧ stats.get? name = some v := by
  induction codes generalizing stats with
  | nil => cases hc
  | cons c codes ih =>
    simp only [statsOf, List.mapM_cons, Outcome.bind_eq_ok] at h
    obtain ⟨_, ⟨v, hv, ⟨⟩⟩, rest, hrest, ⟨⟩⟩ := h
    obtain ⟨hnot, hnodup⟩ := List.nodup_cons.1 hnodup
    rcases List.mem_cons.1 hc with rfl | hc
    · exact ⟨v, hv, by simp [Fields.get?]⟩
    · obtain ⟨w, hw, hget⟩ := ih hnodup hrest hc
      have hne : c.2 ≠ name := fun heq => hnot (List.mem_map.2 ⟨_, hc, heq.symm⟩)
      exact ⟨w, hw, by rw [Fields.get?, if_neg hne, hget]⟩

theorem names_plainStats (h : plainStats base effort level = .ok plain) : plain.names = computedNames := by
  simp only [plainStats, Outcome.bind_eq_ok] at h
  obtain ⟨-, -, -, -, points, -, stats, hstats, ⟨⟩⟩ := h
  exact congrArg (fun names => "max_hp" :: "current_hp" :: names) (names_statsOf hstats)

theorem get?_plainStats (h : plainStats base effort level = .ok plain) {code name : String}
    (hc : (code, name) ∈ statNames) : ∃ v, statOf base effort level code = .ok v ∧ plain.get? name = some v := by
  simp only [plainStats, Outcome.bind_eq_ok] at h
  obtain ⟨-, -, -, -, points, -, stats, hstats, ⟨⟩⟩ := h
  obtain ⟨v, hv, hget⟩ := get?_statsOf (by decide) hstats hc
  have hnames : ∀ c ∈ statNames, c.2 ≠ "max_hp" ∧ c.2 ≠ "current_hp" := by decide
  obtain ⟨hmax, hcurrent⟩ := hnames _ hc
  exact ⟨v, hv, by rw [Fields.get?, if_neg hmax.symm, Fields.get?, if_neg hcurrent.symm, hget]⟩

end plain

/-! ### What natures raise -/

/-- A nature that changes nothing, or raises one and lowers one of the given attributes. -/
def IsTemper (names : List String) (nature : Value) : Prop :=
  nature.field "increase" = .ok .null ∨ ∃ up down, nature.field "increase" = .ok (.text up) ∧
    nature.field "decrease" = .ok (.text down) ∧ up ∈ names ∧ down ∈ names

theorem IsTemper.mem {names : List String} {nature : Value} {up down : String} (h : IsTemper names nature)
    (hincrease : nature.field "increase" = .ok (.text up)) (hdecrease : nature.field "decrease" = .ok (.text down)) :
    up ∈ names ∧ down ∈ names := by
  rcases h with hnull | ⟨up', down', hup, hdown, hmem⟩
  · cases hincrease.symm.trans hnull
  · cases hincrease.symm.trans hup
    cases hdecrease.symm.trans hdown
    exact hmem

theorem IsTemper.mono {names names' : List String} {nature : Value} (h : IsTemper names nature)
    (hnames : ∀ name ∈ names, name ∈ names') : IsTemper names' nature :=
  h.imp_right fun ⟨up, down, hincrease, hdecrease, hup, hdown⟩ =>
    ⟨up, down, hincrease, hdecrease, hnames up hup, hnames down hdown⟩

private theorem isTemper_natureEntry {names : List String} {up down : String} (hup : up ∈ names)
    (hdown : down ∈ names) :
    IsTemper names (Rules.natureEntry up down) :=
  .inr ⟨up, down, rfl, rfl, hup, hdown⟩

/-- What a name stands for raises and lowers nothing but what is computed. -/
def Tempered (rules : Rules) (nature : Value) : Prop :=
  ∀ entry, Value.lookup rules.natures nature = .ok entry → IsTemper computedNames entry

theorem standard_tempered (nature : Value) : Tempered .standard nature := by
  intro entry hentry
  obtain ⟨name, -, hget⟩ := Value.lookup_eq_ok hentry
  have hall : ∀ f ∈ Rules.standard.natures, IsTemper computedNames f.2 := by
    simp only [Rules.standard, List.forall_mem_cons]
    refine ⟨.inl rfl, ?_⟩
    simp [isTemper_natureEntry, computedNames, statNames]
  exact hall _ (Fields.mem_of_get? hget)

/-- The attribute that a nature raises, or null. -/
def raisedBy (rules : Rules) (nature : Value) : Value :=
  match Value.lookup rules.natures nature >>= Value.field "increase" with
  | .ok increase => increase
  | .error _ => .null

/-- The attribute that was raised last, after one more nature. -/
def raisedAfter (rules : Rules) (last nature : Value) : Value :=
  match raisedBy rules nature with
  | .null => last
  | increase => increase

theorem raisedAfter_eq_raisedBy_iff (rules : Rules) (last nature : Value) :
    raisedAfter rules last nature = raisedBy rules nature ↔ raisedBy rules nature ≠ .null ∨ last = .null := by
  unfold raisedAfter
  split
  next h => simp [h]
  next h => exact iff_of_true rfl (.inl h)

theorem raisedAfter_null (rules : Rules) (nature : Value) :
    raisedAfter rules .null nature = raisedBy rules nature :=
  (raisedAfter_eq_raisedBy_iff rules .null nature).2 (.inr rfl)

/-- A nature leaves all else alone, but for the name of what it raises. -/
private theorem applyNature_leaves {nature : Value} (hfit : IsTemper computedNames nature)
    (h : (applyNature nature).apply s = (.ok (), s')) :
    (nature.field "increase" = .ok .null ∧ s' = s) ∨
      ∃ up, nature.field "increase" = .ok (.text up) ∧ s'.get? "increase_stat" = some (.text up) ∧
        ∀ name, name ∉ "increase_stat" :: computedNames → s'.get? name = s.get? name := by
  rcases applyNature_eq_ok.1 h with
    hnull | ⟨up, down, p, q, m, n, hincrease, hdecrease, -, -, -, -, rfl⟩
  · exact .inl hnull
  obtain ⟨hup, hdown⟩ := hfit.mem hincrease hdecrease
  have hother : ∀ name, name ∉ computedNames → name ≠ down ∧ name ≠ up := fun name hname =>
    ⟨fun heq => hname (by rwa [heq]), fun heq => hname (by rwa [heq])⟩
  refine .inr ⟨up, hincrease, ?_, fun name hname => ?_⟩
  · obtain ⟨hne, hne'⟩ := hother "increase_stat" (by decide)
    rw [Fields.get?_put_of_ne hne, Fields.get?_put_of_ne hne', Fields.get?_put_self]
  · obtain ⟨hlabel, hname⟩ := not_or.1 (mt List.mem_cons.2 hname)
    obtain ⟨hne, hne'⟩ := hother name hname
    rw [Fields.get?_put_of_ne hne, Fields.get?_put_of_ne hne', Fields.get?_put_of_ne hlabel]

/-- Training leaves all else alone, but for the name of what was raised last. -/
theorem setStats_leaves {nature effort last : Value} (hnature : Tempered rules nature)
    (h : (setStats rules nature effort).apply s = (.ok (), s')) (hlast : s.get? "increase_stat" = some last) :
    s'.get? "increase_stat" = some (raisedAfter rules last nature) ∧
      ∀ name, name ∉ "increase_stat" :: computedNames → s'.get? name = s.get? name := by
  obtain ⟨base, level, plain, entry, -, -, hplain, hentry, h⟩ := setStats_eq_ok.1 h
  have hplain : ∀ name, name ∉ computedNames → (plain.overlay s).get? name = s.get? name := fun name hname =>
    Fields.get?_overlay_of_not_mem (by rwa [names_plainStats hplain]) s
  have hlabel := (hplain "increase_stat" (by decide)).trans hlast
  have hother : ∀ name, name ∉ "increase_stat" :: computedNames → name ∉ computedNames := fun name hname hmem =>
    hname (List.mem_cons_of_mem _ hmem)
  rcases applyNature_leaves (hnature _ hentry) h with ⟨hincrease, rfl⟩ | ⟨up, hincrease, hset, hleaves⟩
  · refine ⟨?_, fun name hname => hplain name (hother name hname)⟩
    rw [hlabel]
    simp [raisedAfter, raisedBy, hentry, hincrease, Outcome.ok_bind]
  · refine ⟨?_, fun name hname => (hleaves name hname).trans (hplain name (hother name hname))⟩
    rw [hset]
    simp [raisedAfter, raisedBy, hentry, hincrease, Outcome.ok_bind]

/-! ### New creatures -/

/-- The level that options give. -/
def levelOf (options : Fields Value) : Value := (options.get? "level").getD (.int 100)

/-- The name of the nature that options give. -/
def natureName (options : Fields Value) : Value := (options.get? "nature").getD (.text "quirky")

/-- The effort that options give. -/
def effortOf (options : Fields Value) : Value := (options.get? "evs").getD (.record [])

/-- A creature before its stats are computed. -/
def newborn (options : Fields Value) (name types base number : Value) (moves : List Value) : Attributes :=
  [("name", name), ("level", levelOf options), ("moves", .list moves), ("types", types), ("base_stats", base),
   ("dex_num", number), ("status", .null), ("status_turns", .int 0), ("evs", effortOf options),
   ("increase_stat", .null)]

/-- A creature as it leaves `make`, without boosts, from one with stats. -/
def finished (grown : Attributes) : Attributes := (grown.put "boosts" noBoosts).put "volatile_status" (.record [])

theorem make_ok {options : Fields Value} {made : Attributes} (h : make rules options = .ok made) :
    ∃ name species types base number given moves grown, options.get? "name" = some name ∧
      checkOptions rules name given (levelOf options) (natureName options) (effortOf options) = .ok () ∧
      Value.lookup rules.species name = .ok species ∧ species.field "types" = .ok types ∧
      species.field "baseStats" = .ok base ∧
      (setStats rules (natureName options) (effortOf options)).apply (newborn options name types base number moves) =
        (.ok (), grown) ∧
      made = finished grown := by
  unfold make at h
  simp only [Outcome.bind_eq_ok] at h
  obtain ⟨name, hname, given, -, u, hcheck, members, -, moves, -, species, hspecies, types, htypes, base, hbase,
    number, -, u', hset, h⟩ := h
  obtain ⟨_, hname', hname⟩ := Value.lookup_eq_ok hname
  cases hname'
  cases h
  exact ⟨name, species, types, base, number, given, moves, _, hname, hcheck, hspecies, htypes, hbase,
    Prod.ext hset rfl, rfl⟩

theorem get?_finished {name : String} (h : name ∉ ["boosts", "volatile_status"]) :
    (finished s).get? name = s.get? name := by
  simp only [List.mem_cons, not_or] at h
  rw [finished, Fields.get?_put_of_ne h.2.1, Fields.get?_put_of_ne h.1]

/-- A new creature is as it was born but for its stats, what its nature raises and its boosts. -/
theorem make_leaves {options : Fields Value} {made : Attributes} (hnature : Tempered rules (natureName options))
    (h : make rules options = .ok made) :
    ∃ name species types base number moves, options.get? "name" = some name ∧
      Value.lookup rules.species name = .ok species ∧ species.field "types" = .ok types ∧
      species.field "baseStats" = .ok base ∧
      made.get? "increase_stat" = some (raisedBy rules (natureName options)) ∧
      ∀ other, other ∉ "boosts" :: "volatile_status" :: "increase_stat" :: computedNames →
        made.get? other = (newborn options name types base number moves).get? other := by
  obtain ⟨name, species, types, base, number, given, moves, grown, hname, -, hspecies, htypes, hbase, hset, rfl⟩ :=
    make_ok h
  have hborn : (newborn options name types base number moves).get? "increase_stat" = some .null := by
    simp [newborn, Fields.get?]
  obtain ⟨hraised, hleaves⟩ := setStats_leaves hnature hset hborn
  refine ⟨name, species, types, base, number, moves, hname, hspecies, htypes, hbase, ?_, fun other hother => ?_⟩
  · rw [get?_finished (by decide), hraised, raisedAfter_null]
  · simp only [List.mem_cons, not_or] at hother
    rw [get?_finished (by simp [hother]), hleaves other (by simp [hother])]

end Creature

end Docsmith.Battle

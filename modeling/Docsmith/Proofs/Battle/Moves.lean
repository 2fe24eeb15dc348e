import Docsmith.Proofs.Battle.Reachable
import Docsmith.Proofs.Battle.Sequence

/-!
# Moves that the opponent has shown

The moves that an opponent has shown are kept in one list for each creature.  A move is only ever added at the end of a
list that does not have it yet (`apply_learnMove`), so the lists have no equal moves and are never cut
(`moves_distinct_and_kept`).  The list that a move goes to is that of the creature which was active when the positions
were last noted; the attack itself is not asked who made it (`moves_filed_under_active`).
-/

namespace Docsmith.Battle

variable {rules : Rules} {me event turn : Value} {t t' : Tracker} {p : String}
  {table before after : Fields (List Value)} {moves : List Value}

/-! ### Lists of moves -/

/-- The moves that a creature has shown, in a table of moves. -/
def shown (table : Fields (List Value)) (p : String) : List Value := (table.get? p).getD []

/-- A list with a move added, if there is one and the list has none that is equal. -/
def noted (moves : List Value) : Outcome Value → List Value
  | .error _ => moves
  | .ok move => if moves.any (·.same move) then moves else moves ++ [move]

/-- A list has a move: the move itself, or one that is equal to it. -/
def Lists (moves : List Value) (move : Value) : Prop := ∃ m ∈ moves, m = move ∨ m.same move = true

/-- No two moves of a list are equal. -/
def Distinct (moves : List Value) : Prop := moves.Pairwise fun m m' => m.same m' = false

/-- Every list of a table is the beginning of a list of another, under the same name. -/
def Extends (before after : Fields (List Value)) : Prop :=
  ∀ p moves, before.get? p = some moves → ∃ moves', after.get? p = some moves' ∧ moves <+: moves'

private theorem shown_put (table : Fields (List Value)) (p q : String) (moves : List Value) :
    shown (table.put p moves) q = if q = p then moves else shown table q := by
  rw [shown, Fields.get?_put]
  split <;> rfl

private theorem prefix_noted (moves : List Value) (move : Outcome Value) : moves <+: noted moves move := by
  cases move with
  | error fault => exact List.prefix_refl moves
  | ok move =>
    rw [noted]
    split
    · exact List.prefix_refl moves
    · exact List.prefix_append moves [move]

private theorem distinct_noted (h : Distinct moves) (move : Outcome Value) : Distinct (noted moves move) := by
  cases move with
  | error fault => exact h
  | ok move =>
    rw [noted]
    split
    next => exact h
    next hnew =>
      refine List.pairwise_append.2 ⟨h, List.pairwise_singleton _ _, fun m hm m' hm' => ?_⟩
      obtain rfl := List.mem_singleton.1 hm'
      cases hsame : m.same m' with
      | false => rfl
      | true => exact absurd (List.any_eq_true.2 ⟨m, hm, hsame⟩) hnew

private theorem distinct_shown (h : ∀ p moves, table.get? p = some moves → Distinct moves) (p : String) :
    Distinct (shown table p) := by
  unfold shown
  cases hget : table.get? p with
  | none => exact List.Pairwise.nil
  | some moves => exact h p moves hget

private theorem Extends.refl (table : Fields (List Value)) : Extends table table :=
  fun _ moves hmoves => ⟨moves, hmoves, List.prefix_refl moves⟩

/-- A list may be replaced by a longer one with the same beginning. -/
private theorem Extends.put (h : Extends before table) (hlonger : shown table p <+: moves) :
    Extends before (table.put p moves) := by
  intro q old hold
  obtain ⟨kept, hkept, hbegin⟩ := h q old hold
  rw [Fields.get?_put]
  split
  next hq =>
    subst hq
    rw [shown, hkept, Option.getD_some] at hlonger
    exact ⟨moves, rfl, hbegin.trans hlonger⟩
  next => exact ⟨kept, hkept, hbegin⟩

namespace Tracker

/-! ### Taking note of a move -/

/-- The name of the opponent's active creature. -/
def activeFoe (t : Tracker) : Outcome String := do
  (← (← t.theirs.field "active").field "name").keyName

private theorem learnMove_of_error {fault : Fault} (h : t.activeFoe = .error fault) (event : Value) :
    (learnMove event).apply t = (.error fault, t) := by
  simp only [activeFoe, Outcome.bind_eq_error] at h
  rw [learnMove, Change.get_bind_apply, Change.liftM_bind_eq_error]
  rcases h with hactive | ⟨active, hactive, h⟩
  · exact .inl ⟨hactive, rfl⟩
  refine .inr ⟨active, hactive, ?_⟩
  rw [Change.liftM_bind_eq_error]
  rcases h with hname | ⟨name, hname, hkey⟩
  · exact .inl ⟨hname, rfl⟩
  refine .inr ⟨name, hname, ?_⟩
  rw [Change.liftM_bind_eq_error]
  exact .inl ⟨hkey, rfl⟩

/-- Taking note of a move adds it to the list of the opponent's active creature; if the event has no move, the creature
has at least a list from then on. -/
private theorem learnMove_of_active (h : t.activeFoe = .ok p) (event : Value) :
    (learnMove event).apply t = ((event.field "move").map fun _ => (),
      { t with moves := t.moves.put p (noted (shown t.moves p) (event.field "move")) }) := by
  -- once there is a list for the creature, the move is looked for in it
  have hlast : ∀ u : Tracker, u.moves.get? p = some (shown u.moves p) → Change.apply (do
      let move ← event.field "move"
      let shown := ((← get).moves.get? p).getD []
      if !(shown.any fun m => m.same move) then
        modify fun t => { t with moves := t.moves.put p (shown ++ [move]) } : Change Tracker Unit) u =
      ((event.field "move").map fun _ => (),
        { u with moves := u.moves.put p (noted (shown u.moves p) (event.field "move")) }) := by
    intro u hu
    rw [Change.apply_bind, Change.apply_liftM]
    rcases event.field "move" with fault | move
    · rw [noted, Fields.put_of_get? hu]
      rfl
    · show Change.apply (if !((shown u.moves p).any fun m => m.same move) then
        modify fun t => { t with moves := t.moves.put p (shown u.moves p ++ [move]) } else pure ()) u = _
      rw [noted]
      cases (shown u.moves p).any fun m => m.same move with
      | false => rfl
      | true =>
        rw [if_pos rfl, Fields.put_of_get? hu]
        rfl
  simp only [activeFoe, Outcome.bind_eq_ok] at h
  obtain ⟨active, hactive, name, hname, hkey⟩ := h
  unfold learnMove
  rw [Change.get_bind_apply, view_eq, hactive, Change.apply_bind_of_ok (Change.apply_liftM _ _), hname,
    Change.apply_bind_of_ok (Change.apply_liftM _ _), hkey, Change.apply_bind_of_ok (Change.apply_liftM _ _),
    Change.get_bind_apply]
  cases hget : t.moves.get? p with
  | none =>
    simp only [Fields.has, view_eq, hget]
    have hempty : shown t.moves p = [] := by rw [shown, hget, Option.getD_none]
    refine (hlast { t with moves := t.moves.put p [] } ?_).trans ?_
    · simp [shown]
    · simp only [shown_put, if_true, Fields.put_put, hempty]
  | some moves =>
    simp only [Fields.has, view_eq, hget]
    refine hlast t ?_
    rw [shown, hget, Option.getD_some]

/-! ### Turns and calls -/

section Preserves

variable {P : Fields (List Value) → Prop}
  (hnote : ∀ table p move, P table → P (Fields.put p (noted (shown table p) move) table))

include hnote

private theorem learnMove_preserves (event : Value) : (learnMove event).Preserves fun t : Tracker => P t.moves := by
  intro t ht
  cases hactive : t.activeFoe with
  | error fault =>
    rw [learnMove_of_error hactive]
    exact ht
  | ok p =>
    rw [learnMove_of_active hactive]
    exact hnote t.moves p _ ht

private theorem learnEvent_preserves (rules : Rules) (me event : Value) :
    (learnEvent rules me event).Preserves fun t : Tracker => P t.moves := by
  have hspares : Ignores ["atk", "def", "spa", "spd", "hp"] Tracker.moves := ignores_of_investment (fun _ _ => rfl) _
  refine (Change.preserves_liftM _).bind fun attacker => (Change.preserves_liftM _).bind fun hits => ?_
  refine Change.Preserves.ite (Change.Preserves.ite ?_ (Change.preserves_pure ()))
    (Change.Preserves.ite ?_ (learnMove_preserves hnote event))
  · refine Change.preserves_get.bind fun t => (Change.preserves_liftM _).bind fun results => ?_
    exact (learnAttacking_spares hspares event _ _).preserves P
  · refine Change.preserves_get.bind fun t => (Change.preserves_liftM _).bind fun results => ?_
    exact ((learnDefending_spares hspares event _ _).preserves P).bind fun _ => learnMove_preserves hnote event

/-- What holds of the moves whenever one is taken note of is preserved by every call but a reset, however it ends. -/
private theorem perform_preserves {call : Call} (hcall : call ≠ .reset) :
    (call.perform rules).Preserves fun t : Tracker => P t.moves := by
  cases call with
  | reset => exact absurd rfl hcall
  | update mine theirs => exact fun _ ht => ht
  | initialise team active =>
    have hkeeps : (initialise rules team active).Keeps Tracker.moves := initialise_spares (fun _ _ => rfl) rules _ _
    exact hkeeps.preserves P
  | learn me turn =>
    intro t ht
    refine learnTurn_closed (learnEvent_preserves hnote rules me) (fun attacks => ?_) turn ht
    have hkeeps : (learnOrder rules me attacks).Keeps Tracker.moves :=
      learnOrder_spares (ignores_of_investment (fun _ _ => rfl) _) rules me attacks
    exact hkeeps.preserves P

end Preserves

end Tracker

private theorem Reachable.distinct (h : Reachable rules t) :
    ∀ p moves, t.moves.get? p = some moves → Distinct moves := by
  induction h with
  | start => exact fun p moves hmoves => by cases hmoves
  | @call t call h ih =>
    by_cases hcall : call = .reset
    · subst hcall
      exact fun p moves hmoves => by cases hmoves
    · refine Tracker.perform_preserves (P := fun table => ∀ p moves, table.get? p = some moves → Distinct moves)
        (fun table p move hdistinct q moves hmoves => ?_) hcall t ih
      rw [Fields.get?_put] at hmoves
      split at hmoves
      next =>
        cases hmoves
        exact distinct_noted (distinct_shown hdistinct p) move
      next => exact hdistinct q moves hmoves

/-- In a tracker that calls can reach, also by calls that fail, no list of moves has two that are equal; and every call
but a reset, whether it fails or not, leaves each list as the beginning of the list that it becomes. -/
theorem moves_distinct_and_kept (h : Reachable rules t) :
    (∀ p moves, t.moves.get? p = some moves → Distinct moves) ∧
    ∀ call : Call, call ≠ .reset → Extends t.moves ((call.perform rules).apply t).2.moves := by
  refine ⟨h.distinct, fun call hcall => ?_⟩
  exact Tracker.perform_preserves (P := Extends t.moves)
    (fun table p move hextends => hextends.put (prefix_noted _ move)) hcall t (Extends.refl t.moves)

namespace Sample

/-- The move of the opponent's usual attack. -/
def liquidation : String × Value := Rules.moveEntry "liquidation" "Water" "Physical" 85 0

/-- A physical move of another type. -/
def seedBomb : String × Value := Rules.moveEntry "seedbomb" "Grass" "Physical" 80 0

/-- A special move. -/
def shadowBall : String × Value := Rules.moveEntry "shadowball" "Ghost" "Special" 80 0

/-- A turn in which the opponent's creature shows moves, and which ends with an attack of which nothing is told. -/
def brokenOff (moves : List (String × Value)) : Value :=
  .list (moves.map (attack "you" "floatzel" "spinda" · 30 false) ++ [.record [("type", .text "ATTACK")]])

/-- The tracker after a turn that shows one move twice and then another. -/
def impressed : Tracker :=
  (((Call.learn (.text "me") (brokenOff [liquidation, liquidation, seedBomb])).perform Rules.standard).apply faced).2

end Sample

/-- Two turns that break off show three moves, the first of them three times. -/
theorem sample_moves_distinct_and_kept :
    Reachable .standard Sample.impressed ∧
    ∃ moves, Sample.impressed.moves.get? "floatzel" = some moves ∧ moves.length = 2 ∧ Distinct moves ∧
    ∃ fault t' moves', ((Call.learn (.text "me") (Sample.brokenOff [Sample.liquidation, Sample.shadowBall])).perform
        .standard).apply Sample.impressed = (.error fault, t') ∧
      t'.moves.get? "floatzel" = some moves' ∧ moves'.length = 3 ∧ moves <+: moves' := by
  let call : Call := .learn (.text "me") (Sample.brokenOff [Sample.liquidation, Sample.shadowBall])
  have hreachable : Reachable .standard Sample.impressed := (Reachable.start.call _).call _
  have hevaluated : (Sample.impressed.moves.get? "floatzel").map List.length = some 2 ∧
      ((call.perform .standard).apply Sample.impressed).1.isOk = false ∧
      (((call.perform .standard).apply Sample.impressed).2.moves.get? "floatzel").map List.length = some 3 := by
    decide +kernel
  obtain ⟨hbefore, hfault, hafter⟩ := hevaluated
  obtain ⟨moves, hmoves, hlength⟩ := Option.map_eq_some_iff.1 hbefore
  obtain ⟨hdistinct, hextends⟩ := moves_distinct_and_kept hreachable
  obtain ⟨moves', hmoves', hstart⟩ := hextends call (by simp [call]) "floatzel" moves hmoves
  rw [hmoves', Option.map_some, Option.some.injEq] at hafter
  rcases hcall : (call.perform .standard).apply Sample.impressed with ⟨fault | _, t'⟩
  · rw [hcall] at hmoves'
    exact ⟨hreachable, moves, hmoves, hlength, hdistinct _ _ hmoves, fault, t', moves', rfl, hmoves', hafter, hstart⟩
  · rw [hcall] at hfault
    cases hfault

/-! ### Where moves are filed -/

private theorem Lists.mono {move : Value} {moves' : List Value} (h : Lists moves move) (hstart : moves <+: moves') :
    Lists moves' move := by
  obtain ⟨m, hm, hmove⟩ := h
  exact ⟨m, hstart.subset hm, hmove⟩

private theorem lists_noted (moves : List Value) (move : Value) : Lists (noted moves (.ok move)) move := by
  rw [noted]
  split
  next hany =>
    obtain ⟨m, hm, hsame⟩ := List.any_eq_true.1 hany
    exact ⟨m, hm, .inr hsame⟩
  next => exact ⟨move, List.mem_append_right moves (List.mem_singleton_self move), .inl rfl⟩

private theorem noted_eq_self {move : Value} : noted moves (.ok move) = moves ↔ moves.any (·.same move) = true := by
  rw [noted]
  split
  next hany => simp [hany]
  next hany => simp [hany]

/-- Moves noted one after the other. -/
def notedAll (moves : List Value) (news : List (Outcome Value)) : List Value := news.foldl noted moves

private theorem prefix_notedAll (moves : List Value) (news : List (Outcome Value)) : moves <+: notedAll moves news := by
  induction news generalizing moves with
  | nil => exact List.prefix_refl moves
  | cons new news ih => exact (prefix_noted moves new).trans (ih (noted moves new))

private theorem lists_notedAll {move : Value} {news : List (Outcome Value)} (h : .ok move ∈ news) (moves : List Value) :
    Lists (notedAll moves news) move := by
  induction news generalizing moves with
  | nil => cases h
  | cons new news ih =>
    rcases List.mem_cons.1 h with rfl | hrest
    · exact (lists_noted moves move).mono (prefix_notedAll _ news)
    · exact ih hrest _

/-- A list stays the same if it has all the moves. -/
private theorem notedAll_eq_self {news : List (Outcome Value)} :
    notedAll moves news = moves ↔ ∀ move, .ok move ∈ news → moves.any (·.same move) = true := by
  induction news with
  | nil => simp [notedAll]
  | cons new news ih =>
    have hcons : notedAll moves (new :: news) = notedAll (noted moves new) news := rfl
    constructor
    · intro h
      -- the list has not grown at the end, so it has not grown at the first move
      have hfirst : noted moves new = moves := by
        have hle := (prefix_notedAll (noted moves new) news).length_le
        rw [← hcons, h] at hle
        exact ((prefix_noted moves new).eq_of_length_le hle).symm
      rw [hcons, hfirst, ih] at h
      intro move hmove
      rcases List.mem_cons.1 hmove with rfl | hrest
      · exact noted_eq_self.1 hfirst
      · exact h move hrest
    · intro h
      have hfirst : noted moves new = moves := by
        cases new with
        | error fault => rfl
        | ok move => exact noted_eq_self.2 (h move List.mem_cons_self)
      rw [hcons, hfirst]
      exact ih.2 fun move hmove => h move (List.mem_cons_of_mem new hmove)

/-- The move of an attack. -/
def Strike.move (s : Strike) : Outcome Value := s.event.field "move"

/-- Those of some attacks that the player does not make. -/
def opposed (mine me : Value) (attacks : List Value) : List Strike :=
  (attacks.map fun e => ⟨mine, me, e⟩).filter fun s => !s.isMine

/-- The moves of those attacks. -/
def opposedMoves (mine me : Value) (attacks : List Value) : List (Outcome Value) :=
  (opposed mine me attacks).map Strike.move

private theorem opposedMoves_cons (mine me event : Value) (attacks : List Value) :
    opposedMoves mine me (event :: attacks) = opposedMoves mine me [event] ++ opposedMoves mine me attacks := by
  rw [opposedMoves, opposedMoves, opposedMoves, ← List.map_append, opposed, opposed, opposed, ← List.filter_append,
    ← List.map_append]
  rfl

/-- The moves are those of the attacks with their damage reduced. -/
private theorem opposedMoves_reduced (mine me event : Value) :
    opposedMoves mine me [Tracker.reduced event] = opposedMoves mine me [event] := by
  have hmine : (⟨mine, me, Tracker.reduced event⟩ : Strike).isMine = (⟨mine, me, event⟩ : Strike).isMine :=
    Tracker.isMine_reduceCritical mine me event
  cases hb : (⟨mine, me, event⟩ : Strike).isMine with
  | true => simp [opposedMoves, opposed, hmine, hb]
  | false => simp [opposedMoves, opposed, hmine, hb, Strike.move, Tracker.field_reduced]

/-- Each attack has its move in the list of the creature that made it, and the lists of other creatures are as they
were. -/
structure Filed (strikes : List Strike) (before after : Fields (List Value)) : Prop where
  found : ∀ s ∈ strikes, ∃ p move, s.foe = .ok p ∧ s.move = .ok move ∧ Lists (shown after p) move
  rest : ∀ q, (∀ s ∈ strikes, s.foe ≠ .ok q) → shown after q = shown before q

namespace Tracker

/-- Moves are noted for the opponent's active creature. -/
structure Notes (news : List (Outcome Value)) (t t' : Tracker) : Prop where
  mine : t'.mine = t.mine
  theirs : t'.theirs = t.theirs
  found : ∀ new ∈ news, ∃ p move, t.activeFoe = .ok p ∧ new = .ok move
  others : ∀ q, t.activeFoe ≠ .ok q → t'.moves.get? q = t.moves.get? q
  active : ∀ p, t.activeFoe = .ok p → shown t'.moves p = notedAll (shown t.moves p) news

private theorem notes_nil (h : (t'.mine, t'.theirs, t'.moves) = (t.mine, t.theirs, t.moves)) : Notes [] t t' := by
  simp only [Prod.mk.injEq] at h
  obtain ⟨hmine, htheirs, hmoves⟩ := h
  refine ⟨hmine, htheirs, ?_, ?_, ?_⟩
  · intro new hnew
    cases hnew
  · intro q _
    rw [hmoves]
  · intro p _
    rw [hmoves]
    rfl

private theorem Notes.append {t'' : Tracker} {news news' : List (Outcome Value)} (h : Notes news t t')
    (h' : Notes news' t' t'') : Notes (news ++ news') t t'' := by
  have hactive : t'.activeFoe = t.activeFoe := by rw [activeFoe, h.theirs, activeFoe]
  refine ⟨h'.mine.trans h.mine, h'.theirs.trans h.theirs, fun new hnew => ?_, fun q hq => ?_, fun p hp => ?_⟩
  · rcases List.mem_append.1 hnew with hnew | hnew
    · exact h.found new hnew
    · exact hactive ▸ h'.found new hnew
  · rw [h'.others q (by rwa [hactive]), h.others q hq]
  · rw [h'.active p (by rwa [hactive]), h.active p hp, notedAll, notedAll, notedAll, List.foldl_append]

private theorem learnMove_notes (h : (learnMove event).apply t = (.ok (), t')) : Notes [event.field "move"] t t' := by
  cases hactive : t.activeFoe with
  | error fault =>
    rw [learnMove_of_error hactive] at h
    cases h
  | ok p =>
    rw [learnMove_of_active hactive, Prod.mk.injEq, Outcome.map_eq_ok] at h
    obtain ⟨⟨move, hmove, -⟩, rfl⟩ := h
    refine ⟨rfl, rfl, fun new hnew => ?_, fun q hq => ?_, fun q hq => ?_⟩
    · obtain rfl := List.mem_singleton.1 hnew
      exact ⟨p, move, hactive, hmove⟩
    · have hne : q ≠ p := by
        rintro rfl
        exact hq hactive
      rw [Fields.get?_put_of_ne hne]
    · rw [hactive, Except.ok.injEq] at hq
      subst hq
      rw [shown_put, if_pos rfl]
      rfl

/-- The move of an attack is noted if the attack is not the player's. -/
private theorem learnEvent_notes (h : (learnEvent rules me event).apply t = (.ok (), t')) :
    Notes (opposedMoves t.mine me [event]) t t' := by
  have hspares : Ignores ["atk", "def", "spa", "spd", "hp"] fun t => (t.mine, t.theirs, t.moves) :=
    ignores_of_investment (fun _ _ => rfl) _
  rw [learnEvent, Change.liftM_bind_eq_ok] at h
  obtain ⟨attacker, hattacker, h⟩ := h
  rw [Change.liftM_bind_eq_ok] at h
  obtain ⟨hits, -, h⟩ := h
  have hmine : (⟨t.mine, me, event⟩ : Strike).isMine = attacker.same me := Strike.isMine_eq hattacker
  cases hsame : attacker.same me with
  | true =>
    have hnone : opposedMoves t.mine me [event] = [] := by simp [opposedMoves, opposed, hmine, hsame]
    have hkept := Change.Keeps.ite (b := hits.truthy = true)
      (Change.keeps_get.bind fun u => (Change.keeps_liftM (u.rangesAttacking rules event)).bind fun results =>
        learnAttacking_spares hspares event (rangeValues results) wayValuesWithPoints) (Change.keeps_pure ()) t
    simp only [hsame, if_true, view_eq] at h
    rw [h] at hkept
    rw [hnone]
    exact notes_nil hkept
  | false =>
    have hone : opposedMoves t.mine me [event] = [event.field "move"] := by
      simp [opposedMoves, opposed, hmine, hsame, Strike.move]
    rw [hone]
    simp only [hsame, Bool.false_eq_true, if_false] at h
    split at h
    · rw [Change.get_bind_apply, Change.liftM_bind_eq_ok] at h
      obtain ⟨results, -, h⟩ := h
      rw [Change.bind_eq_ok] at h
      obtain ⟨_, u, hlearn, hmove⟩ := h
      have hkept := learnDefending_spares hspares event (rangeValues results) wayValues t
      rw [hlearn] at hkept
      exact (notes_nil hkept).append (learnMove_notes hmove)
    · exact learnMove_notes h

private theorem learnAttacks_notes {attacks : List Value}
    (h : (attacks.forM (learnAttack rules me)).apply t = (.ok (), t')) :
    Notes (opposedMoves t.mine me attacks) t t' := by
  induction attacks generalizing t with
  | nil =>
    cases h
    exact notes_nil rfl
  | cons event attacks ih =>
    rw [List.forM, Change.bind_eq_ok] at h
    obtain ⟨_, u, hattack, h⟩ := h
    rw [learnAttack, Change.liftM_bind_eq_ok] at hattack
    obtain ⟨_, -, hevent⟩ := hattack
    have hfirst := learnEvent_notes hevent
    have hrest := ih h
    rw [opposedMoves_reduced] at hfirst
    rw [hfirst.mine] at hrest
    rw [opposedMoves_cons]
    exact hfirst.append hrest

/-- The moves of the opponent's attacks in a turn are noted, whoever made the attacks. -/
private theorem learnTurn_notes (h : (learnTurn rules me turn t).2 = (.ok (), t')) :
    Notes (opposedMoves t.mine me (attacksIn turn)) t t' := by
  rw [learnTurn_eq, Change.liftM_bind_eq_ok] at h
  obtain ⟨attacks, hattacks, h⟩ := h
  rw [learnAttacks, Change.bind_eq_ok] at h
  obtain ⟨_, u, hlearn, horder⟩ := h
  have hkeeps : (learnOrder rules me (attacks.map reduced)).Keeps fun t : Tracker => (t.mine, t.theirs, t.moves) :=
    learnOrder_spares (ignores_of_investment (fun _ _ => rfl) _) rules me _
  have hkept := hkeeps u
  rw [horder] at hkept
  rw [attacksIn_of_sifted hattacks, ← List.append_nil (opposedMoves t.mine me attacks)]
  exact (learnAttacks_notes hlearn).append (notes_nil hkept)

private theorem Notes.prefix_shown {news : List (Outcome Value)} (h : Notes news t t') (q : String) :
    shown t.moves q <+: shown t'.moves q := by
  by_cases hq : t.activeFoe = .ok q
  · rw [h.active q hq]
    exact prefix_notedAll _ news
  · have hsame : shown t'.moves q = shown t.moves q := by rw [shown, shown, h.others q hq]
    exact hsame ▸ List.prefix_refl _

end Tracker

/-- The moves of the opponent's attacks in a turn are added, one after the other, to the list of the creature that was
active when the positions were last noted, and no other list changes.  So they are filed under the creatures that made
the attacks only if each attack was made by the active creature, or its move was in the list of the creature that made
it before; and if the active creature made none of them, only if its list had all their moves before. -/
theorem moves_filed_under_active (h : (Tracker.learnTurn rules me turn t).2 = (.ok (), t')) :
    let strikes := opposed t.mine me (attacksIn turn)
    (∀ s ∈ strikes, ∃ p move, t.activeFoe = .ok p ∧ s.move = .ok move) ∧
    (∀ q, t.activeFoe ≠ .ok q → t'.moves.get? q = t.moves.get? q) ∧
    (∀ p, t.activeFoe = .ok p → shown t'.moves p = notedAll (shown t.moves p) (strikes.map Strike.move)) ∧
    (Filed strikes t.moves t'.moves ↔
      (∀ s ∈ strikes, s.foe = t.activeFoe ∨
        ∃ p move, s.foe = .ok p ∧ s.move = .ok move ∧ Lists (shown t.moves p) move) ∧
      ((∃ s ∈ strikes, s.foe = t.activeFoe) ∨
        ∀ s ∈ strikes, ∀ p move, t.activeFoe = .ok p → s.move = .ok move →
          (shown t.moves p).any (·.same move) = true)) := by
  intro strikes
  have hnotes : Tracker.Notes (strikes.map Strike.move) t t' := Tracker.learnTurn_notes h
  have hmove : ∀ s ∈ strikes, ∃ p move, t.activeFoe = .ok p ∧ s.move = .ok move :=
    fun s hs => hnotes.found s.move (List.mem_map_of_mem hs)
  refine ⟨hmove, hnotes.others, hnotes.active, ?_⟩
  constructor
  · intro hfiled
    refine ⟨fun s hs => ?_, ?_⟩
    · obtain ⟨p, move, hfoe, hmove, hlists⟩ := hfiled.found s hs
      by_cases hactive : t.activeFoe = .ok p
      · exact .inl (hfoe.trans hactive.symm)
      · refine .inr ⟨p, move, hfoe, hmove, ?_⟩
        rwa [shown, hnotes.others p hactive] at hlists
    · by_cases hactive : ∃ s ∈ strikes, s.foe = t.activeFoe
      · exact .inl hactive
      · -- the active creature made no attack, so its list may not have grown
        refine .inr fun s hs p move hp hmove => ?_
        have hsame : shown t'.moves p = shown t.moves p :=
          hfiled.rest p fun s hs hfoe => hactive ⟨s, hs, hfoe.trans hp.symm⟩
        rw [hnotes.active p hp, notedAll_eq_self] at hsame
        exact hsame move (hmove ▸ List.mem_map_of_mem hs)
  · rintro ⟨hmade, hnone⟩
    refine ⟨fun s hs => ?_, fun q hq => ?_⟩
    · rcases hmade s hs with hfoe | ⟨p, move, hfoe, hmove, hlists⟩
      · obtain ⟨p, move, hp, hmove⟩ := hmove s hs
        refine ⟨p, move, hfoe.trans hp, hmove, ?_⟩
        rw [hnotes.active p hp]
        exact lists_notedAll (hmove ▸ List.mem_map_of_mem hs) _
      · exact ⟨p, move, hfoe, hmove, hlists.mono (hnotes.prefix_shown p)⟩
    · by_cases hactive : t.activeFoe = .ok q
      · rw [hnotes.active q hactive, notedAll_eq_self]
        intro move hmem
        obtain ⟨s, hs, hmove⟩ := List.mem_map.1 hmem
        rcases hnone with ⟨s', hs', hfoe⟩ | hall
        · exact absurd (hfoe.trans hactive) (hq s' hs')
        · exact hall s hs q move hactive hmove
      · rw [shown, shown, hnotes.others q hactive]

namespace Sample

/-- An attack from each side. -/
def bothAttack : Value := .list [mine true 48 false, theirs 60 false]

/-- An attack of a creature that is not active. -/
def strangerAttacks : Value := .list [attack "you" "ivysaur" "spinda" seedBomb 30 false]

end Sample

theorem sample_moves_filed_under_active :
    ∃ t', (Tracker.learnTurn .standard (.text "me") Sample.bothAttack Sample.faced).2 = (.ok (), t') ∧
      (opposed Sample.faced.mine (.text "me") (attacksIn Sample.bothAttack)).length = 1 ∧
      Filed (opposed Sample.faced.mine (.text "me") (attacksIn Sample.bothAttack)) Sample.faced.moves t'.moves := by
  have hevaluated :
      (Tracker.learnTurn .standard (.text "me") Sample.bothAttack Sample.faced).2.1.isOk = true ∧
      Sample.faced.activeFoe.toOption = some "floatzel" ∧
      (opposed Sample.faced.mine (.text "me") (attacksIn Sample.bothAttack)).map (·.foe.toOption) =
        [some "floatzel"] := by
    decide +kernel
  obtain ⟨hok, hactive, hfoes⟩ := hevaluated
  rcases hturn : (Tracker.learnTurn .standard (.text "me") Sample.bothAttack Sample.faced).2 with ⟨o, t'⟩
  rw [hturn] at hok
  obtain rfl := Outcome.eq_ok_of_isOk hok
  obtain ⟨-, -, -, hfiled⟩ := moves_filed_under_active hturn
  generalize opposed Sample.faced.mine (.text "me") (attacksIn Sample.bothAttack) = strikes at hfoes hfiled ⊢
  obtain ⟨s, rfl, hfoe⟩ := List.map_eq_singleton_iff.1 hfoes
  have hsame : s.foe = Sample.faced.activeFoe := by
    rw [Outcome.eq_ok_of_toOption hfoe, Outcome.eq_ok_of_toOption hactive]
  refine ⟨t', rfl, rfl, hfiled.2 ⟨fun s' hs' => .inl ?_, .inl ⟨s, List.mem_singleton_self s, hsame⟩⟩⟩
  rw [List.mem_singleton.1 hs', hsame]

/-- The move of an attack is filed under another creature than the one that made the attack. -/
theorem move_filed_under_another :
    Reachable .standard Sample.faced ∧
    ∃ t', (Tracker.learnTurn .standard (.text "me") Sample.strangerAttacks Sample.faced).2 = (.ok (), t') ∧
      t'.moves.names = ["floatzel"] ∧
      (opposed Sample.faced.mine (.text "me") (attacksIn Sample.strangerAttacks)).map Strike.foe = [.ok "ivysaur"] ∧
      ¬Filed (opposed Sample.faced.mine (.text "me") (attacksIn Sample.strangerAttacks)) Sample.faced.moves
        t'.moves := by
  have hevaluated :
      (Tracker.learnTurn .standard (.text "me") Sample.strangerAttacks Sample.faced).2.1.isOk = true ∧
      (Tracker.learnTurn .standard (.text "me") Sample.strangerAttacks Sample.faced).2.2.moves.names = ["floatzel"] ∧
      (opposed Sample.faced.mine (.text "me") (attacksIn Sample.strangerAttacks)).map (·.foe.toOption) =
        [some "ivysaur"] := by
    decide +kernel
  obtain ⟨hok, hnames, hfoes⟩ := hevaluated
  have hreachable : Reachable .standard Sample.faced := Reachable.start.call _
  rcases hturn : (Tracker.learnTurn .standard (.text "me") Sample.strangerAttacks Sample.faced).2 with ⟨o, t'⟩
  rw [hturn] at hok hnames
  obtain rfl := Outcome.eq_ok_of_isOk hok
  generalize opposed Sample.faced.mine (.text "me") (attacksIn Sample.strangerAttacks) = strikes at hfoes ⊢
  obtain ⟨s, rfl, hfoe⟩ := List.map_eq_singleton_iff.1 hfoes
  replace hfoe : s.foe = .ok "ivysaur" := Outcome.eq_ok_of_toOption hfoe
  refine ⟨hreachable, t', rfl, hnames, by rw [List.map_singleton, hfoe], fun hfiled => ?_⟩
  obtain ⟨p, move, hp, -, m, hm, -⟩ := hfiled.found s (List.mem_singleton_self s)
  rw [hfoe, Except.ok.injEq] at hp
  subst hp
  have hnone : Fields.get? "ivysaur" t'.moves = none := by
    rw [← Option.not_isSome_iff_eq_none, Fields.get?_isSome_iff, hnames]
    decide
  rw [shown, hnone] at hm
  cases hm

end Docsmith.Battle

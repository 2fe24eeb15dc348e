import Docsmith.Proofs.Binary64.Rounding
import Docsmith.Proofs.Change
import Docsmith.Proofs.Json.Numeral

/-!
# What a JSON text holds

A text holds no more than it is long: the texts, lists and records that are read from it have at most as many
characters, members and fields as it has characters.  Integers that are read have at most `Value.maxDigits` digits, and
other numbers are of the format binary64 (`all_fits_of_read`).
-/

namespace Docsmith

namespace Fields

variable {α : Type}

private theorem length_put_le (k : String) (v : α) (fs : Fields α) : (fs.put k v).length ≤ fs.length + 1 := by
  induction fs with
  | nil => exact Nat.le_refl _
  | cons f fs ih =>
    obtain ⟨name, w⟩ := f
    rw [put]
    split
    next => exact Nat.le_succ _
    next =>
      simp only [List.length_cons]
      omega

private theorem mem_put {k : String} {v : α} {fs : Fields α} {f : String × α} (h : f ∈ fs.put k v) :
    f.2 = v ∨ f ∈ fs := by
  induction fs with
  | nil =>
    cases List.mem_singleton.1 h
    exact .inl rfl
  | cons g fs ih =>
    obtain ⟨name, w⟩ := g
    rw [put] at h
    split at h
    next =>
      rcases List.mem_cons.1 h with rfl | h
      · exact .inl rfl
      · exact .inr (List.mem_cons_of_mem _ h)
    next =>
      rcases List.mem_cons.1 h with rfl | h
      · exact .inr List.mem_cons_self
      · exact (ih h).imp_right (List.mem_cons_of_mem _)

end Fields

namespace Value

/-- Whether a number has few enough digits to be read. -/
def IsShort (n : ℕ) : Prop := (Nat.toDigits 10 n).length ≤ maxDigits

instance (n : ℕ) : Decidable (IsShort n) := inferInstanceAs (Decidable (_ ≤ _))

private theorem isShort_iff {n : ℕ} :
    IsShort n ↔ n < 10 ^ maxDigits := Nat.length_toDigits_le_iff (by decide) (by decide)

theorem IsShort.mono {m n : ℕ} (hn : IsShort n) (hmn : m ≤ n) : IsShort m :=
  isShort_iff.2 (hmn.trans_lt (isShort_iff.1 hn))

private theorem isShort_of_le_two_pow {n j : ℕ} (hn : n ≤ 2 ^ j) (hj : j ≤ 3 * maxDigits) : IsShort n := by
  rw [isShort_iff]
  calc n ≤ 2 ^ j := hn
    _ ≤ 2 ^ (3 * maxDigits) := Nat.pow_le_pow_right (by decide) hj
    _ = 8 ^ maxDigits := by rw [Nat.pow_mul]
    _ < 10 ^ maxDigits := Nat.pow_lt_pow_left (by decide) (by decide)

end Value

namespace Binary64

/-- Whether a finite number has a mantissa and an exponent of the format. -/
def InRange (x : Binary64) : Prop := ∀ s m e, x = .finite s m e → m ≤ Nat.pow 2 53 ∧ e ≤ maxExponent

private theorem inRange_pack (negative : Bool) {m : ℕ} (hm : m ≤ Nat.pow 2 53) (e : ℤ) :
    InRange (pack negative m e) := by
  have hfinite : ∀ (m : ℕ) (e : ℤ), m ≤ Nat.pow 2 53 →
      InRange (if maxExponent < e then .infinity negative else .finite negative m e) := by
    intro m e hm s n f h
    split at h
    next => cases h
    next he =>
      cases h
      exact ⟨hm, not_lt.1 he⟩
  unfold pack
  by_cases hcarry : m = Nat.pow 2 53
  · rw [if_pos hcarry]
    exact hfinite _ _ (Nat.pow_le_pow_right (by decide) (by decide))
  · rw [if_neg hcarry]
    exact hfinite m e hm

private theorem inRange_ofQuotient (negative : Bool) (num : ℕ) {den : ℕ} (hden : 0 < den) :
    InRange (ofQuotient negative num den) := by
  rw [ofQuotient]
  split
  next =>
    intro s m e h
    cases h
    exact ⟨Nat.zero_le _, by decide⟩
  next hnum =>
    refine inRange_pack negative ?_ _
    have hpos : (0 : ℚ) ≤ num / den := by positivity
    have hunit : max minExponent (floorLog num den - 52) = unit (num / den) := by
      rw [floorLog_eq (Nat.pos_of_ne_zero hnum) hden, unit]
    rw [hunit, scaledRound_eq hden]
    exact nearest_scaled_le hpos

private theorem inRange_ofDecimal (negative : Bool) (digits : ℕ) (e : ℤ) : InRange (ofDecimal negative digits e) := by
  rw [ofDecimal]
  split
  next => exact inRange_ofQuotient negative _ one_pos
  next => exact inRange_ofQuotient negative _ (Nat.pow_pos (by decide))

private theorem inRange_zero (negative : Bool) : InRange (.zero negative) := inRange_ofQuotient negative 0 one_pos

/-- A number of the format as a fraction: the sign is that of the numerator, and the numerator is not too large. -/
private theorem fraction?_inRange {s : Bool} {m : ℕ} {e : ℤ} (hx : InRange (.finite s m e)) {p : ℤ × ℕ}
    (hp : fraction? (.finite s m e) = some p) :
    (if s then p.1 ≤ 0 else 0 ≤ p.1) ∧ ∃ j ≤ 1024, p.1.natAbs ≤ 2 ^ j := by
  obtain ⟨hm, he⟩ := hx s m e rfl
  have hsigned : ∀ k, (if s then signed s k ≤ 0 else 0 ≤ signed s k) ∧ (signed s k).natAbs = k := by
    intro k
    cases s <;> simp [signed]
  have hexp : e.toNat ≤ 971 := by
    unfold maxExponent at he
    omega
  rw [fraction?] at hp
  have hp := Option.some.inj hp
  by_cases hpos : 0 ≤ e
  · rw [if_pos hpos] at hp
    rw [← hp]
    refine ⟨(hsigned _).1, 53 + e.toNat, by omega, ?_⟩
    rw [(hsigned _).2, Nat.pow_add]
    exact Nat.mul_le_mul_right _ hm
  · rw [if_neg hpos] at hp
    rw [← hp]
    refine ⟨(hsigned _).1, 53, by omega, ?_⟩
    rw [(hsigned _).2]
    exact hm

private theorem natAbs_fdiv_le {a : ℤ} (ha : 0 ≤ a) (d : ℕ) : (a.fdiv d).natAbs ≤ a.natAbs := by
  obtain ⟨k, rfl⟩ := Int.eq_ofNat_of_zero_le ha
  rw [Int.fdiv_eq_ediv_of_nonneg _ (Int.natCast_nonneg d)]
  exact_mod_cast Nat.div_le_self k d

/-- The integer part of a number of the format, toward zero, has few digits. -/
theorem isShort_truncated {x : Binary64} (hx : x.InRange) {n : ℤ}
    (hn : (if x.isNegative then x.ceil? else x.floor?) = some n) : Value.IsShort n.natAbs := by
  have hfinite : ∃ s m e, x = .finite s m e := by
    cases x with
    | finite s m e => exact ⟨s, m, e, rfl⟩
    | infinity s => cases s <;> cases hn
    | nan => cases hn
  obtain ⟨s, m, e, rfl⟩ := hfinite
  cases hp : fraction? (.finite s m e) with
  | none => cases hp
  | some p =>
    obtain ⟨hsign, j, hj, hle⟩ := fraction?_inRange hx hp
    suffices hnat : n.natAbs ≤ p.1.natAbs from
      Value.isShort_of_le_two_pow (hnat.trans hle) (by unfold Value.maxDigits; omega)
    cases s with
    | true =>
      rw [isNegative, if_pos rfl, ceil?, hp, Option.map_some, Option.some.injEq] at hn
      rw [if_pos rfl] at hsign
      rw [← hn, Int.natAbs_neg, ← Int.natAbs_neg p.1]
      exact natAbs_fdiv_le (by omega) p.2
    | false =>
      rw [isNegative, if_neg (by decide), floor?, hp, Option.map_some, Option.some.injEq] at hn
      rw [if_neg (by decide)] at hsign
      rw [← hn]
      exact natAbs_fdiv_le hsign p.2

end Binary64

namespace Value

/-- A property of a value and of all values in it. -/
inductive All (P : Value → Prop) : Value → Prop
  | intro {v : Value} (here : P v) (items : ∀ items, v = .list items → ∀ w ∈ items, All P w)
      (fields : ∀ fields, v = .record fields → ∀ f ∈ fields, All P f.2) : All P v

variable {P Q : Value → Prop} {v : Value}

theorem All.here (h : All P v) : P v := by
  cases h with
  | intro here _ _ => exact here

theorem All.imp (h : All P v) (hPQ : ∀ w, P w → Q w) : All Q v := by
  induction h with
  | intro here _ _ items fields => exact .intro (hPQ _ here) items fields

/-- Whether nothing is in a value. -/
def isScalar : Value → Bool
  | .list _ => false
  | .record _ => false
  | _ => true

theorem All.of_scalar (h : P v) (hscalar : v.isScalar = true) : All P v := by
  refine .intro h (fun items heq => ?_) fun fields heq => ?_
  · subst heq
    cases hscalar
  · subst heq
    cases hscalar

private theorem all_list {items : List Value} (h : P (.list items)) (hitems : ∀ w ∈ items, All P w) :
    All P (.list items) := by
  refine .intro h (fun items' heq => ?_) fun fields heq => (by cases heq)
  cases heq
  exact hitems

theorem all_record {fields : Fields Value} (h : P (.record fields)) (hfields : ∀ f ∈ fields, All P f.2) :
    All P (.record fields) := by
  refine .intro h (fun items heq => (by cases heq)) fun fields' heq => ?_
  cases heq
  exact hfields

theorem All.field {fields : Fields Value} (h : All P (.record fields)) : ∀ f ∈ fields, All P f.2 := by
  cases h with
  | intro _ _ inner => exact inner fields rfl

/-- What a text of `n` characters can hold. -/
def Fits (n : ℕ) : Value → Prop
  | .null => True
  | .bool _ => True
  | .int k => IsShort k.natAbs
  | .float x => x.InRange
  | .text s => s.length ≤ n
  | .list items => items.length ≤ n
  | .record fields => fields.length ≤ n
  | _ => False

theorem Fits.mono {m n : ℕ} (hmn : m ≤ n) (h : Fits m v) : Fits n v := by
  cases v with
  | text s => exact Nat.le_trans h hmn
  | list items => exact Nat.le_trans h hmn
  | record fields => exact Nat.le_trans h hmn
  | _ => exact h

end Value

namespace Json

open Value

/-! ### Scalars -/

private theorem length_joinPairs_le (ns : List ℕ) : (joinPairs ns).length ≤ ns.length := by
  induction ns using joinPairs.induct with
  | case1 => exact Nat.le_refl _
  | case2 n => exact Nat.le_refl _
  | case3 m n ns hpair ih =>
    rw [joinPairs, if_pos hpair]
    simp only [List.length_cons]
    omega
  | case4 m n ns hpair ih =>
    rw [joinPairs, if_neg hpair]
    simp only [List.length_cons] at ih ⊢
    omega

private theorem length_readText {acc : List ℕ} {s t rest : List Char} (h : readText acc s = some (t, rest)) :
    t.length + rest.length + 1 ≤ acc.length + s.length := by
  induction acc, s using readText.induct with
  | case1 acc => cases h
  | case2 acc s =>
    cases h
    have hjoin := length_joinPairs_le acc.reverse
    simp only [List.length_reverse, List.length_cons] at hjoin ⊢
    omega
  | case3 acc a b c d s code hcode ih =>
    rw [readText, hcode] at h
    have := ih h
    simp only [List.length_cons] at this ⊢
    omega
  | case4 acc a b c d s hcode =>
    rw [readText, hcode] at h
    cases h
  | case5 acc c s hu c' hescape ih =>
    rw [readText, hescape] at h
    · have := ih h
      simp only [List.length_cons] at this ⊢
      omega
    · exact hu
  | case6 acc c s hu hescape =>
    rw [readText, hescape] at h
    · cases h
    · exact hu
  | case7 acc c s h1 h2 h3 hcontrol =>
    rw [readText, if_pos hcontrol] at h
    · cases h
    · exact h1
    · exact h2
    · exact h3
  | case8 acc c s h1 h2 h3 hcontrol ih =>
    rw [readText, if_neg hcontrol] at h
    · have := ih h
      simp only [List.length_cons] at this ⊢
      omega
    · exact h1
    · exact h2
    · exact h3

private theorem length_dropWhile_le (p : Char → Bool) (s : List Char) : (s.dropWhile p).length ≤ s.length :=
  (List.dropWhile_sublist p).length_le

private theorem length_skipBlanks_le (s : List Char) : (skipBlanks s).length ≤ s.length := length_dropWhile_le _ s

private theorem length_readFraction_le (s : List Char) : (readFraction s).2.length ≤ s.length := by
  unfold readFraction
  split
  next t =>
    dsimp only
    split
    next => exact Nat.le_refl _
    next =>
      have := length_dropWhile_le Char.isDigit t
      simp only [List.length_cons]
      omega
  next => exact Nat.le_refl _

private theorem length_readSign_le (s : List Char) : (readSign s).2.length ≤ s.length := by
  unfold readSign
  split
  next => exact Nat.le_succ _
  next => exact Nat.le_succ _
  next => exact Nat.le_refl _

private theorem length_readTail_le (s : List Char) : (readTail s).rest.length ≤ s.length := by
  rw [readTail_eq]
  refine Nat.le_trans ?_ (length_readFraction_le s)
  generalize (readFraction s).1 = fraction
  generalize (readFraction s).2 = t
  unfold readExponent
  split
  next c t =>
    split
    next =>
      dsimp only
      split
      next => exact Nat.le_refl _
      next =>
        have hdrop := length_dropWhile_le Char.isDigit (readSign t).2
        have hsign := length_readSign_le t
        simp only [List.length_cons]
        omega
    next => exact Nat.le_refl _
  next => exact Nat.le_refl _

private theorem wholeDigits_isDigit (s : List Char) : ∀ c ∈ wholeDigits s, c.isDigit = true := by
  unfold wholeDigits
  split
  next => exact isDigit_replicate_zero 1
  next => exact fun c hc => List.all_eq_true.1 List.all_takeWhile c hc

private theorem digitsValue_lt {digits : List Char} (h : ∀ c ∈ digits, c.isDigit = true) :
    digitsValue digits < 10 ^ digits.length := by
  induction digits with
  | nil => decide
  | cons c digits ih =>
    obtain ⟨hc, h⟩ := List.forall_mem_cons.1 h
    have hdigit : c.toNat - 48 < 10 := by
      simp only [Char.isDigit, Bool.and_eq_true, decide_eq_true_eq] at hc
      have hhigh : c.toNat ≤ 57 := hc.2
      omega
    have hrest := ih h
    rw [digitsValue_eq] at hrest ⊢
    rw [Nat.ofDigitChars_cons, Nat.ofDigitChars_eq_ofDigitChars_zero, List.length_cons, Nat.pow_succ]
    have hmul : 10 ^ digits.length * (10 * 0 + (c.toNat - '0'.toNat)) ≤ 10 ^ digits.length * 9 :=
      Nat.mul_le_mul_left _ (by rw [Nat.mul_zero, Nat.zero_add]; exact Nat.le_of_lt_succ hdigit)
    omega

/-- Digits that are not too many write a number that has not too many. -/
theorem isShort_digitsValue {digits : List Char} (h : ∀ c ∈ digits, c.isDigit = true)
    (hlength : digits.length ≤ maxDigits) : IsShort (digitsValue digits) :=
  isShort_iff.2 ((digitsValue_lt h).trans_le (Nat.pow_le_pow_right (by decide) hlength))

private theorem readNumber_fits {negative : Bool} {s rest : List Char} {v : Value}
    (h : readNumber negative s = .ok (v, rest)) (n : ℕ) : rest.length ≤ s.length ∧ All (Fits n) v := by
  have htail : (readTail (s.drop (wholeDigits s).length)).rest.length ≤ s.length := by
    refine Nat.le_trans (length_readTail_le _) ?_
    rw [List.length_drop]
    exact Nat.sub_le _ _
  rw [readNumber_eq] at h
  split at h
  next => cases h
  next =>
    dsimp only at h
    split at h
    next =>
      split at h
      next => cases h
      next hlength =>
        cases h
        refine ⟨htail, .of_scalar ?_ rfl⟩
        have hdigits := isShort_digitsValue (wholeDigits_isDigit s) (not_lt.1 hlength)
        cases negative with
        | true => simpa [Fits] using hdigits
        | false => simpa [Fits] using hdigits
    next =>
      cases h
      refine ⟨htail, .of_scalar ?_ rfl⟩
      rw [Fits]
      split
      next => exact Binary64.inRange_zero negative
      next => exact Binary64.inRange_ofDecimal negative _ _

private theorem readWord_fits {s rest : List Char} {v : Value} (h : readWord s = .ok (v, rest)) (n : ℕ) :
    rest.length ≤ s.length ∧ All (Fits n) v := by
  have hnan : Binary64.InRange .nan := fun _ _ _ heq => by cases heq
  have hinfinity : ∀ negative, Binary64.InRange (.infinity negative) := fun _ _ _ _ heq => by cases heq
  unfold readWord at h
  dsimp only at h
  split at h
  next r hfind =>
    cases h
    obtain ⟨⟨w, u⟩, hmem, hword⟩ := List.exists_of_findSome?_eq_some hfind
    obtain ⟨t, ht, heq⟩ := Option.map_eq_some_iff.1 hword
    cases heq
    constructor
    · rw [dropWord?] at ht
      split at ht
      next =>
        cases ht
        rw [List.length_drop]
        exact Nat.sub_le _ _
      next => cases ht
    · simp only [List.mem_cons, Prod.mk.injEq, List.not_mem_nil, or_false] at hmem
      rcases hmem with ⟨-, rfl⟩ | ⟨-, rfl⟩ | ⟨-, rfl⟩ | ⟨-, rfl⟩ | ⟨-, rfl⟩ | ⟨-, rfl⟩ <;>
        refine .of_scalar ?_ rfl
      · exact trivial
      · exact trivial
      · exact trivial
      · exact hnan
      · exact hinfinity _
      · exact hinfinity _
  next => cases h

/-! ### Lists and records -/

/-- The invariant of the readers, on the fuel that they have. -/
structure Bounded (fuel : ℕ) : Prop where
  value : ∀ s v rest, readValue fuel s = .ok (v, rest) →
    rest.length ≤ s.length ∧ ∀ n, s.length ≤ n → All (Fits n) v
  items : ∀ s vs rest, readItems fuel s = .ok (vs, rest) →
    vs.length + rest.length ≤ s.length ∧ ∀ n, s.length ≤ n → ∀ v ∈ vs, All (Fits n) v
  fields : ∀ acc s fs rest, readFields fuel acc s = .ok (fs, rest) →
    fs.length + rest.length ≤ acc.length + s.length ∧
      ∀ n, s.length ≤ n → (∀ f ∈ acc, All (Fits n) f.2) → ∀ f ∈ fs, All (Fits n) f.2

private theorem bounded_zero : Bounded 0 := by
  refine ⟨fun s v rest h => ?_, fun s vs rest h => ?_, fun acc s fs rest h => ?_⟩
  · unfold readValue at h
    cases h
  · unfold readItems at h
    cases h
  · unfold readFields at h
    cases h

private theorem Bounded.succ_value {fuel : ℕ} (ih : Bounded fuel) {s rest : List Char} {v : Value}
    (h : readValue (fuel + 1) s = .ok (v, rest)) : rest.length ≤ s.length ∧ ∀ n, s.length ≤ n → All (Fits n) v := by
  unfold readValue at h
  split at h
  next t =>
    split at h
    next text rest' htext =>
      cases h
      have hlength := length_readText htext
      simp only [List.length_nil, List.length_cons] at hlength ⊢
      refine ⟨by omega, fun n hn => .of_scalar ?_ rfl⟩
      rw [Fits, String.length_ofList]
      omega
    next => cases h
  next t =>
    have hblanks := length_skipBlanks_le t
    split at h
    next rest' hskip =>
      cases h
      rw [hskip] at hblanks
      simp only [List.length_cons] at hblanks ⊢
      exact ⟨by omega, fun n _ => all_list (Nat.zero_le n) fun w hw => absurd hw List.not_mem_nil⟩
    next =>
      obtain ⟨⟨vs, rest'⟩, hitems, h⟩ := Outcome.bind_eq_ok.1 h
      cases h
      obtain ⟨hlength, hfit⟩ := ih.items _ _ _ hitems
      rw [List.length_cons]
      refine ⟨by omega, fun n hn => all_list ?_ (hfit n (by omega))⟩
      rw [Fits]
      omega
  next t =>
    have hblanks := length_skipBlanks_le t
    split at h
    next rest' hskip =>
      cases h
      rw [hskip] at hblanks
      simp only [List.length_cons] at hblanks ⊢
      exact ⟨by omega, fun n _ => all_record (Nat.zero_le n) fun f hf => absurd hf List.not_mem_nil⟩
    next =>
      obtain ⟨⟨fs, rest'⟩, hfields, h⟩ := Outcome.bind_eq_ok.1 h
      cases h
      obtain ⟨hlength, hfit⟩ := ih.fields _ _ _ _ hfields
      rw [List.length_nil, Nat.zero_add] at hlength
      rw [List.length_cons]
      refine ⟨by omega, fun n hn => all_record ?_ (hfit n (by omega) fun f hf => absurd hf List.not_mem_nil)⟩
      rw [Fits]
      omega
  next t =>
    split at h
    next => exact ⟨(readWord_fits h 0).1, fun n _ => (readWord_fits h n).2⟩
    next => exact ⟨Nat.le_succ_of_le (readNumber_fits h 0).1, fun n _ => (readNumber_fits h n).2⟩
  next c t _ _ _ _ =>
    split at h
    next => exact ⟨(readNumber_fits h 0).1, fun n _ => (readNumber_fits h n).2⟩
    next => exact ⟨(readWord_fits h 0).1, fun n _ => (readWord_fits h n).2⟩
  next => cases h

private theorem Bounded.succ_items {fuel : ℕ} (ih : Bounded fuel) {s rest : List Char} {vs : List Value}
    (h : readItems (fuel + 1) s = .ok (vs, rest)) :
    vs.length + rest.length ≤ s.length ∧ ∀ n, s.length ≤ n → ∀ v ∈ vs, All (Fits n) v := by
  unfold readItems at h
  obtain ⟨⟨v, u⟩, hvalue, h⟩ := Outcome.bind_eq_ok.1 h
  obtain ⟨hlength, hfit⟩ := ih.value _ _ _ hvalue
  have hblanks := length_skipBlanks_le u
  dsimp only at h
  split at h
  next t hskip =>
    obtain ⟨⟨ws, rest'⟩, hitems, h⟩ := Outcome.bind_eq_ok.1 h
    cases h
    obtain ⟨hlengths, hfits⟩ := ih.items _ _ _ hitems
    have hblanks' := length_skipBlanks_le t
    rw [hskip, List.length_cons] at hblanks
    simp only [List.length_cons]
    exact ⟨by omega, fun n hn => List.forall_mem_cons.2 ⟨hfit n hn, hfits n (by omega)⟩⟩
  next rest' hskip =>
    cases h
    rw [hskip, List.length_cons] at hblanks
    rw [List.length_singleton]
    exact ⟨by omega, fun n hn => List.forall_mem_singleton.2 (hfit n hn)⟩
  next => cases h

private theorem Bounded.succ_fields {fuel : ℕ} (ih : Bounded fuel) {acc fs : Fields Value} {s rest : List Char}
    (h : readFields (fuel + 1) acc s = .ok (fs, rest)) :
    fs.length + rest.length ≤ acc.length + s.length ∧
      ∀ n, s.length ≤ n → (∀ f ∈ acc, All (Fits n) f.2) → ∀ f ∈ fs, All (Fits n) f.2 := by
  unfold readFields at h
  split at h
  next t =>
    split at h
    next => cases h
    next name u hname =>
      split at h
      next w hcolon =>
        obtain ⟨⟨v, x⟩, hvalue, h⟩ := Outcome.bind_eq_ok.1 h
        obtain ⟨hlength, hfit⟩ := ih.value _ _ _ hvalue
        -- the lengths of the parts, from the left to the right
        have hname := length_readText hname
        have hu := length_skipBlanks_le u
        have hw := length_skipBlanks_le w
        have hx := length_skipBlanks_le x
        have hput := Fields.length_put_le (String.ofList name) v acc
        rw [hcolon] at hu
        simp only [List.length_nil, List.length_cons] at hname hu ⊢
        have hfits : ∀ n, t.length + 1 ≤ n → (∀ f ∈ acc, All (Fits n) f.2) →
            ∀ f ∈ Fields.put (String.ofList name) v acc, All (Fits n) f.2 := by
          intro n hn hacc f hf
          rcases Fields.mem_put hf with heq | hf
          · rw [heq]
            exact hfit n (by omega)
          · exact hacc f hf
        dsimp only at h
        split at h
        next y hcomma =>
          obtain ⟨hlengths, hrest⟩ := ih.fields _ _ _ _ h
          have hy := length_skipBlanks_le y
          rw [hcomma, List.length_cons] at hx
          exact ⟨by omega, fun n hn hacc => hrest n (by omega) (hfits n hn hacc)⟩
        next rest' hbrace =>
          cases h
          rw [hbrace, List.length_cons] at hx
          exact ⟨by omega, hfits⟩
        next => cases h
      next => cases h
  next => cases h

private theorem bounded : ∀ fuel, Bounded fuel
  | 0 => bounded_zero
  | fuel + 1 =>
    ⟨fun _ _ _ h => (bounded fuel).succ_value h, fun _ _ _ h => (bounded fuel).succ_items h,
      fun _ _ _ _ h => (bounded fuel).succ_fields h⟩

/-- What is read from a text fits into it. -/
theorem all_fits_of_read {s : List Char} {v : Value} (h : read s = .ok v) : All (Fits s.length) v := by
  unfold read at h
  obtain ⟨⟨w, rest⟩, hvalue, h⟩ := Outcome.bind_eq_ok.1 h
  dsimp only at h
  split at h
  next =>
    cases h
    exact ((bounded _).value _ _ _ hvalue).2 _ (length_skipBlanks_le s)
  next => cases h

end Json

end Docsmith

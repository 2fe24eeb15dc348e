import Docsmith.Json.Reader
import Docsmith.Json.Writer

/-!
# Numbers in JSON

A number is written as a numeral, with or without a sign: digits that do not start with a zero unless it is the only
one, then perhaps a fraction and an exponent (`Numeral`).  A numeral is read as a whole and nothing after it, if what
follows cannot continue it (`readNumber_numeral`).  Integers and finite binary64 numbers are written as numerals
(`Numeral.ofNat`, `exists_numeral_positiveText`).
-/

namespace Docsmith.Json

/-! ### Digits -/

/-- The digits of a positive number do not start with a zero. -/
private theorem head_toDigits {n : Nat} (hn : 0 < n) : ∃ c cs, Nat.toDigits 10 n = c :: cs ∧ c ≠ '0' := by
  induction n using Nat.strongRecOn with
  | _ n ih =>
    by_cases hsmall : n < 10
    · refine ⟨n.digitChar, [], Nat.toDigits_of_lt_base hsmall, fun h => ?_⟩
      have hzero : n = 0 := Nat.digitChar_eq_zero.1 h
      omega
    · obtain ⟨c, cs, hcs, hc⟩ := ih (n / 10) (by omega) (by omega)
      refine ⟨c, cs ++ [(n % 10).digitChar], ?_, hc⟩
      rw [Nat.toDigits_of_base_le (by omega) (by omega), hcs, List.cons_append]

theorem isDigit_of_mem_toDigits {n : Nat} : ∀ c ∈ Nat.toDigits 10 n, c.isDigit = true :=
  fun _ hc => Nat.isDigit_of_mem_toDigits (by decide) (by decide) hc

theorem digitsValue_eq (digits : List Char) : digitsValue digits = Nat.ofDigitChars 10 digits 0 := by
  have hfold : ∀ n, digits.foldl (fun n c => n * 10 + (c.toNat - 48)) n = Nat.ofDigitChars 10 digits n := by
    induction digits with
    | nil => exact fun n => rfl
    | cons c digits ih =>
      intro n
      rw [List.foldl_cons, ih, Nat.ofDigitChars_cons, Nat.mul_comm n 10]
      rfl
  exact hfold 0

theorem digitsValue_toDigits (n : Nat) : digitsValue (Nat.toDigits 10 n) = n := by
  rw [digitsValue_eq, Nat.ofDigitChars_ten_toDigits]

section

variable {digits rest : List Char} (hdigits : ∀ c ∈ digits, c.isDigit = true)
  (hrest : ∀ c ∈ rest.head?, c.isDigit = false)

include hdigits hrest

private theorem takeWhile_digits : (digits ++ rest).takeWhile Char.isDigit = digits := by
  rw [List.takeWhile_append_of_pos hdigits]
  cases rest with
  | nil => rw [List.takeWhile_nil, List.append_nil]
  | cons c rest => rw [List.takeWhile_cons_of_neg (by simp [hrest c rfl]), List.append_nil]

private theorem dropWhile_digits : (digits ++ rest).dropWhile Char.isDigit = rest := by
  rw [List.dropWhile_append_of_pos hdigits]
  cases rest with
  | nil => rfl
  | cons c rest => rw [List.dropWhile_cons_of_neg (by simp [hrest c rfl])]

end

/-! ### Numerals -/

/-- Whether a text cannot continue a number. -/
def EndsNumber (rest : List Char) : Prop :=
  ∀ c ∈ rest.head?, c.isDigit = false ∧ c ≠ '.' ∧ c ≠ 'e' ∧ c ≠ 'E'

/-- A number as it is written, without its sign: the exponent has a sign of its own. -/
structure Numeral where
  whole : List Char
  fraction : List Char
  exponent : Option (Bool × List Char)
  whole_digits : ∀ c ∈ whole, c.isDigit = true
  whole_leads : whole = ['0'] ∨ ∃ c cs, whole = c :: cs ∧ c ≠ '0'
  fraction_digits : ∀ c ∈ fraction, c.isDigit = true
  exponent_digits : ∀ p ∈ exponent, p.2 ≠ [] ∧ ∀ c ∈ p.2, c.isDigit = true

namespace Numeral

/-- The fraction with its point. -/
def fractionText (n : Numeral) : List Char := if n.fraction = [] then [] else '.' :: n.fraction

/-- The exponent with its letter and its sign. -/
def exponentText (n : Numeral) : List Char :=
  match n.exponent with
  | some (negative, digits) => 'e' :: (if negative then '-' else '+') :: digits
  | none => []

/-- The text of a numeral. -/
def text (n : Numeral) : List Char := n.whole ++ (n.fractionText ++ n.exponentText)

/-- The power of ten that the exponent gives. -/
def exponentValue (n : Numeral) : Option Int :=
  n.exponent.map fun p => if p.1 then -(digitsValue p.2 : Int) else digitsValue p.2

/-- Whether a numeral stands for an integer. -/
def isInt (n : Numeral) : Bool := n.fraction.isEmpty && n.exponent.isNone

/-- The number that a numeral stands for. -/
def value (negative : Bool) (n : Numeral) : Value :=
  if n.isInt then .int (if negative then -(digitsValue n.whole : Int) else digitsValue n.whole)
  else
    let digits := digitsValue (n.whole ++ n.fraction)
    let e := max (-exponentLimit) (min exponentLimit (n.exponentValue.getD 0)) - n.fraction.length
    .float (if digits = 0 then .zero negative else .ofDecimal negative digits e)

end Numeral

/-- Reads the fraction of a number, if it is complete; gives its digits and what follows. -/
def readFraction (s : List Char) : List Char × List Char :=
  match s with
  | '.' :: t =>
    let digits := t.takeWhile Char.isDigit
    if digits.isEmpty then ([], s) else (digits, t.dropWhile Char.isDigit)
  | _ => ([], s)

/-- Reads the sign of an exponent. -/
def readSign (s : List Char) : Bool × List Char :=
  match s with
  | '-' :: u => (true, u)
  | '+' :: u => (false, u)
  | _ => (false, s)

/-- Reads the exponent of a number, if it is complete. -/
def readExponent (fraction s : List Char) : Tail :=
  match s with
  | c :: t =>
    if c == 'e' || c == 'E' then
      let digits := (readSign t).2.takeWhile Char.isDigit
      if digits.isEmpty then ⟨fraction, none, s⟩
      else
        let n : Int := digitsValue digits
        ⟨fraction, some (if (readSign t).1 then -n else n), (readSign t).2.dropWhile Char.isDigit⟩
    else ⟨fraction, none, s⟩
  | [] => ⟨fraction, none, []⟩

theorem readTail_eq (s : List Char) : readTail s = readExponent (readFraction s).1 (readFraction s).2 := by
  unfold readTail readExponent readSign readFraction
  rfl

private theorem readFraction_none {rest : List Char} (h : ∀ c ∈ rest.head?, c ≠ '.') :
    readFraction rest = ([], rest) := by
  cases rest with
  | nil => rfl
  | cons c rest =>
    have hc : c ≠ '.' := h c rfl
    unfold readFraction
    split
    next heq => exact absurd (List.cons.inj heq).1 hc
    next => rfl

private theorem readFraction_digits {digits rest : List Char} (hne : digits ≠ [])
    (hdigits : ∀ c ∈ digits, c.isDigit = true)
    (hrest : ∀ c ∈ rest.head?, c.isDigit = false) : readFraction ('.' :: (digits ++ rest)) = (digits, rest) := by
  have hempty : digits.isEmpty = false := by simpa using hne
  simp only [readFraction, takeWhile_digits hdigits hrest, dropWhile_digits hdigits hrest, hempty, Bool.false_eq_true,
    if_false]

private theorem readExponent_none {fraction rest : List Char} (h : ∀ c ∈ rest.head?, c ≠ 'e' ∧ c ≠ 'E') :
    readExponent fraction rest = ⟨fraction, none, rest⟩ := by
  cases rest with
  | nil => rfl
  | cons c rest =>
    obtain ⟨he, hE⟩ := h c rfl
    simp [readExponent, he, hE]

private theorem readExponent_digits {digits rest : List Char} (negative : Bool) (fraction : List Char)
    (hne : digits ≠ []) (hdigits : ∀ c ∈ digits, c.isDigit = true) (hrest : ∀ c ∈ rest.head?, c.isDigit = false) :
    readExponent fraction ('e' :: (if negative then '-' else '+') :: (digits ++ rest)) =
      ⟨fraction, some (if negative then -(digitsValue digits : Int) else digitsValue digits), rest⟩ := by
  have hempty : digits.isEmpty = false := by simpa using hne
  have hsign : readSign ((if negative then '-' else '+') :: (digits ++ rest)) = (negative, digits ++ rest) := by
    cases negative <;> rfl
  simp [readExponent, hsign, takeWhile_digits hdigits hrest, dropWhile_digits hdigits hrest, hempty]

namespace Numeral

variable {rest : List Char}

/-- What follows the digits of a numeral is no digit. -/
private theorem exponentText_head (n : Numeral) (hrest : EndsNumber rest) :
    ∀ c ∈ (n.exponentText ++ rest).head?, c.isDigit = false ∧ c ≠ '.' := by
  intro c hc
  rw [exponentText] at hc
  cases hexponent : n.exponent with
  | none =>
    rw [hexponent] at hc
    exact ⟨(hrest c hc).1, (hrest c hc).2.1⟩
  | some p =>
    simp only [hexponent, List.cons_append, List.head?_cons, Option.mem_def, Option.some.injEq] at hc
    subst hc
    decide

private theorem readExponent_text (n : Numeral) (fraction : List Char) (hrest : EndsNumber rest) :
    readExponent fraction (n.exponentText ++ rest) = ⟨fraction, n.exponentValue, rest⟩ := by
  rw [exponentText, exponentValue]
  cases hexponent : n.exponent with
  | none => exact readExponent_none fun c hc => (hrest c hc).2.2
  | some p =>
    obtain ⟨hne, hdigits⟩ := n.exponent_digits p hexponent
    exact readExponent_digits p.1 fraction hne hdigits fun c hc => (hrest c hc).1

private theorem readTail_text (n : Numeral) (hrest : EndsNumber rest) :
    readTail (n.fractionText ++ (n.exponentText ++ rest)) = ⟨n.fraction, n.exponentValue, rest⟩ := by
  have hhead := n.exponentText_head hrest
  rw [readTail_eq, fractionText]
  by_cases hfraction : n.fraction = []
  · rw [if_pos hfraction, List.nil_append, readFraction_none fun c hc => (hhead c hc).2, hfraction]
    exact n.readExponent_text [] hrest
  · rw [if_neg hfraction, List.cons_append, readFraction_digits hfraction n.fraction_digits fun c hc => (hhead c hc).1]
    exact n.readExponent_text n.fraction hrest

/-- What follows the whole part of a numeral is no digit. -/
private theorem tail_head (n : Numeral) (hrest : EndsNumber rest) :
    ∀ c ∈ (n.fractionText ++ (n.exponentText ++ rest)).head?, c.isDigit = false := by
  intro c hc
  rw [fractionText] at hc
  split at hc
  next => exact (n.exponentText_head hrest c hc).1
  next =>
    simp only [List.cons_append, List.head?_cons, Option.mem_def, Option.some.injEq] at hc
    subst hc
    decide

end Numeral

/-- The digits before the point: a zero stands alone. -/
def wholeDigits (s : List Char) : List Char :=
  match s with
  | '0' :: _ => ['0']
  | _ => s.takeWhile Char.isDigit

theorem readNumber_eq (negative : Bool) (s : List Char) :
    readNumber negative s =
      if (wholeDigits s).isEmpty then .error .badJson
      else
        let tail := readTail (s.drop (wholeDigits s).length)
        if tail.fraction.isEmpty && tail.exponent.isNone then
          if Value.maxDigits < (wholeDigits s).length then .error .badValue
          else
            let n : Int := digitsValue (wholeDigits s)
            .ok (.int (if negative then -n else n), tail.rest)
        else
          let digits := digitsValue (wholeDigits s ++ tail.fraction)
          let e := max (-exponentLimit) (min exponentLimit (tail.exponent.getD 0)) - tail.fraction.length
          .ok (.float (if digits = 0 then .zero negative else .ofDecimal negative digits e), tail.rest) := by
  unfold readNumber wholeDigits
  rfl

namespace Numeral

private theorem wholeDigits_text (n : Numeral) {rest : List Char} (hrest : EndsNumber rest) :
    wholeDigits (n.whole ++ (n.fractionText ++ (n.exponentText ++ rest))) = n.whole := by
  have htake := takeWhile_digits n.whole_digits (n.tail_head hrest)
  rcases n.whole_leads with hzero | ⟨c, cs, hcs, hc⟩
  · rw [hzero]
    rfl
  · rw [hcs] at htake ⊢
    unfold wholeDigits
    split
    next heq => exact absurd (List.cons.inj heq).1 hc
    next => exact htake

theorem whole_ne_nil (n : Numeral) : n.whole ≠ [] := by
  rcases n.whole_leads with h | ⟨c, cs, h, -⟩ <;> simp [h]

private theorem isNone_exponentValue (n : Numeral) : n.exponentValue.isNone = n.exponent.isNone := by
  rw [exponentValue, Option.isNone_map]

end Numeral

/-- A numeral is read as what it stands for, and what follows it is left. -/
theorem readNumber_numeral (n : Numeral) {rest : List Char} (hrest : EndsNumber rest) (negative : Bool)
    (hlength : n.isInt = true → n.whole.length ≤ Value.maxDigits) :
    readNumber negative (n.text ++ rest) = .ok (n.value negative, rest) := by
  have hne : n.whole.isEmpty = false := by simpa using n.whole_ne_nil
  have htext : n.text ++ rest = n.whole ++ (n.fractionText ++ (n.exponentText ++ rest)) := by
    rw [Numeral.text, List.append_assoc, List.append_assoc]
  rw [htext, readNumber_eq, n.wholeDigits_text hrest, List.drop_left, n.readTail_text hrest]
  have hisInt : (n.fraction.isEmpty && n.exponent.isNone) = n.isInt := rfl
  simp only [hne, n.isNone_exponentValue, hisInt, Bool.false_eq_true, if_false]
  by_cases hint : n.isInt = true
  · have hshort : ¬Value.maxDigits < n.whole.length := Nat.not_lt.2 (hlength hint)
    rw [if_pos hint, if_neg hshort, Numeral.value, if_pos hint]
  · rw [if_neg hint, Numeral.value, if_neg hint]

/-! ### Integers -/

/-- The numeral of a natural number. -/
def Numeral.ofNat (n : Nat) : Numeral where
  whole := Nat.toDigits 10 n
  fraction := []
  exponent := none
  whole_digits := isDigit_of_mem_toDigits
  whole_leads := by
    rcases Nat.eq_zero_or_pos n with rfl | hn
    · exact .inl (Nat.toDigits_zero 10)
    · exact .inr (head_toDigits hn)
  fraction_digits := fun _ hc => (by cases hc)
  exponent_digits := fun _ hp => (by cases hp)

theorem Numeral.text_ofNat (n : Nat) : (Numeral.ofNat n).text = Nat.toDigits 10 n := List.append_nil _

theorem Numeral.value_ofNat (negative : Bool) (n : Nat) :
    (Numeral.ofNat n).value negative = .int (if negative then -(n : Int) else n) := by
  have hvalue : digitsValue (Numeral.ofNat n).whole = n := digitsValue_toDigits n
  have hint : (Numeral.ofNat n).isInt = true := rfl
  rw [Numeral.value, if_pos hint, hvalue]

/-! ### Binary64 numbers -/

open Binary64

/-- The digits of a positive number without the zeros at their end. -/
private theorem dropZeros_digits {d : Nat} (hd : 0 < d) (k : Int) :
    ∃ c cs, (dropZeros (digitChars d) k).1 = c :: cs ∧ c ≠ '0' ∧ ∀ x ∈ c :: cs, x.isDigit = true := by
  obtain ⟨c, cs, hdigits, hc⟩ := head_toDigits hd
  have hall : ∀ x ∈ c :: cs, x.isDigit = true := hdigits ▸ isDigit_of_mem_toDigits
  have hkept : (dropZeros (digitChars d) k).1 = ((c :: cs).reverse.dropWhile (· == '0')).reverse := by
    rw [dropZeros, digitChars, hdigits]
  have hsplit : (dropZeros (digitChars d) k).1 ++ ((c :: cs).reverse.takeWhile (· == '0')).reverse = c :: cs := by
    rw [hkept, ← List.reverse_append, List.takeWhile_append_dropWhile, List.reverse_reverse]
  cases hcase : (dropZeros (digitChars d) k).1 with
  | nil =>
    -- all digits would be zeros
    rw [hcase, List.nil_append] at hsplit
    have hmem : c ∈ (c :: cs).reverse.takeWhile (· == '0') := by
      rw [← List.mem_reverse, hsplit]
      exact List.mem_cons_self
    have hzero : (((c :: cs).reverse.takeWhile (· == '0')).all (· == '0')) = true := List.all_takeWhile
    exact absurd (beq_iff_eq.1 (List.all_eq_true.1 hzero c hmem)) hc
  | cons a as =>
    rw [hcase, List.cons_append] at hsplit
    obtain ⟨rfl, hcs⟩ := List.cons.inj hsplit
    refine ⟨a, as, rfl, hc, fun x hx => hall x ?_⟩
    rcases List.mem_cons.1 hx with rfl | hx
    · exact List.mem_cons_self
    · exact List.mem_cons_of_mem _ (hcs ▸ List.mem_append_left _ hx)

private theorem ofDecimal_zero (k : Int) : ofDecimal false 0 k = .zero false := by
  rw [ofDecimal]
  split
  next => rw [Nat.zero_mul]; rfl
  next => rfl

private theorem div_le_divRound (a b : Nat) : a / b ≤ divRound a b := by
  simp only [divRound]
  split
  next => exact Nat.le_refl _
  next =>
    split
    next => exact Nat.le_succ _
    next =>
      split
      next => exact Nat.le_refl _
      next => exact Nat.le_succ _

/-- Only positive digits read back as a number that is not zero. -/
private theorem digitsReadingBack_pos {x : Binary64} {num den n d : Nat} {k : Int} (hx : x.isZero = false)
    (h : digitsReadingBack x num den n = some (d, k)) : 0 < d := by
  have hback : ∀ d k, (ofDecimal false d k == x) = true → 0 < d := by
    intro d k hd
    refine Nat.pos_of_ne_zero fun hzero => ?_
    rw [hzero, ofDecimal_zero] at hd
    rw [← beq_iff_eq.1 hd] at hx
    exact Bool.noConfusion hx
  unfold digitsReadingBack at h
  dsimp only at h
  generalize floorLog10 num den - (n - 1 : Nat) = e at h
  generalize (shiftTen num den e).1 = a at h
  generalize (shiftTen num den e).2 = b at h
  split at h
  next hlow _ =>
    obtain ⟨hd, -⟩ := Prod.mk.inj (Option.some.inj h)
    exact hd ▸ Nat.lt_of_lt_of_le (hback _ _ hlow) (div_le_divRound a b)
  next hlow _ =>
    obtain ⟨hd, -⟩ := Prod.mk.inj (Option.some.inj h)
    exact hd ▸ hback _ _ hlow
  next =>
    obtain ⟨hd, -⟩ := Prod.mk.inj (Option.some.inj h)
    exact hd ▸ Nat.succ_pos _
  next => cases h

private theorem shortestDigits_cases {x : Binary64} (hx : x.isZero = false) :
    0 < (shortestDigits x).1 ∨ shortestDigits x = (0, 0) := by
  unfold shortestDigits
  split
  next num den hfraction =>
    cases hfind : (List.range 17).findSome? fun n => digitsReadingBack x num.natAbs den (n + 1) with
    | none => exact .inr rfl
    | some r =>
      obtain ⟨n, -, hn⟩ := List.exists_of_findSome?_eq_some hfind
      exact .inl (digitsReadingBack_pos hx (d := r.1) (k := r.2) hn)
  next => exact .inr rfl

theorem isDigit_replicate_zero (n : Nat) : ∀ c ∈ List.replicate n '0', c.isDigit = true := by
  intro c hc
  rw [(List.mem_replicate.1 hc).2]
  rfl

/-- The digits of an exponent, at least two. -/
def exponentDigits (e : Int) : List Char :=
  if (digitChars e.natAbs).length < 2 then '0' :: digitChars e.natAbs else digitChars e.natAbs

private theorem exponentText_eq (e : Int) :
    Binary64.exponentText e = (if decide (e < 0) then '-' else '+') :: exponentDigits e := by
  simp only [Binary64.exponentText, exponentDigits, decide_eq_true_eq]

private theorem exponentDigits_digits (e : Int) : exponentDigits e ≠ [] ∧ ∀ c ∈ exponentDigits e, c.isDigit = true := by
  rw [exponentDigits]
  split
  next =>
    refine ⟨List.cons_ne_nil _ _, fun c hc => ?_⟩
    rcases List.mem_cons.1 hc with rfl | hc
    · rfl
    · exact isDigit_of_mem_toDigits c hc
  next => exact ⟨Nat.toDigits_ne_nil, isDigit_of_mem_toDigits⟩

/-- A numeral with digits after its point. -/
theorem exists_numeral_pointed {whole fraction : List Char} (hwhole : ∀ c ∈ whole, c.isDigit = true)
    (hleads : whole = ['0'] ∨ ∃ c cs, whole = c :: cs ∧ c ≠ '0') (hne : fraction ≠ [])
    (hfraction : ∀ c ∈ fraction, c.isDigit = true) :
    ∃ n : Numeral, n.isInt = false ∧ n.text = whole ++ '.' :: fraction := by
  refine ⟨⟨whole, fraction, none, hwhole, hleads, hfraction, fun _ hp => (by cases hp)⟩, ?_, ?_⟩
  · simp [Numeral.isInt, hne]
  · simp [Numeral.text, Numeral.fractionText, Numeral.exponentText, hne]

/-- A numeral with an exponent. -/
private theorem exists_numeral_scientific {c : Char} {cs : List Char} (hc : c ≠ '0')
    (hdigits : ∀ x ∈ c :: cs, x.isDigit = true) (e : Int) :
    ∃ n : Numeral, n.isInt = false ∧
      n.text = c :: ((if cs = [] then [] else '.' :: cs) ++ 'e' :: Binary64.exponentText e) := by
  refine ⟨⟨[c], cs, some (decide (e < 0), exponentDigits e), ?_, .inr ⟨c, [], rfl, hc⟩, ?_, ?_⟩, ?_, ?_⟩
  · intro x hx
    rw [List.mem_singleton.1 hx]
    exact hdigits c List.mem_cons_self
  · exact fun x hx => hdigits x (List.mem_cons_of_mem _ hx)
  · rintro p hp
    cases hp
    exact exponentDigits_digits e
  · simp [Numeral.isInt]
  · rw [exponentText_eq]
    rfl

/-- How digits are laid out, the last of which has the exponent `k`. -/
def layout (digits : List Char) (k : Int) : List Char :=
  let point : Int := digits.length + k
  if -4 < point ∧ point ≤ 16 then
    if point ≤ 0 then '0' :: '.' :: (List.replicate (-point).toNat '0' ++ digits)
    else if digits.length ≤ point.toNat then
      digits ++ List.replicate (point.toNat - digits.length) '0' ++ ['.', '0']
    else digits.take point.toNat ++ '.' :: digits.drop point.toNat
  else
    let mantissa := match digits with
      | [] => []
      | [c] => [c]
      | c :: cs => c :: '.' :: cs
    mantissa ++ 'e' :: Binary64.exponentText (point - 1)

private theorem positiveText_eq (x : Binary64) :
    positiveText x = layout (dropZeros (digitChars (shortestDigits x).1) (shortestDigits x).2).1
      (dropZeros (digitChars (shortestDigits x).1) (shortestDigits x).2).2 := by
  unfold positiveText layout
  rfl

/-- Digits of which the first is no zero are laid out as a numeral. -/
private theorem exists_numeral_layout {c : Char} {cs : List Char} (hc : c ≠ '0')
    (hdigits : ∀ x ∈ c :: cs, x.isDigit = true)
    (k : Int) : ∃ n : Numeral, n.isInt = false ∧ n.text = layout (c :: cs) k := by
  have hzero : ∀ x ∈ ['0'], x.isDigit = true := isDigit_replicate_zero 1
  unfold layout
  generalize ((c :: cs).length : Int) + k = point
  dsimp only
  split
  next hrange =>
    by_cases hlow : point ≤ 0
    · rw [if_pos hlow]
      refine exists_numeral_pointed hzero (.inl rfl) (by simp) fun x hx => ?_
      rcases List.mem_append.1 hx with hx | hx
      · exact isDigit_replicate_zero _ x hx
      · exact hdigits x hx
    · rw [if_neg hlow]
      by_cases hlength : (c :: cs).length ≤ point.toNat
      · rw [if_pos hlength]
        refine exists_numeral_pointed (fun x hx => ?_) (.inr ⟨c, _, rfl, hc⟩) (List.cons_ne_nil _ _) hzero
        rcases List.mem_append.1 hx with hx | hx
        · exact hdigits x hx
        · exact isDigit_replicate_zero _ x hx
      · rw [if_neg hlength]
        obtain ⟨m, hm⟩ : ∃ m, point.toNat = m + 1 := ⟨point.toNat - 1, by omega⟩
        rw [hm] at hlength ⊢
        refine exists_numeral_pointed (fun x hx => hdigits x (List.mem_of_mem_take hx))
          (.inr ⟨c, cs.take m, List.take_succ_cons, hc⟩) ?_ fun x hx => hdigits x (List.mem_of_mem_drop hx)
        rw [ne_eq, List.drop_eq_nil_iff]
        exact hlength
  next =>
    obtain ⟨n, hint, htext⟩ := exists_numeral_scientific hc hdigits (point - 1)
    refine ⟨n, hint, htext.trans ?_⟩
    cases cs with
    | nil => rfl
    | cons a cs => rfl

/-- A positive number is written as a numeral with a point or an exponent. -/
theorem exists_numeral_positiveText {x : Binary64} (hx : x.isZero = false) :
    ∃ n : Numeral, n.isInt = false ∧ n.text = positiveText x := by
  rcases shortestDigits_cases hx with hd | hd
  · obtain ⟨c, cs, hdrop, hc, hdigits⟩ := dropZeros_digits hd (shortestDigits x).2
    rw [positiveText_eq, hdrop]
    exact exists_numeral_layout hc hdigits _
  · have htext : positiveText x = ['0'] ++ '.' :: ['0'] := by
      rw [positiveText_eq, hd]
      rfl
    have hzero : ∀ c ∈ ['0'], c.isDigit = true := isDigit_replicate_zero 1
    rw [htext]
    exact exists_numeral_pointed hzero (.inl rfl) (List.cons_ne_nil _ _) hzero

end Docsmith.Json

import Docsmith.Proofs.Json.Numeral
import Docsmith.Proofs.Json.Quoted
import Docsmith.Proofs.Value.Access

/-!
# Reading back what was written

What `write` gives is read back as `reread` says: integers, truth values and texts as they are, and a number with a
point as such a number.  Of the fields of a record with one name the last is kept, as for any other JSON text; if the
names are different, each field is found again (`getOr_reread`).
-/

namespace Docsmith

namespace Json

/-! ### Numbers -/

private theorem readValue_digit {c : Char} (hc : c.isDigit = true) (fuel : Nat) (t : List Char) :
    readValue (fuel + 1) (c :: t) = readNumber false (c :: t) := by
  unfold readValue
  split
  next heq =>
    cases heq
    exact absurd hc (by decide)
  next heq =>
    cases heq
    exact absurd hc (by decide)
  next heq =>
    cases heq
    exact absurd hc (by decide)
  next heq =>
    cases heq
    exact absurd hc (by decide)
  next heq =>
    cases heq
    rw [if_pos hc]
  next heq => cases heq

private theorem readValue_minus {c : Char} (hc : c.isDigit = true) (fuel : Nat) (t : List Char) :
    readValue (fuel + 1) ('-' :: c :: t) = readNumber true (c :: t) := by
  unfold readValue
  split
  next heq => exact absurd (List.cons.inj heq).1 (by decide)
  next heq => exact absurd (List.cons.inj heq).1 (by decide)
  next heq => exact absurd (List.cons.inj heq).1 (by decide)
  next heq =>
    cases heq
    split
    next heq =>
      cases heq
      exact absurd hc (by decide)
    next => rfl
  next hminus heq => exact absurd (List.cons.inj heq).1.symm hminus
  next heq => cases heq

/-- A numeral with its sign is read as what it stands for. -/
private theorem readValue_numeral (n : Numeral) {rest : List Char} (hrest : EndsNumber rest) (negative : Bool)
    (hlength : n.isInt = true → n.whole.length ≤ Value.maxDigits) (fuel : Nat) :
    readValue (fuel + 1) ((if negative then ['-'] else []) ++ n.text ++ rest) = .ok (n.value negative, rest) := by
  have hread := readNumber_numeral n hrest negative hlength
  obtain ⟨c, cs, hcs⟩ := List.exists_cons_of_ne_nil n.whole_ne_nil
  have hc : c.isDigit = true := n.whole_digits c (hcs ▸ List.mem_cons_self)
  have htext : n.text = c :: (cs ++ (n.fractionText ++ n.exponentText)) := by
    rw [Numeral.text, hcs, List.cons_append]
  rw [htext] at hread ⊢
  cases negative with
  | true => exact (readValue_minus hc fuel _).trans hread
  | false => exact (readValue_digit hc fuel _).trans hread

/-- An integer that is written is read back, if it is not too long. -/
private theorem readValue_int {n : Int} (hlength : (Nat.toDigits 10 n.natAbs).length ≤ Value.maxDigits)
    {rest : List Char}
    (hrest : EndsNumber rest) (fuel : Nat) :
    readValue (fuel + 1) (Value.intText n ++ rest) = .ok (.int n, rest) := by
  have hread := fun negative => readValue_numeral (Numeral.ofNat n.natAbs) hrest negative (fun _ => hlength) fuel
  by_cases hneg : n < 0
  · have h := hread true
    have hvalue : (if true = true then -(n.natAbs : Int) else n.natAbs) = n := by
      rw [if_pos rfl]
      omega
    rw [Numeral.text_ofNat, Numeral.value_ofNat, hvalue] at h
    rw [Value.intText, if_pos hneg]
    exact h
  · have h := hread false
    have hvalue : (if false = true then -(n.natAbs : Int) else n.natAbs) = n := by
      rw [if_neg (by decide)]
      omega
    rw [Numeral.text_ofNat, Numeral.value_ofNat, hvalue] at h
    rw [Value.intText, if_neg hneg]
    exact h

/-- A finite number is written as a numeral with a point or an exponent. -/
private theorem exists_numeral_writeFloat (negative : Bool) (m : Nat) (e : Int) :
    ∃ n : Numeral, n.isInt = false ∧
      writeFloat (.finite negative m e) = (if negative then ['-'] else []) ++ n.text := by
  obtain ⟨n, hint, htext⟩ : ∃ n : Numeral, n.isInt = false ∧ n.text =
      if (Binary64.finite negative m e).isZero then ['0', '.', '0'] else (Binary64.finite false m e).positiveText := by
    split
    next =>
      have hzero : ∀ c ∈ ['0'], c.isDigit = true := isDigit_replicate_zero 1
      exact exists_numeral_pointed hzero (.inl rfl) (List.cons_ne_nil _ _) hzero
    next hm => exact exists_numeral_positiveText (eq_false_of_ne_true hm)
  refine ⟨n, hint, ?_⟩
  rw [htext]
  rfl

/-- The number that is read where a number was written. -/
def rereadFloat (x : Binary64) : Binary64 :=
  match readValue 1 (writeFloat x) with
  | .ok (.float y, _) => y
  | _ => .nan

private theorem Numeral.exists_value_float (n : Numeral) (h : n.isInt = false) (negative : Bool) :
    ∃ y, n.value negative = .float y := by
  rw [Numeral.value, if_neg (by rw [h]; decide)]
  exact ⟨_, rfl⟩

/-- A number with a point is read as such a number. -/
private theorem readValue_writeFloat (x : Binary64) {rest : List Char} (hrest : EndsNumber rest) (fuel : Nat) :
    readValue (fuel + 1) (writeFloat x ++ rest) = .ok (.float (rereadFloat x), rest) := by
  -- what is read does not depend on what follows, so it is what is read when nothing follows
  have hnone : EndsNumber [] := fun c hc => (by cases hc)
  suffices h : ∃ y, ∀ rest, EndsNumber rest → ∀ fuel, readValue (fuel + 1) (writeFloat x ++ rest) =
      .ok (.float y, rest) by
    obtain ⟨y, hy⟩ := h
    have hreread : rereadFloat x = y := by
      have hread := hy [] hnone 0
      rw [List.append_nil] at hread
      rw [rereadFloat, hread]
    rw [hreread]
    exact hy rest hrest fuel
  cases x with
  | nan => exact ⟨.nan, fun rest _ fuel => rfl⟩
  | infinity negative =>
    refine ⟨.infinity negative, fun rest _ fuel => ?_⟩
    cases negative <;> rfl
  | finite negative m e =>
    obtain ⟨n, hint, htext⟩ := exists_numeral_writeFloat negative m e
    obtain ⟨y, hy⟩ := n.exists_value_float hint negative
    refine ⟨y, fun rest hrest fuel => ?_⟩
    rw [← hy, htext]
    exact readValue_numeral n hrest negative (fun h => by rw [hint] at h; cases h) fuel

/-! ### Values -/

mutual

/-- What is read where a value was written.  What is no datum is null, and of fields with one name the last counts. -/
def reread : Value → Value
  | .bool b => .bool b
  | .int n => .int n
  | .float x => .float (rereadFloat x)
  | .text s => .text s
  | .list items => .list (rereadItems items)
  | .record fields => .record (Fields.overlay (rereadFields fields) [])
  | _ => .null

/-- What is read where the members of a list were written. -/
def rereadItems : List Value → List Value
  | [] => []
  | v :: vs => reread v :: rereadItems vs

/-- What is read where the fields of a record were written. -/
def rereadFields : List (String × Value) → List (String × Value)
  | [] => []
  | (k, v) :: fs => (k, reread v) :: rereadFields fs

end

mutual

/-- Whether all integers in a value are short enough to be read. -/
def isReadable : Value → Bool
  | .int n => decide ((Nat.toDigits 10 n.natAbs).length ≤ Value.maxDigits)
  | .list items => areReadable items
  | .record fields => areReadableIn fields
  | _ => true

/-- Whether all integers in the members of a list are short enough. -/
def areReadable : List Value → Bool
  | [] => true
  | v :: vs => isReadable v && areReadable vs

/-- Whether all integers in the fields of a record are short enough. -/
def areReadableIn : List (String × Value) → Bool
  | [] => true
  | (_, v) :: fs => isReadable v && areReadableIn fs

end

/-- The characters that no written value starts with. -/
def delimiters : List Char := [' ', '\t', '\n', '\r', ']']

private theorem not_mem_delimiters_of_isDigit {c : Char} (hc : c.isDigit = true) : c ∉ delimiters := by
  intro hmem
  have hall : delimiters.all (fun c => !c.isDigit) = true := by decide
  have hnot := List.all_eq_true.1 hall c hmem
  rw [hc] at hnot
  cases hnot

private theorem skipBlanks_cons {c : Char} (hc : c ∉ delimiters) (s : List Char) : skipBlanks (c :: s) = c :: s := by
  simp only [delimiters, List.mem_cons, not_or] at hc
  obtain ⟨h1, h2, h3, h4, -⟩ := hc
  rw [skipBlanks, List.dropWhile_cons_of_neg]
  simp [h1, h2, h3, h4]

private theorem Numeral.exists_text_cons (n : Numeral) : ∃ c t, n.text = c :: t ∧ c ∉ delimiters := by
  obtain ⟨c, cs, hcs⟩ := List.exists_cons_of_ne_nil n.whole_ne_nil
  refine ⟨c, cs ++ (n.fractionText ++ n.exponentText), ?_, ?_⟩
  · rw [Numeral.text, hcs, List.cons_append]
  · exact not_mem_delimiters_of_isDigit (n.whole_digits c (hcs ▸ List.mem_cons_self))

/-- Every written value starts with a character that is no blank and closes no list. -/
private theorem exists_write_cons (v : Value) : ∃ c t, write v = c :: t ∧ c ∉ delimiters := by
  cases v with
  | bool b => cases b <;> exact ⟨_, _, rfl, by decide⟩
  | int n =>
    rw [write, Value.intText]
    split
    next => exact ⟨_, _, rfl, by decide⟩
    next =>
      rw [← Numeral.text_ofNat]
      exact Numeral.exists_text_cons _
  | float x =>
    cases x with
    | nan => exact ⟨_, _, rfl, by decide⟩
    | infinity negative => cases negative <;> exact ⟨_, _, rfl, by decide⟩
    | finite negative m e =>
      obtain ⟨n, -, htext⟩ := exists_numeral_writeFloat negative m e
      rw [write, htext]
      cases negative with
      | true => exact ⟨_, _, rfl, by decide⟩
      | false => exact n.exists_text_cons
  | text s => exact ⟨_, _, by rw [write]; rfl, by decide⟩
  | list items => exact ⟨_, _, by rw [write]; rfl, by decide⟩
  | record fields => exact ⟨_, _, by rw [write]; rfl, by decide⟩
  | null => exact ⟨_, _, rfl, by decide⟩
  | creature attributes => exact ⟨_, _, by simp only [write]; rfl, by decide⟩
  | method => exact ⟨_, _, rfl, by decide⟩
  | calculator => exact ⟨_, _, rfl, by decide⟩

private theorem skipBlanks_write (v : Value) (s : List Char) : skipBlanks (write v ++ s) = write v ++ s := by
  obtain ⟨c, t, hwrite, hc⟩ := exists_write_cons v
  rw [hwrite, List.cons_append, skipBlanks_cons hc]

private theorem endsNumber_cons {c : Char} (hc : c ∈ [',', ']', '\x7d']) (s : List Char) : EndsNumber (c :: s) := by
  intro d hd
  cases hd
  simp only [List.mem_cons, List.not_mem_nil, or_false] at hc
  rcases hc with rfl | rfl | rfl <;> decide

private theorem readValue_null (fuel : Nat) (rest : List Char) :
    readValue (fuel + 1) ("null".toList ++ rest) = .ok (.null, rest) := rfl

private theorem readValue_bool (b : Bool) (fuel : Nat) (rest : List Char) :
    readValue (fuel + 1) ((if b then "true".toList else "false".toList) ++ rest) = .ok (.bool b, rest) := by
  cases b <;> rfl

private theorem writeText_append (s rest : List Char) :
    writeText s ++ rest = '"' :: (s.flatMap writeChar ++ '"' :: rest) := by
  simp [writeText]

private theorem readValue_text (s : List Char) (fuel : Nat) (rest : List Char) :
    readValue (fuel + 1) (writeText s ++ rest) = .ok (.text (String.ofList s), rest) := by
  rw [writeText_append]
  unfold readValue
  simp only [readText_write]

section

variable {fuel : Nat} {s t rest : List Char} {v : Value}

private theorem readValue_list {c : Char} {items : List Value} (hc : c ∉ delimiters)
    (h : readItems fuel (c :: t) = .ok (items, rest)) :
    readValue (fuel + 1) ('[' :: c :: t) = .ok (.list items, rest) := by
  have hclose : c ≠ ']' := fun heq => hc (heq ▸ by decide)
  unfold readValue
  simp only [skipBlanks_cons hc]
  split
  next heq => exact absurd (List.cons.inj heq).1 hclose
  next => rw [h]; rfl

private theorem readValue_record {fields : Fields Value} (h : readFields fuel [] ('"' :: t) = .ok (fields, rest)) :
    readValue (fuel + 1) ('\x7b' :: '"' :: t) = .ok (.record fields, rest) := by
  have hopen : skipBlanks ('"' :: t) = '"' :: t := skipBlanks_cons (by decide) t
  unfold readValue
  simp only [hopen]
  split
  next heq => exact absurd (List.cons.inj heq).1 (by decide)
  next => rw [h]; rfl

private theorem readItems_last
    (h : readValue fuel s = .ok (v, ']' :: rest)) : readItems (fuel + 1) s = .ok ([v], rest) := by
  have hclose : skipBlanks (']' :: rest) = ']' :: rest := rfl
  unfold readItems
  simp only [h, bind, Except.bind, hclose]

private theorem readItems_cons {vs : List Value} (h : readValue fuel s = .ok (v, ',' :: ' ' :: t))
    (ht : skipBlanks t = t)
    (hrest : readItems fuel t = .ok (vs, rest)) : readItems (fuel + 1) s = .ok (v :: vs, rest) := by
  have hcomma : skipBlanks (',' :: ' ' :: t) = ',' :: ' ' :: t := rfl
  have hblank : skipBlanks (' ' :: t) = t := ht
  unfold readItems
  simp only [h, bind, Except.bind, hcomma, hblank, hrest]

private theorem readFields_last {k : String} (acc : Fields Value) (ht : skipBlanks t = t)
    (h : readValue fuel t = .ok (v, '\x7d' :: rest)) :
    readFields (fuel + 1) acc (writeText k.toList ++ ':' :: ' ' :: t) = .ok (acc.put k v, rest) := by
  have hclose : skipBlanks ('\x7d' :: rest) = '\x7d' :: rest := rfl
  have hcolon : skipBlanks (':' :: ' ' :: t) = ':' :: ' ' :: t := rfl
  have hblank : skipBlanks (' ' :: t) = t := ht
  rw [writeText_append]
  unfold readFields
  simp only [readText_write, hcolon, hblank, h, bind, Except.bind, hclose, String.ofList_toList]

private theorem readFields_cons {k : String} {u : List Char} {fields : Fields Value} (acc : Fields Value)
    (ht : skipBlanks t = t) (h : readValue fuel t = .ok (v, ',' :: ' ' :: u)) (hu : skipBlanks u = u)
    (hrest : readFields fuel (acc.put k v) u = .ok (fields, rest)) :
    readFields (fuel + 1) acc (writeText k.toList ++ ':' :: ' ' :: t) = .ok (fields, rest) := by
  have hcomma : skipBlanks (',' :: ' ' :: u) = ',' :: ' ' :: u := rfl
  have hcolon : skipBlanks (':' :: ' ' :: t) = ':' :: ' ' :: t := rfl
  have hblank : skipBlanks (' ' :: t) = t := ht
  have hblank' : skipBlanks (' ' :: u) = u := hu
  rw [writeText_append]
  unfold readFields
  simp only [readText_write, hcolon, hblank, h, bind, Except.bind, hcomma, hblank', hrest, String.ofList_toList]

end

private theorem skipBlanks_writeItems (v : Value) (vs : List Value) (s : List Char) :
    skipBlanks (writeItems (v :: vs) ++ s) = writeItems (v :: vs) ++ s := by
  cases vs with
  | nil => exact skipBlanks_write v s
  | cons w vs =>
    rw [writeItems, List.append_assoc]
    exact skipBlanks_write v _

private theorem exists_writeFields_cons (k : String) (v : Value) (fs : List (String × Value)) (s : List Char) :
    ∃ t, writeFields ((k, v) :: fs) ++ s = '"' :: t := by
  cases fs with
  | nil => exact ⟨_, by rw [writeFields, List.append_assoc, writeText_append]⟩
  | cons f fs => exact ⟨_, by rw [writeFields, List.append_assoc, List.append_assoc, writeText_append]⟩

private theorem skipBlanks_writeFields (k : String) (v : Value) (fs : List (String × Value)) (s : List Char) :
    skipBlanks (writeFields ((k, v) :: fs) ++ s) = writeFields ((k, v) :: fs) ++ s := by
  obtain ⟨t, ht⟩ := exists_writeFields_cons k v fs s
  rw [ht]
  exact skipBlanks_cons (by decide) t

private theorem write_list_append (items : List Value) (rest : List Char) :
    write (.list items) ++ rest = '[' :: (writeItems items ++ ']' :: rest) := by
  simp [write]

private theorem write_record_append (fields : List (String × Value)) (rest : List Char) :
    write (.record fields) ++ rest = '\x7b' :: (writeFields fields ++ '\x7d' :: rest) := by
  simp [write]

private theorem exists_writeItems_cons (v : Value) (vs : List Value) (s : List Char) :
    ∃ c t, writeItems (v :: vs) ++ s = c :: t ∧ c ∉ delimiters := by
  obtain ⟨c, t, hwrite, hc⟩ := exists_write_cons v
  cases vs with
  | nil => exact ⟨c, t ++ s, by rw [writeItems, hwrite, List.cons_append], hc⟩
  | cons w vs => exact ⟨c, _, by rw [writeItems, hwrite, List.cons_append, List.cons_append], hc⟩

mutual

/-- What is written is read back, and what follows is left. -/
private theorem readValue_write : ∀ (v : Value) (fuel : Nat) (rest : List Char), isReadable v = true →
    (write v).length ≤ fuel → EndsNumber rest → readValue fuel (write v ++ rest) = .ok (reread v, rest)
  | v, 0, _, _, hfuel, _ => by
    obtain ⟨c, t, hwrite, -⟩ := exists_write_cons v
    rw [hwrite] at hfuel
    cases hfuel
  | .bool b, fuel + 1, rest, _, _, _ => by
    rw [write, reread]
    exact readValue_bool b fuel rest
  | .int n, fuel + 1, rest, hread, _, hrest => by
    rw [isReadable, decide_eq_true_eq] at hread
    rw [write, reread]
    exact readValue_int hread hrest fuel
  | .float x, fuel + 1, rest, _, _, hrest => by
    rw [write, reread]
    exact readValue_writeFloat x hrest fuel
  | .text s, fuel + 1, rest, _, _, _ => by
    rw [write, reread, readValue_text, String.ofList_toList]
  | .list [], fuel + 1, rest, _, _, _ => by
    rw [write, writeItems, reread, rereadItems]
    rfl
  | .list (v :: vs), fuel + 1, rest, hread, hfuel, _ => by
    have hlength : (writeItems (v :: vs)).length < fuel := by
      simp [write] at hfuel
      omega
    have hitems := readItems_write v vs fuel rest (by rwa [isReadable] at hread) hlength
    obtain ⟨c, t, hcons, hc⟩ := exists_writeItems_cons v vs (']' :: rest)
    rw [hcons] at hitems
    rw [write_list_append, hcons, reread]
    exact readValue_list hc hitems
  | .record [], fuel + 1, rest, _, _, _ => by
    rw [write, writeFields, reread, rereadFields]
    rfl
  | .record ((k, v) :: fs), fuel + 1, rest, hread, hfuel, _ => by
    have hlength : (writeFields ((k, v) :: fs)).length < fuel := by
      simp [write] at hfuel
      omega
    have hfields := readFields_write k v fs fuel [] rest (by rwa [isReadable] at hread) hlength
    obtain ⟨t, ht⟩ := exists_writeFields_cons k v fs ('\x7d' :: rest)
    rw [ht] at hfields
    rw [write_record_append, ht, reread]
    exact readValue_record hfields
  | .null, fuel + 1, rest, _, _, _ => by
    simp only [write, reread]
    exact readValue_null fuel rest
  | .creature _, fuel + 1, rest, _, _, _ => by
    simp only [write, reread]
    exact readValue_null fuel rest
  | .method, fuel + 1, rest, _, _, _ => by
    simp only [write, reread]
    exact readValue_null fuel rest
  | .calculator, fuel + 1, rest, _, _, _ => by
    simp only [write, reread]
    exact readValue_null fuel rest

theorem readItems_write :
    ∀ (v : Value) (vs : List Value) (fuel : Nat) (rest : List Char), areReadable (v :: vs) = true →
    (writeItems (v :: vs)).length < fuel →
    readItems fuel (writeItems (v :: vs) ++ ']' :: rest) = .ok (rereadItems (v :: vs), rest)
  | _, _, 0, _, _, hfuel => by cases hfuel
  | v, [], fuel + 1, rest, hread, hfuel => by
    rw [areReadable, Bool.and_eq_true] at hread
    rw [writeItems] at hfuel ⊢
    rw [rereadItems, rereadItems]
    exact readItems_last
      (readValue_write v fuel _ hread.1 (Nat.le_of_lt_succ hfuel) (endsNumber_cons (by decide) rest))
  | v, w :: vs, fuel + 1, rest, hread, hfuel => by
    rw [areReadable, Bool.and_eq_true] at hread
    rw [writeItems] at hfuel ⊢
    simp only [List.length_append, List.length_cons] at hfuel
    have hfirst := readValue_write v fuel (',' :: ' ' :: (writeItems (w :: vs) ++ ']' :: rest)) hread.1 (by omega)
      (endsNumber_cons (by decide) _)
    have hrest := readItems_write w vs fuel rest hread.2 (by omega)
    rw [rereadItems, List.append_assoc]
    exact readItems_cons hfirst (skipBlanks_writeItems w vs _) hrest

theorem readFields_write : ∀ (k : String) (v : Value) (fs : List (String × Value)) (fuel : Nat) (acc : Fields Value)
    (rest : List Char), areReadableIn ((k, v) :: fs) = true → (writeFields ((k, v) :: fs)).length < fuel →
    readFields fuel acc (writeFields ((k, v) :: fs) ++ '\x7d' :: rest) =
      .ok (Fields.overlay (rereadFields ((k, v) :: fs)) acc, rest)
  | _, _, _, 0, _, _, _, hfuel => by cases hfuel
  | k, v, [], fuel + 1, acc, rest, hread, hfuel => by
    rw [areReadableIn, Bool.and_eq_true] at hread
    rw [writeFields] at hfuel ⊢
    simp only [List.length_append, List.length_cons] at hfuel
    have hvalue := readValue_write v fuel ('\x7d' :: rest) hread.1 (by omega) (endsNumber_cons (by decide) rest)
    rw [rereadFields, rereadFields, List.append_assoc]
    exact readFields_last acc (skipBlanks_write v _) hvalue
  | k, v, (l, w) :: fs, fuel + 1, acc, rest, hread, hfuel => by
    rw [areReadableIn, Bool.and_eq_true] at hread
    rw [writeFields] at hfuel ⊢
    simp only [List.length_append, List.length_cons] at hfuel
    have hvalue := readValue_write v fuel (',' :: ' ' :: (writeFields ((l, w) :: fs) ++ '\x7d' :: rest)) hread.1
      (by omega) (endsNumber_cons (by decide) _)
    have hrest := readFields_write l w fs fuel (Fields.put k (reread v) acc) rest hread.2 (by omega)
    rw [rereadFields, List.append_assoc, List.append_assoc]
    exact readFields_cons acc (skipBlanks_write v _) hvalue (skipBlanks_writeFields l w fs _) hrest

end

/-- A text that was written is read back. -/
theorem read_write {v : Value} (h : isReadable v = true) : read (write v) = .ok (reread v) := by
  have hnone : EndsNumber [] := fun c hc => (by cases hc)
  have hread := readValue_write v ((write v).length + 1) [] h (Nat.le_succ _) hnone
  have hblank := skipBlanks_write v []
  rw [List.append_nil] at hread hblank
  rw [read, hblank, hread]
  rfl

/-! ### Records -/

theorem areReadableIn_iff {fields : Fields Value} :
    areReadableIn fields = true ↔ ∀ f ∈ fields, isReadable f.2 = true := by
  induction fields with
  | nil => simp [areReadableIn]
  | cons f fields ih =>
    obtain ⟨k, v⟩ := f
    rw [areReadableIn, Bool.and_eq_true, ih, List.forall_mem_cons]

theorem isReadable_record_map {α : Type} (f : α → String × Value) (hf : ∀ a, isReadable (f a).2 = true)
    (as : List α) : isReadable (.record (as.map f)) = true := by
  rw [isReadable, areReadableIn_iff]
  intro g hg
  obtain ⟨a, -, rfl⟩ := List.mem_map.1 hg
  exact hf a

private theorem get?_rereadFields (k : String) (fs : Fields Value) :
    Fields.get? k (rereadFields fs) = (Fields.get? k fs).map reread := by
  induction fs with
  | nil => rfl
  | cons f fs ih =>
    obtain ⟨name, v⟩ := f
    rw [rereadFields, Fields.get?, Fields.get?, ih]
    split <;> rfl

private theorem names_rereadFields (fs : Fields Value) : Fields.names (rereadFields fs) = fs.names := by
  induction fs with
  | nil => rfl
  | cons f fs ih =>
    obtain ⟨name, v⟩ := f
    rw [rereadFields]
    exact congrArg (name :: ·) ih

/-- A field of a record that was written and read back. -/
theorem getOr_reread {fs : Fields Value} {k : String} {v : Value} (hnodup : fs.names.Nodup) (h : fs.get? k = some v)
    (fallback : Value) : (reread (.record fs)).getOr (.text k) fallback = .ok (reread v) := by
  have hget : Fields.get? k (rereadFields fs) = some (reread v) := by rw [get?_rereadFields, h, Option.map_some]
  rw [reread, Value.getOr_record, Fields.get?_overlay (by rwa [names_rereadFields]) hget, Option.getD_some]

/-! ### Characters of a written value -/

private theorem isPrintable_of_isDigit {c : Char} (hc : c.isDigit = true) : isPrintable c = true := by
  simp only [Char.isDigit, Bool.and_eq_true, decide_eq_true_eq] at hc
  have hlow : 48 ≤ c.toNat := hc.1
  have hhigh : c.toNat ≤ 57 := hc.2
  exact isPrintable_iff.2 ⟨by omega, by omega⟩

private theorem all_isPrintable_digits {digits : List Char} (h : ∀ c ∈ digits, c.isDigit = true) :
    digits.all isPrintable = true :=
  List.all_eq_true.2 fun c hc => isPrintable_of_isDigit (h c hc)

private theorem Numeral.all_isPrintable_text (n : Numeral) : n.text.all isPrintable = true := by
  have hexponent : n.exponentText.all isPrintable = true := by
    rw [exponentText]
    cases h : n.exponent with
    | none => rfl
    | some p =>
      have hdigits := all_isPrintable_digits (n.exponent_digits p h).2
      obtain ⟨negative, digits⟩ := p
      cases negative <;> simp only [List.all_cons, hdigits] <;> decide
  have hfraction : n.fractionText.all isPrintable = true := by
    rw [fractionText]
    split
    next => rfl
    next =>
      rw [List.all_cons, all_isPrintable_digits n.fraction_digits]
      decide
  rw [text, List.all_append, List.all_append, all_isPrintable_digits n.whole_digits, hfraction, hexponent]
  rfl

private theorem all_isPrintable_intText (n : Int) : (Value.intText n).all isPrintable = true := by
  have hdigits : (Nat.toDigits 10 n.natAbs).all isPrintable = true := all_isPrintable_digits isDigit_of_mem_toDigits
  rw [Value.intText]
  split
  next =>
    rw [List.all_cons, hdigits]
    decide
  next => exact hdigits

private theorem all_isPrintable_writeFloat (x : Binary64) : (writeFloat x).all isPrintable = true := by
  cases x with
  | nan => decide
  | infinity negative => cases negative <;> decide
  | finite negative m e =>
    obtain ⟨n, -, htext⟩ := exists_numeral_writeFloat negative m e
    rw [htext, List.all_append, n.all_isPrintable_text]
    cases negative <;> decide

mutual

/-- A value is written in printable ASCII characters, so on one line. -/
theorem all_isPrintable_write : ∀ v : Value, (write v).all isPrintable = true
  | .bool b => by cases b <;> (rw [write]; decide)
  | .int n => by
    rw [write]
    exact all_isPrintable_intText n
  | .float x => by
    rw [write]
    exact all_isPrintable_writeFloat x
  | .text s => by
    rw [write]
    exact all_isPrintable_writeText s.toList
  | .list items => by
    rw [write, List.all_append, List.all_cons, all_isPrintable_writeItems items]
    decide
  | .record fields => by
    rw [write, List.all_append, List.all_cons, all_isPrintable_writeFields fields]
    decide
  | .null => by simp only [write]; decide
  | .creature _ => by simp only [write]; decide
  | .method => by simp only [write]; decide
  | .calculator => by simp only [write]; decide

theorem all_isPrintable_writeItems : ∀ items : List Value, (writeItems items).all isPrintable = true
  | [] => by rw [writeItems]; rfl
  | [v] => by
    rw [writeItems]
    exact all_isPrintable_write v
  | v :: w :: vs => by
    rw [writeItems, List.all_append, List.all_cons, List.all_cons, all_isPrintable_write v,
      all_isPrintable_writeItems (w :: vs)]
    decide

theorem all_isPrintable_writeFields : ∀ fields : List (String × Value), (writeFields fields).all isPrintable = true
  | [] => by rw [writeFields]; rfl
  | [(k, v)] => by
    rw [writeFields, List.all_append, List.all_cons, List.all_cons, all_isPrintable_write v,
      all_isPrintable_writeText]
    decide
  | (k, v) :: f :: fs => by
    rw [writeFields, List.all_append, List.all_append, List.all_cons, List.all_cons, List.all_cons, List.all_cons,
      all_isPrintable_write v, all_isPrintable_writeText, all_isPrintable_writeFields (f :: fs)]
    decide

end

end Json

end Docsmith

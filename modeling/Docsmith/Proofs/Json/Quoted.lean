import Docsmith.Json.Reader
import Docsmith.Json.Writer

/-!
# Texts in JSON

A character is written as itself, as an escape of one letter or by its code points in hexadecimal (`writeChar_cases`).
A text that is written so is read back (`readText_write`), and all its characters are printable
(`all_isPrintable_writeText`).
-/

namespace Docsmith.Json

private theorem hexDigit?_digitChar : ∀ d, d < 16 → hexDigit? d.digitChar = some d := by decide

/-- The four hexadecimal digits of a 16-bit unit. -/
private theorem hexDigits_four {n : Nat} (hn : n < 65536) :
    Text.hexDigits 4 n =
      [(n / 4096).digitChar, (n / 256 % 16).digitChar, (n / 16 % 16).digitChar, (n % 16).digitChar] := by
  have hstep : ∀ m, 16 ≤ m → Nat.toDigits 16 m = Nat.toDigits 16 (m / 16) ++ [(m % 16).digitChar] :=
    fun m hm => Nat.toDigits_of_base_le (by omega) hm
  have hone : ∀ m, m < 16 → Nat.toDigits 16 m = [m.digitChar] := fun m hm => Nat.toDigits_of_lt_base hm
  have hzero : ∀ m, m = 0 → m.digitChar = '0' := fun m hm => by rw [hm]; rfl
  have hsecond : n / 16 / 16 = n / 256 := by omega
  have hthird : n / 256 / 16 = n / 4096 := by omega
  unfold Text.hexDigits
  by_cases h1 : n < 16
  · rw [hone n h1, hzero (n / 4096) (by omega), hzero (n / 256 % 16) (by omega), hzero (n / 16 % 16) (by omega),
      Nat.mod_eq_of_lt h1]
    rfl
  · by_cases h2 : n < 256
    · rw [hstep n (by omega), hone (n / 16) (by omega), hzero (n / 4096) (by omega), hzero (n / 256 % 16) (by omega),
        Nat.mod_eq_of_lt (show n / 16 < 16 by omega)]
      rfl
    · by_cases h3 : n < 4096
      · rw [hstep n (by omega), hstep (n / 16) (by omega), hsecond, hone (n / 256) (by omega),
          hzero (n / 4096) (by omega), Nat.mod_eq_of_lt (show n / 256 < 16 by omega)]
        rfl
      · rw [hstep n (by omega), hstep (n / 16) (by omega), hsecond, hstep (n / 256) (by omega), hthird,
          hone (n / 4096) (by omega)]
        rfl

private theorem readText_writeUnit {n : Nat} (hn : n < 65536) (acc : List Nat) (s : List Char) :
    readText acc (writeUnit n ++ s) = readText (n :: acc) s := by
  have hunit : unit? (n / 4096).digitChar (n / 256 % 16).digitChar (n / 16 % 16).digitChar (n % 16).digitChar =
      some n := by
    simp only [unit?, hexDigit?_digitChar (n / 4096) (by omega), hexDigit?_digitChar (n / 256 % 16) (by omega),
      hexDigit?_digitChar (n / 16 % 16) (by omega), hexDigit?_digitChar (n % 16) (by omega), Option.bind_eq_bind,
      Option.bind_some, Option.pure_def, Option.some.injEq]
    omega
  rw [writeUnit, hexDigits_four hn]
  simp only [List.cons_append, List.nil_append, readText, hunit]

/-- The 16-bit units of a character. -/
def units (c : Char) : List Nat :=
  if c.toNat < 0x10000 then [c.toNat] else [0xD800 + (c.toNat - 0x10000) / 0x400, 0xDC00 + (c.toNat - 0x10000) % 0x400]

private theorem units_of_lt {c : Char} (hc : c.toNat < 0x10000) : units c = [c.toNat] := by rw [units, if_pos hc]

private theorem lt_of_mem_units {c : Char} : ∀ n ∈ units c, n < 65536 := by
  have hvalid : c.toNat < 0xD800 ∨ (0xDFFF < c.toNat ∧ c.toNat < 0x110000) := c.valid
  intro n hn
  rw [units] at hn
  split at hn
  next hplane =>
    rw [List.mem_singleton.1 hn]
    exact hplane
  next =>
    simp only [List.mem_cons, List.not_mem_nil, or_false] at hn
    omega

/-- Whether a character is a printable ASCII character. -/
def isPrintable (c : Char) : Bool := decide (' ' ≤ c ∧ c ≤ '~')

theorem isPrintable_iff {c : Char} : isPrintable c = true ↔ 32 ≤ c.toNat ∧ c.toNat ≤ 126 := decide_eq_true_iff

/-- A character is written by the letter of an escape, as it is, or by its units. -/
private theorem writeChar_cases (c : Char) :
    (∃ e, writeChar c = ['\\', e] ∧ escape? e = some c ∧ e ≠ 'u' ∧ isPrintable e = true ∧ c.toNat < 0x10000) ∨
      (writeChar c = [c] ∧ isPrintable c = true ∧ c ≠ '"' ∧ c ≠ '\\') ∨
      writeChar c = (units c).flatMap writeUnit := by
  by_cases h1 : c = '"'
  · subst h1
    exact .inl ⟨'"', rfl, rfl, by decide, by decide, by decide⟩
  by_cases h2 : c = '\\'
  · subst h2
    exact .inl ⟨'\\', rfl, rfl, by decide, by decide, by decide⟩
  by_cases h3 : c = '\n'
  · subst h3
    exact .inl ⟨'n', rfl, rfl, by decide, by decide, by decide⟩
  by_cases h4 : c = '\r'
  · subst h4
    exact .inl ⟨'r', rfl, rfl, by decide, by decide, by decide⟩
  by_cases h5 : c = '\t'
  · subst h5
    exact .inl ⟨'t', rfl, rfl, by decide, by decide, by decide⟩
  by_cases h6 : c = '\x08'
  · subst h6
    exact .inl ⟨'b', rfl, rfl, by decide, by decide, by decide⟩
  by_cases h7 : c = '\x0c'
  · subst h7
    exact .inl ⟨'f', rfl, rfl, by decide, by decide, by decide⟩
  rw [writeChar, if_neg h1, if_neg h2, if_neg h3, if_neg h4, if_neg h5, if_neg h6, if_neg h7]
  by_cases hprint : ' ' ≤ c ∧ c ≤ '~'
  · rw [if_pos hprint]
    exact .inr (.inl ⟨rfl, decide_eq_true hprint, h1, h2⟩)
  rw [if_neg hprint]
  by_cases hplane : c.toNat < 0x10000
  · rw [if_pos hplane, units_of_lt hplane]
    exact .inr (.inr (List.append_nil _).symm)
  rw [if_neg hplane, units, if_neg hplane]
  exact .inr (.inr (congrArg (writeUnit _ ++ ·) (List.append_nil _).symm))

private theorem readText_plain {c : Char} (hquote : c ≠ '"') (hslash : c ≠ '\\') (hprint : isPrintable c = true)
    (acc : List Nat) (s : List Char) : readText acc (c :: s) = readText (c.toNat :: acc) s := by
  have hcontrol : ¬c.toNat < 0x20 := Nat.not_lt.2 (isPrintable_iff.1 hprint).1
  rw [readText]
  · rw [if_neg hcontrol]
  · exact hquote
  · exact fun a b c d s h _ => hslash h
  · exact fun c s h _ => hslash h

private theorem readText_escape {c e : Char} (hescape : escape? e = some c) (hu : e ≠ 'u') (acc : List Nat)
    (s : List Char) :
    readText acc ('\\' :: e :: s) = readText (c.toNat :: acc) s := by
  rw [readText]
  · simp only [hescape]
  · exact fun a b c d s h _ => hu h

private theorem readText_units {ns : List Nat} (hns : ∀ n ∈ ns, n < 65536) (acc : List Nat) (s : List Char) :
    readText acc (ns.flatMap writeUnit ++ s) = readText (ns.reverse ++ acc) s := by
  induction ns generalizing acc with
  | nil => rfl
  | cons n ns ih =>
    obtain ⟨hn, hns⟩ := List.forall_mem_cons.1 hns
    rw [List.flatMap_cons, List.append_assoc, readText_writeUnit hn, ih hns, List.reverse_cons, List.append_assoc]
    rfl

/-- A character that is written is read as its units. -/
private theorem readText_writeChar (c : Char) (acc : List Nat) (s : List Char) :
    readText acc (writeChar c ++ s) = readText ((units c).reverse ++ acc) s := by
  rcases writeChar_cases c with ⟨e, hwrite, hescape, hu, -, hc⟩ | ⟨hwrite, hprint, hquote, hslash⟩ | hwrite
  · rw [hwrite, units_of_lt hc]
    exact readText_escape hescape hu acc s
  · have hc := (isPrintable_iff.1 hprint).2
    rw [hwrite, units_of_lt (by omega)]
    exact readText_plain hquote hslash hprint acc s
  · rw [hwrite]
    exact readText_units lt_of_mem_units acc s

private theorem charOfCode_toNat (c : Char) : charOfCode c.toNat = c := by
  have hvalid : c.toNat.isValidChar := c.valid
  rw [charOfCode, if_pos hvalid, Char.ofNat_toNat]

/-- The units of a character are joined to it again. -/
private theorem joinPairs_units (c : Char) (ns : List Nat) : joinPairs (units c ++ ns) = c :: joinPairs ns := by
  have hvalid : c.toNat < 0xD800 ∨ (0xDFFF < c.toNat ∧ c.toNat < 0x110000) := c.valid
  unfold units
  by_cases hplane : c.toNat < 0x10000
  · rw [if_pos hplane]
    cases ns with
    | nil =>
      simp only [List.append_nil, joinPairs, charOfCode_toNat]
    | cons n ns =>
      simp only [List.cons_append, List.nil_append, joinPairs, charOfCode_toNat]
      rw [if_neg (by omega)]
  · rw [if_neg hplane]
    have hcode : 0x10000 + (0xD800 + (c.toNat - 0x10000) / 0x400 - 0xD800) * 0x400 +
        (0xDC00 + (c.toNat - 0x10000) % 0x400 - 0xDC00) = c.toNat := by omega
    simp only [List.cons_append, List.nil_append, joinPairs]
    rw [if_pos (by omega), hcode, charOfCode_toNat]

/-- A text that is written is read back. -/
theorem readText_write (s rest : List Char) : readText [] (s.flatMap writeChar ++ '"' :: rest) = some (s, rest) := by
  have hread : ∀ acc, readText acc (s.flatMap writeChar ++ '"' :: rest) =
      some (joinPairs (acc.reverse ++ s.flatMap units), rest) := by
    induction s with
    | nil =>
      intro acc
      rw [List.flatMap_nil, List.flatMap_nil, List.append_nil]
      rfl
    | cons c s ih =>
      intro acc
      rw [List.flatMap_cons, List.append_assoc, readText_writeChar, ih, List.reverse_append, List.reverse_reverse,
        List.append_assoc, List.flatMap_cons]
  have hjoin : ∀ s : List Char, joinPairs (s.flatMap units) = s := by
    intro s
    induction s with
    | nil => rfl
    | cons c s ih => rw [List.flatMap_cons, joinPairs_units, ih]
  rw [hread [], List.reverse_nil, List.nil_append, hjoin]

/-! ### Characters of a written text -/

private theorem all_isPrintable_writeUnit {n : Nat} (hn : n < 65536) : (writeUnit n).all isPrintable = true := by
  have hdigit : ∀ d, d < 16 → isPrintable d.digitChar = true := by decide
  rw [writeUnit, hexDigits_four hn]
  simp only [List.all_cons, List.all_nil, hdigit (n / 4096) (by omega), hdigit (n / 256 % 16) (by omega),
    hdigit (n / 16 % 16) (by omega), hdigit (n % 16) (by omega)]
  decide

private theorem all_isPrintable_writeChar (c : Char) : (writeChar c).all isPrintable = true := by
  have hslash : isPrintable '\\' = true := by decide
  rcases writeChar_cases c with ⟨e, hwrite, -, -, hprint, -⟩ | ⟨hwrite, hprint, -, -⟩ | hwrite
  · simp [hwrite, hslash, hprint]
  · simp [hwrite, hprint]
  · rw [hwrite, List.all_flatMap]
    exact List.all_eq_true.2 fun n hn => all_isPrintable_writeUnit (lt_of_mem_units n hn)

theorem all_isPrintable_writeText (s : List Char) : (writeText s).all isPrintable = true := by
  have hquote : isPrintable '"' = true := by decide
  have hchars : (s.flatMap writeChar).all isPrintable = true := by
    rw [List.all_flatMap]
    exact List.all_eq_true.2 fun c _ => all_isPrintable_writeChar c
  simp [writeText, hquote, hchars]

end Docsmith.Json

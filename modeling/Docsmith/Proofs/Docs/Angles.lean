import Docsmith.Proofs.Docs.Argument
import Docsmith.Proofs.Docs.Section
import Docsmith.Proofs.Text.Pieces

/-!
# Angle brackets

The docstring of a function has a backslash before every angle bracket (`escaped_escapeAngles`), and none of the steps
that make a page of it takes the two apart: a text is cut only behind characters that are no backslash
(`Escaped.right`), and texts are put together as they are (`Escaped.append`).  So on the page of a function every
angle bracket has its backslash, unless there is one in the name (`angles_escaped`), and in an identifier there is
none.
-/

namespace Docsmith.Docs

/-- Whether a character is an angle bracket. -/
def isAngle (c : Char) : Bool := c == '<' || c == '>'

/-- Every angle bracket of a text comes at once after a backslash. -/
def Escaped (s : List Char) : Prop :=
  ∀ before c after, s = before ++ c :: after → isAngle c → before.getLast? = some '\\'

namespace Escaped

variable {s t : List Char}

private theorem nil : Escaped [] := by
  intro before c after h
  simp at h

private theorem of_forall (h : ∀ c ∈ s, isAngle c = false) : Escaped s := by
  intro before c after hs hc
  have hnot := h c (by simp [hs])
  rw [hc] at hnot
  cases hnot

private theorem of_any (h : s.any isAngle = false) : Escaped s :=
  of_forall fun c hc => Bool.eq_false_iff.2 (List.any_eq_false.1 h c hc)

private theorem append (hs : Escaped s) (ht : Escaped t) : Escaped (s ++ t) := by
  intro before c after h hc
  rcases List.append_eq_append_iff.1 h with ⟨more, rfl, hmore⟩ | ⟨more, rfl, hmore⟩
  · -- the bracket is in the second text, after `more`
    have hlast := ht more c after hmore hc
    rw [List.getLast?_append, hlast]
    rfl
  · cases more with
    | nil =>
      have hlast := ht [] c after hmore.symm hc
      cases hlast
    | cons d more =>
      obtain ⟨rfl, -⟩ := List.cons.inj hmore
      exact hs before c more rfl hc

theorem left (h : Escaped (s ++ t)) : Escaped s := by
  intro before c after hs hc
  exact h before c (after ++ t) (by simp [hs]) hc

/-- What follows a character that is no backslash does not begin with an angle bracket. -/
private theorem right (h : Escaped (s ++ t)) (hs : s.getLast? ≠ some '\\') : Escaped t := by
  intro before c after ht hc
  have hlast := h (s ++ before) c after (by simp [ht]) hc
  rw [List.getLast?_append] at hlast
  cases hbefore : before.getLast? with
  | none =>
    rw [hbefore] at hlast
    exact absurd hlast hs
  | some d =>
    rw [hbefore] at hlast
    exact hlast

/-- Changing characters other than backslashes and brackets, to no brackets. -/
private theorem map {f : Char → Char} (h : Escaped s) (hbackslash : f '\\' = '\\')
    (hangle : ∀ c, isAngle (f c) → isAngle c) : Escaped (s.map f) := by
  intro before c after hmap hc
  obtain ⟨before', rest, rfl, rfl, hrest⟩ := List.map_eq_append_iff.1 hmap
  obtain ⟨c', after', rfl, rfl, -⟩ := List.map_eq_cons_iff.1 hrest
  rw [List.getLast?_map, h before' c' after' rfl (hangle c' hc), Option.map_some, hbackslash]

private theorem flatten {ps : List (List Char)} (h : ∀ p ∈ ps, Escaped p) : Escaped ps.flatten := by
  induction ps with
  | nil => exact nil
  | cons p ps ih =>
    obtain ⟨hp, hps⟩ := List.forall_mem_cons.1 h
    exact hp.append (ih hps)

private theorem flatMap {α : Type} {f : α → List Char} {xs : List α} (h : ∀ x ∈ xs, Escaped (f x)) :
    Escaped (xs.flatMap f) := by
  refine flatten fun p hp => ?_
  obtain ⟨x, hx, rfl⟩ := List.mem_map.1 hp
  exact h x hx

private theorem join {sep : List Char} {ps : List (List Char)} (hsep : Escaped sep) (h : ∀ p ∈ ps, Escaped p) :
    Escaped (Text.join sep ps) := by
  induction ps with
  | nil => exact nil
  | cons p ps ih =>
    obtain ⟨hp, hps⟩ := List.forall_mem_cons.1 h
    cases ps with
    | nil => exact hp
    | cons q ps => exact (hp.append hsep).append (ih hps)

/-- The pieces between separators that do not end with a backslash. -/
private theorem of_join {sep : List Char} {ps : List (List Char)} (hne : sep ≠ []) (hsep : sep.getLast? ≠ some '\\')
    (h : Escaped (Text.join sep ps)) : ∀ p ∈ ps, Escaped p := by
  induction ps with
  | nil => exact fun p hp => (by cases hp)
  | cons p ps ih =>
    cases ps with
    | nil =>
      intro q hq
      rw [List.mem_singleton.1 hq]
      exact h
    | cons q ps =>
      have hcut : (p ++ sep).getLast? ≠ some '\\' := by
        rw [List.getLast?_append, List.getLast?_eq_some_getLast hne, Option.some_or]
        rwa [List.getLast?_eq_some_getLast hne] at hsep
      exact List.forall_mem_cons.2 ⟨h.left.left, ih (h.right hcut)⟩

private theorem splitOn {sep : List Char} (h : Escaped s) (hne : sep ≠ []) (hsep : sep.getLast? ≠ some '\\') :
    ∀ p ∈ Text.splitOn sep s, Escaped p :=
  of_join hne hsep ((Text.join_splitOn hne s).symm ▸ h)

/-- Taking a part away that does not end with a backslash. -/
private theorem remove {part : List Char} (h : Escaped s) (hne : part ≠ []) (hpart : part.getLast? ≠ some '\\') :
    Escaped (Text.replaceAll part [] s) := by
  rw [Text.replaceAll_eq_join hne]
  exact join nil (h.splitOn hne hpart)

private theorem trim (h : Escaped s) : Escaped (Text.trim s) := by
  have hleft : Escaped (Text.trimLeft s) := by
    refine right ((Text.trimLeft_append s).symm ▸ h) fun hlast => ?_
    -- a backslash is not blank
    have hmem := List.mem_of_getLast? hlast
    have hblank := List.all_eq_true.1 (List.all_takeWhile (p := Text.isBlank) (l := s)) _ hmem
    revert hblank
    decide
  exact left ((Text.trimRight_append (Text.trimLeft s)).symm ▸ hleft)

end Escaped

/-! ### The docstring -/

theorem escapeAngles_eq (s : List Char) :
    escapeAngles s = s.flatMap fun c => if isAngle c then ['\\', c] else [c] := by
  rw [escapeAngles, Text.replaceAll_singleton, Text.replaceAll_singleton, List.flatMap_assoc]
  refine congrArg (List.flatMap · s) (funext fun c => ?_)
  by_cases hless : c = '<'
  · subst hless
    decide
  · by_cases hgreater : c = '>'
    · subst hgreater
      decide
    · simp [isAngle, hless, hgreater]

private theorem escaped_pair (c : Char) : Escaped ['\\', c] := by
  intro before d after h hd
  cases before with
  | nil =>
    obtain ⟨rfl, -⟩ := List.cons.inj h
    cases hd
  | cons e before =>
    obtain ⟨rfl, h⟩ := List.cons.inj h
    cases before with
    | nil => rfl
    | cons f before => simp at h

theorem escaped_escapeAngles (s : List Char) : Escaped (escapeAngles s) := by
  rw [escapeAngles_eq]
  refine Escaped.flatMap fun c _ => ?_
  split
  next => exact escaped_pair c
  next hc => exact Escaped.of_forall (by simpa using hc)

/-! ### The sections of a page -/

private theorem Escaped.cutLast {mark : List Char} {fits : List Char → List Char → Bool} {s x y : List Char}
    (hs : Escaped s)
    (hne : mark ≠ []) (hmark : mark.getLast? ≠ some '\\') (h : Docs.cutLast mark fits [] s = some (x, y)) :
    Escaped x ∧ Escaped y := by
  obtain ⟨⟨_, rfl, hcut⟩, -⟩ := cutLast_spec hne h
  have hjoin : s = Text.join mark [x, y] := hcut
  rw [hjoin] at hs
  have hparts := Escaped.of_join hne hmark hs
  exact ⟨hparts x (by simp), hparts y (by simp)⟩

private theorem escaped_renderArgumentLine {line : List Char} (h : Escaped line) :
    Escaped (renderArgumentLine line) := by
  rw [renderArgumentLine]
  cases hline : Argument.ofLine? line with
  | none => exact (Escaped.of_any (by decide) : Escaped [' ']).append h.trim
  | some a =>
    rw [Argument.ofLine?] at hline
    obtain ⟨⟨head, description⟩, hhead, hline⟩ := Option.bind_eq_some_iff.1 hline
    obtain ⟨⟨name, type⟩, hname, hline⟩ := Option.bind_eq_some_iff.1 hline
    cases hline
    obtain ⟨hbefore, hdescription⟩ := h.cutLast (by decide) (by decide) hhead
    obtain ⟨hname, htype⟩ := hbefore.cutLast (by decide) (by decide) hname
    have hitem : Escaped "\n- ".toList := Escaped.of_any (by decide)
    have hnote : Escaped "\n  - Type: ".toList := Escaped.of_any (by decide)
    have hmore : Escaped "\n  - ".toList := Escaped.of_any (by decide)
    exact ((((hitem.append hname).append hnote).append htype).append hmore).append hdescription.trim

private theorem escaped_oneLine {paragraph : List Char} (h : Escaped paragraph) : Escaped (oneLine paragraph) := by
  have hmap : oneLine paragraph = paragraph.map fun c => if c = '\n' then ' ' else c := by
    rw [oneLine, Text.replaceAll_singleton, List.map_eq_flatMap]
    refine congrArg (List.flatMap · paragraph) (funext fun c => ?_)
    split <;> rfl
  rw [hmap]
  refine h.map rfl fun c hc => ?_
  split at hc
  next => cases hc
  next => exact hc

private theorem escaped_renderProse {ps : List (List Char)} (h : ∀ p ∈ ps, Escaped p) : Escaped (renderProse ps) := by
  have hend : Escaped ['\n'] := Escaped.of_any (by decide)
  cases ps with
  | nil => exact Escaped.nil
  | cons summary more =>
    obtain ⟨hsummary, hmore⟩ := List.forall_mem_cons.1 h
    cases more with
    | nil => exact hsummary.append hend
    | cons p more =>
      have hheading : Escaped "\n\n#### Description\n".toList := Escaped.of_any (by decide)
      have hblank : Escaped [' '] := Escaped.of_any (by decide)
      have hlines : ∀ q ∈ (p :: more).map oneLine, Escaped q := by
        intro q hq
        obtain ⟨r, hr, rfl⟩ := List.mem_map.1 hq
        exact escaped_oneLine (hmore r hr)
      exact ((hsummary.append hheading).append (hblank.join hlines)).append hend

private theorem escaped_argumentLines {paragraph : List Char} (h : Escaped paragraph) :
    ∀ line ∈ argumentLines paragraph, Escaped line := by
  intro line hline
  obtain ⟨piece, hpiece, rfl⟩ := List.mem_map.1 hline
  exact (h.splitOn (by decide) (by decide) piece (List.mem_of_mem_drop hpiece)).trim

private theorem escaped_renderArguments {paragraph : Option (List Char)} (h : ∀ p ∈ paragraph, Escaped p) :
    Escaped (renderArguments paragraph) := by
  cases paragraph with
  | none => exact Escaped.of_any (by decide)
  | some p =>
    have hheading : Escaped "#### Arguments:".toList := Escaped.of_any (by decide)
    have hlines := Escaped.flatMap fun line hline =>
      escaped_renderArgumentLine (escaped_argumentLines (h p rfl) line hline)
    exact (hheading.append hlines).append (Escaped.of_any (by decide))

private theorem escaped_renderReturns {paragraph : Option (List Char)} (h : ∀ p ∈ paragraph, Escaped p) :
    Escaped (renderReturns paragraph) := by
  cases paragraph with
  | none => exact Escaped.of_any (by decide)
  | some p =>
    have hheading : Escaped "#### Returns:\n".toList := Escaped.of_any (by decide)
    have hrest : Escaped (Text.replaceAll "Returns:\n".toList [] p) := (h p rfl).remove (by decide) (by decide)
    exact (hheading.append hrest.trim).append (Escaped.of_any (by decide))

private theorem escaped_paragraphs {docstring : List Char} (h : Escaped docstring) :
    ∀ p ∈ paragraphs docstring, Escaped p := by
  intro p hp
  obtain ⟨piece, hpiece, rfl⟩ := List.mem_map.1 hp
  exact (h.splitOn (by decide) (by decide) piece hpiece).trim

private theorem escaped_renderDocstring {docstring : List Char} (h : Escaped docstring) :
    Escaped (renderDocstring docstring) := by
  have hall := escaped_paragraphs h
  refine ((escaped_renderProse ?_).append (escaped_renderArguments ?_)).append (escaped_renderReturns ?_)
  · exact fun p hp => hall p (List.mem_filter.1 hp).1
  · exact fun p hp => hall p (List.mem_of_find?_eq_some hp)
  · exact fun p hp => hall p (List.mem_of_find?_eq_some hp)

/-! ### The page -/

private theorem escaped_of_isIdentifier {name : List Char} (h : Source.isIdentifier name) : Escaped name := by
  cases name with
  | nil => exact Escaped.nil
  | cons c cs =>
    obtain ⟨hstart, hparts⟩ := Bool.and_eq_true_iff.1 h
    have hangle : ∀ d, isAngle d → d = '<' ∨ d = '>' := by simp [isAngle]
    refine Escaped.of_forall (List.forall_mem_cons.2 ⟨?_, fun d hd => ?_⟩)
    · refine Bool.eq_false_iff.2 fun hc => ?_
      rcases hangle c hc with rfl | rfl
      · exact absurd hstart (by decide)
      · exact absurd hstart (by decide)
    · have hpart := List.all_eq_true.1 hparts d hd
      refine Bool.eq_false_iff.2 fun hd => ?_
      rcases hangle d hd with rfl | rfl
      · exact absurd hpart (by decide)
      · exact absurd hpart (by decide)

/-- The heading of a function adds no bracket and ends before the name with a backquote. -/
private theorem escaped_render_iff {f : FunctionDoc} (h : ∀ d ∈ f.docstring, Escaped d) :
    Escaped f.render ↔ Escaped f.name := by
  have hheading : Escaped "### Function: `".toList := Escaped.of_any (by decide)
  constructor
  · intro hrender
    exact hrender.left.left.left.right (by decide)
  · intro hname
    have hend : Escaped "`\n".toList := Escaped.of_any (by decide)
    have hfront := (hheading.append hname).append hend
    unfold FunctionDoc.render
    cases hdoc : f.docstring with
    | none => exact (hfront.append Escaped.nil).append (Escaped.of_any (by decide))
    | some d => exact (hfront.append (escaped_renderDocstring (h d hdoc))).append (Escaped.of_any (by decide))

/-- A function with a docstring has an entry, and in the Markdown that is made of it every angle bracket comes at once
after a backslash, whatever the docstring, if this is so in the name of the function.  An identifier has no brackets at
all. -/
theorem angles_escaped {body : List Source.Stmt} {d : List Char} (name : List Char) (hdoc : docstring? body = some d) :
    ∃ f doc, FunctionEntry.ofBody name body = .ok f ∧ FunctionDoc.ofValue f.toValue = .ok doc ∧
      (Escaped doc.render ↔ Escaped name) ∧ (Source.isIdentifier name → Escaped doc.render) := by
  have hiff : Escaped (FunctionEntry.toDoc ⟨name, escapeAngles d⟩).render ↔ Escaped name := by
    refine escaped_render_iff fun s hs => ?_
    rw [FunctionEntry.toDoc, nonEmpty?] at hs
    split at hs
    next => cases hs
    next =>
      cases hs
      exact escaped_escapeAngles d
  refine ⟨⟨name, escapeAngles d⟩, _, ?_, FunctionDoc.ofValue_toValue _, hiff, fun hname => ?_⟩
  · rw [FunctionEntry.ofBody, hdoc]
  · exact hiff.2 (escaped_of_isIdentifier hname)

/-- A function whose docstring has brackets at the start of a paragraph, after the mark of a section, around a type
and after a backslash. -/
def Sample.compare : List Source.Stmt :=
  [.expression (some "<b>\n\nArgs:\n    a (<T>): <x> (y): <z>\n\nReturns:\n<int>\\< Returns:\n>".toList)]

theorem sample_angles_escaped :
    Source.isIdentifier "compare".toList ∧ ∃ f doc, FunctionEntry.ofBody "compare".toList Sample.compare = .ok f ∧
      FunctionDoc.ofValue f.toValue = .ok doc ∧ Escaped doc.render := by
  have hname : Source.isIdentifier "compare".toList := by decide
  obtain ⟨f, doc, hf, hdoc, -, hescaped⟩ := angles_escaped "compare".toList (rfl : docstring? Sample.compare = some _)
  exact ⟨hname, f, doc, hf, hdoc, hescaped hname⟩

end Docsmith.Docs

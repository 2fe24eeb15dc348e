import Docsmith.Docs.Record
import Docsmith.Proofs.Change
import Docsmith.Proofs.Docs.Argument
import Docsmith.Proofs.Text.Search
import Docsmith.Proofs.Value.Access

/-!
# Sections on arguments

The page of a function lists the lines of the first paragraph that names arguments, one after the other
(`render_of_hasArgumentLines`).  If no description has the mark `): ` in it, each entry is listed with its name, its
type and its description, and the lines that go on with it follow (`entries_listed`).  A mark in the description moves
the cut: then the name or the type takes a part of the description (`entry_cut_at_last_marks`).
-/

namespace Docsmith.Docs

/-! ### The section on arguments -/

/-- The lines of an argument section, each without the blanks around it. -/
private theorem argumentLines_trim_join {header : List Char} {lines : List (List Char)}
    (hheader : header.all Text.isBlank = false) (hblank : ∀ l ∈ lines, l.all Text.isBlank = false)
    (hlines : ∀ l ∈ header :: lines, '\n' ∉ l) :
    argumentLines (Text.trim (Text.join ['\n'] (header :: lines))) = lines.map Text.trim := by
  obtain ⟨hmark, hmore⟩ := List.forall_mem_cons.1 hlines
  have hfirst : '\n' ∉ Text.trimLeft header := mt Text.mem_of_mem_trimLeft hmark
  rw [argumentLines, Text.trim, Text.trimLeft_join_cons hheader]
  rcases List.eq_nil_or_concat lines with rfl | ⟨init, last, rfl⟩
  · have honly : '\n' ∉ Text.trimRight (Text.join ['\n'] [Text.trimLeft header]) := mt Text.mem_of_mem_trimRight hfirst
    rw [Text.splitOn_of_not_mem honly]
    rfl
  · rw [List.concat_eq_append] at hmore hblank ⊢
    have hlast : '\n' ∉ Text.trimRight last := mt Text.mem_of_mem_trimRight (hmore last (by simp))
    have hall : ∀ l ∈ Text.trimLeft header :: init ++ [Text.trimRight last], '\n' ∉ l := by
      intro l hl
      rcases List.mem_append.1 hl with hl | hl
      · rcases List.mem_cons.1 hl with rfl | hl
        · exact hfirst
        · exact hmore l (List.mem_append_left _ hl)
      · rw [List.mem_singleton.1 hl]
        exact hlast
    rw [← List.cons_append, Text.trimRight_join_concat (hblank last (by simp)), Text.splitOn_join (by simp) hall]
    simp [Text.trim_trimRight]

/-- The first paragraph of a docstring that opens a section on arguments has these lines, the first of them with the
mark. -/
structure HasArgumentLines (d header : List Char) (lines : List (List Char)) : Prop where
  first : (paragraphs d).find? (startsWithAny · argumentMarks) =
    some (Text.trim (Text.join ['\n'] (header :: lines)))
  mark : startsWithAny (Text.trim header) argumentMarks = true
  isLine : '\n' ∉ header

/-- What stands on the page of a function before its arguments. -/
def beforeArguments (name d : List Char) : List Char :=
  "### Function: `".toList ++ name ++ "`\n".toList ++
    renderProse ((paragraphs d).filter fun p => !startsWithAny p sectionMarks)

/-- What is said of what a function returns. -/
def returnedText (d : List Char) : List Char :=
  match (paragraphs d).find? (startsWithAny · returnMarks) with
  | some p => Text.trim (Text.replaceAll "Returns:\n".toList [] p)
  | none => "_None_".toList

/-- The page of a function, with the list of its arguments filled in. -/
def pageWith (name d arguments : List Char) : List Char :=
  beforeArguments name d ++ "#### Arguments:".toList ++ arguments ++ "\n#### Returns:\n".toList ++ returnedText d ++
    "\n\n".toList

private theorem renderReturns_some (p : List Char) :
    renderReturns (some p) =
      "#### Returns:\n".toList ++ Text.trim (Text.replaceAll "Returns:\n".toList [] p) ++ ['\n'] := rfl

private theorem renderReturns_none : renderReturns none = "#### Returns:\n_None_\n".toList := rfl

private theorem renderArguments_some (p : List Char) :
    renderArguments (some p) = "#### Arguments:".toList ++ (argumentLines p).flatMap renderArgumentLine ++ ['\n'] := rfl

private theorem renderReturns_eq (d : List Char) :
    renderReturns ((paragraphs d).find? (startsWithAny · returnMarks)) ++ ['\n'] =
      "#### Returns:\n".toList ++ returnedText d ++ "\n\n".toList := by
  rw [returnedText]
  cases (paragraphs d).find? (startsWithAny · returnMarks) with
  | none =>
    rw [renderReturns_none]
    decide
  | some p =>
    rw [renderReturns_some]
    simp

theorem FunctionDoc.render_some (name d : List Char) :
    FunctionDoc.render ⟨name, some d⟩ =
      beforeArguments name d ++ renderArguments ((paragraphs d).find? (startsWithAny · argumentMarks)) ++
        (renderReturns ((paragraphs d).find? (startsWithAny · returnMarks)) ++ ['\n']) := by
  have hrender : FunctionDoc.render ⟨name, some d⟩ =
      "### Function: `".toList ++ name ++ "`\n".toList ++ renderDocstring d ++ ['\n'] := rfl
  rw [hrender]
  delta beforeArguments renderDocstring
  simp only [List.append_assoc]

private theorem HasArgumentLines.not_blank {d header : List Char} {lines : List (List Char)}
    (h : HasArgumentLines d header lines) : header.all Text.isBlank = false := by
  refine Bool.eq_false_iff.2 fun hblank => ?_
  have hmark := h.mark
  rw [Text.trim_eq_nil_iff.2 hblank] at hmark
  cases hmark

/-- The page of a function with a section on arguments, line by line. -/
private theorem render_of_hasArgumentLines {d header : List Char} {lines : List (List Char)}
    (h : HasArgumentLines d header lines) (hblank : ∀ l ∈ lines, l.all Text.isBlank = false)
    (hlines : ∀ l ∈ lines, '\n' ∉ l) (name : List Char) :
    FunctionDoc.render ⟨name, some d⟩ =
      pageWith name d (lines.flatMap fun l => renderArgumentLine (Text.trim l)) := by
  have harguments := argumentLines_trim_join h.not_blank hblank (List.forall_mem_cons.2 ⟨h.isLine, hlines⟩)
  have hend : ['\n'] ++ "#### Returns:\n".toList = "\n#### Returns:\n".toList := by decide
  rw [FunctionDoc.render_some, h.first, renderReturns_eq, renderArguments_some, harguments, List.flatMap_map]
  delta pageWith
  simp only [List.append_assoc, ← hend]

theorem FunctionDoc.ofValue_of_docstring {v name : Value} {d : String} (hname : v.field "name" = .ok name)
    (hdoc : v.getOr (.text "docstring") .null = .ok (.text d)) (hne : d ≠ "") :
    FunctionDoc.ofValue v = .ok ⟨name.display, some d.toList⟩ := by
  have htruthy : (Value.text d).truthy = true := by simpa [Value.truthy] using hne
  rw [FunctionDoc.ofValue, hname, Outcome.ok_bind, hdoc, Outcome.ok_bind, if_pos htruthy]
  rfl

private theorem HasArgumentLines.ne_empty {d : String} {header : List Char} {lines : List (List Char)}
    (h : HasArgumentLines d.toList header lines) : d ≠ "" := by
  rintro rfl
  cases h.first

/-- A text of one line that is not empty and has no blanks around it. -/
structure IsPhrase (s : List Char) : Prop where
  ne_nil : s ≠ []
  trim_eq : Text.trim s = s
  isLine : '\n' ∉ s

/-- An entry of an argument section with the lines that go on with it. -/
structure ArgumentGroup where
  indent : List Char
  argument : Argument
  more : List (List Char)
  indent_blank : indent.all Text.isBlank = true
  indent_isLine : '\n' ∉ indent
  name : IsPhrase argument.name
  type : IsPhrase argument.type
  description : IsPhrase argument.description
  type_mark : ¬ " (".toList <:+: argument.type
  description_mark : ¬ "): ".toList <:+: argument.description
  more_isLine : ∀ l ∈ more, '\n' ∉ l
  more_not_blank : ∀ l ∈ more, l.all Text.isBlank = false
  more_mark : ∀ l ∈ more, ¬ "): ".toList <:+: l

namespace ArgumentGroup

/-- The lines of an entry. -/
def lines (g : ArgumentGroup) : List (List Char) := (g.indent ++ g.argument.line) :: g.more

/-- The list items of an entry, with the lines that go on with it after the description. -/
def items (g : ArgumentGroup) : List Char :=
  Argument.listItems g.argument.name g.argument.type g.argument.description ++
    g.more.flatMap fun l => ' ' :: Text.trim l

end ArgumentGroup

/-- An entry without the blanks in front of it and behind it. -/
private theorem trim_indented_line {indent : List Char} {a : Argument} (hindent : indent.all Text.isBlank = true)
    (hname : a.name.all Text.isBlank = false) (hstart : Text.trimLeft a.name = a.name)
    (hdescription : a.description.all Text.isBlank = false) :
    Text.trim (indent ++ a.line) = Argument.line { a with description := Text.trimRight a.description } := by
  have hline : a.line = a.name ++ (" (".toList ++ a.type ++ "): ".toList) ++ a.description := by simp [Argument.line]
  rw [Text.trim_blank_append hindent, hline, Text.trim_between hname hdescription, hstart]
  simp [Argument.line]

private theorem IsPhrase.not_blank {s : List Char} (h : IsPhrase s) : s.all Text.isBlank = false := by
  refine Bool.eq_false_iff.2 fun hblank => h.ne_nil ?_
  rw [← h.trim_eq, Text.trim_eq_nil_iff.2 hblank]

private theorem renderArgumentLine_of_some {s : List Char} {a : Argument} (h : Argument.ofLine? s = some a) :
    renderArgumentLine s = Argument.listItems a.name a.type (Text.trim a.description) := by
  rw [renderArgumentLine, h]
  rfl

private theorem renderArgumentLine_of_none {s : List Char} (h : Argument.ofLine? s = none) :
    renderArgumentLine s = ' ' :: Text.trim s := by
  rw [renderArgumentLine, h]

namespace ArgumentGroup

/-- The line of an entry gives the entry back. -/
private theorem ofLine?_line (g : ArgumentGroup) :
    Argument.ofLine? (Text.trim (g.indent ++ g.argument.line)) = some g.argument := by
  rw [trim_indented_line g.indent_blank g.name.not_blank (Text.trimLeft_of_trim_eq g.name.trim_eq)
    g.description.not_blank, Text.trimRight_of_trim_eq g.description.trim_eq]
  exact Argument.ofLine?_eq_some_iff.2
    ⟨rfl, ⟨g.name.ne_nil, g.type.ne_nil, g.description.ne_nil⟩, .of_absent g.description_mark,
      .of_absent g.type_mark⟩

private theorem flatMap_lines (g : ArgumentGroup) :
    (g.lines.flatMap fun l => renderArgumentLine (Text.trim l)) = g.items := by
  have hmore :
      (g.more.flatMap fun l => renderArgumentLine (Text.trim l)) = g.more.flatMap fun l => ' ' :: Text.trim l := by
    rw [List.flatMap_def, List.flatMap_def]
    refine congrArg List.flatten (List.map_congr_left fun l hl => ?_)
    have hnone := Argument.ofLine?_eq_none fun hmark => g.more_mark l hl (hmark.trans (Text.infix_trim l))
    rw [renderArgumentLine_of_none hnone, Text.trim_trim]
  rw [lines, List.flatMap_cons, hmore, renderArgumentLine_of_some g.ofLine?_line, g.description.trim_eq, items]

private theorem mem_lines {g : ArgumentGroup} {l : List Char} (h : l ∈ g.lines) :
    '\n' ∉ l ∧ l.all Text.isBlank = false := by
  rcases List.mem_cons.1 h with rfl | h
  · refine ⟨?_, ?_⟩
    · simp [Argument.line, g.indent_isLine, g.name.isLine, g.type.isLine, g.description.isLine]
    · rw [List.all_append, Argument.line]
      simp only [List.all_append, g.name.not_blank, Bool.false_and, Bool.and_false]
  · exact ⟨g.more_isLine l h, g.more_not_blank l h⟩

end ArgumentGroup

/-- Every entry of an argument section has list items for its name, its type and its description, and the lines that
go on with it follow the description. -/
theorem entries_listed {v name : Value} {d : String} {header : List Char} {groups : List ArgumentGroup}
    (hname : v.field "name" = .ok name) (hdoc : v.getOr (.text "docstring") .null = .ok (.text d))
    (hlines : HasArgumentLines d.toList header (groups.flatMap ArgumentGroup.lines)) :
    ∃ f, FunctionDoc.ofValue v = .ok f ∧
      f.render = pageWith name.display d.toList (groups.flatMap ArgumentGroup.items) := by
  have hgroup : ∀ l ∈ groups.flatMap ArgumentGroup.lines, '\n' ∉ l ∧ l.all Text.isBlank = false := by
    intro l hl
    obtain ⟨g, -, hl⟩ := List.mem_flatMap.1 hl
    exact ArgumentGroup.mem_lines hl
  refine ⟨_, FunctionDoc.ofValue_of_docstring hname hdoc hlines.ne_empty, ?_⟩
  rw [render_of_hasArgumentLines hlines (fun l hl => (hgroup l hl).2) (fun l hl => (hgroup l hl).1), List.flatMap_assoc]
  simp only [ArgumentGroup.flatMap_lines]

namespace Sample

/-- The record of a function with a docstring. -/
def documented (docstring : String) : Value := .record [("name", .text "scale"), ("docstring", .text docstring)]

theorem name_documented (docstring : String) : (documented docstring).field "name" = .ok (.text "scale") := rfl

theorem docstring_documented (docstring : String) :
    (documented docstring).getOr (.text "docstring") .null = .ok (.text docstring) := rfl

/-- A docstring with two entries in its section on arguments, the first of them of two lines. -/
def scaling : String :=
  "Scale a value.\n\nArguments:\n    value (int, or None): the number (or a sum)\n      of ten at most  \n" ++
    "  low, high (pair:(a): b): bounds\n\nReturns:\n    A number."

/-- An entry of two lines. -/
def valueGroup : ArgumentGroup where
  indent := "    ".toList
  argument := ⟨"value".toList, "int, or None".toList, "the number (or a sum)".toList⟩
  more := ["      of ten at most  ".toList]
  indent_blank := by decide
  indent_isLine := by decide
  name := ⟨by decide, by decide, by decide⟩
  type := ⟨by decide, by decide, by decide⟩
  description := ⟨by decide, by decide, by decide⟩
  type_mark := mt Text.occursIn_iff.2 (by decide)
  description_mark := mt Text.occursIn_iff.2 (by decide)
  more_isLine := by decide
  more_not_blank := by decide
  more_mark := fun l hl => mt Text.occursIn_iff.2 (by rw [List.mem_singleton.1 hl]; decide)

/-- An entry whose type has a mark of the description in it. -/
def boundsGroup : ArgumentGroup where
  indent := "  ".toList
  argument := ⟨"low, high".toList, "pair:(a): b".toList, "bounds".toList⟩
  more := []
  indent_blank := by decide
  indent_isLine := by decide
  name := ⟨by decide, by decide, by decide⟩
  type := ⟨by decide, by decide, by decide⟩
  description := ⟨by decide, by decide, by decide⟩
  type_mark := mt Text.occursIn_iff.2 (by decide)
  description_mark := mt Text.occursIn_iff.2 (by decide)
  more_isLine := by decide
  more_not_blank := by decide
  more_mark := by decide

end Sample

theorem sample_entries_listed :
    HasArgumentLines Sample.scaling.toList "Arguments:".toList
        ([Sample.valueGroup, Sample.boundsGroup].flatMap ArgumentGroup.lines) ∧
      ∃ f, FunctionDoc.ofValue (Sample.documented Sample.scaling) = .ok f ∧
        f.render = pageWith "scale".toList Sample.scaling.toList
          ([Sample.valueGroup, Sample.boundsGroup].flatMap ArgumentGroup.items) := by
  have hlines : HasArgumentLines Sample.scaling.toList "Arguments:".toList
      ([Sample.valueGroup, Sample.boundsGroup].flatMap ArgumentGroup.lines) :=
    ⟨by decide +kernel, by decide, by decide⟩
  have hlisted := entries_listed (Sample.name_documented _) (Sample.docstring_documented _) hlines
  rw [Value.display_text] at hlisted
  exact ⟨hlines, hlisted⟩

/-- A text that is not empty and has no blanks. -/
structure IsWord (s : List Char) : Prop where
  ne_nil : s ≠ []
  any_isBlank : s.any Text.isBlank = false

namespace IsWord

variable {s : List Char}

private theorem not_blank (h : IsWord s) (c : Char) (hc : c ∈ s) : Text.isBlank c = false :=
  Bool.eq_false_iff.2 (List.any_eq_false.1 h.any_isBlank c hc)

private theorem all_isBlank (h : IsWord s) : s.all Text.isBlank = false := by
  obtain ⟨c, s, rfl⟩ := List.exists_cons_of_ne_nil h.ne_nil
  rw [List.all_cons, h.not_blank c List.mem_cons_self, Bool.false_and]

private theorem trimLeft_eq (h : IsWord s) : Text.trimLeft s = s := by
  obtain ⟨c, s, rfl⟩ := List.exists_cons_of_ne_nil h.ne_nil
  exact Text.trimLeft_cons (h.not_blank c List.mem_cons_self) s

private theorem not_mem {c : Char} (h : IsWord s) (hc : Text.isBlank c = true) : c ∉ s := fun hmem => by
  rw [h.not_blank c hmem] at hc
  cases hc

private theorem no_mark (h : IsWord s) : ¬ " (".toList <:+: s := fun hmark =>
  h.not_mem (by decide) (hmark.subset (by decide : ' ' ∈ " (".toList))

end IsWord

private theorem pageWith_inj {name d x y : List Char} : pageWith name d x = pageWith name d y ↔ x = y := by
  delta pageWith
  rw [List.append_left_inj, List.append_left_inj, List.append_left_inj, List.append_right_inj]

/-- A mark in a text behind blanks is in the text itself. -/
private theorem infix_of_blank_append {c : Char} {m before s : List Char} (hc : Text.isBlank c = false)
    (hbefore : before.all Text.isBlank = true) (h : c :: m <:+: before ++ s) : c :: m <:+: s := by
  induction before with
  | nil => exact h
  | cons b before ih =>
    obtain ⟨hb, hrest⟩ := Bool.and_eq_true_iff.1 hbefore
    rcases List.infix_cons_iff.1 h with hhere | hlater
    · obtain ⟨rfl, -⟩ := List.cons_prefix_cons.1 hhere
      rw [hc] at hb
      cases hb
    · exact ih hrest hlater

private theorem length_trim_lt {s : List Char} (hs : s.all Text.isBlank = false) (w : List Char) :
    (Text.trim s).length < (Text.trim (w ++ "): ".toList ++ s)).length := by
  have hfirst : (w ++ [')']).all Text.isBlank = false := by
    rw [List.all_append, (by decide : [')'].all Text.isBlank = false), Bool.and_false]
  have hparts : w ++ "): ".toList ++ s = (w ++ [')']) ++ ": ".toList ++ s := by simp
  have hle := Text.length_trim_le (Text.trimRight s)
  rw [Text.trim_trimRight] at hle
  rw [hparts, Text.trim_between hfirst hs, List.length_append, List.length_append,
    (by decide : ": ".toList.length = 2)]
  omega

/-- The line of an entry whose name and type are words; its description may be any text that is not blank. -/
structure EntryLine where
  indent : List Char
  argument : Argument
  indent_blank : indent.all Text.isBlank = true
  indent_isLine : '\n' ∉ indent
  name : IsWord argument.name
  type : IsWord argument.type
  description_not_blank : argument.description.all Text.isBlank = false
  description_isLine : '\n' ∉ argument.description

namespace EntryLine

variable {e : EntryLine} {shown : Argument}

/-- The text of the line. -/
def text (e : EntryLine) : List Char := e.indent ++ e.argument.line

private theorem isLine (e : EntryLine) : '\n' ∉ e.text := by
  have hname := e.name.not_mem (by decide : Text.isBlank '\n' = true)
  have htype := e.type.not_mem (by decide : Text.isBlank '\n' = true)
  simp [text, Argument.line, e.indent_isLine, hname, htype, e.description_isLine]

private theorem not_blank (e : EntryLine) : e.text.all Text.isBlank = false := by
  rw [text, Argument.line]
  simp only [List.all_append, e.name.all_isBlank, Bool.false_and, Bool.and_false]

/-- The entry without the blanks behind it. -/
def trimmed (e : EntryLine) : Argument :=
  { e.argument with description := Text.trimRight e.argument.description }

private theorem trim_text (e : EntryLine) : Text.trim e.text = e.trimmed.line :=
  trim_indented_line e.indent_blank e.name.all_isBlank e.name.trimLeft_eq e.description_not_blank

private theorem complete_trimmed (e : EntryLine) : e.trimmed.Complete where
  name := e.name.ne_nil
  type := e.type.ne_nil
  description := fun hnil => by
    have hblank := e.description_not_blank
    rw [Text.trimRight_eq_nil_iff.1 hnil] at hblank
    cases hblank

/-- A line that is an entry is shown as one. -/
private theorem exists_shown (e : EntryLine) : ∃ shown, Argument.ofLine? (Text.trim e.text) = some shown := by
  rw [trim_text]
  exact Argument.exists_ofLine? e.complete_trimmed

private theorem shown_line (h : Argument.ofLine? (Text.trim e.text) = some shown) : shown.line = Text.trim e.text :=
  (Argument.ofLine?_eq_some_iff.1 h).1.symm

/-- What is shown as the description does not end with a blank. -/
private theorem eq_nil_of_description_eq (h : Argument.ofLine? (Text.trim e.text) = some shown) {x y : List Char}
    (hxy : shown.description = x ++ y) (hy : y.all Text.isBlank = true) : y = [] := by
  refine Text.eq_nil_of_trim_eq (s := e.text) (t := shown.name ++ " (".toList ++ shown.type ++ "): ".toList ++ x) ?_ hy
  rw [← shown_line h, Argument.line, hxy]
  simp

private theorem shown_description_not_blank (h : Argument.ofLine? (Text.trim e.text) = some shown) :
    shown.description.all Text.isBlank = false :=
  Bool.eq_false_iff.2 fun hblank =>
    (Argument.ofLine?_eq_some_iff.1 h).2.1.description (eq_nil_of_description_eq (x := []) h rfl hblank)

private theorem not_infix_shown_description (h : Argument.ofLine? (Text.trim e.text) = some shown) :
    ¬ "): ".toList <:+: shown.description := by
  rintro ⟨u, v, huv⟩
  have hv : v = [] := (Argument.ofLine?_eq_some_iff.1 h).2.2.1 u v huv.symm
  -- the last mark would end with a blank
  have hblank : shown.description = u ++ "):".toList ++ [' '] := by rw [← huv, hv]; simp
  cases eq_nil_of_description_eq h hblank (by decide)

private theorem shown_isLine (h : Argument.ofLine? (Text.trim e.text) = some shown) :
    '\n' ∉ shown.name ∧ '\n' ∉ shown.type ∧ '\n' ∉ shown.description := by
  have hline : '\n' ∉ shown.line := by
    rw [shown_line h]
    exact mt Text.mem_of_mem_trim e.isLine
  simpa [Argument.line] using hline

/-- With a mark in the description, only what follows the last one is shown as the description. -/
private theorem length_shown_description_lt (h : Argument.ofLine? (Text.trim e.text) = some shown)
    (hmark : "): ".toList <:+: Text.trim e.argument.description) :
    (Text.trim shown.description).length < (Text.trim e.argument.description).length := by
  obtain ⟨u, v, huv⟩ := hmark
  have hv : v ≠ [] := by
    rintro rfl
    have hblank : Text.trim e.argument.description = u ++ "):".toList ++ [' '] := by rw [← huv]; simp
    cases Text.eq_nil_of_trim_eq hblank (by decide)
  obtain ⟨before, -, hbefore⟩ := Text.exists_trimRight e.argument.description
  have hlater : ¬ OnlyAtEnd "): ".toList e.trimmed.description := fun honly =>
    hv (honly (before ++ u) v (by simp [trimmed, hbefore, ← huv]))
  rw [trim_text] at h
  obtain ⟨w, hw⟩ := Argument.exists_description_eq h e.complete_trimmed.description hlater
  have hlt := length_trim_lt (shown_description_not_blank (e := e) (by rw [trim_text, h])) w
  rwa [← hw, trimmed, Text.trim_trimRight] at hlt

/-- The entry is shown as it was meant exactly if there is no mark in its description. -/
private theorem listItems_eq_iff (h : Argument.ofLine? (Text.trim e.text) = some shown) :
    Argument.listItems shown.name shown.type (Text.trim shown.description) =
        Argument.listItems e.argument.name e.argument.type (Text.trim e.argument.description) ↔
      ¬ "): ".toList <:+: Text.trim e.argument.description := by
  constructor
  · intro heq hmark
    obtain ⟨hname, htype, hdescription⟩ := shown_isLine h
    have hpieces := congrArg (Text.splitOn ['\n']) heq
    rw [Argument.splitOn_listItems hname htype (mt Text.mem_of_mem_trim hdescription),
      Argument.splitOn_listItems (e.name.not_mem (by decide)) (e.type.not_mem (by decide))
        (mt Text.mem_of_mem_trim e.description_isLine)] at hpieces
    obtain ⟨-, -, hsame⟩ : shown.name = e.argument.name ∧ shown.type = e.argument.type ∧
        Text.trim shown.description = Text.trim e.argument.description := by simpa using hpieces
    have hlt := length_shown_description_lt h hmark
    rw [hsame] at hlt
    exact Nat.lt_irrefl _ hlt
  · intro hmark
    obtain ⟨before, hblank, hbefore⟩ := Text.exists_trimRight e.argument.description
    have hnone : ¬ "): ".toList <:+: e.trimmed.description := fun hlater =>
      hmark (infix_of_blank_append (by decide) hblank (hbefore ▸ hlater))
    have hshown : Argument.ofLine? (Text.trim e.text) = some e.trimmed := by
      rw [trim_text]
      exact Argument.ofLine?_eq_some_iff.2
        ⟨rfl, e.complete_trimmed, .of_absent hnone, .of_absent e.type.no_mark⟩
    obtain rfl : e.trimmed = shown := Option.some.inj (hshown.symm.trans h)
    rw [trimmed, Text.trim_trimRight]

end EntryLine

/-- The one entry of an argument section, as the page shows it: its line is cut at the last `): `, and what stands
before at the last ` (` with a text after it.  So the entry is shown as it was meant exactly if there is no `): ` in its
description. -/
theorem entry_cut_at_last_marks {v name : Value} {d : String} {header : List Char} {e : EntryLine}
    (hname : v.field "name" = .ok name) (hdoc : v.getOr (.text "docstring") .null = .ok (.text d))
    (hlines : HasArgumentLines d.toList header [e.text]) :
    ∃ (f : FunctionDoc) (shown : Argument), FunctionDoc.ofValue v = .ok f ∧
      f.render = pageWith name.display d.toList
        (Argument.listItems shown.name shown.type (Text.trim shown.description)) ∧
      shown.line = Text.trim e.text ∧ shown.Complete ∧ ¬ "): ".toList <:+: shown.description ∧
      OnlyAtEnd " (".toList shown.type ∧
      (f.render = pageWith name.display d.toList
          (Argument.listItems e.argument.name e.argument.type (Text.trim e.argument.description)) ↔
        ¬ "): ".toList <:+: Text.trim e.argument.description) := by
  obtain ⟨shown, hshown⟩ := e.exists_shown
  obtain ⟨hline, hcomplete, -, htype⟩ := Argument.ofLine?_eq_some_iff.1 hshown
  have hrender := render_of_hasArgumentLines hlines (List.forall_mem_singleton.2 e.not_blank)
    (List.forall_mem_singleton.2 e.isLine) name.display
  rw [List.flatMap_singleton, renderArgumentLine_of_some hshown] at hrender
  refine ⟨_, shown, FunctionDoc.ofValue_of_docstring hname hdoc hlines.ne_empty, hrender, hline.symm, hcomplete,
    EntryLine.not_infix_shown_description hshown, htype, ?_⟩
  rw [hrender, pageWith_inj]
  exact EntryLine.listItems_eq_iff hshown

namespace Sample

/-- An entry whose description has a mark of a type in it, and blanks around it. -/
def boundLine : EntryLine where
  indent := "  ".toList
  argument := ⟨"high".toList, "int".toList, " the (upper) bound  ".toList⟩
  indent_blank := by decide
  indent_isLine := by decide
  name := ⟨by decide, by decide⟩
  type := ⟨by decide, by decide⟩
  description_not_blank := by decide
  description_isLine := by decide

/-- An entry whose description has both marks in it. -/
def keyLine : EntryLine where
  indent := "    ".toList
  argument := ⟨"key".toList, "str".toList, "A name (see docs): must be set.".toList⟩
  indent_blank := by decide
  indent_isLine := by decide
  name := ⟨by decide, by decide⟩
  type := ⟨by decide, by decide⟩
  description_not_blank := by decide
  description_isLine := by decide

/-- A docstring with nothing but an argument section of one entry. -/
def onlyArgument (e : EntryLine) : String := String.ofList ("Args:\n".toList ++ e.text)

end Sample

theorem sample_entry_cut_at_last_marks :
    HasArgumentLines (Sample.onlyArgument Sample.boundLine).toList "Args:".toList [Sample.boundLine.text] ∧
      ∃ f, FunctionDoc.ofValue (Sample.documented (Sample.onlyArgument Sample.boundLine)) = .ok f ∧
        f.render = pageWith "scale".toList (Sample.onlyArgument Sample.boundLine).toList
          (Argument.listItems "high".toList "int".toList "the (upper) bound".toList) := by
  have hlines : HasArgumentLines (Sample.onlyArgument Sample.boundLine).toList "Args:".toList [Sample.boundLine.text] :=
    ⟨by decide +kernel, by decide, by decide⟩
  obtain ⟨f, -, hf, -, -, -, -, -, hmeant⟩ :=
    entry_cut_at_last_marks (Sample.name_documented _) (Sample.docstring_documented _) hlines
  refine ⟨hlines, f, hf, ?_⟩
  rw [Value.display_text] at hmeant
  exact hmeant.2 (mt Text.occursIn_iff.2 (by decide))

/-- A description with both marks in it is cut: its first part is shown as the end of the name, and the text between
its marks as the type. -/
theorem description_taken_for_name :
    HasArgumentLines (Sample.onlyArgument Sample.keyLine).toList "Args:".toList [Sample.keyLine.text] ∧
      ∃ f, FunctionDoc.ofValue (Sample.documented (Sample.onlyArgument Sample.keyLine)) = .ok f ∧
        f.render = pageWith "scale".toList (Sample.onlyArgument Sample.keyLine).toList
          (Argument.listItems "key (str): A name".toList "see docs".toList "must be set.".toList) ∧
        f.render ≠ pageWith "scale".toList (Sample.onlyArgument Sample.keyLine).toList
          (Argument.listItems "key".toList "str".toList "A name (see docs): must be set.".toList) := by
  have hlines : HasArgumentLines (Sample.onlyArgument Sample.keyLine).toList "Args:".toList [Sample.keyLine.text] :=
    ⟨by decide +kernel, by decide, by decide⟩
  have hshown : Argument.ofLine? (Text.trim Sample.keyLine.text) =
      some ⟨"key (str): A name".toList, "see docs".toList, "must be set.".toList⟩ := by decide +kernel
  have hrender := render_of_hasArgumentLines hlines (List.forall_mem_singleton.2 Sample.keyLine.not_blank)
    (List.forall_mem_singleton.2 Sample.keyLine.isLine) "scale".toList
  rw [List.flatMap_singleton, renderArgumentLine_of_some hshown] at hrender
  refine ⟨hlines, _, FunctionDoc.ofValue_of_docstring (Sample.name_documented _) (Sample.docstring_documented _)
    hlines.ne_empty, hrender, ?_⟩
  rw [Value.display_text, hrender, Ne, pageWith_inj]
  exact mt (EntryLine.listItems_eq_iff hshown).1 (not_not_intro (Text.occursIn_iff.1 (by decide)))

end Docsmith.Docs

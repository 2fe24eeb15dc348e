import Docsmith.Proofs.Docs.Angles
import Docsmith.Proofs.Text.Marks

/-!
# Angle brackets without their backslashes

The escapes of a docstring can be taken away again by two replacements, `\<` by `<` and then `\>` by `>`
(`unescapeAngles`): the backslashes that go are the ones that were put, also where the docstring has backslashes of its
own (`unescapeAngles_escapeAngles`).  An escaped text is the escape of some text (`Escaped.exists_escapeAngles`).  So
nothing of a docstring is lost in the entry of its function, and the entry has the only escaped text that becomes the
docstring again (`docstring_recovered`).
-/

namespace Docsmith.Docs

/-- Takes the backslashes before angle brackets away. -/
def unescapeAngles (s : List Char) : List Char :=
  Text.replaceAll ['\\', '>'] ['>'] (Text.replaceAll ['\\', '<'] ['<'] s)

private theorem unescapeAngles_escapeAngles (s : List Char) : unescapeAngles (escapeAngles s) = s := by
  -- the brackets whose escapes go first have to be the ones that were escaped last
  have hswap : escapeAngles s = Text.replaceAll ['<'] ['\\', '<'] (Text.replaceAll ['>'] ['\\', '>'] s) :=
    Text.replaceAll_singleton_comm (by decide) (by decide) (by decide) s
  rw [unescapeAngles, hswap, Text.replaceAll_marked (by decide), Text.replaceAll_marked (by decide)]

private theorem escapeAngles_append (s t : List Char) : escapeAngles (s ++ t) = escapeAngles s ++ escapeAngles t := by
  rw [escapeAngles, Text.replaceAll_singleton_append, Text.replaceAll_singleton_append]
  rfl

private theorem escapeAngles_singleton (c : Char) : escapeAngles [c] = if isAngle c then ['\\', c] else [c] := by
  rw [escapeAngles_eq, List.flatMap_singleton]

/-- An escaped text is made of another one by escaping.  The text is read from its end, since a bracket says what stands
before it. -/
private theorem Escaped.exists_escapeAngles {d : List Char} (h : Escaped d) : ∃ s, escapeAngles s = d := by
  rcases List.eq_nil_or_concat d with rfl | ⟨before, c, rfl⟩
  · exact ⟨[], rfl⟩
  · rw [List.concat_eq_append] at h ⊢
    by_cases hc : isAngle c
    · have hlast := h before c [] rfl hc
      obtain ⟨front, rfl⟩ := List.getLast?_eq_some_iff.1 hlast
      obtain ⟨s, hs⟩ := Escaped.exists_escapeAngles h.left.left
      refine ⟨s ++ [c], ?_⟩
      rw [escapeAngles_append, hs, escapeAngles_singleton, if_pos hc, List.append_assoc]
      rfl
    · obtain ⟨s, hs⟩ := Escaped.exists_escapeAngles h.left
      refine ⟨s ++ [c], ?_⟩
      rw [escapeAngles_append, hs, escapeAngles_singleton, if_neg hc]
termination_by d.length

/-- Only one escaped text becomes `s` without its escapes. -/
private theorem Escaped.eq_escapeAngles {d s : List Char} (h : Escaped d) (hs : unescapeAngles d = s) :
    d = escapeAngles s := by
  obtain ⟨t, rfl⟩ := h.exists_escapeAngles
  rw [← hs, unescapeAngles_escapeAngles]

/-- A function with a docstring has an entry, and the docstring of the entry without its escapes is the docstring of the
function, whatever backslashes that has.  It is the only escaped text of which this is so. -/
theorem docstring_recovered {body : List Source.Stmt} {s : List Char} (name : List Char)
    (hdoc : docstring? body = some s) :
    ∃ f, FunctionEntry.ofBody name body = .ok f ∧ unescapeAngles f.docstring = s ∧
      ∀ d, Escaped d → unescapeAngles d = s → d = f.docstring := by
  refine ⟨⟨name, escapeAngles s⟩, ?_, unescapeAngles_escapeAngles s, fun d hd hs => hd.eq_escapeAngles hs⟩
  rw [FunctionEntry.ofBody, hdoc]

/-- A function whose docstring has brackets after no backslash, after one and after two. -/
def Sample.lookUp : List Source.Stmt := [.expression (some "Maps <key\\> to \\\\<value>\\<.".toList)]

theorem sample_docstring_recovered :
    docstring? Sample.lookUp = some "Maps <key\\> to \\\\<value>\\<.".toList ∧
      ∃ f, FunctionEntry.ofBody "lookUp".toList Sample.lookUp = .ok f ∧
        f.docstring = "Maps \\<key\\\\> to \\\\\\<value\\>\\\\<.".toList ∧
        unescapeAngles f.docstring = "Maps <key\\> to \\\\<value>\\<.".toList := by
  have hdoc : docstring? Sample.lookUp = some "Maps <key\\> to \\\\<value>\\<.".toList := by decide +kernel
  have hmade : escapeAngles "Maps <key\\> to \\\\<value>\\<.".toList =
      "Maps \\<key\\\\> to \\\\\\<value\\>\\\\<.".toList := by decide +kernel
  have hescaped : Escaped "Maps \\<key\\\\> to \\\\\\<value\\>\\\\<.".toList := hmade ▸ escaped_escapeAngles _
  obtain ⟨f, hf, hrecovered, honly⟩ := docstring_recovered "lookUp".toList hdoc
  exact ⟨hdoc, f, hf, (honly _ hescaped (by decide +kernel)).symm, hrecovered⟩

end Docsmith.Docs

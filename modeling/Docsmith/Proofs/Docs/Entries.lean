import Docsmith.Docs.Entry
import Docsmith.Proofs.Change

/-!
# The definitions that a module shows

The entry of a module has its classes and its functions, and the entry of a class its functions: those that stand
directly in the body, in order (`functionEntries_eq`, `classEntries_eq`).  It cannot be made exactly if one of these
functions has no docstring, and it does not depend on anything else in the module: not on asynchronous functions, on
what stands inside functions and other statements, or on classes inside classes (`visible_definitions`).
-/

namespace Docsmith.Docs

open Source (Stmt)

variable {body : List Stmt} {name : List Char} {inner : List Stmt}

/-! ### Definitions directly in a body -/

/-- The name and the body of a function that is not asynchronous. -/
def function? : Stmt → Option (List Char × List Stmt)
  | .function false name body => some (name, body)
  | _ => none

/-- The name and the body of a class. -/
def class? : Stmt → Option (List Char × List Stmt)
  | .classDef name body => some (name, body)
  | _ => none

/-- The functions directly in a body, in order. -/
def functionsIn (body : List Stmt) : List (List Char × List Stmt) := body.filterMap function?

/-- The classes directly in a body, in order. -/
def classesIn (body : List Stmt) : List (List Char × List Stmt) := body.filterMap class?

private theorem function?_eq_some {s : Stmt} : function? s = some (name, inner) ↔ s = .function false name inner := by
  cases s with
  | function isAsync n b => cases isAsync <;> simp [function?]
  | _ => simp [function?]

private theorem class?_eq_some {s : Stmt} : class? s = some (name, inner) ↔ s = .classDef name inner := by
  cases s <;> simp [class?]

private theorem mem_functionsIn : (name, inner) ∈ functionsIn body ↔ .function false name inner ∈ body := by
  simp [functionsIn, List.mem_filterMap, function?_eq_some]

private theorem mem_classesIn : (name, inner) ∈ classesIn body ↔ .classDef name inner ∈ body := by
  simp [classesIn, List.mem_filterMap, class?_eq_some]

private theorem functionEntries_eq (body : List Stmt) :
    functionEntries body = (functionsIn body).mapM fun f => FunctionEntry.ofBody f.1 f.2 := by
  fun_induction functionEntries body with
  | case1 => rfl
  | case2 name inner rest ih =>
    have hcons : functionsIn (.function false name inner :: rest) = (name, inner) :: functionsIn rest := rfl
    rw [ih, hcons, List.mapM_cons]
    rfl
  | case3 s rest hs ih =>
    have hnone : function? s = none := by
      refine Option.eq_none_iff_forall_ne_some.2 fun f hf => ?_
      exact hs f.1 f.2 (function?_eq_some.1 hf)
    rw [ih, functionsIn, functionsIn, List.filterMap_cons_none hnone]

private theorem classEntries_eq (body : List Stmt) :
    classEntries body = (classesIn body).mapM fun c => ClassEntry.ofBody c.1 c.2 := by
  fun_induction classEntries body with
  | case1 => rfl
  | case2 name inner rest ih =>
    have hcons : classesIn (.classDef name inner :: rest) = (name, inner) :: classesIn rest := rfl
    rw [ih, hcons, List.mapM_cons]
    rfl
  | case3 s rest hs ih =>
    have hnone : class? s = none := by
      refine Option.eq_none_iff_forall_ne_some.2 fun c hc => ?_
      exact hs c.1 c.2 (class?_eq_some.1 hc)
    rw [ih, classesIn, classesIn, List.filterMap_cons_none hnone]

/-! ### Functions without a docstring -/

/-- The fault of a function without a docstring. -/
def undocumented : Fault := .noAttribute "NoneType" "replace"

/-- A function in a body has no docstring. -/
def LacksDocstring (body : List Stmt) : Prop := ∃ f ∈ functionsIn body, docstring? f.2 = none

/-- The entry of a function, if it has a docstring. -/
def shownFunction? (f : List Char × List Stmt) : Option FunctionEntry :=
  (docstring? f.2).map fun d => ⟨f.1, escapeAngles d⟩

/-- A class with its docstring and its functions. -/
def shownClass (c : List Char × List Stmt) : List Char × Option (List Char) × List (Option FunctionEntry) :=
  (c.1, docstring? c.2, (functionsIn c.2).map shownFunction?)

/-- The entries of the functions in a body: one for each, or the fault if one has no docstring. -/
private theorem functionEntries_cases (body : List Stmt) :
    (∃ fs, functionEntries body = .ok fs ∧ fs.map some = (functionsIn body).map shownFunction? ∧
        ¬LacksDocstring body) ∨
      (functionEntries body = .error undocumented ∧ LacksDocstring body) := by
  have hstep : ∀ f ∈ functionsIn body,
      (∃ entry, FunctionEntry.ofBody f.1 f.2 = .ok entry ∧ some entry = shownFunction? f ∧ ¬docstring? f.2 = none) ∨
        (FunctionEntry.ofBody f.1 f.2 = .error undocumented ∧ docstring? f.2 = none) := by
    intro f _
    rw [FunctionEntry.ofBody, shownFunction?]
    cases docstring? f.2 with
    | none => exact .inr ⟨rfl, rfl⟩
    | some d => exact .inl ⟨⟨f.1, escapeAngles d⟩, rfl, rfl, Option.some_ne_none d⟩
  rw [functionEntries_eq]
  rcases Outcome.mapM_cases hstep with ⟨fs, hfs, hshown, hall⟩ | hfault
  · exact .inl ⟨fs, hfs, hshown, fun ⟨f, hf, hnone⟩ => hall f hf hnone⟩
  · exact .inr hfault

/-- The entries of the classes in a body: one for each, or the fault if a function of one has no docstring. -/
private theorem classEntries_cases (body : List Stmt) :
    (∃ cs, classEntries body = .ok cs ∧
        cs.map (fun c => (c.name, c.docstring, c.functions.map some)) = (classesIn body).map shownClass ∧
        ∀ c ∈ classesIn body, ¬LacksDocstring c.2) ∨
      (classEntries body = .error undocumented ∧ ∃ c ∈ classesIn body, LacksDocstring c.2) := by
  rw [classEntries_eq]
  refine Outcome.mapM_cases fun c _ => ?_
  rw [ClassEntry.ofBody]
  rcases functionEntries_cases c.2 with ⟨fs, hfs, hshown, hall⟩ | ⟨hfault, hlacks⟩
  · refine .inl ⟨⟨c.1, docstring? c.2, fs⟩, by rw [hfs]; rfl, ?_, hall⟩
    rw [shownClass, hshown]
  · exact .inr ⟨by rw [hfault]; rfl, hlacks⟩

/-! ### What the entry does not depend on -/

/-- A function's body with nothing but its docstring. -/
def docstringOnly : List Stmt → List Stmt
  | .expression text :: _ => [.expression text]
  | _ => []

/-- A statement of a class with nothing but what the entry of the class shows. -/
def bareMember : Stmt → Stmt
  | .expression text => .expression text
  | .function false name body => .function false name (docstringOnly body)
  | _ => .simple

/-- A statement of a module with nothing but what the entry of the module shows. -/
def bareStatement : Stmt → Stmt
  | .classDef name body => .classDef name (body.map bareMember)
  | s => bareMember s

private theorem docstring?_docstringOnly (body : List Stmt) : docstring? (docstringOnly body) = docstring? body := by
  cases body with
  | nil => rfl
  | cons s rest =>
    cases s with
    | expression text => cases text <;> rfl
    | _ => rfl

private theorem docstring?_map_bareMember (body : List Stmt) : docstring? (body.map bareMember) = docstring? body := by
  cases body with
  | nil => rfl
  | cons s rest =>
    cases s with
    | expression text => cases text <;> rfl
    | function isAsync name inner => cases isAsync <;> rfl
    | _ => rfl

private theorem docstring?_map_bareStatement (body : List Stmt) :
    docstring? (body.map bareStatement) = docstring? body := by
  cases body with
  | nil => rfl
  | cons s rest =>
    cases s with
    | expression text => cases text <;> rfl
    | function isAsync name inner => cases isAsync <;> rfl
    | _ => rfl

private theorem FunctionEntry.ofBody_docstringOnly (name : List Char) (body : List Stmt) :
    FunctionEntry.ofBody name (docstringOnly body) = FunctionEntry.ofBody name body := by
  rw [FunctionEntry.ofBody, FunctionEntry.ofBody, docstring?_docstringOnly]

/-- A function shows its docstring only, and nothing else in a class shows. -/
private theorem functionEntries_map_bareMember (body : List Stmt) :
    functionEntries (body.map bareMember) = functionEntries body := by
  induction body with
  | nil => rfl
  | cons s rest ih =>
    cases s with
    | function isAsync name inner =>
      cases isAsync with
      | false =>
        rw [List.map_cons, bareMember, functionEntries, functionEntries, FunctionEntry.ofBody_docstringOnly, ih]
      | true => exact ih
    | _ => exact ih

private theorem functionEntries_map_bareStatement (body : List Stmt) :
    functionEntries (body.map bareStatement) = functionEntries body := by
  rw [← functionEntries_map_bareMember body]
  induction body with
  | nil => rfl
  | cons s rest ih =>
    cases s with
    | function isAsync name inner =>
      cases isAsync with
      | false =>
        have hbare : bareStatement (.function false name inner) = .function false name (docstringOnly inner) := rfl
        rw [List.map_cons, List.map_cons, hbare, bareMember, functionEntries, functionEntries, ih]
      | true => exact ih
    | _ => exact ih

private theorem ClassEntry.ofBody_map_bareMember (name : List Char) (body : List Stmt) :
    ClassEntry.ofBody name (body.map bareMember) = ClassEntry.ofBody name body := by
  rw [ClassEntry.ofBody, ClassEntry.ofBody, functionEntries_map_bareMember, docstring?_map_bareMember]

private theorem classEntries_map_bareStatement (body : List Stmt) :
    classEntries (body.map bareStatement) = classEntries body := by
  induction body with
  | nil => rfl
  | cons s rest ih =>
    cases s with
    | classDef name inner =>
      rw [List.map_cons, bareStatement, classEntries, classEntries, ClassEntry.ofBody_map_bareMember, ih]
    | function isAsync name inner => cases isAsync <;> exact ih
    | _ => exact ih

/-! ### Modules -/

/-- A function that stands directly in a module, or directly in a class of the module, has no docstring. -/
def HasUndocumented (body : List Stmt) : Prop :=
  ∃ scope, (scope = body ∨ ∃ name, .classDef name scope ∈ body) ∧
    ∃ name inner, .function false name inner ∈ scope ∧ docstring? inner = none

private theorem lacksDocstring_iff :
    LacksDocstring body ↔ ∃ name inner, .function false name inner ∈ body ∧ docstring? inner = none := by
  simp [LacksDocstring, Prod.exists, mem_functionsIn]

private theorem hasUndocumented_iff :
    HasUndocumented body ↔ LacksDocstring body ∨ ∃ c ∈ classesIn body, LacksDocstring c.2 := by
  constructor
  · rintro ⟨scope, rfl | ⟨name, hclass⟩, hlacks⟩
    · exact .inl (lacksDocstring_iff.2 hlacks)
    · exact .inr ⟨(name, scope), mem_classesIn.2 hclass, lacksDocstring_iff.2 hlacks⟩
  · rintro (hlacks | ⟨⟨name, scope⟩, hclass, hlacks⟩)
    · exact ⟨body, .inl rfl, lacksDocstring_iff.1 hlacks⟩
    · exact ⟨scope, .inr ⟨name, mem_classesIn.1 hclass⟩, lacksDocstring_iff.1 hlacks⟩

/-- The entry of a module, or the fault if a function has no docstring. -/
private theorem ModuleEntry.ofBody_cases (body : List Stmt) :
    (∃ m, ModuleEntry.ofBody body = .ok m ∧ m.docstring = docstring? body ∧
        m.functions.map some = (functionsIn body).map shownFunction? ∧
        m.classes.map (fun c => (c.name, c.docstring, c.functions.map some)) = (classesIn body).map shownClass ∧
        ¬HasUndocumented body) ∨
      (ModuleEntry.ofBody body = .error undocumented ∧ HasUndocumented body) := by
  rw [ModuleEntry.ofBody, hasUndocumented_iff]
  rcases classEntries_cases body with ⟨cs, hcs, hclasses, hnone⟩ | ⟨hfault, hlacks⟩
  · rw [hcs]
    rcases functionEntries_cases body with ⟨fs, hfs, hfunctions, hnone'⟩ | ⟨hfault, hlacks⟩
    · rw [hfs]
      refine .inl ⟨⟨docstring? body, cs, fs⟩, rfl, rfl, hfunctions, hclasses, ?_⟩
      rintro (hlacks | ⟨c, hc, hlacks⟩)
      · exact hnone' hlacks
      · exact hnone c hc hlacks
    · rw [hfault]
      exact .inr ⟨rfl, .inl hlacks⟩
  · rw [hfault]
    exact .inr ⟨rfl, .inr hlacks⟩

private theorem ModuleEntry.ofBody_bare (body : List Stmt) :
    ModuleEntry.ofBody (body.map bareStatement) = ModuleEntry.ofBody body := by
  rw [ModuleEntry.ofBody, ModuleEntry.ofBody, classEntries_map_bareStatement, functionEntries_map_bareStatement,
    docstring?_map_bareStatement]

/-- What the entry of a module shows.  It cannot be made exactly if a function directly in the module, or directly in a
class of the module, has no docstring.  Otherwise it has the functions and the classes directly in the module, and for
each class the functions directly in it, in order.  Nothing else makes a difference: asynchronous functions, other
statements and classes in classes may be emptied, and so may functions but for their docstrings. -/
theorem visible_definitions (body : List Stmt) :
    ((∃ fault, ModuleEntry.ofBody body = .error fault ∧ fault.kind = "AttributeError") ↔ HasUndocumented body) ∧
    (¬HasUndocumented body → ∃ m, ModuleEntry.ofBody body = .ok m ∧ m.docstring = docstring? body ∧
      m.functions.map some = (functionsIn body).map shownFunction? ∧
      m.classes.map (fun c => (c.name, c.docstring, c.functions.map some)) = (classesIn body).map shownClass) ∧
    ModuleEntry.ofBody (body.map bareStatement) = ModuleEntry.ofBody body := by
  refine ⟨?_, ?_, ModuleEntry.ofBody_bare body⟩
  · rcases ModuleEntry.ofBody_cases body with ⟨m, hm, -, -, -, hnone⟩ | ⟨hfault, hundocumented⟩
    · refine iff_of_false ?_ hnone
      rintro ⟨fault, hfault, -⟩
      cases hm.symm.trans hfault
    · exact iff_of_true ⟨undocumented, hfault, rfl⟩ hundocumented
  · intro hnone
    rcases ModuleEntry.ofBody_cases body with ⟨m, hm, hdoc, hfunctions, hclasses, -⟩ | ⟨-, hundocumented⟩
    · exact ⟨m, hm, hdoc, hfunctions, hclasses⟩
    · exact absurd hundocumented hnone

namespace Sample

/-- A docstring. -/
def note (text : String) : Stmt := .expression (some text.toList)

/-- A module with a function in a condition, an asynchronous one and a class in a class, none of them documented. -/
def shop : List Stmt :=
  [note "Shop.",
   .compound [.function false "hidden".toList [.simple]],
   .classDef "Till".toList
     [.function false "open".toList [note "Opens <it>.", .function false "key".toList [.simple]],
      .classDef "Drawer".toList [.function false "pull".toList [.simple]]],
   .function true "wait".toList [.simple],
   .function false "sell".toList [note "Sells."]]

end Sample

theorem sample_visible_definitions :
    ¬HasUndocumented Sample.shop ∧ ∃ m, ModuleEntry.ofBody Sample.shop = .ok m ∧
      m.functions.map some = [some ⟨"sell".toList, "Sells.".toList⟩] ∧
      m.classes.map (fun c => (c.name, c.docstring, c.functions.map some)) =
        [("Till".toList, none, [some ⟨"open".toList, "Opens \\<it\\>.".toList⟩])] := by
  have hnone : ¬HasUndocumented Sample.shop := by
    rw [hasUndocumented_iff]
    simp only [LacksDocstring]
    decide
  obtain ⟨m, hm, -, hfunctions, hclasses⟩ := (visible_definitions Sample.shop).2.1 hnone
  exact ⟨hnone, m, hm, hfunctions.trans (by decide), hclasses.trans (by decide)⟩

end Docsmith.Docs

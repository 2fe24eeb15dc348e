import Docsmith.FileTree.Basic

/-!
# Places in a tree

What stands at a place of a tree is nothing, a file with its bytes, or a folder (`look`), and a folder is listed in
some order (`listing`).  Putting a file into a folder changes what stands at the place of the file and nowhere else
(`look_put`) and the list of no other folder (`listing_put`), and putting there what is there already changes nothing
(`put_of_at?`).  A tree is proper (`isProper`) if every name in it can be a part of a path and
no folder has a name twice.
-/

namespace Docsmith

/-- A name that a path can have as a part. -/
def Path.IsName (name : String) : Prop :=
  name ≠ "" ∧ name ≠ "." ∧ name ≠ ".." ∧ '/' ∉ name.toList ∧ '\x00' ∉ name.toList

instance (name : String) : Decidable (Path.IsName name) := inferInstanceAs (Decidable (_ ∧ _))

namespace FileTree

/-- Induction over a tree, with the hypothesis for all entries of a folder. -/
@[elab_as_elim]
theorem induction {motive : FileTree → Prop} (file : ∀ bytes, motive (.file bytes))
    (folder : ∀ es, (∀ name t, Fields.get? name es = some t → motive t) → motive (.folder es)) (t : FileTree) :
    motive t := by
  refine @FileTree.rec motive (fun es => ∀ e ∈ es, motive e.2) (fun e => motive e.2) file ?_ ?_ ?_ ?_ t
  · intro es ih
    exact folder es fun name t h => ih (name, t) (Fields.mem_of_get? h)
  · intro e he
    cases he
  · intro e es hhead htail x hx
    rcases List.mem_cons.1 hx with rfl | hx
    · exact hhead
    · exact htail x hx
  · intro name t ht
    exact ht

/-! ### Entering -/

section

variable {es : Fields FileTree} {name : String}

private theorem get?_insert (h : es.get? name = none) (other : String) (t : FileTree) :
    (insert name t es).get? other = if other = name then some t else es.get? other := by
  induction es with
  | nil => simp [insert, Fields.get?, eq_comm]
  | cons e es ih =>
    obtain ⟨k, u⟩ := e
    have hk : k ≠ name := by
      rintro rfl
      simp [Fields.get?] at h
    have hrest := ih (by simpa [Fields.get?, hk] using h)
    rw [insert]
    split
    · by_cases hother : other = name
      · simp [Fields.get?, hother]
      · simp [Fields.get?, hother, Ne.symm hother]
    · by_cases hother : k = other
      · subst hother
        simp [Fields.get?, hk]
      · simp [Fields.get?, hother, hrest]

private theorem get?_enter (name other : String) (t : FileTree) (es : Fields FileTree) :
    (enter name t es).get? other = if other = name then some t else es.get? other := by
  rw [enter]
  split
  next => exact Fields.get?_put name other t es
  next hnew =>
    rw [Fields.has, Bool.not_eq_true, Option.isSome_eq_false_iff, Option.isNone_iff_eq_none] at hnew
    exact get?_insert hnew other t

theorem enter_of_some {u : FileTree} (h : es.get? name = some u) (t : FileTree) : enter name t es = es.put name t := by
  rw [enter, if_pos]
  rw [Fields.has, h]
  rfl

private theorem enter_of_get? {t : FileTree} (h : es.get? name = some t) : enter name t es = es := by
  rw [enter_of_some h, Fields.put_of_get? h]

private theorem names_enter {u : FileTree} (h : es.get? name = some u) (t : FileTree) :
    (enter name t es).names = es.names := by
  rw [enter_of_some h, Fields.names_put, if_pos]
  rw [← Fields.get?_isSome_iff, h]
  rfl

end

/-! ### What stands at a place -/

/-- A file with its bytes, or a folder. -/
inductive Kind where
  | file (bytes : List Nat)
  | folder
  deriving DecidableEq, Repr

/-- The kind of a tree. -/
def kind : FileTree → Kind
  | .file bytes => .file bytes
  | .folder _ => .folder

/-- What stands at a place. -/
def look (place : List String) (t : FileTree) : Option Kind := (t.at? place).map kind

variable {t u x : FileTree} {name : String} {place : List String}

theorem look_nil (t : FileTree) : t.look [] = some t.kind := rfl

theorem look_cons (name : String) (place : List String) (t : FileTree) :
    t.look (name :: place) = (t.child? name).bind (look place) := by
  unfold look
  rw [at?]
  cases t.child? name <;> rfl

theorem look_eq_folder : t.look place = some .folder ↔ ∃ es, t.at? place = some (.folder es) := by
  unfold look
  cases h : t.at? place with
  | none => simp
  | some u => cases u <;> simp [kind]

theorem look_eq_file {bytes : List Nat} : t.look place = some (.file bytes) ↔ t.at? place = some (.file bytes) := by
  unfold look
  cases h : t.at? place with
  | none => simp
  | some u => cases u <;> simp [kind]

theorem at?_append (place rest : List String) (t : FileTree) :
    t.at? (place ++ rest) = (t.at? place).bind (at? rest) := by
  induction place generalizing t with
  | nil => rfl
  | cons name place ih =>
    rw [List.cons_append, at?, at?]
    cases h : t.child? name with
    | none => rfl
    | some sub => exact ih sub

theorem at?_concat {es : Fields FileTree} (h : t.at? place = some (.folder es)) (name : String) :
    t.at? (place ++ [name]) = es.get? name := by
  rw [at?_append, h]
  simp only [Option.bind_some, at?, child?, entries]
  cases es.get? name <;> rfl

private theorem kind_of_child? (h : t.child? name = some u) : t.kind = .folder := by
  cases t with
  | file bytes => cases h
  | folder es => rfl

/-- Only a folder has a folder in it. -/
theorem kind_of_look (h : t.look place = some .folder) : t.kind = .folder := by
  cases place with
  | nil => exact Option.some.inj h
  | cons n place =>
    rw [look_cons] at h
    obtain ⟨sub, hsub, -⟩ := Option.bind_eq_some_iff.1 h
    exact kind_of_child? hsub

theorem child?_put (name other : String) (place : List String) (t x : FileTree) :
    (t.put (name :: place) x).child? other =
      if other = name then some (((t.child? name).getD .empty).put place x) else t.child? other := by
  rw [put, child?, entries, get?_enter]
  rfl

/-- Putting a file into a folder changes only what stands at the place of the file. -/
theorem look_put {place : List String} (hfolder : t.look place = some .folder)
    (hfree : t.look (place ++ [name]) ≠ some .folder) (bytes : List Nat) (other : List String) :
    (t.put (place ++ [name]) (.file bytes)).look other =
      if other = place ++ [name] then some (.file bytes) else t.look other := by
  induction place generalizing t other with
  | nil =>
    cases other with
    | nil => simpa [look_nil, put, kind] using hfolder.symm
    | cons n rest =>
      rw [look_cons, List.nil_append, child?_put]
      by_cases hn : n = name
      · subst hn
        cases rest with
        | nil => simp [put, look_nil, kind]
        | cons m rest =>
          -- nothing is below a file, neither the new one nor an old one
          have hnone : t.look (n :: m :: rest) = none := by
            rw [look_cons]
            cases hu : t.child? n with
            | none => rfl
            | some u =>
              cases u with
              | file old => simp [look_cons, child?, entries, Fields.get?]
              | folder es => simp [look_cons, hu, look_nil, kind] at hfree
          simp [put, look_cons m, child?, entries, Fields.get?, hnone]
      · simp [hn, look_cons]
  | cons a place ih =>
    obtain ⟨sub, hsub⟩ : ∃ sub, t.child? a = some sub := by
      rw [look_cons] at hfolder
      cases h : t.child? a with
      | none => simp [h] at hfolder
      | some sub => exact ⟨sub, rfl⟩
    rw [look_cons, hsub] at hfolder
    rw [List.cons_append, look_cons, hsub] at hfree
    cases other with
    | nil =>
      have hne : [] ≠ a :: place ++ [name] := (List.cons_ne_nil _ _).symm
      rw [if_neg hne, look_nil, look_nil, kind_of_child? hsub]
      rfl
    | cons n rest =>
      rw [look_cons, List.cons_append, child?_put]
      by_cases hn : n = a
      · subst hn
        have := ih hfolder hfree rest
        simp [hsub, this, look_cons]
      · simp [hn, look_cons]

/-- The names in the folder at a place, in the order in which they are listed. -/
def listing (place : List String) (t : FileTree) : List String := (t.at? place).elim [] fun u => u.entries.names

theorem listing_cons (name : String) (place : List String) (t : FileTree) :
    t.listing (name :: place) = (t.child? name).elim [] (listing place) := by
  unfold listing
  rw [at?]
  cases t.child? name <;> rfl

/-- Putting a file into a folder changes only the list of that folder. -/
theorem listing_put {place other : List String} (hfolder : t.look place = some .folder)
    (hfree : t.look (place ++ [name]) ≠ some .folder) (hother : other ≠ place) (bytes : List Nat) :
    (t.put (place ++ [name]) (.file bytes)).listing other = t.listing other := by
  induction place generalizing t other with
  | nil =>
    cases other with
    | nil => exact absurd rfl hother
    | cons n rest =>
      rw [listing_cons, listing_cons, List.nil_append, child?_put]
      split
      next hn =>
        subst hn
        -- no names are listed below a file, neither the new one nor an old one
        have hnone : ∀ bytes, (FileTree.file bytes).listing rest = [] := fun bytes => by cases rest <;> rfl
        rw [put, Option.elim_some, hnone]
        cases hu : t.child? n with
        | none => rfl
        | some u =>
          cases u with
          | file old => exact (hnone old).symm
          | folder es => simp [look_cons, hu, look_nil, kind] at hfree
      next => rfl
  | cons a place ih =>
    rw [look_cons] at hfolder
    obtain ⟨sub, hsub, hinner⟩ := Option.bind_eq_some_iff.1 hfolder
    rw [List.cons_append, look_cons, hsub] at hfree
    cases other with
    | nil => exact names_enter hsub _
    | cons n rest =>
      rw [listing_cons, listing_cons, List.cons_append, child?_put]
      split
      next hn =>
        subst hn
        rw [hsub]
        exact ih hinner hfree fun heq => hother (heq ▸ rfl)
      next => rfl

theorem put_of_at? (h : t.at? place = some x) : t.put place x = t := by
  induction place generalizing t with
  | nil => exact (Option.some.inj h).symm
  | cons name place ih =>
    rw [at?] at h
    obtain ⟨sub, hsub, hat⟩ := Option.bind_eq_some_iff.1 h
    cases t with
    | file bytes => cases hsub
    | folder es =>
      rw [put, hsub, Option.getD_some, ih hat]
      exact congrArg FileTree.folder (enter_of_get? hsub)

/-! ### Proper trees -/

mutual

/-- Whether every name in a tree can be a part of a path, and no folder has a name twice. -/
def isProper : FileTree → Bool
  | .file _ => true
  | .folder es => decide (Fields.names es).Nodup && isProperIn es

/-- Whether all entries of a folder are proper. -/
def isProperIn : List (String × FileTree) → Bool
  | [] => true
  | (name, t) :: es => decide (Path.IsName name) && isProper t && isProperIn es

end

private theorem isProperIn_iff {es : Fields FileTree} :
    isProperIn es ↔ ∀ name t, (name, t) ∈ es → Path.IsName name ∧ t.isProper := by
  induction es with
  | nil => simp [isProperIn]
  | cons e es ih =>
    obtain ⟨k, u⟩ := e
    simp only [isProperIn, Bool.and_eq_true, decide_eq_true_eq, ih, List.mem_cons, Prod.mk.injEq]
    constructor
    · rintro ⟨hhead, htail⟩ name t (⟨rfl, rfl⟩ | h)
      · exact hhead
      · exact htail name t h
    · intro h
      exact ⟨h k u (.inl ⟨rfl, rfl⟩), fun name t hm => h name t (.inr hm)⟩

theorem isProper_folder {es : Fields FileTree} (h : (FileTree.folder es).isProper) :
    es.names.Nodup ∧ ∀ name t, es.get? name = some t → Path.IsName name ∧ t.isProper := by
  simp only [isProper, Bool.and_eq_true, decide_eq_true_eq, isProperIn_iff] at h
  exact ⟨h.1, fun name t hget => h.2 name t (Fields.mem_of_get? hget)⟩

/-- All names on the way to a place of a proper tree can be parts of a path. -/
theorem isProper.names_of_at? (hproper : t.isProper) (h : t.at? place = some u) :
    u.isProper ∧ ∀ name ∈ place, Path.IsName name := by
  induction place generalizing t with
  | nil =>
    cases h
    exact ⟨hproper, fun name hname => nomatch hname⟩
  | cons a place ih =>
    rw [at?] at h
    obtain ⟨sub, hsub, hat⟩ := Option.bind_eq_some_iff.1 h
    cases t with
    | file bytes => cases hsub
    | folder es =>
      obtain ⟨hname, hproper⟩ := (isProper_folder hproper).2 a sub hsub
      obtain ⟨hu, hplace⟩ := ih hproper hat
      exact ⟨hu, List.forall_mem_cons.2 ⟨hname, hplace⟩⟩

end FileTree

end Docsmith

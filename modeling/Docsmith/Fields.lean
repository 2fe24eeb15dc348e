/-!
# Fields in insertion order

A table from names to values that remembers the order in which its names were first put in.  `put` on a name that
is present replaces its value where it stands; a new name goes to the end.
-/

namespace Docsmith

/-- Named values in the order of their first insertion. -/
abbrev Fields (α : Type) := List (String × α)

namespace Fields

variable {α β : Type}

/-- The value under a name. -/
def get? (name : String) : Fields α → Option α
  | [] => none
  | (k, v) :: fs => if k = name then some v else get? name fs

/-- Whether a name is present. -/
def has (name : String) (fs : Fields α) : Bool := (get? name fs).isSome

/-- Stores a value under a name. -/
def put (name : String) (value : α) : Fields α → Fields α
  | [] => [(name, value)]
  | (k, v) :: fs => if k = name then (k, value) :: fs else (k, v) :: put name value fs

/-- The names, in order. -/
def names (fs : Fields α) : List String := fs.map (·.1)

/-- Stores all fields of `fs`, in order, over those of `base`. -/
def overlay (fs base : Fields α) : Fields α := fs.foldl (fun acc f => acc.put f.1 f.2) base

@[simp] theorem get?_put_self (name : String) (v : α) (fs : Fields α) : (fs.put name v).get? name = some v := by
  induction fs with
  | nil => simp [put, get?]
  | cons f fs ih =>
    obtain ⟨k, w⟩ := f
    by_cases h : k = name <;> simp [put, get?, h, ih]

@[simp] theorem get?_put_of_ne {name other : String} (h : other ≠ name) (v : α) (fs : Fields α) :
    (fs.put name v).get? other = fs.get? other := by
  induction fs with
  | nil => simp [put, get?, h.symm]
  | cons f fs ih =>
    obtain ⟨k, w⟩ := f
    by_cases hk : k = name
    · subst hk
      simp [put, get?, h.symm]
    · by_cases ho : k = other
      · simp [put, get?, ho, h]
      · simp [put, get?, hk, ho, ih]

theorem get?_put (name other : String) (v : α) (fs : Fields α) :
    (fs.put name v).get? other = if other = name then some v else fs.get? other := by
  by_cases h : other = name
  · subst h
    simp
  · simp [h]

theorem mem_of_get? {name : String} {v : α} {fs : Fields α} (h : fs.get? name = some v) : (name, v) ∈ fs := by
  induction fs with
  | nil => cases h
  | cons f fs ih =>
    obtain ⟨k, w⟩ := f
    simp only [get?] at h
    split at h
    next hk =>
      cases h
      rw [hk]
      exact List.mem_cons_self
    next => exact List.mem_cons_of_mem _ (ih h)

theorem get?_isSome_iff {name : String} {fs : Fields α} : (fs.get? name).isSome ↔ name ∈ fs.names := by
  induction fs with
  | nil => simp [get?, names]
  | cons f fs ih =>
    obtain ⟨k, w⟩ := f
    by_cases hk : k = name
    · simp [get?, names, hk]
    · have hk' : ¬ name = k := fun h => hk h.symm
      simp only [get?, hk, if_false, ih]
      simp [names, hk']

theorem put_of_get? {name : String} {v : α} {fs : Fields α} (h : fs.get? name = some v) : fs.put name v = fs := by
  induction fs with
  | nil => cases h
  | cons f fs ih =>
    obtain ⟨k, w⟩ := f
    simp only [get?] at h
    split at h
    next hk =>
      cases h
      simp [put, hk]
    next hk => simp [put, hk, ih h]

theorem put_put (name : String) (v w : α) (fs : Fields α) : (fs.put name v).put name w = fs.put name w := by
  induction fs with
  | nil => simp [put]
  | cons f fs ih =>
    obtain ⟨k, u⟩ := f
    by_cases hk : k = name <;> simp [put, hk, ih]

theorem names_put (name : String) (v : α) (fs : Fields α) :
    (fs.put name v).names = if name ∈ fs.names then fs.names else fs.names ++ [name] := by
  induction fs with
  | nil => simp [put, names]
  | cons f fs ih =>
    obtain ⟨k, w⟩ := f
    by_cases hk : k = name
    · simp [put, names, hk]
    · have hk' : ¬ name = k := fun h => hk h.symm
      have hnames : ∀ gs : Fields α, names ((k, w) :: gs) = k :: names gs := fun gs => rfl
      simp only [put, hk, if_false, hnames, ih, List.mem_cons, hk', false_or]
      split <;> rfl

theorem get?_overlay_of_not_mem {name : String} {fs : Fields α} (h : name ∉ fs.names) (base : Fields α) :
    (fs.overlay base).get? name = base.get? name := by
  induction fs generalizing base with
  | nil => rfl
  | cons f fs ih =>
    simp only [names, List.map_cons, List.mem_cons, not_or] at h
    rw [overlay, List.foldl_cons]
    exact (ih h.2 _).trans (get?_put_of_ne h.1 f.2 base)

/-- Of fields with different names, each is found. -/
theorem get?_overlay {name : String} {v : α} {fs : Fields α} (hnodup : fs.names.Nodup) (h : fs.get? name = some v)
    (base : Fields α) : (fs.overlay base).get? name = some v := by
  induction fs generalizing base with
  | nil => cases h
  | cons f fs ih =>
    obtain ⟨k, w⟩ := f
    obtain ⟨hk, hnodup⟩ := List.nodup_cons.1 hnodup
    rw [overlay, List.foldl_cons]
    rw [get?] at h
    split at h
    next heq =>
      cases h
      subst heq
      exact (get?_overlay_of_not_mem hk _).trans (get?_put_self _ _ base)
    next => exact ih hnodup h _

end Fields

end Docsmith

import BuildPipeline.FileSystem.Node

/-! Trees after something was put into a folder or taken out of it: the other entries of the folder
are as they were, and so are all folders and links. -/
namespace BuildPipeline.Node

theorem find?_cons (name other : String) (n : Node) (es : List (String × Node)) :
    find? other ((name, n) :: es) = if other = name then some n else find? other es := by
  by_cases h : other = name
  · simp [find?, h]
  · simp [find?, List.lookup_cons, h, beq_false_of_ne h]

@[simp] theorem find?_putEntry (name other : String) (n : Node) (es : List (String × Node)) :
    find? other (putEntry name n es) = if other = name then some n else find? other es := by
  induction es with
  | nil => rw [putEntry, find?_cons]
  | cons e rest ih =>
    obtain ⟨key, m⟩ := e
    by_cases hkey : key = name
    · rw [putEntry, if_pos hkey, find?_cons, find?_cons, hkey]
      split <;> rfl
    · rw [putEntry, if_neg hkey, find?_cons, find?_cons, ih]
      by_cases h : other = key
      · have hne : other ≠ name := fun he => hkey (h ▸ he)
        rw [if_pos h, if_pos h, if_neg hne]
      · rw [if_neg h, if_neg h]

@[simp] theorem find?_dropEntry (name other : String) (es : List (String × Node)) :
    find? other (dropEntry name es) = if other = name then none else find? other es := by
  induction es with
  | nil => simp [dropEntry, find?]
  | cons e rest ih =>
    obtain ⟨key, m⟩ := e
    rw [dropEntry] at ih ⊢
    by_cases hkey : key = name
    · rw [List.filter_cons_of_neg (by simp [hkey]), ih, find?_cons, hkey]
      split <;> rfl
    · rw [List.filter_cons_of_pos (by simp [hkey]), find?_cons, find?_cons, ih]
      by_cases h : other = key
      · have hne : other ≠ name := fun he => hkey (h ▸ he)
        rw [if_pos h, if_pos h, if_neg hne]
      · rw [if_neg h, if_neg h]

theorem get?_folder_cons (es : List (String × Node)) (name : String) (rest : List String) :
    (folder es).get? (name :: rest) = (find? name es).bind (·.get? rest) := by rw [get?]

theorem exists_folder_of_get?_cons {n m : Node} {name : String} {rest : List String}
    (h : n.get? (name :: rest) = some m) :
    ∃ es c, n = folder es ∧ find? name es = some c ∧ c.get? rest = some m := by
  cases n with
  | folder es =>
    rw [get?_folder_cons] at h
    obtain ⟨c, hc, hm⟩ := Option.bind_eq_some_iff.1 h
    exact ⟨es, c, rfl, hc, hm⟩
  | _ => simp [get?] at h

theorem get?_append (n : Node) (front back : List String) :
    n.get? (front ++ back) = (n.get? front).bind (·.get? back) := by
  induction front generalizing n with
  | nil => simp [get?]
  | cons name rest ih =>
    cases n with
    | folder es =>
      rw [List.cons_append, get?_folder_cons, get?_folder_cons, Option.bind_assoc]
      simp only [ih]
    | _ => simp [get?]

def IsFolderAt (root : Node) (names : List String) : Prop :=
  ∃ es, root.get? names = some (.folder es)

theorem IsFolderAt.front {root : Node} {front back : List String}
    (h : root.IsFolderAt (front ++ back)) : root.IsFolderAt front := by
  obtain ⟨es, hes⟩ := h
  rw [get?_append] at hes
  obtain ⟨n, hn, hback⟩ := Option.bind_eq_some_iff.1 hes
  cases back with
  | nil =>
    rw [get?, Option.some.injEq] at hback
    exact ⟨es, by rw [hn, hback]⟩
  | cons name rest =>
    obtain ⟨inner, -, rfl, -⟩ := exists_folder_of_get?_cons hback
    exact ⟨inner, hn⟩

theorem IsFolderAt.dropLast {root : Node} {names : List String} (h : root.IsFolderAt names) :
    root.IsFolderAt names.dropLast := by
  cases List.eq_nil_or_concat names with
  | inl hnil => rwa [hnil] at h ⊢
  | inr hconcat =>
    obtain ⟨front, last, rfl⟩ := hconcat
    rw [List.concat_eq_append] at h ⊢
    rw [List.dropLast_concat]
    exact h.front

theorem get?_entry {root : Node} {folder : List String} {es : List (String × Node)}
    (h : root.get? folder = some (.folder es)) (name : String) :
    root.get? (folder ++ [name]) = find? name es := by
  rw [get?_append, h, Option.bind_some, get?_folder_cons]
  cases find? name es <;> simp [get?]

/-! ### What a change keeps -/

def Keeps (before after : Node) : Prop :=
  ∀ names, (before.IsFolderAt names → after.IsFolderAt names) ∧
    ∀ target, before.get? names = some (.link target) → after.get? names = some (.link target)

theorem Keeps.refl (n : Node) : Keeps n n := fun _ => ⟨id, fun _ h => h⟩

theorem Keeps.trans {a b c : Node} (hab : Keeps a b) (hbc : Keeps b c) : Keeps a c := fun names =>
  ⟨fun h => (hbc names).1 ((hab names).1 h),
    fun target h => (hbc names).2 target ((hab names).2 target h)⟩

def IsLeaf : Node → Bool
  | .file .. | .device _ => true
  | .link _ | .folder _ => false

theorem keeps_of_leaf {n m : Node} (h : n.IsLeaf = true) : Keeps n m := by
  intro names
  cases names with
  | nil => cases n <;> simp_all [IsLeaf, IsFolderAt, get?]
  | cons name rest => cases n <;> simp_all [IsLeaf, IsFolderAt, get?]

/-- An entry may be replaced by one that keeps what it keeps. -/
theorem keeps_folder {es fs : List (String × Node)}
    (h : ∀ name n, find? name es = some n →
      n.IsLeaf = true ∨ ∃ m, find? name fs = some m ∧ Keeps n m) :
    Keeps (.folder es) (.folder fs) := by
  intro names
  cases names with
  | nil => exact ⟨fun _ => ⟨fs, by rw [get?]⟩, fun target ht => by simp [get?] at ht⟩
  | cons name rest =>
    have hentry {x : Node} (hx : (folder es).get? (name :: rest) = some x)
        (hleaf : x.IsLeaf = false) :
        ∃ n m, find? name es = some n ∧ n.get? rest = some x ∧ find? name fs = some m ∧
          Keeps n m := by
      rw [get?_folder_cons] at hx
      obtain ⟨n, hn, hget⟩ := Option.bind_eq_some_iff.1 hx
      rcases h name n hn with hnleaf | ⟨m, hm, hkeeps⟩
      · cases rest with
        | nil =>
          rw [get?, Option.some.injEq] at hget
          simp [← hget, hnleaf] at hleaf
        | cons next rest =>
          obtain ⟨inner, -, rfl, -⟩ := exists_folder_of_get?_cons hget
          simp [IsLeaf] at hnleaf
      · exact ⟨n, m, hn, hget, hm, hkeeps⟩
    constructor
    · rintro ⟨inner, hinner⟩
      obtain ⟨n, m, -, hget, hm, hkeeps⟩ := hentry hinner rfl
      obtain ⟨inner', hinner'⟩ := (hkeeps rest).1 ⟨inner, hget⟩
      exact ⟨inner', by rw [get?_folder_cons, hm, Option.bind_some, hinner']⟩
    · intro target htarget
      obtain ⟨n, m, -, hget, hm, hkeeps⟩ := hentry htarget rfl
      rw [get?_folder_cons, hm, Option.bind_some, (hkeeps rest).2 target hget]

section Change
variable {es : List (String × Node)} {name : String} {rest : List String}

theorem set_cons (h : rest ≠ []) (new : Node) :
    (folder es).set (name :: rest) new = match find? name es with
      | some n => .folder (putEntry name (n.set rest new) es)
      | none => .folder es := by
  cases rest with
  | nil => exact absurd rfl h
  | cons next rest =>
    cases hfind : find? name es <;> simp only [set, hfind]

theorem erase_cons (h : rest ≠ []) :
    (folder es).erase (name :: rest) = match find? name es with
      | some n => .folder (putEntry name (n.erase rest) es)
      | none => .folder es := by
  cases rest with
  | nil => exact absurd rfl h
  | cons next rest =>
    cases hfind : find? name es <;> simp only [erase, hfind]

theorem keeps_putEntry {n : Node}
    (h : ∀ m, find? name es = some m → m.IsLeaf = true ∨ Keeps m n) :
    Keeps (.folder es) (.folder (putEntry name n es)) := by
  refine keeps_folder fun other m hm => ?_
  by_cases hother : other = name
  · rcases h m (hother ▸ hm) with hleaf | hkeeps
    · exact .inl hleaf
    · exact .inr ⟨n, by simp [hother], hkeeps⟩
  · exact .inr ⟨m, by simp [hother, hm], .refl m⟩

theorem keeps_inside {n m : Node} (hfind : find? name es = some n) (h : Keeps n m) :
    Keeps (.folder es) (.folder (putEntry name m es)) := by
  refine keeps_putEntry fun x hx => .inr ?_
  rw [hfind, Option.some.injEq] at hx
  rwa [← hx]

theorem keeps_dropEntry (h : ∀ m, find? name es = some m → m.IsLeaf = true) :
    Keeps (.folder es) (.folder (dropEntry name es)) := by
  refine keeps_folder fun other m hm => ?_
  by_cases hother : other = name
  · exact .inl (h m (hother ▸ hm))
  · exact .inr ⟨m, by simp [hother, hm], .refl m⟩

end Change

/-! ### Changes at a place -/

/-- What a change at a place comes to: the entries of the folder it is in are others, unless that
folder is missing. -/
inductive EditedBy (change : String → List (String × Node) → List (String × Node)) :
    Node → List String → Node → Prop
  | missing (root : Node) (place : List String) : EditedBy change root place root
  | here (es : List (String × Node)) (name : String) :
    EditedBy change (.folder es) [name] (.folder (change name es))
  | inside {es : List (String × Node)} {name : String} {rest : List String} {n m : Node}
    (hfind : find? name es = some n) (h : EditedBy change n rest m) :
    EditedBy change (.folder es) (name :: rest) (.folder (putEntry name m es))

section Edit
variable {root : Node} {names : List String}

theorem editedBy_set (root new : Node) (h : names ≠ []) :
    EditedBy (fun name => putEntry name new) root names (root.set names new) := by
  induction names generalizing root with
  | nil => exact absurd rfl h
  | cons name rest ih =>
    cases root with
    | folder es =>
      by_cases hrest : rest = []
      · subst hrest
        rw [set]
        exact .here es name
      · rw [set_cons hrest]
        cases hfind : find? name es with
        | none => exact .missing _ _
        | some n => exact .inside hfind (ih n hrest)
    | _ => simpa only [set] using .missing _ _

theorem editedBy_erase (root : Node) (names : List String) :
    EditedBy dropEntry root names (root.erase names) := by
  induction names generalizing root with
  | nil =>
    have hself : root.erase [] = root := by cases root <;> rw [erase]
    exact hself ▸ .missing root []
  | cons name rest ih =>
    cases root with
    | folder es =>
      by_cases hrest : rest = []
      · subst hrest
        rw [erase]
        exact .here es name
      · rw [erase_cons hrest]
        cases hfind : find? name es with
        | none => exact .missing _ _
        | some n => exact .inside hfind (ih n)
    | _ => simpa only [erase] using .missing _ _

theorem EditedBy.keeps {change : String → List (String × Node) → List (String × Node)}
    {after : Node} (h : EditedBy change root names after)
    (hchange : ∀ name es, (∀ n, find? name es = some n → n.IsLeaf = true) →
      Keeps (.folder es) (.folder (change name es)))
    (hleaf : ∀ n, root.get? names = some n → n.IsLeaf = true) : Keeps root after := by
  induction h with
  | missing root place => exact .refl root
  | here es name =>
    refine hchange name es fun n hn => hleaf n ?_
    rw [get?_folder_cons, hn, Option.bind_some, get?]
  | inside hfind _ ih =>
    refine keeps_inside hfind (ih fun n hn => hleaf n ?_)
    rw [get?_folder_cons, hfind, Option.bind_some, hn]

/-- Where no folder and no link stands, anything may be put. -/
theorem keeps_set (new : Node) (h : ∀ n, root.get? names = some n → n.IsLeaf = true) :
    Keeps root (root.set names new) := by
  cases names with
  | nil => exact keeps_of_leaf (h root (by rw [get?]))
  | cons name rest =>
    have hedited := editedBy_set root new (List.cons_ne_nil name rest)
    exact hedited.keeps (fun _ _ hleaf => keeps_putEntry fun m hm => .inl (hleaf m hm)) h

theorem keeps_erase (h : ∀ n, root.get? names = some n → n.IsLeaf = true) :
    Keeps root (root.erase names) :=
  (editedBy_erase root names).keeps (fun _ _ => keeps_dropEntry) h

end Edit

/-! ### The entries of one folder -/

section Entries
variable {root : Node} {folder : List String} (h : root.IsFolderAt folder) (name other : String)
include h

theorem get?_set_entry (new : Node) : (root.set (folder ++ [name]) new).get? (folder ++ [other]) =
    if other = name then some new else root.get? (folder ++ [other]) := by
  induction folder generalizing root with
  | nil =>
    obtain ⟨es, hes⟩ := h
    rw [get?, Option.some.injEq] at hes
    subst hes
    rw [List.nil_append, List.nil_append, set, get?_folder_cons, get?_folder_cons, find?_putEntry]
    split <;> simp [get?]
  | cons first rest ih =>
    obtain ⟨es, hes⟩ := h
    obtain ⟨inner, n, rfl, hfind, hn⟩ := exists_folder_of_get?_cons hes
    have hne : rest ++ [name] ≠ [] := by simp
    rw [List.cons_append, List.cons_append, set_cons hne, hfind]
    simp only [get?_folder_cons, find?_putEntry, if_true, Option.bind_some, hfind]
    exact ih ⟨es, hn⟩

theorem get?_erase_entry : (root.erase (folder ++ [name])).get? (folder ++ [other]) =
    if other = name then none else root.get? (folder ++ [other]) := by
  induction folder generalizing root with
  | nil =>
    obtain ⟨es, hes⟩ := h
    rw [get?, Option.some.injEq] at hes
    subst hes
    rw [List.nil_append, List.nil_append, erase, get?_folder_cons, get?_folder_cons,
      find?_dropEntry]
    split <;> simp [get?]
  | cons first rest ih =>
    obtain ⟨es, hes⟩ := h
    obtain ⟨inner, n, rfl, hfind, hn⟩ := exists_folder_of_get?_cons hes
    have hne : rest ++ [name] ≠ [] := by simp
    rw [List.cons_append, List.cons_append, erase_cons hne, hfind]
    simp only [get?_folder_cons, find?_putEntry, if_true, Option.bind_some, hfind]
    exact ih ⟨es, hn⟩

end Entries

end BuildPipeline.Node

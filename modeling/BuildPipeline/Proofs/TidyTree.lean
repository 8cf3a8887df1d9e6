import BuildPipeline.Proofs.FolderWalk

/-! Trees without links, and what a change at one place leaves as it was at every other. -/
namespace BuildPipeline.Node

open FileSystem

/-- No links, and in every folder names of their own that a path can give. -/
inductive Tidy : Node → Prop
  | file (content : ByteArray) (runnable : Bool) : Tidy (.file content runnable)
  | device (d : Device) : Tidy (.device d)
  | folder {es : List (String × Node)} (distinct : (es.map Prod.fst).Nodup)
    (named : ∀ e ∈ es, IsFileName e.1) (inner : ∀ e ∈ es, Tidy e.2) : Tidy (.folder es)

/-- Holds of a folder exactly if its names are its own and it holds of every entry. -/
def Hereditary (P : Node → Prop) : Prop :=
  ∀ es, P (.folder es) ↔ (es.map Prod.fst).Nodup ∧ (∀ e ∈ es, IsFileName e.1) ∧ ∀ e ∈ es, P e.2

theorem hereditary_tidy : Hereditary Tidy := by
  refine fun es => ⟨fun h => ?_, fun h => .folder h.1 h.2.1 h.2.2⟩
  cases h with
  | folder distinct named inner => exact ⟨distinct, named, inner⟩

theorem tidy_empty : Tidy (.folder []) :=
  .folder List.nodup_nil (List.forall_mem_nil _) (List.forall_mem_nil _)

theorem mem_of_find? {es : List (String × Node)} {name : String} {n : Node}
    (h : find? name es = some n) : (name, n) ∈ es := by
  obtain ⟨front, back, rfl, -⟩ := List.lookup_eq_some_iff.1 h
  simp

section Entries
variable {es : List (String × Node)} {name : String} {n : Node}

theorem mem_putEntry {e : String × Node} (h : e ∈ putEntry name n es) :
    e = (name, n) ∨ e ∈ es := by
  induction es with
  | nil => simpa [putEntry] using h
  | cons first rest ih =>
    rw [putEntry] at h
    split at h
    · obtain rfl | h := List.mem_cons.1 h
      · exact .inl rfl
      · exact .inr (List.mem_cons_of_mem first h)
    · obtain rfl | h := List.mem_cons.1 h
      · exact .inr List.mem_cons_self
      · exact (ih h).imp_right (List.mem_cons_of_mem first)

theorem nodup_putEntry (h : (es.map Prod.fst).Nodup) :
    ((putEntry name n es).map Prod.fst).Nodup := by
  induction es with
  | nil => simp [putEntry]
  | cons first rest ih =>
    rw [List.map_cons, List.nodup_cons] at h
    rw [putEntry]
    split
    · next hfirst =>
      rw [List.map_cons, List.nodup_cons]
      exact ⟨hfirst ▸ h.1, h.2⟩
    · next hfirst =>
      rw [List.map_cons, List.nodup_cons]
      refine ⟨fun hmem => ?_, ih h.2⟩
      obtain ⟨e, he, hkey⟩ := List.mem_map.1 hmem
      obtain rfl | he := mem_putEntry he
      · exact hfirst hkey.symm
      · exact h.1 (List.mem_map.2 ⟨e, he, hkey⟩)

theorem putEntry_self (h : find? name es = some n) : putEntry name n es = es := by
  induction es with
  | nil => cases h
  | cons first rest ih =>
    obtain ⟨key, m⟩ := first
    rw [find?_cons] at h
    rw [Node.putEntry]
    split at h
    · next hkey =>
      rw [Option.some.injEq] at h
      rw [if_pos hkey.symm, hkey, h]
    · next hkey => rw [if_neg (Ne.symm hkey), ih h]

theorem putEntry_putEntry (name : String) (a b : Node) (es : List (String × Node)) :
    putEntry name b (putEntry name a es) = putEntry name b es := by
  induction es with
  | nil => simp [putEntry]
  | cons e rest ih =>
    by_cases he : e.1 = name
    · simp [putEntry, he]
    · simp [putEntry, he, ih]

variable {P : Node → Prop} (hP : Hereditary P)
include hP

theorem Hereditary.entry (h : P (.folder es)) (hfind : find? name es = some n) : P n :=
  ((hP es).1 h).2.2 _ (mem_of_find? hfind)

theorem Hereditary.putEntry (h : P (.folder es)) (hname : IsFileName name) (hn : P n) :
    P (.folder (putEntry name n es)) := by
  obtain ⟨distinct, named, inner⟩ := (hP es).1 h
  refine (hP _).2 ⟨nodup_putEntry distinct, fun e he => ?_, fun e he => ?_⟩
  · obtain rfl | he := mem_putEntry he
    · exact hname
    · exact named e he
  · obtain rfl | he := mem_putEntry he
    · exact hn
    · exact inner e he

theorem Hereditary.dropEntry (h : P (.folder es)) : P (.folder (dropEntry name es)) := by
  obtain ⟨distinct, named, inner⟩ := (hP es).1 h
  have hsub : (Node.dropEntry name es).Sublist es := List.filter_sublist
  exact (hP _).2 ⟨distinct.sublist (hsub.map Prod.fst), fun e he => named e (hsub.subset he),
    fun e he => inner e (hsub.subset he)⟩

end Entries

section Places
variable {root new : Node} {place names : List String}

section Hereditary
variable {P : Node → Prop} (hP : Hereditary P)
include hP

theorem Hereditary.get? {n : Node} (h : P root) (hget : root.get? names = some n) :
    P n ∧ ∀ s ∈ names, IsFileName s := by
  induction names generalizing root with
  | nil =>
    rw [Node.get?, Option.some.injEq] at hget
    exact ⟨hget ▸ h, List.forall_mem_nil _⟩
  | cons name rest ih =>
    obtain ⟨es, c, rfl, hfind, hrest⟩ := exists_folder_of_get?_cons hget
    obtain ⟨-, named, -⟩ := (hP es).1 h
    obtain ⟨hn, hnames⟩ := ih (hP.entry h hfind) hrest
    exact ⟨hn, List.forall_mem_cons.2 ⟨named _ (mem_of_find? hfind), hnames⟩⟩

theorem EditedBy.hereditary {change : String → List (String × Node) → List (String × Node)}
    {after : Node} (h : EditedBy change root place after)
    (hchange : ∀ name es, IsFileName name → P (.folder es) → P (.folder (change name es)))
    (hroot : P root) (hplace : ∀ s ∈ place, IsFileName s) : P after := by
  induction h with
  | missing root place => exact hroot
  | here es name => exact hchange name es (hplace name List.mem_cons_self) hroot
  | inside hfind _ ih =>
    obtain ⟨hname, hrest⟩ := List.forall_mem_cons.1 hplace
    exact hP.putEntry hroot hname (ih (hP.entry hroot hfind) hrest)

theorem Hereditary.set (h : P root) (hnew : P new) (hplace : ∀ s ∈ place, IsFileName s) :
    P (root.set place new) := by
  cases place with
  | nil => rwa [Node.set]
  | cons name rest =>
    have hedited := editedBy_set root new (List.cons_ne_nil name rest)
    exact hedited.hereditary hP (fun _ _ hname hes => hP.putEntry hes hname hnew) h hplace

theorem Hereditary.erase (h : P root) (hplace : ∀ s ∈ place, IsFileName s) :
    P (root.erase place) :=
  (editedBy_erase root place).hereditary hP (fun _ _ _ hes => hP.dropEntry hes) h hplace

end Hereditary

theorem Tidy.get? {n : Node} (h : root.Tidy) (hget : root.get? names = some n) :
    n.Tidy ∧ ∀ s ∈ names, IsFileName s :=
  hereditary_tidy.get? h hget

theorem Tidy.ne_link (h : root.Tidy) (names : List String) (target : String) :
    root.get? names ≠ some (.link target) := by
  intro hget
  cases (h.get? hget).1

theorem Tidy.set (h : root.Tidy) (hnew : new.Tidy) (hplace : ∀ s ∈ place, IsFileName s) :
    (root.set place new).Tidy :=
  hereditary_tidy.set h hnew hplace

theorem Tidy.erase (h : root.Tidy) (hplace : ∀ s ∈ place, IsFileName s) :
    (root.erase place).Tidy :=
  hereditary_tidy.erase h hplace

/-! ### Elsewhere -/

/-- A node alone: of a folder, not its entries. -/
def bare : Node → Node
  | .folder _ => .folder []
  | n => n

/-- What is at a place. A folder's entries are at places of their own. -/
def surface (root : Node) (names : List String) : Option Node := (root.get? names).map bare

theorem surface_nil (root : Node) : root.surface [] = some root.bare := by
  rw [surface, get?, Option.map_some]

theorem surface_cons (es : List (String × Node)) (name : String) (rest : List String) :
    (folder es).surface (name :: rest) = (find? name es).bind (·.surface rest) := by
  rw [surface, get?_folder_cons, Option.map_bind]
  rfl

theorem surface_putEntry {es : List (String × Node)} {name : String} {n : Node}
    (h : ∀ rest, names = name :: rest →
      n.surface rest = (find? name es).bind (·.surface rest)) :
    (folder (putEntry name n es)).surface names = (folder es).surface names := by
  cases names with
  | nil => rw [surface_nil, surface_nil, bare, bare]
  | cons other rest =>
    rw [surface_cons, surface_cons, find?_putEntry]
    split
    · next hother =>
      subst hother
      exact h rest rfl
    · rfl

theorem EditedBy.surface {change : String → List (String × Node) → List (String × Node)}
    {after : Node} (h : EditedBy change root place after)
    (hchange : ∀ name es names, ¬ [name] <+: names →
      (folder (change name es)).surface names = (folder es).surface names)
    (hnames : ¬ place <+: names) : after.surface names = root.surface names := by
  induction h generalizing names with
  | missing root place => rfl
  | here es name => exact hchange name es names hnames
  | inside hfind _ ih =>
    refine surface_putEntry fun more hmore => ?_
    rw [hfind, Option.bind_some]
    refine ih fun hrest => hnames ?_
    rw [hmore]
    exact List.cons_prefix_cons.2 ⟨rfl, hrest⟩

theorem surface_set_elsewhere (h : ¬ place <+: names) :
    (root.set place new).surface names = root.surface names := by
  cases place with
  | nil => exact absurd List.nil_prefix h
  | cons name rest =>
    have hedited := editedBy_set root new (List.cons_ne_nil name rest)
    refine hedited.surface (fun name es names hnames => ?_) h
    refine surface_putEntry fun more hmore => absurd ?_ hnames
    rw [hmore]
    exact List.prefix_append [name] more

theorem surface_erase_elsewhere (h : ¬ place <+: names) :
    (root.erase place).surface names = root.surface names := by
  refine (editedBy_erase root place).surface (fun name es names hnames => ?_) h
  cases names with
  | nil => rw [surface_nil, surface_nil, bare, bare]
  | cons other more =>
    have hother : other ≠ name := by
      rintro rfl
      exact hnames (List.prefix_append [other] more)
    rw [surface_cons, surface_cons, find?_dropEntry, if_neg hother]

/-- What is put is found there, unless a folder on the way was missing and nothing changed. -/
theorem EditedBy.eq_or_get? {after : Node}
    (h : EditedBy (fun name => putEntry name new) root place after) :
    after = root ∨ ∀ more, after.get? (place ++ more) = new.get? more := by
  induction h with
  | missing root place => exact .inl rfl
  | here es name =>
    refine .inr fun more => ?_
    rw [List.singleton_append, get?_folder_cons, find?_putEntry, if_pos rfl, Option.bind_some]
  | inside hfind _ ih =>
    obtain rfl | hput := ih
    · exact .inl (by rw [putEntry_self hfind])
    · refine .inr fun more => ?_
      rw [List.cons_append, get?_folder_cons, find?_putEntry, if_pos rfl, Option.bind_some, hput]

/-- Nothing else looks different after something without entries was put where nothing with entries
was. -/
theorem surface_set_childless (hold : ∀ more, more ≠ [] → root.get? (place ++ more) = none)
    (hnew : ∀ more, more ≠ [] → new.get? more = none) :
    (root.set place new).surface names = root.surface names ∨
      names = place ∧ (root.set place new).surface names = some new.bare := by
  by_cases hprefix : place <+: names
  · obtain ⟨more, rfl⟩ := hprefix
    have hput : root.set place new = root ∨
        ∀ more, (root.set place new).get? (place ++ more) = new.get? more := by
      cases place with
      | nil => exact .inr fun more => by rw [set, List.nil_append]
      | cons name rest => exact (editedBy_set root new (List.cons_ne_nil name rest)).eq_or_get?
    obtain hself | hput := hput
    · exact .inl (by rw [hself])
    · by_cases hmore : more = []
      · subst hmore
        refine .inr ⟨List.append_nil place, ?_⟩
        rw [surface, hput, get?, Option.map_some]
      · exact .inl (by rw [surface, surface, hput, hold more hmore, hnew more hmore])
  · exact .inl (surface_set_elsewhere hprefix)

/-- A folder made where nothing was is empty, and everything else is as it was. -/
theorem surface_set_folder (h : root.get? place = none) :
    (root.set place (.folder [])).surface names = root.surface names ∨
      names = place ∧ (root.set place (.folder [])).surface names = some (.folder []) := by
  refine surface_set_childless (fun more _ => ?_) fun more hmore => ?_
  · rw [get?_append, h, Option.bind_none]
  · obtain ⟨name, rest, rfl⟩ := List.exists_cons_of_ne_nil hmore
    rw [get?_folder_cons]
    rfl

/-! ### The same place again -/

theorem set_set (root a b : Node) (place : List String) :
    (root.set place a).set place b = root.set place b := by
  induction place generalizing root with
  | nil => cases root <;> simp [set]
  | cons name rest ih =>
    cases root with
    | folder es =>
      by_cases hrest : rest = []
      · subst hrest
        simp only [set, putEntry_putEntry]
      · rw [set_cons hrest, set_cons hrest]
        cases hfind : find? name es with
        | none => rw [set_cons hrest, hfind]
        | some n =>
          rw [set_cons hrest, find?_putEntry, if_pos rfl]
          simp only [putEntry_putEntry, ih]
    | _ => simp only [set]

theorem set_self {n : Node} (h : root.get? place = some n) : root.set place n = root := by
  induction place generalizing root with
  | nil =>
    rw [get?, Option.some.injEq] at h
    rw [h]
    cases n <;> simp [set]
  | cons name rest ih =>
    obtain ⟨es, c, rfl, hfind, hrest⟩ := exists_folder_of_get?_cons h
    by_cases hnil : rest = []
    · subst hnil
      rw [get?, Option.some.injEq] at hrest
      rw [set, putEntry_self (hrest ▸ hfind)]
    · rw [set_cons hnil, hfind]
      simp only [ih hrest, putEntry_self hfind]

end Places

end BuildPipeline.Node

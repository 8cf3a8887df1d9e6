import BuildPipeline.Proofs.Relisting
import BuildPipeline.Step.Artifacts
import Mathlib.Data.List.Infix

/-! What the walk through a project finds, as a set of places in the tree. -/
namespace BuildPipeline.Step

open FileSystem Node

namespace Search

def enters (s : Search) (rel : List String) : Bool := rel.isEmpty || (!s.skips rel && s.opens rel)

def counts (s : Search) (leaf : List String × Node) : Bool :=
  s.isMatch leaf.1 && match leaf.2, s.resolve leaf.1 with
    | .link _, .ok n => n.isFile
    | .link _, .error _ => false
    | _, _ => true

def Broken (s : Search) (leaf : List String × Node) : Prop :=
  s.isMatch leaf.1 = true ∧ (∃ target, leaf.2 = .link target) ∧ ∃ e, s.resolve leaf.1 = .error e

/-- What is found among leaves: all that count, unless one is broken. -/
def Finds (s : Search) (leaves : List (List String × Node)) :
    Except IoError (List (List String)) → Prop
  | .error _ => ∃ leaf ∈ leaves, s.Broken leaf
  | .ok found => (∀ leaf ∈ leaves, ¬ s.Broken leaf) ∧ found = (leaves.filter s.counts).map Prod.fst

section Walk
variable {s : Search} {rel : List String}

theorem finds_link (rel : List String) (target : String) :
    s.Finds [(rel, .link target)] (s.link rel) := by
  rw [link]
  cases hmatch : s.isMatch rel with
  | false => simp [Finds, Broken, counts, hmatch]
  | true =>
    cases hresolve : s.resolve rel with
    | error e => simp [Finds, Broken, hmatch, hresolve]
    | ok n => cases hn : n.isFile <;> simp [Finds, Broken, counts, hmatch, hresolve, hn]

theorem finds_collectEntries {es : List (String × Node)}
    (h : ∀ e ∈ es, s.Finds (leaves s.enters (rel ++ [e.1]) e.2) (s.collect (rel ++ [e.1]) e.2)) :
    s.Finds (leafEntries s.enters rel es) (s.collectEntries rel es) := by
  induction es with
  | nil => simp [Finds, leafEntries, collectEntries]
  | cons e rest ih =>
    obtain ⟨hfirst, hrest⟩ := List.forall_mem_cons.1 h
    have ih := ih hrest
    rw [leafEntries, collectEntries]
    cases hcollect : s.collect (rel ++ [e.1]) e.2 with
    | error e =>
      rw [hcollect] at hfirst
      obtain ⟨leaf, hleaf, hbroken⟩ := hfirst
      exact ⟨leaf, List.mem_append_left _ hleaf, hbroken⟩
    | ok found =>
      rw [hcollect] at hfirst
      obtain ⟨hwhole, rfl⟩ := hfirst
      cases hmore : s.collectEntries rel rest with
      | error e =>
        rw [hmore] at ih
        obtain ⟨leaf, hleaf, hbroken⟩ := ih
        exact ⟨leaf, List.mem_append_right _ hleaf, hbroken⟩
      | ok more =>
        rw [hmore] at ih
        obtain ⟨hwhole', rfl⟩ := ih
        exact ⟨List.forall_mem_append.2 ⟨hwhole, hwhole'⟩, by simp⟩

theorem finds_collect {n : Node} (h : n.Proper) (hrel : rel ≠ []) :
    s.Finds (leaves s.enters rel n) (s.collect rel n) := by
  induction h generalizing rel with
  | file content runnable =>
    cases hmatch : s.isMatch rel <;> simp [Finds, Broken, counts, leaves, collect, hmatch]
  | device d =>
    cases hmatch : s.isMatch rel <;> simp [Finds, Broken, counts, leaves, collect, hmatch]
  | link target =>
    rw [leaves, collect]
    · exact finds_link rel target
    · intro es hes
      cases hes
  | folder _ _ _ ih =>
    have henters : s.enters rel = !(s.skips rel || !s.opens rel) := by
      simp [enters, hrel]
    rw [leaves, collect, henters]
    cases s.skips rel || !s.opens rel with
    | true => simp [Finds]
    | false => exact finds_collectEntries fun e he => ih e he (by simp)

end Walk

/-- What stands at the end of names that lead through none but folders that are entered. -/
def Visits (s : Search) (es : List (String × Node)) (rel : List String) (n : Node) : Prop :=
  (folder es).get? rel = some n ∧ ∀ front, front <+: rel → front ≠ rel → s.enters front = true

/-- What stands at the end of names that lead through none but folders that are searched: these
are at no place to be skipped, and have neither of two names. -/
def Reaches (skip : List Path) (es : List (String × Node)) (rel : List String) (n : Node) : Prop :=
  (folder es).get? rel = some n ∧ ∀ front, front <+: rel → front ≠ rel → front ≠ [] →
    (∀ p ∈ skip, p.components ≠ front.map .name) ∧
      front.getLast? ≠ some "node_modules" ∧ front.getLast? ≠ some ".git"

theorem skips_eq_false_iff {s : Search} {rel : List String} :
    s.skips rel = false ↔ (∀ p ∈ s.skip, p.components ≠ rel.map .name) ∧
      rel.getLast? ≠ some "node_modules" ∧ rel.getLast? ≠ some ".git" := by
  cases hlast : rel.getLast? <;> simp [skips, unsearched, hlast]

def Counts (s : Search) (rel : List String) (n : Node) : Prop :=
  s.isMatch rel = true ∧
    (n.IsLeaf = true ∨ ∃ target m, n = .link target ∧ s.resolve rel = .ok m ∧ m.isFile = true)

section Visited
variable {s : Search} {es : List (String × Node)} {rel : List String} {n : Node}

theorem counts_iff (hn : n.isFolder = false) : s.counts (rel, n) = true ↔ s.Counts rel n := by
  cases n with
  | folder es => simp [Node.isFolder] at hn
  | link target => cases hresolve : s.resolve rel <;> simp [counts, Counts, IsLeaf, hresolve]
  | _ => simp [counts, Counts, IsLeaf]

theorem Counts.isFolder (h : s.Counts rel n) : n.isFolder = false := by
  obtain ⟨-, hleaf | ⟨target, -, rfl, -⟩⟩ := h
  · exact isFolder_of_isLeaf hleaf
  · rfl

theorem mem_leaves_iff (hproper : (folder es).Proper) :
    (rel, n) ∈ leaves s.enters [] (folder es) ↔ n.isFolder = false ∧ s.Visits es rel n := by
  simp [mem_leaves hproper, Visits]

theorem visits_iff (hread : ∀ rel, rel ≠ [] → (folder es).IsFolderAt rel → s.opens rel = true) :
    s.Visits es rel n ↔ Reaches s.skip es rel n := by
  refine and_congr_right fun hget => ?_
  simp only [← skips_eq_false_iff]
  constructor
  · intro hway front hfront hne hnil
    have henters := hway front hfront hne
    simp only [enters, List.isEmpty_eq_false_iff.2 hnil, Bool.false_or, Bool.and_eq_true,
      Bool.not_eq_true'] at henters
    exact henters.1
  · intro hway front hfront hne
    by_cases hnil : front = []
    · simp [enters, hnil]
    · obtain ⟨rest, rfl⟩ := hfront
      have hrest : rest ≠ [] := by simpa using hne
      have hopens := hread front hnil (isFolderAt_of_get? hget hrest)
      simp [enters, hway front (List.prefix_append front rest) hne hnil, hopens]

end Visited

end Search

section Exact
variable {fs : FileSystem} {base : Path} {es : List (String × Node)}
  {isMatch : List String → Bool} {skip : List Path}

theorem collectMatches_finds (isMatch : List String → Bool) (skip : List Path)
    (hroot : fs.root.Proper) (hlist : fs.list base = .ok es) :
    (folder es).Proper ∧ (Search.inFolder fs base isMatch skip).Finds
      (leaves (Search.inFolder fs base isMatch skip).enters [] (folder es))
      (collectMatches fs base isMatch skip) := by
  obtain ⟨names, hget⟩ := get?_of_list hlist
  have hproper : (folder es).Proper := (hereditary_proper.get? hroot hget).1
  have henters : (Search.inFolder fs base isMatch skip).enters [] = true := rfl
  obtain ⟨-, -, inner⟩ := (hereditary_proper es).1 hproper
  refine ⟨hproper, ?_⟩
  rw [collectMatches, hlist, leaves, henters]
  exact Search.finds_collectEntries fun e he => Search.finds_collect (inner e he) (by simp)

theorem collectMatches_error (hroot : fs.root.Proper) (hlist : fs.list base = .ok es) :
    (∃ e, collectMatches fs base isMatch skip = .error e) ↔
      ∃ rel target e, (Search.inFolder fs base isMatch skip).Visits es rel (.link target) ∧
        isMatch rel = true ∧ fs.stat (base.join (.ofNames rel)) = .error e := by
  obtain ⟨hproper, hfinds⟩ := collectMatches_finds isMatch skip hroot hlist
  constructor
  · rintro ⟨e, he⟩
    rw [he] at hfinds
    obtain ⟨⟨rel, n⟩, hleaf, hmatch, ⟨target, rfl⟩, e, hbroken⟩ := hfinds
    exact ⟨rel, target, e, ((Search.mem_leaves_iff hproper).1 hleaf).2, hmatch, hbroken⟩
  · rintro ⟨rel, target, e, hvisit, hmatch, hstat⟩
    have hleaf := (Search.mem_leaves_iff hproper).2 ⟨rfl, hvisit⟩
    cases hfound : collectMatches fs base isMatch skip with
    | error e => exact ⟨e, rfl⟩
    | ok found =>
      rw [hfound] at hfinds
      exact absurd ⟨hmatch, ⟨target, rfl⟩, e, hstat⟩ (hfinds.1 _ hleaf)

theorem mem_collectMatches (hroot : fs.root.Proper) (hlist : fs.list base = .ok es)
    {found : List (List String)} (h : collectMatches fs base isMatch skip = .ok found) :
    found.Nodup ∧ ∀ rel, rel ∈ found ↔ ∃ n,
      (Search.inFolder fs base isMatch skip).Visits es rel n ∧
        (Search.inFolder fs base isMatch skip).Counts rel n := by
  obtain ⟨hproper, hfinds⟩ := collectMatches_finds isMatch skip hroot hlist
  rw [h] at hfinds
  obtain ⟨-, rfl⟩ := hfinds
  refine ⟨(nodup_leaves hproper).sublist (List.filter_sublist.map Prod.fst), fun rel => ?_⟩
  constructor
  · intro hmem
    obtain ⟨⟨rel, n⟩, hleaf, rfl⟩ := List.mem_map.1 hmem
    obtain ⟨hleaf, hcounts⟩ := List.mem_filter.1 hleaf
    obtain ⟨hn, hvisit⟩ := (Search.mem_leaves_iff hproper).1 hleaf
    exact ⟨n, hvisit, (Search.counts_iff hn).1 hcounts⟩
  · rintro ⟨n, hvisit, hcounts⟩
    have hn := hcounts.isFolder
    exact List.mem_map.2 ⟨(rel, n), List.mem_filter.2
      ⟨(Search.mem_leaves_iff hproper).2 ⟨hn, hvisit⟩, (Search.counts_iff hn).2 hcounts⟩, rfl⟩

/-! ### Another order -/

section Relisted
variable {fs' : FileSystem} {es' : List (String × Node)} {rel : List String} {n : Node}
  (h : fs.Relisted fs') (hsame : ∀ names, (folder es').surface names = (folder es).surface names)
include h hsame

theorem visits_of_relisted (hn : n.isFolder = false)
    (hvisit : (Search.inFolder fs base isMatch skip).Visits es rel n) :
    (Search.inFolder fs' base isMatch skip).Visits es' rel n := by
  obtain ⟨hget, hway⟩ := hvisit
  have hsurface := (hsame rel).trans (surface_of_get? hget)
  rw [bare_of_not_isFolder hn] at hsurface
  refine ⟨get?_of_surface hsurface hn, fun front hfront hne => ?_⟩
  have henters := hway front hfront hne
  simp only [Search.enters, Search.inFolder, Search.skips, isOk_list] at henters ⊢
  rw [h.isFolder]
  exact henters

theorem found_of_relisted
    (hfound : ∃ n, (Search.inFolder fs base isMatch skip).Visits es rel n ∧
      (Search.inFolder fs base isMatch skip).Counts rel n) :
    ∃ n, (Search.inFolder fs' base isMatch skip).Visits es' rel n ∧
      (Search.inFolder fs' base isMatch skip).Counts rel n := by
  obtain ⟨n, hvisit, hcounts⟩ := hfound
  refine ⟨n, visits_of_relisted h hsame hcounts.isFolder hvisit, hcounts.1, ?_⟩
  obtain hleaf | ⟨target, m, rfl, hstat, hm⟩ := hcounts.2
  · exact .inl hleaf
  · exact .inr ⟨target, m, rfl, h.stat_ok hstat (isFolder_of_isFile hm), hm⟩

end Relisted

theorem collectMatches_relisted {fs' : FileSystem} (hroot : fs.root.Proper)
    (hlist : fs.list base = .ok es) (h : fs.Relisted fs') {found : List (List String)}
    (hfound : collectMatches fs base isMatch skip = .ok found) :
    ∃ found', collectMatches fs' base isMatch skip = .ok found' ∧ found'.Perm found := by
  obtain ⟨es', hlist', hsame⟩ := h.list hlist
  have hsame' (names : List String) := (hsame names).symm
  have hback := h.symm hroot
  cases hfound' : collectMatches fs' base isMatch skip with
  | error e =>
    -- a broken link would be one before, too
    obtain ⟨rel, target, e, hvisit, hmatch, hstat⟩ :=
      (collectMatches_error h.proper hlist').1 ⟨e, hfound'⟩
    obtain ⟨e', he'⟩ := (collectMatches_error hroot hlist).2
      ⟨rel, target, e, visits_of_relisted hback hsame' rfl hvisit, hmatch, hback.stat_error hstat⟩
    rw [hfound] at he'
    cases he'
  | ok found' =>
    obtain ⟨hnodup, hmem⟩ := mem_collectMatches hroot hlist hfound
    obtain ⟨hnodup', hmem'⟩ := mem_collectMatches h.proper hlist' hfound'
    refine ⟨found', rfl, (List.perm_ext_iff_of_nodup hnodup' hnodup).2 fun rel => ?_⟩
    rw [hmem, hmem']
    exact ⟨found_of_relisted hback hsame', found_of_relisted h hsame⟩

/-- The walk fails exactly if a matching link on its way is broken. Otherwise it finds, once each,
the matching files and links to files that no skipped folder hides, in whatever order folders
list. -/
theorem collectMatches_exact (isMatch : List String → Bool) (skip : List Path)
    (hroot : fs.root.Proper) (hlist : fs.list base = .ok es)
    (hread : ∀ rel, rel ≠ [] → (folder es).IsFolderAt rel →
      (fs.list (base.join (.ofNames rel))).isOk = true) :
    ((∃ e, collectMatches fs base isMatch skip = .error e) ↔
        ∃ rel target e, Search.Reaches skip es rel (.link target) ∧ isMatch rel = true ∧
          fs.stat (base.join (.ofNames rel)) = .error e) ∧
      (∀ found, collectMatches fs base isMatch skip = .ok found →
        found.Nodup ∧ ∀ rel, rel ∈ found ↔ ∃ n, Search.Reaches skip es rel n ∧
          isMatch rel = true ∧ (n.IsLeaf = true ∨ ∃ target m, n = .link target ∧
            fs.stat (base.join (.ofNames rel)) = .ok m ∧ m.isFile = true)) ∧
      ∀ fs', fs.Relisted fs' →
        (∃ found found', collectMatches fs base isMatch skip = .ok found ∧
          collectMatches fs' base isMatch skip = .ok found' ∧ found'.Perm found) ∨
        ∃ e e', collectMatches fs base isMatch skip = .error e ∧
          collectMatches fs' base isMatch skip = .error e' := by
  have hvisits {rel : List String} {n : Node} :
      (Search.inFolder fs base isMatch skip).Visits es rel n ↔ Search.Reaches skip es rel n :=
    Search.visits_iff hread
  refine ⟨?_, fun found hfound => ?_, fun fs' h => ?_⟩
  · simp only [← hvisits]
    exact collectMatches_error hroot hlist
  · simp only [← hvisits]
    exact mem_collectMatches hroot hlist hfound
  · cases hfound : collectMatches fs base isMatch skip with
    | ok found =>
      obtain ⟨found', hfound', hperm⟩ := collectMatches_relisted hroot hlist h hfound
      exact .inl ⟨found, found', rfl, hfound', hperm⟩
    | error e =>
      cases hfound' : collectMatches fs' base isMatch skip with
      | error e' => exact .inr ⟨e, e', rfl, rfl⟩
      | ok found' =>
        obtain ⟨es', hlist', -⟩ := h.list hlist
        obtain ⟨found, hfound'', -⟩ :=
          collectMatches_relisted h.proper hlist' (h.symm hroot) hfound'
        rw [hfound] at hfound''
        cases hfound''

end Exact

/-- A project with a file in a folder, a link to that file and a link that leads nowhere, and with
files in two folders that are passed over. -/
def linkedEntries : List (String × Node) :=
  [("src", .folder [("main.rs", .file .empty)]), ("out", .folder [("main.rs", .file .empty)]),
    ("node_modules", .folder [("main.rs", .file .empty)]), ("latest.rs", .link "src/main.rs"),
    ("gone", .link "nowhere")]

def linkedProject : FileSystem := ⟨.folder linkedEntries, [], []⟩

theorem isFolderAt_linkedEntries {rel : List String} (h : (folder linkedEntries).IsFolderAt rel) :
    rel = [] ∨ ∃ name ∈ ["src", "out", "node_modules"], rel = [name] := by
  obtain ⟨es, hes⟩ := h
  cases rel with
  | nil => exact .inl rfl
  | cons name rest =>
    rw [get?_folder_cons] at hes
    obtain ⟨n, hn, hrest⟩ := Option.bind_eq_some_iff.1 hes
    have hkinds : name ∈ ["src", "out", "node_modules"] ∧ n = folder [("main.rs", .file .empty)] ∨
        ∃ target, n = .link target := by
      obtain ⟨rfl, rfl⟩ | ⟨rfl, rfl⟩ | ⟨rfl, rfl⟩ | ⟨-, rfl⟩ | ⟨-, rfl⟩ := by
        simpa [linkedEntries] using mem_of_find? hn
      all_goals simp
    obtain ⟨hname, rfl⟩ | ⟨target, rfl⟩ := hkinds
    · cases rest with
      | nil => exact .inr ⟨name, hname, rfl⟩
      | cons other more =>
        rw [get?_folder_cons] at hrest
        obtain ⟨m, hm, hmore⟩ := Option.bind_eq_some_iff.1 hrest
        obtain ⟨-, rfl⟩ := by simpa using mem_of_find? hm
        cases more <;> simp [get?] at hmore
    · cases rest <;> simp [get?] at hrest

theorem collectMatches_linkedProject :
    linkedProject.root.Proper ∧ linkedProject.list ⟨"."⟩ = .ok linkedEntries ∧
      (∀ rel, rel ≠ [] → (folder linkedEntries).IsFolderAt rel →
        (linkedProject.list (Path.join ⟨"."⟩ (.ofNames rel))).isOk = true) ∧
      ∀ found, collectMatches linkedProject ⟨"."⟩ (· ≠ ["gone"]) [⟨"out/"⟩] = .ok found →
        found.Nodup ∧ ["src", "main.rs"] ∈ found ∧ ["gone"] ∉ found ∧
          ["out", "main.rs"] ∉ found ∧ ["node_modules", "main.rs"] ∉ found := by
  have hproper : linkedProject.root.Proper := by
    have hinner : (folder [("main.rs", .file .empty)]).Proper :=
      .folder (by decide) (List.forall_mem_singleton.2 (by decide))
        (List.forall_mem_singleton.2 (.file _ _))
    exact .folder (by decide) (by decide) (List.forall_mem_cons.2 ⟨hinner,
      List.forall_mem_cons.2 ⟨hinner, List.forall_mem_cons.2 ⟨hinner,
        List.forall_mem_cons.2 ⟨.link _, List.forall_mem_singleton.2 (.link _)⟩⟩⟩⟩)
  have hground : linkedProject.Grounded := ⟨linkedEntries, rfl⟩
  have hlist : linkedProject.list ⟨"."⟩ = .ok linkedEntries :=
    list_eq_ok.2 (stat_of_leads (by decide) ⟨maxLinks, .skip (.inl rfl) (.nil _ _)⟩ rfl)
  have hread : ∀ rel, rel ≠ [] → (folder linkedEntries).IsFolderAt rel →
      (linkedProject.list (Path.join ⟨"."⟩ (.ofNames rel))).isOk = true := by
    intro rel hrel hfolder
    obtain rfl | ⟨name, hname, rfl⟩ := isFolderAt_linkedEntries hfolder
    · exact absurd rfl hrel
    · rw [isOk_list, isFolder_iff hground]
      simp only [List.mem_cons, List.not_mem_nil, or_false] at hname
      obtain rfl | rfl | rfl := hname
      all_goals exact ⟨by decide, _, maxLinks,
        .skip (.inl rfl) (.down (by decide) ⟨_, rfl⟩ (.nil _ _))⟩
  refine ⟨hproper, hlist, hread, fun found hfound => ?_⟩
  obtain ⟨-, hfinds, -⟩ := collectMatches_exact (· ≠ ["gone"]) [⟨"out/"⟩] hproper hlist hread
  obtain ⟨hnodup, hmem⟩ := hfinds found hfound
  refine ⟨hnodup, (hmem _).2 ⟨.file .empty, ⟨rfl, ?_⟩, rfl, .inl rfl⟩, fun hgone => ?_,
    fun hout => ?_, fun hmodules => ?_⟩
  · intro front hfront hne hnil
    obtain rfl | rfl | rfl := by simpa using (List.mem_inits front ["src", "main.rs"]).2 hfront
    · exact absurd rfl hnil
    · decide
    · exact absurd rfl hne
  · obtain ⟨n, -, hmatch, -⟩ := (hmem _).1 hgone
    simp at hmatch
  · obtain ⟨n, ⟨-, hway⟩, -⟩ := (hmem _).1 hout
    obtain ⟨hskip, -⟩ := hway ["out"] (by decide) (by decide) (by decide)
    exact hskip ⟨"out/"⟩ (by simp) (by decide)
  · obtain ⟨n, ⟨-, hway⟩, -⟩ := (hmem _).1 hmodules
    obtain ⟨-, hname, -⟩ := hway ["node_modules"] (by decide) (by decide) (by decide)
    exact hname rfl

end BuildPipeline.Step

import BuildPipeline.Proofs.ProperTree

/-! File systems that differ at most in the order in which folders list their entries. Every path
leads to the same place in both. -/
namespace BuildPipeline.FileSystem

open Node

theorem follow_node {root : Node} {purpose : Purpose} {budget : Nat} {here segments : List String}
    {place : Place} (h : follow root purpose budget here segments = .ok place) :
    place.node = root.get? place.names := by
  fun_induction follow root purpose budget here segments with
  | case1 => cases h; rfl
  | case2 _ _ _ _ _ ih => exact ih h
  | case3 _ _ _ _ ih => exact ih h
  | case4 => cases h
  | case5 => cases h
  | case6 _ _ _ _ _ _ _ _ hget => cases h; exact hget.symm
  | case7 => cases h
  | case8 _ _ _ _ _ _ _ _ _ _ ih => exact ih h
  | case9 _ _ _ _ _ _ _ _ _ hget => cases h; exact hget.symm
  | case10 => cases h
  | case11 _ _ _ _ _ _ _ _ _ _ _ _ ih => exact ih h
  | case12 _ _ _ _ _ _ _ _ _ _ _ hget => cases h; exact hget.symm
  | case13 => cases h

/-- Nothing else is different. -/
structure Relisted (fs fs' : FileSystem) : Prop where
  working : fs'.workingFolder = fs.workingFolder
  proper : fs'.root.Proper
  seen : ∀ names, fs'.root.surface names = fs.root.surface names

/-- A place alone: of a folder, not its entries. -/
def Place.bare (place : Place) : Place := ⟨place.names, place.node.map Node.bare⟩

def Place.found (place : Place) : Except IoError Node :=
  match place.node with
  | some n => .ok n
  | none => .error .notFound

theorem follow_congr {root root' : Node} (h : ∀ names, root'.surface names = root.surface names)
    (purpose : Purpose) (budget : Nat) (here segments : List String) :
    (follow root' purpose budget here segments).map Place.bare =
      (follow root purpose budget here segments).map Place.bare := by
  have hsame {names : List String} {n : Option Node} (hget : root.get? names = n)
      (hn : ∀ es, n ≠ some (.folder es)) : root'.get? names = n := by
    obtain hsame | ⟨es, -, hes, -⟩ := surface_eq_cases (h names)
    · exact hsame.trans hget
    · exact absurd (hget.symm.trans hes) (hn es)
  fun_induction follow root purpose budget here segments with
  | case1 budget here =>
    rw [follow_nil]
    exact congrArg (fun n => Except.ok (Place.mk here n)) (h here)
  | case2 _ _ _ _ hs ih => rwa [follow_skip hs]
  | case3 _ _ _ _ ih => rwa [follow_up]
  | case4 _ _ _ _ hs hup hsize => rw [follow, if_neg hs, if_neg hup, if_pos hsize]
  | case5 _ _ _ _ hs hup hsize hslash =>
    rw [follow, if_neg hs, if_neg hup, if_neg hsize, if_pos hslash]
  | case6 _ _ _ _ hs hup hsize hslash hget hlast =>
    rw [follow, if_neg hs, if_neg hup, if_neg hsize, if_neg hslash,
      hsame hget fun _ h => by cases h]
    exact congrArg _ (if_pos hlast)
  | case7 _ _ _ _ hs hup hsize hslash hget hlast =>
    rw [follow, if_neg hs, if_neg hup, if_neg hsize, if_neg hslash,
      hsame hget fun _ h => by cases h]
    exact congrArg _ (if_neg hlast)
  | case8 _ _ _ _ hs hup hsize hslash es hget ih =>
    obtain ⟨es', hget'⟩ := isFolderAt_iff.2 ((h _).trans (isFolderAt_iff.1 ⟨es, hget⟩))
    rw [follow, if_neg hs, if_neg hup, if_neg hsize, if_neg hslash, hget']
    exact ih
  | case9 _ _ _ _ hs hup hsize hslash target hget hlast =>
    rw [follow, if_neg hs, if_neg hup, if_neg hsize, if_neg hslash,
      hsame hget fun _ h => by cases h]
    exact congrArg _ (if_pos hlast)
  | case10 _ _ _ hs hup hsize hslash target hget hlast =>
    rw [follow, if_neg hs, if_neg hup, if_neg hsize, if_neg hslash,
      hsame hget fun _ h => by cases h]
    exact congrArg _ (if_neg hlast)
  | case11 _ _ _ hs hup hsize hslash text hget hlast budget target ih =>
    rw [follow, if_neg hs, if_neg hup, if_neg hsize, if_neg hslash,
      hsame hget fun _ h => by cases h]
    simp only [if_neg hlast]
    exact ih
  | case12 _ _ _ _ hs hup hsize hslash n hfolder hlink hget hlast =>
    rw [follow, if_neg hs, if_neg hup, if_neg hsize, if_neg hslash,
      hsame hget fun es hes => hfolder es (Option.some.inj hes)]
    simp [hlast]
  | case13 _ _ _ _ hs hup hsize hslash n hfolder hlink hget hlast =>
    rw [follow, if_neg hs, if_neg hup, if_neg hsize, if_neg hslash,
      hsame hget fun es hes => hfolder es (Option.some.inj hes)]
    simp [hlast]

section Stat
variable {fs fs' : FileSystem} {p : Path}

theorem get?_of_stat {n : Node} (h : fs.stat p = .ok n) :
    ∃ place, fs.locate p .target = .ok place ∧ fs.root.get? place.names = some n := by
  rw [stat] at h
  split at h
  · cases h
  · next place hlocate =>
    split at h
    · next m hnode =>
      cases h
      have hfollow := hlocate
      rw [locate_of_isPath (isPath_of_locate hlocate)] at hfollow
      exact ⟨place, hlocate, (follow_node hfollow).symm.trans hnode⟩
    · cases h

theorem stat_of_leads {folder : List String} {n : Node} (hpath : IsPath p)
    (hleads : fs.Leads p folder) (hget : fs.root.get? folder = some n) : fs.stat p = .ok n := by
  simp only [stat, locate_of_leads hpath hleads, hget]

theorem list_eq_ok {es : List (String × Node)} :
    fs.list p = .ok es ↔ fs.stat p = .ok (.folder es) := by
  rw [list]
  cases fs.stat p with
  | error e => simp
  | ok n => cases n <;> simp

theorem isOk_list : (fs.list p).isOk = fs.isFolder p := by
  rw [list, isFolder]
  cases fs.stat p with
  | error e => rfl
  | ok n => cases n <;> rfl

theorem isFolder_of_list {es : List (String × Node)} (h : fs.list p = .ok es) :
    fs.isFolder p = true := by
  rw [isFolder, list_eq_ok.1 h]
  rfl

theorem exists_list (h : fs.isFolder p = true) : ∃ es, fs.list p = .ok es := by
  rw [← isOk_list] at h
  cases hlist : fs.list p with
  | error e => rw [hlist] at h; cases h
  | ok es => exact ⟨es, rfl⟩

theorem get?_of_list {es : List (String × Node)} (h : fs.list p = .ok es) :
    ∃ names, fs.root.get? names = some (.folder es) := by
  obtain ⟨place, -, hget⟩ := get?_of_stat (list_eq_ok.1 h)
  exact ⟨place.names, hget⟩

theorem get?_of_list_of_leads {folder : List String} {es : List (String × Node)}
    (hleads : fs.Leads p folder) (h : fs.list p = .ok es) :
    fs.root.get? folder = some (.folder es) := by
  obtain ⟨place, hlocate, hget⟩ := get?_of_stat (list_eq_ok.1 h)
  rw [locate_of_leads (isPath_of_locate hlocate) hleads, Except.ok.injEq] at hlocate
  rwa [← hlocate] at hget

theorem Relisted.locate (h : fs.Relisted fs') (p : Path) (purpose : Purpose) :
    (fs'.locate p purpose).map Place.bare = (fs.locate p purpose).map Place.bare := by
  by_cases hpath : IsPath p
  · rw [locate_of_isPath hpath, locate_of_isPath hpath, start, start, h.working]
    exact follow_congr h.seen _ _ _ _
  · obtain ⟨e, he⟩ := locate_of_not_isPath hpath purpose
    rw [he, he]

theorem Relisted.stat (h : fs.Relisted fs') (p : Path) :
    (fs'.stat p).map Node.bare = (fs.stat p).map Node.bare := by
  have hstat (fs : FileSystem) :
      (fs.stat p).map Node.bare = ((fs.locate p .target).map Place.bare).bind Place.found := by
    rw [FileSystem.stat]
    cases fs.locate p .target with
    | error e => rfl
    | ok place =>
      obtain ⟨names, node⟩ := place
      cases node <;> rfl
  rw [hstat, hstat, h.locate]

theorem Relisted.isFolder (h : fs.Relisted fs') (p : Path) : fs'.isFolder p = fs.isFolder p := by
  have hfolder (fs : FileSystem) :
      fs.isFolder p = ((fs.stat p).map Node.bare).toOption.any Node.isFolder := by
    rw [FileSystem.isFolder]
    cases fs.stat p with
    | error e => rfl
    | ok n => exact (isFolder_bare n).symm
  rw [hfolder, hfolder, h.stat]

theorem Relisted.stat_error (h : fs.Relisted fs') {e : IoError} (hstat : fs.stat p = .error e) :
    fs'.stat p = .error e := by
  have hsame := h.stat p
  rw [hstat] at hsame
  cases hstat' : fs'.stat p with
  | error e' =>
    rw [hstat', Except.map, Except.map, Except.error.injEq] at hsame
    rw [hsame]
  | ok n =>
    rw [hstat'] at hsame
    cases hsame

theorem Relisted.stat_ok (h : fs.Relisted fs') {n : Node} (hstat : fs.stat p = .ok n)
    (hn : n.isFolder = false) : fs'.stat p = .ok n := by
  have hsame := h.stat p
  rw [hstat] at hsame
  cases hstat' : fs'.stat p with
  | error e =>
    rw [hstat'] at hsame
    cases hsame
  | ok m =>
    rw [hstat', Except.map, Except.map, Except.ok.injEq, bare_of_not_isFolder hn] at hsame
    have hm : m.isFolder = false := by rw [← isFolder_bare, hsame, hn]
    rw [← hsame, bare_of_not_isFolder hm]

theorem Relisted.symm (h : fs.Relisted fs') (hroot : fs.root.Proper) : fs'.Relisted fs :=
  ⟨h.working.symm, hroot, fun names => (h.seen names).symm⟩

theorem Relisted.list (h : fs.Relisted fs') {es : List (String × Node)}
    (hlist : fs.list p = .ok es) :
    ∃ es', fs'.list p = .ok es' ∧
      ∀ names, (folder es').surface names = (folder es).surface names := by
  obtain ⟨es', hlist'⟩ := exists_list ((h.isFolder p).trans (isFolder_of_list hlist))
  obtain ⟨place, hplace, hget⟩ := get?_of_stat (list_eq_ok.1 hlist)
  obtain ⟨place', hplace', hget'⟩ := get?_of_stat (list_eq_ok.1 hlist')
  have hnames : place'.names = place.names := by
    have hsame := h.locate p .target
    rw [hplace, hplace', Except.map, Except.map, Except.ok.injEq] at hsame
    exact (Place.mk.inj hsame).1
  refine ⟨es', hlist', fun names => ?_⟩
  rw [← surface_append hget', ← surface_append hget, hnames, h.seen]

end Stat

end BuildPipeline.FileSystem

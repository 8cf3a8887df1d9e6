import BuildPipeline.Proofs.Confinement
import BuildPipeline.Proofs.FileCopying
import BuildPipeline.Proofs.Relisting
import BuildPipeline.Proofs.RunnerMap

/-! The copies that make up a project's artifacts: at the same names below another folder stands
what stood in the project, if no copy is made over another file to be copied. -/
namespace BuildPipeline

namespace FileSystem

open Node

section Paths
variable {fs : FileSystem} {p q : Path} {place folder rel init : List String} {n : String}

theorem leads_congr (habsolute : q.isAbsolute = p.isAbsolute) (htrail : q.trail = p.trail) :
    fs.Leads q folder ↔ fs.Leads p folder := by
  rw [Leads, Leads, start, start, habsolute]
  simp only [← walk_trail_iff, htrail]

theorem plain_of_isFileName (h : ∀ s ∈ rel, IsFileName s) :
    ∀ s ∈ rel, s ≠ "" ∧ '/' ∉ s.toList :=
  fun s hs => ⟨(h s hs).1.1, (h s hs).2.1⟩

/-- What stands below a folder is found along the names that lead to it. -/
theorem stat_below {m : Node} (hleads : fs.Leads p folder) (hrel : ∀ s ∈ rel, IsFileName s)
    (hne : rel ≠ []) (hpath : IsPath (p.join (.ofNames rel)))
    (hget : fs.root.get? (folder ++ rel) = some m) (hm : ∀ target, m ≠ .link target) :
    fs.stat (p.join (.ofNames rel)) = .ok m := by
  obtain ⟨init, n, rfl⟩ := (List.eq_nil_or_concat rel).resolve_left hne
  rw [List.concat_eq_append] at hrel hpath hget ⊢
  obtain ⟨hinit, hn⟩ := List.forall_mem_append.1 hrel
  have hname := hn n (List.mem_singleton_self n)
  rw [← List.append_assoc] at hget
  have hfolder := isFolderAt_of_get? hget (List.cons_ne_nil n [])
  rw [Path.join_ofNames_concat p (plain_of_isFileName hrel)] at hpath ⊢
  have hlink (target : String) (h : fs.root.get? (folder ++ init ++ [n]) = some (.link target)) :
      Purpose.target = .entry := by
    rw [hget, Option.some.injEq] at h
    exact absurd h (hm target)
  simp only [stat, locate_join hname hpath (hleads.join hinit hfolder) hlink, hget]

/-- There are no links in the folder that a path names, whether it is there or not. -/
structure Within (fs : FileSystem) (p : Path) (place : List String) : Prop where
  proper : fs.root.Proper
  grounded : fs.Grounded
  pins : fs.Pins p place

theorem Writes.within {after : FileSystem} {written : List String → Prop}
    (h : fs.Writes written after) (hwithin : fs.Within p place) : after.Within p place :=
  ⟨h.proper, h.grounded hwithin.grounded, h.pins hwithin.pins⟩

end Paths

end FileSystem

open FileSystem

namespace Step

section Copy
variable {fs after : FileSystem} {base target : Path} {place folder rel init : List String}
  {n : String}

/-- The parent of a copy's path is another text for the path of the folder it is in. -/
theorem parent_of_copy (target : Path) (hrel : ∀ s ∈ init ++ [n], IsFileName s) :
    ∃ parent, (target.join (.ofNames (init ++ [n]))).parent? = some parent ∧
      parent.isAbsolute = (target.join (.ofNames init)).isAbsolute ∧
      parent.trail = (target.join (.ofNames init)).trail := by
  obtain ⟨⟨hne, hdot, -⟩, hslash, -⟩ := hrel n (by simp)
  obtain ⟨parent, hparent⟩ := @Path.exists_parent (target.join (.ofNames (init ++ [n]))) (by
    rw [trail_join_names target hrel]
    simp)
  refine ⟨parent, hparent, ?_⟩
  rw [Path.join_ofNames_concat target (plain_of_isFileName hrel)] at hparent
  have hsegments := (target.join (.ofNames init)).segments_join hne hslash
  obtain ⟨habsolute, htrail⟩ := Path.trail_parent?_of_segments hdot hsegments hparent
  rw [Path.isAbsolute_join _ hslash] at habsolute
  exact ⟨habsolute, htrail⟩

/-- The folder for a copy is made first. If that fails nothing is copied; else it is clear. -/
theorem copyInto_cases (h : fs.Within target place) (hrel : ∀ s ∈ init ++ [n], IsFileName s) :
    ∃ made, fs.Writes (fun _ => False) made ∧
      ((∃ e, copyInto base target (init ++ [n]) fs = (.error e, made)) ∨
        made.Clear (target.join (.ofNames init)) (place ++ init) ∧
          copyInto base target (init ++ [n]) fs =
            made.copyFile (base.join (.ofNames (init ++ [n])))
              ((target.join (.ofNames init)).join ⟨n⟩)) := by
  have hinit := (List.forall_mem_append.1 hrel).1
  obtain ⟨parent, hparent, habsolute, htrail⟩ := parent_of_copy target hrel
  rw [copyInto_eq, hparent, Path.join_ofNames_concat target (plain_of_isFileName hrel)]
  simp only
  cases hmade : fs.makeFolderPath parent with
  | mk result made =>
    have hwrites : fs.Writes (fun _ => False) (fs.makeFolderPath parent).2 :=
      makeFolderPath_writes h.proper h.grounded parent
    rw [hmade] at hwrites
    refine ⟨made, hwrites, ?_⟩
    cases result with
    | error e => exact .inl ⟨e, rfl⟩
    | ok u =>
      obtain ⟨-, there, hleads⟩ := leads_of_makeFolderPath h.proper h.grounded hmade
      rw [leads_congr habsolute htrail] at hleads
      have hpins := (hwrites.pins h.pins).join hinit
      obtain rfl := hpins.unique hleads
      exact .inr ⟨⟨hwrites.proper, hwrites.grounded h.grounded, hleads, hpins.linkFree⟩, rfl⟩

theorem copyInto_writes (h : fs.Within target place) (hrel : ∀ s ∈ rel, IsFileName s)
    (hne : rel ≠ []) (base : Path) :
    fs.Writes (· = place ++ rel) (copyInto base target rel fs).2 := by
  obtain ⟨init, n, rfl⟩ := (List.eq_nil_or_concat rel).resolve_left hne
  rw [List.concat_eq_append] at hrel ⊢
  have hn := hrel n (by simp)
  obtain ⟨made, hwrites, ⟨e, he⟩ | ⟨hclear, hcopy⟩⟩ := copyInto_cases h hrel
  · rw [he]
    exact hwrites.mono fun _ => False.elim
  · rw [hcopy]
    have hcopied := copyFile_writes hclear hn (base.join (.ofNames (init ++ [n])))
    rw [List.append_assoc] at hcopied
    exact (hwrites.mono fun _ => False.elim).trans hcopied

theorem copyAll_writes {found : List (List String)} (h : fs.Within target place)
    (hfound : ∀ rel ∈ found, rel ≠ [] ∧ ∀ s ∈ rel, IsFileName s) (base : Path) :
    fs.Writes (fun names => ∃ rel ∈ found, names = place ++ rel)
      (copyAll base target found fs).2 := by
  induction found generalizing fs with
  | nil => exact writes_of_eq h.proper (by exact rfl) (by exact rfl)
  | cons rel rest ih =>
    obtain ⟨⟨hne, hrel⟩, hrest⟩ := List.forall_mem_cons.1 hfound
    have hcopied := (copyInto_writes h hrel hne base).mono
      fun names hnames => (⟨rel, List.mem_cons_self, hnames⟩ :
        ∃ r ∈ rel :: rest, names = place ++ r)
    rw [copyAll_cons]
    split
    · next e failed hfailed => rwa [hfailed] at hcopied
    · next copied hok =>
      rw [hok] at hcopied
      refine hcopied.trans ((ih (hcopied.within h) hrest).mono ?_)
      rintro names ⟨r, hr, hnames⟩
      exact ⟨r, List.mem_cons_of_mem rel hr, hnames⟩

/-! ### Copies that are made -/

/-- What is copied: no folder and no link. -/
structure IsSource (fs : FileSystem) (folder rel : List String) : Prop where
  ne_nil : rel ≠ []
  named : ∀ s ∈ rel, IsFileName s
  leaf : ∃ m, fs.root.get? (folder ++ rel) = some m ∧ m.IsLeaf = true

theorem IsSource.writes {written : List String → Prop} (h : IsSource fs folder rel)
    (hwrites : fs.Writes written after) (hnot : ¬ written (folder ++ rel)) :
    IsSource after folder rel := by
  obtain ⟨m, hm, hleaf⟩ := h.leaf
  have hsame := hwrites.get?_eq hm (Node.isFolder_of_isLeaf hleaf) fun _ => hnot
  exact ⟨h.ne_nil, h.named, ⟨m, hsame, hleaf⟩⟩

/-- No copy is made over a file that is to be copied. -/
def Apart (folder place : List String) (found : List (List String)) : Prop :=
  ∀ rel ∈ found, ∀ other ∈ found, folder ++ rel ≠ place ++ other

/-- A file of the project is copied: at its names below the place for copies stands the same. -/
def Copied (base target : Path) (folder place : List String) (fs after : FileSystem)
    (rel : List String) : Prop :=
  ∃ content runnable, fs.root.get? (folder ++ rel) = some (.file content runnable) ∧
    IsPath (base.join (.ofNames rel)) ∧ IsPath (target.join (.ofNames rel)) ∧
    after.Holds (place ++ rel) content runnable

theorem steady_source {content : ByteArray} {runnable : Bool} {goal : List String}
    (hbase : fs.Leads base folder) (hrel : ∀ s ∈ rel, IsFileName s) (hne : rel ≠ [])
    (hpath : IsPath (base.join (.ofNames rel)))
    (hget : fs.root.get? (folder ++ rel) = some (.file content runnable))
    (hgoal : folder ++ rel ≠ goal) :
    fs.Steady (base.join (.ofNames rel)) goal content runnable := fun _ h =>
  stat_below (h.leads hbase) hrel hne hpath (h.get?_eq hget rfl fun _ => hgoal) nofun

theorem stat_of_copyFile {source goal : Path} (h : fs.copyFile source goal = (.ok (), after)) :
    ∃ content runnable, fs.stat source = .ok (.file content runnable) := by
  rw [copyFile] at h
  split at h
  · cases h
  · next content runnable hstat => exact ⟨content, runnable, hstat⟩
  · cases h

theorem copyInto_ok (h : fs.Within target place) (hbase : fs.Leads base folder)
    (hsource : IsSource fs folder rel) (hne : folder ++ rel ≠ place ++ rel)
    (hok : copyInto base target rel fs = (.ok (), after)) :
    Copied base target folder place fs after rel := by
  obtain ⟨m, hm, hleaf⟩ := hsource.leaf
  obtain ⟨init, n, rfl⟩ := (List.eq_nil_or_concat rel).resolve_left hsource.ne_nil
  have hrel := hsource.named
  rw [List.concat_eq_append] at hrel hok hm hne ⊢
  have hnonempty : init ++ [n] ≠ [] := by simp
  obtain ⟨made, hwrites, ⟨e, he⟩ | ⟨hclear, hcopy⟩⟩ := copyInto_cases h hrel
  · rw [he] at hok
    cases hok
  · rw [hcopy] at hok
    obtain ⟨content, runnable, hstat⟩ := stat_of_copyFile hok
    obtain ⟨place', hlocate, -⟩ := get?_of_stat hstat
    have hpath := isPath_of_locate hlocate
    have hbelow := stat_below (hwrites.leads hbase) hrel hnonempty hpath
      (hwrites.get?_eq hm (Node.isFolder_of_isLeaf hleaf) fun _ => id) fun target htarget => by
        simp [htarget, Node.IsLeaf] at hleaf
    rw [hstat, Except.ok.injEq] at hbelow
    subst hbelow
    rw [← List.append_assoc place] at hne
    have hsteady := steady_source (hwrites.leads hbase) hrel hnonempty hpath
      (hwrites.get?_eq hm rfl fun _ => id) hne
    obtain ⟨hgoal, hholds⟩ := copyFile_ok hclear (hrel n (by simp)) hsteady hok
    rw [← Path.join_ofNames_concat target (plain_of_isFileName hrel)] at hgoal
    rw [List.append_assoc] at hholds
    exact ⟨content, runnable, hm, hpath, hgoal, hholds⟩

theorem copyAll_ok {found : List (List String)} (h : fs.Within target place)
    (hbase : fs.Leads base folder) (hfound : ∀ rel ∈ found, IsSource fs folder rel)
    (hapart : Apart folder place found)
    (hok : copyAll base target found fs = (.ok (), after)) :
    ∀ rel ∈ found, Copied base target folder place fs after rel := by
  induction found generalizing fs with
  | nil => exact List.forall_mem_nil _
  | cons rel rest ih =>
    obtain ⟨hfirst, hrest⟩ := List.forall_mem_cons.1 hfound
    have hhere := List.mem_cons_self (a := rel) (l := rest)
    have hthere {r : List String} (hr : r ∈ rest) := List.mem_cons_of_mem rel hr
    rw [copyAll_cons] at hok
    cases hcopy : copyInto base target rel fs with
    | mk result copied =>
      rw [hcopy] at hok
      cases result with
      | error e => cases hok
      | ok u =>
        simp only at hok
        have hcopied := copyInto_writes h hfirst.named hfirst.ne_nil base
        rw [hcopy] at hcopied
        have hrest' : ∀ r ∈ rest, IsSource copied folder r := fun r hr =>
          (hrest r hr).writes hcopied (hapart r (hthere hr) rel hhere)
        have hall : ∀ r ∈ rest, Copied base target folder place fs after r := by
          intro r hr
          obtain ⟨content, runnable, hget, hholds⟩ := ih (hcopied.within h) (hcopied.leads hbase)
            hrest' (fun a ha b hb => hapart a (hthere ha) b (hthere hb)) hok r hr
          exact ⟨content, runnable,
            hcopied.get?_of_after hget rfl fun _ => hapart r (hthere hr) rel hhere, hholds⟩
        refine List.forall_mem_cons.2 ⟨?_, hall⟩
        -- a source that comes twice is copied twice, and the last copy counts
        by_cases hmem : rel ∈ rest
        · exact hall rel hmem
        · obtain ⟨content, runnable, hget, hpath, hgoal, hholds⟩ :=
            copyInto_ok h hbase hfirst (hapart rel hhere rel hhere) hcopy
          have hafter := copyAll_writes (hcopied.within h)
            (fun r hr => ⟨(hrest r hr).ne_nil, (hrest r hr).named⟩) base
          rw [hok] at hafter
          refine ⟨content, runnable, hget, hpath, hgoal, hafter.holds ?_ hholds⟩
          rintro ⟨r, hr, hsame⟩
          exact hmem (List.append_cancel_left hsame ▸ hr)

/-! ### The same copies once more -/

theorem isPath_parent {p parent : Path} (hpath : IsPath p) (h : p.parent? = some parent)
    (hne : parent.isEmpty = false) : IsPath parent := by
  obtain ⟨hnul, -, hsize⟩ := hpath
  have hchars := Path.text_parent? h
  refine ⟨?_, hne, Nat.le_trans (utf8ByteSize_le_of_sublist hchars) hsize⟩
  have hp : Char.ofNat 0 ∉ p.text.toList := by simpa [hasNul] using hnul
  simpa [hasNul] using fun hmem => hp (hchars.subset hmem)

theorem makeFolderPath_again {p : Path} (hground : fs.Grounded) (hfaults : fs.faults = [])
    (h : p.isEmpty = false → fs.isFolder p = true) : fs.makeFolderPath p = (.ok (), fs) := by
  cases hempty : p.isEmpty with
  | true => rw [makeFolderPath, hempty, if_pos rfl]
  | false =>
    obtain ⟨used, hmade⟩ := makeFolderPath_of_isFolder hground (h hempty)
    rw [hmade, hfaults, List.drop_nil, ← hfaults]
    rfl

/-- Where the folder for a copy is there already, only the file is copied. -/
theorem copyInto_of_isFolderAt (h : fs.Clear target place) (hfaults : fs.faults = [])
    (hrel : ∀ s ∈ init ++ [n], IsFileName s) (hfolder : fs.root.IsFolderAt (place ++ init))
    (hgoal : IsPath (target.join (.ofNames (init ++ [n])))) (base : Path) :
    fs.Clear (target.join (.ofNames init)) (place ++ init) ∧
      IsPath ((target.join (.ofNames init)).join ⟨n⟩) ∧
      copyInto base target (init ++ [n]) fs = fs.copyFile (base.join (.ofNames (init ++ [n])))
        ((target.join (.ofNames init)).join ⟨n⟩) := by
  have hleads := h.leads.join (List.forall_mem_append.1 hrel).1 hfolder
  obtain ⟨parent, hparent, habsolute, htrail⟩ := parent_of_copy target hrel
  have hmade : fs.makeFolderPath parent = (.ok (), fs) := by
    refine makeFolderPath_again h.grounded hfaults fun hempty => ?_
    rw [isFolder_iff h.grounded]
    exact ⟨isPath_parent hgoal hparent hempty, _, (leads_congr habsolute htrail).2 hleads⟩
  rw [copyInto_eq, hparent]
  simp only [hmade]
  rw [Path.join_ofNames_concat target (plain_of_isFileName hrel)] at hgoal ⊢
  exact ⟨⟨h.proper, h.grounded, hleads, h.free.below init⟩, hgoal, rfl⟩

theorem copyInto_again (h : fs.Clear target place) (hbase : fs.Leads base folder)
    (hfaults : fs.faults = []) (hsource : IsSource fs folder rel)
    (hne : folder ++ rel ≠ place ++ rel) (hcopied : Copied base target folder place fs fs rel) :
    copyInto base target rel fs = (.ok (), fs) := by
  obtain ⟨content, runnable, hget, hpath, hgoal, hholds⟩ := hcopied
  have hrel := hsource.named
  obtain ⟨init, n, rfl⟩ := (List.eq_nil_or_concat rel).resolve_left hsource.ne_nil
  rw [List.concat_eq_append] at *
  rw [← List.append_assoc place] at hholds hne
  have hfolder : fs.root.IsFolderAt (place ++ init) := by
    obtain hfile | ⟨d, hdevice, -⟩ := hholds
    · exact Node.isFolderAt_of_get? hfile (List.cons_ne_nil n [])
    · exact Node.isFolderAt_of_get? hdevice (List.cons_ne_nil n [])
  obtain ⟨hclear, hgoal', hcopy⟩ := copyInto_of_isFolderAt h hfaults hrel hfolder hgoal base
  have hsteady := steady_source hbase hrel hsource.ne_nil hpath hget hne
  rw [hcopy]
  exact copyFile_again hclear (hrel n (by simp)) hgoal' hfaults hsteady hholds

/-- A file is emptied by a copy of it into the folder where it is. -/
theorem copyInto_itself {content : ByteArray} {runnable : Bool} (h : fs.Clear target folder)
    (hbase : fs.Leads base folder) (hfaults : fs.faults = []) (hsource : IsSource fs folder rel)
    (hget : fs.root.get? (folder ++ rel) = some (.file content runnable))
    (hpath : IsPath (base.join (.ofNames rel))) (hgoal : IsPath (target.join (.ofNames rel))) :
    copyInto base target rel fs =
      (.ok (), fs.put (folder ++ rel) (.file ByteArray.empty runnable)) := by
  have hrel := hsource.named
  obtain ⟨init, n, rfl⟩ := (List.eq_nil_or_concat rel).resolve_left hsource.ne_nil
  rw [List.concat_eq_append] at *
  have hsame {after : FileSystem} {c : ByteArray} {r : Bool}
      (hwrites : fs.Writes (· = folder ++ init ++ [n]) after)
      (hafter : after.root.get? (folder ++ init ++ [n]) = some (.file c r)) :
      after.stat (base.join (.ofNames (init ++ [n]))) = .ok (.file c r) := by
    rw [List.append_assoc] at hafter
    exact stat_below (hwrites.leads hbase) hrel (by simp) hpath hafter nofun
  rw [← List.append_assoc] at hget ⊢
  obtain ⟨hclear, hgoal', hcopy⟩ := copyInto_of_isFolderAt h hfaults hrel
    (Node.isFolderAt_of_get? hget (List.cons_ne_nil n [])) hgoal base
  rw [hcopy]
  exact copyFile_itself hclear (hrel n (by simp)) hgoal' hfaults
    (fun _ hwrites _ _ => hsame hwrites) hget

theorem copyAll_again {found : List (List String)} (h : fs.Clear target place)
    (hbase : fs.Leads base folder) (hfaults : fs.faults = []) (hapart : Apart folder place found)
    (hfound : ∀ rel ∈ found, IsSource fs folder rel ∧
      Copied base target folder place fs fs rel) :
    copyAll base target found fs = (.ok (), fs) := by
  induction found with
  | nil => exact rfl
  | cons rel rest ih =>
    obtain ⟨⟨hsource, hcopied⟩, hrest⟩ := List.forall_mem_cons.1 hfound
    have hne := hapart rel List.mem_cons_self rel List.mem_cons_self
    rw [copyAll_cons, copyInto_again h hbase hfaults hsource hne hcopied]
    exact ih (fun a ha b hb => hapart a (List.mem_cons_of_mem rel ha) b
      (List.mem_cons_of_mem rel hb)) hrest

end Copy

end Step

end BuildPipeline

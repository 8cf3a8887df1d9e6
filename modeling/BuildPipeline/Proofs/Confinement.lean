import BuildPipeline.Proofs.PathPlace
import BuildPipeline.Run.Documents
import BuildPipeline.Step.Artifacts

/-! Changes that are confined to one folder: in a tree without links, making that folder, copying
files into it and writing documents there leave everything else as it was, but for folders that were
missing on the way to it. -/
namespace BuildPipeline

namespace FileSystem

open Node

/-- What is different lies in the folder that a path names, or is a new folder on the way to it. -/
structure Confined (fs : FileSystem) (p : Path) (after : FileSystem) : Prop where
  working : after.workingFolder = fs.workingFolder
  tidy : after.Tidy
  elsewhere : ∀ names, ¬ fs.placeOf p <+: names →
    after.root.surface names = fs.root.surface names ∨
      fs.OnWay p names ∧ fs.root.surface names = none ∧
        after.root.surface names = some (.folder [])

section Confined
variable {fs after last : FileSystem} {p q : Path} {names : List String} {new : Node}

theorem placeOf_congr (h : after.workingFolder = fs.workingFolder) (p : Path) :
    after.placeOf p = fs.placeOf p := by
  rw [placeOf, placeOf, start, start, h]

theorem onWay_congr (h : after.workingFolder = fs.workingFolder) :
    after.OnWay p names ↔ fs.OnWay p names := by
  rw [OnWay, OnWay, start, start, h]

theorem Confined.trans (h : fs.Confined p after) (hlast : after.Confined p last) :
    fs.Confined p last := by
  refine ⟨hlast.working.trans h.working, hlast.tidy, fun names hnames => ?_⟩
  have hplace := placeOf_congr h.working p
  obtain hsame | ⟨hway, hnone, hnew⟩ := h.elsewhere names hnames
  · obtain hsame' | ⟨hway, hnone, hnew⟩ := hlast.elsewhere names (hplace ▸ hnames)
    · exact .inl (hsame'.trans hsame)
    · exact .inr ⟨(onWay_congr h.working).1 hway, hsame ▸ hnone, hnew⟩
  · obtain hsame' | ⟨-, hnone', -⟩ := hlast.elsewhere names (hplace ▸ hnames)
    · exact .inr ⟨hway, hnone, hsame'.trans hnew⟩
    · rw [hnew] at hnone'
      cases hnone'

/-! ### One change -/

section Change
variable (htidy : fs.Tidy) (hworking : after.workingFolder = fs.workingFolder)
include htidy hworking

theorem confined_of_eq (hroot : after.root = fs.root) : fs.Confined p after := by
  refine ⟨hworking, ⟨?_, ?_⟩, fun names _ => .inl (by rw [hroot])⟩
  · rw [hroot]
    exact htidy.root
  · rw [hworking]
    exact htidy.working

variable (hnames : ∀ s ∈ names, IsFileName s)
include hnames

theorem confined_set (hin : fs.placeOf p <+: names) (hnew : new.Tidy)
    (hroot : after.root = fs.root.set names new) : fs.Confined p after := by
  refine ⟨hworking, ⟨?_, ?_⟩, fun other hother => .inl ?_⟩
  · rw [hroot]
    exact htidy.root.set hnew hnames
  · rw [hworking]
    exact htidy.working
  · rw [hroot]
    exact surface_set_elsewhere fun hprefix => hother (hin.trans hprefix)

theorem confined_erase (hin : fs.placeOf p <+: names) (hroot : after.root = fs.root.erase names) :
    fs.Confined p after := by
  refine ⟨hworking, ⟨?_, ?_⟩, fun other hother => .inl ?_⟩
  · rw [hroot]
    exact htidy.root.erase hnames
  · rw [hworking]
    exact htidy.working
  · rw [hroot]
    exact surface_erase_elsewhere fun hprefix => hother (hin.trans hprefix)

theorem confined_folder (hnone : fs.root.get? names = none)
    (hway : fs.OnWay p names ∨ fs.placeOf p <+: names)
    (hroot : after.root = fs.root.set names (.folder [])) : fs.Confined p after := by
  refine ⟨hworking, ⟨?_, ?_⟩, fun other hother => ?_⟩
  · rw [hroot]
    exact htidy.root.set tidy_empty hnames
  · rw [hworking]
    exact htidy.working
  · rw [hroot]
    obtain hsame | ⟨rfl, hnew⟩ := @surface_set_folder fs.root names other hnone
    · exact .inl hsame
    · have hbefore : fs.root.surface other = none := by rw [surface, hnone, Option.map_none]
      exact .inr ⟨hway.resolve_right hother, hbefore, hnew⟩

end Change

/-! ### Folders -/

theorem makeFolder_confined (htidy : fs.Tidy)
    (hway : fs.OnWay p (fs.placeOf q) ∨ fs.placeOf p <+: fs.placeOf q) :
    fs.Confined p (fs.makeFolder q).2 := by
  obtain ⟨e, he⟩ | ⟨names, hlocate, hmade⟩ := fs.makeFolder_cases q
  · rw [he]
    exact confined_of_eq htidy rfl rfl
  · obtain ⟨rfl, hnode, hnames⟩ := locate_tidy htidy hlocate
    rw [placeOf_withoutEndSlash] at hnode hnames hmade
    rw [hmade]
    exact confined_folder htidy rfl hnames hnode.symm hway rfl

theorem makeFolderPath_confined (htidy : fs.Tidy)
    (hway : ∀ r ∈ ancestors q, fs.OnWay p (fs.placeOf r) ∨ fs.placeOf p <+: fs.placeOf r) :
    fs.Confined p (fs.makeFolderPath q).2 := by
  have hrefl : fs.Confined p fs := confined_of_eq htidy rfl rfl
  rw [makeFolderPath]
  split
  · exact hrefl
  · refine makeOutwards_preserves (P := fs.Confined p) (fun made hmade r hr => ?_) hrefl
    rw [List.append_nil] at hr
    refine hmade.trans (makeFolder_confined hmade.tidy ?_)
    rw [onWay_congr hmade.working, placeOf_congr hmade.working, placeOf_congr hmade.working]
    exact hway r hr

theorem makeFolderPath_confined_self (htidy : fs.Tidy) (p : Path) :
    fs.Confined p (fs.makeFolderPath p).2 := by
  refine makeFolderPath_confined htidy fun q hq => .inl ?_
  obtain ⟨-, habsolute, htrail, -⟩ := Path.mem_ancestors hq
  exact onWay_of_trail habsolute htrail

/-! ### Files -/

theorem fileTarget_tidy (htidy : fs.Tidy) (h : fs.fileTarget q = .ok names) :
    names = fs.placeOf q ∧ ∀ s ∈ names, IsFileName s := by
  rw [fileTarget] at h
  split at h
  · cases h
  · cases h
  · next hlocate =>
    cases h
    obtain ⟨hplace, -, hnames⟩ := locate_tidy htidy hlocate
    exact ⟨hplace, hnames⟩

theorem store_confined (htidy : fs.Tidy) (hin : fs.placeOf p <+: names)
    (hnames : ∀ s ∈ names, IsFileName s) (content : ByteArray) :
    fs.Confined p (fs.store names content).2 := by
  rw [store]
  split
  · split <;> exact confined_of_eq htidy rfl rfl
  · exact confined_of_eq htidy rfl rfl
  · exact confined_set htidy rfl hnames hin (.file _ _) rfl
  · exact confined_set htidy rfl hnames hin (.file _ _) rfl

theorem writeBytes_confined (htidy : fs.Tidy) (hin : fs.placeOf p <+: fs.placeOf q)
    (content : ByteArray) : fs.Confined p (fs.writeBytes q content).2 := by
  have hunchanged : fs.Confined p (fs.withFaults fs.faults.tail) := confined_of_eq htidy rfl rfl
  have hstore (content : ByteArray) {names : List String}
      (h : (fs.withFaults fs.faults.tail).fileTarget q = .ok names) :
      fs.Confined p ((fs.withFaults fs.faults.tail).store names content).2 := by
    obtain ⟨rfl, hnames⟩ := fileTarget_tidy hunchanged.tidy h
    exact hunchanged.trans (store_confined hunchanged.tidy hin hnames content)
  rw [writeBytes, nextFault_eq]
  cases fs.faults.head?.join with
  | none =>
    simp only
    split
    · exact hunchanged
    · next names htarget => exact hstore content htarget
  | some fault =>
    obtain ⟨e, _ | k⟩ := fault
    · exact hunchanged
    · simp only
      split
      · exact hunchanged
      · next names htarget => exact hstore _ htarget

theorem mark_confined (htidy : fs.Tidy) (hin : fs.placeOf p <+: fs.placeOf q) (runnable : Bool) :
    fs.Confined p (fs.mark q runnable) := by
  have hrefl : fs.Confined p fs := confined_of_eq htidy rfl rfl
  rw [mark]
  split
  · exact hrefl
  · next names htarget =>
    split
    · obtain ⟨rfl, hnames⟩ := fileTarget_tidy htidy htarget
      exact confined_set htidy rfl hnames hin (.file _ _) rfl
    · exact hrefl

theorem Confined.inside (h : fs.Confined p after) (hin : fs.placeOf p <+: fs.placeOf q) :
    after.placeOf p <+: after.placeOf q := by
  rwa [placeOf_congr h.working, placeOf_congr h.working]

theorem copyFile_confined (htidy : fs.Tidy) (hin : fs.placeOf p <+: fs.placeOf q) (source : Path) :
    fs.Confined p (fs.copyFile source q).2 := by
  have hrefl : fs.Confined p fs := confined_of_eq htidy rfl rfl
  rw [copyFile]
  split
  · exact hrefl
  · next runnable _ =>
    have hopened := writeBytes_confined htidy hin ByteArray.empty
    split
    · next e failed hfailed => rwa [hfailed] at hopened
    · next opened hok =>
      rw [hok] at hopened
      have hmarked := hopened.trans (mark_confined hopened.tidy (hopened.inside hin) runnable)
      simp only
      split
      · exact hmarked
      · next content _ =>
        exact hmarked.trans (writeBytes_confined hmarked.tidy (hmarked.inside hin) content)
  · exact hrefl

theorem rename_confined {r : Path} (htidy : fs.Tidy) (hin : fs.placeOf p <+: fs.placeOf q)
    (hin' : fs.placeOf p <+: fs.placeOf r) : fs.Confined p (fs.rename q r).2 := by
  have hunchanged : fs.Confined p (fs.withFaults fs.faults.tail) := confined_of_eq htidy rfl rfl
  rw [rename, nextFault_eq]
  cases fs.faults.head?.join with
  | some fault => exact hunchanged
  | none =>
    simp only [locate_withFaults]
    split
    · exact hunchanged
    · exact hunchanged
    · exact hunchanged
    · exact hunchanged
    · next source n target _ _ hsource htarget =>
      obtain ⟨rfl, hnode, hnames⟩ := locate_tidy htidy hsource
      obtain ⟨rfl, -, hnames'⟩ := locate_tidy htidy htarget
      split
      · exact hunchanged
      · have htaken : fs.Confined p ((fs.withFaults fs.faults.tail).takeAway (fs.placeOf q)) :=
          confined_erase htidy rfl hnames hin rfl
        exact htaken.trans (confined_set htaken.tidy rfl hnames' (htaken.inside hin')
          (htidy.root.get? hnode.symm).1 rfl)

theorem removeFile_confined (htidy : fs.Tidy) (hin : fs.placeOf p <+: fs.placeOf q) :
    fs.Confined p (fs.removeFile q).2 := by
  have hunchanged : fs.Confined p (fs.withFaults fs.faults.tail) := confined_of_eq htidy rfl rfl
  rw [removeFile, nextFault_eq]
  cases fs.faults.head?.join with
  | some fault => exact hunchanged
  | none =>
    simp only [locate_withFaults]
    split
    · exact hunchanged
    · exact hunchanged
    · exact hunchanged
    · next names n _ hlocate =>
      obtain ⟨rfl, -, hnames⟩ := locate_tidy htidy hlocate
      exact confined_erase htidy rfl hnames hin rfl

theorem writeAtomic_confined (htidy : fs.Tidy) (hin : fs.placeOf p <+: fs.placeOf q)
    (hbeside : fs.placeOf p <+: fs.placeOf (q.withSuffix ".tmp")) (text : String) :
    fs.Confined p (fs.writeAtomic q text).2 := by
  have hbegun : fs.Confined p (fs.writeText (q.withSuffix ".tmp") text).2 :=
    writeBytes_confined htidy hbeside text.toUTF8
  rw [writeAtomic]
  split
  · next e failed hfailed => rwa [hfailed] at hbegun
  · next begun hok =>
    rw [hok] at hbegun
    have hmoved := hbegun.trans
      (rename_confined hbegun.tidy (hbegun.inside hbeside) (hbegun.inside hin))
    split
    · next moved hmove => rwa [hmove] at hmoved
    · next e failed hfailed =>
      rw [hfailed] at hmoved
      exact hmoved.trans (removeFile_confined hmoved.tidy (hmoved.inside hbeside))

end Confined

end FileSystem

open FileSystem

/-! ### Documents and artifacts -/

section Outputs
variable {fs after : FileSystem} {target : Path}

theorem Report.writeEach_confined {folder : Path} (htidy : fs.Tidy)
    {documents : List (String × String × String)}
    (hnames : ∀ d ∈ documents, IsFileName d.2.1 ∧ IsFileName (d.2.1 ++ ".tmp")) :
    fs.Confined folder (writeEach folder documents fs).2 := by
  induction documents generalizing fs with
  | nil => exact confined_of_eq htidy rfl rfl
  | cons d rest ih =>
    obtain ⟨⟨hname, hbeside⟩, hrest⟩ := List.forall_mem_cons.1 hnames
    have hplace : fs.placeOf folder <+: fs.placeOf (folder.join ⟨d.2.1⟩) := by
      rw [placeOf_join_name hname]
      exact List.prefix_append _ _
    have hplace' : fs.placeOf folder <+:
        fs.placeOf ((folder.join ⟨d.2.1⟩).withSuffix ".tmp") := by
      rw [folder.withSuffix_join hname.2.1 (by decide), placeOf_join_name hbeside]
      exact List.prefix_append _ _
    have hwritten := writeAtomic_confined htidy hplace hplace' d.2.2
    exact hwritten.trans (ih hwritten.tidy hrest)

/-- Writing a report changes nothing outside the reports folder. -/
theorem Report.writeAll_confined (r : Report) (htidy : fs.Tidy) (folder : Path) :
    fs.Confined folder (r.writeAll folder fs).2 := by
  have hnames : ∀ d ∈ r.documents, IsFileName d.2.1 ∧ IsFileName (d.2.1 ++ ".tmp") := by
    have hjson : IsFileName documentName ∧ IsFileName (documentName ++ ".tmp") := by decide
    have hhtml : IsFileName pageName ∧ IsFileName (pageName ++ ".tmp") := by decide
    exact List.forall_mem_cons.2 ⟨hjson, List.forall_mem_singleton.2 hhtml⟩
  have hmade := makeFolderPath_confined_self htidy folder
  rw [writeAll]
  cases hresult : fs.makeFolderPath folder with
  | mk result made =>
    rw [hresult] at hmade
    cases result with
    | error e => exact hmade
    | ok u =>
      have hwritten : made.Confined folder (writeEach folder r.documents made).2 :=
        writeEach_confined hmade.tidy hnames
      exact hmade.trans hwritten

namespace Step

theorem copyInto_eq (base target : Path) (rel : List String) (fs : FileSystem) :
    copyInto base target rel fs =
      match (match (target.join (.ofNames rel)).parent? with
        | some parent => fs.makeFolderPath parent
        | none => (.ok (), fs)) with
      | (.error e, fs) => (.error e, fs)
      | (.ok (), fs) => fs.copyFile (base.join (.ofNames rel)) (target.join (.ofNames rel)) := by
  delta copyInto
  exact rfl

theorem copyAll_cons (base target : Path) (rel : List String) (rest : List (List String))
    (fs : FileSystem) : copyAll base target (rel :: rest) fs =
      match copyInto base target rel fs with
      | (.error e, fs) => (.error e, fs)
      | (.ok (), fs) => copyAll base target rest fs := by
  exact rfl

/-- The parent of a file's copy is passed on the way to the folder of copies or lies in it. -/
theorem ancestors_of_parent {rel : List String} {parent q : Path}
    (hrel : ∀ s ∈ rel, IsFileName s) (h : (target.join (.ofNames rel)).parent? = some parent)
    (hq : q ∈ ancestors parent) :
    fs.OnWay target (fs.placeOf q) ∨ fs.placeOf target <+: fs.placeOf q := by
  obtain ⟨habsolute, hparent⟩ := Path.trail_parent? h
  obtain ⟨-, habsolute', htrail, -⟩ := Path.mem_ancestors hq
  obtain ⟨hjoin, -⟩ := join_names target hrel
  have habs : q.isAbsolute = target.isAbsolute := habsolute'.trans (habsolute.trans hjoin)
  have hwhole : q.trail <+: target.trail ++ rel := by
    rw [← trail_join_names target hrel]
    exact htrail.trans hparent
  obtain hway | ⟨more, hmore⟩ :=
    List.prefix_or_prefix_of_prefix hwhole (List.prefix_append target.trail rel)
  · exact .inl (onWay_of_trail habs hway)
  · rw [← hmore, List.prefix_append_right_inj] at hwhole
    have hnames : ∀ s ∈ more, IsName s := fun s hs => (hrel s (hwhole.subset hs)).1
    have hplace : fs.placeOf q = fs.placeOf target ++ more := by
      rw [placeOf, placeOf, ← goFrom_trail, ← goFrom_trail target, ← hmore, goFrom_append,
        goFrom_names hnames, start, start, habs]
    exact .inr (hplace ▸ List.prefix_append _ _)

theorem copyInto_confined {rel : List String} (htidy : fs.Tidy)
    (hrel : ∀ s ∈ rel, IsFileName s) (base : Path) :
    fs.Confined target (copyInto base target rel fs).2 := by
  have hgoal : fs.placeOf target <+: fs.placeOf (target.join (.ofNames rel)) := by
    rw [placeOf_join_names hrel]
    exact List.prefix_append _ _
  rw [copyInto_eq]
  cases hparent : (target.join (.ofNames rel)).parent? with
  | none => exact copyFile_confined htidy hgoal _
  | some parent =>
    have hmade : fs.Confined target (fs.makeFolderPath parent).2 :=
      makeFolderPath_confined htidy fun q hq => ancestors_of_parent hrel hparent hq
    simp only
    split
    · next e failed hfailed => rwa [hfailed] at hmade
    · next made hok =>
      rw [hok] at hmade
      exact hmade.trans (copyFile_confined hmade.tidy (hmade.inside hgoal) _)

theorem copyAll_confined {found : List (List String)} (htidy : fs.Tidy)
    (hfound : ∀ rel ∈ found, ∀ s ∈ rel, IsFileName s) (base : Path) :
    fs.Confined target (copyAll base target found fs).2 := by
  induction found generalizing fs with
  | nil => exact confined_of_eq htidy (by exact rfl) (by exact rfl)
  | cons rel rest ih =>
    obtain ⟨hrel, hrest⟩ := List.forall_mem_cons.1 hfound
    have hcopied : fs.Confined target (copyInto base target rel fs).2 :=
      copyInto_confined htidy hrel base
    rw [copyAll_cons]
    split
    · next e failed hfailed => rwa [hfailed] at hcopied
    · next copied hok =>
      rw [hok] at hcopied
      exact hcopied.trans (ih hcopied.tidy hrest)

end Step

end Outputs

end BuildPipeline

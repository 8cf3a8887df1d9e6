import BuildPipeline.Proofs.ArtifactRepetition
import BuildPipeline.Proofs.Counts

/-! The detail of an artifact step that passes: what has been collected and what had been in the
folder of artifacts before, with the sizes that it has there now. -/
namespace BuildPipeline.Step

open FileSystem Node

/-- At a place and below it are only files and folders, and no name has a backslash. -/
def Ordinary (fs : FileSystem) (folder : List String) : Prop :=
  ∀ rel n, fs.root.get? (folder ++ rel) = some n →
    (n.isFile = true ∨ n.isFolder = true) ∧ ∀ s ∈ rel, '\\' ∉ s.toList

section Copies
variable {mid after : FileSystem} {base target : Path} {folder names rel : List String}
  {found : List (List String)}

theorem Ordinary.file {n : Node} (h : Ordinary mid folder)
    (hget : mid.root.get? (folder ++ rel) = some n) (hn : n.isFolder = false) :
    ∃ content runnable, n = .file content runnable := by
  obtain ⟨hfile | hfolder, -⟩ := h rel n hget
  · cases n with
    | file content runnable => exact ⟨content, runnable, rfl⟩
    | _ => simp [Node.isFile] at hfile
  · simp [hn] at hfolder

/-- A copy is a file like its source, as there was no device at its place. -/
theorem get?_of_copied (h : Ordinary mid folder)
    (hwrites : mid.Writes (fun place => ∃ rel ∈ found, place = folder ++ names ++ rel) after)
    (hcopied : Copied base target folder (folder ++ names) mid after rel) :
    ∃ content runnable, mid.root.get? (folder ++ rel) = some (.file content runnable) ∧
      after.root.get? (folder ++ names ++ rel) = some (.file content runnable) := by
  obtain ⟨content, runnable, hget, -, -, hfile | ⟨d, hdevice, -⟩⟩ := hcopied
  · exact ⟨content, runnable, hget, hfile⟩
  · have hbefore := hwrites.get?_of_after hdevice rfl nofun
    rw [List.append_assoc] at hbefore
    obtain ⟨_, _, heq⟩ := h.file hbefore rfl
    cases heq

/-- Once copies have been made, the files in their folder are the copies and those from before. -/
theorem files_after_copies (h : Ordinary mid folder)
    (hwrites : mid.Writes (fun place => ∃ rel ∈ found, place = folder ++ names ++ rel) after)
    (hcopied : ∀ rel ∈ found, Copied base target folder (folder ++ names) mid after rel)
    (rel : List String) :
    (∃ n, after.root.get? (folder ++ names ++ rel) = some n ∧ n.isFolder = false) ↔
      rel ∈ found ∨ ∃ content runnable,
        mid.root.get? (folder ++ names ++ rel) = some (.file content runnable) := by
  -- a copy may have come in place of a file from before
  by_cases hrel : rel ∈ found
  · obtain ⟨content, runnable, -, hget⟩ := get?_of_copied h hwrites (hcopied rel hrel)
    exact ⟨fun _ => .inl hrel, fun _ => ⟨_, hget, rfl⟩⟩
  · have hnot : ¬ ∃ other ∈ found, folder ++ names ++ rel = folder ++ names ++ other := by
      rintro ⟨other, hother, heq⟩
      exact hrel (List.append_cancel_left heq ▸ hother)
    constructor
    · rintro ⟨n, hget, hn⟩
      have hbefore := hwrites.get?_of_after hget hn fun _ => hnot
      rw [List.append_assoc] at hbefore ⊢
      obtain ⟨content, runnable, rfl⟩ := h.file hbefore hn
      exact .inr ⟨content, runnable, hbefore⟩
    · rintro (hmem | ⟨content, runnable, hget⟩)
      · exact absurd hmem hrel
      · exact ⟨_, hwrites.get?_eq hget rfl fun _ => hnot, rfl⟩

end Copies

section Action
variable {σ : Type} {ctx : StepContext σ} {m : Machine σ} {folder names : List String}

/-- A step that passes has collected what there was by then. -/
theorem artifacts_passed {run : StepRun} {after : Machine σ}
    (h : artifacts ctx m = (.ok run, after)) (hpassed : run.succeeded = true) :
    collectArtifacts ctx.settings (outputPath ctx) (packaged ctx m) = (.ok run, after) := by
  rw [artifacts] at h
  obtain ⟨u, made, hmade, h⟩ := Action.bind_ok h
  obtain rfl : { m with files := prepared ctx m } = made := by
    rw [Action.files] at hmade
    split at hmade
    · next heq =>
      cases hmade
      exact congrArg (fun fs => { m with files := fs }) (congrArg Prod.snd heq)
    · cases hmade
  cases hpackage : ctx.settings.commands.package with
  | none =>
    rw [hpackage] at h
    rwa [packaged_of_none hpackage]
  | some command =>
    rw [hpackage] at h
    obtain ⟨output, between, hrun, h⟩ := Action.bind_ok h
    have hpackaged : packaged ctx m = between := by simp only [packaged, hpackage, hrun]
    cases hexit : exitFailure? output with
    | some reason =>
      rw [hexit] at h
      cases h
      cases hpassed
    | none =>
      rw [hexit] at h
      rwa [hpackaged]

/-- The detail of a step that passes lists, in the order of their bytes, the paths of what has been
collected and of the files that were in the folder of artifacts before. Its total is that of the
sizes there, where what has been collected is the same as in the project. -/
theorem artifacts_listed {run : StepRun}
    (hnames : (⟨ctx.settings.artifacts.directory⟩ : Path).components = names.map .name)
    (hne : names ≠ []) (hclear : (packaged ctx m).files.Clear ctx.settings.workingDir folder)
    (hordinary : Ordinary (packaged ctx m).files folder) (hrun : (artifacts ctx m).1 = .ok run)
    (hpassed : run.succeeded = true) :
    ∃ globs found, ∃ rels : List (List String),
      readPatterns ctx.settings.artifacts.patterns = .ok globs ∧
      matchingFiles ctx.settings globs (packaged ctx m).files = .ok found ∧
      (∀ rel, rel ∈ rels ↔ rel ∈ found ∨ ∃ content runnable,
        (packaged ctx m).files.root.get? (folder ++ names ++ rel) =
          some (.file content runnable)) ∧
      (rels.map (String.intercalate "/")).Pairwise BytesBefore ∧
      run.detail = .artifacts ⟨ctx.settings.artifacts.directory,
        rels.map (String.intercalate "/"), .saturate (rels.map fun rel =>
          sizeAt (artifacts ctx m).2.files (folder ++ names ++ rel)).sum⟩ ∧
      ∀ rel ∈ found, (artifacts ctx m).2.files.root.get? (folder ++ names ++ rel) =
        (packaged ctx m).files.root.get? (folder ++ rel) := by
  obtain ⟨globs, found, files, hglobs, hfound, hcopy, hlist, -, rfl⟩ :=
    collectArtifacts_ok (artifacts_passed (Prod.ext hrun rfl) hpassed)
  generalize (artifacts ctx m).2.files = after at hcopy hlist ⊢
  generalize (packaged ctx m).files = mid at hclear hordinary hfound hcopy ⊢
  have hpins : mid.Pins (outputPath ctx) (folder ++ names) :=
    (hclear.leads.pins hclear.free).resolve hnames
  have hapart :=
    apart_of_names hclear hfound (directory_mem_skippedFolders ctx.settings) hnames hne
  obtain ⟨hwrites, hcopied⟩ := copied_of_found hclear hpins hfound hapart hcopy
  have hfiles := files_after_copies hordinary hwrites hcopied
  -- the packaging may have removed the folder of artifacts, but what has been listed is there
  have hleads : after.Leads (outputPath ctx) (folder ++ names) := by
    have hthere : after.isFolder (outputPath ctx) = true := by
      obtain ⟨entries, -, hentries, -⟩ := listFiles_ok hlist
      exact isFolder_of_list hentries
    obtain ⟨-, place, hleads⟩ := (isFolder_iff (hwrites.grounded hclear.grounded)).1 hthere
    rwa [(hwrites.pins hpins).unique hleads] at hleads
  have hplain (rel : List String) (n : Node)
      (hget : after.root.get? (folder ++ names ++ rel) = some n) (hn : n.isFolder = false) :
      ∀ s ∈ rel, '\\' ∉ s.toList := by
    obtain hrel | ⟨content, runnable, hbefore⟩ := (hfiles rel).1 ⟨n, hget, hn⟩
    · obtain ⟨content, runnable, hsource, -⟩ := get?_of_copied hordinary hwrites (hcopied rel hrel)
      exact (hordinary rel _ hsource).2
    · rw [List.append_assoc] at hbefore
      exact (List.forall_mem_append.1 (hordinary _ _ hbefore).2).2
  obtain ⟨rels, rfl, hsorted, hrels⟩ := listFiles_exact hwrites.proper hleads hplain hlist
  refine ⟨globs, found, rels, hglobs, hfound, fun rel => (hrels rel).trans (hfiles rel), hsorted,
    ?_, fun rel hrel => ?_⟩
  · rw [listed, StepRun.passed, ← Count.sum_saturate]
    simp only [List.map_map]
    rfl
  · obtain ⟨content, runnable, hsource, hget⟩ := get?_of_copied hordinary hwrites (hcopied rel hrel)
    rw [hsource, hget]

end Action

/-! ### A project whose files have been collected before -/

def AllOrdinary (root : Node) : Prop :=
  ∀ rel n, root.get? rel = some n →
    (n.isFile = true ∨ n.isFolder = true) ∧ ∀ s ∈ rel, '\\' ∉ s.toList

theorem AllOrdinary.file (content : ByteArray) (runnable : Bool) :
    AllOrdinary (.file content runnable) := by
  intro rel n hget
  cases rel with
  | nil =>
    cases hget
    exact ⟨.inl rfl, List.forall_mem_nil _⟩
  | cons s rest => simp [get?] at hget

theorem AllOrdinary.folder {es : List (String × Node)}
    (h : ∀ e ∈ es, '\\' ∉ e.1.toList ∧ AllOrdinary e.2) : AllOrdinary (.folder es) := by
  intro rel n hget
  cases rel with
  | nil =>
    cases hget
    exact ⟨.inr rfl, List.forall_mem_nil _⟩
  | cons s rest =>
    rw [get?_folder_cons] at hget
    obtain ⟨inner, hinner, hrest⟩ := Option.bind_eq_some_iff.1 hget
    obtain ⟨hname, hbelow⟩ := h _ (mem_of_find? hinner)
    obtain ⟨hkind, hnames⟩ := hbelow rest n hrest
    exact ⟨hkind, List.forall_mem_cons.2 ⟨hname, hnames⟩⟩

theorem ordinary_collectedOnce : Ordinary collectedOnce.files [] := by
  have hfile (content : ByteArray) := AllOrdinary.file content false
  have hinner : AllOrdinary (folder projectFiles) := .folder
    (List.forall_mem_cons.2 ⟨⟨by decide, hfile _⟩,
      List.forall_mem_singleton.2 ⟨by decide, hfile _⟩⟩)
  exact AllOrdinary.folder (List.forall_mem_cons.2 ⟨⟨by decide, hfile _⟩,
    List.forall_mem_cons.2 ⟨⟨by decide, hfile _⟩,
      List.forall_mem_singleton.2 ⟨by decide, hinner⟩⟩⟩)

theorem mem_of_file_projectFiles {rel : List String} {content : ByteArray} {runnable : Bool}
    (h : (folder projectFiles).get? rel = some (.file content runnable)) :
    rel = ["package.json"] ∨ rel = ["index.js"] := by
  cases rel with
  | nil => cases h
  | cons s rest =>
    rw [get?_folder_cons] at h
    obtain ⟨n, hn, hrest⟩ := Option.bind_eq_some_iff.1 h
    obtain ⟨rfl, rfl⟩ | ⟨rfl, rfl⟩ := by simpa [projectFiles] using mem_of_find? hn
    all_goals cases rest <;> simp [get?] at hrest ⊢

/-- The files are listed by their names, with all their bytes. -/
theorem package_listed : ∃ run,
    (⟨"artifacts"⟩ : Path).components = ["artifacts"].map .name ∧ ["artifacts"] ≠ [] ∧
      (packaged (everythingContext "artifacts") collectedOnce).files.Clear
        (everythingContext "artifacts").settings.workingDir [] ∧
      Ordinary (packaged (everythingContext "artifacts") collectedOnce).files [] ∧
      (artifacts (everythingContext "artifacts") collectedOnce).1 = .ok run ∧
      run.succeeded = true ∧
      run.detail = .artifacts ⟨"artifacts", ["index.js", "package.json"], 3⟩ := by
  have hnames : (⟨"artifacts"⟩ : Path).components = ["artifacts"].map .name := by decide
  have hclear := clear_collectedOnce
  have hordinary := ordinary_collectedOnce
  rw [← packaged_collectedOnce] at hclear hordinary
  obtain ⟨files, hrun⟩ := artifacts_collectedOnce
  have hresult := congrArg Prod.fst hrun
  obtain ⟨globs, found, rels, hglobs, hfound, hrels, hsorted, hdetail, -⟩ :=
    @artifacts_listed Unit (everythingContext "artifacts") collectedOnce [] ["artifacts"] _ hnames
      (by decide) hclear hordinary hresult rfl
  refine ⟨_, hnames, by decide, hclear, hordinary, hresult, rfl, ?_⟩
  obtain rfl : [[.recursiveStart]] = globs := Except.ok.inj hglobs
  rw [packaged_collectedOnce] at hfound hrels
  obtain rfl := Except.ok.inj (matchingFiles_collectedOnce.symm.trans hfound)
  have hmem (rel : List String) : rel ∈ rels ↔ rel ∈ [["index.js"], ["package.json"]] := by
    rw [hrels]
    constructor
    · rintro (h | ⟨content, runnable, hget⟩)
      · simpa [or_comm] using h
      · simpa [or_comm] using mem_of_file_projectFiles hget
    · intro h
      exact .inl (by simpa [or_comm] using h)
  -- the order is strict, so that there is one list with these members
  have hrelsSorted := List.pairwise_map.1 hsorted
  have hlistSorted : [["index.js"], ["package.json"]].Pairwise fun a b : List String =>
      BytesBefore (String.intercalate "/" a) (String.intercalate "/" b) :=
    List.pairwise_pair.2 (bytesBefore_of_lt (by decide))
  have hirrefl (a b : List String)
      (h : BytesBefore (String.intercalate "/" a) (String.intercalate "/" b)) : a ≠ b := by
    rintro rfl
    exact List.lt_irrefl _ h
  have hperm := (List.perm_ext_iff_of_nodup (hrelsSorted.imp fun h => hirrefl _ _ h)
    (hlistSorted.imp fun h => hirrefl _ _ h)).2 hmem
  obtain rfl := hperm.eq_of_pairwise
    (fun _ _ _ _ hab hba => absurd hba (List.lt_asymm hab)) hrelsSorted hlistSorted
  rw [hdetail, hrun]
  rfl

end BuildPipeline.Step

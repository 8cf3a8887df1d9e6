import BuildPipeline.Proofs.ArtifactStep
import BuildPipeline.Proofs.FileListing
import BuildPipeline.Settings.Validation

/-! Artifacts are not collected from among themselves, if their folder is named by names alone.
Collecting them once more then gives the same. -/
namespace BuildPipeline.Step

open FileSystem Node

section Outside
variable {settings : Settings} {globs : List (List Glob.Token)} {fs : FileSystem}
  {folder names output : List String} {found : List (List String)} {p : Path}

/-- Nothing is found in a skipped folder whose path is written with names alone. -/
theorem outside_of_skipped (h : fs.Clear settings.workingDir folder)
    (hfound : matchingFiles settings globs fs = .ok found) (hp : p ∈ skippedFolders settings)
    (hnames : p.components = names.map .name) (hne : names ≠ [])
    (hleads : fs.Leads (settings.resolve p) output) :
    ∀ rel ∈ found, ¬ output <+: folder ++ rel := by
  intro rel hrel
  obtain ⟨-, -, hmem⟩ := mem_matchingFiles h hfound
  have hfolder := hleads.isFolderAt h.grounded
  obtain rfl := ((h.leads.pins h.free).resolve hnames).unique hleads
  exact ((hmem rel).1 hrel).outside hfolder hp hnames hne

theorem directory_mem_skippedFolders (settings : Settings) :
    ⟨settings.artifacts.directory⟩ ∈ skippedFolders settings :=
  List.mem_cons_self

theorem reportsDir_mem_skippedFolders (h : settings.reportsDir.isAbsolute = false) :
    settings.reportsDir ∈ skippedFolders settings := by
  simp [skippedFolders, h]

end Outside

section Again
variable {σ : Type} {ctx : StepContext σ} {m : Machine σ} {settings : Settings}
  {globs : List (List Glob.Token)} {made after : FileSystem} {target : Path}
  {folder output : List String} {found found' : List (List String)}

/-- Copying what was found changes nothing that a second walk looks at. -/
theorem found_again (h : made.Clear settings.workingDir folder)
    (hwrites : made.Writes (fun names => ∃ rel ∈ found, names = output ++ rel) after)
    (hfound : matchingFiles settings globs made = .ok found)
    (hfound' : matchingFiles settings globs after = .ok found')
    (houtside : ∀ rel ∈ found', ¬ output <+: folder ++ rel) : ∀ rel ∈ found', rel ∈ found := by
  intro rel hrel
  obtain ⟨-, -, hmem⟩ := mem_matchingFiles h hfound
  obtain ⟨-, -, hmem'⟩ := mem_matchingFiles (hwrites.clear h) hfound'
  obtain ⟨hmatch, ⟨n, hget, hleaf⟩, hway⟩ := (hmem' rel).1 hrel
  have hbefore := hwrites.get?_of_after hget (isFolder_of_isLeaf hleaf) fun _ hwritten => by
    obtain ⟨other, -, hsame⟩ := hwritten
    exact houtside rel hrel (hsame ▸ List.prefix_append output other)
  exact (hmem rel).2 ⟨hmatch, ⟨n, hbefore, hleaf⟩, hway⟩

/-- What has been copied is copied from a source that is still the same. -/
theorem copied_again {base : Path} {rel : List String}
    (hwrites : made.Writes (fun names => ∃ rel ∈ found, names = output ++ rel) after)
    (hapart : Apart folder output found) (hrel : rel ∈ found)
    (hcopied : Copied base target folder output made after rel) :
    Copied base target folder output after after rel := by
  obtain ⟨content, runnable, hget, hrest⟩ := hcopied
  refine ⟨content, runnable, hwrites.get?_eq hget rfl fun _ => ?_, hrest⟩
  rintro ⟨other, hother, heq⟩
  exact hapart rel hrel other hother heq

/-- Once the folder of artifacts has been listed, making it changes nothing. -/
theorem makeFolderPath_listed {files : List (String × Nat)} (hground : after.Grounded)
    (hfaults : after.faults = []) (h : listFiles after target = .ok files) :
    after.makeFolderPath target = (.ok (), after) := by
  refine makeFolderPath_again hground hfaults fun _ => ?_
  rw [listFiles] at h
  split at h
  · cases h
  · next es hlist => exact isFolder_of_list hlist

/-- If the folder of artifacts is not searched, a step that has collected artifacts collects the
same once more. -/
theorem artifacts_repeat (hpackage : ctx.settings.commands.package = none)
    (hclear : m.files.Clear ctx.settings.workingDir folder) {names : List String}
    (hnames : (⟨ctx.settings.artifacts.directory⟩ : Path).components = names.map .name)
    (hne : names ≠ []) {run : StepRun} {after : Machine σ}
    (hfirst : artifacts ctx m = (.ok run, after)) (hfaults : after.files.faults = []) :
    artifacts ctx after = (.ok run, after) := by
  obtain ⟨⟨output, hleads⟩, globs, found, files, hglobs, hfound, hcopy, hlist, rfl⟩ :=
    artifacts_unpackaged_ok hpackage hclear.proper hclear.grounded hfirst
  have hproject := prepared_clear hclear ctx
  generalize prepared ctx m = made at hleads hfound hcopy hproject
  have hpins : made.Pins (outputPath ctx) (folder ++ names) :=
    (hproject.leads.pins hproject.free).resolve hnames
  obtain rfl := hpins.unique hleads
  have hskipped := directory_mem_skippedFolders ctx.settings
  have hapart := apart_of_names hproject hfound hskipped hnames hne
  obtain ⟨hwrites, hcopied⟩ := copied_of_found hproject hpins hfound hapart hcopy
  -- the second walk
  have hproject' := hwrites.clear hproject
  obtain ⟨es', hes'⟩ : ∃ es', after.files.list ctx.settings.workingDir = .ok es' := by
    obtain ⟨⟨es, hes⟩, -⟩ := mem_matchingFiles hproject hfound
    have hpath := ((isFolder_iff hproject.grounded).1 (isFolder_of_list hes)).1
    exact exists_list ((isFolder_iff hproject'.grounded).2 ⟨hpath, folder, hproject'.leads⟩)
  obtain ⟨found', hfound', -, hmem'⟩ := @matchingFiles_clear _ globs _ _ _ hproject' hes'
  have hleads' := hwrites.leads hleads
  have houtside' := outside_of_skipped hproject' hfound' hskipped hnames hne hleads'
  have hagain := found_again hproject hwrites hfound hfound' houtside'
  have hapart' := apart_of_names hproject' hfound' hskipped hnames hne
  have hcopy' := copyAll_again ⟨hproject'.proper, hproject'.grounded, hleads',
    hproject'.free.below names⟩ hproject'.leads hfaults hapart' fun rel hrel =>
      ⟨((hmem' rel).1 hrel).source hproject',
        copied_again hwrites hapart (hagain rel hrel) (hcopied rel (hagain rel hrel))⟩
  have hmade := makeFolderPath_listed hproject'.grounded hfaults hlist
  exact artifacts_unpackaged_eq hpackage hmade hglobs hfound' hcopy' hlist

/-- If the folder of artifacts is named by names alone nothing is collected from it, nor from that
of reports if it is named so too. Collecting artifacts once more then changes and tells nothing
new. -/
theorem artifacts_not_collected {names : List String}
    (hnames : (⟨ctx.settings.artifacts.directory⟩ : Path).components = names.map .name)
    (hne : names ≠ []) :
    ((packaged ctx m).files.Clear ctx.settings.workingDir folder → ∀ globs found,
      matchingFiles ctx.settings globs (packaged ctx m).files = .ok found →
      ∀ rel ∈ found, ∀ output, (packaged ctx m).files.Leads (outputPath ctx) output ∨
        (packaged ctx m).files.Leads ctx.settings.reportsPath output ∧ (∃ others, others ≠ [] ∧
          ctx.settings.reportsDir.components = others.map .name) →
      ¬ output <+: folder ++ rel) ∧
    (ctx.settings.commands.package = none → m.files.Clear ctx.settings.workingDir folder →
      ∀ run, (artifacts ctx m).1 = .ok run → (artifacts ctx m).2.files.faults = [] →
      artifacts ctx (artifacts ctx m).2 = (.ok run, (artifacts ctx m).2)) := by
  refine ⟨fun hproject globs found hfound rel hrel output hleads => ?_,
    fun hpackage hclear run hrun hfaults =>
      artifacts_repeat hpackage hclear hnames hne (Prod.ext hrun rfl) hfaults⟩
  obtain hleads | ⟨hleads, others, hothers, hreports⟩ := hleads
  · exact outside_of_skipped hproject hfound (directory_mem_skippedFolders ctx.settings) hnames hne
      hleads rel hrel
  · have hrelative := (Path.trail_of_names hreports).1
    exact outside_of_skipped hproject hfound (reportsDir_mem_skippedFolders hrelative) hreports
      hothers hleads rel hrel

end Again

/-! ### Names alone, and a dot before them -/

def projectFiles : List (String × Node) :=
  [("package.json", .file ⟨#[123, 125]⟩), ("index.js", .file ⟨#[59]⟩)]

def collectedOnce : Machine Unit :=
  ⟨⟨.folder (projectFiles ++ [("artifacts", .folder projectFiles)]), [], []⟩, (), .still .epoch⟩

def everythingSettings (directory : String) : Settings where
  artifacts := { directory := directory, patterns := ["**"] }

def everythingContext (directory : String) : StepContext Unit :=
  ⟨everythingSettings directory, fun _ _ files state => (.ok {}, files, state), .standard⟩

theorem clear_collectedOnce : collectedOnce.files.Clear ⟨"."⟩ [] := by
  have hinner : (Node.folder projectFiles).Tidy := .folder (by decide) (by decide)
    (List.forall_mem_cons.2 ⟨.file _ _, List.forall_mem_singleton.2 (.file _ _)⟩)
  have htidy : collectedOnce.files.root.Tidy := .folder (by decide) (by decide)
    (List.forall_mem_cons.2
      ⟨.file _ _, List.forall_mem_cons.2 ⟨.file _ _, List.forall_mem_singleton.2 hinner⟩⟩)
  exact ⟨htidy.proper, ⟨_, rfl⟩, ⟨maxLinks, .skip (.inl rfl) (.nil _ _)⟩, htidy.linkFree []⟩

theorem leads_collectedOnce (text : String) (h : (⟨text⟩ : Path).isAbsolute = false)
    (htrail : (⟨text⟩ : Path).trail = ["artifacts"]) :
    collectedOnce.files.Leads ⟨text⟩ ["artifacts"] := by
  refine ⟨maxLinks, walk_trail_iff.1 ?_⟩
  rw [htrail, start, h]
  exact .down (by decide) ⟨_, rfl⟩ (.nil _ _)

section Collected

theorem leads_outputPath : collectedOnce.files.Leads (outputPath (everythingContext "artifacts"))
    ["artifacts"] := leads_collectedOnce "./artifacts" (by decide) (by decide)

theorem list_outputPath :
    collectedOnce.files.list (outputPath (everythingContext "artifacts")) = .ok projectFiles :=
  list_eq_ok.2 (stat_of_leads (by decide) leads_outputPath rfl)

theorem makeFolderPath_outputPath :
    collectedOnce.files.makeFolderPath (outputPath (everythingContext "artifacts")) =
      (.ok (), collectedOnce.files) :=
  makeFolderPath_again clear_collectedOnce.grounded rfl fun _ => isFolder_of_list list_outputPath

theorem prepared_collectedOnce :
    prepared (everythingContext "artifacts") collectedOnce = collectedOnce.files := by
  rw [prepared, makeFolderPath_outputPath]

theorem packaged_collectedOnce :
    packaged (everythingContext "artifacts") collectedOnce = collectedOnce := by
  rw [packaged_of_none rfl, prepared_collectedOnce]

theorem matchingFiles_collectedOnce :
    matchingFiles (everythingSettings "artifacts") [[.recursiveStart]] collectedOnce.files =
      .ok [["package.json"], ["index.js"]] := by
  have hlist : collectedOnce.files.list (everythingSettings "artifacts").workingDir =
      .ok (projectFiles ++ [("artifacts", .folder projectFiles)]) :=
    list_eq_ok.2 (stat_of_leads (by decide) clear_collectedOnce.leads rfl)
  have hmatch (rel : List String) : matchesSome [[.recursiveStart]] rel = true := rfl
  have hskip : (Search.inFolder collectedOnce.files (everythingSettings "artifacts").workingDir
      (matchesSome [[.recursiveStart]]) (skippedFolders (everythingSettings "artifacts"))).skips
        ["artifacts"] = true := by
    decide
  rw [matchingFiles, collectMatches, hlist]
  simp only [projectFiles, List.cons_append, List.nil_append, Search.collectEntries,
    Search.collect, hskip]
  simp [Search.inFolder, hmatch]

theorem apart_collectedOnce : Apart [] ["artifacts"] [["package.json"], ["index.js"]] := by
  unfold Apart
  decide

theorem artifacts_collectedOnce : ∃ files, artifacts (everythingContext "artifacts") collectedOnce =
    (.ok (listed (everythingSettings "artifacts") files), collectedOnce) := by
  have hsources : ∀ rel ∈ [["package.json"], ["index.js"]],
      IsSource collectedOnce.files [] rel ∧
        Copied ⟨"."⟩ (outputPath (everythingContext "artifacts")) [] ["artifacts"]
          collectedOnce.files collectedOnce.files rel := by
    refine List.forall_mem_cons.2 ⟨⟨⟨by decide, by decide, _, rfl, rfl⟩,
      ⟨#[123, 125]⟩, false, rfl, by decide, by decide, .inl rfl⟩, List.forall_mem_singleton.2
        ⟨⟨by decide, by decide, _, rfl, rfl⟩,
          ⟨#[59]⟩, false, rfl, by decide, by decide, .inl rfl⟩⟩
  have hcopy := copyAll_again ⟨clear_collectedOnce.proper, clear_collectedOnce.grounded,
    leads_outputPath, clear_collectedOnce.free.below ["artifacts"]⟩ clear_collectedOnce.leads rfl
      apart_collectedOnce hsources
  obtain ⟨files, hfiles⟩ : ∃ files, listFiles collectedOnce.files
      (outputPath (everythingContext "artifacts")) = .ok files := by
    have hfolders : foldersAmong [] projectFiles = [] := rfl
    rw [listFiles, list_outputPath]
    dsimp only
    rw [hfolders, listPending_nil]
    exact ⟨_, rfl⟩
  exact ⟨files, artifacts_unpackaged_eq rfl makeFolderPath_outputPath rfl
    matchingFiles_collectedOnce hcopy hfiles⟩

end Collected

theorem package_collected_once :
    (⟨"artifacts"⟩ : Path).components = ["artifacts"].map .name ∧ ["artifacts"] ≠ [] ∧
      (packaged (everythingContext "artifacts") collectedOnce).files.Clear
        (everythingContext "artifacts").settings.workingDir [] ∧
      (∀ globs found, matchingFiles (everythingSettings "artifacts") globs
        (packaged (everythingContext "artifacts") collectedOnce).files = .ok found →
          ["artifacts", "package.json"] ∉ found) ∧
      ∃ run, (artifacts (everythingContext "artifacts") collectedOnce).1 = .ok run ∧
        artifacts (everythingContext "artifacts")
          (artifacts (everythingContext "artifacts") collectedOnce).2 =
            (.ok run, (artifacts (everythingContext "artifacts") collectedOnce).2) := by
  have hnames : (⟨"artifacts"⟩ : Path).components = ["artifacts"].map .name := by decide
  have hproject : (packaged (everythingContext "artifacts") collectedOnce).files.Clear
      (everythingContext "artifacts").settings.workingDir [] := by
    rw [packaged_collectedOnce]
    exact clear_collectedOnce
  obtain ⟨houtside, hagain⟩ := @artifacts_not_collected Unit (everythingContext "artifacts")
    collectedOnce [] ["artifacts"] hnames (by decide)
  refine ⟨hnames, by decide, hproject, fun globs found hfound hmem => ?_, ?_⟩
  · have hleads := leads_outputPath
    rw [← congrArg Machine.files packaged_collectedOnce] at hleads
    exact houtside hproject globs found hfound _ hmem ["artifacts"] (.inl hleads) (by decide)
  · obtain ⟨files, hrun⟩ := artifacts_collectedOnce
    exact ⟨_, congrArg Prod.fst hrun, hagain rfl clear_collectedOnce _ (congrArg Prod.fst hrun)
      (by rw [hrun]; rfl)⟩

/-- With a dot before the name the copy is found, and a copy of it will be made. -/
theorem package_collected_twice : ∃ globs found,
    (everythingSettings "./artifacts").validate = .ok () ∧
      collectedOnce.files.Clear (everythingSettings "./artifacts").workingDir [] ∧
      readPatterns (everythingSettings "./artifacts").artifacts.patterns = .ok globs ∧
      matchingFiles (everythingSettings "./artifacts") globs collectedOnce.files = .ok found ∧
      ["artifacts", "package.json"] ∈ found ∧
      collectedOnce.files.Leads (outputPath (everythingContext "./artifacts")) ["artifacts"] := by
  have hlist : collectedOnce.files.list ⟨"."⟩ = .ok _ :=
    list_eq_ok.2 (stat_of_leads (by decide) clear_collectedOnce.leads rfl)
  obtain ⟨found, hfound, -, hmem⟩ := @matchingFiles_clear (everythingSettings "./artifacts")
    [[.recursiveStart]] _ _ _ clear_collectedOnce hlist
  refine ⟨[[.recursiveStart]], found, rfl, clear_collectedOnce, rfl, hfound,
    (hmem _).2 ⟨rfl, ⟨_, rfl, rfl⟩, ?_⟩,
    leads_collectedOnce "././artifacts" (by decide) (by decide)⟩
  intro front hfront hne hnil
  obtain rfl | rfl | rfl := by
    simpa using (List.mem_inits front ["artifacts", "package.json"]).2 hfront
  · exact absurd rfl hnil
  · decide
  · exact absurd rfl hne

end BuildPipeline.Step

import BuildPipeline.Proofs.ArtifactRepetition

/-! Collecting artifacts and the files that there were before. Nothing is written but copies, so a
file is safe unless one is made over it: a file that is copied to its own place is emptied. -/
namespace BuildPipeline.Step

open FileSystem Node

section Sources
variable {σ : Type} {ctx : StepContext σ} {m : Machine σ} {folder output : List String}

def IsCopyPlace (ctx : StepContext σ) (m : Machine σ) (names : List String) : Prop :=
  ∃ output globs found, (prepared ctx m).Leads (outputPath ctx) output ∧
    readPatterns ctx.settings.artifacts.patterns = .ok globs ∧
    matchingFiles ctx.settings globs (prepared ctx m) = .ok found ∧
    ∃ rel ∈ found, names = output ++ rel

theorem artifacts_writes (hpackage : ctx.settings.commands.package = none)
    (hclear : m.files.Clear ctx.settings.workingDir folder)
    (hfree : ∀ output, (prepared ctx m).Leads (outputPath ctx) output →
      (prepared ctx m).root.LinkFree output) :
    m.files.Writes (IsCopyPlace ctx m) (artifacts ctx m).2.files := by
  have hprepared : m.files.Writes (IsCopyPlace ctx m) (prepared ctx m) :=
    prepared_writes hclear.proper hclear.grounded ctx
  have hproject := prepared_clear hclear ctx
  rw [artifacts_unpackaged hpackage]
  cases hmade : (m.files.makeFolderPath (outputPath ctx)).1 with
  | error e => exact hprepared
  | ok u =>
    refine hprepared.trans ?_
    obtain ⟨-, output, hleads⟩ :=
      leads_of_makeFolderPath hclear.proper hclear.grounded (Prod.ext hmade rfl)
    have hpins := hleads.pins (hfree output hleads)
    obtain hsame | ⟨globs, found, hglobs, hfound, hfiles⟩ := files_collectArtifacts ctx.settings
      (outputPath ctx) { m with files := prepared ctx m }
    · simp only [hsame]
      exact writes_of_eq hproject.proper rfl rfl
    · simp only [hfiles]
      exact (writes_of_found hproject hpins hfound).mono fun names hnames =>
        ⟨output, globs, found, hleads, hglobs, hfound, hnames⟩

/-- Whatever comes of a step, files outside the folder of artifacts are as they were. If no copy is
made over a file that is found, so are the files that are found, and a step that succeeds has made
the same files of them among the artifacts. -/
theorem artifacts_spare_sources (hpackage : ctx.settings.commands.package = none)
    (hclear : m.files.Clear ctx.settings.workingDir folder)
    (hfree : ∀ output, (prepared ctx m).Leads (outputPath ctx) output →
      (prepared ctx m).root.LinkFree output) :
    (∀ place content runnable, m.files.root.get? place = some (.file content runnable) →
      (∀ output, (prepared ctx m).Leads (outputPath ctx) output → ¬ output <+: place) →
      (artifacts ctx m).2.files.root.get? place = some (.file content runnable)) ∧
    ∀ output globs found, (prepared ctx m).Leads (outputPath ctx) output →
      readPatterns ctx.settings.artifacts.patterns = .ok globs →
      matchingFiles ctx.settings globs (prepared ctx m) = .ok found →
      Apart folder output found →
      (∀ rel ∈ found, ∀ content runnable,
        m.files.root.get? (folder ++ rel) = some (.file content runnable) →
        (artifacts ctx m).2.files.root.get? (folder ++ rel) = some (.file content runnable)) ∧
      ∀ run, (artifacts ctx m).1 = .ok run → ∀ rel ∈ found, ∃ content runnable,
        m.files.root.get? (folder ++ rel) = some (.file content runnable) ∧
        ((artifacts ctx m).2.files.root.get? (output ++ rel) = some (.file content runnable) ∨
          ∃ d, m.files.root.get? (output ++ rel) = some (.device d)) := by
  have hwrites := artifacts_writes hpackage hclear hfree
  refine ⟨fun place content runnable hget houtside => hwrites.get?_eq hget rfl fun _ hplace => ?_,
    fun output globs found hleads hglobs hfound hapart => ⟨fun rel hrel content runnable hget =>
      hwrites.get?_eq hget rfl fun _ hplace => ?_, fun run hrun rel hrel => ?_⟩⟩
  · obtain ⟨output, -, -, hleads, -, -, rel, -, rfl⟩ := hplace
    exact houtside output hleads (List.prefix_append output rel)
  · obtain ⟨output', globs', found', hleads', hglobs', hfound', other, hother, heq⟩ := hplace
    obtain rfl := hleads.unique hleads'
    obtain rfl := Except.ok.inj (hglobs.symm.trans hglobs')
    obtain rfl := Except.ok.inj (hfound.symm.trans hfound')
    exact hapart rel hrel other hother heq
  · obtain ⟨-, globs', found', files, hglobs', hfound', hcopy, -⟩ :=
      artifacts_unpackaged_ok hpackage hclear.proper hclear.grounded (Prod.ext hrun rfl)
    obtain rfl := Except.ok.inj (hglobs.symm.trans hglobs')
    obtain rfl := Except.ok.inj (hfound.symm.trans hfound')
    have hproject := prepared_clear hclear ctx
    have hprepared : m.files.Writes (fun _ => False) (prepared ctx m) :=
      prepared_writes hclear.proper hclear.grounded ctx
    obtain ⟨-, hcopied⟩ :=
      copied_of_found hproject (hleads.pins (hfree output hleads)) hfound hapart hcopy
    obtain ⟨content, runnable, hget, -, -, hholds⟩ := hcopied rel hrel
    refine ⟨content, runnable, hprepared.get?_of_after hget rfl fun _ => id, ?_⟩
    obtain hfile | ⟨d, hdevice, -⟩ := hholds
    · exact .inl hfile
    · exact .inr ⟨d, hwrites.get?_of_after hdevice rfl nofun⟩

end Sources

/-! ### A project with its artifacts in a folder, and in itself -/

theorem package_spared : ∃ run,
    (everythingContext "artifacts").settings.commands.package = none ∧
      collectedOnce.files.Clear (everythingContext "artifacts").settings.workingDir [] ∧
      (∀ output, (prepared (everythingContext "artifacts") collectedOnce).Leads
          (outputPath (everythingContext "artifacts")) output →
        (prepared (everythingContext "artifacts") collectedOnce).root.LinkFree output) ∧
      Apart [] ["artifacts"] [["package.json"], ["index.js"]] ∧
      (artifacts (everythingContext "artifacts") collectedOnce).1 = .ok run ∧
      (artifacts (everythingContext "artifacts") collectedOnce).2.files.root.get? ["index.js"] =
        some (.file ⟨#[59]⟩) ∧
      (artifacts (everythingContext "artifacts") collectedOnce).2.files.root.get?
        ["package.json"] = some (.file ⟨#[123, 125]⟩) ∧
      (artifacts (everythingContext "artifacts") collectedOnce).2.files.root.get?
        ["artifacts", "package.json"] = some (.file ⟨#[123, 125]⟩) := by
  have hfree (output : List String) :
      (prepared (everythingContext "artifacts") collectedOnce).root.LinkFree output :=
    (prepared_clear clear_collectedOnce (everythingContext "artifacts")).free.below output
  have hleads (output : List String)
      (h : (prepared (everythingContext "artifacts") collectedOnce).Leads
        (outputPath (everythingContext "artifacts")) output) : output = ["artifacts"] := by
    rw [prepared_collectedOnce] at h
    exact h.unique leads_outputPath
  obtain ⟨files, hrun⟩ := artifacts_collectedOnce
  obtain ⟨houtside, hinside⟩ := @artifacts_spare_sources Unit (everythingContext "artifacts")
    collectedOnce [] rfl clear_collectedOnce fun output _ => hfree output
  obtain ⟨hsources, hcopies⟩ := hinside ["artifacts"] [[.recursiveStart]]
    [["package.json"], ["index.js"]] (by rw [prepared_collectedOnce]; exact leads_outputPath) rfl
    (by rw [prepared_collectedOnce]; exact matchingFiles_collectedOnce) apart_collectedOnce
  refine ⟨_, rfl, clear_collectedOnce, fun output _ => hfree output, apart_collectedOnce,
    congrArg Prod.fst hrun, houtside ["index.js"] _ _ rfl fun output h => ?_,
    hsources ["package.json"] (by decide) _ _ rfl, ?_⟩
  · rw [hleads output h]
    decide
  · obtain ⟨content, runnable, hsource, hcopy | ⟨d, hdevice⟩⟩ :=
      hcopies _ (congrArg Prod.fst hrun) ["package.json"] (by decide)
    · cases hsource
      exact hcopy
    · cases hdevice

def packageOnly : Machine Unit :=
  ⟨⟨.folder [("package.json", .file ⟨#[123, 125]⟩)], [], []⟩, (), .still .epoch⟩

theorem clear_packageOnly : packageOnly.files.Clear ⟨"."⟩ [] := by
  have htidy : packageOnly.files.root.Tidy := .folder (by decide) (by decide)
    (List.forall_mem_singleton.2 (.file _ _))
  exact ⟨htidy.proper, ⟨_, rfl⟩, ⟨maxLinks, .skip (.inl rfl) (.nil _ _)⟩, htidy.linkFree []⟩

/-- In the project itself its only file is found, and no longer holds what it held. -/
theorem package_emptied :
    (everythingSettings ".").validate = .ok () ∧
      packageOnly.files.Clear (everythingSettings ".").workingDir [] ∧
      matchingFiles (everythingSettings ".") [[.recursiveStart]] packageOnly.files =
        .ok [["package.json"]] ∧
      packageOnly.files.root.get? ["package.json"] = some (.file ⟨#[123, 125]⟩) ∧
      (artifacts (everythingContext ".") packageOnly).2.files.root.get? ["package.json"] =
        some (.file .empty) := by
  have hfound : matchingFiles (everythingSettings ".") [[.recursiveStart]] packageOnly.files =
      .ok [["package.json"]] := by
    have hlist : packageOnly.files.list (everythingSettings ".").workingDir =
        .ok [("package.json", .file ⟨#[123, 125]⟩)] :=
      list_eq_ok.2 (stat_of_leads (by decide) clear_packageOnly.leads rfl)
    have hmatch : matchesSome [[.recursiveStart]] ["package.json"] = true := rfl
    simp [matchingFiles, collectMatches, hlist, Search.collectEntries, Search.collect,
      Search.inFolder, hmatch]
  have htrail : (outputPath (everythingContext ".")).trail = [] := by decide
  have hwalk : Walk packageOnly.files.root maxLinks
      (packageOnly.files.start (outputPath (everythingContext ".")))
      (outputPath (everythingContext ".")).segments maxLinks [] := by
    rw [← walk_trail_iff, htrail]
    exact .nil _ _
  have houtput : packageOnly.files.Clear (outputPath (everythingContext ".")) [] :=
    ⟨clear_packageOnly.proper, clear_packageOnly.grounded, ⟨maxLinks, hwalk⟩,
      clear_packageOnly.free⟩
  have hmade : packageOnly.files.makeFolderPath (outputPath (everythingContext ".")) =
      (.ok (), packageOnly.files) := by
    refine makeFolderPath_again clear_packageOnly.grounded rfl fun _ => ?_
    exact (isFolder_iff clear_packageOnly.grounded).2 ⟨by decide, [], houtput.leads⟩
  have hsource : IsSource packageOnly.files [] ["package.json"] :=
    ⟨by decide, by decide, _, rfl, rfl⟩
  have hcopy := copyInto_itself houtput clear_packageOnly.leads rfl hsource rfl (by decide)
    (by decide)
  refine ⟨rfl, clear_packageOnly, hfound, rfl, ?_⟩
  have hfiles := files_of_found rfl hfound (outputPath (everythingContext "."))
  have hworking : (everythingSettings ".").workingDir = ⟨"."⟩ := rfl
  rw [copyAll_cons, hworking, hcopy] at hfiles
  rw [artifacts_unpackaged rfl, prepared, hmade]
  exact congrArg (fun fs => fs.root.get? ["package.json"]) hfiles

end BuildPipeline.Step

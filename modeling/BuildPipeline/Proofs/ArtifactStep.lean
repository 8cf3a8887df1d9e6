import BuildPipeline.Proofs.ArtifactCopies
import BuildPipeline.Proofs.ArtifactSearch

/-! The artifact step of a project without links: what it finds there, and what a step that succeeds
has done. -/
namespace BuildPipeline.Step

open FileSystem Node

section Walk
variable {settings : Settings} {globs : List (List Glob.Token)} {fs after : FileSystem}
  {folder rel front : List String} {found : List (List String)}

def artifactSearch (settings : Settings) (globs : List (List Glob.Token)) (fs : FileSystem) :
    Search :=
  .inFolder fs settings.workingDir (matchesSome globs) (skippedFolders settings)

/-- The walk through a project without links finds what matches and is no folder, unless a folder
that it lies in is skipped or has too long a path. -/
def Found (settings : Settings) (globs : List (List Glob.Token)) (fs : FileSystem)
    (folder rel : List String) : Prop :=
  matchesSome globs rel = true ∧ (∃ m, fs.root.get? (folder ++ rel) = some m ∧ m.IsLeaf = true) ∧
    ∀ front, front <+: rel → front ≠ rel → front ≠ [] →
      (artifactSearch settings globs fs).skips front = false ∧
        IsPath (settings.workingDir.join (.ofNames front))

theorem opens_iff (h : fs.Clear settings.workingDir folder)
    (hfolder : fs.root.IsFolderAt (folder ++ front)) :
    (artifactSearch settings globs fs).opens front = true ↔
      IsPath (settings.workingDir.join (.ofNames front)) := by
  have hnames : ∀ s ∈ front, IsFileName s := by
    obtain ⟨es, hes⟩ := hfolder
    exact fun s hs => (hereditary_proper.get? h.proper hes).2 s (List.mem_append_right folder hs)
  rw [artifactSearch, Search.inFolder]
  simp only [isOk_list]
  rw [isFolder_iff h.grounded]
  exact ⟨And.left, fun hpath => ⟨hpath, _, h.leads.join hnames hfolder⟩⟩

/-- If the project can be listed the walk succeeds, as no link can be broken. -/
theorem matchingFiles_clear {es : List (String × Node)} (h : fs.Clear settings.workingDir folder)
    (hlist : fs.list settings.workingDir = .ok es) :
    ∃ found, matchingFiles settings globs fs = .ok found ∧ found.Nodup ∧
      ∀ rel, rel ∈ found ↔ Found settings globs fs folder rel := by
  have hes := get?_of_list_of_leads h.leads hlist
  have hbelow (rel : List String) : fs.root.get? (folder ++ rel) = (Node.folder es).get? rel := by
    rw [get?_append, hes, Option.bind_some]
  rw [matchingFiles]
  cases hfound : collectMatches fs settings.workingDir (matchesSome globs)
      (skippedFolders settings) with
  | error e =>
    -- only a broken link makes the walk fail
    obtain ⟨rel, target, -, ⟨hget, -⟩, -⟩ := (collectMatches_error h.proper hlist).1 ⟨e, hfound⟩
    exact absurd ((hbelow rel).trans hget) (h.free rel target)
  | ok found =>
    obtain ⟨hnodup, hmem⟩ := mem_collectMatches h.proper hlist hfound
    refine ⟨found, rfl, hnodup, fun rel => (hmem rel).trans ?_⟩
    have henters {front : List String} {m : Node} (hget : (Node.folder es).get? rel = some m)
        (hfront : front <+: rel) (hne : front ≠ rel) (hnil : front ≠ []) :
        (artifactSearch settings globs fs).enters front = true ↔
          (artifactSearch settings globs fs).skips front = false ∧
            IsPath (settings.workingDir.join (.ofNames front)) := by
      obtain ⟨rest, rfl⟩ := hfront
      have hrest : rest ≠ [] := by simpa using hne
      have hfolder : fs.root.IsFolderAt (folder ++ front) := by
        rw [← hbelow, ← List.append_assoc] at hget
        exact isFolderAt_of_get? hget hrest
      rw [Search.enters, List.isEmpty_eq_false_iff.2 hnil, Bool.false_or, Bool.and_eq_true,
        Bool.not_eq_true', opens_iff h hfolder]
    constructor
    · rintro ⟨m, ⟨hget, hway⟩, hmatch, hcounts⟩
      refine ⟨hmatch, ⟨m, (hbelow rel).trans hget, ?_⟩, fun front hfront hne hnil =>
        (henters hget hfront hne hnil).1 (hway front hfront hne)⟩
      obtain hleaf | ⟨target, -, rfl, -⟩ := hcounts
      · exact hleaf
      · exact absurd ((hbelow rel).trans hget) (h.free rel target)
    · rintro ⟨hmatch, ⟨m, hget, hleaf⟩, hway⟩
      rw [hbelow] at hget
      refine ⟨m, ⟨hget, fun front hfront hne => ?_⟩, hmatch, .inl hleaf⟩
      by_cases hnil : front = []
      · rw [hnil]
        rfl
      · exact (henters hget hfront hne hnil).2 (hway front hfront hne hnil)

theorem mem_matchingFiles (h : fs.Clear settings.workingDir folder)
    (hfound : matchingFiles settings globs fs = .ok found) :
    (∃ es, fs.list settings.workingDir = .ok es) ∧ found.Nodup ∧
      ∀ rel, rel ∈ found ↔ Found settings globs fs folder rel := by
  cases hlist : fs.list settings.workingDir with
  | error e => simp [matchingFiles, collectMatches, hlist] at hfound
  | ok es =>
    obtain ⟨found', hfound', hmem⟩ := @matchingFiles_clear settings globs fs folder es h hlist
    rw [hfound, Except.ok.injEq] at hfound'
    exact ⟨⟨es, rfl⟩, hfound' ▸ hmem⟩

/-- What the walk finds is no folder, so it is not the project itself. -/
theorem Found.named (hclear : fs.Clear settings.workingDir folder)
    (h : Found settings globs fs folder rel) : rel ≠ [] ∧ ∀ s ∈ rel, IsFileName s := by
  obtain ⟨-, ⟨m, hget, hleaf⟩, -⟩ := h
  refine ⟨?_, fun s hs => ?_⟩
  · rintro rfl
    rw [List.append_nil] at hget
    exact not_isFolderAt_of_get? hget (isFolder_of_isLeaf hleaf) hclear.isFolderAt
  · exact (hereditary_proper.get? hclear.proper hget).2 s (List.mem_append_right folder hs)

theorem Found.source (hclear : fs.Clear settings.workingDir folder)
    (h : Found settings globs fs folder rel) : IsSource fs folder rel :=
  ⟨(h.named hclear).1, (h.named hclear).2, h.2.1⟩

/-- The walk does not enter a skipped folder whose path is written with names alone. -/
theorem Found.outside {p : Path} {names : List String}
    (hfolder : fs.root.IsFolderAt (folder ++ names))
    (h : Found settings globs fs folder rel) (hp : p ∈ skippedFolders settings)
    (hnames : p.components = names.map .name) (hne : names ≠ []) :
    ¬ folder ++ names <+: folder ++ rel := by
  obtain ⟨-, ⟨m, hget, hleaf⟩, hway⟩ := h
  rw [List.prefix_append_right_inj]
  intro hprefix
  have hother : names ≠ rel := by
    rintro rfl
    exact not_isFolderAt_of_get? hget (isFolder_of_isLeaf hleaf) hfolder
  obtain ⟨hskips, -⟩ := hway names hprefix hother hne
  rw [Search.skips, Bool.or_eq_false_iff] at hskips
  have hany := hskips.1
  rw [List.any_eq_false] at hany
  exact hany p hp (by simp [hnames])

theorem apart_of_names {p : Path} {names : List String}
    (hclear : fs.Clear settings.workingDir folder)
    (hfound : matchingFiles settings globs fs = .ok found) (hp : p ∈ skippedFolders settings)
    (hnames : p.components = names.map .name) (hne : names ≠ []) :
    Apart folder (folder ++ names) found := by
  obtain ⟨-, -, hmem⟩ := mem_matchingFiles hclear hfound
  intro rel hrel other hother heq
  have hrel' := (hmem rel).1 hrel
  obtain ⟨m, hget, -⟩ := hrel'.2.1
  rw [heq] at hget
  have hfolder := isFolderAt_of_get? hget (((hmem other).1 hother).named hclear).1
  exact hrel'.outside hfolder hp hnames hne (heq ▸ List.prefix_append _ other)

/-! ### Copies of what was found -/

variable {after : FileSystem} {target : Path} {place : List String}

theorem writes_of_found (hclear : fs.Clear settings.workingDir folder)
    (hpins : fs.Pins target place) (hfound : matchingFiles settings globs fs = .ok found) :
    fs.Writes (fun names => ∃ rel ∈ found, names = place ++ rel)
      (copyAll settings.workingDir target found fs).2 := by
  obtain ⟨-, -, hmem⟩ := mem_matchingFiles hclear hfound
  exact copyAll_writes ⟨hclear.proper, hclear.grounded, hpins⟩
    (fun rel hrel => ((hmem rel).1 hrel).named hclear) settings.workingDir

theorem copied_of_found (hclear : fs.Clear settings.workingDir folder)
    (hpins : fs.Pins target place) (hfound : matchingFiles settings globs fs = .ok found)
    (hapart : Apart folder place found)
    (hcopy : copyAll settings.workingDir target found fs = (.ok (), after)) :
    fs.Writes (fun names => ∃ rel ∈ found, names = place ++ rel) after ∧
      ∀ rel ∈ found, Copied settings.workingDir target folder place fs after rel := by
  have hwrites := writes_of_found hclear hpins hfound
  rw [hcopy] at hwrites
  obtain ⟨-, -, hmem⟩ := mem_matchingFiles hclear hfound
  exact ⟨hwrites, copyAll_ok ⟨hclear.proper, hclear.grounded, hpins⟩ hclear.leads
    (fun rel hrel => ((hmem rel).1 hrel).source hclear) hapart hcopy⟩

end Walk

/-! ### The step -/

section Action
variable {σ : Type} {settings : Settings} {target : Path} {m : Machine σ}

theorem Action.bind_ok {α β : Type} {a : Action σ α} {g : α → Action σ β} {r : β}
    {after : Machine σ} (h : (a >>= g) m = (.ok r, after)) :
    ∃ x between, a m = (.ok x, between) ∧ g x between = (.ok r, after) := by
  rw [Action.bind_apply] at h
  cases hfirst : a m with
  | mk result between =>
    rw [hfirst] at h
    cases result with
    | ok x => exact ⟨x, between, rfl, h⟩
    | error e => cases h

def listed (settings : Settings) (files : List (String × Nat)) : StepRun :=
  .passed (.artifacts ⟨settings.artifacts.directory, files.map (·.1),
    Count.sum (files.map fun f => Count.saturate f.2)⟩)

theorem collectArtifacts_eq (settings : Settings) (target : Path) (m : Machine σ) :
    collectArtifacts settings target m =
      match readPatterns settings.artifacts.patterns with
      | .error e => (.error e, m)
      | .ok globs => match matchingFiles settings globs m.files with
        | .error e => (.error e, m)
        | .ok found => match copyAll settings.workingDir target found m.files with
          | (.error e, copied) => (.error (.io e), { m with files := copied })
          | (.ok (), copied) => match listFiles copied target with
            | .error e => (.error (.io e), { m with files := copied })
            | .ok files => (.ok (listed settings files), { m with files := copied }) := by
  simp only [collectArtifacts, Action.bind_apply, Action.read, Action.files]
  cases readPatterns settings.artifacts.patterns with
  | error e => rfl
  | ok globs =>
    simp only
    cases matchingFiles settings globs m.files with
    | error e => rfl
    | ok found =>
      simp only
      cases copyAll settings.workingDir target found m.files with
      | mk result copied =>
        cases result with
        | error e => rfl
        | ok u =>
          simp only
          cases listFiles copied target <;> rfl

/-- A step that collects files has gone all the way. -/
theorem collectArtifacts_ok {run : StepRun} {after : Machine σ}
    (h : collectArtifacts settings target m = (.ok run, after)) :
    ∃ globs found files, readPatterns settings.artifacts.patterns = .ok globs ∧
      matchingFiles settings globs m.files = .ok found ∧
      copyAll settings.workingDir target found m.files = (.ok (), after.files) ∧
      listFiles after.files target = .ok files ∧ after = { m with files := after.files } ∧
      run = listed settings files := by
  rw [collectArtifacts_eq] at h
  split at h
  · cases h
  · next globs hglobs =>
    split at h
    · cases h
    · next found hfound =>
      split at h
      · cases h
      · next copied hcopied =>
        split at h
        · cases h
        · next files hfiles =>
          cases h
          exact ⟨globs, found, files, hglobs, hfound, hcopied, hfiles, rfl, rfl⟩

theorem files_of_found {globs : List (List Glob.Token)} {found : List (List String)}
    (hglobs : readPatterns settings.artifacts.patterns = .ok globs)
    (hfound : matchingFiles settings globs m.files = .ok found) (target : Path) :
    (collectArtifacts settings target m).2.files =
      (copyAll settings.workingDir target found m.files).2 := by
  rw [collectArtifacts_eq]
  simp only [hglobs, hfound]
  cases hcopy : copyAll settings.workingDir target found m.files with
  | mk result copied =>
    cases result with
    | error e => rfl
    | ok u =>
      simp only
      split <;> rfl

/-- Whatever comes of it, collecting files either leaves them alone or copies what was found. -/
theorem files_collectArtifacts (settings : Settings) (target : Path) (m : Machine σ) :
    (collectArtifacts settings target m).2.files = m.files ∨
      ∃ globs found, readPatterns settings.artifacts.patterns = .ok globs ∧
        matchingFiles settings globs m.files = .ok found ∧
        (collectArtifacts settings target m).2.files =
          (copyAll settings.workingDir target found m.files).2 := by
  cases hglobs : readPatterns settings.artifacts.patterns with
  | error e =>
    rw [collectArtifacts_eq, hglobs]
    exact .inl rfl
  | ok globs =>
    cases hfound : matchingFiles settings globs m.files with
    | error e =>
      rw [collectArtifacts_eq, hglobs]
      simp only [hfound, true_or]
    | ok found => exact .inr ⟨globs, found, rfl, hfound, files_of_found hglobs hfound target⟩

def outputPath (ctx : StepContext σ) : Path := ctx.path ctx.settings.artifacts.directory

/-- The files once that folder has been made, as far as it could be. -/
def prepared (ctx : StepContext σ) (m : Machine σ) : FileSystem :=
  (m.files.makeFolderPath (outputPath ctx)).2

/-- The machine when the project has been packaged, if there is a command for that. -/
def packaged (ctx : StepContext σ) (m : Machine σ) : Machine σ :=
  let made : Machine σ := { m with files := prepared ctx m }
  match ctx.settings.commands.package with
  | none => made
  | some command => (ctx.command .artifacts command made).2

variable {ctx : StepContext σ}

theorem packaged_of_none (h : ctx.settings.commands.package = none) (m : Machine σ) :
    packaged ctx m = { m with files := prepared ctx m } := by
  simp only [packaged, h]

theorem prepared_writes {written : List String → Prop} (hproper : m.files.root.Proper)
    (hground : m.files.Grounded) (ctx : StepContext σ) :
    m.files.Writes written (prepared ctx m) :=
  makeFolderPath_writes hproper hground _

theorem prepared_clear {p : Path} {folder : List String} (h : m.files.Clear p folder)
    (ctx : StepContext σ) : (prepared ctx m).Clear p folder := by
  have hwrites : m.files.Writes (fun _ => False) (prepared ctx m) :=
    prepared_writes h.proper h.grounded ctx
  exact hwrites.clear h

/-- Without a command that packages the project its artifacts are collected at once. -/
theorem artifacts_unpackaged (hpackage : ctx.settings.commands.package = none) (m : Machine σ) :
    artifacts ctx m =
      match (m.files.makeFolderPath (outputPath ctx)).1 with
      | .error e => (.error (.io e), { m with files := prepared ctx m })
      | .ok () => collectArtifacts ctx.settings (outputPath ctx)
          { m with files := prepared ctx m } := by
  rw [artifacts, Action.bind_apply, hpackage, prepared, outputPath]
  simp only [Action.files]
  cases m.files.makeFolderPath (ctx.path ctx.settings.artifacts.directory) with
  | mk result made => cases result <;> rfl

theorem artifacts_unpackaged_eq {made copied : FileSystem} {globs : List (List Glob.Token)}
    {found : List (List String)} {files : List (String × Nat)}
    (hpackage : ctx.settings.commands.package = none)
    (hmade : m.files.makeFolderPath (outputPath ctx) = (.ok (), made))
    (hglobs : readPatterns ctx.settings.artifacts.patterns = .ok globs)
    (hfound : matchingFiles ctx.settings globs made = .ok found)
    (hcopy : copyAll ctx.settings.workingDir (outputPath ctx) found made = (.ok (), copied))
    (hlist : listFiles copied (outputPath ctx) = .ok files) :
    artifacts ctx m = (.ok (listed ctx.settings files), { m with files := copied }) := by
  rw [artifacts_unpackaged hpackage, prepared, hmade]
  simp only [collectArtifacts_eq, hglobs, hfound, hcopy, hlist]

/-- What a step has done that succeeds without such a command. -/
theorem artifacts_unpackaged_ok (hpackage : ctx.settings.commands.package = none)
    (hproper : m.files.root.Proper) (hground : m.files.Grounded) {run : StepRun}
    {after : Machine σ} (h : artifacts ctx m = (.ok run, after)) :
    (∃ output, (prepared ctx m).Leads (outputPath ctx) output) ∧
      ∃ globs found files, readPatterns ctx.settings.artifacts.patterns = .ok globs ∧
        matchingFiles ctx.settings globs (prepared ctx m) = .ok found ∧
        copyAll ctx.settings.workingDir (outputPath ctx) found (prepared ctx m) =
          (.ok (), after.files) ∧
        listFiles after.files (outputPath ctx) = .ok files ∧ run = listed ctx.settings files := by
  rw [artifacts_unpackaged hpackage] at h
  cases hmade : (m.files.makeFolderPath (outputPath ctx)).1 with
  | error e =>
    rw [hmade] at h
    cases h
  | ok u =>
    rw [hmade] at h
    obtain ⟨globs, found, files, hglobs, hfound, hcopy, hlist, -, hrun⟩ := collectArtifacts_ok h
    have hleads := (leads_of_makeFolderPath hproper hground (Prod.ext hmade rfl)).2
    exact ⟨hleads, globs, found, files, hglobs, hfound, hcopy, hlist, hrun⟩

end Action

end BuildPipeline.Step

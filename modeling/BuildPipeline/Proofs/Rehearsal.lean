import BuildPipeline.Command.Scripted
import BuildPipeline.Proofs.Confinement
import BuildPipeline.Proofs.FailureCauses

/-! Runs whose commands leave the files alone, such as rehearsals. The steps themselves change files
only where artifacts are collected, and the run where its report goes. -/
namespace BuildPipeline
variable {σ α β : Type}

open FileSystem

/-- Whatever a command does, it leaves the files as they were. -/
def Runner.LeavesFiles (r : Runner σ) : Prop :=
  ∀ command options files state, (r command options files state).2.1 = files

theorem Script.leavesFiles : Script.runner.LeavesFiles := fun _ _ _ _ => rfl

namespace Action

/-- The action keeps to `I` whatever comes of it, and what it hands on has a property. -/
def Preserves (I : FileSystem → Prop) (a : Action σ α) (post : α → Prop) : Prop :=
  ∀ m, I m.files → I (a m).2.files ∧ ∀ x, (a m).1 = .ok x → post x

variable {I : FileSystem → Prop} {post : α → Prop} {post' : β → Prop}

theorem Preserves.pure {x : α} (h : post x) : Preserves I (Pure.pure x : Action σ α) post := by
  intro m hm
  refine ⟨hm, fun y hy => ?_⟩
  cases hy
  exact h

theorem Preserves.look (f : FileSystem → α) : Preserves I (look f : Action σ α) fun _ => True :=
  fun _ hm => ⟨hm, fun _ _ => trivial⟩

theorem Preserves.read {f : FileSystem → Except Failure α}
    (h : ∀ fs x, I fs → f fs = .ok x → post x) : Preserves I (read f : Action σ α) post :=
  fun m hm => ⟨hm, fun x hx => h m.files x hm hx⟩

theorem Preserves.files {f : FileSystem → FileSystem.Outcome α} (h : ∀ fs, I fs → I (f fs).2) :
    Preserves I (files f : Action σ α) fun _ => True := by
  intro m hm
  have hf := h m.files hm
  rw [Action.files]
  split
  · next x fs heq => exact ⟨by rwa [heq] at hf, fun _ _ => trivial⟩
  · next e fs heq => exact ⟨by rwa [heq] at hf, fun _ _ => trivial⟩

theorem Preserves.bind {a : Action σ α} {g : α → Action σ β} (ha : Preserves I a post)
    (hg : ∀ x, post x → Preserves I (g x) post') : Preserves I (a >>= g) post' := by
  intro m hm
  obtain ⟨hleft, hpost⟩ := ha m hm
  rw [bind_apply]
  cases hrun : a m with
  | mk result left =>
    rw [hrun] at hleft hpost
    cases result with
    | error e => exact ⟨hleft, nofun⟩
    | ok x => exact hg x (hpost x rfl) left hleft

theorem Preserves.foldlM {f : β → α → Action σ β} (hf : ∀ y x, Preserves I (f y x) fun _ => True)
    (xs : List α) (y : β) : Preserves I (xs.foldlM f y) fun _ => True := by
  induction xs generalizing y with
  | nil => exact .pure trivial
  | cons x rest ih =>
    rw [List.foldlM_cons]
    exact (hf y x).bind fun y' _ => ih y'

end Action

section Steps
variable {I : FileSystem → Prop} {r : Runner σ} {settings : Settings} {scrapers : Scrapers}

theorem StepContext.command_preserves (hr : r.LeavesFiles) (kind : StepKind) (command : String) :
    Action.Preserves I (StepContext.command ⟨settings, r, scrapers⟩ kind command)
      fun _ => True := by
  intro m hm
  have hfiles := hr command (options settings kind) m.files m.runner
  rcases hrun : r command (options settings kind) m.files m.runner with ⟨result, files, state⟩
  rw [hrun] at hfiles
  simp only [StepContext.command, hrun]
  subst hfiles
  refine ⟨?_, fun _ _ => trivial⟩
  cases result with
  | error e => exact hm
  | ok output =>
    simp only
    split <;> exact hm

namespace Step
open BuildPipeline.Action

theorem environment_preserves (hr : r.LeavesFiles) :
    Preserves I (environment ⟨settings, r, scrapers⟩) fun _ => True := by
  have htools : Preserves I (checkTools ⟨settings, r, scrapers⟩ settings.commands.environment)
      fun _ => True :=
    Preserves.foldlM (fun _ _ => (StepContext.command_preserves hr _ _).bind fun _ _ =>
      .pure trivial) _ _
  exact htools.bind fun _ _ => (Preserves.look _).bind fun _ _ => (Preserves.look _).bind fun _ _ =>
    .pure trivial

theorem install_preserves (hr : r.LeavesFiles) :
    Preserves I (install ⟨settings, r, scrapers⟩) fun _ => True :=
  (StepContext.command_preserves hr _ _).bind fun _ _ => (Preserves.look _).bind fun _ _ =>
    .pure trivial

theorem audit_preserves (hr : r.LeavesFiles) :
    Preserves I (audit ⟨settings, r, scrapers⟩) fun _ => True :=
  (StepContext.command_preserves hr _ _).bind fun _ _ => .pure trivial

theorem lint_preserves (hr : r.LeavesFiles) :
    Preserves I (lint ⟨settings, r, scrapers⟩) fun _ => True :=
  (StepContext.command_preserves hr _ _).bind fun _ _ => .pure trivial

theorem tests_preserves (hr : r.LeavesFiles) :
    Preserves I (tests ⟨settings, r, scrapers⟩) fun _ => True :=
  (StepContext.command_preserves hr _ _).bind fun _ _ => .pure trivial

theorem coverage_preserves (hr : r.LeavesFiles) :
    Preserves I (coverage ⟨settings, r, scrapers⟩) fun _ => True := by
  have hcommand : Preserves I (coverageCommand ⟨settings, r, scrapers⟩) fun _ => True := by
    unfold coverageCommand
    dsimp only
    split
    · exact .pure trivial
    · exact (StepContext.command_preserves hr _ _).bind fun _ _ => .pure trivial
  exact hcommand.bind fun _ _ => (Preserves.look _).bind fun _ _ => .pure trivial

end Step
end Steps

/-! ### Artifacts -/

namespace Step

section Search
variable {s : Search} {rel : List String} {found : List (List String)}

theorem collectEntries_named {es : List (String × Node)} (named : ∀ e ∈ es, IsFileName e.1)
    (hinner : ∀ e ∈ es, ∀ rel found, (∀ x ∈ rel, IsFileName x) → s.collect rel e.2 = .ok found →
      ∀ r ∈ found, ∀ x ∈ r, IsFileName x)
    (hrel : ∀ x ∈ rel, IsFileName x) (h : s.collectEntries rel es = .ok found) :
    ∀ r ∈ found, ∀ x ∈ r, IsFileName x := by
  induction es generalizing found with
  | nil =>
    rw [Search.collectEntries] at h
    cases h
    exact List.forall_mem_nil _
  | cons e rest ih =>
    obtain ⟨hname, hnames⟩ := List.forall_mem_cons.1 named
    obtain ⟨hnode, hnodes⟩ := List.forall_mem_cons.1 hinner
    rw [Search.collectEntries] at h
    split at h
    · cases h
    · next first hfirst =>
      split at h
      · cases h
      · next more hmore =>
        cases h
        have hhere : ∀ x ∈ rel ++ [e.1], IsFileName x :=
          List.forall_mem_append.2 ⟨hrel, List.forall_mem_singleton.2 hname⟩
        exact List.forall_mem_append.2 ⟨hnode _ first hhere hfirst, ih hnames hnodes hmore⟩

/-- What is found in a tidy tree has names that files can have. -/
theorem collect_named {n : Node} (hn : n.Tidy) (hrel : ∀ x ∈ rel, IsFileName x)
    (h : s.collect rel n = .ok found) : ∀ r ∈ found, ∀ x ∈ r, IsFileName x := by
  have hitself {rel : List String} (hrel : ∀ x ∈ rel, IsFileName x) :
      ∀ r ∈ (if s.isMatch rel then [rel] else []), ∀ x ∈ r, IsFileName x := by
    split
    · exact List.forall_mem_singleton.2 hrel
    · exact List.forall_mem_nil _
  induction hn generalizing rel found with
  | file content runnable =>
    rw [Search.collect] at h
    cases h
    exact hitself hrel
  | device d =>
    rw [Search.collect] at h
    cases h
    exact hitself hrel
  | folder _ named _ ih =>
    rw [Search.collect] at h
    split at h
    · cases h
      exact List.forall_mem_nil _
    · exact collectEntries_named named (fun e he _ _ hrel h => ih e he hrel h) hrel h

end Search

section Artifacts
variable {fs : FileSystem} {r : Runner σ} {settings : Settings} {scrapers : Scrapers}

/-- A folder that is listed in a tidy tree is tidy. -/
theorem tidy_of_list {p : Path} {es : List (String × Node)} (hfs : fs.Tidy)
    (h : fs.list p = .ok es) : (Node.folder es).Tidy := by
  rw [list] at h
  split at h
  · cases h
  · next hstat =>
    cases h
    rw [stat] at hstat
    split at hstat
    · cases hstat
    · next place hlocate =>
      obtain ⟨-, hnode, -⟩ := locate_tidy hfs hlocate
      split at hstat
      · next hn =>
        cases hstat
        exact (hfs.root.get? (hnode.symm.trans hn)).1
      · cases hstat
  · cases h

theorem matchingFiles_named {globs : List (List Glob.Token)} {found : List (List String)}
    (hfs : fs.Tidy) (h : matchingFiles settings globs fs = .ok found) :
    ∀ rel ∈ found, ∀ x ∈ rel, IsFileName x := by
  rw [matchingFiles, collectMatches] at h
  cases hlist : fs.list settings.workingDir with
  | error e => simp [hlist] at h
  | ok es =>
    have htidy := tidy_of_list hfs hlist
    simp only [hlist] at h
    split at h
    · cases h
    · next hfound =>
      cases h
      cases htidy with
      | folder _ named inner =>
        exact collectEntries_named named
          (fun e he _ _ hrel h => collect_named (inner e he) hrel h) (List.forall_mem_nil _) hfound

theorem artifacts_confined (hr : r.LeavesFiles) :
    Action.Preserves (fs.Confined (settings.resolve ⟨settings.artifacts.directory⟩))
      (artifacts ⟨settings, r, scrapers⟩) fun _ => True := by
  have hcollect : Action.Preserves (σ := σ)
      (fs.Confined (settings.resolve ⟨settings.artifacts.directory⟩))
      (collectArtifacts settings (settings.resolve ⟨settings.artifacts.directory⟩))
      fun _ => True := by
    refine (Action.Preserves.read fun _ _ _ _ => trivial).bind fun globs _ => ?_
    refine (Action.Preserves.read fun made found hmade h =>
      matchingFiles_named hmade.tidy h).bind fun found hfound => ?_
    refine (Action.Preserves.files fun made hmade =>
      hmade.trans (copyAll_confined hmade.tidy hfound _)).bind fun _ _ => ?_
    exact (Action.Preserves.files fun _ h => h).bind fun _ _ => .pure trivial
  refine (Action.Preserves.files fun made hmade =>
    hmade.trans (makeFolderPath_confined_self hmade.tidy _)).bind fun _ _ => ?_
  dsimp only
  cases settings.commands.package with
  | none => exact hcollect
  | some command =>
    refine (StepContext.command_preserves hr _ _).bind fun output _ => ?_
    cases exitFailure? output with
    | none => exact hcollect
    | some reason => exact .pure trivial

end Artifacts
end Step

/-! ### Turns and runs -/

/-- A handler that keeps to `I`, whatever comes of it. -/
def Handler.Preserves (I : FileSystem → Prop) (ctx : StepContext σ) (h : Handler σ) : Prop :=
  ∀ m, I m.files → I (h.execute ctx m).2.files

section Handlers
variable {I : FileSystem → Prop} {r : Runner σ} {settings : Settings} {scrapers : Scrapers}

theorem Handler.ofAction_preserves {ctx : StepContext σ} {kind : StepKind}
    {action : StepContext σ → Action σ StepRun}
    (h : Action.Preserves I (action ctx) fun _ => True) :
    (ofAction kind action).Preserves I ctx := by
  intro m hm
  obtain ⟨hleft, -⟩ := h m hm
  rw [ofAction]
  dsimp only
  split
  · next heq => rwa [heq] at hleft
  · next heq => rwa [heq] at hleft

theorem Handler.standard_preserves (hr : r.LeavesFiles) {kind : StepKind}
    (h : kind = .artifacts →
      Action.Preserves I (Step.artifacts ⟨settings, r, scrapers⟩) fun _ => True) :
    (standard kind).Preserves I ⟨settings, r, scrapers⟩ := by
  cases kind with
  | environment => exact ofAction_preserves (Step.environment_preserves hr)
  | install => exact ofAction_preserves (Step.install_preserves hr)
  | audit => exact ofAction_preserves (Step.audit_preserves hr)
  | lint => exact ofAction_preserves (Step.lint_preserves hr)
  | tests => exact ofAction_preserves (Step.tests_preserves hr)
  | coverage => exact ofAction_preserves (Step.coverage_preserves hr)
  | artifacts => exact ofAction_preserves (h rfl)

end Handlers

namespace Pipeline

section Turns
variable {I : FileSystem → Prop} {p : Pipeline σ} {hs : List (Handler σ)} {m : Machine σ}

theorem turn_preserves {h : Handler σ} (hh : h.Preserves I p.context) (hm : I m.files) :
    I (p.turn h m).after.files :=
  hh (opened m) hm

theorem turns_preserve (hhs : ∀ h ∈ hs, h.Preserves I p.context) (hm : I m.files) :
    ∀ t ∈ p.turns hs m, I t.after.files := by
  induction hs generalizing m with
  | nil =>
    rw [turns]
    exact List.forall_mem_nil _
  | cons h rest ih =>
    obtain ⟨hh, hrest⟩ := List.forall_mem_cons.1 hhs
    have hturn := turn_preserves hh hm
    exact List.forall_mem_cons.2 ⟨hturn, ih hrest hturn⟩

theorem leave_preserves {ts : List (Turn σ)} (hm : I m.files)
    (hts : ∀ t ∈ ts, I t.after.files) : I (Turn.leave m ts).files := by
  induction ts generalizing m with
  | nil => exact hm
  | cons t rest ih =>
    obtain ⟨ht, hrest⟩ := List.forall_mem_cons.1 hts
    exact ih ht hrest

end Turns

theorem files_run (p : Pipeline σ) (metadata : Metadata) (m : Machine σ) :
    ∃ report : Report, (p.run metadata m).machine.files =
      (report.writeAll p.settings.reportsPath (Turn.leave (opened m) (p.executed m)).files).2 :=
  ⟨_, by rw [run_eq]⟩

/-- If commands leave the files alone, a run changes nothing outside the folders for artifacts and
reports, except that it may make missing folders on the way to them. -/
theorem run_confined (settings : Settings) {r : Runner σ} (hr : r.LeavesFiles)
    (metadata : Metadata) {m : Machine σ} (hm : m.files.Tidy) :
    let artifacts := settings.resolve ⟨settings.artifacts.directory⟩
    let reports := settings.reportsPath
    let after := ((ofSettings settings r).run metadata m).machine.files
    ∀ names, ¬ m.files.placeOf artifacts <+: names → ¬ m.files.placeOf reports <+: names →
      after.root.surface names = m.files.root.surface names ∨
        (m.files.OnWay artifacts names ∨ m.files.OnWay reports names) ∧
          m.files.root.surface names = none ∧ after.root.surface names = some (.folder []) := by
  intro artifacts reports after names hartifacts hreports
  let left := Turn.leave (opened m) ((ofSettings settings r).executed m)
  have hsteps : m.files.Confined artifacts left.files := by
    have hall : ∀ h ∈ (ofSettings settings r).steps,
        h.Preserves (m.files.Confined artifacts) (ofSettings settings r).context := by
      intro h hh
      obtain ⟨kind, -, rfl⟩ := List.mem_map.1 hh
      exact Handler.standard_preserves hr fun _ => Step.artifacts_confined hr
    have hrefl : m.files.Confined artifacts (opened m).files := confined_of_eq hm rfl rfl
    refine leave_preserves hrefl fun t ht => ?_
    exact turns_preserve hall hrefl t ((Turn.upToFailure_prefix _ _).subset ht)
  have hwritten : left.files.Confined reports after := by
    obtain ⟨report, hreport⟩ := files_run (ofSettings settings r) metadata m
    rw [show after = _ from hreport]
    exact report.writeAll_confined hsteps.tidy reports
  have hplace := placeOf_congr hsteps.working reports
  obtain hsame | ⟨hway, hnone, hnew⟩ := hsteps.elsewhere names hartifacts
  · obtain hsame' | ⟨hway, hnone, hnew⟩ := hwritten.elsewhere names (hplace ▸ hreports)
    · exact .inl (hsame'.trans hsame)
    · exact .inr ⟨.inr ((onWay_congr hsteps.working).1 hway), hsame ▸ hnone, hnew⟩
  · obtain hsame' | ⟨-, hnone', -⟩ := hwritten.elsewhere names (hplace ▸ hreports)
    · exact .inr ⟨.inl hway, hnone, hsame'.trans hnew⟩
    · rw [hnew] at hnone'
      cases hnone'

def manifestOnly : Machine Script :=
  ⟨⟨.folder [("package.json", .file .empty false)], [], []⟩, .lenient, .still .epoch⟩

theorem tidy_manifestOnly : manifestOnly.files.Tidy := by
  have hnamed : ∀ e ∈ [("package.json", Node.file .empty false)], IsFileName e.1 :=
    List.forall_mem_singleton.2 (by decide)
  have hinner : ∀ e ∈ [("package.json", Node.file .empty false)], e.2.Tidy :=
    List.forall_mem_singleton.2 (.file _ _)
  exact ⟨.folder (by decide) hnamed hinner, List.forall_mem_nil _⟩

theorem rehearsal_keeps_manifest :
    Script.runner.LeavesFiles ∧ manifestOnly.files.Tidy ∧
    ¬ manifestOnly.files.placeOf ⟨"./artifacts"⟩ <+: ["package.json"] ∧
    ¬ manifestOnly.files.placeOf ⟨"./reports"⟩ <+: ["package.json"] ∧
    ((ofSettings {} Script.runner).run ⟨"project", none, none, "run"⟩
      manifestOnly).machine.files.root.surface ["package.json"] =
        some (.file .empty false) := by
  have hartifacts : ¬ manifestOnly.files.placeOf ⟨"./artifacts"⟩ <+: ["package.json"] := by decide
  have hreports : ¬ manifestOnly.files.placeOf ⟨"./reports"⟩ <+: ["package.json"] := by decide
  refine ⟨Script.leavesFiles, tidy_manifestOnly, hartifacts, hreports, ?_⟩
  obtain hsame | ⟨-, hnone, -⟩ := run_confined {} Script.leavesFiles ⟨"project", none, none, "run"⟩
    tidy_manifestOnly ["package.json"] hartifacts hreports
  · exact hsame
  · cases hnone

/-! ### What a rehearsal does change -/

theorem makeFolderPath_of_free {fs : FileSystem} {p : Path} {outer : List Path}
    {names : List String} (hempty : p.isEmpty = false) (hancestors : ancestors p = p :: outer)
    (hfaults : fs.faults = [])
    (hlocate : fs.locate (withoutEndSlash p) .entry = .ok ⟨names, none⟩) :
    fs.makeFolderPath p = (.ok (), fs.put names (.folder [])) := by
  have hmade : fs.makeFolder p = (.ok (), fs.put names (.folder [])) := by
    have hclear : fs.nextFault = (none, fs) := by rw [nextFault, hfaults]
    simp only [makeFolder, hclear, hlocate]
  rw [makeFolderPath, hempty, if_neg Bool.false_ne_true, hancestors]
  simp only [makeOutwards, hmade, makeFolders]

def notingRunner : Runner (List String) := fun command _ files calls =>
  (.ok {}, files, calls ++ [command])

/-- A rehearsal is a run in which every command succeeds and says nothing. -/
theorem rehearsal_eq (settings : Settings) (metadata : Metadata) (files : FileSystem)
    (clock : Clock) :
    ∃ calls, (ofSettings settings Script.runner).run metadata ⟨files, .lenient, clock⟩ =
      ((ofSettings settings silentRunner).run metadata ⟨files, (), clock⟩).map
        fun _ => { calls := calls } := by
  have hscript : Runner.Lifts (fun calls => { calls := calls : Script }) notingRunner
      Script.runner := by
    intro command options files calls
    have hnone : (SortedMap.empty : SortedMap (List Response)).get? command = none := rfl
    simp only [Script.runner, Script.next, Script.record, Script.answer, hnone, notingRunner]
    cases options.captureOutput <;> rfl
  have hsilent : Runner.Lifts (fun _ => ()) notingRunner silentRunner := fun _ _ _ _ => rfl
  have hscript' := run_map (ofSettings_lifts settings hscript) metadata ⟨files, [], clock⟩
  have hsilent' := run_map (ofSettings_lifts settings hsilent) metadata ⟨files, [], clock⟩
  refine ⟨((ofSettings settings notingRunner).run metadata ⟨files, [], clock⟩).machine.runner, ?_⟩
  rw [Machine.map] at hsilent'
  rw [hsilent']
  exact hscript'

theorem ne_artifacts_of_mem : ∀ kind ∈ StepKind.sequence.dropLast, kind ≠ .artifacts := by decide

/-- The last turn of a run whose patterns are rejected is the artifacts step's. -/
theorem silent_executed (m : Machine Unit) :
    let p := ofSettings openBracket silentRunner
    let earlier := p.turns (StepKind.sequence.dropLast.map .standard) (opened m)
    p.executed m = earlier ++ [p.turn (.standard .artifacts) (Turn.leave (opened m) earlier)] := by
  intro p earlier
  have hsteps : p.steps = StepKind.sequence.dropLast.map .standard ++ [.standard .artifacts] := rfl
  have hbefore : ∀ u ∈ earlier, u.failed p.settings = false := by
    intro u hu
    obtain ⟨g, hg, m', rfl⟩ := exists_of_mem_turns hu
    obtain ⟨kind, hkind, rfl⟩ := List.mem_map.1 hg
    exact silent_not_failed (ne_artifacts_of_mem kind hkind) m'
  obtain ⟨f, houtcome, -, -⟩ := artifacts_of_rejected (p := p) rfl openBracket_rejected
    (Turn.leave (opened m) earlier)
  have hfailed : (p.turn (.standard .artifacts) (Turn.leave (opened m) earlier)).failed p.settings =
      true := by
    have hresult : (p.turn (.standard .artifacts) (Turn.leave (opened m) earlier)).result =
        .error f := by
      rw [Turn.result, houtcome]
      rfl
    exact Turn.failed_iff.2 ⟨_, Turn.verdict_of_error hresult⟩
  rw [executed, hsteps, turns_append]
  exact Turn.upToFailure_append_cons [] hbefore hfailed

theorem silentRunner_leavesFiles : silentRunner.LeavesFiles := fun _ _ _ _ => rfl

def artifactsOnly : FileSystem := ⟨.folder [("artifacts", .folder [])], [], []⟩

theorem makeFolderPath_empty :
    emptyMachine.files.makeFolderPath ⟨"./artifacts"⟩ = (.ok (), artifactsOnly) := by
  have hfree : emptyMachine.files.locate (withoutEndSlash ⟨"./artifacts"⟩) .entry =
      .ok ⟨["artifacts"], none⟩ :=
    @locate_join emptyMachine.files ⟨"."⟩ [] "artifacts" .entry (by decide) (by decide)
      ⟨maxLinks, .skip (.inl rfl) (.nil maxLinks [])⟩ fun _ _ => rfl
  have hancestors : ancestors ⟨"./artifacts"⟩ = [⟨"./artifacts"⟩, ⟨"."⟩] := by decide
  exact makeFolderPath_of_free (by decide) hancestors rfl hfree

/-- The steps of a run without an answer of any kind make the artifacts folder and no more. -/
theorem silent_leave :
    (Turn.leave (opened emptyMachine)
      ((ofSettings openBracket silentRunner).executed emptyMachine)).files = artifactsOnly := by
  let p := ofSettings openBracket silentRunner
  let earlier := p.turns (StepKind.sequence.dropLast.map .standard) (opened emptyMachine)
  have hearlier : (Turn.leave (opened emptyMachine) earlier).files = emptyMachine.files := by
    refine leave_preserves (I := (· = emptyMachine.files)) rfl ?_
    refine turns_preserve (I := (· = emptyMachine.files)) (fun h hh => ?_) rfl
    obtain ⟨kind, hkind, rfl⟩ := List.mem_map.1 hh
    exact Handler.standard_preserves silentRunner_leavesFiles fun hartifacts =>
      absurd hartifacts (ne_artifacts_of_mem kind hkind)
  obtain ⟨f, -, -, hfiles⟩ := artifacts_of_rejected (p := p) rfl openBracket_rejected
    (Turn.leave (opened emptyMachine) earlier)
  have htarget : openBracket.resolve ⟨openBracket.artifacts.directory⟩ = ⟨"./artifacts"⟩ := by
    decide
  have hmade : (emptyMachine.files.makeFolderPath
      (p.settings.resolve ⟨p.settings.artifacts.directory⟩)).2 = artifactsOnly := by
    rw [show p.settings = openBracket from rfl, htarget, makeFolderPath_empty]
  rw [silent_executed, Turn.leave_append, Turn.leave, Turn.leave, hfiles, hearlier, hmade]

/-- An empty project has a folder for artifacts after a rehearsal, beside the reports. -/
theorem rehearsal_makes_folder :
    let m : Machine Script := ⟨emptyMachine.files, .lenient, emptyMachine.clock⟩
    let after := ((ofSettings openBracket Script.runner).run ⟨"project", none, none, "run"⟩
      m).machine.files
    ¬ m.files.placeOf openBracket.reportsPath <+: ["artifacts"] ∧
    m.files.root.surface ["artifacts"] = none ∧
    after.root.surface ["artifacts"] = some (.folder []) := by
  intro m after
  have hreports : ¬ m.files.placeOf openBracket.reportsPath <+: ["artifacts"] := by decide
  refine ⟨hreports, rfl, ?_⟩
  obtain ⟨calls, hrun⟩ := rehearsal_eq openBracket ⟨"project", none, none, "run"⟩
    emptyMachine.files emptyMachine.clock
  obtain ⟨report, hreport⟩ := files_run (ofSettings openBracket silentRunner)
    ⟨"project", none, none, "run"⟩ emptyMachine
  have hafter : after = (report.writeAll openBracket.reportsPath artifactsOnly).2 := by
    rw [← silent_leave]
    exact (congrArg (·.machine.files) hrun).trans hreport
  have htidy : artifactsOnly.Tidy := by
    have hempty : emptyMachine.files.Tidy := ⟨Node.tidy_empty, List.forall_mem_nil _⟩
    have hmade := makeFolderPath_confined_self hempty ⟨"./artifacts"⟩
    rw [makeFolderPath_empty] at hmade
    exact hmade.tidy
  rw [hafter]
  obtain hsame | ⟨-, hnone, -⟩ :=
    (report.writeAll_confined htidy openBracket.reportsPath).elsewhere ["artifacts"] hreports
  · exact hsame
  · cases hnone

end Pipeline
end BuildPipeline

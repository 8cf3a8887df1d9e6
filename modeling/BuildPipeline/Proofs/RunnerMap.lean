import BuildPipeline.Proofs.Turn
import Mathlib.Data.List.Forall2

/-! Runs with two runners of which one answers like the other, its states being seen through a map.
The runs then differ in those states only. -/
namespace BuildPipeline
variable {σ τ α β : Type} {f : τ → σ}

/-- The surroundings with another view of the runner's state. -/
def Machine.map (f : τ → σ) (m : Machine τ) : Machine σ := ⟨m.files, f m.runner, m.clock⟩

/-- The first runner answers like the second one, and its state shows that one's. -/
def Runner.Lifts (f : τ → σ) (r' : Runner τ) (r : Runner σ) : Prop :=
  ∀ command options files state, r command options files (f state) =
    ((r' command options files state).1, (r' command options files state).2.1,
      f (r' command options files state).2.2)

/-- The surroundings with another view of the runner's state and of the clock. -/
def Machine.view (f : τ → σ) (k : Clock → Clock) (m : Machine τ) : Machine σ :=
  ⟨m.files, f m.runner, k m.clock⟩

theorem Machine.view_id (f : τ → σ) (m : Machine τ) : m.view f id = m.map f := rfl

namespace Action

/-- The first action does what the second one does, also if the clock is seen otherwise. -/
def Mirrors (f : τ → σ) (k : Clock → Clock) (a' : Action τ α) (a : Action σ α) : Prop :=
  ∀ m, a (m.view f k) = ((a' m).1, (a' m).2.view f k)

variable {k : Clock → Clock}

theorem bind_apply (a : Action σ α) (g : α → Action σ β) (m : Machine σ) :
    (a >>= g) m = match a m with
      | (.ok x, m) => g x m
      | (.error e, m) => (.error e, m) := by
  change (ExceptT.bindCont g (a m).1) (a m).2 = _
  rcases a m with ⟨r, m'⟩
  cases r <;> rfl

theorem Mirrors.pure (x : α) : Mirrors f k (Pure.pure x) (Pure.pure x) := fun _ => rfl

theorem Mirrors.bind {a' : Action τ α} {a : Action σ α} {g' : α → Action τ β}
    {g : α → Action σ β} (ha : Mirrors f k a' a) (hg : ∀ x, Mirrors f k (g' x) (g x)) :
    Mirrors f k (a' >>= g') (a >>= g) := by
  intro m
  rw [bind_apply, bind_apply, ha m]
  rcases a' m with ⟨r, m'⟩
  cases r with
  | ok x => exact hg x m'
  | error e => rfl

theorem Mirrors.look (g : FileSystem → α) : Mirrors f k (look g) (look g) := fun _ => rfl

theorem Mirrors.read (g : FileSystem → Except Failure α) : Mirrors f k (read g) (read g) :=
  fun _ => rfl

theorem Mirrors.files (g : FileSystem → FileSystem.Outcome α) :
    Mirrors f k (files g) (files g) := by
  intro m
  simp only [Action.files, Machine.view]
  rcases g m.files with ⟨r, fs⟩
  cases r <;> rfl

theorem Mirrors.foldlM {γ : Type} {g' : β → γ → Action τ β} {g : β → γ → Action σ β}
    (hg : ∀ x c, Mirrors f k (g' x c) (g x c)) (x : β) (cs : List γ) :
    Mirrors f k (cs.foldlM g' x) (cs.foldlM g x) := by
  induction cs generalizing x with
  | nil => exact Mirrors.pure x
  | cons c rest ih =>
    rw [List.foldlM_cons, List.foldlM_cons]
    exact (hg x c).bind ih

end Action

section Steps
variable {settings : Settings} {scrapers : Scrapers} {r' : Runner τ} {r : Runner σ}
  {k : Clock → Clock}

theorem StepContext.command_mirrors (hr : Runner.Lifts f r' r) (kind : StepKind)
    (command : String) : Action.Mirrors f k
      (StepContext.command ⟨settings, r', scrapers⟩ kind command)
      (StepContext.command ⟨settings, r, scrapers⟩ kind command) := by
  intro m
  have h := hr command (options settings kind) m.files m.runner
  simp only [StepContext.command, Machine.view, h]
  rcases r' command (options settings kind) m.files m.runner with ⟨result, files, state⟩
  cases result with
  | error e => rfl
  | ok output => cases ho : output.timedOut <;> simp [ho]

namespace Step

theorem install_mirrors (hr : Runner.Lifts f r' r) :
    Action.Mirrors f k (install ⟨settings, r', scrapers⟩) (install ⟨settings, r, scrapers⟩) :=
  (StepContext.command_mirrors hr _ _).bind fun _ =>
    (Action.Mirrors.look _).bind fun _ => Action.Mirrors.pure _

theorem audit_mirrors (hr : Runner.Lifts f r' r) :
    Action.Mirrors f k (audit ⟨settings, r', scrapers⟩) (audit ⟨settings, r, scrapers⟩) :=
  (StepContext.command_mirrors hr _ _).bind fun _ => Action.Mirrors.pure _

theorem lint_mirrors (hr : Runner.Lifts f r' r) :
    Action.Mirrors f k (lint ⟨settings, r', scrapers⟩) (lint ⟨settings, r, scrapers⟩) :=
  (StepContext.command_mirrors hr _ _).bind fun _ => Action.Mirrors.pure _

theorem tests_mirrors (hr : Runner.Lifts f r' r) :
    Action.Mirrors f k (tests ⟨settings, r', scrapers⟩) (tests ⟨settings, r, scrapers⟩) :=
  (StepContext.command_mirrors hr _ _).bind fun _ => Action.Mirrors.pure _

theorem environment_mirrors (hr : Runner.Lifts f r' r) :
    Action.Mirrors f k (environment ⟨settings, r', scrapers⟩)
      (environment ⟨settings, r, scrapers⟩) := by
  have htools : Action.Mirrors f k
      (checkTools ⟨settings, r', scrapers⟩ settings.commands.environment)
      (checkTools ⟨settings, r, scrapers⟩ settings.commands.environment) :=
    Action.Mirrors.foldlM (fun _ _ =>
      (StepContext.command_mirrors hr _ _).bind fun _ => Action.Mirrors.pure _) _ _
  exact htools.bind fun _ => (Action.Mirrors.look _).bind fun _ =>
    (Action.Mirrors.look _).bind fun _ => Action.Mirrors.pure _

theorem coverage_mirrors (hr : Runner.Lifts f r' r) :
    Action.Mirrors f k (coverage ⟨settings, r', scrapers⟩) (coverage ⟨settings, r, scrapers⟩) := by
  have hcommand : Action.Mirrors f k (coverageCommand ⟨settings, r', scrapers⟩)
      (coverageCommand ⟨settings, r, scrapers⟩) := by
    unfold coverageCommand
    dsimp only
    split
    · exact Action.Mirrors.pure _
    · exact (StepContext.command_mirrors hr _ _).bind fun _ => Action.Mirrors.pure _
  exact hcommand.bind fun _ => (Action.Mirrors.look _).bind fun _ => Action.Mirrors.pure _

theorem artifacts_mirrors (hr : Runner.Lifts f r' r) :
    Action.Mirrors f k (artifacts ⟨settings, r', scrapers⟩)
      (artifacts ⟨settings, r, scrapers⟩) := by
  have hcollect (target : Path) :
      Action.Mirrors f k (collectArtifacts settings target) (collectArtifacts settings target) :=
    (Action.Mirrors.read _).bind fun _ => (Action.Mirrors.read _).bind fun _ =>
      (Action.Mirrors.files _).bind fun _ => (Action.Mirrors.files _).bind fun _ =>
        Action.Mirrors.pure _
  unfold artifacts
  refine (Action.Mirrors.files _).bind fun _ => ?_
  dsimp only
  cases settings.commands.package with
  | none => exact hcollect _
  | some command =>
    refine (StepContext.command_mirrors hr _ _).bind fun output => ?_
    cases exitFailure? output with
    | none => exact hcollect _
    | some reason => exact Action.Mirrors.pure _

end Step
end Steps

/-- The first handler does what the second one does, each with its own context. -/
structure Handler.Lifts (f : τ → σ) (ctx' : StepContext τ) (ctx : StepContext σ) (h' : Handler τ)
    (h : Handler σ) : Prop where
  kind : h'.kind = h.kind
  name : h'.name = h.name
  execute : ∀ m, h.execute ctx (m.map f) =
    ((h'.execute ctx' m).1, (h'.execute ctx' m).2.map f)

/-- As for actions, with the clock seen otherwise. -/
def Handler.Mirrors (f : τ → σ) (k : Clock → Clock) (ctx' : StepContext τ) (ctx : StepContext σ)
    (h' : Handler τ) (h : Handler σ) : Prop :=
  ∀ m, h.execute ctx (m.view f k) =
    ((h'.execute ctx' m).1, (h'.execute ctx' m).2.view f k)

theorem Handler.ofAction_mirrors {k : Clock → Clock} {ctx' : StepContext τ} {ctx : StepContext σ}
    (kind : StepKind) (action' : StepContext τ → Action τ StepRun)
    (action : StepContext σ → Action σ StepRun)
    (h : Action.Mirrors f k (action' ctx') (action ctx)) :
    Handler.Mirrors f k ctx' ctx (.ofAction kind action') (.ofAction kind action) := by
  intro m
  simp only [Handler.ofAction, h m]
  rcases action' ctx' m with ⟨result, m'⟩
  cases result <;> rfl

/-- Standard handlers never look at the clock, and see of the runner only its answers. -/
theorem Handler.standard_mirrors {k : Clock → Clock} {settings : Settings} {scrapers : Scrapers}
    {r' : Runner τ} {r : Runner σ} (hr : Runner.Lifts f r' r) (kind : StepKind) :
    Handler.Mirrors f k ⟨settings, r', scrapers⟩ ⟨settings, r, scrapers⟩ (.standard kind)
      (.standard kind) := by
  cases kind with
  | environment =>
    exact ofAction_mirrors _ Step.environment Step.environment (Step.environment_mirrors hr)
  | install => exact ofAction_mirrors _ Step.install Step.install (Step.install_mirrors hr)
  | audit => exact ofAction_mirrors _ Step.audit Step.audit (Step.audit_mirrors hr)
  | lint => exact ofAction_mirrors _ Step.lint Step.lint (Step.lint_mirrors hr)
  | tests => exact ofAction_mirrors _ Step.tests Step.tests (Step.tests_mirrors hr)
  | coverage => exact ofAction_mirrors _ Step.coverage Step.coverage (Step.coverage_mirrors hr)
  | artifacts => exact ofAction_mirrors _ Step.artifacts Step.artifacts (Step.artifacts_mirrors hr)

theorem Handler.standard_lifts {settings : Settings} {scrapers : Scrapers} {r' : Runner τ}
    {r : Runner σ} (hr : Runner.Lifts f r' r) (kind : StepKind) :
    Handler.Lifts f ⟨settings, r', scrapers⟩ ⟨settings, r, scrapers⟩ (.standard kind)
      (.standard kind) where
  kind := by cases kind <;> rfl
  name := by cases kind <;> rfl
  execute m := by simpa only [Machine.view_id] using standard_mirrors (k := id) hr kind m

namespace Pipeline

def Progress.map (f : τ → σ) (s : Progress τ) : Progress σ := ⟨s.machine.map f, s.draft, s.events⟩

def Run.map (f : τ → σ) (r : Run τ) : Run σ := ⟨r.report, r.documents, r.events, r.machine.map f⟩

/-- The first pipeline does what the second one does, step by step. -/
structure Lifts (f : τ → σ) (p' : Pipeline τ) (p : Pipeline σ) : Prop where
  settings : p'.settings = p.settings
  steps : List.Forall₂ (Handler.Lifts f p'.context p.context) p'.steps p.steps

theorem ofSettings_lifts {r' : Runner τ} {r : Runner σ} (settings : Settings)
    (hr : Runner.Lifts f r' r) : Lifts f (ofSettings settings r') (ofSettings settings r) where
  settings := rfl
  steps := by
    simp only [ofSettings, Handler.standardSteps, List.forall₂_map_left_iff,
      List.forall₂_map_right_iff, List.forall₂_same]
    exact fun kind _ => Handler.standard_lifts hr kind

variable {p' : Pipeline τ} {p : Pipeline σ}

theorem turn_map {h' : Handler τ} {h : Handler σ}
    (hh : Handler.Lifts f p'.context p.context h' h) (m : Machine τ) :
    let t := p'.turn h' m
    p.turn h (m.map f) = ⟨h, m.map f, t.start, t.outcome, t.stop, t.after.map f⟩ := by
  intro t
  let opened : Machine τ := { m with clock := m.clock.look.2 }
  have hexecute : h.execute p.context { m.map f with clock := (m.map f).clock.look.2 } =
      ((h'.execute p'.context opened).1, (h'.execute p'.context opened).2.map f) :=
    hh.execute opened
  rw [turn_of_execute hexecute]
  rfl

theorem executeStep_map (hp : p'.settings = p.settings) {h' : Handler τ} {h : Handler σ}
    (hh : Handler.Lifts f p'.context p.context h' h) (index : Nat) (s : Progress τ) :
    p.executeStep h index (s.map f) =
      ((p'.executeStep h' index s).1, (p'.executeStep h' index s).2.map f) := by
  rw [executeStep_eq, executeStep_eq, show (s.map f).machine = s.machine.map f from rfl,
    turn_map hh, hp]
  simp only [Progress.map, Turn.step, Turn.told, Turn.metrics, Turn.verdict, Turn.result, turn,
    hh.kind, hh.name]

theorem executeSteps_map (hp : p'.settings = p.settings) {hs' : List (Handler τ)}
    {hs : List (Handler σ)} (hhs : List.Forall₂ (Handler.Lifts f p'.context p.context) hs' hs)
    (index : Nat) (s : Progress τ) :
    p.executeSteps hs index (s.map f) = (p'.executeSteps hs' index s).map f := by
  induction hhs generalizing index s with
  | nil => rfl
  | cons hh _ ih =>
    simp only [executeSteps, executeStep_map hp hh index s]
    cases (p'.executeStep _ index s).1.errorMessage with
    | none => exact ih (index + 1) _
    | some reason => rfl

theorem evaluateGate_map (hp : p'.settings = p.settings) (s : Progress τ) :
    p.evaluateGate (s.map f) = ((p'.evaluateGate s).1, (p'.evaluateGate s).2.map f) := by
  unfold evaluateGate
  rw [hp, show (s.map f).draft = s.draft from rfl]
  split <;> rfl

theorem conclude_map (hp : p'.settings = p.settings) (s : Progress τ) :
    p.conclude (s.map f) = (p'.conclude s).map f := by
  have hgate := evaluateGate_map (f := f) hp (s.tell [.phaseChanged .finalizing])
  simp only [conclude, hp]
  rw [show (s.map f).tell [.phaseChanged .finalizing] =
    (s.tell [.phaseChanged .finalizing]).map f from rfl, hgate]
  rfl

/-- Runs of two such pipelines differ only in what the runner keeps for itself. -/
theorem run_map (hp : Lifts f p' p) (metadata : Metadata) (m : Machine τ) :
    p.run metadata (m.map f) = (p'.run metadata m).map f := by
  have hlength : p.steps.length = p'.steps.length := hp.steps.length_eq.symm
  have hbegin : p.begin metadata (m.map f) = (p'.begin metadata m).map f := by
    simp only [begin, hlength]
    rfl
  rw [run, hbegin, executeSteps_map hp.settings hp.steps, conclude_map hp.settings]
  rfl

end Pipeline
end BuildPipeline

import BuildPipeline.Proofs.Watch

/-! The course of a step. A step works through planned commands one after another; an answer that is
a failure ends it there, and what else may end it is said for each step. -/
namespace BuildPipeline
variable {σ α β : Type}

/-- How an action went that had commands to run. -/
inductive Course (plan : List String) (other : Failure → Prop)
    (post : List Call → α → FileSystem → Prop) :
    List Call → Except Failure α → FileSystem → Prop
  /-- All commands were answered, and the action came to its end. -/
  | finished {calls : List Call} {x : α} {files : FileSystem}
      (commands : calls.map Call.command = plan) (clear : ∀ c ∈ calls, c.fault? = none)
      (holds : post calls x files) : Course plan other post calls (.ok x) files
  /-- The last answer was a failure, which ended the action. -/
  | faulted {before : List Call} {call : Call} {f : Failure} {files : FileSystem}
      (commands : (before ++ [call]).map Call.command <+: plan)
      (clear : ∀ c ∈ before, c.fault? = none) (fault : call.fault? = some f) :
      Course plan other post (before ++ [call]) (.error f) files
  /-- Something else ended the action. -/
  | stopped {calls : List Call} {f : Failure} {files : FileSystem}
      (commands : calls.map Call.command <+: plan) (clear : ∀ c ∈ calls, c.fault? = none)
      (allowed : other f) : Course plan other post calls (.error f) files

namespace Course
variable {plan rest : List String} {other : Failure → Prop}
  {post : List Call → α → FileSystem → Prop} {post' : List Call → β → FileSystem → Prop}
  {calls : List Call} {result : Except Failure α} {files : FileSystem}

/-- An action that something ended does not go on with further commands. -/
theorem extend_error {f : Failure} (h : Course plan other post calls (.error f) files) :
    Course (plan ++ rest) other post' calls (.error f) files := by
  cases h with
  | faulted commands clear fault =>
    exact .faulted (commands.trans (List.prefix_append plan rest)) clear fault
  | stopped commands clear allowed =>
    exact .stopped (commands.trans (List.prefix_append plan rest)) clear allowed

theorem mono {post₂ : List Call → α → FileSystem → Prop}
    (h : Course plan other post calls result files)
    (hpost : ∀ x, post calls x files → post₂ calls x files) :
    Course plan other post₂ calls result files := by
  cases h with
  | finished commands clear holds => exact .finished commands clear (hpost _ holds)
  | faulted commands clear fault => exact .faulted commands clear fault
  | stopped commands clear allowed => exact .stopped commands clear allowed

theorem prepend {first : List Call} (commands : first.map Call.command = plan)
    (clear : ∀ c ∈ first, c.fault? = none)
    (h : Course rest other (fun more x files => post (first ++ more) x files) calls result files) :
    Course (plan ++ rest) other post (first ++ calls) result files := by
  have hclear (more : List Call) (hmore : ∀ c ∈ more, c.fault? = none) :
      ∀ c ∈ first ++ more, c.fault? = none := by
    intro c hc
    rcases List.mem_append.1 hc with hc | hc
    · exact clear c hc
    · exact hmore c hc
  -- the end of the second part is the end of the whole
  cases h with
  | finished commands' clear' holds =>
    refine .finished ?_ (hclear _ clear') holds
    rw [List.map_append, commands, commands']
  | @faulted before call f _ commands' clear' fault =>
    rw [← List.append_assoc]
    refine .faulted ?_ (hclear _ clear') fault
    rw [List.append_assoc, List.map_append, commands]
    exact (List.prefix_append_right_inj plan).2 commands'
  | stopped commands' clear' allowed =>
    refine .stopped ?_ (hclear _ clear') allowed
    rw [List.map_append, commands]
    exact (List.prefix_append_right_inj plan).2 commands'

/-- A call whose answer is a failure is the last one, and the failure is the action's. -/
theorem of_fault (h : Course plan other post calls result files) :
    (∀ c ∈ calls, c.fault? = none) ∨
    ∃ before call f, calls = before ++ [call] ∧ (∀ c ∈ before, c.fault? = none) ∧
      call.fault? = some f ∧ result = .error f := by
  cases h with
  | finished _ clear => exact .inl clear
  | faulted _ clear fault => exact .inr ⟨_, _, _, rfl, clear, fault, rfl⟩
  | stopped _ clear => exact .inl clear

/-- An action that neither an answer nor anything else ended came to its end. -/
theorem of_clear (h : Course plan other post calls result files)
    (hclear : ∀ c ∈ calls, c.fault? = none) (hother : ∀ f, ¬other f) :
    ∃ x, result = .ok x ∧ calls.map Call.command = plan ∧ post calls x files := by
  cases h with
  | finished commands _ holds => exact ⟨_, rfl, commands, holds⟩
  | @faulted before call f _ _ _ fault =>
    rw [hclear call (by simp)] at fault
    cases fault
  | stopped _ _ allowed => exact absurd allowed (hother _)

/-- However it went, nothing was issued out of plan. -/
theorem commands_planned (h : Course plan other post calls result files) :
    calls.map Call.command <+: plan := by
  cases h with
  | finished commands => exact commands ▸ List.prefix_rfl
  | faulted commands => exact commands
  | stopped commands => exact commands

theorem of_ok {x : α} (h : Course plan other post calls (.ok x) files) :
    calls.map Call.command = plan ∧ post calls x files := by
  cases h with
  | finished commands _ holds => exact ⟨commands, holds⟩

theorem of_error {f : Failure} (h : Course plan other post calls (.error f) files) :
    (∃ c ∈ calls, c.fault? = some f) ∨ other f := by
  cases h with
  | @faulted before call _ _ _ _ fault => exact .inl ⟨call, by simp, fault⟩
  | stopped _ _ allowed => exact .inr allowed

end Course

namespace Action

/-- From these surroundings, with a watched runner, the action issues commands with the same options
and takes a course. -/
def Keeps (options : RunOptions) (plan : List String) (other : Failure → Prop)
    (a : Action (σ × List Call) α) (m : Machine (σ × List Call))
    (post : List Call → α → FileSystem → Prop) : Prop :=
  ∃ calls, (a m).2.runner.2 = m.runner.2 ++ calls ∧ (∀ c ∈ calls, c.options = options) ∧
    Course plan other post calls (a m).1 (a m).2.files

variable {options : RunOptions} {plan rest : List String} {other : Failure → Prop}
  {m : Machine (σ × List Call)}

theorem Keeps.mono {a : Action (σ × List Call) α} {post post' : List Call → α → FileSystem → Prop}
    (h : Keeps options plan other a m post)
    (hpost : ∀ calls x files, post calls x files → post' calls x files) :
    Keeps options plan other a m post' := by
  obtain ⟨calls, hlog, hoptions, hcourse⟩ := h
  exact ⟨calls, hlog, hoptions, hcourse.mono fun x => hpost calls x _⟩

/-- An action that leaves the runner alone needs no plan. -/
theorem Keeps.quiet {a : Action (σ × List Call) α} {post : List Call → α → FileSystem → Prop}
    (hrunner : (a m).2.runner = m.runner)
    (h : Course [] other post [] (a m).1 (a m).2.files) : Keeps options [] other a m post :=
  ⟨[], by rw [hrunner, List.append_nil], by simp, h⟩

theorem Keeps.pure {x : α} {post : List Call → α → FileSystem → Prop} (h : post [] x m.files) :
    Keeps options [] other (Pure.pure x) m post :=
  .quiet rfl (.finished rfl (by simp) h)

theorem Keeps.look {f : FileSystem → α} :
    Keeps options [] other (look f) m
      fun calls x files => calls = [] ∧ x = f files ∧ files = m.files :=
  .quiet rfl (.finished rfl (by simp) ⟨rfl, rfl, rfl⟩)

theorem Keeps.read {f : FileSystem → Except Failure α}
    (he : ∀ files e, f files = .error e → other e) :
    Keeps options [] other (read f) m
      fun calls x files => calls = [] ∧ f files = .ok x ∧ files = m.files := by
  refine .quiet rfl ?_
  change Course [] other _ [] (f m.files) m.files
  cases hf : f m.files with
  | ok x => exact .finished rfl (by simp) ⟨rfl, hf, rfl⟩
  | error e => exact .stopped List.nil_prefix (by simp) (he m.files e hf)

theorem Keeps.files {f : FileSystem → FileSystem.Outcome α} (he : ∀ e, other (.io e)) :
    Keeps options [] other (files f) m
      fun calls x files => calls = [] ∧ f m.files = (.ok x, files) := by
  rcases hf : f m.files with ⟨result, fs⟩
  cases result with
  | ok x =>
    have hrun : Action.files f m = (.ok x, { m with files := fs }) := by
      simp only [Action.files, hf]
    refine .quiet (by rw [hrun]) ?_
    rw [hrun]
    exact .finished rfl (by simp) ⟨rfl, rfl⟩
  | error e =>
    have hrun : Action.files f m = (.error (.io e), { m with files := fs }) := by
      simp only [Action.files, hf]
    refine .quiet (by rw [hrun]) ?_
    rw [hrun]
    exact .stopped List.nil_prefix (by simp) (he e)

/-- One action after another: the second one goes on with the plan. -/
theorem Keeps.bind {a : Action (σ × List Call) α} {g : α → Action (σ × List Call) β}
    {post : List Call → α → FileSystem → Prop} {post' : List Call → β → FileSystem → Prop}
    (ha : Keeps options plan other a m post)
    (hg : ∀ calls x (m' : Machine (σ × List Call)), post calls x m'.files →
      Keeps options rest other (g x) m' fun more y files => post' (calls ++ more) y files) :
    Keeps options (plan ++ rest) other (a >>= g) m post' := by
  obtain ⟨calls, hlog, hoptions, hcourse⟩ := ha
  rw [Keeps, bind_apply]
  rcases hrun : a m with ⟨result, m'⟩
  rw [hrun] at hlog hcourse
  dsimp only at hlog hcourse
  cases result with
  | error f => exact ⟨calls, hlog, hoptions, hcourse.extend_error⟩
  | ok x =>
    cases hcourse with
    | finished commands clear holds =>
      obtain ⟨more, hlog', hoptions', hcourse'⟩ := hg calls x m' holds
      refine ⟨calls ++ more, ?_, ?_, hcourse'.prepend commands clear⟩
      · dsimp only
        rw [hlog', hlog, List.append_assoc]
      · intro c hc
        rcases List.mem_append.1 hc with hc | hc
        · exact hoptions c hc
        · exact hoptions' c hc

/-- An action that issues no more commands completes the plan. -/
theorem Keeps.bind_last {a : Action (σ × List Call) α} {g : α → Action (σ × List Call) β}
    {post : List Call → α → FileSystem → Prop} {post' : List Call → β → FileSystem → Prop}
    (ha : Keeps options plan other a m post)
    (hg : ∀ calls x (m' : Machine (σ × List Call)), post calls x m'.files →
      Keeps options [] other (g x) m' fun more y files => post' (calls ++ more) y files) :
    Keeps options plan other (a >>= g) m post' := by
  have h := ha.bind hg
  rwa [List.append_nil] at h

/-- An action that issues no commands before the plan begins. -/
theorem Keeps.bind_first {a : Action (σ × List Call) α} {g : α → Action (σ × List Call) β}
    {post : List Call → α → FileSystem → Prop} {post' : List Call → β → FileSystem → Prop}
    (ha : Keeps options [] other a m post)
    (hg : ∀ calls x (m' : Machine (σ × List Call)), post calls x m'.files →
      Keeps options plan other (g x) m' fun more y files => post' (calls ++ more) y files) :
    Keeps options plan other (a >>= g) m post' :=
  ha.bind hg

end Action

/-- A watched command either ends the action with its failure or hands on what it gave out. -/
theorem StepContext.command_keeps {settings : Settings} {r : Runner σ} {scrapers : Scrapers}
    {other : Failure → Prop} {kind : StepKind} {command : String} {m : Machine (σ × List Call)} :
    Action.Keeps (options settings kind) [command] other
      (StepContext.command ⟨settings, r.watched, scrapers⟩ kind command) m
      fun calls o _ =>
        ∃ call : Call, calls = [call] ∧ call.answer = .ok o ∧ o.timedOut = false ∧
          call.command = command := by
  rcases hr : r command (options settings kind) m.files m.runner.1 with ⟨answer, files, state⟩
  have hwatched : r.watched command (options settings kind) m.files m.runner =
      (answer, files, state, m.runner.2 ++ [⟨command, options settings kind, answer⟩]) := by
    simp only [Runner.watched, hr]
  let call : Call := ⟨command, options settings kind, answer⟩
  let left : Machine (σ × List Call) := ⟨files, (state, m.runner.2 ++ [call]), m.clock⟩
  have hcall : ∀ c ∈ [call], c.options = options settings kind := by simp [call]
  have hcommand : ([] ++ [call]).map Call.command <+: [command] := List.prefix_refl _
  cases answer with
  | error f =>
    have hrun : StepContext.command ⟨settings, r.watched, scrapers⟩ kind command m =
        (.error f, left) := by
      simp only [StepContext.command, hwatched]
      rfl
    refine ⟨[call], by rw [hrun], hcall, ?_⟩
    rw [hrun]
    exact .faulted hcommand (by simp) (Call.fault?_of_error rfl)
  | ok o =>
    cases ho : o.timedOut with
    | true =>
      have hrun : StepContext.command ⟨settings, r.watched, scrapers⟩ kind command m =
          (.error (.commandTimeout command (settings.timeouts.limit kind)), left) := by
        simp only [StepContext.command, hwatched, ho, if_true]
        rfl
      refine ⟨[call], by rw [hrun], hcall, ?_⟩
      rw [hrun]
      exact .faulted hcommand (by simp) (Call.fault?_of_timedOut rfl ho)
    | false =>
      have hrun : StepContext.command ⟨settings, r.watched, scrapers⟩ kind command m =
          (.ok o, left) := by
        simp only [StepContext.command, hwatched, ho, Bool.false_eq_true, if_false]
        rfl
      have hclear : ∀ c ∈ [call], c.fault? = none := by
        simpa using Call.fault?_of_not_timedOut (c := call) rfl ho
      refine ⟨[call], by rw [hrun], hcall, ?_⟩
      rw [hrun]
      exact .finished rfl hclear ⟨call, rfl, rfl, ho, rfl⟩

end BuildPipeline

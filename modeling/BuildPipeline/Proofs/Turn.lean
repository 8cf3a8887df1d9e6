import BuildPipeline.Run.Pipeline

/-! Runs as lists of turns. Handlers are first imagined to be executed one after another, whatever
comes of each; a run then consists of these turns up to the first failed one. -/
namespace BuildPipeline
variable {σ : Type}

structure Turn (σ : Type) where
  handler : Handler σ
  before : Machine σ
  start : Reading
  outcome : StepOutcome
  stop : Reading
  after : Machine σ

namespace Turn

def result (t : Turn σ) : Except Failure StepRun := t.outcome.result t.handler.name

def verdict (s : Settings) (t : Turn σ) : Verdict :=
  classify (s.policies.policy t.handler.kind) s.minRecognizedTests t.result

def failed (s : Settings) (t : Turn σ) : Bool := (t.verdict s).status = .failed

def step (s : Settings) (t : Turn σ) : StepResult where
  name := t.handler.name
  status := (t.verdict s).status
  startedAt := t.start.moment
  durationMs := t.start.elapsed t.stop
  detail := match t.result with
    | .ok run => run.detail
    | .error f => .message f.message
  errorMessage := (t.verdict s).reason?

/-- The metrics of a turn; a handler that did not finish has none. -/
def metrics (t : Turn σ) : List (String × Float) :=
  match t.result with
  | .ok run => run.metrics
  | .error _ => []

def error? (s : Settings) (t : Turn σ) : Option String :=
  (t.verdict s).reason?.map fun reason => t.handler.name ++ " failed: " ++ reason

def told (s : Settings) (index : Nat) (t : Turn σ) : List Event :=
  [.stepStarted t.handler.name (Count.saturate index),
    .stepCompleted t.handler.name (t.verdict s).status (t.start.elapsed t.stop)
      (t.step s).detail.summary]

def toldOfEnd (s : Settings) (t : Turn σ) : List Event :=
  match (t.verdict s).reason? with
  | some reason => [.phaseChanged .aborting, .pipelineAborted t.handler.name reason]
  | none => []

/-- The turns up to the first failed one, which is among them. -/
def upToFailure (s : Settings) : List (Turn σ) → List (Turn σ)
  | [] => []
  | t :: rest => t :: if t.failed s then [] else upToFailure s rest

def eventsFrom (s : Settings) : Nat → List (Turn σ) → List Event
  | _, [] => []
  | index, t :: rest => (t.told s index ++ t.toldOfEnd s) ++ eventsFrom s (index + 1) rest

def leave (m : Machine σ) : List (Turn σ) → Machine σ
  | [] => m
  | t :: rest => leave t.after rest

theorem failed_iff {s : Settings} {t : Turn σ} :
    t.failed s = true ↔ ∃ reason, t.verdict s = .failed reason := by
  cases h : t.verdict s <;> simp [failed, Verdict.status, h]

theorem not_failed_of_success {s : Settings} {t : Turn σ} (h : t.verdict s = .success) :
    t.failed s = false := by
  rw [failed, h]
  rfl

theorem reason?_of_failed {s : Settings} {t : Turn σ} {reason : String}
    (h : t.verdict s = .failed reason) : (t.verdict s).reason? = some reason := by
  rw [h]
  rfl

theorem reason?_of_not_failed {s : Settings} {t : Turn σ} (h : t.failed s = false) :
    (t.verdict s).reason? = none := by
  cases hv : t.verdict s with
  | failed reason => simp [failed, Verdict.status, hv] at h
  | success | warning | partly => rfl

theorem upToFailure_of_not_failed {s : Settings} {ts : List (Turn σ)}
    (h : ∀ t ∈ ts, t.failed s = false) : upToFailure s ts = ts := by
  induction ts with
  | nil => rfl
  | cons t rest ih =>
    have ht := h t List.mem_cons_self
    have hrest := ih fun u hu => h u (List.mem_cons_of_mem t hu)
    simp [upToFailure, ht, hrest]

theorem upToFailure_append_cons {s : Settings} {before : List (Turn σ)} {t : Turn σ}
    (rest : List (Turn σ)) (hbefore : ∀ u ∈ before, u.failed s = false) (ht : t.failed s = true) :
    upToFailure s (before ++ t :: rest) = before ++ [t] := by
  induction before with
  | nil => simp [upToFailure, ht]
  | cons u us ih =>
    have hu := hbefore u List.mem_cons_self
    have hus := ih fun v hv => hbefore v (List.mem_cons_of_mem u hv)
    simp [upToFailure, hu, hus]

/-- Either no turn failed and all of them are taken, or the first failed one is the last taken. -/
theorem upToFailure_cases (s : Settings) (ts : List (Turn σ)) :
    (upToFailure s ts = ts ∧ ∀ t ∈ ts, t.failed s = false) ∨
    ∃ before t reason rest, ts = before ++ t :: rest ∧ upToFailure s ts = before ++ [t] ∧
      (∀ u ∈ before, u.failed s = false) ∧ t.verdict s = .failed reason := by
  induction ts with
  | nil => exact .inl ⟨rfl, by simp⟩
  | cons t rest ih =>
    cases ht : t.failed s with
    | true =>
      obtain ⟨reason, hv⟩ := failed_iff.1 ht
      exact .inr ⟨[], t, reason, rest, rfl, by simp [upToFailure, ht], by simp, hv⟩
    | false =>
      rcases ih with ⟨heq, hall⟩ | ⟨before, u, reason, rest', heq, hup, hbefore, hv⟩
      · exact .inl ⟨by simp [upToFailure, ht, heq], by simpa [ht] using hall⟩
      · refine .inr ⟨t :: before, u, reason, rest', by simp [heq], ?_, ?_, hv⟩
        · simp [upToFailure, ht, hup]
        · simpa [ht] using hbefore

theorem upToFailure_prefix (s : Settings) (ts : List (Turn σ)) : upToFailure s ts <+: ts := by
  rcases upToFailure_cases s ts with ⟨heq, _⟩ | ⟨before, t, _, rest, heq, hup, _, _⟩
  · exact ⟨[], by rw [heq, List.append_nil]⟩
  · exact ⟨rest, by rw [hup, heq, List.append_assoc, List.singleton_append]⟩

/-- No turn before one that is taken failed. -/
theorem not_failed_of_upToFailure {s : Settings} {ts earlier later : List (Turn σ)} {t : Turn σ}
    (h : upToFailure s ts = earlier ++ t :: later) : ∀ u ∈ earlier, u.failed s = false := by
  induction ts generalizing earlier with
  | nil => simp [upToFailure] at h
  | cons v rest ih =>
    cases earlier with
    | nil => simp
    | cons w us =>
      rw [upToFailure, List.cons_append] at h
      obtain ⟨rfl, hrest⟩ := List.cons.inj h
      cases hv : v.failed s with
      | true => simp [hv] at hrest
      | false =>
        rw [hv, if_neg Bool.false_ne_true] at hrest
        exact List.forall_mem_cons.2 ⟨hv, ih hrest⟩

/-- The first failed turn, by its index. -/
theorem take_of_findIdx? {s : Settings} {ts : List (Turn σ)} {k : Nat}
    (hk : ts.findIdx? (·.failed s) = some k) :
    ∃ t reason, ts[k]? = some t ∧ t.verdict s = .failed reason ∧
      ts.take (k + 1) = ts.take k ++ [t] ∧ ∀ u ∈ ts.take k, u.failed s = false := by
  obtain ⟨hlt, ht, hbefore⟩ := List.findIdx?_eq_some_iff_getElem.1 hk
  obtain ⟨reason, hv⟩ := failed_iff.1 ht
  refine ⟨ts[k], reason, List.getElem?_eq_getElem hlt, hv, by simp, ?_⟩
  intro u hu
  obtain ⟨j, hj, rfl⟩ := List.mem_iff_getElem.1 hu
  have hjk : j < k := by
    rw [List.length_take] at hj
    omega
  simpa using hbefore j hjk

/-- Whatever follows the first failed turn is left out. -/
theorem upToFailure_take_append {s : Settings} {ts : List (Turn σ)} {k : Nat}
    (hk : ts.findIdx? (·.failed s) = some k) (us : List (Turn σ)) :
    upToFailure s (ts.take (k + 1) ++ us) = ts.take (k + 1) := by
  obtain ⟨t, reason, _, hv, htake, hbefore⟩ := take_of_findIdx? hk
  rw [htake, List.append_assoc]
  exact upToFailure_append_cons us hbefore (failed_iff.2 ⟨reason, hv⟩)

theorem errors_of_not_failed {s : Settings} {ts : List (Turn σ)}
    (h : ∀ t ∈ ts, t.failed s = false) : ts.filterMap (error? s) = [] := by
  simp only [List.filterMap_eq_nil_iff]
  intro t ht
  rw [error?, reason?_of_not_failed (h t ht)]
  rfl

theorem errors_of_last_failed {s : Settings} {before : List (Turn σ)} {t : Turn σ}
    {reason : String} (hbefore : ∀ u ∈ before, u.failed s = false)
    (hv : t.verdict s = .failed reason) :
    (before ++ [t]).filterMap (error? s) = [t.handler.name ++ " failed: " ++ reason] := by
  rw [List.filterMap_append, errors_of_not_failed hbefore]
  simp [error?, reason?_of_failed hv]

@[simp] theorem leave_append (m : Machine σ) (ts us : List (Turn σ)) :
    leave m (ts ++ us) = leave (leave m ts) us := by
  induction ts generalizing m with
  | nil => rfl
  | cons t rest ih => exact ih t.after

end Turn

def Draft.follow (s : Settings) (d : Draft) (ts : List (Turn σ)) : Draft :=
  { d with
    steps := d.steps ++ ts.map (Turn.step s)
    metrics := d.metrics.insertAll (ts.flatMap Turn.metrics)
    errors := d.errors ++ ts.filterMap (Turn.error? s) }

theorem Draft.follow_nil (s : Settings) (d : Draft) : d.follow s ([] : List (Turn σ)) = d := by
  simp [follow, SortedMap.insertAll]

theorem Draft.follow_append (s : Settings) (d : Draft) (ts us : List (Turn σ)) :
    d.follow s (ts ++ us) = (d.follow s ts).follow s us := by
  simp [follow, SortedMap.insertAll, List.append_assoc]

theorem Draft.follow_of_failed {s : Settings} {t : Turn σ} {reason : String} (d : Draft)
    (h : t.verdict s = .failed reason) :
    d.follow s [t] = ((d.recordMetrics t.metrics).pushStep (t.step s)).pushError
      (t.handler.name ++ " failed: " ++ reason) := by
  simp [follow, recordMetrics, pushStep, pushError, Turn.error?, Turn.reason?_of_failed h]

theorem Draft.follow_of_not_failed {s : Settings} {t : Turn σ} (d : Draft)
    (h : t.failed s = false) :
    d.follow s [t] = (d.recordMetrics t.metrics).pushStep (t.step s) := by
  simp [follow, recordMetrics, pushStep, Turn.error?, Turn.reason?_of_not_failed h]

namespace Pipeline

def turn (p : Pipeline σ) (h : Handler σ) (m : Machine σ) : Turn σ :=
  let opened := { m with clock := m.clock.look.2 }
  let left := (h.execute p.context opened).2
  { handler := h
    before := m
    start := m.clock.look.1
    outcome := (h.execute p.context opened).1
    stop := left.clock.look.1
    after := { left with clock := left.clock.look.2 } }

theorem turn_of_execute {p : Pipeline σ} {h : Handler σ} {m left : Machine σ}
    {outcome : StepOutcome}
    (hx : h.execute p.context { m with clock := m.clock.look.2 } = (outcome, left)) :
    p.turn h m = ⟨h, m, m.clock.look.1, outcome, left.clock.look.1,
      { left with clock := left.clock.look.2 }⟩ := by
  simp only [turn, hx]

/-- The turns of handlers one after another, whatever comes of each. -/
def turns (p : Pipeline σ) : List (Handler σ) → Machine σ → List (Turn σ)
  | [], _ => []
  | h :: rest, m => p.turn h m :: turns p rest (p.turn h m).after

theorem handlers_turns (p : Pipeline σ) (hs : List (Handler σ)) (m : Machine σ) :
    (p.turns hs m).map (·.handler) = hs := by
  induction hs generalizing m with
  | nil => rfl
  | cons h rest ih => simp [turns, ih, turn]

theorem turns_append (p : Pipeline σ) (hs gs : List (Handler σ)) (m : Machine σ) :
    p.turns (hs ++ gs) m = p.turns hs m ++ p.turns gs (Turn.leave m (p.turns hs m)) := by
  induction hs generalizing m with
  | nil => rfl
  | cons h rest ih => simp [turns, ih, Turn.leave]

theorem turns_take (p : Pipeline σ) (hs : List (Handler σ)) (n : Nat) (m : Machine σ) :
    p.turns (hs.take n) m = (p.turns hs m).take n := by
  induction hs generalizing n m with
  | nil => simp [turns]
  | cons h rest ih =>
    cases n with
    | zero => rfl
    | succ n => simp [turns, ih]

/-- The turns of handlers depend on the pipeline only through its context. -/
theorem turns_congr {p q : Pipeline σ} (h : p.context = q.context) (hs : List (Handler σ))
    (m : Machine σ) : p.turns hs m = q.turns hs m := by
  induction hs generalizing m with
  | nil => rfl
  | cons g rest ih => simp only [turns, turn, h, ih]

theorem executeStep_eq (p : Pipeline σ) (h : Handler σ) (index : Nat) (s : Progress σ) :
    let t := p.turn h s.machine
    p.executeStep h index s = (t.step p.settings,
      ⟨t.after, (s.draft.recordMetrics t.metrics).pushStep (t.step p.settings),
        s.events ++ t.told p.settings index⟩) := by
  intro t
  have h' : s.events ++ t.told p.settings index =
      (s.events ++ [.stepStarted h.name (Count.saturate index)]) ++
        [.stepCompleted h.name (t.verdict p.settings).status (t.start.elapsed t.stop)
          (t.step p.settings).detail.summary] := by
    rw [List.append_assoc]
    rfl
  rw [h']
  rfl

/-- Executing a handler follows its turn, and then goes on unless that failed. -/
theorem executeSteps_cons (p : Pipeline σ) (h : Handler σ) (rest : List (Handler σ)) (index : Nat)
    (s : Progress σ) :
    let t := p.turn h s.machine
    let s' : Progress σ := ⟨t.after, s.draft.follow p.settings [t],
      s.events ++ (t.told p.settings index ++ t.toldOfEnd p.settings)⟩
    p.executeSteps (h :: rest) index s =
      if t.failed p.settings then s' else p.executeSteps rest (index + 1) s' := by
  intro t s'
  rw [executeSteps, p.executeStep_eq h index s]
  cases hf : t.failed p.settings with
  | true =>
    obtain ⟨reason, hv⟩ := Turn.failed_iff.1 hf
    have hmessage : ((p.turn h s.machine).step p.settings).errorMessage = some reason :=
      Turn.reason?_of_failed hv
    simp only [hmessage, if_true, s', Draft.follow_of_failed _ hv, Turn.toldOfEnd,
      Turn.reason?_of_failed hv, abort, Progress.tell, List.append_assoc]
    rfl
  | false =>
    have hmessage : ((p.turn h s.machine).step p.settings).errorMessage = none :=
      Turn.reason?_of_not_failed hf
    simp only [hmessage, Bool.false_eq_true, if_false, s', Draft.follow_of_not_failed _ hf,
      Turn.toldOfEnd, Turn.reason?_of_not_failed hf, List.append_nil, t]

/-- Executing handlers follows their turns up to the first failed one. -/
theorem executeSteps_eq (p : Pipeline σ) (hs : List (Handler σ)) (index : Nat) (s : Progress σ) :
    let ts := Turn.upToFailure p.settings (p.turns hs s.machine)
    p.executeSteps hs index s = ⟨Turn.leave s.machine ts, s.draft.follow p.settings ts,
      s.events ++ Turn.eventsFrom p.settings index ts⟩ := by
  induction hs generalizing index s with
  | nil =>
    simp [executeSteps, turns, Turn.upToFailure, Turn.leave, Turn.eventsFrom, Draft.follow_nil]
  | cons h rest ih =>
    intro ts
    rw [executeSteps_cons]
    cases hf : (p.turn h s.machine).failed p.settings with
    | true =>
      simp [ts, turns, Turn.upToFailure, hf, Turn.leave, Turn.eventsFrom]
    | false =>
      simp only [ih, ts, turns, Turn.upToFailure, hf, Turn.leave, Turn.eventsFrom]
      simp [List.append_assoc, ← Draft.follow_append]

end Pipeline
end BuildPipeline

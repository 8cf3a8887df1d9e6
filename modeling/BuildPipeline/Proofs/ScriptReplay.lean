import BuildPipeline.Command.Scripted
import BuildPipeline.Proofs.Metrics

/-! What a script answers to calls in any order, told by the responses alone: the call of a command
that comes j-th gets its j-th response, and the last one once they are used up. The other commands
do not matter. -/
namespace BuildPipeline

/-- Gives calls to a runner one after another: their results, and what they leave behind. -/
def Runner.serve {σ : Type} (r : Runner σ) : List (String × RunOptions) → FileSystem → σ →
    List (Except Failure ProcessOutput) × FileSystem × σ
  | [], files, state => ([], files, state)
  | call :: rest, files, state =>
    let (result, files, state) := r call.1 call.2 files state
    let (results, files, state) := r.serve rest files state
    (result :: results, files, state)

theorem Runner.serve_cons {σ : Type} {r : Runner σ} {call : String × RunOptions}
    {rest : List (String × RunOptions)} {files files' files'' : FileSystem} {s s' s'' : σ}
    {result : Except Failure ProcessOutput} {results : List (Except Failure ProcessOutput)}
    (hcall : r call.1 call.2 files s = (result, files', s'))
    (hrest : r.serve rest files' s' = (results, files'', s'')) :
    r.serve (call :: rest) files s = (result :: results, files'', s'') := by
  simp only [serve, hcall, hrest]

namespace Script

/-- A script without responses, strict or lenient. -/
def fresh (isStrict : Bool) : Script := if isStrict then strict else lenient

/-- The responses to a command in the order in which they were queued. -/
def responsesTo (queued : List (String × Response)) (command : String) : List Response :=
  (queued.filter (·.1 = command)).map (·.2)

/-- The response to the `j`-th call of a command, counted from one; none if none was queued. -/
def dueResponse (queued : List (String × Response)) (command : String) (j : Nat) :
    Option Response :=
  (responsesTo queued command)[min j (responsesTo queued command).length - 1]?

/-- What the `j`-th call of a command comes to. -/
def dueResult (isStrict : Bool) (queued : List (String × Response)) (command : String)
    (options : RunOptions) (j : Nat) : Except Failure ProcessOutput :=
  match dueResponse queued command j with
  | some (.output o) =>
    .ok (if options.captureOutput then o else { o with stdout := "", stderr := "" })
  | some .timeout => .ok {
      exitCode := -1
      stderr := "Command timed out after " ++ options.limit.text ++ "ms"
      timedOut := true
      durationMs := options.limit }
  | some (.spawnError message) => .error (.spawnFailed command message)
  | none => if isStrict then .error (.spawnFailed command "no scripted response") else .ok {}

/-- What is left of a command's responses after some calls of it: the last one stays. -/
def left (responses : List Response) (spent : Nat) : Option (List Response) :=
  if responses = [] then none else some (responses.drop (min spent (responses.length - 1)))

/-- A script after the calls of `past`. -/
structure Replayed (isStrict : Bool) (queued : List (String × Response)) (past : List String)
    (s : Script) : Prop where
  fallback : s.fallback = if isStrict then none else some (.output {})
  calls : s.calls = past
  queues : ∀ command,
    s.queues.get? command = left (responsesTo queued command) (past.count command)

variable {isStrict : Bool} {queued : List (String × Response)} {past : List String} {s : Script}

theorem responsesTo_cons (r : String × Response) (command : String) :
    responsesTo (r :: queued) command =
      (if r.1 = command then [r.2] else []) ++ responsesTo queued command := by
  by_cases h : r.1 = command <;> simp [responsesTo, h]

/-- Responses join the end of their command's queue. -/
theorem get?_respondAll (s : Script) (queued : List (String × Response)) (command : String) :
    (s.respondAll queued).queues.get? command =
      if responsesTo queued command = [] then s.queues.get? command
      else some ((s.queues.get? command).getD [] ++ responsesTo queued command) := by
  induction queued generalizing s with
  | nil => rfl
  | cons r rest ih =>
    have hstep : s.respondAll (r :: rest) = (s.respond r.1 r.2).respondAll rest := rfl
    rw [hstep, ih, responsesTo_cons, respond, SortedMap.get?_insert]
    by_cases h : r.1 = command
    · simp only [h, if_true]
      by_cases hrest : responsesTo rest command = [] <;> simp [hrest]
    · simp [h, Ne.symm h]

theorem fields_respondAll (s : Script) (queued : List (String × Response)) :
    (s.respondAll queued).fallback = s.fallback ∧ (s.respondAll queued).calls = s.calls := by
  induction queued generalizing s with
  | nil => exact ⟨rfl, rfl⟩
  | cons r rest ih => exact ih (s.respond r.1 r.2)

theorem replayed_fresh (isStrict : Bool) (queued : List (String × Response)) :
    Replayed isStrict queued [] ((fresh isStrict).respondAll queued) where
  fallback := by
    rw [(fields_respondAll _ _).1]
    cases isStrict <;> rfl
  calls := by
    rw [(fields_respondAll _ _).2]
    cases isStrict <;> rfl
  queues command := by
    have hnone : (fresh isStrict).queues.get? command = none := by cases isStrict <;> rfl
    rw [get?_respondAll, hnone, left]
    simp

/-- The front of what is left is due. The next call finds the rest, or the same again if there is
none. -/
theorem left_cases {responses : List Response} (hne : responses ≠ []) (spent : Nat) :
    ∃ r rest, left responses spent = some (r :: rest) ∧
      responses[min (spent + 1) responses.length - 1]? = some r ∧
      left responses (spent + 1) = some (if rest = [] then [r] else rest) := by
  have hpos : 0 < responses.length := List.length_pos_iff.2 hne
  have hlt : min spent (responses.length - 1) < responses.length := by omega
  have hdue : min (spent + 1) responses.length - 1 = min spent (responses.length - 1) := by omega
  have hdrop := List.drop_eq_getElem_cons hlt
  refine ⟨_, _, by rw [left, if_neg hne, hdrop], by rw [hdue, List.getElem?_eq_getElem hlt], ?_⟩
  rw [left, if_neg hne]
  by_cases hlast : spent + 1 < responses.length
  · have hrest : responses.drop (min spent (responses.length - 1) + 1) ≠ [] := by
      rw [Ne, List.drop_eq_nil_iff]
      omega
    rw [if_neg hrest]
    congr 2
    omega
  · have hrest : responses.drop (min spent (responses.length - 1) + 1) = [] := by
      rw [List.drop_eq_nil_iff]
      omega
    have hsame : min (spent + 1) (responses.length - 1) = min spent (responses.length - 1) := by
      omega
    rw [if_pos hrest, hsame, hdrop, hrest]

/-- The next call of a command takes the response that is due and leaves the others. -/
theorem Replayed.next (h : Replayed isStrict queued past s) (command : String) :
    ((s.record command).next command).1 =
        (dueResponse queued command (past.count command + 1)).or s.fallback ∧
      Replayed isStrict queued (past ++ [command]) ((s.record command).next command).2 := by
  have hqueue := h.queues command
  have hcalls : s.calls ++ [command] = past ++ [command] := by rw [h.calls]
  have hcount (other : String) : (past ++ [command]).count other =
      past.count other + if command = other then 1 else 0 := by
    simp [List.count_append, List.count_singleton]
  by_cases hnil : responsesTo queued command = []
  · rw [left, if_pos hnil] at hqueue
    have hnext : (s.record command).next command = (s.fallback, s.record command) := by
      simp only [Script.next, record, hqueue]
    rw [hnext, dueResponse, hnil]
    refine ⟨rfl, h.fallback, hcalls, fun other => ?_⟩
    rw [show (s.record command).queues = s.queues from rfl, h.queues, hcount]
    by_cases hother : command = other
    · subst hother
      simp [left, hnil]
    · simp [hother]
  · obtain ⟨r, rest, hleft, hdue, hafter⟩ := left_cases hnil (past.count command)
    rw [hleft] at hqueue
    rw [dueResponse, hdue]
    cases rest with
    | nil =>
      have hnext : (s.record command).next command = (some r, s.record command) := by
        simp only [Script.next, record, hqueue]
      rw [hnext]
      refine ⟨rfl, h.fallback, hcalls, fun other => ?_⟩
      rw [show (s.record command).queues = s.queues from rfl, hcount]
      by_cases hother : command = other
      · subst hother
        simpa [hafter] using hqueue
      · simpa [hother] using h.queues other
    | cons r' rest =>
      have hnext : (s.record command).next command = (some r,
          { s.record command with queues := s.queues.insert command (r' :: rest) }) := by
        simp only [Script.next, record, hqueue]
      rw [hnext]
      refine ⟨rfl, h.fallback, hcalls, fun other => ?_⟩
      rw [SortedMap.get?_insert, hcount]
      by_cases hother : command = other
      · subst hother
        simp [hafter]
      · simpa [hother, Ne.symm hother] using h.queues other

/-- What a response means for a call is what the closed form says. -/
theorem answer_due (h : Replayed isStrict queued past s) (command : String) (options : RunOptions)
    (j : Nat) : answer command options ((dueResponse queued command j).or s.fallback) =
      dueResult isStrict queued command options j := by
  rw [dueResult, h.fallback]
  cases dueResponse queued command j with
  | some r => cases r <;> rfl
  | none =>
    cases isStrict with
    | true => rfl
    | false =>
      cases hcapture : options.captureOutput <;>
        simp [answer, hcapture, ProcessOutput.withoutStreams]

/-- One call: its result is the one that is due, no file changes, and the script goes on. -/
theorem Replayed.runner (h : Replayed isStrict queued past s) (command : String)
    (options : RunOptions) (files : FileSystem) :
    ∃ s', Script.runner command options files s =
        (dueResult isStrict queued command options (past.count command + 1), files, s') ∧
      Replayed isStrict queued (past ++ [command]) s' := by
  obtain ⟨hresponse, hnext⟩ := h.next command
  refine ⟨_, ?_, hnext⟩
  rw [← answer_due h, ← hresponse]
  rfl

/-- All calls after those of `past`, each at its own place in the count of its command. -/
theorem Replayed.serve (h : Replayed isStrict queued past s) (calls : List (String × RunOptions))
    (files : FileSystem) :
    ∃ results s', Script.runner.serve calls files s = (results, files, s') ∧
      (∀ i : Nat, results[i]? = calls[i]?.map fun call =>
        dueResult isStrict queued call.1 call.2
          ((past ++ (calls.take (i + 1)).map (·.1)).count call.1)) ∧
      Replayed isStrict queued (past ++ calls.map (·.1)) s' := by
  induction calls generalizing past s with
  | nil => exact ⟨[], s, rfl, fun i => by simp, by simpa using h⟩
  | cons call rest ih =>
    obtain ⟨s', hcall, h'⟩ := h.runner call.1 call.2 files
    obtain ⟨results, s'', hrest, hresults, h''⟩ := ih h'
    refine ⟨_, s'', Runner.serve_cons hcall hrest, fun i => ?_, by simpa using h''⟩
    cases i with
    | zero => simp
    | succ i => simpa [List.append_assoc] using hresults i

/-- The results of any calls are those of the closed form, each by how often its command has been
called up to then. All the commands are recorded, and no file changes. -/
theorem serve_closed_form (isStrict : Bool) (queued : List (String × Response))
    (calls : List (String × RunOptions)) (files : FileSystem) :
    let served := runner.serve calls files ((fresh isStrict).respondAll queued)
    (∀ i : Nat, served.1[i]? = calls[i]?.map fun call =>
      dueResult isStrict queued call.1 call.2 (((calls.take (i + 1)).map (·.1)).count call.1)) ∧
    served.2.1 = files ∧ served.2.2.calls = calls.map (·.1) := by
  intro served
  obtain ⟨results, s, hserve, hresults, h⟩ := (replayed_fresh isStrict queued).serve calls files
  have hserved : served = (results, files, s) := hserve
  rw [hserved]
  exact ⟨hresults, rfl, h.calls⟩

end Script
end BuildPipeline

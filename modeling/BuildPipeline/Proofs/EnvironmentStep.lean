import BuildPipeline.Proofs.SummaryLine
import BuildPipeline.Proofs.ToolChecks

/-! Environment validation as it is reported. Whatever the commands answer in time, all of them are
issued; versions are those of the last answers, the reason is that of the first fault. -/
namespace BuildPipeline
variable {σ : Type}

namespace SortedMap
variable {α β : Type}

theorem lookup_map (f : α → β) (es : List (String × α)) (key : String) :
    (es.map fun e => (e.1, f e.2)).lookup key = (es.lookup key).map f := by
  induction es with
  | nil => rfl
  | cons e rest ih =>
    rw [List.map_cons, lookup_cons, ih, lookup_cons]
    by_cases hk : key = e.1 <;> simp [hk]

end SortedMap

namespace Text

theorem trim_append_blank {c : Char} (h : isBlank c = true) (text : List Char) :
    trim (text ++ [c]) = trim text := by
  have hend (front : List Char) : trimEnd (front ++ [c]) = trimEnd front := by
    rw [trimEnd, List.reverse_append, List.reverse_singleton, List.singleton_append,
      List.dropWhile_cons_of_pos h, trimEnd]
  rw [trim, trimStart, List.dropWhile_append, trim, trimStart]
  split
  · next hall =>
    rw [List.isEmpty_iff.1 hall, List.dropWhile_cons_of_pos h]
    rfl
  · exact hend _

theorem headD_linePieces (text : List Char) :
    ((linePieces text).headD ([], false)).1 = text.takeWhile (· ≠ '\n') := by
  induction text with
  | nil => rfl
  | cons c rest ih =>
    by_cases hc : c = '\n'
    · rw [hc, linePieces_feed]
      rfl
    · rw [List.takeWhile_cons_of_pos (by simpa using hc), ← ih]
      by_cases hrest : rest = []
      · rw [hrest, linePieces_singleton hc]
        rfl
      · obtain ⟨piece, more, hpieces⟩ := List.exists_cons_of_ne_nil (linePieces_ne_nil hrest)
        rw [hpieces, linePieces_cons hc hpieces]
        rfl

/-- A line's ending is white space, so that it does not matter for the line when trimmed. -/
theorem trim_withoutReturn (piece : List Char × Bool) :
    trim (withoutReturn piece) = trim piece.1 := by
  rw [withoutReturn]
  split
  · next h =>
    have hlast : piece.1.getLast? = some '\r' := by simpa using (Bool.and_eq_true_iff.1 h).2
    obtain ⟨front, hfront⟩ := List.getLast?_eq_some_iff.1 hlast
    rw [hfront, List.dropLast_concat, trim_append_blank (by decide)]
  · rfl

end Text

namespace Call.Answered
variable {calls : List Call} {answers : List (String × ProcessOutput)}

theorem eq_map {options : RunOptions} (h : Answered calls answers)
    (hoptions : ∀ c ∈ calls, c.options = options) :
    calls = answers.map fun a => ⟨a.1, options, .ok a.2⟩ := by
  let rebuild (e : String × Except Failure ProcessOutput) : Call := ⟨e.1, options, e.2⟩
  calc
    calls = (calls.map fun c => (c.command, c.answer)).map rebuild := by
      rw [List.map_map, eq_comm]
      refine (List.map_congr_left ?_).trans (List.map_id calls)
      intro c hc
      simp [rebuild, ← hoptions c hc]
    _ = answers.map fun a => ⟨a.1, options, .ok a.2⟩ := by
      rw [h, List.map_map]
      rfl

theorem not_timedOut (h : Answered calls answers) (hclear : ∀ c ∈ calls, c.fault? = none) :
    ∀ a ∈ answers, a.2.timedOut = false := by
  intro a ha
  obtain ⟨c, hc, -, hanswer⟩ := h.exists_call ha
  exact Call.not_timedOut hanswer (hclear c hc)

end Call.Answered

namespace Step

theorem findSome?_faultOf {answers : List (String × ProcessOutput)}
    (h : ∀ a ∈ answers, a.2.timedOut = false) :
    answers.findSome? faultOf = (answers.find? fun a => a.2.exitCode ≠ 0).map
      fun a => "'" ++ a.1 ++ "' " ++ exitReason a.2 := by
  induction answers with
  | nil => rfl
  | cons a rest ih =>
    obtain ⟨ha, hrest⟩ := List.forall_mem_cons.1 h
    have hfault : faultOf a =
        if a.2.exitCode = 0 then none else some ("'" ++ a.1 ++ "' " ++ exitReason a.2) := by
      rw [faultOf, exitFailure?_of_not_timedOut ha]
      split <;> rfl
    rw [List.findSome?_cons, hfault, List.find?_cons]
    by_cases hexit : a.2.exitCode = 0
    · simpa [hexit] using ih hrest
    · simp [hexit]

theorem version_eq (o : ProcessOutput) :
    version o = Text.trimmed (String.ofList (o.stdout.toList.takeWhile (· ≠ '\n'))) := by
  have hfirst : (Text.lines o.stdout.toList).headD [] =
      Text.withoutReturn ((Text.linePieces o.stdout.toList).headD ([], false)) := by
    rw [Text.lines]
    cases Text.linePieces o.stdout.toList <;> rfl
  rw [version, hfirst, Text.trim_withoutReturn, Text.headD_linePieces, Text.trimmed,
    String.toList_ofList]

theorem ToolChecks.get?_tools (answers : List (String × ProcessOutput)) (command : String) :
    (addAll {} answers).tools.get? command = (answers.reverse.lookup command).map version := by
  rw [tools_addAll, SortedMap.get?_insertAll, ← List.map_reverse, SortedMap.lookup_map]
  exact Option.or_none

theorem ToolChecks.mem_tools_keys {answers : List (String × ProcessOutput)} {command : String} :
    command ∈ (addAll {} answers).tools.keys ↔ command ∈ answers.map Prod.fst := by
  rw [tools_addAll]
  refine SortedMap.mem_keys_insertAll.trans ?_
  rw [List.map_map]
  rfl

/-- Every listed command is issued once in its place, also after one that failed. The last answer to
a command gives its version, which is the first line of its output; the first command that failed
gives the reason, and only without one the missing manifest does. Whether the optional file is there
is reported and nothing more. -/
theorem environment_reports (settings : Settings) (scrapers : Scrapers) (r : Runner σ)
    (m : Machine σ) (hclear : ∀ c ∈
      (environment ⟨settings, r.watched, scrapers⟩ m.watched).2.runner.2, c.fault? = none) :
    let after := (environment ⟨settings, r.watched, scrapers⟩ m.watched).2
    ∃ (answers : List (String × ProcessOutput)) (run : StepRun) (detail : EnvironmentDetail),
      environment ⟨settings, r, scrapers⟩ m = (.ok run, after.map Prod.fst) ∧
      answers.map Prod.fst = settings.commands.environment ∧
      after.runner.2 =
        answers.map (fun a => ⟨a.1, StepContext.options settings .environment, .ok a.2⟩) ∧
      run.detail = .environment detail ∧
      (∀ command, command ∈ detail.tools.keys ↔ command ∈ settings.commands.environment) ∧
      (∀ command,
        detail.tools.get? command = (answers.reverse.lookup command).map fun o =>
          Text.trimmed (String.ofList (o.stdout.toList.takeWhile (· ≠ '\n')))) ∧
      detail.manifestPresent = after.files.existsAt (settings.resolve ⟨settings.manifest⟩) ∧
      detail.configPresent = settings.configFile.any
        (fun file => after.files.existsAt (settings.resolve ⟨file⟩)) ∧
      (run.succeeded = true ↔
        (∀ a ∈ answers, a.2.exitCode = 0) ∧ detail.manifestPresent = true) ∧
      run.failure = match answers.find? (fun a => a.2.exitCode ≠ 0) with
        | some a => some ("'" ++ a.1 ++ "' " ++ exitReason a.2)
        | none =>
          if detail.manifestPresent then none
          else some ("Required file '" ++ settings.manifest ++ "' not found") := by
  intro after
  have hkeeps : Action.Keeps (StepContext.options settings .environment)
      settings.commands.environment (fun _ => False)
      (environment ⟨settings, r.watched, scrapers⟩) m.watched _ := environment_answered
  obtain ⟨calls, hlog, hoptions, hcourse⟩ := hkeeps
  have hcalls : after.runner.2 = calls := hlog
  rw [hlog] at hclear
  obtain ⟨run, hresult, hcommands, answers, hanswers, rfl⟩ :=
    hcourse.of_clear hclear fun _ => id
  have hinTime := hanswers.not_timedOut hclear
  have hrun : environment ⟨settings, r, scrapers⟩ m =
      (.ok (settings.environmentRun answers after.files), after.map Prod.fst) := by
    rw [← hresult]
    exact environment_mirrors (k := id) r.watched_lifts m.watched
  have hexits : (∀ a ∈ answers, exitFailure? a.2 = none) ↔ ∀ a ∈ answers, a.2.exitCode = 0 := by
    refine forall₂_congr fun a ha => ?_
    rw [exitFailure?_of_not_timedOut (hinTime a ha)]
    simp
  refine ⟨answers, _, _, hrun, ?_, ?_, StepRun.detail_ofFailure, ?_, ?_, rfl, rfl, ?_, ?_⟩
  · rw [← hanswers.commands, hcommands]
  · rw [hcalls, ← hanswers.eq_map hoptions]
  · intro command
    rw [ToolChecks.mem_tools_keys, ← hanswers.commands, hcommands]
  · simp only [← version_eq]
    exact ToolChecks.get?_tools answers
  · rw [Settings.succeeded_environmentRun, hexits]
  · rw [Settings.environmentRun, StepRun.failure_ofFailure, ToolChecks.fault_addAll,
      findSome?_faultOf hinTime]
    cases answers.find? fun a => a.2.exitCode ≠ 0 <;> rfl

/-- Every call gets a newer version of one tool, and never the other tool. -/
def upgradingTools : Runner Nat := fun command _ files calls =>
  (.ok (if command = "npm --version" then { exitCode := 127 }
    else { stdout := if calls = 0 then "v18\n" else "v20\n" }), files, calls + 1)

/-- The checks of a project that asks for one version twice. -/
def repeatedChecks : Settings :=
  { commands := { environment := ["node --version", "npm --version", "node --version"] } }

theorem repeatedChecks_reported :
    ∃ run detail, (environment ⟨repeatedChecks, upgradingTools, .ofSettings repeatedChecks⟩
        ⟨⟨.folder [], [], []⟩, 0, .still .epoch⟩).1 = .ok run ∧
      run.detail = .environment detail ∧
      detail.tools.get? "node --version" = some "v20" ∧
      run.failure = some "'npm --version' exited with code 127" := by
  let options := StepContext.options repeatedChecks .environment
  have hclear : ∀ c ∈ ([⟨"node --version", options, .ok { stdout := "v18\n" }⟩,
      ⟨"npm --version", options, .ok { exitCode := 127 }⟩,
      ⟨"node --version", options, .ok { stdout := "v20\n" }⟩] : List Call), c.fault? = none := by
    decide
  obtain ⟨answers, run, detail, hrun, -, hlog, hdetail, -, hversions, -, -, -, hfailure⟩ :=
    environment_reports repeatedChecks (.ofSettings repeatedChecks) upgradingTools
      ⟨⟨.folder [], [], []⟩, 0, .still .epoch⟩ hclear
  have hanswers : answers = [("node --version", { stdout := "v18\n" }),
      ("npm --version", { exitCode := 127 }), ("node --version", { stdout := "v20\n" })] := by
    refine List.map_injective_iff.2 ?_ hlog.symm
    rintro ⟨command, o⟩ ⟨command', o'⟩ h
    cases h
    rfl
  subst hanswers
  exact ⟨run, detail, by rw [hrun], hdetail, hversions _, hfailure⟩

end Step
end BuildPipeline

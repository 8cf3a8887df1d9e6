import BuildPipeline.Proofs.JsonRecords

/-! Reports that are written as documents and read back. Every record's reader takes what its writer
gives. -/
namespace BuildPipeline

open Json

@[simp] theorem StepStatus.reader_toJson (s : StepStatus) :
    StepStatus.reader s.toJson = some s := by
  cases s <;> rfl

@[simp] theorem PipelineStatus.reader_toJson (s : PipelineStatus) :
    PipelineStatus.reader s.toJson = some s := by
  cases s <;> rfl

@[simp] theorem TestCounts.reader_toJson (c : TestCounts) :
    TestCounts.reader c.toJson = some c := by
  rw [reader, toJson, fields?_object (by exact .refl _) (by decide)]
  simp

@[simp] theorem CoverageSummary.reader_toJson (s : CoverageSummary) :
    CoverageSummary.reader s.toJson = some s := by
  rw [reader, toJson, fields?_object (by exact .refl _) (by decide)]
  simp [entries, categories]

namespace StepDetail

theorem kind_notMem_members (d : StepDetail) : ∀ m ∈ d.members, m.1 ≠ "kind" := by
  cases d <;> simp [members]

theorem readKind_members (d : StepDetail) : readKind d.kind (.object d.members) = some d := by
  cases d with
  | none => rfl
  | _ =>
    -- every reader names the fields in the order in which they are written
    simp only [kind, readKind]
    rw [fields?_object (by exact .refl _) (by decide)]
    simp [members]

theorem keepable_toJson (d : StepDetail) (levels : Nat) :
    keepable (levels + 2) d.toJson = true := by
  have htexts (texts : List String) : keepable (levels + 1) (ofTexts texts) = true := by
    simp [ofTexts, keepable, keepableItems_iff]
  have htools (tools : SortedMap String) : keepable (levels + 1) (ofMap .string tools) = true := by
    have hmembers : ∀ m ∈ tools.entries.map fun e => (e.1, Json.string e.2),
        keepable levels m.2 = true := List.forall_mem_map.2 fun _ _ => rfl
    simpa [ofMap, keepable] using keepableMembers_iff.2 hmembers
  have hoption (a : Option String) : keepable (levels + 1) (ofOption .string a) = true := by
    cases a <;> rfl
  have hcounts (c : TestCounts) : keepable (levels + 1) c.toJson = true := by
    simp [TestCounts.toJson, keepable, keepableMembers, ofCount]
  have hpercentages (s : CoverageSummary) : keepable (levels + 1) s.toJson = true := by
    simp [CoverageSummary.toJson, CoverageSummary.entries, CoverageSummary.categories, keepable,
      keepableMembers]
  cases d <;> simp [toJson, members, keepable, keepableMembers, ofCount, ofInt32, htexts, htools,
    hoption, hcounts, hpercentages]

theorem reader_toJson (d : StepDetail) (levels : Nat) : reader (levels + 2) d.toJson = some d := by
  have hkind : (("kind", Json.string d.kind) :: d.members).filter (fun m => m.1 = "kind") =
      [("kind", .string d.kind)] := by
    have hnone : d.members.filter (fun m => m.1 = "kind") = [] :=
      List.filter_eq_nil_iff.2 fun m hm => by simpa using kind_notMem_members d m hm
    rw [List.filter_cons_of_pos (by simp), hnone]
  have hothers : (("kind", Json.string d.kind) :: d.members).filter (fun m => m.1 ≠ "kind") =
      d.members := by
    have hall : d.members.filter (fun m => m.1 ≠ "kind") = d.members :=
      List.filter_eq_self.2 fun m hm => by simpa using kind_notMem_members d m hm
    rw [List.filter_cons_of_neg (by simp), hall]
  simp only [reader, keepable_toJson, Bool.not_true, Bool.false_eq_true, if_false]
  simp only [toJson, hkind, hothers, readKind_members]

end StepDetail

theorem GateVerdict.reader_toJson (g : GateVerdict) : GateVerdict.reader g.toJson = some g := by
  rw [reader, toJson, fields?_object (by exact .refl _) (by decide)]
  simp

theorem StepResult.reader_toJson {s : StepResult}
    (h : Timestamp.read? s.startedAt.documentText = some s.startedAt) :
    StepResult.reader s.toJson = some s := by
  obtain ⟨name, status, startedAt, durationMs, detail, errorMessage⟩ := s
  have htimestamp : Timestamp.reader startedAt.toJson = some startedAt := h
  have hdetail : StepDetail.reader (maxLevels - levelsAbove) detail.toJson = some detail :=
    detail.reader_toJson (maxLevels - levelsAbove - 2)
  cases errorMessage with
  | none =>
    rw [reader, toJson, fields?_object (by exact List.sublist_append_left _ ["error_message"])
      (by decide)]
    simp [htimestamp, hdetail]
  | some message =>
    have hmessage : Reader.nullable Reader.text (.string message) = some (some message) := rfl
    rw [reader, toJson, fields?_object (by exact .refl _) (by decide)]
    simp [htimestamp, hdetail, hmessage]

/-- The doubles of a step's detail. -/
def StepDetail.doubles : StepDetail → List Float
  | .coverage d => d.percentages.entries.map (·.2)
  | _ => []

namespace Report

/-- Every double that a report holds. -/
def doubles (r : Report) : List Float :=
  r.metrics.entries.map (·.2) ++ r.qualityGate.toList.map (·.passRate) ++
    r.steps.flatMap fun s => s.detail.doubles

/-- Every moment that a report tells. -/
def moments (r : Report) : List Timestamp := r.timestamp :: r.steps.map (·.startedAt)

theorem reader_toJson {r : Report}
    (h : ∀ t ∈ r.moments, Timestamp.read? t.documentText = some t) :
    reader r.toJson = some r := by
  have htimestamp : Timestamp.reader r.timestamp.toJson = some r.timestamp :=
    h r.timestamp List.mem_cons_self
  have hsteps : Reader.list StepResult.reader (.array (r.steps.map StepResult.toJson)) =
      some r.steps := mapM_map fun s hs =>
    StepResult.reader_toJson (h _ (List.mem_cons_of_mem _ (List.mem_map_of_mem hs)))
  have hmetrics : Reader.map Reader.number (ofMap .double r.metrics) = some r.metrics :=
    map_ofMap fun _ _ => rfl
  have hgate : Reader.nullable GateVerdict.reader (ofOption GateVerdict.toJson r.qualityGate) =
      some r.qualityGate := by
    cases r.qualityGate with
    | none => rfl
    | some g => exact congrArg (Option.map some) g.reader_toJson
  rw [reader, toJson, fields?_object (by exact .refl _) (by decide)]
  simp only [Option.pure_def, Option.bind_eq_bind, Option.bind_some, required_cons, optional_cons,
    default_cons, String.reduceEq, if_true, if_false, text_string, count_ofCount, list_ofTexts,
    nullable_ofTextOption, PipelineStatus.reader_toJson, htimestamp, hsteps, hmetrics, hgate]

theorem printable_detail {d : StepDetail} (h : ∀ x ∈ d.doubles, Printable (.double x)) :
    Printable d.toJson := by
  cases d with
  | coverage d =>
    have hpercentages : Printable d.percentages.toJson :=
      printable_object.2 (List.forall_mem_map.2 fun _ he => h _ (List.mem_map_of_mem he))
    simp [StepDetail.toJson, StepDetail.members, hpercentages]
  | tests d => simp [StepDetail.toJson, StepDetail.members, TestCounts.toJson]
  | _ => simp [StepDetail.toJson, StepDetail.members]

theorem printable_step {s : StepResult}
    (h : ∀ x ∈ s.detail.doubles, Printable (.double x)) : Printable s.toJson := by
  have hdetail := printable_detail h
  cases hm : s.errorMessage <;>
    simp [StepResult.toJson, StepStatus.toJson, Timestamp.toJson, hm, hdetail]

theorem printable_toJson {r : Report} (h : ∀ x ∈ r.doubles, Printable (.double x)) :
    Printable r.toJson := by
  simp only [doubles, List.forall_mem_append, List.forall_mem_map, List.forall_mem_flatMap] at h
  obtain ⟨⟨hmetrics, hgate⟩, hsteps⟩ := h
  have hrates : Printable (ofMap .double r.metrics) := printable_ofMap.2 hmetrics
  have hitems : Printable (.array (r.steps.map StepResult.toJson)) :=
    printable_array.2 (List.forall_mem_map.2 fun s hs => printable_step (hsteps s hs))
  have hverdict : Printable (ofOption GateVerdict.toJson r.qualityGate) := by
    refine printable_ofOption.2 fun g hg => ?_
    have hrate := hgate g (Option.mem_toList.2 hg)
    simp [GateVerdict.toJson, hrate]
  simp [toJson, PipelineStatus.toJson, Timestamp.toJson, hrates, hitems, hverdict]

/-- Every report comes back from its document, as long as its doubles are finite. That doubles and
moments come back from their own texts is assumed. -/
theorem parse?_document (r : Report)
    (hfinite : ∀ x ∈ r.doubles, Decimal.isFinite x = true)
    (hdoubles : ∀ x ∈ r.doubles, Decimal.isFinite x = true → ReadsBack x)
    (hmoments : ∀ t ∈ r.moments, Timestamp.read? t.documentText = some t) :
    Report.parse? r.document = some r := by
  have hprintable : Printable r.toJson :=
    printable_toJson fun x hx => .double (hfinite x hx) (hdoubles x hx (hfinite x hx))
  rw [parse?, document, parse?_render hprintable, Option.bind_some, reader_toJson hmoments]

/-- A report with what is awkward to write: quotes, control characters, a leap second, the extremes
of each kind of number, a negative zero, and fields that are absent. -/
def awkward : Report where
  status := .failed
  timestamp := ⟨17166, 86399, 1500000000⟩
  project := "tab\t \"quoted\" back\\slash"
  revision := none
  buildNumber := some ""
  runId := "naïve ☃ 🚀"
  buildTimeMs := 0xFFFFFFFFFFFFFFFF
  steps := [
    ⟨"Lint", .success, ⟨-719162, 1, 7⟩, 0,
      .lint ⟨0, 1, -0x80000000, "\x00\x08\x0c\x1f\x7f\r\n"⟩, none⟩,
    ⟨"Coverage report", .failed, ⟨0, 0, 0⟩, 1,
      .coverage ⟨⟨0.1, -0.0, 1e300, 5e-324⟩, "</script>", true, 0x7FFFFFFF⟩, some "exited"⟩]
  metrics := .ofList [("tests.pass_rate", 66.66666666666667), ("", 1e16)]
  errors := []
  qualityGate := some ⟨false, 123456.789, ["pass rate"]⟩

theorem awkward_roundTrip : Report.parse? awkward.document = some awkward :=
  parse?_document awkward (by decide +kernel) (by decide +kernel) (by decide +kernel)

end Report
end BuildPipeline

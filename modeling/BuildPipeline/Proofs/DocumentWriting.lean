import BuildPipeline.Proofs.FileReplacing

/-! Writing the documents of a report. What is told of each agrees with what its place then holds,
and neither keeps the other from being written. -/
namespace BuildPipeline

/-- What became of a document agrees with what its place holds: the whole text after success, what
was there before after a failure. -/
def DocumentOutcome.Settled (o : DocumentOutcome) (text : String) (before after : FileSystem) :
    Prop :=
  match o.error with
  | none => ∃ runnable, after.nodeAt? o.path = some (.file text.toUTF8 runnable)
  | some _ => after.nodeAt? o.path = before.nodeAt? o.path

theorem DocumentOutcome.Settled.of_nodeAt? {o : DocumentOutcome} {text : String}
    {before made after : FileSystem} (h : o.Settled text made after)
    (hsame : made.nodeAt? o.path = before.nodeAt? o.path) : o.Settled text before after := by
  rw [Settled] at h ⊢
  cases herror : o.error with
  | none => rwa [herror] at h
  | some e =>
    rw [herror] at h
    exact h.trans hsame

theorem DocumentOutcome.Settled.nodeAt?_eq {o : DocumentOutcome} {text : String}
    {before after : FileSystem} (h : o.Settled text before after) (herror : o.error ≠ none) :
    after.nodeAt? o.path = before.nodeAt? o.path := by
  rw [Settled] at h
  cases hfailed : o.error with
  | none => exact absurd hfailed herror
  | some e => rwa [hfailed] at h

namespace Report

open FileSystem

variable {fs made : FileSystem} {folder : Path} {result : Except IoError Unit}

/-- The error told for the result of writing a document. -/
def errorOf : Except IoError Unit → Option DocumentError
  | .ok () => none
  | .error e => some (.notWritten e)

theorem errorOf_eq_none_iff : errorOf result = none ↔ result = .ok () := by
  cases result with
  | ok u => exact ⟨fun _ => rfl, fun _ => rfl⟩
  | error e => exact ⟨nofun, nofun⟩

theorem settled_of_result {format text : String} {p : Path} {before after : FileSystem}
    (hok : result = .ok () → ∃ runnable, after.nodeAt? p = some (.file text.toUTF8 runnable))
    (herror : result ≠ .ok () → after.nodeAt? p = before.nodeAt? p) :
    DocumentOutcome.Settled ⟨format, p, errorOf result⟩ text before after := by
  cases result with
  | ok u => exact hok rfl
  | error e => exact herror nofun

theorem forall_documents {r : Report} {P : String × String × String → Prop} :
    (∀ d ∈ r.documents, P d) ↔
      P ("json", documentName, r.document) ∧ P ("html", pageName, r.page) := by
  simp [documents]

/-- Both documents in a folder, whether it is there or not. -/
theorem writeEach_documents (r : Report) (hground : made.Grounded)
    (hlinks : ∀ d ∈ r.documents, ∀ target, made.nodeAt? (folder.join ⟨d.2.1⟩) ≠ some (.link target))
    (hbeside : ∀ d ∈ r.documents,
      IsPlain (made.nodeAt? ((folder.join ⟨d.2.1⟩).withSuffix ".tmp"))) :
    ∃ json html after, writeEach folder r.documents made = ([json, html], after) ∧
      (json.format = "json" ∧ json.path = folder.join ⟨documentName⟩) ∧
      (html.format = "html" ∧ html.path = folder.join ⟨pageName⟩) ∧
      (json.Settled r.document made after ∧ html.Settled r.page made after) ∧
      (json.error = none ↔ made.Writable json.path) ∧
      (html.error = none ↔
        (made.withFaults (made.writeAtomic json.path r.document).2.faults).Writable html.path) := by
  have hjson : IsFileName documentName := by decide
  have hpage : IsFileName pageName := by decide
  have hbesideJson : (folder.join ⟨documentName⟩).withSuffix ".tmp" =
      folder.join ⟨documentName ++ ".tmp"⟩ := folder.withSuffix_join hjson.2.1 (by decide)
  have hbesidePage : (folder.join ⟨pageName⟩).withSuffix ".tmp" =
      folder.join ⟨pageName ++ ".tmp"⟩ := folder.withSuffix_join hpage.2.1 (by decide)
  have hjsonTmp : IsFileName (documentName ++ ".tmp") := by decide
  have hpageTmp : IsFileName (pageName ++ ".tmp") := by decide
  obtain ⟨hjsonLink, hpageLink⟩ := forall_documents.1 hlinks
  obtain ⟨hjsonPlain, hpagePlain⟩ := forall_documents.1 hbeside
  rw [hbesideJson] at hjsonPlain
  rw [hbesidePage] at hpagePlain
  obtain ⟨hgroundFirst, hothersFirst, hjsonOk, hjsonError, hjsonIff⟩ :=
    @writeAtomic_cases made folder documentName r.document hground hjson hjsonTmp hjsonPlain
      hjsonLink
  generalize hfirst : made.writeAtomic (folder.join ⟨documentName⟩) r.document = first
    at hgroundFirst hothersFirst hjsonOk hjsonError hjsonIff
  have hpageKept := hothersFirst pageName hpage (by decide +kernel)
  have hpageTmpKept := hothersFirst (pageName ++ ".tmp") hpageTmp (by decide +kernel)
  have hpageEntry : first.2.nodeAt? (folder.join ⟨pageName⟩) =
      made.nodeAt? (folder.join ⟨pageName⟩) := by rw [nodeAt?, hpageKept, nodeAt?]
  have hpageTmpEntry : first.2.nodeAt? (folder.join ⟨pageName ++ ".tmp"⟩) =
      made.nodeAt? (folder.join ⟨pageName ++ ".tmp"⟩) := by rw [nodeAt?, hpageTmpKept, nodeAt?]
  obtain ⟨-, hothersLast, hpageOk, hpageError, hpageIff⟩ :=
    @writeAtomic_cases first.2 folder pageName r.page hgroundFirst hpage hpageTmp
      (hpageTmpEntry ▸ hpagePlain) (hpageEntry ▸ hpageLink)
  generalize hlast : first.2.writeAtomic (folder.join ⟨pageName⟩) r.page = last
    at hothersLast hpageOk hpageError hpageIff
  have hjsonEntry : last.2.nodeAt? (folder.join ⟨documentName⟩) =
      first.2.nodeAt? (folder.join ⟨documentName⟩) := by
    rw [nodeAt?, hothersLast documentName hjson (by decide +kernel), nodeAt?]
  have hwritable : first.2.Writable (folder.join ⟨pageName⟩) ↔
      (made.withFaults first.2.faults).Writable (folder.join ⟨pageName⟩) := by
    rw [Writable, Writable, CanHold, CanHold, hbesidePage, hpageKept, hpageTmpKept]
    rfl
  have hall : writeEach folder r.documents made =
      ([⟨"json", folder.join ⟨documentName⟩, errorOf first.1⟩,
        ⟨"html", folder.join ⟨pageName⟩, errorOf last.1⟩], last.2) := by
    rw [← hlast, ← hfirst]
    rfl
  refine ⟨_, _, _, hall, ⟨rfl, rfl⟩, ⟨rfl, rfl⟩, ⟨?_, ?_⟩, ?_, ?_⟩
  · exact settled_of_result (hjsonEntry ▸ hjsonOk) (hjsonEntry ▸ hjsonError)
  · exact settled_of_result hpageOk fun h => (hpageError h).trans hpageEntry
  · exact errorOf_eq_none_iff.trans hjsonIff
  · rw [hfirst]
    exact errorOf_eq_none_iff.trans (hpageIff.trans hwritable)

/-- Two documents are told of whatever operations fail, and each place holds the whole document or
what it held before. A folder that cannot be made is told of twice, and nothing changes at either
place. Making a folder changes nothing at the places either, if it was there or its path goes up
only at its front; one document failing does not keep the other from being written. -/
theorem writeAll_settled (r : Report) (hground : fs.Grounded)
    (hmade : fs.makeFolderPath folder = (result, made))
    (hlinks : ∀ d ∈ r.documents, ∀ target, made.nodeAt? (folder.join ⟨d.2.1⟩) ≠ some (.link target))
    (hbeside : ∀ d ∈ r.documents,
      IsPlain (made.nodeAt? ((folder.join ⟨d.2.1⟩).withSuffix ".tmp"))) :
    ∃ json html after, r.writeAll folder fs = ([json, html], after) ∧
      (json.format = "json" ∧ json.path = folder.join ⟨"pipeline-report.json"⟩) ∧
      (html.format = "html" ∧ html.path = folder.join ⟨"pipeline-report.html"⟩) ∧
      match result with
      | .error e =>
        json.error = some (.noFolder folder e) ∧ html.error = some (.noFolder folder e) ∧
          after.nodeAt? json.path = fs.nodeAt? json.path ∧
          after.nodeAt? html.path = fs.nodeAt? html.path
      | .ok () =>
        (json.Settled r.document made after ∧ html.Settled r.page made after) ∧
          (fs.isFolder folder = true ∨ folder.goesUpFirst = true →
            json.Settled r.document fs after ∧ html.Settled r.page fs after) ∧
          (json.error = none ↔ made.Writable json.path) ∧
          (html.error = none ↔
            (made.withFaults (made.writeAtomic json.path r.document).2.faults).Writable
              html.path) := by
  have hjson : IsFileName documentName := by decide
  have hpage : IsFileName pageName := by decide
  cases result with
  | error e =>
    have hjsonNone := nodeAt?_of_makeFolderPath_error hground hmade hjson
    have hpageNone := nodeAt?_of_makeFolderPath_error hground hmade hpage
    refine ⟨⟨"json", folder.join ⟨documentName⟩, some (.noFolder folder e)⟩,
      ⟨"html", folder.join ⟨pageName⟩, some (.noFolder folder e)⟩, made,
      by rw [writeAll, hmade]; rfl, ⟨rfl, rfl⟩, ⟨rfl, rfl⟩, rfl, rfl, ?_, ?_⟩
    · exact hjsonNone.2.trans hjsonNone.1.symm
    · exact hpageNone.2.trans hpageNone.1.symm
  | ok u =>
    have hgroundmade : made.Grounded := by
      have hgrown := (makeFolderPath_madeToward hground folder).grounded hground
      rwa [hmade] at hgrown
    obtain ⟨json, html, after, hall, hjsonPlace, hpagePlace, ⟨hjsonSettled, hpageSettled⟩, hjsonIff,
      hpageIff⟩ := writeEach_documents r hgroundmade hlinks hbeside
    have hbefore (hfolder : fs.isFolder folder = true ∨ folder.goesUpFirst = true) {n : String}
        (hn : IsFileName n) : made.nodeAt? (folder.join ⟨n⟩) = fs.nodeAt? (folder.join ⟨n⟩) := by
      have hsame := nodeAt?_makeFolderPath hground hn hfolder
      rwa [hmade] at hsame
    refine ⟨json, html, after, by rw [writeAll, hmade]; exact hall, hjsonPlace, hpagePlace,
      ⟨hjsonSettled, hpageSettled⟩, fun hfolder => ⟨?_, ?_⟩, hjsonIff, hpageIff⟩
    · exact hjsonSettled.of_nodeAt? (hjsonPlace.2 ▸ hbefore hfolder hjson)
    · exact hpageSettled.of_nodeAt? (hpagePlace.2 ▸ hbefore hfolder hpage)

/-! ### A failed document beside a written one -/

/-- No link or device is in the way where a folder has none. -/
theorem plain_documents {names : List String} (r : Report) (hleads : made.Leads folder names)
    (hplain : ∀ n, IsPlain (made.root.get? (names ++ [n]))) :
    (∀ d ∈ r.documents, ∀ target, made.nodeAt? (folder.join ⟨d.2.1⟩) ≠ some (.link target)) ∧
      ∀ d ∈ r.documents, IsPlain (made.nodeAt? ((folder.join ⟨d.2.1⟩).withSuffix ".tmp")) := by
  have hentry {n : String} (hn : IsFileName n) : IsPlain (made.nodeAt? (folder.join ⟨n⟩)) :=
    isPlain_nodeAt? hleads hn (hplain n)
  have hbeside {n : String} (hn : IsFileName n) (ht : IsFileName (n ++ ".tmp")) :
      IsPlain (made.nodeAt? ((folder.join ⟨n⟩).withSuffix ".tmp")) := by
    rw [folder.withSuffix_join hn.2.1 (by decide)]
    exact hentry ht
  have hjson : IsFileName documentName := by decide
  have hpage : IsFileName pageName := by decide
  simp only [forall_documents]
  exact ⟨⟨(hentry hjson).ne_link, (hentry hpage).ne_link⟩,
    hbeside hjson (by decide), hbeside hpage (by decide)⟩

/-- In a folder with nothing but a folder in it. -/
theorem isPlain_lone {root : Node} {names : List String} {inner : String}
    (h : root.get? names = some (.folder [(inner, .folder [])])) (n : String) :
    IsPlain (root.get? (names ++ [n])) := by
  rw [Node.get?_entry h, Node.find?, List.lookup_cons]
  split
  · constructor <;> rintro _ ⟨⟩
  · exact isPlain_none

theorem makeFolderPath_of_leads {names : List String} (hground : fs.Grounded)
    (hleads : fs.Leads folder names) (hpath : IsPath folder) (hclear : fs.faults = []) :
    fs.makeFolderPath folder = (.ok (), fs) := by
  have hfolder : fs.isFolder folder = true := (isFolder_iff hground).2 ⟨hpath, names, hleads⟩
  obtain ⟨used, hmade⟩ := makeFolderPath_of_isFolder hground hfolder
  rw [hmade, hclear, List.drop_nil, ← hclear]
  rfl

def blank : Report where
  status := .success
  timestamp := ⟨0, 0, 0⟩
  project := "demo"
  revision := none
  buildNumber := none
  runId := ""
  buildTimeMs := 0
  steps := []
  metrics := .empty
  errors := []
  qualityGate := none

/-- A reports folder with a folder where a document belongs. -/
def blocked : FileSystem where
  root := .folder [("reports", .folder [("pipeline-report.json", .folder [])])]
  workingFolder := []

/-- The page is written although the document cannot be. -/
theorem writeAll_blocked :
    ∃ json html after, blank.writeAll ⟨"reports"⟩ blocked = ([json, html], after) ∧
      json.error ≠ none ∧ after.nodeAt? json.path = some (.folder []) ∧ html.error = none ∧
      ∃ runnable, after.nodeAt? html.path = some (.file blank.page.toUTF8 runnable) := by
  have hground : blocked.Grounded := ⟨_, rfl⟩
  have hleads : blocked.Leads ⟨"reports"⟩ ["reports"] :=
    ⟨maxLinks, .down (by decide) ⟨_, rfl⟩ (.nil maxLinks ["reports"])⟩
  have hmade : blocked.makeFolderPath ⟨"reports"⟩ = (.ok (), blocked) :=
    makeFolderPath_of_leads hground hleads (by decide) rfl
  have hfolder : blocked.nodeAt? ⟨"reports/pipeline-report.json"⟩ = some (.folder []) :=
    @nodeAt?_join blocked ⟨"reports"⟩ ["reports"] documentName (by decide) (by decide) hleads
  obtain ⟨hlinks, hbeside⟩ := plain_documents blank hleads (isPlain_lone rfl)
  obtain ⟨json, html, after, hall, ⟨-, hjsonPath⟩, ⟨-, hpagePath⟩, ⟨hjsonSettled, hpageSettled⟩, -,
    hjsonIff, hpageIff⟩ := writeAll_settled blank hground hmade hlinks hbeside
  have hjsonError : json.error ≠ none := fun hnone =>
    (hjsonIff.1 hnone).nodeAt?_ne [] (hjsonPath ▸ hfolder)
  have hfree {n : String} (hn : IsFileName n) (hpath : IsPath (Path.join ⟨"reports"⟩ ⟨n⟩))
      (hnone : blocked.root.get? (["reports"] ++ [n]) = none) :
      blocked.CanHold (Path.join ⟨"reports"⟩ ⟨n⟩) :=
    (canHold_join hn hpath hleads).2 fun es he => by cases hnone.symm.trans he
  have hpageError : html.error = none := by
    obtain ⟨used, -, hfaults⟩ := faults_writeAtomic blocked json.path blank.document
    have hnone : blocked.faults.drop used = [] := List.drop_nil
    rw [hpageIff, hpagePath, hfaults, hnone]
    refine ⟨?_, ?_, nofun⟩
    · exact @hfree (pageName ++ ".tmp") (by decide) (by decide) rfl
    · exact @hfree pageName (by decide) (by decide) rfl
  refine ⟨json, html, after, hall, hjsonError, ?_, hpageError, ?_⟩
  · exact (hjsonSettled.nodeAt?_eq hjsonError).trans (hjsonPath ▸ hfolder)
  · rwa [DocumentOutcome.Settled, hpageError] at hpageSettled

/-! ### A path that goes up behind a folder it makes, and a device beside a place -/

def bare : FileSystem where
  root := .folder []
  workingFolder := []

/-- Up again from a folder with a document's name. -/
def detour : Path := ⟨"pipeline-report.json/.."⟩

/-- What making the folder of that path comes to. -/
def trodden : FileSystem where
  root := .folder [("pipeline-report.json", .folder [])]
  workingFolder := []

theorem leads_detour : trodden.Leads detour [] :=
  ⟨maxLinks, .down (by decide) ⟨[], rfl⟩ (.up (.nil maxLinks []))⟩

/-- Nothing can be found behind a folder that is missing. -/
theorem locate_bare {p : Path} {purpose : Purpose} {s : String} {rest : List String}
    (hp : IsPath p) (hsteps : FileSystem.steps p = s :: rest) (hs : IsName s) (hrest : rest ≠ [])
    (hend : rest ≠ [""]) : bare.locate p purpose = .error .notFound := by
  have hstart : bare.start p = [] := by
    rw [FileSystem.start]
    exact ite_self []
  have hnone : bare.root.get? ([] ++ [s]) = none := rfl
  rw [locate_of_isPath hp, hstart, hsteps, follow_name hs fun _ => hend, hnone]
  exact if_neg (by simpa using hrest)

theorem makeFolderPath_detour : bare.makeFolderPath detour = (.ok (), trodden) := by
  have hancestors : ancestors detour = [detour, ⟨"pipeline-report.json"⟩] := by decide
  have hmissing : bare.makeFolder detour = (.error .notFound, bare) := by
    have hnone : bare.locate (withoutEndSlash detour) .entry = .error .notFound :=
      @locate_bare _ _ "pipeline-report.json" [".."] (by decide) (by decide) (by decide) (by decide)
        (by decide)
    have hclear : bare.nextFault = (none, bare) := rfl
    simp only [makeFolder, hclear, hnone]
  have hmade : bare.makeFolder ⟨"pipeline-report.json"⟩ = (.ok (), trodden) := by
    have hfree : bare.locate (withoutEndSlash ⟨"pipeline-report.json"⟩) .entry =
        .ok ⟨["pipeline-report.json"], none⟩ :=
      @locate_join bare ⟨""⟩ [] "pipeline-report.json" .entry (by decide) (by decide)
        ⟨maxLinks, .nil maxLinks []⟩ fun _ _ => rfl
    have hclear : bare.nextFault = (none, bare) := rfl
    simp only [makeFolder, hclear, hfree]
    rfl
  have hground : trodden.Grounded := ⟨_, rfl⟩
  have hfolder : trodden.isFolder detour = true :=
    (isFolder_iff hground).2 ⟨by decide, [], leads_detour⟩
  obtain ⟨e, hagain⟩ := makeFolder_of_isFolder hground hfolder
  have hnone : trodden.withFaults trodden.faults.tail = trodden := rfl
  rw [hnone] at hagain
  have hempty : detour.isEmpty = false := by decide
  rw [makeFolderPath, hempty, if_neg Bool.false_ne_true, hancestors]
  simp only [makeOutwards, hmissing, hmade, makeFolders, hagain, forgive, hfolder, if_true]

/-- A device left beside the place of a document. -/
def leftover : FileSystem where
  root := .folder [("pipeline-report.json.tmp", .device .null)]
  workingFolder := []

/-- The same device moved to that place. -/
def misplaced : FileSystem where
  root := .folder [("pipeline-report.json", .device .null)]
  workingFolder := []

theorem writeAtomic_leftover (text : String) :
    leftover.writeAtomic (Path.join ⟨"."⟩ ⟨documentName⟩) text = (.ok (), misplaced) := by
  have hleads : leftover.Leads ⟨"."⟩ [] := ⟨maxLinks, .skip (.inl rfl) (.nil maxLinks [])⟩
  have hbeside : (Path.join ⟨"."⟩ ⟨documentName⟩).withSuffix ".tmp" =
      Path.join ⟨"."⟩ ⟨documentName ++ ".tmp"⟩ := by decide
  have htarget : leftover.fileTarget (Path.join ⟨"."⟩ ⟨documentName ++ ".tmp"⟩) =
      .ok ["pipeline-report.json.tmp"] := by
    have hlocate := @locate_join leftover ⟨"."⟩ [] (documentName ++ ".tmp") .creation (by decide)
      (by decide) hleads fun target htarget => by cases htarget
    rw [fileTarget, hlocate]
    rfl
  have hwrite : leftover.writeText (Path.join ⟨"."⟩ ⟨documentName ++ ".tmp"⟩) text =
      (.ok (), leftover) := by
    have hclear : leftover.nextFault = (none, leftover) := rfl
    simp only [writeText, writeBytes, hclear, htarget]
    rfl
  have hfree : leftover.CanHold (Path.join ⟨"."⟩ ⟨documentName⟩) :=
    (@canHold_join leftover ⟨"."⟩ [] documentName (by decide) (by decide) hleads).2 fun es he => by
      cases he
  have hmove : leftover.rename (Path.join ⟨"."⟩ ⟨documentName ++ ".tmp"⟩)
      (Path.join ⟨"."⟩ ⟨documentName⟩) = (.ok (), misplaced) := by
    obtain ⟨-, hnot⟩ | ⟨hok, -⟩ := @rename_cases leftover ⟨"."⟩ [] (documentName ++ ".tmp")
      documentName (.device .null) hleads (by decide) (by decide) (by decide) (by decide)
      (by decide) rfl
    · exact absurd ⟨rfl, hfree⟩ hnot
    · exact hok
  simp only [writeAtomic, hbeside, hwrite, hmove]

/-- A document that failed has a folder at its place where nothing was, as its path goes up behind
that folder; and one that is written is a device that was beside its place. -/
theorem writeAll_detour :
    (∃ json html after, blank.writeAll detour bare = ([json, html], after) ∧
      json.error ≠ none ∧ bare.nodeAt? json.path = none ∧
        after.nodeAt? json.path = some (.folder [])) ∧
    ∃ json html after, blank.writeAll ⟨"."⟩ leftover = ([json, html], after) ∧
      json.error = none ∧ after.nodeAt? json.path = some (.device .null) := by
  constructor
  · have hground : trodden.Grounded := ⟨_, rfl⟩
    have hfolder : trodden.nodeAt? (detour.join ⟨documentName⟩) = some (.folder []) :=
      @nodeAt?_join trodden detour [] documentName (by decide) (by decide) leads_detour
    obtain ⟨hlinks, hbeside⟩ := plain_documents blank leads_detour (isPlain_lone rfl)
    obtain ⟨json, html, after, hall, ⟨-, hjsonPath⟩, -, ⟨hsettled, -⟩, hjsonIff, -⟩ :=
      writeEach_documents blank hground hlinks hbeside
    have herror : json.error ≠ none := fun hnone =>
      (hjsonIff.1 hnone).nodeAt?_ne [] (hjsonPath ▸ hfolder)
    have hmissing : bare.locate json.path .entry = .error .notFound := by
      rw [hjsonPath]
      exact @locate_bare _ _ "pipeline-report.json" ["..", "pipeline-report.json"] (by decide)
        (by decide) (by decide) (by decide) (by decide)
    refine ⟨json, html, after, by rw [writeAll, makeFolderPath_detour]; exact hall, herror, ?_, ?_⟩
    · rw [nodeAt?, hmissing]
    · exact (hsettled.nodeAt?_eq herror).trans (hjsonPath ▸ hfolder)
  · have hleads : misplaced.Leads ⟨"."⟩ [] := ⟨maxLinks, .skip (.inl rfl) (.nil maxLinks [])⟩
    have hmade : leftover.makeFolderPath ⟨"."⟩ = (.ok (), leftover) :=
      @makeFolderPath_of_leads leftover ⟨"."⟩ [] ⟨_, rfl⟩
        ⟨maxLinks, .skip (.inl rfl) (.nil maxLinks [])⟩ (by decide) rfl
    have hentry {n : String} (hn : IsFileName n) (hpath : IsPath (Path.join ⟨"."⟩ ⟨n⟩)) :
        misplaced.nodeAt? (Path.join ⟨"."⟩ ⟨n⟩) = misplaced.root.get? ([] ++ [n]) :=
      nodeAt?_join hn hpath hleads
    have hpage : misplaced.nodeAt? (Path.join ⟨"."⟩ ⟨pageName⟩) = none :=
      hentry (by decide) (by decide)
    have hpageTmp : misplaced.nodeAt? (Path.join ⟨"."⟩ ⟨pageName ++ ".tmp"⟩) = none :=
      hentry (by decide) (by decide)
    obtain ⟨-, hothers, -⟩ := @writeAtomic_cases misplaced ⟨"."⟩ pageName blank.page ⟨_, rfl⟩
      (by decide) (by decide) (hpageTmp ▸ isPlain_none) (hpage ▸ isPlain_none.ne_link)
    have hall : writeEach ⟨"."⟩ blank.documents leftover =
        ([⟨"json", Path.join ⟨"."⟩ ⟨documentName⟩, none⟩,
          ⟨"html", Path.join ⟨"."⟩ ⟨pageName⟩,
            errorOf (misplaced.writeAtomic (Path.join ⟨"."⟩ ⟨pageName⟩) blank.page).1⟩],
          (misplaced.writeAtomic (Path.join ⟨"."⟩ ⟨pageName⟩) blank.page).2) := by
      rw [documents, writeEach, writeAtomic_leftover]
      rfl
    refine ⟨_, _, _, by rw [writeAll, hmade]; exact hall, rfl, ?_⟩
    rw [nodeAt?, hothers documentName (by decide) (by decide +kernel), ← nodeAt?]
    exact hentry (by decide) (by decide)

end Report

end BuildPipeline

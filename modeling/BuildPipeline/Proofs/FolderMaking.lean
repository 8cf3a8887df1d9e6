import BuildPipeline.Proofs.FolderWalk

/-! Making a folder with all it lies in. A folder that is there already stays as it is; one that was
missing is empty afterwards. -/
namespace BuildPipeline

/-- Whether a path goes up only before it goes down. -/
def Path.goesUpFirst (p : Path) : Bool := !(p.trail.dropWhile (· = "..")).contains ".."

namespace FileSystem

open Node

variable {fs : FileSystem} {p q : Path}

/-- The same tree with other faults to come. -/
def withFaults (fs : FileSystem) (faults : List (Option Fault)) : FileSystem :=
  { fs with faults := faults }

@[simp] theorem locate_withFaults (fs : FileSystem) (faults : List (Option Fault)) (p : Path)
    (purpose : Purpose) : (fs.withFaults faults).locate p purpose = fs.locate p purpose := rfl

@[simp] theorem isFolder_withFaults (fs : FileSystem) (faults : List (Option Fault)) (p : Path) :
    (fs.withFaults faults).isFolder p = fs.isFolder p := rfl

theorem nextFault_eq (fs : FileSystem) :
    fs.nextFault = (fs.faults.head?.join, fs.withFaults fs.faults.tail) := by
  obtain ⟨root, workingFolder, faults⟩ := fs
  cases faults <;> rfl

theorem makeFolder_cases (fs : FileSystem) (q : Path) :
    (∃ e, fs.makeFolder q = (.error e, fs.withFaults fs.faults.tail)) ∨
      ∃ names, fs.locate (withoutEndSlash q) .entry = .ok ⟨names, none⟩ ∧
        fs.makeFolder q = (.ok (), (fs.withFaults fs.faults.tail).put names (.folder [])) := by
  rw [makeFolder, nextFault_eq]
  cases fs.faults.head?.join with
  | some fault => exact .inl ⟨fault.error, rfl⟩
  | none =>
    simp only [locate_withFaults]
    cases hlocate : fs.locate (withoutEndSlash q) .entry with
    | error e => exact .inl ⟨e, rfl⟩
    | ok place =>
      obtain ⟨names, _ | n⟩ := place
      · exact .inr ⟨names, rfl, rfl⟩
      · exact .inl ⟨.alreadyExists, rfl⟩

/-- Where nothing stands at the end of a path, all before the last name leads to a folder. -/
theorem missing_of_locate (hground : fs.Grounded) {names : List String}
    (h : fs.locate (withoutEndSlash q) .entry = .ok ⟨names, none⟩) :
    ∃ front n left folder, q.segments = front ++ [n] ∧ IsName n ∧ names = folder ++ [n] ∧
      Walk fs.root maxLinks (fs.start q) front left folder ∧
      fs.root.get? (folder ++ [n]) = none := by
  have hpath : IsPath (withoutEndSlash q) := by
    refine Decidable.byContradiction fun hnot => ?_
    obtain ⟨e, he⟩ := locate_of_not_isPath hnot .entry
    rw [he fs] at h
    cases h
  have hstart : fs.start (withoutEndSlash q) = fs.start q := by
    rw [FileSystem.start, q.isAbsolute_withoutEndSlash, FileSystem.start]
  have hsomewhere {left : Nat} {here : List String} (hhere : fs.root.IsFolderAt here) :
      follow fs.root .entry left here [] ≠ .ok ⟨names, none⟩ := by
    obtain ⟨es, hes⟩ := hhere
    rw [follow_nil, hes]
    intro h
    cases h
  have hbegin := hground.start q
  rw [locate_of_isPath hpath, hstart] at h
  have hfollow : follow fs.root .entry maxLinks (fs.start q) q.segments = .ok ⟨names, none⟩ := by
    rcases q.steps_withoutEndSlash with hsteps | ⟨-, hsteps⟩
    · rwa [hsteps] at h
    · rw [hsteps, follow_skip (.inr rfl)] at h
      exact absurd h (hsomewhere hbegin)
  rcases List.eq_nil_or_concat q.segments with hnil | ⟨front, n, hconcat⟩
  · rw [hnil] at hfollow
    exact absurd hfollow (hsomewhere hbegin)
  · rw [List.concat_eq_append] at hconcat
    rw [hconcat] at hfollow
    obtain ⟨left, folder, hwalk⟩ := exists_walk hfollow (.inl (List.cons_ne_nil n []))
    have hfolder := hwalk.isFolderAt hbegin
    have hpasses : Purpose.Passes .entry [n] := List.cons_ne_nil n []
    rw [hwalk.follow_append hpasses] at hfollow
    refine ⟨front, n, left, folder, hconcat, ?_⟩
    obtain ⟨-, hnext⟩ | ⟨-, hnext⟩ | ⟨-, hinner, hnext⟩ | ⟨-, hlast, -⟩ | ⟨hn, -, -, hplace⟩ :=
      follow_cons_ok hfollow
    · exact absurd hnext (hsomewhere hfolder)
    · exact absurd hnext (hsomewhere hfolder.dropLast)
    · exact absurd hnext (hsomewhere hinner)
    · exact absurd ⟨rfl, rfl⟩ hlast
    · rw [Place.mk.injEq] at hplace
      exact ⟨hn, hplace.1, hwalk, hplace.2.symm⟩

/-! ### Folders that are there -/

theorem makeFolder_of_isFolder (hground : fs.Grounded) (h : fs.isFolder q = true) :
    ∃ e, fs.makeFolder q = (.error e, fs.withFaults fs.faults.tail) := by
  rcases fs.makeFolder_cases q with herror | ⟨names, hlocate, -⟩
  · exact herror
  · obtain ⟨front, n, left, folder, hsegments, hn, -, hwalk, hnone⟩ :=
      missing_of_locate hground hlocate
    obtain ⟨-, there, whole, hleads⟩ := (isFolder_iff hground).1 h
    rw [hsegments] at hleads
    obtain ⟨between, middle, hfront, hlast⟩ := hleads.split
    have hmiddle : middle = folder := hfront.unique hwalk
    subst hmiddle
    cases hlast with
    | skip hs _ => exact absurd hs fun he => he.elim hn.2.1 hn.1
    | up _ => exact absurd rfl hn.2.2.1
    | down _ hfolder _ =>
      obtain ⟨es, hes⟩ := hfolder
      rw [hnone] at hes
      cases hes
    | link _ hlink _ _ =>
      rw [hnone] at hlink
      cases hlink

theorem utf8ByteSize_le_of_sublist {s t : String} (h : s.toList.Sublist t.toList) :
    s.utf8ByteSize ≤ t.utf8ByteSize := by
  have hchars {cs ds : List Char} (hsub : cs.Sublist ds) :
      (String.ofList cs).utf8ByteSize ≤ (String.ofList ds).utf8ByteSize := by
    induction hsub with
    | slnil => exact Nat.le_refl _
    | cons c _ ih =>
      rw [String.ofList_cons, String.utf8ByteSize_append]
      omega
    | cons_cons c _ ih =>
      rw [String.ofList_cons, String.utf8ByteSize_append, String.ofList_cons,
        String.utf8ByteSize_append]
      omega
  simpa using hchars h

theorem walk_trail_iff {root : Node} {budget left : Nat} {here there : List String} :
    Walk root budget here p.trail left there ↔ Walk root budget here p.segments left there :=
  Walk.filter_iff fun s hs => .inl (by simpa using hs)

theorem isFolder_of_mem_ancestors (hground : fs.Grounded) (h : fs.isFolder p = true)
    (hq : q ∈ ancestors p) : fs.isFolder q = true := by
  obtain ⟨⟨hnul, -, hsize⟩, folder, left, hwalk⟩ := (isFolder_iff hground).1 h
  obtain ⟨hempty, habsolute, ⟨rest, htrail⟩, hchars⟩ := Path.mem_ancestors hq
  refine (isFolder_iff hground).2 ⟨⟨?nul, hempty, ?size⟩, ?leads⟩
  case nul =>
    have hp : Char.ofNat 0 ∉ p.text.toList := by simpa [hasNul] using hnul
    simpa [hasNul] using fun hmem => hp (hchars.subset hmem)
  case size => exact Nat.le_trans (utf8ByteSize_le_of_sublist hchars) hsize
  case leads =>
    rw [← walk_trail_iff, ← htrail] at hwalk
    obtain ⟨between, middle, hfront, -⟩ := hwalk.split
    refine ⟨middle, between, ?_⟩
    rw [← walk_trail_iff, start, habsolute]
    exact hfront

/-! ### Making one folder after another -/

theorem forgive_cases (fs : FileSystem) (q : Path) (e : IoError) :
    fs.forgive q e = (.ok (), fs) ∨ fs.forgive q e = (.error e, fs) ∧ fs.isFolder q = false := by
  cases hq : fs.isFolder q with
  | true => exact .inl (if_pos hq)
  | false => exact .inr ⟨if_neg (by simp [hq]), rfl⟩

section Run
variable {P : FileSystem → Prop} {qs outer missing : List Path}

theorem makeFolders_preserves (hmake : ∀ fs, P fs → ∀ q ∈ qs, P (fs.makeFolder q).2) (h : P fs) :
    P (fs.makeFolders qs).2 := by
  induction qs generalizing fs with
  | nil => exact h
  | cons q rest ih =>
    have hq := hmake fs h q List.mem_cons_self
    have hrest : ∀ fs, P fs → ∀ r ∈ rest, P (fs.makeFolder r).2 :=
      fun fs hfs r hr => hmake fs hfs r (List.mem_cons_of_mem q hr)
    rw [makeFolders]
    split
    · next made hmade => exact ih hrest (by rwa [hmade] at hq)
    · next e failed hfailed =>
      rw [hfailed] at hq
      obtain hforgive | ⟨hforgive, -⟩ := failed.forgive_cases q e <;> rw [hforgive]
      · exact ih hrest hq
      · exact hq

theorem makeOutwards_preserves (hmake : ∀ fs, P fs → ∀ q ∈ outer ++ missing, P (fs.makeFolder q).2)
    (h : P fs) : P (fs.makeOutwards outer missing).2 := by
  induction outer generalizing fs missing with
  | nil => exact makeFolders_preserves hmake h
  | cons q rest ih =>
    have hq := hmake fs h q List.mem_cons_self
    have hmissing : ∀ fs, P fs → ∀ r ∈ missing, P (fs.makeFolder r).2 :=
      fun fs hfs r hr => hmake fs hfs r (List.mem_append_right _ hr)
    rw [makeOutwards]
    split
    · next made hmade => exact makeFolders_preserves hmissing (by rwa [hmade] at hq)
    · next failed hfailed =>
      rw [hfailed] at hq
      exact ih (fun fs hfs r hr => hmake fs hfs r (by simpa [or_left_comm] using hr)) hq
    · next e failed _ hfailed =>
      rw [hfailed] at hq
      obtain hforgive | ⟨hforgive, -⟩ := failed.forgive_cases q e <;> rw [hforgive]
      · exact makeFolders_preserves hmissing hq
      · exact hq

theorem makeFolders_error {made : FileSystem} {e : IoError}
    (h : fs.makeFolders qs = (.error e, made)) : ∃ q ∈ qs, made.isFolder q = false := by
  induction qs generalizing fs with
  | nil => cases h
  | cons q rest ih =>
    have hrest {fs : FileSystem} (h : fs.makeFolders rest = (.error e, made)) :
        ∃ r ∈ q :: rest, made.isFolder r = false := by
      obtain ⟨r, hr, hfolder⟩ := ih h
      exact ⟨r, List.mem_cons_of_mem q hr, hfolder⟩
    rw [makeFolders] at h
    split at h
    · exact hrest h
    · next e failed _ =>
      obtain hforgive | ⟨hforgive, hfolder⟩ := failed.forgive_cases q e <;> rw [hforgive] at h
      · exact hrest h
      · cases h
        exact ⟨q, List.mem_cons_self, hfolder⟩

theorem makeOutwards_error {made : FileSystem} {e : IoError}
    (h : fs.makeOutwards outer missing = (.error e, made)) :
    ∃ q ∈ outer ++ missing, made.isFolder q = false := by
  induction outer generalizing fs missing with
  | nil => exact makeFolders_error h
  | cons q rest ih =>
    have hmissing {fs : FileSystem} (h : fs.makeFolders missing = (.error e, made)) :
        ∃ r ∈ q :: rest ++ missing, made.isFolder r = false := by
      obtain ⟨r, hr, hfolder⟩ := makeFolders_error h
      exact ⟨r, List.mem_append_right _ hr, hfolder⟩
    rw [makeOutwards] at h
    split at h
    · exact hmissing h
    · obtain ⟨r, hr, hfolder⟩ := ih h
      exact ⟨r, by simpa [or_left_comm] using hr, hfolder⟩
    · next e failed _ _ =>
      obtain hforgive | ⟨hforgive, hfolder⟩ := failed.forgive_cases q e <;> rw [hforgive] at h
      · exact hmissing h
      · cases h
        exact ⟨q, List.mem_cons_self, hfolder⟩

end Run

/-- A folder that is there stays as it is, whatever operations fail. -/
theorem makeFolderPath_of_isFolder (hground : fs.Grounded) (h : fs.isFolder p = true) :
    ∃ used, fs.makeFolderPath p = (.ok (), fs.withFaults (fs.faults.drop used)) := by
  have hpath := ((isFolder_iff hground).1 h).1
  have hall : ∀ q ∈ ancestors p ++ [], fs.isFolder q = true := fun q hq =>
    isFolder_of_mem_ancestors hground h (by simpa using hq)
  have hstate : ∃ used, (fs.makeOutwards (ancestors p) []).2 =
      fs.withFaults (fs.faults.drop used) := by
    refine makeOutwards_preserves
      (P := fun made => ∃ used, made = fs.withFaults (fs.faults.drop used)) ?_ ⟨0, rfl⟩
    rintro _ ⟨used, rfl⟩ q hq
    have hgroundq : (fs.withFaults (fs.faults.drop used)).Grounded := hground
    obtain ⟨e, he⟩ := makeFolder_of_isFolder hgroundq (hall q hq)
    have htail : (fs.withFaults (fs.faults.drop used)).faults.tail = fs.faults.drop (used + 1) :=
      List.tail_drop
    exact ⟨used + 1, by rw [he, htail]; rfl⟩
  obtain ⟨used, hused⟩ := hstate
  refine ⟨used, ?_⟩
  rw [makeFolderPath, hpath.2.1, if_neg Bool.false_ne_true]
  cases hmade : fs.makeOutwards (ancestors p) [] with
  | mk result made =>
    rw [hmade] at hused
    have hsame : made = fs.withFaults (fs.faults.drop used) := hused
    cases result with
    | ok u => rw [hsame]
    | error e =>
      obtain ⟨q, hq, hnot⟩ := makeOutwards_error hmade
      rw [hsame, isFolder_withFaults, hall q hq] at hnot
      cases hnot

/-! ### Folders that were missing -/

/-- The path leads nowhere beyond a folder that is new and empty. -/
def Fresh (fs : FileSystem) (p : Path) : Prop :=
  ∃ front rest left folder, p.trail = front ++ rest ∧ (∃ s ∈ front, s ≠ "..") ∧
    Walk fs.root maxLinks (fs.start p) front left folder ∧ fs.root.get? folder = some (.folder [])

/-- What was made on the way to a path, starting from `fs`. -/
def MadeToward (fs : FileSystem) (p : Path) (made : FileSystem) : Prop :=
  (∃ faults, made = fs.withFaults faults) ∨
    made.workingFolder = fs.workingFolder ∧ Keeps fs.root made.root ∧ made.Fresh p

theorem makeFolder_madeToward (hground : fs.Grounded) (hq : q ∈ ancestors p) :
    fs.MadeToward p (fs.makeFolder q).2 := by
  rcases fs.makeFolder_cases q with ⟨e, he⟩ | ⟨names, hlocate, hmade⟩
  · exact .inl ⟨_, by rw [he]⟩
  · obtain ⟨front, n, left, folder, hsegments, hn, rfl, hwalk, hnone⟩ :=
      missing_of_locate hground hlocate
    obtain ⟨-, habsolute, ⟨rest, htrail⟩, -⟩ := Path.mem_ancestors hq
    have hfolder := hwalk.isFolderAt (hground.start q)
    have hkeeps : Keeps fs.root (fs.root.set (folder ++ [n]) (.folder [])) :=
      keeps_set _ fun m hm => by simp [hnone] at hm
    have hentry : (fs.root.set (folder ++ [n]) (.folder [])).get? (folder ++ [n]) =
        some (.folder []) := by rw [get?_set_entry hfolder, if_pos rfl]
    have hthere := (hwalk.mono hkeeps).append (.down hn ⟨[], hentry⟩ (.nil left (folder ++ [n])))
    rw [← hsegments, ← walk_trail_iff, start, habsolute] at hthere
    have hmem : n ∈ q.trail := by simp [Path.trail, hsegments, hn.2.1]
    rw [hmade]
    exact .inr ⟨rfl, hkeeps, q.trail, rest, left, folder ++ [n], htrail.symm,
      ⟨n, hmem, hn.2.2.1⟩, hthere, hentry⟩

theorem MadeToward.grounded {made : FileSystem} (h : fs.MadeToward p made)
    (hground : fs.Grounded) : made.Grounded := by
  rcases h with ⟨faults, rfl⟩ | ⟨hworking, hkeeps, -⟩
  · exact hground
  · rw [Grounded, hworking]
    exact (hkeeps fs.workingFolder).1 hground

theorem MadeToward.trans {made more : FileSystem} (h : fs.MadeToward p made)
    (hmore : made.MadeToward p more) : fs.MadeToward p more := by
  rcases hmore with ⟨faults, rfl⟩ | ⟨hworking, hkeeps, hfresh⟩
  · rcases h with ⟨_, rfl⟩ | h
    · exact .inl ⟨faults, rfl⟩
    · exact .inr h
  · rcases h with ⟨_, rfl⟩ | ⟨hworking', hkeeps', -⟩
    · exact .inr ⟨hworking, hkeeps, hfresh⟩
    · exact .inr ⟨hworking.trans hworking', hkeeps'.trans hkeeps, hfresh⟩

theorem makeFolderPath_madeToward (hground : fs.Grounded) (p : Path) :
    fs.MadeToward p (fs.makeFolderPath p).2 := by
  have hrefl : fs.MadeToward p fs := .inl ⟨fs.faults, rfl⟩
  rw [makeFolderPath]
  split
  · exact hrefl
  · refine makeOutwards_preserves (P := fs.MadeToward p) (fun made hmade q hq => ?_) hrefl
    rw [List.append_nil] at hq
    exact hmade.trans (makeFolder_madeToward (hmade.grounded hground) hq)

theorem Fresh.nodeAt?_eq_none {n : String} (h : fs.Fresh p) (hup : p.goesUpFirst = true)
    (hn : IsFileName n) : fs.nodeAt? (p.join ⟨n⟩) = none := by
  by_cases hpath : IsPath (p.join ⟨n⟩)
  · by_cases hreached : ∃ there, fs.Leads p there
    · obtain ⟨there, left', hwhole⟩ := hreached
      obtain ⟨front, rest, left, folder, htrail, ⟨s, hs, hsup⟩, hwalk, hempty⟩ := h
      have hnone (name : String) : fs.root.get? (folder ++ [name]) = none := get?_entry hempty name
      rw [nodeAt?_join hn hpath ⟨left', hwhole⟩]
      rw [← walk_trail_iff, htrail] at hwhole
      obtain ⟨between, middle, hfront, hrest⟩ := hwhole.split
      have hmiddle : middle = folder := hfront.unique hwalk
      subst hmiddle
      -- nothing can be passed in a folder that is empty
      cases hrest with
      | nil => exact hnone n
      | @skip _ _ _ _ more s hskip _ =>
        have hmem : s ∈ p.trail := by simp [htrail]
        obtain ⟨hsegment, hdot⟩ := List.mem_filter.1 hmem
        have hne := (Path.mem_segments hsegment).1
        exact absurd hskip (by simpa [hne] using hdot)
      | @up _ _ _ _ more _ =>
        have hdown : front.dropWhile (· = "..") ≠ [] := by
          intro hnil
          have htake := @List.takeWhile_append_dropWhile _ (· = "..") front
          rw [hnil, List.append_nil] at htake
          have hall := List.all_eq_true.1 (List.all_takeWhile (p := (· = ".."))) s (htake ▸ hs)
          exact hsup (by simpa using hall)
        rw [Path.goesUpFirst, htrail, List.dropWhile_append, if_neg (by simpa using hdown)] at hup
        simp at hup
      | down _ hfolder _ =>
        obtain ⟨es, hes⟩ := hfolder
        rw [hnone] at hes
        cases hes
      | link _ hlink _ _ =>
        rw [hnone] at hlink
        cases hlink
    · exact nodeAt?_join_eq_none hn (.inr fun there hleads => hreached ⟨there, hleads⟩)
  · exact nodeAt?_join_eq_none hn (.inl hpath)

/-! ### Entries before and after -/

theorem nodeAt?_join_of_not_isFolder {n : String} (hground : fs.Grounded)
    (hne : p.isEmpty = false) (h : fs.isFolder p = false) (hn : IsFileName n) :
    fs.nodeAt? (p.join ⟨n⟩) = none := by
  refine nodeAt?_join_eq_none hn ?_
  by_cases hpath : IsPath p
  · refine .inr fun folder hleads => ?_
    have hfolder := (isFolder_iff hground).2 ⟨hpath, folder, hleads⟩
    rw [h] at hfolder
    cases hfolder
  · refine .inl fun hjoin => hpath ?_
    obtain ⟨hnul, hsize⟩ := (isPath_join hn).1 hjoin
    have hlonger := p.utf8ByteSize_join hn.2.1
    exact ⟨hnul, hne, by omega⟩

theorem nodeAt?_of_makeFolderPath_error {n : String} {e : IoError} {made : FileSystem}
    (hground : fs.Grounded) (h : fs.makeFolderPath p = (.error e, made)) (hn : IsFileName n) :
    fs.nodeAt? (p.join ⟨n⟩) = none ∧ made.nodeAt? (p.join ⟨n⟩) = none := by
  have hgroundmade : made.Grounded := by
    have hmade := (makeFolderPath_madeToward hground p).grounded hground
    rwa [h] at hmade
  have hne : p.isEmpty = false := by
    cases hempty : p.isEmpty with
    | false => rfl
    | true => simp [makeFolderPath, hempty] at h
  have hbefore : fs.isFolder p = false := by
    cases hfolder : fs.isFolder p with
    | false => rfl
    | true =>
      obtain ⟨faults, hfaults⟩ := makeFolderPath_of_isFolder hground hfolder
      rw [h] at hfaults
      cases hfaults
  have hafter : made.isFolder p = false := by
    rw [makeFolderPath, hne, if_neg Bool.false_ne_true] at h
    obtain ⟨q, hq, hnot⟩ := makeOutwards_error h
    rw [List.append_nil] at hq
    cases hfolder : made.isFolder p with
    | false => rfl
    | true =>
      rw [isFolder_of_mem_ancestors hgroundmade hfolder hq] at hnot
      cases hnot
  exact ⟨nodeAt?_join_of_not_isFolder hground hne hbefore hn,
    nodeAt?_join_of_not_isFolder hgroundmade hne hafter hn⟩

/-- Making a folder leaves the files in it as they were, if it was there or its path does not go up
behind a folder that was missing. -/
theorem nodeAt?_makeFolderPath {n : String} (hground : fs.Grounded) (hn : IsFileName n)
    (h : fs.isFolder p = true ∨ p.goesUpFirst = true) :
    (fs.makeFolderPath p).2.nodeAt? (p.join ⟨n⟩) = fs.nodeAt? (p.join ⟨n⟩) := by
  cases hfolder : fs.isFolder p with
  | true =>
    obtain ⟨faults, hfaults⟩ := makeFolderPath_of_isFolder hground hfolder
    rw [hfaults]
    rfl
  | false =>
    have hup : p.goesUpFirst = true := h.resolve_left (by simp [hfolder])
    rcases makeFolderPath_madeToward hground p with ⟨faults, hfaults⟩ | ⟨-, -, hfresh⟩
    · rw [hfaults]
      rfl
    · cases hne : p.isEmpty with
      | true => simp [makeFolderPath, hne]
      | false =>
        rw [hfresh.nodeAt?_eq_none hup hn, nodeAt?_join_of_not_isFolder hground hne hfolder hn]

end FileSystem
end BuildPipeline

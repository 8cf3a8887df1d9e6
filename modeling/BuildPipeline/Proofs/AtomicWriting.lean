import BuildPipeline.Proofs.Confinement
import BuildPipeline.Proofs.FileReplacing
import BuildPipeline.Proofs.ProperTree

/-! A text written beside its place and moved there, in a tree without links where nothing stands
beside the place. Either nothing changes or one file is new: what was put beside the place is taken
away again if it cannot be moved. Only a write that breaks off leaves there what got through. -/
namespace BuildPipeline

namespace Node

/-! ### Put somewhere and taken away again -/

theorem dropEntry_putEntry {name : String} {es : List (String × Node)} (h : find? name es = none)
    (n : Node) : dropEntry name (putEntry name n es) = es := by
  induction es with
  | nil => simp [putEntry, dropEntry]
  | cons e rest ih =>
    obtain ⟨key, m⟩ := e
    rw [find?_cons] at h
    split at h
    · cases h
    · next hkey =>
      have hne : key ≠ name := Ne.symm hkey
      rw [putEntry, if_neg hne, dropEntry, List.filter_cons_of_pos (by simpa using hne)]
      exact congrArg _ (ih h)

/-- Entries are kept in their order. -/
theorem erase_set {root : Node} {place : List String} (h : root.get? place = none) (new : Node) :
    (root.set place new).erase place = root := by
  induction place generalizing root with
  | nil =>
    rw [get?] at h
    cases h
  | cons name rest ih =>
    cases root with
    | folder es =>
      rw [get?_folder_cons] at h
      by_cases hrest : rest = []
      · subst hrest
        have hfind : find? name es = none := by
          simpa only [get?, Option.bind_eq_none_iff, reduceCtorEq, imp_false,
            ← Option.eq_none_iff_forall_ne_some] using h
        rw [set, erase, dropEntry_putEntry hfind]
      · rw [set_cons hrest]
        cases hfind : find? name es with
        | none => simp only [erase_cons hrest, hfind]
        | some n =>
          rw [hfind, Option.bind_some] at h
          simp only [erase_cons hrest, find?_putEntry, if_true, putEntry_putEntry, ih h,
            putEntry_self hfind]
    | _ => simp only [set, erase]

end Node

namespace FileSystem

open Node

/-! ### Where a path leads before and after a change -/

section Kept
variable {root root' : Node} {purpose : Purpose} {budget : Nat} {here segments : List String}
  {place : Place}

/-- A path still leads where it led when all folders are kept. -/
theorem follow_kept (htidy : root.Tidy) (htidy' : root'.Tidy) (hkeeps : Keeps root root')
    (h : follow root purpose budget here segments = .ok place) :
    follow root' .entry budget here segments = .ok ⟨place.names, root'.get? place.names⟩ := by
  induction segments generalizing here with
  | nil =>
    rw [follow_nil] at h ⊢
    cases h
    rfl
  | cons s rest ih =>
    obtain ⟨hs, hnext⟩ | ⟨rfl, hnext⟩ | ⟨hs, hfolder, hnext⟩ | ⟨-, -, target, -, hlink, -⟩ |
      ⟨hs, rfl, -, rfl⟩ := follow_cons_ok h
    · rw [follow_skip hs, ih hnext]
    · rw [follow_up, ih hnext]
    · obtain ⟨es, hes⟩ := (hkeeps _).1 hfolder
      rw [follow_name hs (by simp), hes]
      exact ih hnext
    · exact absurd hlink (htidy.ne_link _ target)
    · exact follow_entry hs fun target hlink => absurd hlink (htidy'.ne_link _ target)

/-- What a path leads to is a folder or stands in one. -/
theorem follow_parent (htidy : root.Tidy) (hhere : root.IsFolderAt here)
    (h : follow root purpose budget here segments = .ok place) :
    root.IsFolderAt place.names ∨
      ∃ folder n, place.names = folder ++ [n] ∧ root.IsFolderAt folder := by
  induction segments generalizing here with
  | nil =>
    rw [follow_nil] at h
    cases h
    exact .inl hhere
  | cons s rest ih =>
    obtain ⟨-, hnext⟩ | ⟨rfl, hnext⟩ | ⟨-, hfolder, hnext⟩ | ⟨-, -, target, -, hlink, -⟩ |
      ⟨-, -, -, rfl⟩ := follow_cons_ok h
    · exact ih hhere hnext
    · exact ih hhere.dropLast hnext
    · exact ih hfolder hnext
    · exact absurd hlink (htidy.ne_link _ target)
    · exact .inr ⟨here, s, rfl, hhere⟩

end Kept

section Locate
variable {fs after : FileSystem} {p : Path} {purpose : Purpose} {place : Place}

theorem locate_kept (htidy : fs.Tidy) (htidy' : after.root.Tidy) (hkeeps : Keeps fs.root after.root)
    (hworking : after.workingFolder = fs.workingFolder) (h : fs.locate p purpose = .ok place) :
    after.locate p .entry = .ok ⟨place.names, after.root.get? place.names⟩ := by
  have hpath := isPath_of_locate h
  have hstart : after.start p = fs.start p := by rw [start, start, hworking]
  rw [locate_of_isPath hpath] at h
  rw [locate_of_isPath hpath, hstart]
  exact follow_kept htidy.root htidy' hkeeps h

theorem locate_parent (htidy : fs.Tidy) (hground : fs.Grounded)
    (h : fs.locate p purpose = .ok place) (hfolder : ¬ fs.root.IsFolderAt place.names) :
    ∃ folder n, place.names = folder ++ [n] ∧ fs.root.IsFolderAt folder := by
  rw [locate_of_isPath (isPath_of_locate h)] at h
  exact (follow_parent htidy.root (hground.start p) h).resolve_left hfolder

theorem nodeAt?_of_locate (h : fs.locate p .entry = .ok place) : fs.nodeAt? p = place.node := by
  rw [nodeAt?, h]

theorem nodeAt?_congr (hroot : after.root = fs.root)
    (hworking : after.workingFolder = fs.workingFolder) (p : Path) :
    after.nodeAt? p = fs.nodeAt? p := by
  simp only [nodeAt?, locate, hroot, hworking]

end Locate

/-! ### A path and the path beside it -/

section Beside

theorem exists_append (cs : List Char) : ∃ (q : Path) (s : String), '/' ∉ s.toList ∧
    (q.text = "" ∨ q.endsInSlash = true) ∧ q.text ++ s = String.ofList cs := by
  induction cs using List.reverseRecOn with
  | nil => exact ⟨⟨""⟩, "", by simp, .inl rfl, rfl⟩
  | append_singleton front c ih =>
    by_cases hc : c = '/'
    · subst hc
      exact ⟨⟨String.ofList (front ++ ['/'])⟩, "", by simp, .inr (by simp [Path.endsInSlash]),
        String.append_empty⟩
    · obtain ⟨q, s, hslash, hend, hfront⟩ := ih
      refine ⟨q, s.push c, by simp [hslash, Ne.symm hc], hend, ?_⟩
      rw [String.ofList_append, ← hfront]
      exact String.toList_inj.1 (by simp)

/-- Every path is what follows its last slash, joined to all before. -/
theorem exists_join (p : Path) : ∃ (q : Path) (s : String), '/' ∉ s.toList ∧ p = q.join ⟨s⟩ := by
  obtain ⟨q, s, hslash, hend, htext⟩ := exists_append p.text.toList
  rw [String.ofList_toList] at htext
  refine ⟨q, s, hslash, ?_⟩
  rw [Path.join, Path.isAbsolute_name hslash]
  simp [hend, htext]

variable {fs : FileSystem} {p : Path} {s : String}

theorem placeOf_join (h : '/' ∉ s.toList) :
    fs.placeOf (p.join ⟨s⟩) = goFrom (fs.placeOf p) [s] := by
  have hrelative := Path.isAbsolute_name h
  rw [placeOf, placeOf, start, start, p.isAbsolute_join_relative hrelative,
    p.segments_join_relative hrelative, goFrom_append]
  by_cases hs : s = ""
  · have hnone : (⟨s⟩ : Path).segments = [] := by rw [hs]; rfl
    rw [hnone, goFrom_skip (.inr hs)]
  · rw [Path.segments_name hs h]

/-- No path names the same place as the path beside it. -/
theorem placeOf_beside_ne (fs : FileSystem) (p : Path) :
    fs.placeOf (p.withSuffix ".tmp") ≠ fs.placeOf p := by
  obtain ⟨q, s, hslash, rfl⟩ := exists_join p
  have hsize : (s ++ ".tmp").utf8ByteSize = s.utf8ByteSize + 4 := String.utf8ByteSize_append
  have hlong {t : String} (ht : t.utf8ByteSize < s.utf8ByteSize + 4) : s ++ ".tmp" ≠ t := by
    rintro rfl
    omega
  have hdots : ¬ (s ++ ".tmp" = "." ∨ s ++ ".tmp" = "") ∧ s ++ ".tmp" ≠ ".." :=
    ⟨not_or.2 ⟨hlong (show 1 < _ by omega), hlong (show 0 < _ by omega)⟩,
      hlong (show 2 < _ by omega)⟩
  rw [q.withSuffix_join hslash (by decide), placeOf_join (by simp [hslash]), placeOf_join hslash,
    goFrom, if_neg hdots.1, if_neg hdots.2, goFrom, goFrom, goFrom, goFrom, goFrom]
  -- any name but this one leads to another place, and a dot no further down
  intro heq
  split at heq
  · simp at heq
  · split at heq
    · have hlength := congrArg List.length heq
      rw [List.length_append, List.length_dropLast, List.length_singleton] at hlength
      omega
    · have hsame : s ++ ".tmp" = s := List.singleton_inj.1 (List.append_cancel_left heq)
      exact hlong (Nat.lt_add_of_pos_right (by decide)) hsame

end Beside

/-! ### The operations -/

/-- Nothing but the node at one place is different. -/
structure OnlyAt (fs : FileSystem) (names : List String) (n : Node) (after : FileSystem) :
    Prop where
  working : after.workingFolder = fs.workingFolder
  here : after.root.get? names = some n
  others : ∀ other, other ≠ names → after.root.surface other = fs.root.surface other

/-- Where nothing stands, a new file is written or nothing is. -/
theorem fileTarget_absent {fs : FileSystem} {p : Path} (htidy : fs.Tidy)
    (hnone : fs.nodeAt? p = none) :
    (∃ e, fs.fileTarget p = .error e) ∨
      ∃ names, fs.locate p .entry = .ok ⟨names, none⟩ ∧ fs.fileTarget p = .ok names ∧
        ∀ content, fs.store names content = (.ok (), fs.put names (.file content)) := by
  cases hlocate : fs.locate p .creation with
  | error e => exact .inl ⟨e, by simp only [fileTarget, hlocate]⟩
  | ok place =>
    have hentry := locate_kept htidy htidy.root (.refl _) rfl hlocate
    have hget : fs.root.get? place.names = none := (nodeAt?_of_locate hentry).symm.trans hnone
    have hnode : place.node = none := (locate_tidy htidy hlocate).2.1.trans hget
    obtain ⟨names, node⟩ := place
    subst hnode
    exact .inr ⟨names, hentry.trans (by rw [hget]), by simp only [fileTarget, hlocate],
      fun content => by rw [store, show fs.root.get? names = none from hget]⟩

/-- Where nothing stands, either nothing happens or a new file is made. It has the text, unless the
write breaks off: then it has the bytes that got through. -/
theorem writeText_absent {fs : FileSystem} {p : Path} (text : String) (htidy : fs.Tidy)
    (hnone : fs.nodeAt? p = none) :
    (∃ e, fs.writeText p text = (.error e, fs.withFaults fs.faults.tail)) ∨
      ∃ names, fs.locate p .entry = .ok ⟨names, none⟩ ∧
        (fs.writeText p text =
            (.ok (), (fs.withFaults fs.faults.tail).put names (.file text.toUTF8)) ∨
          ∃ error n, fs.faults.head?.join = some ⟨error, some n⟩ ∧ fs.writeText p text =
            (.error error, (fs.withFaults fs.faults.tail).put names
              (.file (text.toUTF8.extract 0 n)))) := by
  have hlater : (fs.withFaults fs.faults.tail).nodeAt? p = none :=
    (nodeAt?_congr rfl rfl p).trans hnone
  have hsame : (fs.withFaults fs.faults.tail).Tidy := ⟨htidy.root, htidy.working⟩
  have habsent := fileTarget_absent hsame hlater
  simp only [locate_withFaults] at habsent
  rw [writeText, writeBytes, nextFault_eq]
  cases hfault : fs.faults.head?.join with
  | none =>
    obtain ⟨e, htarget⟩ | ⟨names, hlocate, htarget, hstore⟩ := habsent
    · exact .inl ⟨e, by simp only [htarget]⟩
    · exact .inr ⟨names, hlocate, .inl (by simp only [htarget, hstore])⟩
  | some fault =>
    obtain ⟨error, _ | n⟩ := fault
    · exact .inl ⟨error, rfl⟩
    · obtain ⟨e, htarget⟩ | ⟨names, hlocate, htarget, hstore⟩ := habsent
      · exact .inl ⟨e, by simp only [htarget]⟩
      · exact .inr ⟨names, hlocate, .inr ⟨error, n, rfl, by simp only [htarget, hstore]⟩⟩

/-! ### The whole write -/

section Whole
variable {fs begun after : FileSystem} {p q : Path} {place : Place} {names : List String}
  {content : ByteArray} {runnable : Bool}

theorem put_file (htidy : fs.Tidy) (hground : fs.Grounded) (hplace : fs.locate p .entry = .ok place)
    (hfolder : ∀ es, place.node ≠ some (.folder es))
    (hworking : after.workingFolder = fs.workingFolder)
    (hroot : after.root = fs.root.set place.names (.file content runnable)) :
    fs.OnlyAt (fs.placeOf p) (.file content runnable) after ∧ after.root.Tidy ∧
      Keeps fs.root after.root := by
  obtain ⟨hnames, hnode, hall⟩ := locate_tidy htidy hplace
  rw [hnode] at hfolder
  obtain ⟨parent, n, hn, hparent⟩ :=
    locate_parent htidy hground hplace fun ⟨es, hes⟩ => hfolder es hes
  have hleaf := isLeaf_of_ne (htidy.root.ne_link place.names) hfolder
  refine ⟨⟨hworking, ?_, fun other hother => ?_⟩, ?_, hroot ▸ keeps_set _ hleaf⟩
  · rw [← hnames, hroot, hn, get?_set_entry hparent, if_pos rfl]
  · rw [hroot]
    exact (surface_set_file (fun ⟨es, hes⟩ => hfolder es hes) other).resolve_right
      fun h => hother (h.1.trans hnames)
  · rw [hroot]
    exact htidy.root.set (.file _ _) hall

/-- The same file system with something where nothing stood at the end of a path. -/
structure Begun (fs : FileSystem) (p : Path) (names : List String) (n : Node)
    (begun : FileSystem) : Prop where
  working : begun.workingFolder = fs.workingFolder
  tidy : begun.Tidy
  keeps : Keeps fs.root begun.root
  found : begun.locate p .entry = .ok ⟨names, some n⟩
  erased : begun.root.erase names = fs.root

theorem begun_put (htidy : fs.Tidy) (hground : fs.Grounded)
    (hnone : fs.locate p .entry = .ok ⟨names, none⟩)
    (hworking : begun.workingFolder = fs.workingFolder)
    (hroot : begun.root = fs.root.set names (.file content runnable)) :
    fs.Begun p names (.file content runnable) begun := by
  obtain ⟨hnames, hnode, -⟩ := locate_tidy htidy hnone
  obtain ⟨honly, htidyBegun, hkeeps⟩ := put_file htidy hground hnone nofun hworking hroot
  have hget : begun.root.get? names = some (.file content runnable) := by
    rw [show names = fs.placeOf p from hnames]
    exact honly.here
  exact ⟨hworking, ⟨htidyBegun, hworking ▸ htidy.working⟩, hkeeps,
    hget ▸ locate_kept htidy htidyBegun hkeeps hworking hnone,
    by rw [hroot, erase_set hnode.symm]⟩

theorem Begun.restored (h : fs.Begun p names (.file content runnable) begun)
    {faults : List (Option Fault)} (hclear : faults.head?.join = none) :
    ((begun.withFaults faults).removeFile p).2.root = fs.root ∧
      ((begun.withFaults faults).removeFile p).2.workingFolder = fs.workingFolder := by
  rw [@removeFile_found (begun.withFaults faults) _ _ _ h.found rfl hclear]
  exact ⟨h.erased, h.working⟩

/-- Where another path leads to no folder, it led there before. -/
theorem Begun.locate_before (h : fs.Begun p names (.file content runnable) begun) (htidy : fs.Tidy)
    (hplace : begun.locate q .entry = .ok place) (hfolder : ∀ es, place.node ≠ some (.folder es)) :
    ∃ node, fs.locate q .entry = .ok ⟨place.names, node⟩ ∧ ∀ es, node ≠ some (.folder es) := by
  have hback : Keeps begun.root fs.root := by
    rw [← h.erased]
    refine keeps_erase fun n hn => ?_
    have hnode := (locate_tidy h.tidy h.found).2.1
    cases hnode.trans hn
    rfl
  refine ⟨_, locate_kept h.tidy htidy.root hback h.working.symm hplace, fun es hes => ?_⟩
  obtain ⟨es', hes'⟩ := (h.keeps place.names).1 ⟨es, hes⟩
  exact hfolder es' ((locate_tidy h.tidy hplace).2.1.trans hes')

/-- With a new file beside its place, a text gets to its place, or nothing is left of it. -/
theorem Begun.move_or_restore
    (h : fs.Begun (p.withSuffix ".tmp") names (.file content runnable) begun) (htidy : fs.Tidy)
    (hground : fs.Grounded)
    (hnone : fs.locate (p.withSuffix ".tmp") .entry = .ok ⟨names, none⟩)
    (hremoval : begun.faults.tail.head?.join = none) :
    (∃ e failed, begun.rename (p.withSuffix ".tmp") p = (.error e, failed) ∧
        (failed.removeFile (p.withSuffix ".tmp")).2.root = fs.root ∧
        (failed.removeFile (p.withSuffix ".tmp")).2.workingFolder = fs.workingFolder) ∨
      ∃ after, begun.rename (p.withSuffix ".tmp") p = (.ok (), after) ∧
        fs.OnlyAt (fs.placeOf p) (.file content runnable) after ∧
        after.nodeAt? p = some (.file content runnable) ∧
        after.nodeAt? (p.withSuffix ".tmp") = none := by
  obtain ⟨hnames, hnode, -⟩ := locate_tidy htidy hnone
  have hne (place : Place) (hplace : begun.locate p .entry = .ok place) : names ≠ place.names := by
    rw [(locate_tidy h.tidy hplace).1, placeOf_congr h.working,
      show names = fs.placeOf (p.withSuffix ".tmp") from hnames]
    exact placeOf_beside_ne fs p
  obtain ⟨⟨e, herror⟩, -⟩ | ⟨place, hplace, hfolder, hmoved, -⟩ := rename_found h.found hne
  · exact .inl ⟨e, _, herror, h.restored hremoval⟩
  · obtain ⟨node, hbefore, hfolder⟩ := h.locate_before htidy hplace hfolder
    refine .inr ⟨_, hmoved, ?_⟩
    generalize hafter : ((begun.withFaults begun.faults.tail).takeAway names).put place.names
      (.file content runnable) = after
    have hworking : after.workingFolder = fs.workingFolder := by
      rw [← hafter]
      exact h.working
    have hroot : after.root = fs.root.set place.names (.file content runnable) := by
      rw [← hafter, ← h.erased]
      rfl
    obtain ⟨honly, htidyAfter, hkeeps⟩ := put_file htidy hground hbefore hfolder hworking hroot
    have hlater {q : Path} {x : Place} (hq : fs.locate q .entry = .ok x) :
        after.nodeAt? q = after.root.get? x.names :=
      nodeAt?_of_locate (locate_kept htidy htidyAfter hkeeps hworking hq)
    refine ⟨honly, ?_, ?_⟩
    · rw [hlater hbefore, (locate_tidy htidy hbefore).1, honly.here]
    · rw [hlater hnone, ← surface_eq_none, hnames, honly.others _ (placeOf_beside_ne fs p),
        ← hnames, surface_eq_none]
      exact hnode.symm

/-- Where nothing stands beside a place, a text that is not written changes nothing, unless the
write broke off: then the bytes that got through stay beside the place. A text that is written is a
new file at its place, and nothing else has changed. -/
theorem writeAtomic_restores (fs : FileSystem) (p : Path) (text : String) (htidy : fs.Tidy)
    (hground : fs.Grounded) (hbeside : fs.nodeAt? (p.withSuffix ".tmp") = none)
    (hremoval : (fs.faults.drop 2).head?.join = none) :
    (∃ e after, fs.writeAtomic p text = (.error e, after) ∧ after.root = fs.root ∧
        after.workingFolder = fs.workingFolder ∧ after.nodeAt? (p.withSuffix ".tmp") = none) ∨
      (∃ error n after, fs.faults.head?.join = some ⟨error, some n⟩ ∧
        fs.writeAtomic p text = (.error error, after) ∧
        fs.OnlyAt (fs.placeOf (p.withSuffix ".tmp")) (.file (text.toUTF8.extract 0 n) false) after ∧
        after.nodeAt? (p.withSuffix ".tmp") = some (.file (text.toUTF8.extract 0 n) false)) ∨
      ∃ after, fs.writeAtomic p text = (.ok (), after) ∧
        fs.OnlyAt (fs.placeOf p) (.file text.toUTF8 false) after ∧
        after.nodeAt? p = some (.file text.toUTF8 false) ∧
        after.nodeAt? (p.withSuffix ".tmp") = none := by
  rw [writeAtomic]
  obtain ⟨e, hwrite⟩ | ⟨names, hlocate, hwrite | ⟨error, n, hfault, hwrite⟩⟩ :=
    writeText_absent text htidy hbeside
  · simp only [hwrite]
    exact .inl ⟨e, _, rfl, rfl, rfl, hbeside⟩
  · generalize hbegun : (fs.withFaults fs.faults.tail).put names (.file text.toUTF8) =
      begun at hwrite
    have hfaults : begun.faults.tail.head?.join = none := by
      have htail : begun.faults.tail = fs.faults.drop 2 := by
        rw [← hbegun, ← List.tail_drop, List.drop_one]
        rfl
      rw [htail, hremoval]
    have hput : fs.Begun (p.withSuffix ".tmp") names (.file text.toUTF8 false) begun :=
      begun_put htidy hground hlocate (by rw [← hbegun]; rfl) (by rw [← hbegun]; rfl)
    simp only [hwrite]
    obtain ⟨e, failed, herror, hroot, hworking⟩ | ⟨after, hok, honly, hplace, hgone⟩ :=
      hput.move_or_restore htidy hground hlocate hfaults
    · simp only [herror]
      exact .inl ⟨e, _, rfl, hroot, hworking, (nodeAt?_congr hroot hworking _).trans hbeside⟩
    · simp only [hok]
      exact .inr (.inr ⟨after, rfl, honly, hplace, hgone⟩)
  · generalize hbroken : (fs.withFaults fs.faults.tail).put names
      (.file (text.toUTF8.extract 0 n)) = broken at hwrite
    have hworking : broken.workingFolder = fs.workingFolder := by rw [← hbroken]; rfl
    have hroot : broken.root = fs.root.set names (.file (text.toUTF8.extract 0 n) false) := by
      rw [← hbroken]; rfl
    have hput := begun_put htidy hground hlocate hworking hroot
    obtain ⟨honly, -, -⟩ := put_file htidy hground hlocate (fun _ h => by cases h) hworking hroot
    simp only [hwrite]
    exact .inr (.inl ⟨error, n, _, hfault, rfl, honly, nodeAt?_of_locate hput.found⟩)

end Whole

/-! ### A page -/

def ofEntries (es : List (String × Node)) (faults : List (Option Fault)) : FileSystem where
  root := .folder es
  workingFolder := []
  faults := faults

theorem locate_ofEntries {es : List (String × Node)} {faults : List (Option Fault)} {n : String}
    {m : Option Node} {purpose : Purpose} (hn : IsFileName n) (hpath : IsPath ⟨n⟩)
    (hfind : find? n es = m) (hlink : ∀ target, m ≠ some (.link target)) :
    (ofEntries es faults).locate ⟨n⟩ purpose = .ok ⟨[n], m⟩ := by
  have hleads : (ofEntries es faults).Leads ⟨""⟩ [] := ⟨maxLinks, .nil maxLinks []⟩
  have hjoin : Path.join ⟨""⟩ ⟨n⟩ = ⟨n⟩ := by simp [Path.join, Path.isAbsolute_name hn.2.1]
  have hget : (ofEntries es faults).root.get? ([] ++ [n]) = m := (get?_entry rfl n).trans hfind
  rw [← hjoin] at hpath ⊢
  have hlocate := @locate_join _ _ _ _ purpose hn hpath hleads fun target h =>
    absurd (hget.symm.trans h) (hlink target)
  rwa [hget] at hlocate

def page (runnable : Bool) : String × Node := ("page", .file "old".toUTF8 runnable)

section Page
variable (runnable : Bool) (faults : List (Option Fault))

theorem tidy_page : (ofEntries [page runnable] faults).Tidy :=
  ⟨.folder (List.nodup_singleton _) (List.forall_mem_singleton.2 (show IsFileName "page" by decide))
    (List.forall_mem_singleton.2 (.file _ _)), List.forall_mem_nil _⟩

theorem locate_page (content : ByteArray) (es : List (String × Node)) :
    (ofEntries (("page", .file content runnable) :: es) faults).locate ⟨"page"⟩ .entry =
      .ok ⟨["page"], some (.file content runnable)⟩ :=
  locate_ofEntries (by decide) (by decide) rfl nofun

theorem locate_beside_page (purpose : Purpose) :
    (ofEntries [page runnable] faults).locate ⟨"page.tmp"⟩ purpose = .ok ⟨["page.tmp"], none⟩ :=
  locate_ofEntries (by decide) (by decide) rfl nofun

theorem locate_beside_file (content : ByteArray) :
    (ofEntries [page runnable, ("page.tmp", .file content)] faults).locate ⟨"page.tmp"⟩ .entry =
      .ok ⟨["page.tmp"], some (.file content)⟩ :=
  locate_ofEntries (by decide) (by decide) rfl nofun

end Page

/-- The folder with the page when the file beside it cannot be moved. -/
theorem page_restored :
    ∃ e after,
      (ofEntries [page true] [none, some ⟨.accessDenied, none⟩]).writeAtomic ⟨"page"⟩ "new" =
        (.error e, after) ∧
      after.root = .folder [page true] ∧
        after.nodeAt? ((⟨"page"⟩ : Path).withSuffix ".tmp") = none := by
  have hbeside : (ofEntries [page true] [none, some ⟨.accessDenied, none⟩]).nodeAt?
      ((⟨"page"⟩ : Path).withSuffix ".tmp") = none :=
    nodeAt?_of_locate (locate_beside_page true _ .entry)
  have hpage := nodeAt?_of_locate
    (locate_page true [none, some ⟨.accessDenied, none⟩] "old".toUTF8 [])
  obtain ⟨e, after, hwrite, hroot, -, hgone⟩ | ⟨error, n, -, hbroken, -⟩ | ⟨after, hwrite, -⟩ :=
    writeAtomic_restores (ofEntries [page true] [none, some ⟨.accessDenied, none⟩]) ⟨"page"⟩ "new"
      (tidy_page true _) ⟨_, rfl⟩ hbeside rfl
  · exact ⟨e, after, hwrite, hroot, hgone⟩
  · cases hbroken
  · obtain ⟨-, -, -, -, hwritable⟩ := @writeAtomic_cases
      (ofEntries [page true] [none, some ⟨.accessDenied, none⟩]) ⟨""⟩ "page" "new" ⟨_, rfl⟩
      (by decide) (by decide) (hbeside ▸ isPlain_none) fun target hlink => by
        cases hpage.symm.trans hlink
    have hfault := (hwritable.1 (congrArg Prod.fst hwrite)).2.2 (some ⟨.accessDenied, none⟩)
      (by simp [ofEntries])
    cases hfault

/-- When the disk is full after one byte, that byte stays beside the page, where nothing was, and
the folder is not as it was before the write that failed. -/
theorem page_left_unclean :
    let fs := ofEntries [page false] [some ⟨.noSpace, some 1⟩]
    let beside := (⟨"page"⟩ : Path).withSuffix ".tmp"
    fs.Tidy ∧ fs.Grounded ∧ fs.nodeAt? beside = none ∧ (fs.faults.drop 1) = [] ∧
    ∃ after, fs.writeAtomic ⟨"page"⟩ "new" = (.error .noSpace, after) ∧
      after.nodeAt? beside = some (.file ("new".toUTF8.extract 0 1) false) ∧
      after.root ≠ fs.root := by
  intro fs beside
  have hbeside : beside = ⟨"page.tmp"⟩ := by decide
  have hbroken : fs.writeText ⟨"page.tmp"⟩ "new" = (.error .noSpace,
      ofEntries [page false, ("page.tmp", .file ("new".toUTF8.extract 0 1))] []) := by
    have hfault : fs.nextFault = (some ⟨.noSpace, some 1⟩, ofEntries [page false] []) := rfl
    simp only [writeText, writeBytes, hfault, fileTarget, locate_beside_page]
    rfl
  have hnone : fs.nodeAt? beside = none := by
    rw [hbeside]
    exact nodeAt?_of_locate (locate_beside_page _ _ .entry)
  refine ⟨tidy_page _ _, ⟨_, rfl⟩, hnone, rfl,
    ofEntries [page false, ("page.tmp", .file ("new".toUTF8.extract 0 1))] [], ?_, ?_, ?_⟩
  · simp only [writeAtomic, show (⟨"page"⟩ : Path).withSuffix ".tmp" = ⟨"page.tmp"⟩ from hbeside,
      hbroken]
  · rw [hbeside]
    exact nodeAt?_of_locate (locate_beside_file _ _ _)
  · intro hroot
    cases congrArg List.length (Node.folder.inj hroot)

end FileSystem
end BuildPipeline

import BuildPipeline.Proofs.FolderMaking
import BuildPipeline.Run.Documents

/-! Writing a file beside its place and moving it there. Its place then holds the whole text or what
it held before, whatever operations fail; but for what stands beside it, nothing else in the folder
is touched. -/
namespace BuildPipeline

namespace FileSystem

open Node

/-- At most the entries of these names in a folder are different; folders and links are kept. -/
structure Touches (fs : FileSystem) (folder names : List String) (after : FileSystem) : Prop where
  working : after.workingFolder = fs.workingFolder
  keeps : Keeps fs.root after.root
  others : ∀ other, other ∉ names →
    after.root.get? (folder ++ [other]) = fs.root.get? (folder ++ [other])

section Touches
variable {fs after : FileSystem} {p : Path} {folder names : List String}

theorem Touches.withFaults (fs : FileSystem) (folder names : List String)
    (faults : List (Option Fault)) : fs.Touches folder names (fs.withFaults faults) :=
  ⟨rfl, .refl _, fun _ _ => rfl⟩

theorem Touches.mono {more : List String} (h : fs.Touches folder names after)
    (hsub : names ⊆ more) : fs.Touches folder more after :=
  ⟨h.working, h.keeps, fun other hother => h.others other fun hmem => hother (hsub hmem)⟩

theorem Touches.trans {more : List String} {last : FileSystem} (h : fs.Touches folder names after)
    (hlast : after.Touches folder more last) : fs.Touches folder (names ++ more) last := by
  refine ⟨hlast.working.trans h.working, h.keeps.trans hlast.keeps, fun other hother => ?_⟩
  rw [List.mem_append, not_or] at hother
  rw [hlast.others other hother.2, h.others other hother.1]

theorem Touches.grounded (h : fs.Touches folder names after) (hground : fs.Grounded) :
    after.Grounded := by
  rw [Grounded, h.working]
  exact (h.keeps fs.workingFolder).1 hground

theorem Touches.leads (h : fs.Touches folder names after) (hleads : fs.Leads p folder) :
    after.Leads p folder := by
  obtain ⟨left, hwalk⟩ := hleads
  refine ⟨left, ?_⟩
  rw [start, h.working]
  exact hwalk.mono h.keeps

/-- Other entries are found where they were. -/
theorem Touches.locate (h : fs.Touches folder names after) (hleads : fs.Leads p folder) {n : String}
    (hn : IsFileName n) (hother : n ∉ names) :
    after.locate (p.join ⟨n⟩) .entry = fs.locate (p.join ⟨n⟩) .entry := by
  by_cases hpath : IsPath (p.join ⟨n⟩)
  · rw [locate_join hn hpath hleads fun _ _ => rfl,
      locate_join hn hpath (h.leads hleads) fun _ _ => rfl, h.others n hother]
  · obtain ⟨e, he⟩ := locate_of_not_isPath hpath .entry
    rw [he fs, he after]

section Entry
variable (hfolder : fs.root.IsFolderAt folder) {n : String}
  (hleaf : ∀ m, fs.root.get? (folder ++ [n]) = some m → m.IsLeaf = true)
  (hworking : after.workingFolder = fs.workingFolder)
include hfolder hleaf hworking

theorem touches_set {new : Node} (hroot : after.root = fs.root.set (folder ++ [n]) new) :
    fs.Touches folder [n] after := by
  refine ⟨hworking, hroot ▸ keeps_set new hleaf, fun other hother => ?_⟩
  have hne : other ≠ n := by simpa using hother
  rw [hroot, get?_set_entry hfolder, if_neg hne]

theorem touches_erase (hroot : after.root = fs.root.erase (folder ++ [n])) :
    fs.Touches folder [n] after := by
  refine ⟨hworking, hroot ▸ keeps_erase hleaf, fun other hother => ?_⟩
  have hne : other ≠ n := by simpa using hother
  rw [hroot, get?_erase_entry hfolder, if_neg hne]

end Entry

end Touches

/-! ### One operation on one entry -/

/-- Neither a link nor a device, where something stands at all. -/
structure IsPlain (n : Option Node) : Prop where
  ne_link : ∀ target, n ≠ some (.link target)
  ne_device : ∀ d, n ≠ some (.device d)

theorem isPlain_none : IsPlain none := ⟨nofun, nofun⟩

theorem isLeaf_of_ne {n : Option Node} (hlink : ∀ target, n ≠ some (.link target))
    (hfolder : ∀ es, n ≠ some (.folder es)) : ∀ m, n = some m → m.IsLeaf = true := by
  rintro m rfl
  cases m with
  | link target => exact absurd rfl (hlink target)
  | folder es => exact absurd rfl (hfolder es)
  | _ => rfl

/-- Nothing or something other than a folder stands at the end of a path that can be followed. -/
def CanHold (fs : FileSystem) (p : Path) : Prop :=
  ∃ place, fs.locate p .entry = .ok place ∧ ∀ es, place.node ≠ some (.folder es)

section Operation
variable {fs : FileSystem} {p : Path} {folder : List String} {t n : String}

theorem isPlain_nodeAt? (hleads : fs.Leads p folder) (hn : IsFileName n)
    (hplain : IsPlain (fs.root.get? (folder ++ [n]))) : IsPlain (fs.nodeAt? (p.join ⟨n⟩)) := by
  by_cases hpath : IsPath (p.join ⟨n⟩)
  · rwa [nodeAt?_join hn hpath hleads]
  · rw [nodeAt?_join_eq_none hn (.inl hpath)]
    exact isPlain_none

theorem canHold_join (hn : IsFileName n) (hpath : IsPath (p.join ⟨n⟩))
    (hleads : fs.Leads p folder) :
    fs.CanHold (p.join ⟨n⟩) ↔ ∀ es, fs.root.get? (folder ++ [n]) ≠ some (.folder es) := by
  rw [CanHold, locate_join hn hpath hleads fun _ _ => rfl]
  simp

theorem store_cases {names : List String} (content : ByteArray)
    (hplain : IsPlain (fs.root.get? names)) :
    ∃ runnable, fs.store names content = (.ok (), fs.put names (.file content runnable)) := by
  rw [store]
  split
  · next hget => exact absurd hget (hplain.ne_device _)
  · next d _ hget => exact absurd hget (hplain.ne_device d)
  · next runnable hget => exact ⟨runnable, rfl⟩
  · exact ⟨false, rfl⟩

theorem fileTarget_cases (hleads : fs.Leads p folder) (ht : IsFileName t)
    (hpath : IsPath (p.join ⟨t⟩)) (hplain : IsPlain (fs.root.get? (folder ++ [t]))) :
    fs.fileTarget (p.join ⟨t⟩) = .ok (folder ++ [t]) ∧ fs.CanHold (p.join ⟨t⟩) ∨
      fs.fileTarget (p.join ⟨t⟩) = .error .isFolder ∧ ¬ fs.CanHold (p.join ⟨t⟩) := by
  have hlocate : fs.locate (p.join ⟨t⟩) .creation =
      .ok ⟨folder ++ [t], fs.root.get? (folder ++ [t])⟩ :=
    locate_join ht hpath hleads fun target htarget => absurd htarget (hplain.ne_link target)
  rw [fileTarget, hlocate, canHold_join ht hpath hleads]
  cases fs.root.get? (folder ++ [t]) with
  | none => exact .inl ⟨rfl, nofun⟩
  | some m =>
    cases m with
    | folder es => exact .inr ⟨rfl, fun h => h es rfl⟩
    | _ => exact .inl ⟨rfl, nofun⟩

theorem writeText_of_fileTarget {q : Path} {e : IoError} (text : String)
    (h : fs.fileTarget q = .error e) :
    ∃ e, fs.writeText q text = (.error e, fs.withFaults fs.faults.tail) := by
  have htarget : (fs.withFaults fs.faults.tail).fileTarget q = .error e := h
  rw [writeText, writeBytes, nextFault_eq]
  cases fs.faults.head?.join with
  | none => exact ⟨e, by simp only [htarget]⟩
  | some fault =>
    obtain ⟨error, _ | k⟩ := fault
    · exact ⟨error, rfl⟩
    · exact ⟨e, by simp only [htarget]⟩

/-- A text is written whole, in part, or not at all; whole exactly if neither a fault nor a folder
is in the way. -/
theorem writeText_cases (text : String) (hleads : fs.Leads p folder) (ht : IsFileName t)
    (hpath : IsPath (p.join ⟨t⟩)) (hplain : IsPlain (fs.root.get? (folder ++ [t]))) :
    (∃ e, fs.writeText (p.join ⟨t⟩) text = (.error e, fs.withFaults fs.faults.tail)) ∧
        ¬ (fs.faults.head?.join = none ∧ fs.CanHold (p.join ⟨t⟩)) ∨
      (∃ e content runnable, fs.writeText (p.join ⟨t⟩) text =
          (.error e, (fs.withFaults fs.faults.tail).put (folder ++ [t]) (.file content runnable))) ∧
        fs.faults.head?.join ≠ none ∧ fs.CanHold (p.join ⟨t⟩) ∨
      (∃ runnable, fs.writeText (p.join ⟨t⟩) text =
          (.ok (), (fs.withFaults fs.faults.tail).put (folder ++ [t])
            (.file text.toUTF8 runnable))) ∧
        fs.faults.head?.join = none ∧ fs.CanHold (p.join ⟨t⟩) := by
  obtain ⟨hok, hcan⟩ | ⟨hfolder, hcan⟩ := fileTarget_cases hleads ht hpath hplain
  · have htarget : (fs.withFaults fs.faults.tail).fileTarget (p.join ⟨t⟩) =
        .ok (folder ++ [t]) := hok
    rw [writeText, writeBytes, nextFault_eq]
    cases fs.faults.head?.join with
    | none =>
      obtain ⟨runnable, hstore⟩ := @store_cases (fs.withFaults fs.faults.tail) _ text.toUTF8 hplain
      exact .inr (.inr ⟨⟨runnable, by simp only [htarget, hstore]⟩, rfl, hcan⟩)
    | some fault =>
      obtain ⟨e, _ | k⟩ := fault
      · exact .inl ⟨⟨e, rfl⟩, nofun⟩
      · obtain ⟨runnable, hstore⟩ := @store_cases (fs.withFaults fs.faults.tail) _
          (text.toUTF8.extract 0 k) hplain
        exact .inr (.inl ⟨⟨e, text.toUTF8.extract 0 k, runnable, by simp only [htarget, hstore]⟩,
          nofun, hcan⟩)
  · exact .inl ⟨writeText_of_fileTarget text hfolder, fun h => hcan h.2⟩

/-- What is found is moved to another place where no folder stands, or nothing happens. -/
theorem rename_found {q : Path} {names : List String} {m : Node}
    (hsource : fs.locate p .entry = .ok ⟨names, some m⟩)
    (hne : ∀ place, fs.locate q .entry = .ok place → names ≠ place.names) :
    (∃ e, fs.rename p q = (.error e, fs.withFaults fs.faults.tail)) ∧
        ¬ (fs.faults.head?.join = none ∧ fs.CanHold q) ∨
      ∃ place, fs.locate q .entry = .ok place ∧ (∀ es, place.node ≠ some (.folder es)) ∧
        fs.rename p q =
          (.ok (), ((fs.withFaults fs.faults.tail).takeAway names).put place.names m) ∧
        fs.faults.head?.join = none := by
  rw [rename, nextFault_eq]
  cases fs.faults.head?.join with
  | some fault => exact .inl ⟨⟨fault.error, rfl⟩, nofun⟩
  | none =>
    cases hlocate : fs.locate q .entry with
    | error e =>
      refine .inl ⟨⟨e, by simp only [locate_withFaults, hsource, hlocate]⟩, ?_⟩
      rintro ⟨-, place, hplace, -⟩
      cases hlocate.symm.trans hplace
    | ok place =>
      have htarget := hne _ hlocate
      obtain ⟨target, node⟩ := place
      simp only [locate_withFaults, hsource, hlocate]
      cases node with
      | none => exact .inr ⟨_, rfl, nofun, by simp only [if_neg htarget], trivial⟩
      | some n =>
        cases n with
        | folder es =>
          refine .inl ⟨⟨.isFolder, rfl⟩, ?_⟩
          rintro ⟨-, place, hplace, hfolder⟩
          cases hlocate.symm.trans hplace
          exact hfolder es rfl
        | _ => exact .inr ⟨_, rfl, nofun, by simp only [if_neg htarget], trivial⟩

/-- A file is moved in place of whatever is no folder, or nothing changes. -/
theorem rename_cases {m : Node} (hleads : fs.Leads p folder) (ht : IsFileName t) (hn : IsFileName n)
    (htn : t ≠ n) (hpatht : IsPath (p.join ⟨t⟩)) (hpathn : IsPath (p.join ⟨n⟩))
    (hm : fs.root.get? (folder ++ [t]) = some m) :
    (∃ e, fs.rename (p.join ⟨t⟩) (p.join ⟨n⟩) = (.error e, fs.withFaults fs.faults.tail)) ∧
        ¬ (fs.faults.head?.join = none ∧ fs.CanHold (p.join ⟨n⟩)) ∨
      fs.rename (p.join ⟨t⟩) (p.join ⟨n⟩) =
          (.ok (), ((fs.withFaults fs.faults.tail).takeAway (folder ++ [t])).put
            (folder ++ [n]) m) ∧
        fs.faults.head?.join = none ∧ fs.CanHold (p.join ⟨n⟩) := by
  have hsource : fs.locate (p.join ⟨t⟩) .entry = .ok ⟨folder ++ [t], some m⟩ := by
    rw [locate_join ht hpatht hleads fun _ _ => rfl, hm]
  have htarget := @locate_join fs p folder n .entry hn hpathn hleads fun _ _ => rfl
  have hne (place : Place) (hplace : fs.locate (p.join ⟨n⟩) .entry = .ok place) :
      folder ++ [t] ≠ place.names := by
    cases htarget.symm.trans hplace
    simpa using htn
  obtain herror | ⟨place, hplace, hfolder, hmoved, hclear⟩ := rename_found hsource hne
  · exact .inl herror
  · refine .inr ⟨?_, hclear, place, hplace, hfolder⟩
    cases htarget.symm.trans hplace
    exact hmoved

theorem removeFile_found {names : List String} {m : Node}
    (hplace : fs.locate p .entry = .ok ⟨names, some m⟩) (hleaf : m.IsLeaf = true)
    (hclear : fs.faults.head?.join = none) :
    (fs.removeFile p).2 = (fs.withFaults fs.faults.tail).takeAway names := by
  rw [removeFile, nextFault_eq, hclear]
  simp only [locate_withFaults, hplace]
  cases m with
  | folder es => cases hleaf
  | _ => rfl

theorem removeFile_cases {m : Node} (hleads : fs.Leads p folder) (ht : IsFileName t)
    (hpath : IsPath (p.join ⟨t⟩)) (hm : fs.root.get? (folder ++ [t]) = some m)
    (hleaf : m.IsLeaf = true) :
    (fs.removeFile (p.join ⟨t⟩)).2 = fs.withFaults fs.faults.tail ∨
      (fs.removeFile (p.join ⟨t⟩)).2 =
        (fs.withFaults fs.faults.tail).takeAway (folder ++ [t]) := by
  cases hfault : fs.faults.head?.join with
  | some fault =>
    rw [removeFile, nextFault_eq, hfault]
    exact .inl rfl
  | none =>
    have hplace : fs.locate (p.join ⟨t⟩) .entry = .ok ⟨folder ++ [t], some m⟩ := by
      rw [locate_join ht hpath hleads fun _ _ => rfl, hm]
    exact .inr (removeFile_found hplace hleaf hfault)

end Operation

/-! ### Faults that are used up -/

section Faults
variable (fs : FileSystem) (p q : Path)

theorem faults_store (names : List String) (content : ByteArray) :
    (fs.store names content).2.faults = fs.faults := by
  rw [store]
  split
  · split <;> rfl
  · rfl
  · rfl
  · rfl

theorem faults_writeText (text : String) : (fs.writeText p text).2.faults = fs.faults.tail := by
  rw [writeText, writeBytes, nextFault_eq]
  cases fs.faults.head?.join with
  | none =>
    simp only []
    split
    · rfl
    · exact faults_store _ _ _
  | some fault =>
    obtain ⟨e, _ | k⟩ := fault
    · rfl
    · simp only []
      split
      · rfl
      · exact faults_store _ _ _

theorem faults_rename : (fs.rename p q).2.faults = fs.faults.tail := by
  rw [rename, nextFault_eq]
  cases fs.faults.head?.join with
  | some fault => rfl
  | none =>
    simp only []
    split
    · rfl
    · rfl
    · rfl
    · rfl
    · split <;> rfl

theorem faults_removeFile : (fs.removeFile p).2.faults = fs.faults.tail := by
  rw [removeFile, nextFault_eq]
  cases fs.faults.head?.join with
  | some fault => rfl
  | none =>
    simp only []
    split <;> rfl

/-- At most three operations are spent on a document. -/
theorem faults_writeAtomic (text : String) :
    ∃ used ≤ 3, (fs.writeAtomic p text).2.faults = fs.faults.drop used := by
  have htwo : fs.faults.tail.tail = fs.faults.drop 2 := by
    rw [← List.drop_one, ← List.drop_one, List.drop_drop]
  have hthree : fs.faults.tail.tail.tail = fs.faults.drop 3 := by
    rw [htwo, ← List.drop_one, List.drop_drop]
  have hbegun := faults_writeText fs (p.withSuffix ".tmp") text
  rw [writeAtomic]
  cases hwrite : fs.writeText (p.withSuffix ".tmp") text with
  | mk result begun =>
    rw [hwrite] at hbegun
    cases result with
    | error e => exact ⟨1, by omega, hbegun.trans List.drop_one.symm⟩
    | ok u =>
      have hmoved := faults_rename begun (p.withSuffix ".tmp") p
      rw [show begun.faults = fs.faults.tail from hbegun] at hmoved
      simp only
      cases hrename : begun.rename (p.withSuffix ".tmp") p with
      | mk result moved =>
        rw [hrename] at hmoved
        cases result with
        | ok u => exact ⟨2, by omega, hmoved.trans htwo⟩
        | error e =>
          have hremoved := faults_removeFile moved (p.withSuffix ".tmp")
          rw [show moved.faults = fs.faults.tail.tail from hmoved] at hremoved
          exact ⟨3, by omega, hremoved.trans hthree⟩

end Faults

/-! ### A document beside its place and moved there -/

/-- Nothing is in the way of a document: no folder at its place or beside it, and no fault while it
is written and moved. -/
def Writable (fs : FileSystem) (p : Path) : Prop :=
  fs.CanHold (p.withSuffix ".tmp") ∧ fs.CanHold p ∧ ∀ fault ∈ fs.faults.take 2, fault = none

theorem Writable.nodeAt?_ne {fs : FileSystem} {p : Path} (h : fs.Writable p)
    (es : List (String × Node)) : fs.nodeAt? p ≠ some (.folder es) := by
  obtain ⟨-, ⟨place, hplace, hnode⟩, -⟩ := h
  rw [nodeAt?, hplace]
  exact hnode es

theorem forall_take_two {faults : List (Option Fault)} :
    (∀ fault ∈ faults.take 2, fault = none) ↔
      faults.head?.join = none ∧ faults.tail.head?.join = none := by
  cases faults with
  | nil => simp
  | cons first rest => cases rest <;> simp

section Atomic
variable {fs : FileSystem} {p : Path} {folder : List String} {n : String}

theorem Touches.canHold_iff {after : FileSystem} {names : List String}
    (h : fs.Touches folder names after) (hleads : fs.Leads p folder) (hn : IsFileName n)
    (hother : n ∉ names) : after.CanHold (p.join ⟨n⟩) ↔ fs.CanHold (p.join ⟨n⟩) := by
  rw [CanHold, CanHold, h.locate hleads hn hother]

/-- The second half of writing a document, when its text stands beside its place. -/
theorem rename_or_remove {t : String} {m : Node} (hground : fs.Grounded)
    (hleads : fs.Leads p folder) (hn : IsFileName n) (ht : IsFileName t) (htn : t ≠ n)
    (hpatht : IsPath (p.join ⟨t⟩)) (hpathn : IsPath (p.join ⟨n⟩))
    (hm : fs.root.get? (folder ++ [t]) = some m) (hleaf : m.IsLeaf = true)
    (hlink : ∀ target, fs.root.get? (folder ++ [n]) ≠ some (.link target)) :
    (∃ after, fs.rename (p.join ⟨t⟩) (p.join ⟨n⟩) = (.ok (), after) ∧
        fs.Touches folder [t, n] after ∧ after.root.get? (folder ++ [n]) = some m) ∧
          fs.faults.head?.join = none ∧ fs.CanHold (p.join ⟨n⟩) ∨
      (∃ e failed, fs.rename (p.join ⟨t⟩) (p.join ⟨n⟩) = (.error e, failed) ∧
        fs.Touches folder [t] (failed.removeFile (p.join ⟨t⟩)).2) ∧
          ¬ (fs.faults.head?.join = none ∧ fs.CanHold (p.join ⟨n⟩)) := by
  have hfolder := hleads.isFolderAt hground
  have hleaft : ∀ x, fs.root.get? (folder ++ [t]) = some x → x.IsLeaf = true := by
    intro x hx
    rw [hm, Option.some.injEq] at hx
    exact hx ▸ hleaf
  obtain ⟨⟨e, he⟩, hnot⟩ | ⟨hok, hclear, hcan⟩ :=
    rename_cases hleads ht hn htn hpatht hpathn hm
  · refine .inr ⟨⟨e, _, he, ?_⟩, hnot⟩
    have hsame : fs.Touches folder [t] (fs.withFaults fs.faults.tail) := .withFaults fs folder [t] _
    obtain hkept | hgone := removeFile_cases (hsame.leads hleads) ht hpatht hm hleaf
    · rw [hkept]
      exact .withFaults fs folder [t] _
    · rw [hgone]
      exact touches_erase hfolder hleaft rfl rfl
  · have htaken : fs.Touches folder [t]
        ((fs.withFaults fs.faults.tail).takeAway (folder ++ [t])) :=
      touches_erase hfolder hleaft rfl rfl
    have hfoldertaken := (htaken.leads hleads).isFolderAt (htaken.grounded hground)
    have hleafn := isLeaf_of_ne hlink ((canHold_join hn hpathn hleads).1 hcan)
    rw [← htaken.others n (by simpa using htn.symm)] at hleafn
    refine .inl ⟨⟨_, hok, htaken.trans (touches_set hfoldertaken hleafn rfl rfl), ?_⟩, hclear, hcan⟩
    rw [put, get?_set_entry hfoldertaken, if_pos rfl]

theorem isPath_of_beside (hn : IsFileName n) (ht : IsFileName (n ++ ".tmp"))
    (hpath : IsPath (p.join ⟨n ++ ".tmp"⟩)) : IsPath (p.join ⟨n⟩) := by
  have hbeside : (p.join ⟨n⟩).withSuffix ".tmp" = p.join ⟨n ++ ".tmp"⟩ :=
    p.withSuffix_join hn.2.1 (by decide)
  obtain ⟨hnul, hshort⟩ := (isPath_join ht).1 hpath
  rw [← hbeside, Path.withSuffix, String.utf8ByteSize_append] at hshort
  exact (isPath_join hn).2 ⟨hnul, by omega⟩

theorem writeAtomic_leads (text : String) (hground : fs.Grounded) (hleads : fs.Leads p folder)
    (hn : IsFileName n) (ht : IsFileName (n ++ ".tmp")) (hpath : IsPath (p.join ⟨n ++ ".tmp"⟩))
    (hplain : IsPlain (fs.root.get? (folder ++ [n ++ ".tmp"])))
    (hlink : ∀ target, fs.root.get? (folder ++ [n]) ≠ some (.link target)) :
    fs.Touches folder [n, n ++ ".tmp"] (fs.writeAtomic (p.join ⟨n⟩) text).2 ∧
      ((fs.writeAtomic (p.join ⟨n⟩) text).1 = .ok () ∧ fs.Writable (p.join ⟨n⟩) ∧
          (∃ runnable, (fs.writeAtomic (p.join ⟨n⟩) text).2.root.get? (folder ++ [n]) =
            some (.file text.toUTF8 runnable)) ∨
        (fs.writeAtomic (p.join ⟨n⟩) text).1 ≠ .ok () ∧ ¬ fs.Writable (p.join ⟨n⟩) ∧
          (fs.writeAtomic (p.join ⟨n⟩) text).2.root.get? (folder ++ [n]) =
            fs.root.get? (folder ++ [n])) := by
  have hbeside : (p.join ⟨n⟩).withSuffix ".tmp" = p.join ⟨n ++ ".tmp"⟩ :=
    p.withSuffix_join hn.2.1 (by decide)
  have hne : n ++ ".tmp" ≠ n := fun he => by
    have hsize := congrArg String.utf8ByteSize he
    rw [String.utf8ByteSize_append] at hsize
    have htmp : ".tmp".utf8ByteSize = 4 := by decide
    omega
  have hpathn := isPath_of_beside hn ht hpath
  have hfolder := hleads.isFolderAt hground
  have hsub : [n ++ ".tmp"] ⊆ [n, n ++ ".tmp"] := List.subset_cons_self _ _
  have hplace : n ∉ [n ++ ".tmp"] := by simpa using hne.symm
  have hleaf (h : fs.CanHold (p.join ⟨n ++ ".tmp"⟩)) :=
    isLeaf_of_ne hplain.ne_link ((canHold_join ht hpath hleads).1 h)
  rw [writeAtomic, Writable, forall_take_two, hbeside]
  obtain ⟨⟨e, he⟩, hnot⟩ | ⟨⟨e, content, runnable, he⟩, hfault, hcan⟩ |
    ⟨⟨runnable, he⟩, hclear, hcan⟩ := writeText_cases text hleads ht hpath hplain
  · simp only [he]
    exact ⟨.withFaults fs folder _ _, .inr ⟨nofun, fun h => hnot ⟨h.2.2.1, h.1⟩, rfl⟩⟩
  · have htouches : fs.Touches folder [n ++ ".tmp"] ((fs.withFaults fs.faults.tail).put
        (folder ++ [n ++ ".tmp"]) (.file content runnable)) :=
      touches_set hfolder (hleaf hcan) rfl rfl
    simp only [he]
    exact ⟨htouches.mono hsub, .inr ⟨nofun, fun h => hfault h.2.2.1, htouches.others n hplace⟩⟩
  · generalize hbegun : (fs.withFaults fs.faults.tail).put (folder ++ [n ++ ".tmp"])
      (.file text.toUTF8 runnable) = begun at he
    have htouches : fs.Touches folder [n ++ ".tmp"] begun :=
      touches_set hfolder (hleaf hcan) (by rw [← hbegun]; rfl) (by rw [← hbegun]; rfl)
    have hfaults : begun.faults = fs.faults.tail := by rw [← hbegun]; rfl
    have htext : begun.root.get? (folder ++ [n ++ ".tmp"]) = some (.file text.toUTF8 runnable) := by
      rw [← hbegun]
      exact (get?_set_entry hfolder _ _ _).trans (if_pos rfl)
    have hcann := htouches.canHold_iff hleads hn hplace
    have hother := htouches.others n hplace
    simp only [he]
    obtain ⟨⟨after, hok, hmoved, hget⟩, hclear', hcan'⟩ | ⟨⟨e, failed, herror, hremoved⟩, hnot⟩ :=
      rename_or_remove (htouches.grounded hground) (htouches.leads hleads) hn ht hne hpath hpathn
        htext rfl (fun target => by rw [hother]; exact hlink target)
    · simp only [hok]
      refine ⟨(htouches.trans hmoved).mono ?_,
        .inl ⟨trivial, ⟨hcan, hcann.1 hcan', hclear, ?_⟩, ?_⟩⟩
      · simp
      · rwa [hfaults] at hclear'
      · exact ⟨runnable, hget⟩
    · simp only [herror]
      refine ⟨(htouches.trans hremoved).mono ?_, .inr ⟨nofun, fun h => hnot ⟨?_, ?_⟩, ?_⟩⟩
      · simp
      · rw [hfaults]
        exact h.2.2.2
      · exact hcann.2 h.2.1
      · rw [hremoved.others n hplace, hother]

theorem writeAtomic_error {q : Path} (text : String)
    (h : ∀ purpose, ∃ e, fs.locate (q.withSuffix ".tmp") purpose = .error e) :
    (∃ e, fs.writeAtomic q text = (.error e, fs.withFaults fs.faults.tail)) ∧
      ¬ fs.Writable q := by
  constructor
  · obtain ⟨e, he⟩ := h .creation
    have htarget : fs.fileTarget (q.withSuffix ".tmp") = .error e := by rw [fileTarget, he]
    obtain ⟨e', hwrite⟩ := writeText_of_fileTarget text htarget
    exact ⟨e', by rw [writeAtomic, hwrite]⟩
  · rintro ⟨⟨place, hplace, -⟩, -⟩
    obtain ⟨e, he⟩ := h .entry
    rw [he] at hplace
    cases hplace

/-- A document is at its place exactly if nothing was in the way; if anything was, its place is as
it was. Every other entry of the folder is found as before. -/
theorem writeAtomic_cases (text : String) (hground : fs.Grounded) (hn : IsFileName n)
    (ht : IsFileName (n ++ ".tmp")) (hplain : IsPlain (fs.nodeAt? (p.join ⟨n ++ ".tmp"⟩)))
    (hlink : ∀ target, fs.nodeAt? (p.join ⟨n⟩) ≠ some (.link target)) :
    (fs.writeAtomic (p.join ⟨n⟩) text).2.Grounded ∧
      (∀ other, IsFileName other → other ∉ [n, n ++ ".tmp"] →
        (fs.writeAtomic (p.join ⟨n⟩) text).2.locate (p.join ⟨other⟩) .entry =
          fs.locate (p.join ⟨other⟩) .entry) ∧
      ((fs.writeAtomic (p.join ⟨n⟩) text).1 = .ok () → ∃ runnable,
        (fs.writeAtomic (p.join ⟨n⟩) text).2.nodeAt? (p.join ⟨n⟩) =
          some (.file text.toUTF8 runnable)) ∧
      ((fs.writeAtomic (p.join ⟨n⟩) text).1 ≠ .ok () →
        (fs.writeAtomic (p.join ⟨n⟩) text).2.nodeAt? (p.join ⟨n⟩) = fs.nodeAt? (p.join ⟨n⟩)) ∧
      ((fs.writeAtomic (p.join ⟨n⟩) text).1 = .ok () ↔ fs.Writable (p.join ⟨n⟩)) := by
  by_cases hreached : IsPath (p.join ⟨n ++ ".tmp"⟩) ∧ ∃ folder, fs.Leads p folder
  · obtain ⟨hpath, folder, hleads⟩ := hreached
    have hpathn := isPath_of_beside hn ht hpath
    rw [nodeAt?_join ht hpath hleads] at hplain
    simp only [nodeAt?_join hn hpathn hleads] at hlink ⊢
    obtain ⟨htouches, houtcome⟩ :=
      writeAtomic_leads text hground hleads hn ht hpath hplain hlink
    rw [nodeAt?_join hn hpathn (htouches.leads hleads)]
    refine ⟨htouches.grounded hground,
      fun other hother hnotMem => htouches.locate hleads hother hnotMem, ?_⟩
    obtain ⟨hok, hwritable, hfile⟩ | ⟨herror, hnot, hsame⟩ := houtcome
    · exact ⟨fun _ => hfile, fun h => absurd hok h, fun _ => hwritable, fun _ => hok⟩
    · exact ⟨fun h => absurd h herror, fun _ => hsame, fun h => absurd h herror,
        fun h => absurd h hnot⟩
  · have hbeside : (p.join ⟨n⟩).withSuffix ".tmp" = p.join ⟨n ++ ".tmp"⟩ :=
      p.withSuffix_join hn.2.1 (by decide)
    have hlocate (purpose : Purpose) :
        ∃ e, fs.locate ((p.join ⟨n⟩).withSuffix ".tmp") purpose = .error e := by
      rw [hbeside]
      refine locate_join_error ht ?_ purpose
      by_cases hpath : IsPath (p.join ⟨n ++ ".tmp"⟩)
      · exact .inr fun folder hleads => hreached ⟨hpath, folder, hleads⟩
      · exact .inl hpath
    obtain ⟨⟨e, he⟩, hnot⟩ := writeAtomic_error text hlocate
    rw [he]
    exact ⟨hground, fun _ _ _ => rfl, nofun, fun _ => rfl, nofun, fun h => absurd h hnot⟩

end Atomic

end FileSystem
end BuildPipeline

import BuildPipeline.Proofs.FileWriting

/-! Copying a file into a folder where there are no links. Nothing but the copy changes; a copy that
is made whole holds what its source holds, and making it once more changes nothing. -/
namespace BuildPipeline.FileSystem

open Node

/-- A path leads to a folder in which there are no links. -/
structure Clear (fs : FileSystem) (p : Path) (folder : List String) : Prop where
  proper : fs.root.Proper
  grounded : fs.Grounded
  leads : fs.Leads p folder
  free : fs.root.LinkFree folder

section Files
variable {fs after : FileSystem} {p source : Path} {folder : List String} {n : String}
  {content : ByteArray} {runnable : Bool}

theorem Writes.clear {written : List String → Prop} (h : fs.Writes written after)
    (hclear : fs.Clear p folder) : after.Clear p folder :=
  ⟨h.proper, h.grounded hclear.grounded, h.leads hclear.leads, h.linkFree hclear.free⟩

theorem Clear.isFolderAt (h : fs.Clear p folder) : fs.root.IsFolderAt folder :=
  h.leads.isFolderAt h.grounded

theorem Clear.named (h : fs.Clear p folder) (hn : IsFileName n) :
    ∀ s ∈ folder ++ [n], IsFileName s := by
  obtain ⟨es, hes⟩ := h.isFolderAt
  exact List.forall_mem_append.2
    ⟨(hereditary_proper.get? h.proper hes).2, List.forall_mem_singleton.2 hn⟩

theorem fileTarget_of_clear (h : fs.Clear p folder) (hn : IsFileName n)
    (hpath : IsPath (p.join ⟨n⟩)) (hnot : ¬ fs.root.IsFolderAt (folder ++ [n])) :
    fs.fileTarget (p.join ⟨n⟩) = .ok (folder ++ [n]) := by
  rw [fileTarget, locate_join hn hpath h.leads fun target hlink => absurd hlink (h.free [n] target)]
  split
  · next heq => cases heq
  · next hfolder =>
    rw [Except.ok.injEq, Place.mk.injEq] at hfolder
    exact absurd ⟨_, hfolder.2⟩ hnot
  · next heq =>
    cases heq
    rfl

theorem fileTarget_entry {names : List String} (h : fs.Clear p folder) (hn : IsFileName n)
    (htarget : fs.fileTarget (p.join ⟨n⟩) = .ok names) :
    IsPath (p.join ⟨n⟩) ∧ names = folder ++ [n] ∧ ¬ fs.root.IsFolderAt (folder ++ [n]) := by
  rw [fileTarget] at htarget
  split at htarget
  · cases htarget
  · cases htarget
  · next names node hnot hlocate =>
    cases htarget
    obtain ⟨hpath, hplace⟩ := locate_entry h.leads h.free hn hlocate
    rw [Place.mk.injEq] at hplace
    refine ⟨hpath, hplace.1, ?_⟩
    rintro ⟨es, hes⟩
    exact hnot es (hplace.2.trans hes)

theorem put_file_writes {old : ByteArray} {before : Bool} (h : fs.Clear p folder)
    (hn : IsFileName n) (hget : fs.root.get? (folder ++ [n]) = some (.file old before))
    (content : ByteArray) (runnable : Bool) :
    fs.Writes (· = folder ++ [n]) (fs.put (folder ++ [n]) (.file content runnable)) := by
  refine writes_file h.proper (h.named hn) rfl (fun m hm => ?_) rfl rfl
  rw [← Option.some.inj (hget.symm.trans hm)]
  rfl

theorem store_writes (h : fs.Clear p folder) (hn : IsFileName n)
    (hnot : ¬ fs.root.IsFolderAt (folder ++ [n])) (content : ByteArray) :
    fs.Writes (· = folder ++ [n]) (fs.store (folder ++ [n]) content).2 := by
  rw [store]
  split
  · split <;> exact writes_of_eq h.proper rfl rfl
  · exact writes_of_eq h.proper rfl rfl
  · next hget => exact put_file_writes h hn hget content _
  · next hfull hdevice hfile =>
    refine writes_file h.proper (h.named hn) rfl (fun m hm => ?_) rfl rfl
    cases m with
    | file _ _ => rfl
    | device d => exact absurd hm (hdevice d)
    | link target => exact absurd hm (h.free [n] target)
    | folder es => exact absurd ⟨es, hm⟩ hnot

theorem writeBytes_writes (h : fs.Clear p folder) (hn : IsFileName n) (content : ByteArray) :
    fs.Writes (· = folder ++ [n]) (fs.writeBytes (p.join ⟨n⟩) content).2 := by
  have hunchanged : fs.Writes (· = folder ++ [n]) (fs.withFaults fs.faults.tail) :=
    writes_of_eq h.proper rfl rfl
  have hclear := hunchanged.clear h
  have hstore (content : ByteArray) {names : List String}
      (htarget : (fs.withFaults fs.faults.tail).fileTarget (p.join ⟨n⟩) = .ok names) :
      fs.Writes (· = folder ++ [n]) ((fs.withFaults fs.faults.tail).store names content).2 := by
    obtain ⟨-, rfl, hnot⟩ := fileTarget_entry hclear hn htarget
    exact hunchanged.trans (store_writes hclear hn hnot content)
  rw [writeBytes, nextFault_eq]
  cases fs.faults.head?.join with
  | none =>
    simp only
    split
    · exact hunchanged
    · next names htarget => exact hstore content htarget
  | some fault =>
    obtain ⟨e, _ | k⟩ := fault
    · exact hunchanged
    · simp only
      split
      · exact hunchanged
      · next names htarget => exact hstore _ htarget

theorem mark_writes (h : fs.Clear p folder) (hn : IsFileName n) (runnable : Bool) :
    fs.Writes (· = folder ++ [n]) (fs.mark (p.join ⟨n⟩) runnable) := by
  have hrefl : fs.Writes (· = folder ++ [n]) fs := writes_of_eq h.proper rfl rfl
  rw [mark]
  split
  · exact hrefl
  · next names htarget =>
    obtain ⟨-, rfl, -⟩ := fileTarget_entry h hn htarget
    split
    · next hget => exact put_file_writes h hn hget _ runnable
    · exact hrefl

/-- A copy changes nothing but the file that it makes, whatever comes of it. -/
theorem copyFile_writes (h : fs.Clear p folder) (hn : IsFileName n) (source : Path) :
    fs.Writes (· = folder ++ [n]) (fs.copyFile source (p.join ⟨n⟩)).2 := by
  have hrefl : fs.Writes (· = folder ++ [n]) fs := writes_of_eq h.proper rfl rfl
  rw [copyFile]
  split
  · exact hrefl
  · next runnable _ =>
    have hopened := writeBytes_writes h hn ByteArray.empty
    split
    · next e failed hfailed => rwa [hfailed] at hopened
    · next opened hok =>
      rw [hok] at hopened
      have hmarked := hopened.trans (mark_writes (hopened.clear h) hn runnable)
      simp only
      split
      · exact hmarked
      · next content _ =>
        exact hmarked.trans (writeBytes_writes (hmarked.clear h) hn content)
  · exact hrefl

/-! ### What a copy holds -/

/-- A file with this content is there, or a device that takes it in. -/
def Holds (fs : FileSystem) (place : List String) (content : ByteArray) (runnable : Bool) : Prop :=
  fs.root.get? place = some (.file content runnable) ∨
    ∃ d, fs.root.get? place = some (.device d) ∧ (d = .full → content.isEmpty = true)

theorem Writes.holds {written : List String → Prop} {place : List String}
    (h : fs.Writes written after) (hnot : ¬ written place)
    (hholds : fs.Holds place content runnable) :
    after.Holds place content runnable := by
  obtain hfile | ⟨d, hdevice, htakes⟩ := hholds
  · exact .inl (h.get?_eq hfile rfl fun _ => hnot)
  · exact .inr ⟨d, h.get?_eq hdevice rfl nofun, htakes⟩

theorem get?_put (h : fs.root.IsFolderAt folder) (n : String) (m : Node) :
    (fs.put (folder ++ [n]) m).root.get? (folder ++ [n]) = some m := by
  rw [put, get?_set_entry h, if_pos rfl]

theorem put_put (fs : FileSystem) (place : List String) (a b : Node) :
    (fs.put place a).put place b = fs.put place b := by
  simp only [put, set_set]

theorem put_self {place : List String} {m : Node} (h : fs.root.get? place = some m) :
    fs.put place m = fs := by
  rw [put, set_self h]

theorem not_isFolderAt_of_get? {place : List String} {m : Node} (h : fs.root.get? place = some m)
    (hm : m.isFolder = false) : ¬ fs.root.IsFolderAt place := by
  rintro ⟨es, hes⟩
  rw [h, Option.some.injEq] at hes
  simp [hes, Node.isFolder] at hm

theorem writeBytes_ok {q : Path} (h : fs.writeBytes q content = (.ok (), after)) :
    ∃ names, fs.fileTarget q = .ok names ∧
      (fs.withFaults fs.faults.tail).store names content = (.ok (), after) := by
  rw [writeBytes, nextFault_eq] at h
  cases hfault : fs.faults.head?.join with
  | none =>
    simp only [hfault] at h
    split at h
    · cases h
    · next names htarget => exact ⟨names, htarget, h⟩
  | some fault =>
    obtain ⟨e, _ | k⟩ := fault
    · simp only [hfault] at h
      cases h
    · simp only [hfault] at h
      split at h <;> cases h

/-- What is stored is there afterwards, in a file as runnable as the one before. -/
theorem store_ok {names : List String} (h : fs.store names content = (.ok (), after)) :
    (∃ d, fs.root.get? names = some (.device d) ∧ (d = .full → content.isEmpty = true) ∧
        after = fs) ∨
      ∃ runnable, after = fs.put names (.file content runnable) ∧
        (∀ d, fs.root.get? names ≠ some (.device d)) ∧
        ∀ c r, fs.root.get? names = some (.file c r) → r = runnable := by
  rw [store] at h
  split at h
  · next hget =>
    split at h
    · next hempty =>
      cases h
      exact .inl ⟨.full, hget, fun _ => hempty, rfl⟩
    · cases h
  · next d hfull hget =>
    cases h
    exact .inl ⟨d, hget, fun hd => absurd hd hfull, rfl⟩
  · next runnable hget =>
    cases h
    refine .inr ⟨runnable, rfl, fun d hd => ?_, fun c r hr => ?_⟩
    · rw [hget] at hd
      cases hd
    · rw [hget] at hr
      cases hr
      rfl
  · next hfull hdevice hfile =>
    cases h
    exact .inr ⟨false, rfl, hdevice, fun c r hr => absurd hr (hfile c r)⟩

theorem mark_device {d : Device} (h : fs.Clear p folder) (hn : IsFileName n)
    (hget : fs.root.get? (folder ++ [n]) = some (.device d)) (runnable : Bool) :
    fs.mark (p.join ⟨n⟩) runnable = fs := by
  rw [mark]
  split
  · rfl
  · next names htarget =>
    obtain ⟨-, rfl, -⟩ := fileTarget_entry h hn htarget
    rw [hget]

theorem mark_file {before : Bool} (h : fs.Clear p folder) (hn : IsFileName n)
    (hpath : IsPath (p.join ⟨n⟩))
    (hget : fs.root.get? (folder ++ [n]) = some (.file content before)) (runnable : Bool) :
    fs.mark (p.join ⟨n⟩) runnable = fs.put (folder ++ [n]) (.file content runnable) := by
  rw [mark, fileTarget_of_clear h hn hpath (not_isFolderAt_of_get? hget rfl)]
  simp only [hget]

/-- The source of a copy is the same file as long as only the copy is written. -/
def Steady (fs : FileSystem) (source : Path) (place : List String) (content : ByteArray)
    (runnable : Bool) : Prop :=
  ∀ after, fs.Writes (· = place) after → after.stat source = .ok (.file content runnable)

theorem copyFile_ok (h : fs.Clear p folder) (hn : IsFileName n)
    (hsource : fs.Steady source (folder ++ [n]) content runnable)
    (hok : fs.copyFile source (p.join ⟨n⟩) = (.ok (), after)) :
    IsPath (p.join ⟨n⟩) ∧ after.Holds (folder ++ [n]) content runnable := by
  have hstat := hsource fs (writes_of_eq h.proper rfl rfl)
  rw [copyFile, hstat] at hok
  simp only at hok
  have hopened := writeBytes_writes h hn ByteArray.empty
  split at hok
  · cases hok
  · next opened hopen =>
    rw [hopen] at hopened
    have hclear := hopened.clear h
    have hmarked := hopened.trans (mark_writes hclear hn runnable)
    have hread : (opened.mark (p.join ⟨n⟩) runnable).readBytes source = .ok content := by
      simp only [readBytes, hsource _ hmarked]
      rfl
    simp only [hread] at hok
    obtain ⟨names, htarget, hstored⟩ := writeBytes_ok hopen
    obtain ⟨hpath, rfl, -⟩ := fileTarget_entry h hn htarget
    refine ⟨hpath, ?_⟩
    obtain ⟨names, htarget, hwritten⟩ := writeBytes_ok hok
    have hclear' := hmarked.clear h
    obtain ⟨-, rfl, -⟩ := fileTarget_entry hclear' hn htarget
    obtain ⟨d, hdevice, -, rfl⟩ | ⟨before, rfl, -, -⟩ := store_ok hstored
    · have hopened' : (fs.withFaults fs.faults.tail).root.get? (folder ++ [n]) = some (.device d) :=
        hdevice
      rw [mark_device hclear hn hopened'] at hwritten
      obtain ⟨d', hdevice', htakes, rfl⟩ | ⟨_, -, hnot, -⟩ := store_ok hwritten
      · exact .inr ⟨d', hdevice', htakes⟩
      · exact absurd hdevice (hnot d)
    · have hempty := get?_put h.isFolderAt n (.file ByteArray.empty before)
      rw [mark_file hclear hn hpath hempty] at hwritten hclear'
      have hmark := get?_put hclear.isFolderAt n (.file ByteArray.empty runnable)
      obtain ⟨d', hdevice', -, -⟩ | ⟨final, rfl, -, hsame⟩ := store_ok hwritten
      · cases hdevice'.symm.trans hmark
      · obtain rfl := hsame _ _ hmark
        exact .inl (get?_put hclear'.isFolderAt n _)

/-! ### Copying once more -/

theorem writeBytes_of_fileTarget {q : Path} {names : List String} (hfaults : fs.faults = [])
    (htarget : fs.fileTarget q = .ok names) (content : ByteArray) :
    fs.writeBytes q content = fs.store names content := by
  have hclear : fs.nextFault = (none, fs) := by rw [nextFault, hfaults]
  simp only [writeBytes, hclear, htarget]

theorem store_file {names : List String} {c : ByteArray}
    (hget : fs.root.get? names = some (.file c runnable)) (content : ByteArray) :
    fs.store names content = (.ok (), fs.put names (.file content runnable)) := by
  simp only [store, hget]

theorem store_device {names : List String} {d : Device}
    (hget : fs.root.get? names = some (.device d)) (htakes : d = .full → content.isEmpty = true) :
    fs.store names content = (.ok (), fs) := by
  rw [store, hget]
  cases d with
  | full => simp only [htakes rfl, if_true]
  | _ => rfl

/-- A copy over another file: the source is read once that has been emptied. -/
theorem copyFile_over {old : ByteArray} {before : Bool} (h : fs.Clear p folder)
    (hn : IsFileName n) (hpath : IsPath (p.join ⟨n⟩)) (hfaults : fs.faults = [])
    (hget : fs.root.get? (folder ++ [n]) = some (.file old before)) {c : ByteArray}
    (hstat : fs.stat source = .ok (.file c runnable))
    (hread : (fs.put (folder ++ [n]) (.file ByteArray.empty runnable)).readBytes source =
      .ok content) :
    fs.copyFile source (p.join ⟨n⟩) =
      (.ok (), fs.put (folder ++ [n]) (.file content runnable)) := by
  have hopen : fs.writeBytes (p.join ⟨n⟩) ByteArray.empty =
      (.ok (), fs.put (folder ++ [n]) (.file ByteArray.empty before)) := by
    rw [writeBytes_of_fileTarget hfaults
      (fileTarget_of_clear h hn hpath (not_isFolderAt_of_get? hget rfl)), store_file hget]
  have hopened := writeBytes_writes h hn ByteArray.empty
  rw [hopen] at hopened
  have hclear := hopened.clear h
  have hempty := get?_put h.isFolderAt n (.file ByteArray.empty before)
  have hmark := mark_file hclear hn hpath hempty runnable
  have hmarked := mark_writes hclear hn runnable
  rw [hmark] at hmarked
  rw [put_put] at hmark hmarked
  have hrunnable := get?_put h.isFolderAt n (.file ByteArray.empty runnable)
  have htarget := fileTarget_of_clear (hmarked.clear hclear) hn hpath
    (not_isFolderAt_of_get? hrunnable rfl)
  rw [copyFile, hstat]
  simp only [hopen, hmark, hread]
  rw [writeBytes_of_fileTarget (by exact hfaults) htarget, store_file hrunnable, put_put]

/-- Where a copy is already, copying changes nothing. -/
theorem copyFile_again (h : fs.Clear p folder) (hn : IsFileName n) (hpath : IsPath (p.join ⟨n⟩))
    (hfaults : fs.faults = []) (hsource : fs.Steady source (folder ++ [n]) content runnable)
    (hholds : fs.Holds (folder ++ [n]) content runnable) :
    fs.copyFile source (p.join ⟨n⟩) = (.ok (), fs) := by
  have hself : fs.Writes (· = folder ++ [n]) fs := writes_of_eq h.proper rfl rfl
  have hread {after : FileSystem} (hwrites : fs.Writes (· = folder ++ [n]) after) :
      after.readBytes source = .ok content := by
    simp only [readBytes, hsource after hwrites]
    rfl
  obtain hfile | ⟨d, hdevice, htakes⟩ := hholds
  · have hemptied := put_file_writes h hn hfile ByteArray.empty runnable
    rw [copyFile_over h hn hpath hfaults hfile (hsource fs hself) (hread hemptied), put_self hfile]
  · have htarget := fileTarget_of_clear h hn hpath (not_isFolderAt_of_get? hdevice rfl)
    have hopen : fs.writeBytes (p.join ⟨n⟩) ByteArray.empty = (.ok (), fs) := by
      rw [writeBytes_of_fileTarget hfaults htarget, store_device hdevice fun _ => rfl]
    rw [copyFile, hsource fs hself]
    simp only [hopen, mark_device h hn hdevice, hread hself]
    rw [writeBytes_of_fileTarget hfaults htarget, store_device hdevice htakes]

/-- A file that is copied to its own place is emptied. -/
theorem copyFile_itself (h : fs.Clear p folder) (hn : IsFileName n) (hpath : IsPath (p.join ⟨n⟩))
    (hfaults : fs.faults = [])
    (hsource : ∀ after, fs.Writes (· = folder ++ [n]) after → ∀ c r,
      after.root.get? (folder ++ [n]) = some (.file c r) → after.stat source = .ok (.file c r))
    (hget : fs.root.get? (folder ++ [n]) = some (.file content runnable)) :
    fs.copyFile source (p.join ⟨n⟩) =
      (.ok (), fs.put (folder ++ [n]) (.file ByteArray.empty runnable)) := by
  have hself : fs.Writes (· = folder ++ [n]) fs := writes_of_eq h.proper rfl rfl
  have hemptied := put_file_writes h hn hget ByteArray.empty runnable
  have hempty := get?_put h.isFolderAt n (.file ByteArray.empty runnable)
  refine copyFile_over h hn hpath hfaults hget (hsource fs hself _ _ hget) ?_
  simp only [readBytes, hsource _ hemptied _ _ hempty]
  rfl

end Files

end BuildPipeline.FileSystem

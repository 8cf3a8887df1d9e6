import BuildPipeline.Proofs.PinnedPath

/-! What making folders and writing files can change: a folder may stand where nothing was, and at
some places nothing or a file may have become another file. All else is as it was. -/
namespace BuildPipeline.FileSystem

open Node

/-- What may become of a place. -/
inductive Rewrite (allowed : Prop) : Option Node → Option Node → Prop
  | same (n : Option Node) : Rewrite allowed n n
  | folder : Rewrite allowed none (some (.folder []))
  | file {n : Option Node} (h : allowed) (hn : ∀ m, n = some m → m.isFile = true)
    (content : ByteArray) (runnable : Bool) : Rewrite allowed n (some (.file content runnable))

theorem Rewrite.mono {allowed more : Prop} {n m : Option Node} (h : Rewrite allowed n m)
    (hmore : allowed → more) : Rewrite more n m := by
  cases h with
  | same => exact .same n
  | folder => exact .folder
  | file h hn content runnable => exact .file (hmore h) hn content runnable

theorem Rewrite.trans {allowed : Prop} {a b c : Option Node} (hab : Rewrite allowed a b)
    (hbc : Rewrite allowed b c) : Rewrite allowed a c := by
  cases hbc with
  | same => exact hab
  | folder =>
    cases hab with
    | same => exact .folder
  | file h hn content runnable =>
    cases hab with
    | same => exact .file h hn content runnable
    | folder => exact absurd (hn _ rfl) (by simp [isFile])
    | file _ hn' _ _ => exact .file h hn' content runnable

/-- Only files at the places written to have changed, and only folders have come elsewhere. -/
structure Writes (fs : FileSystem) (written : List String → Prop) (after : FileSystem) : Prop where
  working : after.workingFolder = fs.workingFolder
  proper : after.root.Proper
  seen : ∀ names, Rewrite (written names) (fs.root.surface names) (after.root.surface names)

section Writes
variable {fs after last : FileSystem} {written more : List String → Prop} {p q : Path}
  {place folder names : List String}

theorem writes_of_eq (hproper : fs.root.Proper) (hworking : after.workingFolder = fs.workingFolder)
    (hroot : after.root = fs.root) : fs.Writes written after :=
  ⟨hworking, hroot ▸ hproper, fun _ => hroot ▸ .same _⟩

theorem Writes.mono (h : fs.Writes written after) (hmore : ∀ names, written names → more names) :
    fs.Writes more after :=
  ⟨h.working, h.proper, fun names => (h.seen names).mono (hmore names)⟩

theorem Writes.trans (h : fs.Writes written after) (hlast : after.Writes written last) :
    fs.Writes written last :=
  ⟨hlast.working.trans h.working, hlast.proper,
    fun names => (h.seen names).trans (hlast.seen names)⟩

theorem Writes.surface_eq (h : fs.Writes written after) {n : Node}
    (hn : fs.root.surface names = some n) (hnot : n.isFile = true → ¬ written names) :
    after.root.surface names = some n := by
  have hseen := h.seen names
  generalize after.root.surface names = m at hseen
  rw [hn] at hseen
  cases hseen with
  | same => rfl
  | file hwritten hfile _ _ => exact absurd hwritten (hnot (hfile n rfl))

theorem Writes.get?_eq (h : fs.Writes written after) {n : Node} (hn : fs.root.get? names = some n)
    (hfolder : n.isFolder = false) (hnot : n.isFile = true → ¬ written names) :
    after.root.get? names = some n := by
  have hsurface := surface_of_get? hn
  rw [bare_of_not_isFolder hfolder] at hsurface
  exact get?_of_surface (h.surface_eq hsurface hnot) hfolder

theorem Writes.get?_of_after (h : fs.Writes written after) {n : Node}
    (hn : after.root.get? names = some n) (hfolder : n.isFolder = false)
    (hnot : n.isFile = true → ¬ written names) :
    fs.root.get? names = some n := by
  have hsurface := surface_of_get? hn
  rw [bare_of_not_isFolder hfolder] at hsurface
  have hseen := h.seen names
  generalize hm : fs.root.surface names = m at hseen
  rw [hsurface] at hseen
  cases hseen with
  | same => exact get?_of_surface hm hfolder
  | folder => simp [Node.isFolder] at hfolder
  | file hwritten _ _ _ => exact absurd hwritten (hnot rfl)

theorem Writes.keeps (h : fs.Writes written after) : Keeps fs.root after.root := by
  refine fun names => ⟨fun hfolder => ?_, fun target hlink => ?_⟩
  · exact isFolderAt_iff.2 (h.surface_eq (isFolderAt_iff.1 hfolder) nofun)
  · exact h.get?_eq hlink rfl nofun

theorem Writes.grounded (h : fs.Writes written after) (hground : fs.Grounded) :
    after.Grounded := by
  rw [Grounded, h.working]
  exact (h.keeps fs.workingFolder).1 hground

theorem Writes.leads (h : fs.Writes written after) (hleads : fs.Leads p folder) :
    after.Leads p folder := by
  obtain ⟨left, hwalk⟩ := hleads
  refine ⟨left, ?_⟩
  rw [start, h.working]
  exact hwalk.mono h.keeps

theorem Writes.linkFree (h : fs.Writes written after) (hfree : fs.root.LinkFree place) :
    after.root.LinkFree place := by
  intro names target hlink
  have hsurface := surface_of_get? hlink
  have hseen := h.seen (place ++ names)
  generalize hm : fs.root.surface (place ++ names) = m at hseen
  rw [hsurface] at hseen
  cases hseen with
  | same => exact hfree names target (get?_of_surface hm rfl)

theorem Writes.pins (h : fs.Writes written after) (hpins : fs.Pins p place) :
    after.Pins p place := by
  obtain ⟨front, back, left, folder, htrail, hwalk, hfree, hback, hplace⟩ := hpins
  refine ⟨front, back, left, folder, htrail, ?_, h.linkFree hfree, hback, hplace⟩
  rw [start, h.working]
  exact hwalk.mono h.keeps

/-! ### One change -/

theorem writes_folder (hproper : fs.root.Proper) (hnames : ∀ s ∈ place, IsFileName s)
    (hnone : fs.root.get? place = none) (hworking : after.workingFolder = fs.workingFolder)
    (hroot : after.root = fs.root.set place (.folder [])) : fs.Writes written after := by
  refine ⟨hworking, hroot ▸ hereditary_proper.set hproper proper_empty hnames, fun names => ?_⟩
  rw [hroot]
  obtain hsame | ⟨rfl, hnew⟩ := @surface_set_folder fs.root place names hnone
  · exact hsame ▸ .same _
  · rw [hnew, surface_eq_none.2 hnone]
    exact .folder

theorem writes_file {content : ByteArray} {runnable : Bool} (hproper : fs.root.Proper)
    (hnames : ∀ s ∈ place, IsFileName s) (hwritten : written place)
    (hfile : ∀ n, fs.root.get? place = some n → n.isFile = true)
    (hworking : after.workingFolder = fs.workingFolder)
    (hroot : after.root = fs.root.set place (.file content runnable)) :
    fs.Writes written after := by
  have hfolder : ¬ fs.root.IsFolderAt place := fun ⟨es, hes⟩ => by simpa [isFile] using hfile _ hes
  refine ⟨hworking, hroot ▸ hereditary_proper.set hproper (.file _ _) hnames, fun names => ?_⟩
  rw [hroot]
  obtain hsame | ⟨rfl, hnew⟩ :=
    @surface_set_file fs.root place content runnable hfolder names
  · exact hsame ▸ .same _
  · rw [hnew]
    refine .file hwritten (fun m hm => ?_) content runnable
    obtain ⟨n, hn, rfl⟩ := Option.map_eq_some_iff.1 hm
    have hn' := hfile n hn
    cases n with
    | file _ _ => rfl
    | _ => simp [isFile] at hn'

end Writes

/-! ### Folders -/

section Folders
variable {fs : FileSystem} {p q : Path} {written : List String → Prop}

theorem isFileName_of_isPath {s : String} (hpath : IsPath q) (hs : IsName s)
    (hmem : s ∈ q.segments) : IsFileName s := by
  have hnul : Char.ofNat 0 ∉ q.text.toList := by simpa [hasNul] using hpath.1
  exact ⟨hs, (Path.mem_segments hmem).2, fun hc => hnul (Path.mem_text_of_mem_segments hmem hc)⟩

theorem makeFolder_writes (hproper : fs.root.Proper) (hground : fs.Grounded) (q : Path) :
    fs.Writes written (fs.makeFolder q).2 := by
  obtain ⟨e, he⟩ | ⟨names, hlocate, hmade⟩ := fs.makeFolder_cases q
  · rw [he]
    exact writes_of_eq hproper rfl rfl
  · obtain ⟨front, n, left, folder, hsegments, hn, rfl, hwalk, hnone⟩ :=
      missing_of_locate hground hlocate
    obtain ⟨es, hes⟩ := hwalk.isFolderAt (hground.start q)
    have hmem : n ∈ (withoutEndSlash q).segments := by simp [q.segments_withoutEndSlash, hsegments]
    have hlast : IsFileName n := isFileName_of_isPath (isPath_of_locate hlocate) hn hmem
    have hnames : ∀ s ∈ folder ++ [n], IsFileName s :=
      List.forall_mem_append.2 ⟨(hereditary_proper.get? hproper hes).2,
        List.forall_mem_singleton.2 hlast⟩
    rw [hmade]
    exact writes_folder hproper hnames hnone rfl rfl

theorem makeFolderPath_writes (hproper : fs.root.Proper) (hground : fs.Grounded) (p : Path) :
    fs.Writes written (fs.makeFolderPath p).2 := by
  have hrefl : fs.Writes written fs := writes_of_eq hproper rfl rfl
  rw [makeFolderPath]
  split
  · exact hrefl
  · refine makeOutwards_preserves (P := fs.Writes written) (fun made hmade q _ => ?_) hrefl
    exact hmade.trans (makeFolder_writes hmade.proper (hmade.grounded hground) q)

theorem leads_of_makeFolder {made : FileSystem} (hproper : fs.root.Proper) (hground : fs.Grounded)
    (h : fs.makeFolder q = (.ok (), made)) : ∃ folder, made.Leads q folder := by
  obtain ⟨e, he⟩ | ⟨names, hlocate, hmade⟩ := fs.makeFolder_cases q
  · rw [he] at h
    cases h
  · obtain ⟨front, n, left, folder, hsegments, hn, rfl, hwalk, hnone⟩ :=
      missing_of_locate hground hlocate
    have hwrites : fs.Writes (fun _ => False) (fs.makeFolder q).2 :=
      makeFolder_writes hproper hground q
    rw [h] at hwrites hmade
    have hroot : made.root = fs.root.set (folder ++ [n]) (.folder []) :=
      congrArg (fun result => result.2.root) hmade
    have hentry : made.root.IsFolderAt (folder ++ [n]) := by
      rw [hroot]
      exact ⟨[], by rw [get?_set_entry (hwalk.isFolderAt (hground.start q)), if_pos rfl]⟩
    refine ⟨folder ++ [n], left, ?_⟩
    rw [hsegments, start, hwrites.working]
    exact (hwalk.mono hwrites.keeps).append (.down hn hentry (.nil left (folder ++ [n])))

theorem leads_of_forgive {e : IoError} {forgiven : FileSystem} (hground : fs.Grounded)
    (h : fs.forgive q e = (.ok (), forgiven)) : forgiven = fs ∧ ∃ folder, fs.Leads q folder := by
  rw [forgive] at h
  split at h
  · next hfolder =>
    cases h
    exact ⟨rfl, ((isFolder_iff hground).1 hfolder).2⟩
  · cases h

/-- All of these folders are there afterwards, and nothing was written. -/
def Provides (fs : FileSystem) (qs : List Path) (made : FileSystem) : Prop :=
  fs.Writes (fun _ => False) made ∧ ∀ q ∈ qs, ∃ folder, made.Leads q folder

variable {between made : FileSystem} {qs outer missing : List Path}

theorem Provides.cons (hbetween : fs.Writes (fun _ => False) between)
    (hq : ∃ folder, between.Leads q folder) (h : between.Provides qs made) :
    fs.Provides (q :: qs) made := by
  obtain ⟨folder, hleads⟩ := hq
  exact ⟨hbetween.trans h.1, List.forall_mem_cons.2 ⟨⟨folder, h.1.leads hleads⟩, h.2⟩⟩

theorem makeFolders_provides (hproper : fs.root.Proper) (hground : fs.Grounded)
    (h : fs.makeFolders qs = (.ok (), made)) : fs.Provides qs made := by
  induction qs generalizing fs with
  | nil =>
    cases h
    exact ⟨writes_of_eq hproper rfl rfl, List.forall_mem_nil _⟩
  | cons q rest ih =>
    have hmade : fs.Writes (fun _ => False) (fs.makeFolder q).2 :=
      makeFolder_writes hproper hground q
    rw [makeFolders] at h
    split at h
    · next between hbetween =>
      rw [hbetween] at hmade
      exact .cons hmade (leads_of_makeFolder hproper hground hbetween)
        (ih hmade.proper (hmade.grounded hground) h)
    · next e failed hfailed =>
      rw [hfailed] at hmade
      have hground' := hmade.grounded hground
      split at h
      · next forgiven hforgive =>
        obtain ⟨rfl, hq⟩ := leads_of_forgive hground' hforgive
        exact .cons hmade hq (ih hmade.proper hground' h)
      · cases h

theorem makeOutwards_provides (hproper : fs.root.Proper) (hground : fs.Grounded)
    (h : fs.makeOutwards outer missing = (.ok (), made)) :
    fs.Provides (outer.head?.toList ++ missing) made := by
  induction outer generalizing fs missing with
  | nil => exact makeFolders_provides hproper hground h
  | cons q rest ih =>
    have hmade : fs.Writes (fun _ => False) (fs.makeFolder q).2 :=
      makeFolder_writes hproper hground q
    have hground' := hmade.grounded hground
    rw [makeOutwards] at h
    split at h
    · next between hbetween =>
      rw [hbetween] at hmade hground'
      exact .cons hmade (leads_of_makeFolder hproper hground hbetween)
        (makeFolders_provides hmade.proper hground' h)
    · next failed hfailed =>
      rw [hfailed] at hmade hground'
      obtain ⟨hwrites, hall⟩ := ih hmade.proper hground' h
      exact ⟨hmade.trans hwrites, fun r hr => hall r (List.mem_append_right _ hr)⟩
    · next e failed _ hfailed =>
      rw [hfailed] at hmade hground'
      split at h
      · next forgiven hforgive =>
        obtain ⟨rfl, hq⟩ := leads_of_forgive hground' hforgive
        exact .cons hmade hq (makeFolders_provides hmade.proper hground' h)
      · cases h

theorem leads_of_makeFolderPath (hproper : fs.root.Proper) (hground : fs.Grounded)
    (h : fs.makeFolderPath p = (.ok (), made)) :
    fs.Writes (fun _ => False) made ∧ ∃ folder, made.Leads p folder := by
  have htrivial {fs : FileSystem} (htrail : p.trail = []) : ∃ folder, fs.Leads p folder := by
    refine ⟨fs.start p, maxLinks, walk_trail_iff.1 ?_⟩
    rw [htrail]
    exact .nil _ _
  have hwrites : fs.Writes (fun _ => False) (fs.makeFolderPath p).2 :=
    makeFolderPath_writes hproper hground p
  rw [h] at hwrites
  refine ⟨hwrites, ?_⟩
  rw [makeFolderPath] at h
  split at h
  · next hempty => exact htrivial (Path.trail_of_isEmpty hempty)
  · next hempty =>
    by_cases hroot : p.components = [.root]
    · exact htrivial (Path.trail_of_components hroot)
    · have hhead : (ancestors p).head? = some p := by simp [ancestors, hroot, hempty]
      obtain ⟨-, hall⟩ := makeOutwards_provides hproper hground h
      rw [hhead] at hall
      exact hall p (by simp)

end Folders

end BuildPipeline.FileSystem

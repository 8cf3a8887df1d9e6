import BuildPipeline.Proofs.PathPlace
import BuildPipeline.Proofs.ProperTree

/-! Paths that end where there are no links. Whatever else is in the tree, such a path can lead to
one place only, and still does when other files and folders have been made. -/
namespace BuildPipeline.FileSystem

open Node

/-- A segment that leads down, if it leads anywhere. -/
def LeadsDown (s : String) : Prop := s ≠ "" ∧ s ≠ "." ∧ s ≠ ".."

theorem IsFileName.leadsDown {s : String} (h : IsFileName s) : LeadsDown s :=
  ⟨h.1.1, h.1.2.1, h.1.2.2.1⟩

theorem Walk.names_below {root : Node} {budget left : Nat} {here there names : List String}
    (h : Walk root budget here names left there) (hfree : root.LinkFree here)
    (hnames : ∀ s ∈ names, LeadsDown s) : there = here ++ names := by
  induction h with
  | nil => simp
  | skip hs _ _ =>
    obtain ⟨hempty, hdot, -⟩ := hnames _ List.mem_cons_self
    exact absurd hs (by simp [hempty, hdot])
  | up _ _ =>
    obtain ⟨-, -, hup⟩ := hnames _ List.mem_cons_self
    exact absurd rfl hup
  | down _ _ _ ih =>
    rw [ih (hfree.below _) (List.forall_mem_cons.1 hnames).2]
    simp
  | link _ hlink _ _ _ _ => exact absurd hlink (hfree _ _)

theorem walk_of_isFolderAt {root : Node} {here names : List String} (budget : Nat)
    (hnames : ∀ s ∈ names, IsName s) (h : root.IsFolderAt (here ++ names)) :
    Walk root budget here names budget (here ++ names) := by
  induction names generalizing here with
  | nil => simpa using Walk.nil budget here
  | cons s rest ih =>
    obtain ⟨hs, hrest⟩ := List.forall_mem_cons.1 hnames
    rw [List.append_cons] at h ⊢
    exact .down hs h.front (ih hrest h)

/-- The front of the path leads to a folder where there are no links, and the rest are names. -/
def Pins (fs : FileSystem) (p : Path) (place : List String) : Prop :=
  ∃ front back left folder, p.trail = front ++ back ∧
    Walk fs.root maxLinks (fs.start p) front left folder ∧ fs.root.LinkFree folder ∧
    (∀ s ∈ back, LeadsDown s) ∧ place = folder ++ back

section Pins
variable {fs : FileSystem} {p q : Path} {place folder there names rel : List String}

theorem Leads.pins (h : fs.Leads p folder) (hfree : fs.root.LinkFree folder) :
    fs.Pins p folder := by
  obtain ⟨left, hwalk⟩ := h
  exact ⟨p.trail, [], left, folder, by simp, walk_trail_iff.2 hwalk, hfree,
    List.forall_mem_nil _, by simp⟩

theorem Pins.linkFree (h : fs.Pins p place) : fs.root.LinkFree place := by
  obtain ⟨front, back, left, folder, -, -, hfree, -, rfl⟩ := h
  exact hfree.below back

theorem Pins.append (h : fs.Pins p place) (habsolute : q.isAbsolute = p.isAbsolute)
    (htrail : q.trail = p.trail ++ names) (hnames : ∀ s ∈ names, LeadsDown s) :
    fs.Pins q (place ++ names) := by
  obtain ⟨front, back, left, folder, hp, hwalk, hfree, hback, rfl⟩ := h
  refine ⟨front, back ++ names, left, folder, by rw [htrail, hp, List.append_assoc], ?_, hfree,
    List.forall_mem_append.2 ⟨hback, hnames⟩, by rw [List.append_assoc]⟩
  rwa [start, habsolute]

theorem Pins.join (h : fs.Pins p place) (hrel : ∀ s ∈ rel, IsFileName s) :
    fs.Pins (p.join (.ofNames rel)) (place ++ rel) :=
  h.append (join_names p hrel).1 (trail_join_names p hrel) fun s hs => (hrel s hs).leadsDown

/-- Wherever the path leads, it is to this place. -/
theorem Pins.unique (h : fs.Pins p place) (hleads : fs.Leads p there) : there = place := by
  obtain ⟨front, back, left, folder, htrail, hwalk, hfree, hback, rfl⟩ := h
  obtain ⟨left', hwhole⟩ := hleads
  rw [← walk_trail_iff, htrail] at hwhole
  obtain ⟨between, middle, hfront, hrest⟩ := hwhole.split
  obtain rfl := hfront.unique hwalk
  exact hrest.names_below hfree hback

/-- What is written with names alone names a place in the folder that it is seen from. -/
theorem Pins.resolve (h : fs.Pins p place) (hnames : q.components = names.map .name) :
    fs.Pins (p.join q) (place ++ names) := by
  obtain ⟨hrelative, htrail, hplain⟩ := Path.trail_of_names hnames
  refine h.append (p.isAbsolute_join_relative hrelative) ?_ hplain
  rw [Path.trail, p.segments_join_relative hrelative, List.filter_append, ← htrail]
  rfl

theorem Leads.join (h : fs.Leads p folder) (hrel : ∀ s ∈ rel, IsFileName s)
    (hfolder : fs.root.IsFolderAt (folder ++ rel)) :
    fs.Leads (p.join (.ofNames rel)) (folder ++ rel) := by
  obtain ⟨left, hwalk⟩ := h
  obtain ⟨habsolute, hsegments⟩ := join_names p hrel
  refine ⟨left, ?_⟩
  rw [start, habsolute, hsegments]
  exact hwalk.append (walk_of_isFolderAt left (fun s hs => (hrel s hs).1) hfolder)

/-- The entry of a name is found in the folder that a path leads to, if the path is not too long. -/
theorem locate_entry {n : String} {purpose : Purpose} {x : Place} (hleads : fs.Leads p folder)
    (hfree : fs.root.LinkFree folder) (hn : IsFileName n)
    (h : fs.locate (p.join ⟨n⟩) purpose = .ok x) :
    IsPath (p.join ⟨n⟩) ∧ x = ⟨folder ++ [n], fs.root.get? (folder ++ [n])⟩ := by
  by_cases hpath : IsPath (p.join ⟨n⟩)
  · rw [locate_join hn hpath hleads fun target htarget => absurd htarget (hfree [n] target)] at h
    exact ⟨hpath, (Except.ok.inj h).symm⟩
  · obtain ⟨e, he⟩ := locate_of_not_isPath hpath purpose
    rw [he] at h
    cases h

end Pins

end BuildPipeline.FileSystem

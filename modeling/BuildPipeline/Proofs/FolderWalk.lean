import BuildPipeline.Proofs.FolderTree
import BuildPipeline.Proofs.PathText

/-! How a path leads to a folder. The steps of such a walk are a relation, so that a walk can be cut
in two, carried over to a tree that keeps what it passes, and compared with following the path. -/
namespace BuildPipeline.FileSystem

open Node

/-- A name that an entry of a folder can have. -/
def IsName (s : String) : Prop :=
  s ≠ "" ∧ s ≠ "." ∧ s ≠ ".." ∧ s.utf8ByteSize ≤ maxNameBytes

instance (s : String) : Decidable (IsName s) := inferInstanceAs (Decidable (_ ∧ _))

/-- Where the segments of a link's target are followed from. -/
def linkStart (target : String) (here : List String) : List String :=
  if (⟨target⟩ : Path).isAbsolute then [] else here

section Follow
variable {root : Node} {purpose : Purpose} {budget : Nat} {here rest : List String} {s : String}

theorem follow_nil : follow root purpose budget here [] = .ok ⟨here, root.get? here⟩ := by
  rw [follow]

theorem follow_skip (h : s = "." ∨ s = "") :
    follow root purpose budget here (s :: rest) = follow root purpose budget here rest := by
  rw [follow, if_pos h]

theorem follow_up :
    follow root purpose budget here (".." :: rest) =
      follow root purpose budget here.dropLast rest := by
  rw [follow, if_neg (by decide), if_pos rfl]

theorem follow_name (h : IsName s) (hrest : purpose = .creation → rest ≠ [""]) :
    follow root purpose budget here (s :: rest) =
      match root.get? (here ++ [s]) with
      | none => if rest.isEmpty then .ok ⟨here ++ [s], none⟩ else .error .notFound
      | some (.folder _) => follow root purpose budget (here ++ [s]) rest
      | some (.link target) =>
        if rest.isEmpty ∧ purpose = .entry then .ok ⟨here ++ [s], some (.link target)⟩
        else match budget with
          | 0 => .error .tooManyLinks
          | budget + 1 =>
            follow root purpose budget (linkStart target here) (steps ⟨target⟩ ++ rest)
      | some n => if rest.isEmpty then .ok ⟨here ++ [s], some n⟩ else .error .notFolder := by
  obtain ⟨hempty, hdot, hup, hsize⟩ := h
  rw [follow, if_neg (by simp [hempty, hdot]), if_neg hup, if_neg (Nat.not_lt.2 hsize),
    if_neg (fun hc => hrest hc.1 hc.2)]
  rfl

theorem follow_cons_ok {place : Place}
    (h : follow root purpose budget here (s :: rest) = .ok place) :
    (s = "." ∨ s = "") ∧ follow root purpose budget here rest = .ok place ∨
      s = ".." ∧ follow root purpose budget here.dropLast rest = .ok place ∨
      IsName s ∧ root.IsFolderAt (here ++ [s]) ∧
        follow root purpose budget (here ++ [s]) rest = .ok place ∨
      IsName s ∧ ¬ (rest = [] ∧ purpose = .entry) ∧
        (∃ target less, root.get? (here ++ [s]) = some (.link target) ∧ budget = less + 1 ∧
          follow root purpose less (linkStart target here) (steps ⟨target⟩ ++ rest) = .ok place) ∨
      IsName s ∧ rest = [] ∧ ¬ root.IsFolderAt (here ++ [s]) ∧
        place = ⟨here ++ [s], root.get? (here ++ [s])⟩ := by
  by_cases hskip : s = "." ∨ s = ""
  · exact .inl ⟨hskip, by rwa [follow_skip hskip] at h⟩
  by_cases hup : s = ".."
  · subst hup
    exact .inr (.inl ⟨rfl, by rwa [follow_up] at h⟩)
  rw [not_or] at hskip
  rw [follow, if_neg (by simp [hskip]), if_neg hup] at h
  split at h
  · cases h
  next hsize =>
  have hname : IsName s := ⟨hskip.2, hskip.1, hup, Nat.not_lt.1 hsize⟩
  split at h
  · cases h
  split at h
  next hget =>
    split at h
    next hlast =>
      cases h
      exact .inr (.inr (.inr (.inr ⟨hname, List.isEmpty_iff.1 hlast, by simp [IsFolderAt, hget],
        by rw [hget]⟩)))
    next => cases h
  next es hget => exact .inr (.inr (.inl ⟨hname, ⟨es, hget⟩, h⟩))
  next target hget =>
    split at h
    next hlast =>
      cases h
      exact .inr (.inr (.inr (.inr ⟨hname, List.isEmpty_iff.1 hlast.1,
        by simp [IsFolderAt, hget], by rw [hget]⟩)))
    next hmore =>
      rw [List.isEmpty_iff] at hmore
      split at h
      · cases h
      next less => exact .inr (.inr (.inr (.inl ⟨hname, hmore, target, less, hget, rfl, h⟩)))
  next n hfolder hlink hget =>
    split at h
    next hlast =>
      cases h
      refine .inr (.inr (.inr (.inr ⟨hname, List.isEmpty_iff.1 hlast, ?_, by rw [hget]⟩)))
      rintro ⟨es, hes⟩
      exact hfolder es (Option.some.inj (hget.symm.trans hes))
    next => cases h

end Follow

/-- Whether following a path may go on to these segments after a walk. -/
def Purpose.Passes : Purpose → List String → Prop
  | .target, _ => True
  | .entry, rest => rest ≠ []
  | .creation, rest => rest ≠ [] ∧ rest.getLast? ≠ some ""

theorem Purpose.Passes.cons {purpose : Purpose} {rest : List String} (h : purpose.Passes rest)
    (s : String) : purpose.Passes (s :: rest) := by
  cases purpose with
  | target => trivial
  | entry => exact List.cons_ne_nil s rest
  | creation =>
    obtain ⟨hne, hlast⟩ := h
    obtain ⟨next, more, rfl⟩ := List.exists_cons_of_ne_nil hne
    exact ⟨List.cons_ne_nil _ _, by rwa [List.getLast?_cons_cons]⟩

theorem Purpose.Passes.append {purpose : Purpose} {rest : List String} (h : purpose.Passes rest)
    (front : List String) : purpose.Passes (front ++ rest) := by
  induction front with
  | nil => exact h
  | cons s front ih => exact ih.cons s

/-- Segments that lead from one folder to another, with the links that may still be passed before
and after. -/
inductive Walk (root : Node) : Nat → List String → List String → Nat → List String → Prop
  | nil (budget : Nat) (here : List String) : Walk root budget here [] budget here
  | skip {budget left : Nat} {here there rest : List String} {s : String} (hs : s = "." ∨ s = "")
    (h : Walk root budget here rest left there) : Walk root budget here (s :: rest) left there
  | up {budget left : Nat} {here there rest : List String}
    (h : Walk root budget here.dropLast rest left there) :
    Walk root budget here (".." :: rest) left there
  | down {budget left : Nat} {here there rest : List String} {s : String} (hs : IsName s)
    (hfolder : root.IsFolderAt (here ++ [s]))
    (h : Walk root budget (here ++ [s]) rest left there) :
    Walk root budget here (s :: rest) left there
  | link {budget between left : Nat} {here middle there rest : List String} {s target : String}
    (hs : IsName s) (hlink : root.get? (here ++ [s]) = some (.link target))
    (htarget : Walk root budget (linkStart target here) (steps ⟨target⟩) between middle)
    (h : Walk root between middle rest left there) :
    Walk root (budget + 1) here (s :: rest) left there

namespace Walk
variable {root root' : Node} {budget between left : Nat} {here middle there : List String}
  {front back segments : List String}

theorem append (hfront : Walk root budget here front between middle)
    (hback : Walk root between middle back left there) :
    Walk root budget here (front ++ back) left there := by
  induction hfront with
  | nil => exact hback
  | skip hs _ ih => exact .skip hs (ih hback)
  | up _ ih => exact .up (ih hback)
  | down hs hfolder _ ih => exact .down hs hfolder (ih hback)
  | link hs hlink htarget _ _ ih => exact .link hs hlink htarget (ih hback)

theorem split (h : Walk root budget here (front ++ back) left there) :
    ∃ between middle, Walk root budget here front between middle ∧
      Walk root between middle back left there := by
  induction front generalizing budget here with
  | nil => exact ⟨budget, here, .nil budget here, h⟩
  | cons s rest ih =>
    cases h with
    | skip hs h =>
      obtain ⟨between, middle, hfront, hback⟩ := ih h
      exact ⟨between, middle, .skip hs hfront, hback⟩
    | up h =>
      obtain ⟨between, middle, hfront, hback⟩ := ih h
      exact ⟨between, middle, .up hfront, hback⟩
    | down hs hfolder h =>
      obtain ⟨between, middle, hfront, hback⟩ := ih h
      exact ⟨between, middle, .down hs hfolder hfront, hback⟩
    | link hs hlink htarget h =>
      obtain ⟨between, middle, hfront, hback⟩ := ih h
      exact ⟨between, middle, .link hs hlink htarget hfront, hback⟩

/-- Dots and slashes more or less make no difference. -/
theorem filter_iff {keep : String → Bool} (hkeep : ∀ s, keep s = false → s = "." ∨ s = "") :
    Walk root budget here (segments.filter keep) left there ↔
      Walk root budget here segments left there := by
  induction segments generalizing budget here with
  | nil => exact .rfl
  | cons s rest ih =>
    cases hs : keep s with
    | false =>
      have hskip := hkeep s hs
      rw [List.filter_cons_of_neg (by simp [hs]), ih]
      refine ⟨.skip hskip, fun h => ?_⟩
      cases h with
      | skip _ h => exact h
      | up h => rcases hskip with hdot | hempty <;> contradiction
      | down hname hfolder h => exact absurd hskip fun he => he.elim hname.2.1 hname.1
      | link hname hlink htarget h => exact absurd hskip fun he => he.elim hname.2.1 hname.1
    | true =>
      rw [List.filter_cons_of_pos hs]
      constructor
      · intro h
        cases h with
        | skip hs h => exact .skip hs (ih.1 h)
        | up h => exact .up (ih.1 h)
        | down hs hfolder h => exact .down hs hfolder (ih.1 h)
        | link hs hlink htarget h => exact .link hs hlink htarget (ih.1 h)
      · intro h
        cases h with
        | skip hs h => exact .skip hs (ih.2 h)
        | up h => exact .up (ih.2 h)
        | down hs hfolder h => exact .down hs hfolder (ih.2 h)
        | link hs hlink htarget h => exact .link hs hlink htarget (ih.2 h)

/-- A walk is possible wherever what it passes is kept. -/
theorem mono (hkeeps : Keeps root root') (h : Walk root budget here segments left there) :
    Walk root' budget here segments left there := by
  induction h with
  | nil budget here => exact .nil budget here
  | skip hs _ ih => exact .skip hs ih
  | up _ ih => exact .up ih
  | down hs hfolder _ ih => exact .down hs ((hkeeps _).1 hfolder) ih
  | link hs hlink _ _ ihtarget ih => exact .link hs ((hkeeps _).2 _ hlink) ihtarget ih

theorem isFolderAt (h : Walk root budget here segments left there) (hhere : root.IsFolderAt here) :
    root.IsFolderAt there := by
  induction h with
  | nil => exact hhere
  | skip _ _ ih => exact ih hhere
  | up _ ih => exact ih hhere.dropLast
  | down _ hfolder _ ih => exact ih hfolder
  | @link _ _ _ here _ _ _ s target _ hlink _ _ ihtarget ih =>
    refine ih (ihtarget ?_)
    rw [linkStart]
    split
    · exact @IsFolderAt.front root [] here hhere
    · exact hhere

end Walk

theorem Walk.follow_append {root : Node} {purpose : Purpose} {budget left : Nat}
    {here there segments rest : List String} (h : Walk root budget here segments left there)
    (hrest : purpose.Passes rest) :
    follow root purpose budget here (segments ++ rest) = follow root purpose left there rest := by
  induction h generalizing rest with
  | nil => rfl
  | skip hs _ ih => rw [List.cons_append, follow_skip hs, ih hrest]
  | up _ ih => rw [List.cons_append, follow_up, ih hrest]
  | @down _ _ _ _ more s hs hfolder _ ih =>
    obtain ⟨es, hes⟩ := hfolder
    have hpasses : purpose = .creation → more ++ rest ≠ [""] := by
      rintro rfl he
      exact (hrest.append more).2 (by rw [he]; rfl)
    rw [List.cons_append, follow_name hs hpasses, hes]
    exact ih hrest
  | @link _ _ _ _ _ _ more s target hs hlink _ _ ihtarget ih =>
    have hmore := hrest.append more
    have hpasses : purpose = .creation → more ++ rest ≠ [""] := by
      rintro rfl he
      exact hmore.2 (by rw [he]; rfl)
    have hentry : ¬ ((more ++ rest).isEmpty = true ∧ purpose = .entry) := by
      rintro ⟨hempty, rfl⟩
      exact hmore (List.isEmpty_iff.1 hempty)
    rw [List.cons_append, follow_name hs hpasses, hlink]
    simp only [if_neg hentry]
    rw [ihtarget hmore, ih hrest]

theorem Walk.unique {root : Node} {budget left left' : Nat}
    {here there there' segments : List String}
    (h : Walk root budget here segments left there)
    (h' : Walk root budget here segments left' there') : there = there' := by
  have hfollow : follow root .target left there [] = follow root .target left' there' [] := by
    have hpasses : Purpose.Passes .target [] := trivial
    rw [← h.follow_append hpasses, ← h'.follow_append hpasses]
  rw [follow_nil, follow_nil, Except.ok.injEq, Place.mk.injEq] at hfollow
  exact hfollow.1

/-- Following a path beyond some segments, or to a folder, walks along those segments. -/
theorem exists_walk {root : Node} {purpose : Purpose} {budget : Nat}
    {here front back : List String} {place : Place}
    (h : follow root purpose budget here (front ++ back) = .ok place)
    (hback : back ≠ [] ∨ ∃ es, place.node = some (.folder es)) :
    ∃ left there, Walk root budget here front left there := by
  -- along a link the budget gets smaller, everywhere else the segments do
  induction budget using Nat.strongRecOn generalizing here front with
  | ind budget ihlinks =>
  induction front generalizing here with
  | nil => exact ⟨budget, here, .nil budget here⟩
  | cons s rest ih =>
    rw [List.cons_append] at h
    obtain ⟨hs, hnext⟩ | ⟨rfl, hnext⟩ | ⟨hs, hfolder, hnext⟩ |
      ⟨hs, -, target, less, hlink, rfl, hnext⟩ | ⟨-, hrest, hfolder, rfl⟩ := follow_cons_ok h
    · obtain ⟨left, there, hwalk⟩ := ih hnext
      exact ⟨left, there, .skip hs hwalk⟩
    · obtain ⟨left, there, hwalk⟩ := ih hnext
      exact ⟨left, there, .up hwalk⟩
    · obtain ⟨left, there, hwalk⟩ := ih hnext
      exact ⟨left, there, .down hs hfolder hwalk⟩
    · rw [← List.append_assoc] at hnext
      obtain ⟨left, there, hwalk⟩ := ihlinks less (Nat.lt_succ_self less) hnext
      obtain ⟨between, middle, htarget, hwalk⟩ := hwalk.split
      exact ⟨left, there, .link hs hlink htarget hwalk⟩
    · -- what stands at the end is no folder
      have hnil := (List.append_eq_nil_iff.1 hrest).2
      exact absurd (hback.resolve_left fun hne => hne hnil) hfolder

/-! ### Folders and their entries -/

def start (fs : FileSystem) (p : Path) : List String :=
  if p.isAbsolute then [] else fs.workingFolder

def Leads (fs : FileSystem) (p : Path) (folder : List String) : Prop :=
  ∃ left, Walk fs.root maxLinks (fs.start p) p.segments left folder

/-- The working folder is there. -/
def Grounded (fs : FileSystem) : Prop := fs.root.IsFolderAt fs.workingFolder

section Folders
variable {fs : FileSystem} {p : Path} {folder : List String}

theorem Grounded.start (h : fs.Grounded) (p : Path) : fs.root.IsFolderAt (fs.start p) := by
  rw [FileSystem.start]
  split
  · exact @IsFolderAt.front fs.root [] fs.workingFolder h
  · exact h

theorem Leads.unique {there : List String} (h : fs.Leads p folder) (h' : fs.Leads p there) :
    folder = there := by
  obtain ⟨left, hwalk⟩ := h
  obtain ⟨left', hwalk'⟩ := h'
  exact hwalk.unique hwalk'

theorem Leads.isFolderAt (h : fs.Leads p folder) (hground : fs.Grounded) :
    fs.root.IsFolderAt folder := by
  obtain ⟨left, hwalk⟩ := h
  exact hwalk.isFolderAt (hground.start p)

/-- The text of a path that can be followed at all. -/
def IsPath (p : Path) : Prop :=
  hasNul p = false ∧ p.isEmpty = false ∧ p.text.utf8ByteSize ≤ maxPathBytes

instance (p : Path) : Decidable (IsPath p) := inferInstanceAs (Decidable (_ ∧ _))

theorem locate_of_isPath (h : IsPath p) (purpose : Purpose) :
    fs.locate p purpose = follow fs.root purpose maxLinks (fs.start p) (steps p) := by
  obtain ⟨hnul, hempty, hsize⟩ := h
  rw [locate, hnul, hempty, if_neg Bool.false_ne_true, if_neg Bool.false_ne_true,
    if_neg (Nat.not_lt.2 hsize)]
  rfl

/-- Such a text fails alike in every file system. -/
theorem locate_of_not_isPath (h : ¬ IsPath p) (purpose : Purpose) :
    ∃ e, ∀ fs : FileSystem, fs.locate p purpose = .error e := by
  by_cases hnul : hasNul p = true
  · exact ⟨.nulInPath, fun fs => by rw [locate, if_pos hnul]⟩
  by_cases hempty : p.isEmpty = true
  · exact ⟨.notFound, fun fs => by rw [locate, if_neg hnul, if_pos hempty]⟩
  by_cases hsize : maxPathBytes < p.text.utf8ByteSize
  · exact ⟨.nameTooLong, fun fs => by rw [locate, if_neg hnul, if_neg hempty, if_pos hsize]⟩
  exact absurd ⟨by simpa using hnul, by simpa using hempty, Nat.not_lt.1 hsize⟩ h

theorem isPath_of_locate {purpose : Purpose} {x : Place} (h : fs.locate p purpose = .ok x) :
    IsPath p := by
  refine Decidable.byContradiction fun hnot => ?_
  obtain ⟨e, he⟩ := locate_of_not_isPath hnot purpose
  rw [he fs] at h
  cases h

theorem walk_steps_iff {root : Node} {budget left : Nat} {here there : List String} :
    Walk root budget here (steps p) left there ↔ Walk root budget here p.segments left there := by
  have hsegments : (steps p).filter (· ≠ "") = p.segments := by
    have hself : p.segments.filter (· ≠ "") = p.segments :=
      List.filter_eq_self.2 fun s hs => by simpa using (Path.mem_segments hs).1
    rw [steps]
    split
    · rw [List.filter_append, hself]
      exact List.append_nil _
    · exact hself
  rw [← hsegments]
  exact (Walk.filter_iff fun s hs => .inr (by simpa using hs)).symm

theorem locate_of_leads (hpath : IsPath p) (hleads : fs.Leads p folder) :
    fs.locate p .target = .ok ⟨folder, fs.root.get? folder⟩ := by
  obtain ⟨left, hwalk⟩ := hleads
  have happend : follow fs.root .target maxLinks (fs.start p) (steps p ++ []) =
      follow fs.root .target left folder [] := (walk_steps_iff.2 hwalk).follow_append trivial
  rwa [List.append_nil, follow_nil, ← locate_of_isPath hpath] at happend

theorem isFolder_iff (hground : fs.Grounded) :
    fs.isFolder p = true ↔ IsPath p ∧ ∃ folder, fs.Leads p folder := by
  constructor
  · intro h
    have hpath : IsPath p := by
      refine Decidable.byContradiction fun hnot => ?_
      obtain ⟨e, he⟩ := locate_of_not_isPath hnot .target
      simp [isFolder, stat, he fs] at h
    refine ⟨hpath, ?_⟩
    cases hfollow : follow fs.root .target maxLinks (fs.start p) (steps p) with
    | error e => simp [isFolder, stat, locate_of_isPath hpath, hfollow] at h
    | ok place =>
      have hnode : ∃ es, place.node = some (.folder es) := by
        cases hnode : place.node with
        | none => simp [isFolder, stat, locate_of_isPath hpath, hfollow, hnode] at h
        | some n =>
          simp only [isFolder, stat, locate_of_isPath hpath, hfollow, hnode] at h
          cases n with
          | folder es => exact ⟨es, rfl⟩
          | _ => simp [Node.isFolder] at h
      rw [← List.append_nil (steps p)] at hfollow
      obtain ⟨left, there, hwalk⟩ := exists_walk hfollow (.inr hnode)
      exact ⟨there, left, walk_steps_iff.1 hwalk⟩
  · rintro ⟨hpath, folder, hleads⟩
    obtain ⟨es, hes⟩ := hleads.isFolderAt hground
    simp only [isFolder, stat, locate_of_leads hpath hleads, hes]
    rfl

/-! ### The entry of a name in a folder -/

/-- A name under which a file can be made in any folder. -/
def IsFileName (n : String) : Prop := IsName n ∧ '/' ∉ n.toList ∧ Char.ofNat 0 ∉ n.toList

instance (n : String) : Decidable (IsFileName n) := inferInstanceAs (Decidable (_ ∧ _))

theorem follow_entry {root : Node} {purpose : Purpose} {left : Nat} {n : String} (hn : IsName n)
    (hlink : ∀ target, root.get? (folder ++ [n]) = some (.link target) → purpose = .entry) :
    follow root purpose left folder [n] = .ok ⟨folder ++ [n], root.get? (folder ++ [n])⟩ := by
  rw [follow_name hn (by simp)]
  split
  · next hget => rw [if_pos (by rfl), hget]
  · next es hget => rw [follow_nil, hget]
  · next target hget => rw [if_pos ⟨by rfl, hlink target hget⟩, hget]
  · next m _ _ hget => rw [if_pos (by rfl), hget]

theorem isPath_join {n : String} (hn : IsFileName n) :
    IsPath (p.join ⟨n⟩) ↔
      hasNul p = false ∧ (p.join ⟨n⟩).text.utf8ByteSize ≤ maxPathBytes := by
  obtain ⟨⟨hne, -⟩, hslash, hnul⟩ := hn
  rw [IsPath, p.hasNul_join hslash hnul, p.join_name_ne_empty hne hslash]
  simp

theorem locate_join {n : String} {purpose : Purpose} (hn : IsFileName n)
    (hpath : IsPath (p.join ⟨n⟩)) (hleads : fs.Leads p folder)
    (hlink : ∀ target, fs.root.get? (folder ++ [n]) = some (.link target) → purpose = .entry) :
    fs.locate (p.join ⟨n⟩) purpose = .ok ⟨folder ++ [n], fs.root.get? (folder ++ [n])⟩ := by
  obtain ⟨left, hwalk⟩ := hleads
  obtain ⟨hname, hslash, -⟩ := hn
  have hpasses : purpose.Passes [n] := by
    cases purpose with
    | target => trivial
    | entry => exact List.cons_ne_nil n []
    | creation => exact ⟨List.cons_ne_nil n [], by simpa using hname.1⟩
  have hstart : fs.start (p.join ⟨n⟩) = fs.start p := by
    rw [FileSystem.start, p.isAbsolute_join hslash, FileSystem.start]
  rw [locate_of_isPath hpath, hstart, p.steps_join hname.1 hslash, hwalk.follow_append hpasses,
    follow_entry hname hlink]

theorem locate_join_error {n : String} (hn : IsFileName n)
    (h : ¬ IsPath (p.join ⟨n⟩) ∨ ∀ folder, ¬ fs.Leads p folder) (purpose : Purpose) :
    ∃ e, fs.locate (p.join ⟨n⟩) purpose = .error e := by
  by_cases hpath : IsPath (p.join ⟨n⟩)
  · obtain ⟨hname, hslash, -⟩ := hn
    have hstart : fs.start (p.join ⟨n⟩) = fs.start p := by
      rw [FileSystem.start, p.isAbsolute_join hslash, FileSystem.start]
    rw [locate_of_isPath hpath, hstart, p.steps_join hname.1 hslash]
    cases hfollow : follow fs.root purpose maxLinks (fs.start p) (p.segments ++ [n]) with
    | error e => exact ⟨e, rfl⟩
    | ok place =>
      obtain ⟨left, there, hwalk⟩ := exists_walk hfollow (.inl (List.cons_ne_nil n []))
      exact absurd ⟨left, hwalk⟩ (h.resolve_left (fun hnot => hnot hpath) there)
  · obtain ⟨e, he⟩ := locate_of_not_isPath hpath purpose
    exact ⟨e, he fs⟩

/-- The entry of a path itself, even if it is a link. -/
def nodeAt? (fs : FileSystem) (p : Path) : Option Node :=
  match fs.locate p .entry with
  | .ok place => place.node
  | .error _ => none

theorem nodeAt?_join {n : String} (hn : IsFileName n) (hpath : IsPath (p.join ⟨n⟩))
    (hleads : fs.Leads p folder) :
    fs.nodeAt? (p.join ⟨n⟩) = fs.root.get? (folder ++ [n]) := by
  rw [nodeAt?, locate_join hn hpath hleads fun _ _ => rfl]

theorem nodeAt?_join_eq_none {n : String} (hn : IsFileName n)
    (h : ¬ IsPath (p.join ⟨n⟩) ∨ ∀ folder, ¬ fs.Leads p folder) :
    fs.nodeAt? (p.join ⟨n⟩) = none := by
  obtain ⟨e, he⟩ := locate_join_error hn h .entry
  rw [nodeAt?, he]

end Folders

end BuildPipeline.FileSystem

import BuildPipeline.Proofs.FolderMaking
import BuildPipeline.Proofs.TidyTree

/-! The place that a path names, its dots resolved. In a tree without links this is where every
operation finds the path. -/
namespace BuildPipeline

namespace FileSystem

open Node

/-- Where segments lead from a folder if there are no links. -/
def goFrom (here : List String) : List String → List String
  | [] => here
  | s :: rest =>
    if s = "." ∨ s = "" then goFrom here rest
    else if s = ".." then goFrom here.dropLast rest
    else goFrom (here ++ [s]) rest

section GoFrom
variable {here front back : List String} {s : String}

theorem goFrom_skip (h : s = "." ∨ s = "") : goFrom here (s :: back) = goFrom here back :=
  if_pos h

theorem goFrom_up : goFrom here (".." :: back) = goFrom here.dropLast back := by
  rw [goFrom, if_neg (by decide), if_pos rfl]

theorem goFrom_name (h : IsName s) : goFrom here (s :: back) = goFrom (here ++ [s]) back := by
  obtain ⟨hempty, hdot, hup, -⟩ := h
  rw [goFrom, if_neg (by simp [hempty, hdot]), if_neg hup]

theorem goFrom_append : goFrom here (front ++ back) = goFrom (goFrom here front) back := by
  induction front generalizing here with
  | nil => rfl
  | cons s rest ih =>
    rw [List.cons_append, goFrom, goFrom]
    split
    · exact ih
    · split <;> exact ih

theorem goFrom_names (h : ∀ s ∈ back, IsName s) : goFrom here back = here ++ back := by
  induction back generalizing here with
  | nil => rw [goFrom, List.append_nil]
  | cons s rest ih =>
    obtain ⟨hs, hrest⟩ := List.forall_mem_cons.1 h
    rw [goFrom_name hs, ih hrest, List.append_assoc, List.singleton_append]

/-- Dots and slashes more or less make no difference. -/
theorem goFrom_filter {keep : String → Bool} (hkeep : ∀ s, keep s = false → s = "." ∨ s = "") :
    goFrom here (back.filter keep) = goFrom here back := by
  induction back generalizing here with
  | nil => rfl
  | cons s rest ih =>
    cases hs : keep s with
    | false => rw [List.filter_cons_of_neg (by simp [hs]), goFrom_skip (hkeep s hs), ih]
    | true =>
      rw [List.filter_cons_of_pos hs, goFrom, goFrom]
      split
      · exact ih
      · split <;> exact ih

end GoFrom

/-- A path that is followed in a tidy tree ends at the place its segments name. -/
theorem follow_tidy {root : Node} {purpose : Purpose} {budget : Nat} {here segments : List String}
    {place : Place} (hroot : root.Tidy)
    (h : follow root purpose budget here segments = .ok place) :
    place.names = goFrom here segments ∧ place.node = root.get? place.names ∧
      ∀ s ∈ place.names, s ∈ here ∨ IsName s ∧ s ∈ segments := by
  induction segments generalizing here with
  | nil =>
    rw [follow_nil] at h
    cases h
    exact ⟨rfl, rfl, fun s hs => .inl hs⟩
  | cons s rest ih =>
    have hmore {t : String} (ht : IsName t ∧ t ∈ rest) : IsName t ∧ t ∈ s :: rest :=
      ⟨ht.1, List.mem_cons_of_mem s ht.2⟩
    obtain ⟨hs, hnext⟩ | ⟨rfl, hnext⟩ | ⟨hs, -, hnext⟩ | ⟨-, -, target, -, hlink, -⟩ |
      ⟨hs, rfl, -, rfl⟩ := follow_cons_ok h
    · obtain ⟨hnames, hnode, hall⟩ := ih hnext
      exact ⟨by rw [goFrom_skip hs, hnames], hnode, fun t ht => (hall t ht).imp_right hmore⟩
    · obtain ⟨hnames, hnode, hall⟩ := ih hnext
      refine ⟨by rw [goFrom_up, hnames], hnode, fun t ht => ?_⟩
      exact (hall t ht).imp (fun hhere => List.dropLast_subset here hhere) hmore
    · obtain ⟨hnames, hnode, hall⟩ := ih hnext
      refine ⟨by rw [goFrom_name hs, hnames], hnode, fun t ht => ?_⟩
      obtain hhere | ht := hall t ht
      · obtain hhere | hlast := List.mem_append.1 hhere
        · exact .inl hhere
        · rw [List.mem_singleton.1 hlast]
          exact .inr ⟨hs, List.mem_cons_self⟩
      · exact .inr (hmore ht)
    · exact absurd hlink (hroot.ne_link _ target)
    · refine ⟨by rw [goFrom_name hs, goFrom], rfl, fun t ht => ?_⟩
      obtain hhere | hlast := List.mem_append.1 ht
      · exact .inl hhere
      · rw [List.mem_singleton.1 hlast]
        exact .inr ⟨hs, List.mem_cons_self⟩

/-- A tidy tree, and a working folder whose names could stand in it. -/
structure Tidy (fs : FileSystem) : Prop where
  root : fs.root.Tidy
  working : ∀ s ∈ fs.workingFolder, IsFileName s

def placeOf (fs : FileSystem) (p : Path) : List String := goFrom (fs.start p) p.segments

section Places
variable {fs : FileSystem} {p q : Path}

theorem Tidy.start (h : fs.Tidy) (p : Path) : ∀ s ∈ fs.start p, IsFileName s := by
  rw [FileSystem.start]
  split
  · exact List.forall_mem_nil _
  · exact h.working

theorem goFrom_trail (p : Path) (here : List String) :
    goFrom here p.trail = goFrom here p.segments :=
  goFrom_filter fun s hs => .inl (by simpa using hs)

theorem goFrom_steps (p : Path) (here : List String) :
    goFrom here (steps p) = goFrom here p.segments := by
  rw [steps]
  split
  · rw [goFrom_append, goFrom_skip (.inr rfl), goFrom]
  · rfl

theorem locate_tidy {purpose : Purpose} {place : Place} (h : fs.Tidy)
    (hlocate : fs.locate p purpose = .ok place) :
    place.names = fs.placeOf p ∧ place.node = fs.root.get? place.names ∧
      ∀ s ∈ place.names, IsFileName s := by
  have hpath : IsPath p := by
    refine Decidable.byContradiction fun hnot => ?_
    obtain ⟨e, he⟩ := locate_of_not_isPath hnot purpose
    rw [he fs] at hlocate
    cases hlocate
  rw [locate_of_isPath hpath] at hlocate
  obtain ⟨hnames, hnode, hall⟩ := follow_tidy h.root hlocate
  refine ⟨by rw [hnames, goFrom_steps, placeOf], hnode, fun s hs => ?_⟩
  obtain hhere | ⟨hname, hmem⟩ := hall s hs
  · exact h.start p s hhere
  · have hsegment : s ∈ p.segments := by
      rw [steps] at hmem
      split at hmem
      · obtain hmem | hlast := List.mem_append.1 hmem
        · exact hmem
        · exact absurd (List.mem_singleton.1 hlast) hname.1
      · exact hmem
    have hnul : Char.ofNat 0 ∉ p.text.toList := by simpa [hasNul] using hpath.1
    exact ⟨hname, (Path.mem_segments hsegment).2,
      fun hc => hnul (Path.mem_text_of_mem_segments hsegment hc)⟩

theorem join_names (p : Path) {rel : List String} (h : ∀ s ∈ rel, IsFileName s) :
    (p.join (.ofNames rel)).isAbsolute = p.isAbsolute ∧
      (p.join (.ofNames rel)).segments = p.segments ++ rel := by
  have hplain : ∀ s ∈ rel, s ≠ "" ∧ '/' ∉ s.toList := fun s hs => ⟨(h s hs).1.1, (h s hs).2.1⟩
  have hrelative : (Path.ofNames rel).isAbsolute = false := by
    rw [Path.ofNames_eq_along, Path.isAbsolute_along hplain]
  have hsegments : (Path.ofNames rel).segments = rel := Path.segments_intercalate hplain
  exact ⟨p.isAbsolute_join_relative hrelative,
    by rw [p.segments_join_relative hrelative, hsegments]⟩

theorem trail_join_names (p : Path) {rel : List String} (h : ∀ s ∈ rel, IsFileName s) :
    (p.join (.ofNames rel)).trail = p.trail ++ rel := by
  have hrel : rel.filter (· ≠ ".") = rel :=
    List.filter_eq_self.2 fun s hs => by simpa using (h s hs).1.2.1
  rw [Path.trail, (join_names p h).2, List.filter_append, hrel]
  rfl

theorem placeOf_join_names {rel : List String} (h : ∀ s ∈ rel, IsFileName s) :
    fs.placeOf (p.join (.ofNames rel)) = fs.placeOf p ++ rel := by
  obtain ⟨habsolute, hsegments⟩ := join_names p h
  rw [placeOf, placeOf, start, start, habsolute, hsegments, goFrom_append,
    goFrom_names fun s hs => (h s hs).1]

theorem placeOf_join_name {n : String} (h : IsFileName n) :
    fs.placeOf (p.join ⟨n⟩) = fs.placeOf p ++ [n] := by
  have hall : ∀ s ∈ [n], IsFileName s := by simpa using h
  have hjoin := @placeOf_join_names fs p [n] hall
  rwa [Path.ofNames, String.intercalate_singleton] at hjoin

theorem placeOf_withoutEndSlash : fs.placeOf (withoutEndSlash p) = fs.placeOf p := by
  rw [placeOf, placeOf, start, start, p.isAbsolute_withoutEndSlash, p.segments_withoutEndSlash]

/-- A place that is passed on the way along a path. -/
def OnWay (fs : FileSystem) (p : Path) (names : List String) : Prop :=
  ∃ front, front <+: p.trail ∧ names = goFrom (fs.start p) front

theorem onWay_of_trail (habsolute : q.isAbsolute = p.isAbsolute) (htrail : q.trail <+: p.trail) :
    fs.OnWay p (fs.placeOf q) := by
  refine ⟨q.trail, htrail, ?_⟩
  rw [goFrom_trail, placeOf, start, start, habsolute]

end Places

end FileSystem
end BuildPipeline

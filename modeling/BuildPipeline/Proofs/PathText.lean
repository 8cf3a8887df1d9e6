import BuildPipeline.FileSystem.Operations
import Mathlib.Data.List.Induction

/-! What the text of a path says about its segments: a name joined at its end, slashes taken off its
end, and the shorter paths that it lies in. -/
namespace BuildPipeline.Path

theorem splitSlash_ne_nil (cs : List Char) : splitSlash cs ≠ [] := by
  cases cs with
  | nil => exact List.cons_ne_nil _ _
  | cons c rest =>
    rw [splitSlash]
    split
    · exact List.cons_ne_nil _ _
    · split <;> exact List.cons_ne_nil _ _

theorem splitSlash_cons_of_ne {c : Char} (h : c ≠ '/') (cs : List Char) :
    splitSlash (c :: cs) = (c :: (splitSlash cs).head!) :: (splitSlash cs).tail := by
  rw [splitSlash, if_neg h]
  cases hpieces : splitSlash cs with
  | nil => exact absurd hpieces (splitSlash_ne_nil cs)
  | cons piece pieces => rfl

theorem splitSlash_of_notMem {cs : List Char} (h : '/' ∉ cs) : splitSlash cs = [cs] := by
  induction cs with
  | nil => rfl
  | cons c rest ih =>
    have hc : c ≠ '/' := fun he => h (he ▸ List.mem_cons_self)
    have hrest := ih fun hmem => h (List.mem_cons_of_mem c hmem)
    rw [splitSlash_cons_of_ne hc, hrest]
    rfl

theorem splitSlash_append (cs more : List Char) :
    splitSlash (cs ++ '/' :: more) = splitSlash cs ++ splitSlash more := by
  induction cs with
  | nil => rfl
  | cons c rest ih =>
    by_cases hc : c = '/'
    · rw [List.cons_append, splitSlash, if_pos hc, splitSlash, if_pos hc, ih, List.cons_append]
    · rw [List.cons_append, splitSlash_cons_of_ne hc, splitSlash_cons_of_ne hc, ih]
      cases hpieces : splitSlash rest with
      | nil => exact absurd hpieces (splitSlash_ne_nil rest)
      | cons piece pieces => rfl

theorem slash_notMem_of_mem_splitSlash {cs piece : List Char} (h : piece ∈ splitSlash cs) :
    '/' ∉ piece := by
  induction cs generalizing piece with
  | nil => simp_all [splitSlash]
  | cons c rest ih =>
    by_cases hc : c = '/'
    · rw [splitSlash, if_pos hc] at h
      rcases List.mem_cons.1 h with rfl | h
      · exact List.not_mem_nil
      · exact ih h
    · rw [splitSlash_cons_of_ne hc] at h
      cases hpieces : splitSlash rest with
      | nil => exact absurd hpieces (splitSlash_ne_nil rest)
      | cons first pieces =>
        rw [hpieces] at h ih
        rcases List.mem_cons.1 h with rfl | h
        · intro hmem
          rcases List.mem_cons.1 hmem with hmem | hmem
          · exact hc hmem.symm
          · exact ih List.mem_cons_self hmem
        · exact ih (List.mem_cons_of_mem first h)

theorem intercalate_splitSlash (cs : List Char) : ['/'].intercalate (splitSlash cs) = cs := by
  induction cs with
  | nil => rfl
  | cons c rest ih =>
    by_cases hc : c = '/'
    · rw [splitSlash, if_pos hc, List.intercalate_cons_of_ne_nil (splitSlash_ne_nil rest), ih, hc]
      rfl
    · rw [splitSlash_cons_of_ne hc, List.intercalate_cons_cons_left]
      cases hpieces : splitSlash rest with
      | nil => exact absurd hpieces (splitSlash_ne_nil rest)
      | cons piece pieces => rw [← ih, hpieces]; rfl

/-- Whole pieces left out leave characters out. -/
theorem intercalate_sublist {pieces more : List (List Char)} (h : pieces.Sublist more) :
    (['/'].intercalate pieces).Sublist (['/'].intercalate more) := by
  induction h with
  | slnil => exact .refl _
  | @cons pieces more piece hsub ih =>
    by_cases hmore : more = []
    · subst hmore
      rw [List.sublist_nil.1 hsub]
      exact List.nil_sublist _
    · rw [List.intercalate_cons_of_ne_nil hmore]
      exact ih.trans (List.sublist_append_right _ _)
  | @cons_cons pieces more piece hsub ih =>
    by_cases hpieces : pieces = []
    · subst hpieces
      rw [List.intercalate_singleton]
      cases more with
      | nil => exact (List.intercalate_singleton).symm ▸ .refl _
      | cons next rest =>
        rw [List.intercalate_cons_cons, List.append_assoc]
        exact List.sublist_append_left _ _
    · have hmore : more ≠ [] := fun he => hpieces (List.sublist_nil.1 (he ▸ hsub))
      rw [List.intercalate_cons_of_ne_nil hpieces, List.intercalate_cons_of_ne_nil hmore]
      exact ih.append_left _

/-! ### Segments -/

theorem mem_segments {p : Path} {s : String} (h : s ∈ p.segments) : s ≠ "" ∧ '/' ∉ s.toList := by
  obtain ⟨piece, hpiece, rfl⟩ := List.mem_map.1 h
  obtain ⟨hmem, hne⟩ := List.mem_filter.1 hpiece
  rw [String.toList_ofList]
  refine ⟨fun he => ?_, slash_notMem_of_mem_splitSlash hmem⟩
  have hnil : piece = [] := by simpa using congrArg String.toList he
  simp [hnil] at hne

theorem mem_text_of_mem_segments {p : Path} {s : String} {c : Char} (h : s ∈ p.segments)
    (hc : c ∈ s.toList) : c ∈ p.text.toList := by
  obtain ⟨piece, hpiece, rfl⟩ := List.mem_map.1 h
  have hsub := intercalate_sublist (List.singleton_sublist.2 (List.mem_filter.1 hpiece).1)
  rw [intercalate_splitSlash, List.intercalate_singleton] at hsub
  rw [String.toList_ofList] at hc
  exact hsub.subset hc

theorem segments_append (s t : String) :
    (⟨s ++ "/" ++ t⟩ : Path).segments = (⟨s⟩ : Path).segments ++ (⟨t⟩ : Path).segments := by
  have hchars : (s ++ "/" ++ t).toList = s.toList ++ '/' :: t.toList := by simp
  simp only [segments, hchars, splitSlash_append, List.filter_append, List.map_append]

theorem segments_name {n : String} (hne : n ≠ "") (hslash : '/' ∉ n.toList) :
    (⟨n⟩ : Path).segments = [n] := by
  have hchars : n.toList ≠ [] := by simpa using hne
  simp [segments, splitSlash_of_notMem hslash, hchars]

theorem segments_slash (s : String) : (⟨s ++ "/"⟩ : Path).segments = (⟨s⟩ : Path).segments := by
  have happend := segments_append s ""
  have hnone : (⟨""⟩ : Path).segments = [] := rfl
  rwa [String.append_empty, hnone, List.append_nil] at happend

theorem segments_slashes (s : String) {slashes : List Char} (h : ∀ c ∈ slashes, c = '/') :
    (⟨s ++ String.ofList slashes⟩ : Path).segments = (⟨s⟩ : Path).segments := by
  induction slashes generalizing s with
  | nil => rw [String.ofList_nil, String.append_empty]
  | cons c rest ih =>
    have hc : c = '/' := h c List.mem_cons_self
    have htext : s ++ String.ofList (c :: rest) = s ++ "/" ++ String.ofList rest := by
      subst hc
      exact String.toList_inj.1 (by simp)
    rw [htext, ih _ fun d hd => h d (List.mem_cons_of_mem c hd), segments_slash]

theorem exists_of_endsInSlash {p : Path} (h : p.endsInSlash = true) : ∃ s, p.text = s ++ "/" := by
  have hlast : p.text.toList.getLast? = some '/' := by simpa [endsInSlash] using h
  obtain ⟨front, hfront⟩ := List.getLast?_eq_some_iff.1 hlast
  exact ⟨String.ofList front, String.toList_inj.1 (by simpa using hfront)⟩

/-! ### A name joined at the end -/

section Join
variable (p : Path) {n : String}

theorem isAbsolute_name (h : '/' ∉ n.toList) : (⟨n⟩ : Path).isAbsolute = false := by
  rw [isAbsolute, beq_eq_false_iff_ne]
  intro he
  exact h (List.mem_of_mem_head? he)

theorem join_name (h : '/' ∉ n.toList) :
    p.join ⟨n⟩ = ⟨p.text ++ n⟩ ∧ (p.text = "" ∨ ∃ s, p.text = s ++ "/") ∨
      p.join ⟨n⟩ = ⟨p.text ++ "/" ++ n⟩ ∧ p.text ≠ "" := by
  rw [join, isAbsolute_name h]
  by_cases hempty : p.text = ""
  · exact .inl ⟨by simp [hempty], .inl hempty⟩
  · by_cases hend : p.endsInSlash = true
    · exact .inl ⟨by simp [hend], .inr (exists_of_endsInSlash hend)⟩
    · exact .inr ⟨by simp [hempty, hend], hempty⟩

theorem segments_join_relative {q : Path} (h : q.isAbsolute = false) :
    (p.join q).segments = p.segments ++ q.segments := by
  rw [join, h, if_neg Bool.false_ne_true]
  by_cases hempty : p.text = ""
  · have hp : p.segments = [] := by rw [segments, hempty]; rfl
    simp [hempty, hp]
  · by_cases hend : p.endsInSlash = true
    · obtain ⟨s, hs⟩ := exists_of_endsInSlash hend
      have hp : p.segments = (⟨s⟩ : Path).segments := by rw [← segments_slash s, ← hs]
      rw [hend, Bool.or_true, if_pos rfl, hs, segments_append, hp]
    · simp [hempty, hend, segments_append]

theorem segments_join (hne : n ≠ "") (h : '/' ∉ n.toList) :
    (p.join ⟨n⟩).segments = p.segments ++ [n] := by
  rw [p.segments_join_relative (isAbsolute_name h), segments_name hne h]

theorem isAbsolute_append {s : String} (hs : s ≠ "") (more : String) :
    (⟨s ++ more⟩ : Path).isAbsolute = (⟨s⟩ : Path).isAbsolute := by
  have hchars : s.toList ≠ [] := by simpa using hs
  obtain ⟨c, rest, hcons⟩ := List.exists_cons_of_ne_nil hchars
  simp only [isAbsolute, String.toList_append, hcons, List.cons_append, List.head?_cons]

theorem isAbsolute_join_relative {q : Path} (h : q.isAbsolute = false) :
    (p.join q).isAbsolute = p.isAbsolute := by
  rw [join, h, if_neg Bool.false_ne_true]
  by_cases hempty : p.text = ""
  · have hp : p.isAbsolute = false := by rw [isAbsolute, hempty]; rfl
    simp [hempty, hp, h]
  · by_cases hend : p.endsInSlash = true
    · simp [hend, isAbsolute_append hempty]
    · simp [hempty, hend, String.append_assoc, isAbsolute_append hempty]

theorem isAbsolute_join (h : '/' ∉ n.toList) : (p.join ⟨n⟩).isAbsolute = p.isAbsolute :=
  p.isAbsolute_join_relative (isAbsolute_name h)

theorem endsInSlash_join (hne : n ≠ "") (h : '/' ∉ n.toList) :
    (p.join ⟨n⟩).endsInSlash = false := by
  have hlast (front : List Char) : (front ++ n.toList).getLast? ≠ some '/' := by
    have hchars : n.toList ≠ [] := by simpa using hne
    rw [List.getLast?_append, List.getLast?_eq_some_getLast hchars, Option.some_or]
    intro he
    exact h (Option.some.inj he ▸ List.getLast_mem hchars)
  obtain ⟨hjoin, -⟩ | ⟨hjoin, -⟩ := p.join_name h
  · simpa [endsInSlash, hjoin] using hlast p.text.toList
  · simpa [endsInSlash, hjoin] using hlast (p.text.toList ++ ['/'])

theorem steps_join (hne : n ≠ "") (h : '/' ∉ n.toList) :
    FileSystem.steps (p.join ⟨n⟩) = p.segments ++ [n] := by
  rw [FileSystem.steps, p.endsInSlash_join hne h, p.segments_join hne h]
  rfl

theorem withSuffix_join (h : '/' ∉ n.toList) {suffix : String} (hsuffix : '/' ∉ suffix.toList) :
    (p.join ⟨n⟩).withSuffix suffix = p.join ⟨n ++ suffix⟩ := by
  have hboth : '/' ∉ (n ++ suffix).toList := by simp [h, hsuffix]
  by_cases hend : p.text = "" ∨ p.endsInSlash = true
  · simp [withSuffix, join, isAbsolute_name h, isAbsolute_name hboth, hend, String.append_assoc]
  · simp [withSuffix, join, isAbsolute_name h, isAbsolute_name hboth, hend, String.append_assoc]

theorem hasNul_join (h : '/' ∉ n.toList) (hnul : Char.ofNat 0 ∉ n.toList) :
    FileSystem.hasNul (p.join ⟨n⟩) = FileSystem.hasNul p := by
  obtain ⟨hjoin, -⟩ | ⟨hjoin, -⟩ := p.join_name h
  · simp [FileSystem.hasNul, hjoin, hnul]
  · simp [FileSystem.hasNul, hjoin, hnul]

theorem utf8ByteSize_join (h : '/' ∉ n.toList) :
    p.text.utf8ByteSize + n.utf8ByteSize ≤ (p.join ⟨n⟩).text.utf8ByteSize := by
  obtain ⟨hjoin, -⟩ | ⟨hjoin, -⟩ := p.join_name h
  · simp [hjoin]
  · simp [hjoin, Nat.add_assoc]

theorem join_name_ne_empty (hne : n ≠ "") (h : '/' ∉ n.toList) :
    (p.join ⟨n⟩).isEmpty = false := by
  obtain ⟨hjoin, -⟩ | ⟨hjoin, -⟩ := p.join_name h
  · simp [isEmpty, hjoin, hne]
  · simp [isEmpty, hjoin, hne]

end Join

/-! ### Slashes taken off the end -/

section EndSlash
variable (p : Path)

open FileSystem

theorem withoutEndSlash_cases :
    (withoutEndSlash p = p ∧ ∀ c ∈ p.text.toList, c = '/') ∨
      ∃ slashes, (∀ c ∈ slashes, c = '/') ∧
        p.text = (withoutEndSlash p).text ++ String.ofList slashes ∧
        (withoutEndSlash p).text ≠ "" ∧ (withoutEndSlash p).endsInSlash = false := by
  have hsplit : (p.text.toList.reverse.dropWhile (· = '/')).reverse ++
      (p.text.toList.reverse.takeWhile (· = '/')).reverse = p.text.toList := by
    rw [← List.reverse_append, List.takeWhile_append_dropWhile, List.reverse_reverse]
  generalize hchars : (p.text.toList.reverse.dropWhile (· = '/')).reverse = chars at hsplit
  have hslashes : ∀ c ∈ (p.text.toList.reverse.takeWhile (· = '/')).reverse, c = '/' := by
    intro c hc
    have hall := List.all_eq_true.1 (List.all_takeWhile (p := (· = '/'))) c (List.mem_reverse.1 hc)
    simpa using hall
  have hp : withoutEndSlash p = if chars.isEmpty then p else ⟨String.ofList chars⟩ := by
    rw [← hchars]
    rfl
  by_cases hempty : chars = []
  · refine .inl ⟨by rw [hp, hempty]; rfl, ?_⟩
    rw [hempty, List.nil_append] at hsplit
    rwa [hsplit] at hslashes
  · have hresult : withoutEndSlash p = ⟨String.ofList chars⟩ := by
      rw [hp, if_neg (by simpa using hempty)]
    refine .inr ⟨_, hslashes, ?_, ?_, ?_⟩
    · rw [hresult, ← String.ofList_append, hsplit, String.ofList_toList]
    · simpa [hresult] using hempty
    · rw [hresult, endsInSlash, String.toList_ofList, ← hchars, List.getLast?_reverse,
        beq_eq_false_iff_ne]
      intro he
      have hhead := List.head?_dropWhile_not (· = '/') p.text.toList.reverse
      rw [he] at hhead
      simp at hhead

theorem segments_of_slashes (h : ∀ c ∈ p.text.toList, c = '/') : p.segments = [] := by
  have hsegments := segments_slashes "" h
  rwa [String.empty_append, String.ofList_toList] at hsegments

theorem segments_withoutEndSlash : (withoutEndSlash p).segments = p.segments := by
  obtain ⟨hsame, -⟩ | ⟨slashes, hslashes, htext, -, -⟩ := p.withoutEndSlash_cases
  · rw [hsame]
  · have hsegments := segments_slashes (withoutEndSlash p).text hslashes
    rw [← htext] at hsegments
    exact hsegments.symm

theorem isAbsolute_withoutEndSlash : (withoutEndSlash p).isAbsolute = p.isAbsolute := by
  obtain ⟨hsame, -⟩ | ⟨slashes, -, htext, hne, -⟩ := p.withoutEndSlash_cases
  · rw [hsame]
  · have happend := isAbsolute_append hne (String.ofList slashes)
    rw [← htext] at happend
    exact happend.symm

theorem steps_withoutEndSlash :
    steps (withoutEndSlash p) = p.segments ∨
      p.segments = [] ∧ steps (withoutEndSlash p) = [""] := by
  obtain ⟨hsame, hslashes⟩ | ⟨-, -, -, -, hend⟩ := p.withoutEndSlash_cases
  · have hnil := p.segments_of_slashes hslashes
    rw [hsame, steps, hnil]
    split
    · exact .inr ⟨rfl, rfl⟩
    · exact .inl rfl
  · rw [steps, hend, segments_withoutEndSlash]
    exact .inl rfl

end EndSlash

/-! ### What a path lies in -/

/-- What is passed on the way, dots left out. -/
def trail (p : Path) : List String := p.segments.filter (· ≠ ".")

namespace Component

@[simp] theorem text_ofSegment (s : String) : (ofSegment s).text = s := by
  rw [ofSegment]
  split
  · next h => exact h.symm
  · split
    · next h => exact h.symm
    · rfl

theorem ofSegment_eq_here_iff {s : String} : ofSegment s = .here ↔ s = "." := by
  rw [ofSegment]
  split
  · next h => simp [h]
  · next h => split <;> simp [h]

end Component

def along (absolute : Bool) (names : List String) : Path :=
  ofComponents ((if absolute then [.root] else []) ++ names.map Component.ofSegment)

theorem components_eq (p : Path) :
    ∃ names : List String, names.Sublist p.segments ∧ names.filter (· ≠ ".") = p.trail ∧
      p.components = (if p.isAbsolute then [.root] else []) ++ names.map Component.ofSegment := by
  have hparts (segs : List String) : (segs.map Component.ofSegment).filter (· ≠ .here) =
      (segs.filter (· ≠ ".")).map Component.ofSegment := by
    rw [List.filter_map]
    congr 2
    funext s
    simp [Component.ofSegment_eq_here_iff]
  have hall : p.trail.filter (· ≠ ".") = p.trail := by simp [trail]
  cases habsolute : p.isAbsolute with
  | true =>
    refine ⟨p.trail, List.filter_sublist, hall, ?_⟩
    simpa [components, habsolute, trail] using hparts p.segments
  | false =>
    simp only [components, habsolute, Bool.false_eq_true, if_false, List.nil_append]
    split
    · next rest htext hhere =>
      -- only here a leading dot is a component
      obtain ⟨s, segs, hsegs, hs, hrest⟩ := List.map_eq_cons_iff.1 hhere
      rw [Component.ofSegment_eq_here_iff] at hs
      refine ⟨"." :: segs.filter (· ≠ "."), ?_, ?_, ?_⟩
      · rw [hsegs, hs]
        exact List.filter_sublist.cons_cons "."
      · simp [trail, hsegs, hs]
      · rw [← hrest, hparts]
        rfl
    · next hparts' =>
      exact ⟨p.trail, List.filter_sublist, hall, hparts p.segments⟩

theorem Component.ofSegment_ne_root (s : String) : ofSegment s ≠ .root := by
  rw [ofSegment]
  split
  · exact nofun
  · split <;> exact nofun

theorem trail_of_isEmpty {p : Path} (h : p.isEmpty = true) : p.trail = [] := by
  have htext : p.text = "" := by simpa [isEmpty] using h
  rw [trail, segments, htext]
  rfl

theorem trail_of_components {p : Path} (h : p.components = [.root]) : p.trail = [] := by
  obtain ⟨names, -, htrail, hcomponents⟩ := p.components_eq
  rw [← htrail]
  cases names with
  | nil => rfl
  | cons s rest =>
    rw [h] at hcomponents
    cases habsolute : p.isAbsolute with
    | true => simp [habsolute] at hcomponents
    | false =>
      rw [habsolute, if_neg Bool.false_ne_true, List.nil_append, List.map_cons,
        List.cons.injEq] at hcomponents
      exact absurd hcomponents.1.symm (Component.ofSegment_ne_root s)

/-- A path that is written with names alone. -/
theorem trail_of_names {p : Path} {names : List String} (h : p.components = names.map .name) :
    p.isAbsolute = false ∧ p.trail = names ∧ ∀ s ∈ names, s ≠ "" ∧ s ≠ "." ∧ s ≠ ".." := by
  obtain ⟨segs, hsub, htrail, hcomponents⟩ := p.components_eq
  rw [h] at hcomponents
  have hrelative : p.isAbsolute = false := by
    cases habsolute : p.isAbsolute with
    | false => rfl
    | true =>
      rw [habsolute, if_pos rfl] at hcomponents
      cases names <;> simp at hcomponents
  rw [hrelative, if_neg Bool.false_ne_true, List.nil_append] at hcomponents
  have hsame : names = segs := by
    have htexts := congrArg (List.map Component.text) hcomponents
    have hname : Component.text ∘ Component.name = id := rfl
    have hsegment : Component.text ∘ Component.ofSegment = id := funext Component.text_ofSegment
    rwa [List.map_map, List.map_map, hname, hsegment, List.map_id, List.map_id] at htexts
  subst hsame
  have hplain : ∀ s ∈ names, Component.ofSegment s = .name s := by
    intro s hs
    obtain ⟨t, -, ht⟩ := List.mem_map.1 (hcomponents ▸ List.mem_map_of_mem hs : Component.name s ∈
      names.map Component.ofSegment)
    have htext := congrArg Component.text ht
    rw [Component.text_ofSegment] at htext
    rw [← ht, show t = s from htext]
  have hdots : ∀ s ∈ names, s ≠ "" ∧ s ≠ "." ∧ s ≠ ".." := by
    intro s hs
    refine ⟨(mem_segments (hsub.subset hs)).1, ?_, ?_⟩
    · rintro rfl
      cases hplain _ hs
    · rintro rfl
      cases hplain _ hs
  refine ⟨hrelative, ?_, hdots⟩
  rw [← htrail]
  exact List.filter_eq_self.2 fun s hs => by simpa using (hdots s hs).2.1

section Along
variable {absolute : Bool} {names : List String}

theorem text_ofComponents {cs : List Component} (h : cs ≠ [.root]) :
    (ofComponents cs).text = String.intercalate "/" (cs.map Component.text) := by
  rw [ofComponents]
  exact h

theorem along_root : (along true []).text = "/" := rfl

theorem text_along (h : absolute = false ∨ names ≠ []) : (along absolute names).text =
    String.intercalate "/" ((if absolute then [""] else []) ++ names) := by
  have htexts : (names.map Component.ofSegment).map Component.text = names := by
    rw [List.map_map]
    exact (List.map_congr_left fun s _ => Component.text_ofSegment s).trans (List.map_id names)
  have hroot := Component.ofSegment_ne_root
  rw [along, text_ofComponents, List.map_append, htexts]
  · cases absolute <;> rfl
  · cases names with
    | nil =>
      have habsolute : absolute = false := h.resolve_right fun hne => hne rfl
      simp [habsolute]
    | cons s rest => cases absolute <;> simp [hroot]

theorem segments_intercalate (h : ∀ s ∈ names, s ≠ "" ∧ '/' ∉ s.toList) :
    (⟨String.intercalate "/" names⟩ : Path).segments = names := by
  induction names with
  | nil => rfl
  | cons s rest ih =>
    obtain ⟨hne, hslash⟩ := h s List.mem_cons_self
    have hrest := ih fun t ht => h t (List.mem_cons_of_mem s ht)
    by_cases hnil : rest = []
    · rw [hnil, String.intercalate_singleton, segments_name hne hslash]
    · rw [String.intercalate_cons_of_ne_nil hnil, segments_append, segments_name hne hslash, hrest]
      rfl

theorem segments_along (h : ∀ s ∈ names, s ≠ "" ∧ '/' ∉ s.toList) :
    (along absolute names).segments = names := by
  by_cases hroot : absolute = true ∧ names = []
  · obtain ⟨rfl, rfl⟩ := hroot
    rfl
  · have htext := @text_along absolute names (by
      cases absolute
      · exact .inl rfl
      · exact .inr fun hnil => hroot ⟨rfl, hnil⟩)
    have hpath : along absolute names =
        ⟨String.intercalate "/" ((if absolute then [""] else []) ++ names)⟩ := by rw [← htext]
    rw [hpath]
    cases absolute with
    | false => exact segments_intercalate h
    | true =>
      have hnames : names ≠ [] := fun hnil => hroot ⟨rfl, hnil⟩
      rw [if_pos rfl, List.singleton_append, String.intercalate_cons_of_ne_nil hnames,
        segments_append, segments_intercalate h]
      rfl

theorem isAbsolute_along (h : ∀ s ∈ names, s ≠ "" ∧ '/' ∉ s.toList) :
    (along absolute names).isAbsolute = absolute := by
  cases absolute with
  | true =>
    cases names with
    | nil => rfl
    | cons s rest =>
      rw [isAbsolute, text_along (.inr (List.cons_ne_nil s rest)), if_pos rfl,
        List.singleton_append, String.intercalate_cons_cons]
      simp
  | false =>
    cases names with
    | nil => rfl
    | cons s rest =>
      obtain ⟨hne, hslash⟩ := h s List.mem_cons_self
      have hpath : along false (s :: rest) = ⟨String.intercalate "/" (s :: rest)⟩ := by
        have htext := @text_along false (s :: rest) (.inl rfl)
        exact congrArg Path.mk htext
      rw [hpath]
      by_cases hrest : rest = []
      · rw [hrest, String.intercalate_singleton, isAbsolute_name hslash]
      · rw [String.intercalate_cons_of_ne_nil hrest, String.append_assoc, isAbsolute_append hne,
          isAbsolute_name hslash]

theorem ofNames_eq_along (names : List String) : ofNames names = along false names := by
  have htext := @text_along false names (.inl rfl)
  exact congrArg Path.mk htext.symm

/-- Whatever relative path is joined, the text before it is the same. -/
theorem join_eq_append (p : Path) :
    ∃ front : String, (front = "" ∨ (⟨front⟩ : Path).endsInSlash = true) ∧
      ∀ q : Path, q.isAbsolute = false → p.join q = ⟨front ++ q.text⟩ := by
  by_cases hend : p.text = "" ∨ p.endsInSlash = true
  · refine ⟨p.text, hend, fun q hq => ?_⟩
    rw [join, hq, if_neg Bool.false_ne_true, if_pos (by simpa using hend)]
  · refine ⟨p.text ++ "/", .inr (by simp [endsInSlash]), fun q hq => ?_⟩
    rw [join, hq, if_neg Bool.false_ne_true, if_neg (by simpa using hend)]

/-- The name at the end may be joined after the others. -/
theorem join_ofNames_concat (p : Path) {n : String}
    (h : ∀ s ∈ names ++ [n], s ≠ "" ∧ '/' ∉ s.toList) :
    p.join (ofNames (names ++ [n])) = (p.join (ofNames names)).join ⟨n⟩ := by
  have hrelative {names : List String} (h : ∀ s ∈ names, s ≠ "" ∧ '/' ∉ s.toList) :
      (ofNames names).isAbsolute = false := by
    rw [ofNames_eq_along, isAbsolute_along h]
  obtain ⟨front, hfront, hjoin⟩ := p.join_eq_append
  induction names using List.reverseRecOn generalizing n with
  | nil =>
    obtain ⟨-, hslash⟩ := h n (by simp)
    have hempty : (ofNames []).isAbsolute = false := rfl
    rw [hjoin _ (hrelative h), hjoin _ hempty, join, isAbsolute_name hslash,
      if_neg Bool.false_ne_true, if_pos (by simpa [ofNames] using hfront)]
    simp [ofNames]
  | append_singleton init m ih =>
    obtain ⟨hinit, hn⟩ := List.forall_mem_append.1 h
    obtain ⟨-, hslash⟩ := hn n (by simp)
    obtain ⟨hne, hslash'⟩ := hinit m (by simp)
    have hend : (p.join (ofNames (init ++ [m]))).endsInSlash = false := by
      rw [ih hinit, endsInSlash_join _ hne hslash']
    have hempty : (p.join (ofNames (init ++ [m]))).isEmpty = false := by
      rw [ih hinit, join_name_ne_empty _ hne hslash']
    obtain ⟨-, htext⟩ | ⟨htext, -⟩ := (p.join (ofNames (init ++ [m]))).join_name hslash
    · obtain hnone | ⟨s, hs⟩ := htext
      · simp [isEmpty, hnone] at hempty
      · simp [endsInSlash, hs] at hend
    · rw [htext, hjoin _ (hrelative h), hjoin _ (hrelative hinit), ofNames, ofNames,
        String.intercalate_append_of_ne_nil (by simp) (by simp), String.intercalate_singleton]
      simp [String.append_assoc]

theorem along_sublist {p : Path} (h : names.Sublist p.segments) :
    (along p.isAbsolute names).text.toList.Sublist p.text.toList := by
  have hpieces : (names.map String.toList).Sublist
      ((splitSlash p.text.toList).filter (!·.isEmpty)) := by
    have hmap := h.map String.toList
    rwa [segments, List.map_map, String.toList_comp_ofList, List.map_id] at hmap
  have hchars := intercalate_splitSlash p.text.toList
  cases habsolute : p.isAbsolute with
  | false =>
    rw [text_along (.inl rfl), String.toList_intercalate, ← hchars]
    exact intercalate_sublist (hpieces.trans List.filter_sublist)
  | true =>
    obtain ⟨rest, hrest⟩ : ∃ rest, p.text.toList = '/' :: rest := by
      rw [isAbsolute, beq_iff_eq] at habsolute
      exact List.head?_eq_some_iff.1 habsolute
    by_cases hnames : names = []
    · rw [hnames, along_root, hrest]
      exact (List.nil_sublist rest).cons_cons '/'
    · have hsplit : splitSlash p.text.toList = [] :: splitSlash rest := by
        rw [hrest, splitSlash, if_pos rfl]
      rw [text_along (.inr hnames), String.toList_intercalate, ← hchars, hsplit]
      refine intercalate_sublist (.cons_cons [] ?_)
      rw [hsplit, List.filter_cons_of_neg (by simp)] at hpieces
      exact hpieces.trans List.filter_sublist

end Along

/-- What a path lies in is found on the way to it. -/
theorem mem_ancestors {p q : Path} (h : q ∈ FileSystem.ancestors p) :
    q.isEmpty = false ∧ q.isAbsolute = p.isAbsolute ∧ q.trail <+: p.trail ∧
      q.text.toList.Sublist p.text.toList := by
  obtain ⟨hmem, hkept⟩ := List.mem_filter.1 h
  have hnonempty : q.isEmpty = false := by
    simp only [Bool.and_eq_true, Bool.not_eq_true'] at hkept
    exact hkept.2
  refine ⟨hnonempty, ?_⟩
  rcases List.mem_cons.1 hmem with rfl | hmem
  · exact ⟨rfl, List.prefix_rfl, .refl _⟩
  · obtain ⟨names, hsub, htrail, hcomponents⟩ := p.components_eq
    obtain ⟨k, hk, rfl⟩ := List.mem_map.1 hmem
    have hlt : k < p.components.length := by
      simpa using List.mem_of_mem_drop hk
    obtain ⟨m, hq⟩ : ∃ m, ofComponents (p.components.take (p.components.length - k)) =
        along p.isAbsolute (names.take m) := by
      obtain ⟨m, hm⟩ : ∃ m, p.components.length - k = m + 1 := ⟨_, (Nat.sub_add_cancel
        (Nat.sub_pos_of_lt hlt)).symm⟩
      rw [hm, hcomponents]
      cases p.isAbsolute with
      | true => exact ⟨m, by simp [along]⟩
      | false => exact ⟨m + 1, by simp [along]⟩
    have hnames : ∀ s ∈ names.take m, s ≠ "" ∧ '/' ∉ s.toList := fun s hs =>
      mem_segments (hsub.subset (List.mem_of_mem_take hs))
    rw [hq]
    refine ⟨isAbsolute_along hnames, ?_, along_sublist ((List.take_sublist m names).trans hsub)⟩
    rw [trail, segments_along hnames, ← htrail]
    exact (List.take_prefix m names).filter _

section Parent
variable {p parent : Path}

/-- The parent is made of all segments but the last, of which dots may be left out. -/
theorem parent?_eq_along (h : p.parent? = some parent) :
    ∃ names : List String, names.Sublist p.segments ∧ names.filter (· ≠ ".") = p.trail ∧
      parent = along p.isAbsolute names.dropLast := by
  obtain ⟨names, hsub, htrail, hcomponents⟩ := p.components_eq
  refine ⟨names, hsub, htrail, ?_⟩
  rcases List.eq_nil_or_concat names with rfl | ⟨front, last, rfl⟩
  · rw [parent?, hcomponents] at h
    cases habsolute : p.isAbsolute <;> simp [habsolute] at h
  · have hdrop : p.components.dropLast = (if p.isAbsolute then [.root] else []) ++
        front.map Component.ofSegment := by
      rw [hcomponents, List.concat_eq_append, List.map_append, ← List.append_assoc,
        List.map_singleton, List.dropLast_concat]
    rw [parent?] at h
    split at h
    · cases h
    · cases h
    · rw [Option.some.injEq] at h
      rw [← h, hdrop, List.concat_eq_append, List.dropLast_concat, along]

theorem exists_parent (h : p.trail ≠ []) : ∃ parent, p.parent? = some parent := by
  obtain ⟨names, -, htrail, hcomponents⟩ := p.components_eq
  have hnames : names ≠ [] := by
    rintro rfl
    exact h htrail.symm
  have hlast : p.components.getLast? = some (Component.ofSegment (names.getLast hnames)) := by
    rw [hcomponents, List.getLast?_append, List.getLast?_map,
      List.getLast?_eq_some_getLast hnames, Option.map_some, Option.some_or]
  rw [parent?, hlast]
  split
  · next hnone => cases hnone
  · next hroot => exact absurd (Option.some.inj hroot) (Component.ofSegment_ne_root _)
  · exact ⟨_, rfl⟩

theorem plain_of_sublist {names : List String} (h : names.Sublist p.segments) :
    ∀ s ∈ names.dropLast, s ≠ "" ∧ '/' ∉ s.toList := fun _ hs =>
  mem_segments (h.subset (List.dropLast_subset names hs))

theorem trail_parent? (h : p.parent? = some parent) :
    parent.isAbsolute = p.isAbsolute ∧ parent.trail <+: p.trail := by
  obtain ⟨names, hsub, htrail, rfl⟩ := parent?_eq_along h
  refine ⟨isAbsolute_along (plain_of_sublist hsub), ?_⟩
  rw [trail, segments_along (plain_of_sublist hsub), ← htrail]
  exact (List.dropLast_prefix names).filter _

theorem text_parent? (h : p.parent? = some parent) :
    parent.text.toList.Sublist p.text.toList := by
  obtain ⟨names, hsub, -, rfl⟩ := parent?_eq_along h
  exact along_sublist ((List.dropLast_sublist names).trans hsub)

/-- All but the name at the end is passed on the way to the parent. -/
theorem trail_parent?_of_segments {front : List String} {n : String} (hn : n ≠ ".")
    (hsegments : p.segments = front ++ [n]) (h : p.parent? = some parent) :
    parent.isAbsolute = p.isAbsolute ∧ parent.trail = front.filter (· ≠ ".") := by
  obtain ⟨names, hsub, htrail, rfl⟩ := parent?_eq_along h
  refine ⟨isAbsolute_along (plain_of_sublist hsub), ?_⟩
  rw [trail, segments_along (plain_of_sublist hsub)]
  have hlast : [n].filter (· ≠ ".") = [n] := by simp [hn]
  rw [trail, hsegments, List.filter_append, hlast] at htrail
  rcases List.eq_nil_or_concat names with rfl | ⟨init, last, rfl⟩
  · simp at htrail
  · rw [List.concat_eq_append] at htrail hsub ⊢
    rw [List.dropLast_concat]
    by_cases hdot : last = "."
    · -- then the name at the end would be missing
      rw [hsegments, List.sublist_append_iff] at hsub
      obtain ⟨xs, ys, hnames, hxs, hys⟩ := hsub
      cases hys with
      | cons _ hnil =>
        rw [List.eq_nil_of_sublist_nil hnil, List.append_nil] at hnames
        have hshorter := (hnames ▸ hxs).filter (· ≠ ".")
        rw [htrail] at hshorter
        have hlength := hshorter.length_le
        rw [List.length_append, List.length_singleton] at hlength
        omega
      | cons_cons _ hnil =>
        rw [List.eq_nil_of_sublist_nil hnil] at hnames
        have hsame := (List.append_inj' hnames rfl).2
        exact absurd hsame (by simp [hdot, hn.symm])
    · rw [List.filter_append, List.filter_cons_of_pos (by simpa using hdot)] at htrail
      exact (List.append_inj' htrail rfl).1

end Parent

end BuildPipeline.Path

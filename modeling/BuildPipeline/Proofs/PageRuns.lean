import BuildPipeline.Report.Page

/-! Pages as a reader of their characters sees them: cut into tags, each from an opening bracket to
the next closing one, and the texts between them, whose entities are undone. A page cut in this way
shows the pieces that it was written from, so that no text of a report can open a tag. -/
namespace BuildPipeline.Page

/-! ### Entities -/

/-- Undoes the five entities; any other ampersand stands for itself. -/
def unescape : List Char → List Char
  | '&' :: 'a' :: 'm' :: 'p' :: ';' :: rest => '&' :: unescape rest
  | '&' :: 'l' :: 't' :: ';' :: rest => '<' :: unescape rest
  | '&' :: 'g' :: 't' :: ';' :: rest => '>' :: unescape rest
  | '&' :: 'q' :: 'u' :: 'o' :: 't' :: ';' :: rest => '"' :: unescape rest
  | '&' :: '#' :: '3' :: '9' :: ';' :: rest => '\'' :: unescape rest
  | c :: rest => c :: unescape rest
  | [] => []

theorem unescape_cons {c : Char} (h : c ≠ '&') (rest : List Char) :
    unescape (c :: rest) = c :: unescape rest := by
  rw [unescape.eq_def]
  split
  all_goals simp_all

theorem unescape_of_notMem {text : List Char} (h : '&' ∉ text) : unescape text = text := by
  induction text with
  | nil => rfl
  | cons c rest ih =>
    have hc : c ≠ '&' := fun heq => h (heq ▸ List.mem_cons_self)
    rw [unescape_cons hc, ih fun hmem => h (List.mem_cons_of_mem c hmem)]

theorem unescape_escapeChar (c : Char) (rest : List Char) :
    unescape (escapeChar c ++ rest) = c :: unescape rest := by
  unfold escapeChar
  by_cases hamp : c = '&'
  · subst hamp
    simp [unescape]
  by_cases hlt : c = '<'
  · subst hlt
    simp [unescape]
  by_cases hgt : c = '>'
  · subst hgt
    simp [unescape]
  by_cases hquot : c = '"'
  · subst hquot
    simp [unescape]
  by_cases hapos : c = '\''
  · subst hapos
    simp [unescape]
  · simp [hamp, hlt, hgt, hquot, hapos, unescape_cons hamp]

theorem unescape_escape (s : String) : unescape (escape s) = s.toList := by
  unfold escape
  induction s.toList with
  | nil => rfl
  | cons c rest ih => rw [List.flatMap_cons, unescape_escapeChar, ih]

theorem lt_notMem_escape (s : String) : '<' ∉ escape s := by
  intro h
  obtain ⟨c, _, hc⟩ := List.mem_flatMap.1 h
  unfold escapeChar at hc
  by_cases hamp : c = '&'
  · simp [hamp] at hc
  by_cases hlt : c = '<'
  · simp [hlt] at hc
  by_cases hgt : c = '>'
  · simp [hgt] at hc
  by_cases hquot : c = '"'
  · simp [hquot] at hc
  by_cases hapos : c = '\''
  · simp [hapos] at hc
  · simp only [hamp, hlt, hgt, hquot, hapos, if_false, List.mem_singleton] at hc
    exact hlt hc.symm

/-! ### Cutting a page -/

/-- Cuts a text at `<` where no tag is open and at `>` where one is. Texts and tags come in turn. -/
def stretches (inTag : Bool) : List Char → List (List Char)
  | [] => [[]]
  | c :: rest =>
    if c = (if inTag then '>' else '<') then [] :: stretches (!inTag) rest
    else (stretches inTag rest).modifyHead (c :: ·)

structure Run where
  tag : String
  text : String
  deriving DecidableEq

def joinRuns : List (List Char) → List Run
  | tag :: text :: rest => ⟨String.ofList tag, String.ofList (unescape text)⟩ :: joinRuns rest
  | _ => []

def runs (page : String) : List Run := joinRuns (stretches false page.toList).tail

def tags (page : String) : List String := (runs page).map Run.tag

theorem stretches_text {text : List Char} (h : '<' ∉ text) (rest : List Char) :
    stretches false (text ++ rest) = (stretches false rest).modifyHead (text ++ ·) := by
  induction text with
  | nil =>
    change _ = (stretches false rest).modifyHead id
    simp
  | cons c text ih =>
    have hc : c ≠ '<' := fun heq => h (heq ▸ List.mem_cons_self)
    have htext : '<' ∉ text := fun hmem => h (List.mem_cons_of_mem c hmem)
    simp [stretches, hc, ih htext, Function.comp_def]

theorem stretches_tag {inner : List Char} (h : '>' ∉ inner) (rest : List Char) :
    stretches true (inner ++ '>' :: rest) = inner :: stretches false rest := by
  induction inner with
  | nil => simp [stretches]
  | cons c inner ih =>
    have hc : c ≠ '>' := fun heq => h (heq ▸ List.mem_cons_self)
    have hinner : '>' ∉ inner := fun hmem => h (List.mem_cons_of_mem c hmem)
    simp [stretches, hc, ih hinner]

/-! ### The pieces of a page -/

def Every (P : Piece → Prop) (pieces : List Piece) : Prop := ∀ p ∈ pieces, P p

section Every
variable {P : Piece → Prop}

@[simp] theorem every_nil : Every P [] := by simp [Every]

@[simp] theorem every_cons {p : Piece} {pieces : List Piece} :
    Every P (p :: pieces) ↔ P p ∧ Every P pieces := List.forall_mem_cons

@[simp] theorem every_append {a b : List Piece} : Every P (a ++ b) ↔ Every P a ∧ Every P b :=
  List.forall_mem_append

@[simp] theorem every_flatMap {α : Type} {f : α → List Piece} {xs : List α} :
    Every P (xs.flatMap f) ↔ ∀ x ∈ xs, Every P (f x) := by
  simp only [Every, List.mem_flatMap]
  exact ⟨fun h x hx p hp => h p ⟨x, hx, hp⟩, fun h p ⟨x, hx, hp⟩ => h x hx p hp⟩

@[simp] theorem every_element {name attributes : String} {inner : List Piece} :
    Every P (element name attributes inner) ↔
      P (.tag (name ++ attributes)) ∧ Every P inner ∧ P (.tag ("/" ++ name)) := by
  simp [element]

end Every

/-- Tags hold no closing bracket, and the page's own texts no opening one. -/
def Piece.Sound : Piece → Prop
  | .tag inner => '>' ∉ inner.toList
  | .layout t => '<' ∉ t.toList
  | .text _ => True

abbrev Sound (pieces : List Piece) : Prop := Every Piece.Sound pieces

@[simp] theorem sound_tag {inner : String} : (Piece.tag inner).Sound ↔ '>' ∉ inner.toList := .rfl

@[simp] theorem sound_layout {t : String} : (Piece.layout t).Sound ↔ '<' ∉ t.toList := .rfl

@[simp] theorem sound_text (s : String) : (Piece.text s).Sound := trivial

def lead : List Piece → List Char
  | [] => []
  | .tag _ :: _ => []
  | p :: rest => p.render ++ lead rest

/-- The text that a reader sees before the first tag. -/
def shown (pieces : List Piece) : String := String.ofList (unescape (lead pieces))

def runsOf : List Piece → List Run
  | [] => []
  | .tag inner :: rest => ⟨inner, shown rest⟩ :: runsOf rest
  | _ :: rest => runsOf rest

theorem stretches_render {pieces : List Piece} (h : Sound pieces) :
    ∃ more, stretches false (pieces.flatMap Piece.render) = lead pieces :: more ∧
      joinRuns more = runsOf pieces := by
  induction pieces with
  | nil => exact ⟨[], rfl, rfl⟩
  | cons p rest ih =>
    have hp : p.Sound := h p List.mem_cons_self
    obtain ⟨more, hrest, hmore⟩ := ih fun q hq => h q (List.mem_cons_of_mem p hq)
    -- a text goes on the lead of what follows, while a tag closes it
    have htext (hlt : '<' ∉ p.render) : stretches false ((p :: rest).flatMap Piece.render) =
        (p.render ++ lead rest) :: more := by
      rw [List.flatMap_cons, stretches_text hlt, hrest]
      rfl
    cases p with
    | tag inner =>
      refine ⟨inner.toList :: lead rest :: more, ?_, ?_⟩
      · have hcut := stretches_tag hp (rest.flatMap Piece.render)
        rw [List.flatMap_cons]
        simp [Piece.render, stretches, hcut, hrest, lead]
      · simp [joinRuns, runsOf, shown, hmore]
    | layout t => exact ⟨more, htext hp, hmore⟩
    | text s => exact ⟨more, htext (lt_notMem_escape s), hmore⟩

theorem runs_render {pieces : List Piece} (h : Sound pieces) :
    runs (render pieces) = runsOf pieces := by
  obtain ⟨more, hcut, hmore⟩ := stretches_render h
  rw [runs, render, String.toList_ofList, hcut]
  exact hmore

/-! ### Runs of composed pieces -/

theorem lead_append {a b : List Piece} (hb : lead b = []) : lead (a ++ b) = lead a := by
  induction a with
  | nil => exact hb
  | cons p rest ih =>
    cases p with
    | tag inner => rfl
    | layout t => simp [lead, ih]
    | text s => simp [lead, ih]

theorem runsOf_append {a b : List Piece} (hb : lead b = []) :
    runsOf (a ++ b) = runsOf a ++ runsOf b := by
  induction a with
  | nil => rfl
  | cons p rest ih =>
    cases p with
    | tag inner => simp [runsOf, ih, shown, lead_append hb]
    | layout t => simpa [runsOf] using ih
    | text s => simpa [runsOf] using ih

theorem runsOf_element (name attributes : String) (inner rest : List Piece) :
    runsOf (element name attributes inner ++ rest) =
      ⟨name ++ attributes, shown inner⟩ :: (runsOf inner ++ ⟨"/" ++ name, shown rest⟩ ::
        runsOf rest) := by
  have hclose : lead (.tag ("/" ++ name) :: rest) = [] := rfl
  have hinner : runsOf (inner ++ .tag ("/" ++ name) :: rest) =
      runsOf inner ++ ⟨"/" ++ name, shown rest⟩ :: runsOf rest := runsOf_append hclose
  simp [element, runsOf, hinner, shown, lead_append hclose]

@[simp] theorem shown_text (s : String) : shown [.text s] = s := by
  simp [shown, lead, Piece.render, unescape_escape]

theorem shown_layout {t : String} (h : '&' ∉ t.toList) : shown [.layout t] = t := by
  simp [shown, lead, Piece.render, unescape_of_notMem h]

def Piece.Avoids (names : List String) : Piece → Prop
  | .tag inner => inner ∉ names
  | _ => True

abbrev Without (names : List String) (pieces : List Piece) : Prop :=
  Every (Piece.Avoids names) pieces

section Without
variable {names : List String}

@[simp] theorem avoids_tag {inner : String} : (Piece.tag inner).Avoids names ↔ inner ∉ names := .rfl

@[simp] theorem avoids_layout (t : String) : (Piece.layout t).Avoids names := trivial

@[simp] theorem avoids_text (s : String) : (Piece.text s).Avoids names := trivial

theorem Without.mono {fewer : List String} {pieces : List Piece} (h : Without names pieces)
    (hsub : fewer ⊆ names) : Without fewer pieces := by
  intro p hp
  have hnames := h p hp
  cases p with
  | tag inner => exact fun hmem => hnames (hsub hmem)
  | layout t => trivial
  | text s => trivial

theorem Without.tag_notMem {pieces : List Piece} (h : Without names pieces) :
    ∀ r ∈ runsOf pieces, r.tag ∉ names := by
  induction pieces with
  | nil => simp [runsOf]
  | cons p rest ih =>
    obtain ⟨hp, hrest⟩ := every_cons.1 h
    cases p with
    | tag inner => exact List.forall_mem_cons.2 ⟨hp, ih hrest⟩
    | layout t => exact ih hrest
    | text s => exact ih hrest

end Without
end BuildPipeline.Page

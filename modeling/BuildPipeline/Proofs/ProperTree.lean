import BuildPipeline.Proofs.TidyTree
import Mathlib.Data.List.Nodup

/-! Trees with proper names, in which there may be links. What stands at every place says all about
such a tree but the order in which entries are listed; so it does about its leaves. -/
namespace BuildPipeline.Node

open FileSystem

/-- In every folder names of its own that a path can give. -/
inductive Proper : Node → Prop
  | file (content : ByteArray) (runnable : Bool) : Proper (.file content runnable)
  | device (d : Device) : Proper (.device d)
  | link (target : String) : Proper (.link target)
  | folder {es : List (String × Node)} (distinct : (es.map Prod.fst).Nodup)
    (named : ∀ e ∈ es, IsFileName e.1) (inner : ∀ e ∈ es, Proper e.2) : Proper (.folder es)

theorem hereditary_proper : Hereditary Proper := by
  refine fun es => ⟨fun h => ?_, fun h => .folder h.1 h.2.1 h.2.2⟩
  cases h with
  | folder distinct named inner => exact ⟨distinct, named, inner⟩

theorem proper_empty : Proper (.folder []) :=
  .folder List.nodup_nil (List.forall_mem_nil _) (List.forall_mem_nil _)

theorem Tidy.proper {n : Node} (h : n.Tidy) : n.Proper := by
  induction h with
  | file content runnable => exact .file content runnable
  | device d => exact .device d
  | folder distinct named _ ih => exact .folder distinct named ih

def LinkFree (root : Node) (place : List String) : Prop :=
  ∀ names target, root.get? (place ++ names) ≠ some (.link target)

theorem LinkFree.below {root : Node} {place : List String} (h : root.LinkFree place)
    (names : List String) : root.LinkFree (place ++ names) := by
  intro more target
  rw [List.append_assoc]
  exact h (names ++ more) target

theorem Tidy.linkFree {root : Node} (h : root.Tidy) (place : List String) : root.LinkFree place :=
  fun names => h.ne_link (place ++ names)

theorem find?_of_mem {es : List (String × Node)} (h : (es.map Prod.fst).Nodup)
    {e : String × Node} (he : e ∈ es) : find? e.1 es = some e.2 := by
  induction es with
  | nil => simp at he
  | cons first rest ih =>
    obtain ⟨key, m⟩ := first
    rw [List.map_cons, List.nodup_cons] at h
    rw [find?_cons]
    obtain rfl | he := List.mem_cons.1 he
    · exact if_pos rfl
    · have hne : e.1 ≠ key := fun heq => h.1 (List.mem_map.2 ⟨e, he, heq⟩)
      rw [if_neg hne]
      exact ih h.2 he

/-! ### What is seen at a place -/

section Surface
variable {root n : Node} {names more : List String}

theorem surface_of_get? (h : root.get? names = some n) : root.surface names = some n.bare := by
  rw [surface, h, Option.map_some]

theorem surface_eq_none : root.surface names = none ↔ root.get? names = none := by
  rw [surface, Option.map_eq_none_iff]

theorem get?_of_surface (h : root.surface names = some n) (hn : n.isFolder = false) :
    root.get? names = some n := by
  rw [surface] at h
  obtain ⟨m, hm, hbare⟩ := Option.map_eq_some_iff.1 h
  cases m with
  | folder es => simp [← hbare, bare, isFolder] at hn
  | _ => rwa [← hbare]

/-- Places that look the same are the same, but for what is in a folder. -/
theorem surface_eq_cases {root' : Node} (h : root'.surface names = root.surface names) :
    root'.get? names = root.get? names ∨
      ∃ es es', root.get? names = some (.folder es) ∧ root'.get? names = some (.folder es') := by
  cases hget : root.get? names with
  | none => exact .inl (surface_eq_none.1 (h.trans (surface_eq_none.2 hget)))
  | some n =>
    rw [surface_of_get? hget] at h
    cases n with
    | folder es =>
      obtain ⟨m, hm, hbare⟩ := Option.map_eq_some_iff.1 h
      cases m with
      | folder es' => exact .inr ⟨es, es', rfl, hm⟩
      | _ => simp [bare] at hbare
    | _ => exact .inl (get?_of_surface h rfl)

theorem isFolderAt_iff : root.IsFolderAt names ↔ root.surface names = some (.folder []) := by
  constructor
  · rintro ⟨es, hes⟩
    exact surface_of_get? hes
  · intro h
    rw [surface] at h
    obtain ⟨m, hm, hbare⟩ := Option.map_eq_some_iff.1 h
    cases m with
    | folder es => exact ⟨es, hm⟩
    | _ => simp [bare] at hbare

theorem isFolder_bare (n : Node) : n.bare.isFolder = n.isFolder := by
  cases n <;> rfl

theorem bare_of_not_isFolder (h : n.isFolder = false) : n.bare = n := by
  cases n with
  | folder es => simp [isFolder] at h
  | _ => rfl

theorem isFolder_of_isLeaf (h : n.IsLeaf = true) : n.isFolder = false := by
  cases n with
  | folder es => simp [IsLeaf] at h
  | _ => rfl

theorem isFolder_of_isFile (h : n.isFile = true) : n.isFolder = false := by
  cases n with
  | folder es => simp [isFile] at h
  | _ => rfl

theorem surface_append (h : root.get? names = some n) :
    root.surface (names ++ more) = n.surface more := by
  rw [surface, get?_append, h, Option.bind_some, surface]

/-- Something stands only in folders. -/
theorem isFolderAt_of_get? (h : root.get? (names ++ more) = some n) (hmore : more ≠ []) :
    root.IsFolderAt names := by
  obtain ⟨name, rest, rfl⟩ := List.exists_cons_of_ne_nil hmore
  rw [get?_append] at h
  obtain ⟨m, hm, hrest⟩ := Option.bind_eq_some_iff.1 h
  obtain ⟨es, -, rfl, -⟩ := exists_folder_of_get?_cons hrest
  exact ⟨es, hm⟩

theorem surface_set_file {content : ByteArray} {runnable : Bool} (h : ¬ root.IsFolderAt names)
    (other : List String) :
    (root.set names (.file content runnable)).surface other = root.surface other ∨
      other = names ∧ (root.set names (.file content runnable)).surface other =
        some (.file content runnable) := by
  refine surface_set_childless (fun more hmore => ?_) fun more hmore => ?_
  · exact Option.eq_none_iff_forall_ne_some.2 fun m hm => h (isFolderAt_of_get? hm hmore)
  · cases more with
    | nil => exact absurd rfl hmore
    | cons name rest => simp [get?]

end Surface

/-! ### Leaves -/

mutual
/-- Everything but folders at and below a node, as far as the folders on the way are entered. -/
def leaves (enters : List String → Bool) (rel : List String) : Node → List (List String × Node)
  | .folder es => if enters rel then leafEntries enters rel es else []
  | n => [(rel, n)]

def leafEntries (enters : List String → Bool) (rel : List String) :
    List (String × Node) → List (List String × Node)
  | [] => []
  | e :: rest => leaves enters (rel ++ [e.1]) e.2 ++ leafEntries enters rel rest
end

section Leaves
variable {enters : List String → Bool} {rel path : List String} {n m : Node}
  {es : List (String × Node)}

theorem leafEntries_eq_flatMap :
    leafEntries enters rel es = es.flatMap fun e => leaves enters (rel ++ [e.1]) e.2 := by
  induction es with
  | nil => simp [leafEntries]
  | cons e rest ih => simp [leafEntries, ih]

theorem leaves_of_not_isFolder (h : n.isFolder = false) : leaves enters rel n = [(rel, n)] := by
  cases n with
  | folder es => simp [isFolder] at h
  | _ => simp [leaves]

theorem prefix_of_mem_leaves (h : n.Proper) (hmem : (path, m) ∈ leaves enters rel n) :
    rel <+: path := by
  induction h generalizing rel with
  | folder _ _ _ ih =>
    rw [leaves] at hmem
    split at hmem
    · rw [leafEntries_eq_flatMap] at hmem
      obtain ⟨e, he, hmem⟩ := List.mem_flatMap.1 hmem
      exact (List.prefix_append rel [e.1]).trans (ih e he hmem)
    · simp at hmem
  | _ => simp_all [leaves]

/-- A leaf is found by names that lead to it through folders that are entered. -/
theorem mem_leaves (h : n.Proper) : (path, m) ∈ leaves enters rel n ↔
    m.isFolder = false ∧ ∃ more, path = rel ++ more ∧ n.get? more = some m ∧
      ∀ front, front <+: more → front ≠ more → enters (rel ++ front) = true := by
  have hleaf {n : Node} {rel : List String} (hn : n.isFolder = false) :
      (path, m) ∈ leaves enters rel n ↔
        m.isFolder = false ∧ ∃ more, path = rel ++ more ∧ n.get? more = some m ∧
          ∀ front, front <+: more → front ≠ more → enters (rel ++ front) = true := by
    rw [leaves_of_not_isFolder hn, List.mem_singleton, Prod.mk.injEq]
    constructor
    · rintro ⟨rfl, rfl⟩
      refine ⟨hn, [], by simp, by rw [get?], fun front hfront hne => ?_⟩
      exact absurd (List.prefix_nil.1 hfront) hne
    · rintro ⟨-, more, rfl, hget, -⟩
      cases more with
      | nil =>
        rw [get?, Option.some.injEq] at hget
        exact ⟨List.append_nil rel, hget.symm⟩
      | cons name rest =>
        obtain ⟨es, -, rfl, -⟩ := exists_folder_of_get?_cons hget
        simp [isFolder] at hn
  induction h generalizing rel with
  | file content runnable => exact hleaf rfl
  | device d => exact hleaf rfl
  | link target => exact hleaf rfl
  | @folder es distinct named inner ih =>
    cases henter : enters rel with
    | false =>
      rw [leaves, henter]
      simp only [Bool.false_eq_true, if_false, List.not_mem_nil, false_iff]
      rintro ⟨hm, more, -, hget, hway⟩
      cases more with
      | nil =>
        rw [get?, Option.some.injEq] at hget
        simp [← hget, isFolder] at hm
      | cons name rest =>
        have hhere := hway [] List.nil_prefix (List.cons_ne_nil name rest).symm
        rw [List.append_nil, henter] at hhere
        cases hhere
    | true =>
      rw [leaves, henter, if_pos rfl, leafEntries_eq_flatMap, List.mem_flatMap]
      constructor
      · rintro ⟨e, he, hmem⟩
        obtain ⟨hm, more, rfl, hget, hway⟩ := (ih e he).1 hmem
        refine ⟨hm, e.1 :: more, by simp, ?_, fun front hfront hne => ?_⟩
        · rw [get?_folder_cons, find?_of_mem distinct he, Option.bind_some, hget]
        · cases front with
          | nil => rwa [List.append_nil]
          | cons name rest =>
            obtain ⟨rfl, hrest⟩ := List.cons_prefix_cons.1 hfront
            have hinner := hway rest hrest fun heq => hne (heq ▸ rfl)
            rwa [List.append_assoc, List.singleton_append] at hinner
      · rintro ⟨hm, more, rfl, hget, hway⟩
        cases more with
        | nil =>
          rw [get?, Option.some.injEq] at hget
          simp [← hget, isFolder] at hm
        | cons name rest =>
          rw [get?_folder_cons] at hget
          obtain ⟨c, hc, hrest⟩ := Option.bind_eq_some_iff.1 hget
          refine ⟨(name, c), mem_of_find? hc, (ih _ (mem_of_find? hc)).2
            ⟨hm, rest, by simp, hrest, fun front hfront hne => ?_⟩⟩
          have hinner := hway (name :: front) (List.cons_prefix_cons.2 ⟨rfl, hfront⟩)
            fun heq => hne (List.cons.inj heq).2
          rwa [List.append_assoc, List.singleton_append]

theorem nodup_leaves (h : n.Proper) : ((leaves enters rel n).map Prod.fst).Nodup := by
  induction h generalizing rel with
  | @folder es distinct named inner ih =>
    rw [leaves]
    split
    · rw [leafEntries_eq_flatMap, List.map_flatMap, List.nodup_flatMap]
      refine ⟨fun e he => ih e he, ?_⟩
      rw [List.Nodup, List.pairwise_map] at distinct
      refine distinct.imp_of_mem fun {a b} ha hb hne => ?_
      rw [Function.onFun_apply, List.disjoint_left]
      intro path hpatha hpathb
      obtain ⟨⟨_, x⟩, hx, rfl⟩ := List.mem_map.1 hpatha
      obtain ⟨⟨_, y⟩, hy, hsame⟩ := List.mem_map.1 hpathb
      obtain ⟨front, hfront⟩ := prefix_of_mem_leaves (inner a ha) hx
      obtain ⟨front', hfront'⟩ := prefix_of_mem_leaves (inner b hb) hy
      simp only at hsame
      rw [hsame, ← hfront, List.append_assoc, List.append_assoc, List.append_cancel_left_eq,
        List.singleton_append, List.singleton_append, List.cons.injEq] at hfront'
      exact hne hfront'.1.symm
    · simp
  | _ => simp [leaves]

end Leaves

end BuildPipeline.Node

import BuildPipeline.Proofs.JsonRecords

/-! Documents from which members were taken out, whatever they hold, and what readers of records
then find: nothing under a name that was taken out, the pruned value under every other. -/
namespace BuildPipeline

namespace SortedMap
variable {α β : Type}

/-- The same keys with other values. -/
def mapValues (f : String → α → β) (m : SortedMap α) : SortedMap β :=
  ⟨m.entries.map fun e => (e.1, f e.1 e.2), List.pairwise_map.2 m.sorted⟩

theorem keys_mapValues (f : String → α → β) (m : SortedMap α) : (m.mapValues f).keys = m.keys := by
  rw [keys, keys, mapValues, List.map_map]
  rfl

theorem mapValues_eq_self {f : String → α → α} {m : SortedMap α}
    (h : ∀ e ∈ m.entries, f e.1 e.2 = e.2) : m.mapValues f = m := by
  have hentry : ∀ e ∈ m.entries, (e.1, f e.1 e.2) = e := fun e he => by rw [h e he]
  have hentries : m.entries.map (fun e => (e.1, f e.1 e.2)) = m.entries :=
    (List.map_congr_left hentry).trans (List.map_id _)
  cases m
  simp only [mapValues, hentries]

end SortedMap

namespace Json

/-- The members to leave out, each named by the keys that lead to it. -/
abbrev Cut := List String → Bool

namespace Cut
variable {α : Type}

/-- What is left out inside the member of this key. -/
def below (o : Cut) (key : String) : Cut := fun path => o (key :: path)

/-- What a field holds after the cut: if it was left out, what stands for it otherwise. -/
def keep (o : Cut) (key : String) (otherwise given : α) : α := if o [key] then otherwise else given

end Cut

mutual
/-- The document without the members that are left out. -/
def prune (o : Cut) : Json → Json
  | .object members => .object (pruneMembers o members)
  | j => j

def pruneMembers (o : Cut) : List (String × Json) → List (String × Json)
  | [] => []
  | m :: rest =>
    if o [m.1] then pruneMembers o rest
    else (m.1, prune (o.below m.1) m.2) :: pruneMembers o rest
end

theorem mem_pruneMembers {o : Cut} {members : List (String × Json)} {m : String × Json}
    (h : m ∈ pruneMembers o members) :
    o [m.1] = false ∧ ∃ j, (m.1, j) ∈ members ∧ m.2 = prune (o.below m.1) j := by
  induction members with
  | nil => simp [pruneMembers] at h
  | cons a rest ih =>
    rw [pruneMembers] at h
    split at h
    · obtain ⟨hkept, j, hj, hm⟩ := ih h
      exact ⟨hkept, j, List.mem_cons_of_mem a hj, hm⟩
    · next hkept =>
      rcases List.mem_cons.1 h with rfl | h
      · exact ⟨by simpa using hkept, a.2, List.mem_cons_self, rfl⟩
      · obtain ⟨hkept, j, hj, hm⟩ := ih h
        exact ⟨hkept, j, List.mem_cons_of_mem a hj, hm⟩

theorem keys_pruneMembers (o : Cut) (members : List (String × Json)) :
    ((pruneMembers o members).map (·.1)).Sublist (members.map (·.1)) := by
  induction members with
  | nil => exact .refl _
  | cons m rest ih =>
    rw [pruneMembers, List.map_cons]
    split
    · exact ih.cons m.1
    · exact ih.cons_cons m.1

theorem lookup_pruneMembers (o : Cut) (members : List (String × Json)) (name : String) :
    (pruneMembers o members).lookup name =
      if o [name] then none else (members.lookup name).map (prune (o.below name)) := by
  induction members with
  | nil => simp [pruneMembers]
  | cons m rest ih =>
    obtain ⟨key, j⟩ := m
    by_cases hname : name = key
    · subst hname
      by_cases ho : o [name] = true
      · rw [pruneMembers, if_pos ho, ih, if_pos ho, if_pos ho]
      · rw [pruneMembers, if_neg ho, if_neg ho, List.lookup_cons_self, List.lookup_cons_self]
        rfl
    · have hne : (name == key) = false := beq_false_of_ne hname
      by_cases ho : o [key] = true
      · rw [pruneMembers, if_pos ho, ih, List.lookup_cons, hne]
      · rw [pruneMembers, if_neg ho, List.lookup_cons, List.lookup_cons, hne]
        exact ih

/-! ### Records -/

theorem fields?_prune {names : List String} {members : List (String × Json)} (o : Cut)
    (hsub : (members.map (·.1)).Sublist names) (hnodup : names.Nodup) :
    fields? names (prune o (.object members)) = some ⟨pruneMembers o members, false⟩ := by
  rw [prune]
  exact fields?_object ((keys_pruneMembers o members).trans hsub) hnodup

section Fields
variable {α : Type} (o : Cut) (members : List (String × Json)) (name : String) (read : Reader α)

theorem required_pruneMembers (h : o [name] = false) :
    Fields.required ⟨pruneMembers o members, false⟩ name read =
      Fields.required ⟨members, false⟩ name fun j => read (prune (o.below name) j) := by
  simp only [Fields.required, Fields.get?, lookup_pruneMembers, h, Bool.false_eq_true, if_false,
    Option.bind_map]
  rfl

theorem default_pruneMembers (otherwise : α) :
    Fields.default ⟨pruneMembers o members, false⟩ name read otherwise =
      if o [name] then some otherwise
      else Fields.default ⟨members, false⟩ name (fun j => read (prune (o.below name) j))
        otherwise := by
  rw [Fields.default, Fields.default, Fields.get?, Fields.get?, lookup_pruneMembers]
  by_cases ho : o [name] = true
  · rw [if_pos ho, if_pos ho]
  · rw [if_neg ho, if_neg ho]
    cases members.lookup name <;> rfl

theorem some_keep (otherwise given : α) :
    (if o [name] then some otherwise else some given) = some (o.keep name otherwise given) := by
  rw [Cut.keep]
  split <;> rfl

end Fields

/-! ### Values -/

theorem prune_of_members? {j : Json} (h : j.members? = none) (o : Cut) : prune o j = j := by
  cases j with
  | object members => cases h
  | _ => rw [prune]; exact nofun

section Values
variable (o : Cut)

@[simp] theorem prune_string (s : String) : prune o (.string s) = .string s :=
  prune_of_members? rfl o

@[simp] theorem prune_bool (b : Bool) : prune o (.bool b) = .bool b :=
  prune_of_members? rfl o

@[simp] theorem prune_double (x : Float) : prune o (.double x) = .double x :=
  prune_of_members? rfl o

@[simp] theorem prune_ofCount (c : Count) : prune o (ofCount c) = ofCount c :=
  prune_of_members? rfl o

@[simp] theorem prune_ofTexts (texts : List String) : prune o (ofTexts texts) = ofTexts texts :=
  prune_of_members? rfl o

@[simp] theorem prune_ofTextOption (a : Option String) :
    prune o (ofOption .string a) = ofOption .string a := by
  cases a <;> exact prune_of_members? rfl o

end Values

/-- A map of which no key is left out keeps its keys; inside its values members may be missing. -/
theorem prune_ofMap {α : Type} (o : Cut) (encode : α → Json) (m : SortedMap α)
    (h : ∀ key, o [key] = false) :
    prune o (ofMap encode m) =
      .object (m.entries.map fun e => (e.1, prune (o.below e.1) (encode e.2))) := by
  have hmembers (es : List (String × α)) :
      pruneMembers o (es.map fun e => (e.1, encode e.2)) =
        es.map fun e => (e.1, prune (o.below e.1) (encode e.2)) := by
    induction es with
    | nil => rfl
    | cons e rest ih => simp [pruneMembers, h, ih]
  rw [ofMap, prune, hmembers]

theorem map_prune {α : Type} {o : Cut} {encode : α → Json} {read : Reader α} {m : SortedMap α}
    {f : String → α → α} (hkeys : ∀ key, o [key] = false)
    (h : ∀ e ∈ m.entries, read (prune (o.below e.1) (encode e.2)) = some (f e.1 e.2)) :
    Reader.map read (prune o (ofMap encode m)) = some (m.mapValues f) := by
  have hentries : (m.entries.map fun e => (e.1, prune (o.below e.1) (encode e.2))).mapM
      (fun e => (read e.2).map fun v => (e.1, v)) = some (m.mapValues f).entries :=
    mapM_map_eq_map fun e he => by rw [h e he]; rfl
  rw [prune_ofMap o encode m hkeys, Reader.map, hentries, Option.map_some, SortedMap.ofList_entries]

@[simp] theorem prune_ofTextMap (o : Cut) (m : SortedMap String) (h : ∀ key, o [key] = false) :
    prune o (ofMap .string m) = ofMap .string m := by
  rw [prune_ofMap o .string m h, ofMap]
  simp only [prune_string]

theorem printable_prune {j : Json} (h : Printable j) (o : Cut) : Printable (prune o j) := by
  induction h generalizing o with
  | @object members _ ih =>
    rw [prune]
    refine .object fun m hm => ?_
    obtain ⟨-, j, hj, hvalue⟩ := mem_pruneMembers hm
    rw [hvalue]
    exact ih (m.1, j) hj (o.below m.1)
  | null => rw [prune_of_members? rfl]; exact .null
  | bool b => rw [prune_of_members? rfl]; exact .bool b
  | integer h => rw [prune_of_members? rfl]; exact .integer h
  | double hfinite h => rw [prune_of_members? rfl]; exact .double hfinite h
  | string s => rw [prune_of_members? rfl]; exact .string s
  | array h => rw [prune_of_members? rfl]; exact .array h

mutual
/-- Nothing left out, the document stays as it is. -/
theorem prune_nothing (j : Json) : prune (fun _ => false) j = j := by
  cases j with
  | object members => rw [prune, pruneMembers_nothing members]
  | _ => exact prune_of_members? rfl _

theorem pruneMembers_nothing (members : List (String × Json)) :
    pruneMembers (fun _ => false) members = members := by
  match members with
  | [] => rfl
  | m :: rest =>
    have hm : prune (Cut.below (fun _ => false) m.1) m.2 = m.2 := prune_nothing m.2
    rw [pruneMembers, hm, pruneMembers_nothing rest]
    rfl
end

end Json
end BuildPipeline

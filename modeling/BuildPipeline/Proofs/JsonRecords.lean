import BuildPipeline.Proofs.JsonRoundTrip
import BuildPipeline.Report.Codec

/-! Values of records in documents: readers that take what writers give, and values that are written
without loss. -/
namespace BuildPipeline

open Json

namespace SortedMap
variable {α : Type}

theorem place_of_forall_lt {key : String} {value : α} {es : List (String × α)}
    (h : ∀ e ∈ es, e.1 < key) : place key value es = es ++ [(key, value)] := by
  induction es with
  | nil => rfl
  | cons e rest ih =>
    have he : e.1 < key := h e List.mem_cons_self
    have hrest := ih fun d hd => h d (List.mem_cons_of_mem e hd)
    have hne : key ≠ e.1 := fun heq => String.lt_irrefl _ (heq ▸ he)
    rw [place, if_neg (String.lt_asymm he), if_neg hne, hrest, List.cons_append]

theorem entries_insertAll {m : SortedMap α} {es : List (String × α)}
    (h : (m.entries ++ es).Pairwise fun a b => a.1 < b.1) :
    (m.insertAll es).entries = m.entries ++ es := by
  induction es generalizing m with
  | nil => exact (List.append_nil _).symm
  | cons e rest ih =>
    have hlt : ∀ d ∈ m.entries, d.1 < e.1 := fun d hd =>
      (List.pairwise_append.1 h).2.2 d hd e List.mem_cons_self
    have hentries : (m.insert e.1 e.2).entries = m.entries ++ [e] := place_of_forall_lt hlt
    have hrest : (m.insert e.1 e.2).insertAll rest = m.insertAll (e :: rest) := rfl
    rw [← hrest, ih, hentries, List.append_assoc, List.singleton_append]
    rwa [hentries, List.append_assoc]

theorem ofList_entries (m : SortedMap α) : ofList m.entries = m := by
  have hentries : (insertAll empty m.entries).entries = m.entries := entries_insertAll m.sorted
  have hext {a b : SortedMap α} (h : a.entries = b.entries) : a = b := by
    cases a
    cases b
    cases h
    rfl
  exact hext hentries

end SortedMap

namespace Json

/-! ### Values -/

@[simp] theorem text_string (s : String) : Reader.text (.string s) = some s := rfl

@[simp] theorem flag_bool (b : Bool) : Reader.flag (.bool b) = some b := rfl

@[simp] theorem number_double (x : Float) : Reader.number (.double x) = some x := rfl

@[simp] theorem count_ofCount (c : Count) : Reader.count (ofCount c) = some c := by
  have hbound : c.toNat < Count.bound := c.toNat_lt
  change Count.ofNat? c.toNat = some c
  rw [Count.ofNat?, if_pos hbound, UInt64.ofNat_toNat]

@[simp] theorem int32_ofInt32 (n : Int32) : Reader.int32 (ofInt32 n) = some n := by
  have hrange : -0x80000000 ≤ n.toInt ∧ n.toInt < 0x80000000 := ⟨n.le_toInt, n.toInt_lt⟩
  rw [ofInt32, Reader.int32, if_pos hrange, Int32.ofInt_toInt]

@[simp] theorem list_ofTexts (texts : List String) :
    Reader.list Reader.text (ofTexts texts) = some texts :=
  mapM_map fun _ _ => rfl

@[simp] theorem nullable_ofTextOption (a : Option String) :
    Reader.nullable Reader.text (ofOption .string a) = some a := by
  cases a <;> rfl

theorem map_ofMap {α : Type} {encode : α → Json} {read : Reader α} {m : SortedMap α}
    (h : ∀ e ∈ m.entries, read (encode e.2) = some e.2) :
    Reader.map read (ofMap encode m) = some m := by
  have hentries : (m.entries.map fun e => (e.1, encode e.2)).mapM
      (fun e => (read e.2).map fun v => (e.1, v)) = some m.entries :=
    mapM_map fun e he => by rw [h e he]; rfl
  rw [ofMap, Reader.map, hentries, Option.map_some, SortedMap.ofList_entries]

@[simp] theorem map_ofTextMap (m : SortedMap String) :
    Reader.map Reader.text (ofMap .string m) = some m :=
  map_ofMap fun _ _ => rfl

theorem fields?_object {names : List String} {members : List (String × Json)}
    (hsub : (members.map (·.1)).Sublist names) (hnodup : names.Nodup) :
    fields? names (.object members) = some ⟨members, false⟩ := by
  have hknown : members.filter (fun m => names.contains m.1) = members := by
    refine List.filter_eq_self.2 fun m hm => ?_
    exact List.contains_iff_mem.2 (hsub.subset (List.mem_map_of_mem hm))
  rw [fields?, hknown, if_pos (hsub.nodup hnodup)]

section Fields
variable {α : Type} (name key : String) (j : Json) (rest : List (String × Json)) (positional : Bool)

theorem get?_cons : Fields.get? ⟨(key, j) :: rest, positional⟩ name =
    if name = key then some j else Fields.get? ⟨rest, positional⟩ name := by
  by_cases h : name = key
  · simp [Fields.get?, h]
  · simp [Fields.get?, List.lookup_cons, h, beq_false_of_ne h]

@[simp] theorem required_cons (read : Reader α) :
    Fields.required ⟨(key, j) :: rest, positional⟩ name read =
      if name = key then read j else Fields.required ⟨rest, positional⟩ name read := by
  by_cases h : name = key <;> simp [Fields.required, get?_cons, h]

@[simp] theorem optional_cons (read : Reader (Option α)) :
    Fields.optional ⟨(key, j) :: rest, positional⟩ name read =
      if name = key then read j else Fields.optional ⟨rest, positional⟩ name read := by
  by_cases h : name = key <;> simp [Fields.optional, get?_cons, h]

@[simp] theorem default_cons (read : Reader α) (otherwise : α) :
    Fields.default ⟨(key, j) :: rest, positional⟩ name read otherwise =
      if name = key then read j else Fields.default ⟨rest, positional⟩ name read otherwise := by
  by_cases h : name = key <;> simp [Fields.default, get?_cons, h]

@[simp] theorem default_nil (read : Reader α) (otherwise : α) :
    Fields.default ⟨[], positional⟩ name read otherwise = some otherwise := rfl

end Fields

/-! ### Values without loss -/

@[simp] theorem printable_string (s : String) : Printable (.string s) := .string s

@[simp] theorem printable_bool (b : Bool) : Printable (.bool b) := .bool b

@[simp] theorem printable_object {members : List (String × Json)} :
    Printable (.object members) ↔ ∀ m ∈ members, Printable m.2 :=
  ⟨fun h => by cases h; assumption, .object⟩

theorem printable_array {items : List Json} :
    Printable (.array items) ↔ ∀ j ∈ items, Printable j :=
  ⟨fun h => by cases h; assumption, .array⟩

@[simp] theorem printable_ofCount (c : Count) : Printable (ofCount c) := by
  have hbound : c.toNat < 0x10000000000000000 := c.toNat_lt
  exact .integer ⟨by omega, by omega⟩

@[simp] theorem printable_ofInt32 (n : Int32) : Printable (ofInt32 n) := by
  have hlow := n.le_toInt
  have hhigh := n.toInt_lt
  exact .integer ⟨by omega, by omega⟩

@[simp] theorem printable_ofTexts (texts : List String) : Printable (ofTexts texts) :=
  printable_array.2 (List.forall_mem_map.2 fun s _ => .string s)

theorem printable_ofOption {α : Type} {encode : α → Json} {a : Option α} :
    Printable (ofOption encode a) ↔ ∀ x ∈ a, Printable (encode x) := by
  cases a with
  | none => simp [ofOption, Printable.null]
  | some x => simp [ofOption]

theorem printable_ofMap {α : Type} {encode : α → Json} {m : SortedMap α} :
    Printable (ofMap encode m) ↔ ∀ e ∈ m.entries, Printable (encode e.2) := by
  rw [ofMap, printable_object, List.forall_mem_map]

@[simp] theorem printable_ofTextOption (a : Option String) : Printable (ofOption .string a) :=
  printable_ofOption.2 fun s _ => .string s

@[simp] theorem printable_ofTextMap (m : SortedMap String) : Printable (ofMap .string m) :=
  printable_ofMap.2 fun e _ => .string e.2

/-! ### Values that are kept -/

theorem keepableItems_iff {levels : Nat} {items : List Json} :
    keepableItems levels items = true ↔ ∀ j ∈ items, keepable levels j = true := by
  induction items with
  | nil => simp [keepableItems]
  | cons j rest ih => simp [keepableItems, ih]

theorem keepableMembers_iff {levels : Nat} {members : List (String × Json)} :
    keepableMembers levels members = true ↔ ∀ m ∈ members, keepable levels m.2 = true := by
  induction members with
  | nil => simp [keepableMembers]
  | cons m rest ih => simp [keepableMembers, ih]

end Json

end BuildPipeline

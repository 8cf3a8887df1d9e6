import BuildPipeline.Proofs.PathText
import BuildPipeline.Proofs.Relisting
import BuildPipeline.Step.Artifacts
import Mathlib.Data.String.Basic

/-! What is told of the files in a folder: each of them once, in the order of the bytes of their
names, and the sum of their sizes. -/
namespace BuildPipeline

/-! ### The order of bytes -/

/-- One text comes before another by its bytes. -/
def BytesBefore (s t : String) : Prop := s.toUTF8.data.toList < t.toUTF8.data.toList

/-- The encoding of characters keeps their order. -/
theorem encode_before {c d : Char} (h : c < d) (cs ds : List UInt8) :
    String.utf8EncodeChar c ++ cs < String.utf8EncodeChar d ++ ds := by
  have hless : c.val.toNat < d.val.toNat := h
  have hbound : d.val.toNat < 0x110000 := by
    have hvalid := d.valid
    simp only [UInt32.isValidChar, Nat.isValidChar] at hvalid
    omega
  have hbyte {n : Nat} (hn : n < 256) : (UInt8.ofNat n).toNat = n := UInt8.toNat_ofNat_of_lt' hn
  simp only [String.utf8EncodeChar]
  generalize c.val.toNat = v at hless
  generalize d.val.toNat = w at hless hbound
  have hdigits {n : Nat} (hn : n < 0x110000) : n / 64 / 64 = n / 4096 ∧
      n / 4096 / 64 = n / 262144 ∧ n / 262144 % 8 = n / 262144 := by omega
  have hv := hdigits (hless.trans hbound)
  have hw := hdigits hbound
  -- one case for each pair of lengths; where they differ the first bytes do
  split_ifs
  all_goals
    simp only [List.cons_append, List.nil_append, List.cons_lt_cons_iff, UInt8.lt_iff_toNat_lt,
      ← UInt8.toNat_inj]
    simp (disch := omega) only [hbyte]
    omega

theorem bytesBefore_of_lt {s t : String} (h : s < t) : BytesBefore s t := by
  rw [String.lt_iff_toList_lt] at h
  have hbytes (s : String) : s.toUTF8.data.toList = s.toList.flatMap String.utf8EncodeChar := by
    rw [String.toUTF8, ← String.ofList_toList (s := s), String.toByteArray_ofList, List.utf8Encode,
      List.toList_data_toByteArray, String.ofList_toList]
  rw [BytesBefore, hbytes, hbytes]
  generalize s.toList = cs at h
  generalize t.toList = ds at h
  induction cs generalizing ds with
  | nil =>
    cases ds with
    | nil => exact absurd h (List.lt_irrefl [])
    | cons d ds =>
      obtain ⟨b, bs, hb⟩ := List.exists_cons_of_ne_nil (@String.utf8EncodeChar_ne_nil d)
      rw [List.flatMap_cons, hb]
      exact List.nil_lt_cons b _
  | cons c cs ih =>
    cases ds with
    | nil => exact absurd h (List.not_lt_nil _)
    | cons d ds =>
      rw [List.flatMap_cons, List.flatMap_cons]
      obtain hless | ⟨rfl, hrest⟩ := List.cons_lt_cons_iff.1 h
      · exact encode_before hless _ _
      · exact List.append_left_lt (ih ds hrest)

namespace Step

open FileSystem Node

/-! ### Everything but folders -/

section Pending
variable {fs : FileSystem} {dir : Path} {rel : List String} {entries : List (String × Node)}

/-- All that lies below a folder and is none itself. -/
def below (rel : List String) (entries : List (String × Node)) : List (List String × Node) :=
  leafEntries (fun _ => true) rel entries

theorem among_perm (rel : List String) (entries : List (String × Node)) :
    (filesAmong rel entries ++ (foldersAmong rel entries).flatMap fun f => below f.1 f.2).Perm
      (below rel entries) := by
  fun_induction foldersAmong rel entries with
  | case1 => exact .nil
  | case2 name inner rest ih =>
    have hfiles : filesAmong rel ((name, .folder inner) :: rest) = filesAmong rel rest := rfl
    have hbelow : below rel ((name, .folder inner) :: rest) =
        below (rel ++ [name]) inner ++ below rel rest := rfl
    rw [hfiles, hbelow, List.flatMap_cons]
    exact List.perm_append_comm_assoc _ _ _ |>.trans (ih.append_left _)
  | case3 e rest h ih =>
    obtain ⟨name, n⟩ := e
    have hn : n.isFolder = false := by
      cases n with
      | folder inner => exact absurd rfl (h name inner)
      | _ => rfl
    have hbelow : below rel ((name, n) :: rest) = (rel ++ [name], n) :: below rel rest := by
      rw [below, leafEntries, leaves_of_not_isFolder hn]
      rfl
    have hfiles : filesAmong rel ((name, n) :: rest) =
        (rel ++ [name], n) :: filesAmong rel rest := by
      simp [filesAmong, hn]
    rw [hfiles, hbelow]
    exact ih.cons _

@[simp] theorem listPending_nil (fs : FileSystem) (dir : Path) :
    listPending fs dir [] = .ok [] := by
  unfold listPending
  rfl

/-- The walk through the folders that are still to be listed misses nothing. -/
theorem listPending_perm {pending : List (List String × List (String × Node))}
    {more : List (List String × Node)} (h : listPending fs dir pending = .ok more) :
    more.Perm (pending.flatMap fun f => below f.1 f.2) := by
  fun_induction listPending fs dir pending generalizing more with
  | case1 =>
    cases h
    exact .nil
  | case2 => cases h
  | case3 => cases h
  | case4 rel entries pending _ _ rest hrest ih =>
    cases h
    -- the folders in the one that is listed come before those that were waiting
    rw [List.flatMap_cons]
    have hfolders := ih hrest
    rw [List.flatMap_append] at hfolders
    refine (hfolders.append_left _).trans ?_
    rw [← List.append_assoc]
    exact (among_perm rel entries).append_right _

end Pending

/-! ### The order of the listing -/

theorem listedBefore_trans {a b c : String × Nat} (hab : listedBefore a b = true)
    (hbc : listedBefore b c = true) : listedBefore a c = true := by
  simp only [listedBefore, Bool.or_eq_true, Bool.and_eq_true, decide_eq_true_eq] at hab hbc ⊢
  obtain hab | ⟨hab, hsizes⟩ := hab
  · obtain hbc | ⟨hbc, -⟩ := hbc
    · exact .inl (hab.trans hbc)
    · exact .inl (hbc ▸ hab)
  · obtain hbc | ⟨hbc, hsizes'⟩ := hbc
    · exact .inl (hab ▸ hbc)
    · exact .inr ⟨hab.trans hbc, hsizes.trans hsizes'⟩

theorem listedBefore_total (a b : String × Nat) :
    (listedBefore a b || listedBefore b a) = true := by
  simp only [listedBefore, Bool.or_eq_true, Bool.and_eq_true, decide_eq_true_eq]
  obtain hless | heq | hless := lt_trichotomy a.1 b.1
  · exact .inl (.inl hless)
  · obtain hsize | hsize := Nat.le_total a.2 b.2
    · exact .inl (.inr ⟨heq, hsize⟩)
    · exact .inr (.inr ⟨heq.symm, hsize⟩)
  · exact .inr (.inl hless)

theorem listedName_eq {rel : List String} (h : ∀ s ∈ rel, '\\' ∉ s.toList) :
    listedName rel = String.intercalate "/" rel := by
  have hchars : ∀ c ∈ (String.intercalate "/" rel).toList, c ≠ '\\' := by
    induction rel with
    | nil => simp
    | cons s rest ih =>
      obtain ⟨hs, hrest⟩ := List.forall_mem_cons.1 h
      by_cases hnil : rest = []
      · rw [hnil, String.intercalate_singleton]
        exact fun c hc heq => hs (heq ▸ hc)
      · rw [String.intercalate_cons_of_ne_nil hnil]
        intro c hc heq
        simp only [String.toList_append, List.mem_append] at hc
        obtain (hc | hc) | hc := hc
        · exact hs (heq ▸ hc)
        · simp [heq] at hc
        · exact ih hrest c hc heq
  have hsame : ((String.intercalate "/" rel).toList.map fun c => if c = '\\' then '/' else c) =
      (String.intercalate "/" rel).toList :=
    (List.map_congr_left fun c hc => if_neg (hchars c hc)).trans (List.map_id _)
  rw [listedName, hsame, String.ofList_toList]

/-! ### The whole listing -/

section Listing
variable {fs : FileSystem} {dir : Path} {place : List String} {files : List (String × Nat)}

/-- What is told of a file. -/
def line (f : List String × Node) : String × Nat := (listedName f.1, f.2.size)

theorem listFiles_ok (h : listFiles fs dir = .ok files) :
    ∃ (entries : List (String × Node)) (all : List (List String × Node)),
      fs.list dir = .ok entries ∧ all.Perm (below [] entries) ∧ files = all.map line ∧
      files.Pairwise fun a b => listedBefore a b = true := by
  rw [listFiles] at h
  cases hlist : fs.list dir with
  | error e =>
    rw [hlist] at h
    cases h
  | ok entries =>
    rw [hlist] at h
    simp only at h
    cases hmore : listPending fs dir (foldersAmong [] entries) with
    | error e =>
      rw [hmore] at h
      cases h
    | ok more =>
      rw [hmore, Except.ok.injEq] at h
      have hline : (fun f : List String × Node => (listedName f.1, f.2.size)) = line := rfl
      rw [hline] at h
      have hperm : (filesAmong [] entries ++ more).Perm (below [] entries) :=
        ((listPending_perm hmore).append_left _).trans (among_perm [] entries)
      have hsort := @List.map_mergeSort _ _ (fun f g => listedBefore (line f) (line g))
        listedBefore line (filesAmong [] entries ++ more) fun _ _ _ _ => rfl
      refine ⟨entries, (filesAmong [] entries ++ more).mergeSort
        fun f g => listedBefore (line f) (line g), rfl,
        (List.mergeSort_perm _ _).trans hperm, ?_, ?_⟩
      · rw [hsort, h]
      · rw [← h]
        exact @List.pairwise_mergeSort _ listedBefore (fun _ _ _ => listedBefore_trans)
          listedBefore_total _

/-- The size of what stands at a place. -/
def sizeAt (fs : FileSystem) (place : List String) : Nat :=
  ((fs.root.get? place).map Node.size).getD 0

/-- What is listed of a folder, if no name in it has a backslash. -/
theorem listFiles_exact (hproper : fs.root.Proper) (hleads : fs.Leads dir place)
    (hnames : ∀ rel n, fs.root.get? (place ++ rel) = some n → n.isFolder = false →
      ∀ s ∈ rel, '\\' ∉ s.toList)
    (h : listFiles fs dir = .ok files) :
    ∃ rels : List (List String),
      files = rels.map (fun rel => (String.intercalate "/" rel, sizeAt fs (place ++ rel))) ∧
      (rels.map (String.intercalate "/")).Pairwise BytesBefore ∧
      ∀ rel, rel ∈ rels ↔ ∃ n, fs.root.get? (place ++ rel) = some n ∧ n.isFolder = false := by
  obtain ⟨entries, all, hlist, hperm, rfl, hsorted⟩ := listFiles_ok h
  have hfolder := get?_of_list_of_leads hleads hlist
  have hinner := (hereditary_proper.get? hproper hfolder).1
  have hbelow : below [] entries = leaves (fun _ => true) [] (.folder entries) := by
    rw [leaves, if_pos rfl, below]
  have hmem (rel : List String) (n : Node) : (rel, n) ∈ all ↔
      n.isFolder = false ∧ fs.root.get? (place ++ rel) = some n := by
    rw [hperm.mem_iff, hbelow, mem_leaves hinner, get?_append, hfolder, Option.bind_some]
    simp
  have hnodup : (all.map Prod.fst).Nodup := by
    rw [(hperm.map Prod.fst).nodup_iff, hbelow]
    exact nodup_leaves hinner
  have hproperties {rel : List String} (hrel : rel ∈ all.map Prod.fst) :
      listedName rel = String.intercalate "/" rel ∧ ∀ s ∈ rel, s ≠ "" ∧ '/' ∉ s.toList := by
    obtain ⟨⟨_, n⟩, hn, rfl⟩ := List.mem_map.1 hrel
    obtain ⟨hleaf, hget⟩ := (hmem _ n).1 hn
    refine ⟨listedName_eq (hnames _ n hget hleaf), fun s hs => ?_⟩
    have hs' := (hereditary_proper.get? hproper hget).2 s (List.mem_append_right place hs)
    exact ⟨hs'.1.1, hs'.2.1⟩
  have hlines : all.map line = (all.map Prod.fst).map fun rel =>
      (String.intercalate "/" rel, sizeAt fs (place ++ rel)) := by
    rw [List.map_map]
    refine List.map_congr_left fun f hf => ?_
    have hget := ((hmem f.1 f.2).1 hf).2
    simp only [line, Function.comp, sizeAt, hget, (hproperties (List.mem_map_of_mem hf)).1]
    rfl
  refine ⟨all.map Prod.fst, hlines, ?_, fun rel => ?_⟩
  · have hdistinct : ((all.map Prod.fst).map (String.intercalate "/")).Nodup := by
      refine hnodup.map_on fun a ha b hb heq => ?_
      rw [← Path.segments_intercalate (hproperties ha).2, heq,
        Path.segments_intercalate (hproperties hb).2]
    rw [hlines, List.pairwise_map] at hsorted
    rw [List.Nodup, List.pairwise_map] at hdistinct
    rw [List.pairwise_map]
    refine hsorted.imp₂ (fun a b hab hne => ?_) hdistinct
    simp only [listedBefore, hne, decide_false, Bool.false_and, Bool.or_false,
      decide_eq_true_eq] at hab
    exact bytesBefore_of_lt hab
  · rw [List.mem_map]
    constructor
    · rintro ⟨⟨_, n⟩, hn, rfl⟩
      exact ⟨n, ((hmem _ n).1 hn).2, ((hmem _ n).1 hn).1⟩
    · rintro ⟨n, hget, hn⟩
      exact ⟨(rel, n), (hmem rel n).2 ⟨hn, hget⟩, rfl⟩

end Listing

end Step
end BuildPipeline

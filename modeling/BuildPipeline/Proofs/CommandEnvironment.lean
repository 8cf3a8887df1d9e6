import BuildPipeline.Command.Host
import BuildPipeline.Proofs.JsonRecords
import BuildPipeline.Proofs.RecordedMetrics
import BuildPipeline.Text.Lowercase
import Mathlib.Data.List.Nodup

/-! What commands see of the variables of the process. Those with a secret's name are kept from
them, whatever their values, and cannot tell two processes apart. -/
namespace BuildPipeline

/-! ### Lower case -/

namespace Text
open Environment (lower kelvinSign)

/-- A piece of a text in lower case is the lower case of an ASCII letter, or begins from another
character and ends in another. -/
inductive Piece (c : Char) : List Char → Prop
  | plain : Piece c [lower c]
  | foreign (front : List Char) {last : Char} (hc : 0x80 ≤ (lower c).toNat)
      (hlast : 0x80 ≤ last.toNat) : Piece c (front ++ [last])

/-- A text in lower case, piece by piece. -/
inductive Lowers : List Char → List Char → Prop
  | nil : Lowers [] []
  | snoc {text lowered : List Char} {c : Char} {piece : List Char} (h : Lowers text lowered)
      (hpiece : Piece c piece) : Lowers (text ++ [c]) (lowered ++ piece)

theorem Lowers.cons {c : Char} {piece text lowered : List Char} (hpiece : Piece c piece)
    (h : Lowers text lowered) : Lowers (c :: text) (piece ++ lowered) := by
  induction h with
  | nil => simpa using Lowers.nil.snoc hpiece
  | snoc h hlast ih =>
    rw [← List.append_assoc, ← List.cons_append]
    exact ih.snoc hlast

theorem lower_of_ascii {c : Char} (h : c.toNat < 0x80) : lower c = c.toLower := by
  have hne : c ≠ kelvinSign := by
    rintro rfl
    exact absurd h (by decide)
  rw [lower, if_neg hne]

theorem lower_of_not_ascii {c : Char} (h : 0x80 ≤ c.toNat) (hne : c ≠ kelvinSign) :
    lower c = c := by
  rw [lower, if_neg hne]
  refine dif_neg fun hcapital => ?_
  have hle : c.toNat ≤ 90 := hcapital.2
  omega

theorem capitalRuns_lead_beyond_ascii : ∀ r ∈ capitalRuns, r.leadsBeyondAscii = true := by
  decide +kernel

theorem CapitalRun.small_beyond_ascii {r : CapitalRun} {code : Nat}
    (hr : r.leadsBeyondAscii = true) (h : r.has code = true) :
    0x80 ≤ (Char.ofNat (code + r.offset).toNat).toNat := by
  simp only [leadsBeyondAscii, Bool.or_eq_true, Bool.and_eq_true, decide_eq_true_eq] at hr
  simp only [has, Bool.and_eq_true, decide_eq_true_eq] at h
  have hvalid : ((code : Int) + r.offset).toNat.isValidChar := by
    rw [Nat.isValidChar]
    omega
  have hcode : (Char.ofNat (code + r.offset).toNat).toNat = (code + r.offset).toNat := by
    rw [Char.ofNat, dif_pos hvalid]
    rfl
  omega

theorem piece_smallForm (c : Char) : Piece c (smallForm c) := by
  rw [smallForm]
  by_cases hascii : c.toNat < 0x80
  · rw [if_pos hascii, ← lower_of_ascii hascii]
    exact .plain
  · rw [if_neg hascii]
    by_cases hkelvin : c = kelvinSign
    · subst hkelvin
      exact .plain
    have hc : 0x80 ≤ (lower c).toNat := by
      rw [lower_of_not_ascii (Nat.not_lt.1 hascii) hkelvin]
      exact Nat.not_lt.1 hascii
    by_cases hdotted : c = Char.ofNat 0x130
    · subst hdotted
      exact .foreign ['i'] hc (by decide)
    have hform : specialForms.lookup c = none := by
      have hkelvin' : c ≠ Char.ofNat 0x212A := hkelvin
      simp [specialForms, hdotted, hkelvin']
    rw [hform]
    cases hrun : capitalRuns.find? (·.has c.toNat) with
    | none => exact .foreign [] hc (Nat.not_lt.1 hascii)
    | some r =>
      have hhas : r.has c.toNat = true := by simpa using List.find?_some hrun
      have hlead := capitalRuns_lead_beyond_ascii r (List.mem_of_find?_eq_some hrun)
      exact .foreign [] hc (CapitalRun.small_beyond_ascii hlead hhas)

theorem lowers_lowercaseAfter (endsWord : List Char → List Char → Bool) (before text : List Char) :
    Lowers text (lowercaseAfter endsWord before text) := by
  induction text generalizing before with
  | nil => exact .nil
  | cons c rest ih =>
    refine .cons ?_ (ih (before ++ [c]))
    split
    · next h =>
      subst h
      exact .foreign [] (by decide) (by split <;> decide)
    · exact piece_smallForm c

/-- An ending of ASCII letters is found alike, however the other characters are written. -/
theorem Lowers.suffix_iff {text lowered ending : List Char} (h : Lowers text lowered)
    (hending : ∀ c ∈ ending, c.toNat < 0x80) :
    ending <:+ text.map lower ↔ ending <:+ lowered := by
  induction h generalizing ending with
  | nil => rfl
  | snoc h hpiece ih =>
    rw [List.map_append, List.map_singleton]
    cases hpiece with
    | plain =>
      rw [List.suffix_concat_iff, List.suffix_concat_iff]
      refine or_congr_right (exists_congr fun front => and_congr_right ?_)
      rintro rfl
      exact ih fun c hc => hending c (List.mem_append_left _ hc)
    | foreign front hc hlast =>
      have hneither {a : Char} {more : List Char} (ha : 0x80 ≤ a.toNat) :
          ending <:+ more ++ [a] ↔ ending = [] := by
        rw [List.suffix_concat_iff]
        refine or_iff_left ?_
        rintro ⟨front, rfl, -⟩
        exact absurd (hending a (by simp)) (Nat.not_lt.2 ha)
      rw [← List.append_assoc, hneither hc, hneither hlast]

end Text

/-! ### Maps with the same bindings -/

namespace SortedMap
variable {α : Type}

theorem nodup_keys (m : SortedMap α) : (m.entries.map Prod.fst).Nodup := by
  refine List.pairwise_map.2 (m.sorted.imp fun {a b} h heq => ?_)
  rw [heq] at h
  exact String.lt_irrefl b.1 h

theorem get?_eq_some_iff {m : SortedMap α} {key : String} {value : α} :
    m.get? key = some value ↔ (key, value) ∈ m.entries := by
  constructor
  · intro h
    obtain ⟨before, after, hentries, -⟩ := List.lookup_eq_some_iff.1 h
    simp [hentries]
  · intro h
    refine lookup_eq_some_of_unique h fun other hother => ?_
    exact (Prod.mk.inj (List.inj_on_of_nodup_map m.nodup_keys hother h rfl)).2

theorem ext_get? {a b : SortedMap α} (h : ∀ key, a.get? key = b.get? key) : a = b := by
  have hmem : ∀ e : String × α, e ∈ a.entries ↔ e ∈ b.entries := by
    rintro ⟨key, value⟩
    rw [← get?_eq_some_iff, h, get?_eq_some_iff]
  have hperm : a.entries.Perm b.entries :=
    (List.perm_ext_iff_of_nodup a.nodup_keys.of_map b.nodup_keys.of_map).2 hmem
  have hentries : a.entries = b.entries :=
    hperm.eq_of_pairwise (fun _ _ _ _ hab hba => absurd hba (String.lt_asymm hab)) a.sorted b.sorted
  cases a
  cases b
  cases hentries
  rfl

theorem lookup_filter (keep : String → Bool) (es : List (String × α)) (key : String) :
    (es.filter fun e => keep e.1).lookup key = if keep key = true then es.lookup key else none := by
  induction es with
  | nil => simp
  | cons e rest ih =>
    obtain ⟨name, value⟩ := e
    rw [List.filter_cons]
    by_cases hkey : key = name
    · subst hkey
      by_cases hkeep : keep key = true
      · simp [hkeep]
      · simp [hkeep, ih]
    · by_cases hkeep : keep name = true
      · simp [hkeep, lookup_cons, hkey, ih]
      · simp [hkeep, lookup_cons, hkey, ih]

end SortedMap

/-! ### What is handed on -/

namespace Environment

def NamesSecret (endsWord : List Char → List Char → Bool) (name : String) : Prop :=
  ∃ ending ∈ ["_api_key", "_secret", "_token", "_password", "_credential"],
    ending.toList <:+ Text.lowercase endsWord name.toList

theorem isSecret_iff (endsWord : List Char → List Char → Bool) {name : String} :
    isSecret name = true ↔ NamesSecret endsWord name := by
  have hascii : secretEndings.all (fun ending => ending.toList.all (·.toNat < 0x80)) = true := by
    decide
  have hlowers := Text.lowers_lowercaseAfter endsWord [] name.toList
  rw [isSecret, List.any_eq_true]
  refine exists_congr fun ending => and_congr_right fun hending => ?_
  rw [List.isSuffixOf_iff_suffix]
  have hall := List.all_eq_true.1 (List.all_eq_true.1 hascii ending hending)
  exact hlowers.suffix_iff fun c hc => of_decide_eq_true (hall c hc)

/-- No name that is always handed on ends like a secret's, so the list of them lets none through. -/
theorem isHandedOn_eq (name : String) : isHandedOn name = !isSecret name := by
  have hkept : ∀ n ∈ alwaysKept, isSecret n = false := by decide +kernel
  rw [isHandedOn]
  by_cases h : name ∈ alwaysKept
  · simp [h, hkept name h]
  · simp [h]

theorem get?_withoutSecrets (process : SortedMap String) (name : String) :
    (withoutSecrets process).get? name =
      if isSecret name = true then none else process.get? name := by
  have hentries : (withoutSecrets process).entries =
      process.entries.filter fun e => isHandedOn e.1 :=
    SortedMap.entries_insertAll (m := .empty) (process.sorted.filter _)
  rw [SortedMap.get?, hentries, SortedMap.lookup_filter, isHandedOn_eq]
  cases isSecret name <;> rfl

theorem get?_ofCommand (process given : SortedMap String) (name : String) :
    (ofCommand process given).get? name =
      (given.get? name).or (if isSecret name = true then none else process.get? name) := by
  rw [ofCommand, SortedMap.get?_insertAll, SortedMap.lookup_reverse given.nodup_keys,
    get?_withoutSecrets]
  rfl

/-- Processes that differ in secrets only hand the same variables on. -/
theorem ofCommand_congr {p q : SortedMap String}
    (h : ∀ name, isSecret name = false → p.get? name = q.get? name) (given : SortedMap String) :
    ofCommand p given = ofCommand q given := by
  refine SortedMap.ext_get? fun name => ?_
  rw [get?_ofCommand, get?_ofCommand]
  cases hsecret : isSecret name with
  | true => rfl
  | false => rw [h name hsecret]

end Environment

namespace LocalHost

open Environment

def keyless : SortedMap String := .ofList [("HOME", "/root")]

/-- With a key besides, whose name has the sign of Kelvin for its K. -/
def keyed : SortedMap String := keyless.insert "BUILD_API_\u212AEY" "hidden"

end LocalHost
end BuildPipeline

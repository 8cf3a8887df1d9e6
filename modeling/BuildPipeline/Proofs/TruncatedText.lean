import BuildPipeline.Step.Basic
import Mathlib.Data.String.Basic

/-! Shortened texts. A text that is too long comes apart in one way into what stays at its front,
what is left out and what stays at its end; the two cuts fall between characters. -/
namespace BuildPipeline.Text

theorem charOffset_append (front rest : List Char) :
    charOffset (front ++ rest) front.length = String.utf8Len front := by
  induction front with
  | nil => cases rest <;> rfl
  | cons c front ih => simp [charOffset, ih, Nat.add_comm]

/-- Behind the characters of a front, its bytes end. -/
theorem cut_append (front rest : String) : cut (front ++ rest) front.length = front.rawEndPos := by
  rw [cut, String.toList_append, ← String.length_toList, charOffset_append, String.utf8Len_toList]
  rfl

theorem extract_front (front rest : String) :
    String.Pos.Raw.extract (front ++ rest) 0 front.rawEndPos = front := by
  have h := String.extract_of_valid [] front.toList rest.toList
  simp only [List.nil_append, String.ofList_append, String.ofList_toList, String.utf8Len_nil,
    String.utf8Len_toList, Nat.zero_add] at h
  exact h

theorem extract_rest (front rest : String) :
    String.Pos.Raw.extract (front ++ rest) front.rawEndPos (front ++ rest).rawEndPos = rest := by
  have h := String.extract_of_valid front.toList rest.toList []
  simp only [List.append_nil, String.ofList_append, String.ofList_toList,
    String.utf8Len_toList, ← String.utf8ByteSize_append] at h
  exact h

/-- A text in three parts: what stays at its front, what is left out, what stays at its end. -/
@[ext] structure Parts where
  head : String
  dropped : String
  tail : String

/-- The parts make up the text, and so many characters stay as there is room, of which the mode
has its share at the front. -/
structure Parts.Fit (mode : Truncation) (room : Nat) (text : String) (p : Parts) : Prop where
  whole : p.head ++ p.dropped ++ p.tail = text
  kept : p.head.length + p.tail.length = room
  front : p.head.length = match mode with
    | .headTail => room * 40 / 100
    | .tail => 0

namespace Parts

section Whole
variable {p : Parts} {text : String} (h : p.head ++ p.dropped ++ p.tail = text)
include h

/-- Both cuts are where the parts meet. -/
theorem cut_head : cut text p.head.length = p.head.rawEndPos := by
  rw [← h, String.append_assoc]
  exact cut_append p.head (p.dropped ++ p.tail)

theorem cut_tail : cut text (text.length - p.tail.length) = (p.head ++ p.dropped).rawEndPos := by
  have hfront : text.length - p.tail.length = (p.head ++ p.dropped).length := by
    rw [← h, String.length_append (p.head ++ p.dropped)]
    omega
  rw [hfront, ← h]
  exact cut_append (p.head ++ p.dropped) p.tail

theorem extract_head : String.Pos.Raw.extract text 0 (cut text p.head.length) = p.head := by
  rw [cut_head h, ← h, String.append_assoc]
  exact extract_front p.head (p.dropped ++ p.tail)

theorem extract_tail :
    String.Pos.Raw.extract text (cut text (text.length - p.tail.length)) text.rawEndPos =
      p.tail := by
  rw [cut_tail h, ← h]
  exact extract_rest (p.head ++ p.dropped) p.tail

end Whole

variable {mode : Truncation} {room : Nat} {text : String}

/-- Lengths decide how a text comes apart. -/
theorem Fit.unique {p q : Parts} (hp : p.Fit mode room text) (hq : q.Fit mode room text) :
    p = q := by
  have hhead : p.head.toList.length = q.head.toList.length := by
    rw [String.length_toList, String.length_toList, hp.front, hq.front]
  have htail : p.tail.toList.length = q.tail.toList.length := by
    have hkept := hp.kept
    have hkept' := hq.kept
    simp only [String.length_toList] at hhead ⊢
    omega
  have htext : (p.head.toList ++ p.dropped.toList) ++ p.tail.toList =
      (q.head.toList ++ q.dropped.toList) ++ q.tail.toList := by
    simp only [← String.toList_append, hp.whole, hq.whole]
  obtain ⟨hmost, hlast⟩ := List.append_inj' htext htail
  obtain ⟨hfirst, hmiddle⟩ := List.append_inj hmost hhead
  exact Parts.ext (String.toList_inj.1 hfirst) (String.toList_inj.1 hmiddle)
    (String.toList_inj.1 hlast)

theorem Fit.length {p : Parts} (h : p.Fit mode room text) :
    p.dropped.length + room = text.length := by
  rw [← h.whole, ← h.kept, String.length_append, String.length_append]
  omega

/-- A text comes apart with as many characters at either end as are asked for. -/
theorem exists_whole (text : String) (front back : Nat) (h : front + back ≤ text.length) :
    ∃ p : Parts, p.head ++ p.dropped ++ p.tail = text ∧ p.head.length = front ∧
      p.tail.length = back := by
  let rest := text.length - back
  have hcut : front ≤ rest := by omega
  let p : Parts := ⟨.ofList (text.toList.take front),
    .ofList ((text.toList.take rest).drop front), .ofList (text.toList.drop rest)⟩
  have hlength : text.toList.length = text.length := String.length_toList
  refine ⟨p, ?_, ?_, ?_⟩
  · apply String.toList_inj.1
    have hfront : text.toList.take front = (text.toList.take rest).take front := by
      rw [List.take_take, Nat.min_eq_left hcut]
    simp only [p, String.toList_append, String.toList_ofList]
    rw [hfront, List.take_append_drop, List.take_append_drop]
  · simp only [p, String.length_ofList, List.length_take, hlength]
    exact Nat.min_eq_left (by omega)
  · simp only [p, String.length_ofList, List.length_drop, hlength]
    omega

/-- A text that is too long comes apart. -/
theorem exists_fit (mode : Truncation) (h : room < text.length) :
    ∃ p : Parts, p.Fit mode room text := by
  cases mode with
  | headTail =>
    obtain ⟨p, hwhole, hhead, htail⟩ :=
      exists_whole text (room * 40 / 100) (room - room * 40 / 100) (by omega)
    exact ⟨p, hwhole, by omega, hhead⟩
  | tail =>
    obtain ⟨p, hwhole, hhead, htail⟩ :=
      exists_whole text 0 room (by omega)
    exact ⟨p, hwhole, by omega, hhead⟩

theorem Fit.truncate_eq {p : Parts} (hlong : room < text.length) :
    p.Fit mode room text → truncate mode room text = p.head ++ (match mode with
      | .headTail => "\n"
      | .tail => "") ++ "[... " ++ toString p.dropped.length ++ " characters removed ...]\n" ++
      p.tail := by
  intro h
  have hlength := h.length
  have hkept := h.kept
  cases mode with
  | headTail =>
    have hhead : room * 40 / 100 = p.head.length := h.front.symm
    have htail : room - p.head.length = p.tail.length := by omega
    have hremoved : text.length - p.head.length - p.tail.length = p.dropped.length := by omega
    simp only [truncate, if_neg (Nat.not_le_of_lt hlong), marker, hhead, htail, hremoved,
      extract_head h.whole, extract_tail h.whole, String.append_assoc]
  | tail =>
    have hhead : p.head = "" := String.length_eq_zero_iff.1 h.front
    have htail : p.tail.length = room := by simpa [hhead] using hkept
    have hremoved : text.length - room = p.dropped.length := by omega
    have hextract := extract_tail h.whole
    rw [htail, hremoved] at hextract
    simp only [truncate, if_neg (Nat.not_le_of_lt hlong), hextract, marker, hremoved, hhead,
      String.empty_append, String.append_assoc]

end Parts

theorem truncate_of_le {mode : Truncation} {room : Nat} {text : String} (h : text.length ≤ room) :
    truncate mode room text = text := if_pos h

theorem truncate_tail (room : Nat) (text : String) : ∃ left kept : String,
    left ++ kept = text ∧ kept.length = min room text.length ∧
    truncate .tail room text = (if left = "" then ""
      else "[... " ++ toString left.length ++ " characters removed ...]\n") ++ kept := by
  by_cases hlong : room < text.length
  · obtain ⟨p, hp⟩ := Parts.exists_fit .tail hlong
    have hhead : p.head = "" := String.length_eq_zero_iff.1 hp.front
    have hkept : p.tail.length = room := by
      rw [← hp.kept, hhead, String.length_empty, Nat.zero_add]
    have hleft : p.dropped ≠ "" := by
      intro hnone
      have hlength := hp.length
      rw [hnone, String.length_empty] at hlength
      omega
    refine ⟨p.dropped, p.tail, ?_, ?_, ?_⟩
    · rw [← hp.whole, hhead, String.empty_append]
    · rw [hkept, Nat.min_eq_left (Nat.le_of_lt hlong)]
    · rw [hp.truncate_eq hlong, hhead, if_neg hleft]
      simp only [String.empty_append]
  · have hle : text.length ≤ room := Nat.le_of_not_lt hlong
    refine ⟨"", text, String.empty_append, (Nat.min_eq_right hle).symm, ?_⟩
    rw [truncate_of_le hle, if_pos rfl, String.empty_append]

/-- A reason quotes the end of the output, at most 400 characters of it. -/
theorem exitReason_quotes (o : ProcessOutput) : ∃ left kept : String,
    left ++ kept = trimmed o.combined ∧ kept.length = min 400 (trimmed o.combined).length ∧
    exitReason o = "exited with code " ++ exitCodeText o.exitCode ++
      if trimmed o.combined = "" then ""
      else ": " ++ ((if left = "" then ""
        else "[... " ++ toString left.length ++ " characters removed ...]\n") ++ kept) := by
  obtain ⟨left, kept, hwhole, hkept, htruncate⟩ := truncate_tail reasonRoom (trimmed o.combined)
  refine ⟨left, kept, hwhole, hkept, ?_⟩
  have hreason : exitReason o = "exited with code " ++ exitCodeText o.exitCode ++
      if (trimmed o.combined).isEmpty then ""
      else ": " ++ truncate .tail reasonRoom (trimmed o.combined) := rfl
  rw [hreason, htruncate]
  by_cases hempty : trimmed o.combined = ""
  · rw [if_pos (String.isEmpty_iff.2 hempty), if_pos hempty]
  · rw [if_neg (mt String.isEmpty_iff.1 hempty), if_neg hempty]

/-- Characters are kept as announced. A text with more characters than there is room for comes
apart in one way, and nothing is lost of it but its middle part, whose length is told: no
subtraction is cut off at zero, and both cuts fall between characters, where the parts meet. So
the reason of a failed command quotes the last characters of its output, 400 at most. -/
theorem truncate_keeps (mode : Truncation) (room : Nat) (text : String) (o : ProcessOutput) :
    let head := match mode with
      | .headTail => room * 40 / 100
      | .tail => 0
    let tail := room - head
    let total := text.length
    let output := trimmed o.combined
    (total ≤ room ∧ truncate mode room text = text ∨
      room < total ∧ ∃ p : Parts, p.Fit mode room text ∧
        (∀ q : Parts, q.Fit mode room text → q = p) ∧
        p.dropped.length = total - room ∧ 1 ≤ p.dropped.length ∧
        truncate mode room text = p.head ++ (match mode with
          | .headTail => "\n"
          | .tail => "") ++ "[... " ++ toString p.dropped.length ++ " characters removed ...]\n" ++
          p.tail ∧
        head + tail = room ∧ total - head - tail + tail + head = total ∧
        total - tail + tail = total ∧
        (cut text head).IsValid text ∧ cut text head = p.head.rawEndPos ∧
        (cut text (total - tail)).IsValid text ∧
        cut text (total - tail) = (p.head ++ p.dropped).rawEndPos) ∧
    ∃ left kept : String, left ++ kept = output ∧ kept.length = min 400 output.length ∧
      exitReason o = "exited with code " ++ exitCodeText o.exitCode ++
        if output = "" then ""
        else ": " ++ ((if left = "" then ""
          else "[... " ++ toString left.length ++ " characters removed ...]\n") ++ kept) := by
  intro head tail total output
  refine ⟨?_, exitReason_quotes o⟩
  by_cases hlong : room < total
  · obtain ⟨p, hp⟩ := Parts.exists_fit mode hlong
    have hlength : p.dropped.length + room = total := hp.length
    have hkept := hp.kept
    have hhead : head = p.head.length := hp.front.symm
    have htail : tail = p.tail.length := by omega
    have hvalid (front rest : String) (h : front ++ rest = text) : front.rawEndPos.IsValid text :=
      String.Pos.Raw.isValid_iff_exists_append.2 ⟨front, rest, h.symm, rfl⟩
    have hfront : cut text head = p.head.rawEndPos := by rw [hhead, Parts.cut_head hp.whole]
    have hrest : cut text (total - tail) = (p.head ++ p.dropped).rawEndPos := by
      rw [htail, Parts.cut_tail hp.whole]
    refine .inr ⟨hlong, p, hp, fun q hq => hq.unique hp, by omega, by omega,
      hp.truncate_eq hlong, by omega, by omega, by omega, ?_, hfront, ?_, hrest⟩
    · rw [hfront]
      exact hvalid p.head (p.dropped ++ p.tail) (by rw [← String.append_assoc, hp.whole])
    · rw [hrest]
      exact hvalid (p.head ++ p.dropped) p.tail hp.whole
  · have hle : total ≤ room := Nat.le_of_not_lt hlong
    exact .inl ⟨hle, truncate_of_le hle⟩

example : truncate .headTail 5 "✔✔ab∞cd✔" =
    "✔✔\n[... 3 characters removed ...]\ncd✔" := by decide

end BuildPipeline.Text

import BuildPipeline.Proofs.JsonTokens

/-! Documents that are written and read again. A reader that is fed the tokens of a value completes
that value, whatever is open around it. -/
namespace BuildPipeline.Json

theorem mapM_map_eq_map {α β γ : Type} {encode : α → β} {read : β → Option γ} {f : α → γ}
    {xs : List α} (h : ∀ x ∈ xs, read (encode x) = some (f x)) :
    (xs.map encode).mapM read = some (xs.map f) := by
  induction xs with
  | nil => rfl
  | cons x xs ih =>
    have hx := h x List.mem_cons_self
    have hxs := ih fun y hy => h y (List.mem_cons_of_mem x hy)
    rw [List.map_cons, List.mapM_cons, hx, hxs]
    rfl

/-- Items that are read as what they were made from. -/
theorem mapM_map {α β : Type} {encode : α → β} {read : β → Option α} {xs : List α}
    (h : ∀ x ∈ xs, read (encode x) = some x) : (xs.map encode).mapM read = some xs := by
  rw [mapM_map_eq_map (f := id) h, List.map_id]

def Expect.TakesValue (expect : Expect) : Prop := expect = .value ∨ expect = .valueOrEnd

namespace Builder

def run (b : Builder) (ts : List Token) : Option Builder := ts.foldlM feed b

theorem run_cons {b next : Builder} {t : Token} (h : feed b t = some next) (ts : List Token) :
    run b (t :: ts) = run next ts := by
  rw [run, List.foldlM_cons, h]
  rfl

theorem run_append {b next : Builder} {ts : List Token} (h : run b ts = some next)
    (more : List Token) : run b (ts ++ more) = run next more := by
  rw [run] at h
  rw [run, List.foldlM_append, h]
  rfl

theorem closeMembers_texts (members : List (String × Json)) :
    closeMembers (members.map fun m => (some m.1, m.2)).reverse = .object members := by
  have hread : (members.map fun m => ((some m.1, m.2) : Option String × Json)).mapM
      (fun m => m.1.map fun key => (key, m.2)) = some members := mapM_map fun _ _ => rfl
  rw [closeMembers, List.reverse_reverse, hread]

/-- The tokens of the value complete it wherever a value may come. -/
def Built (j : Json) : Prop :=
  ∀ (stack : List Frame) (expect : Expect), expect.TakesValue →
    run (.within stack expect) (tokensOf j) = some (complete stack j)

theorem run_itemTokens {items : List Json} (hitems : ∀ j ∈ items, Built j) (stack : List Frame)
    (before : List Json) :
    run (.within (.array before :: stack) .separator) (itemTokens items) =
      some (.within (.array (items.reverse ++ before) :: stack) .separator) := by
  induction items generalizing before with
  | nil => rfl
  | cons j rest ih =>
    have hj := hitems j List.mem_cons_self (.array before :: stack) .value (.inl rfl)
    have hrest := ih (fun k hk => hitems k (List.mem_cons_of_mem j hk)) (j :: before)
    rw [itemTokens, List.cons_append, run_cons rfl, run_append hj, List.reverse_cons,
      List.append_assoc]
    exact hrest

theorem run_member {m : String × Json} (hm : Built m.2) (stack : List Frame)
    (before : List (Option String × Json)) {expect : Expect}
    (hexpect : expect = .key ∨ expect = .keyOrEnd) (ts : List Token) :
    run (.within (.object before none :: stack) expect)
        (.text (some m.1) :: .colon :: (tokensOf m.2 ++ ts)) =
      run (.within (.object ((some m.1, m.2) :: before) none :: stack) .separator) ts := by
  have hvalue := hm (.object before (some m.1) :: stack) .value (.inl rfl)
  have hkey : feed (.within (.object before none :: stack) expect) (.text (some m.1)) =
      some (.within (.object before (some m.1) :: stack) .colon) := by
    rcases hexpect with rfl | rfl <;> rfl
  rw [run_cons hkey, run_cons rfl, run_append hvalue]
  rfl

theorem run_memberTokens {members : List (String × Json)} (hmembers : ∀ m ∈ members, Built m.2)
    (stack : List Frame) (before : List (Option String × Json)) :
    run (.within (.object before none :: stack) .separator) (memberTokens members) =
      some (.within
        (.object ((members.map fun m => (some m.1, m.2)).reverse ++ before) none :: stack)
        .separator) := by
  induction members generalizing before with
  | nil => rfl
  | cons m rest ih =>
    have hm := hmembers m List.mem_cons_self
    have hrest := ih (fun k hk => hmembers k (List.mem_cons_of_mem m hk))
      ((some m.1, m.2) :: before)
    rw [memberTokens, List.cons_append, List.cons_append, List.cons_append, run_cons rfl,
      run_member hm _ _ (.inl rfl), hrest, List.map_cons, List.reverse_cons, List.append_assoc]
    rfl

theorem built_of_token {j : Json} {t : Token} (htokens : tokensOf j = [t])
    (hfeed : ∀ stack orEnd, feedValue stack orEnd t = some (complete stack j)) : Built j := by
  intro stack expect hexpect
  have hnext : feed (.within stack expect) t = some (complete stack j) := by
    rcases hexpect with rfl | rfl
    · exact hfeed stack false
    · exact hfeed stack true
  rw [htokens]
  exact run_cons hnext []

theorem built_of_printable {j : Json} (h : Printable j) : Built j := by
  induction h with
  | null => exact built_of_token rfl fun _ _ => rfl
  | bool b => exact built_of_token rfl fun _ _ => rfl
  | integer _ => exact built_of_token rfl fun _ _ => rfl
  | double _ _ => exact built_of_token rfl fun _ _ => rfl
  | string s => exact built_of_token rfl fun _ _ => rfl
  | @array items _ ih =>
    intro stack expect hexpect
    have hopen : feed (.within stack expect) .openBracket =
        some (.within (.array [] :: stack) .valueOrEnd) := by rcases hexpect with rfl | rfl <;> rfl
    cases items with
    | nil => exact run_cons hopen [.closeBracket]
    | cons j rest =>
      -- only the first item stands where the array might have ended
      have hj := ih j List.mem_cons_self (.array [] :: stack) .valueOrEnd (.inr rfl)
      have hrest := run_itemTokens (fun k hk => ih k (List.mem_cons_of_mem j hk)) stack [j]
      have hitems : (rest.reverse ++ [j]).reverse = j :: rest := by simp
      have hclose : feed (.within (.array (rest.reverse ++ [j]) :: stack) .separator)
          .closeBracket = some (complete stack (.array (j :: rest))) := by
        rw [← hitems]
        rfl
      rw [tokensOf, List.cons_append, List.cons_append, List.append_assoc, run_cons hopen,
        run_append hj]
      exact (run_append hrest [.closeBracket]).trans (run_cons hclose [])
  | @object members _ ih =>
    intro stack expect hexpect
    have hopen : feed (.within stack expect) .openBrace =
        some (.within (.object [] none :: stack) .keyOrEnd) := by
      rcases hexpect with rfl | rfl <;> rfl
    cases members with
    | nil => exact run_cons hopen [.closeBrace]
    | cons m rest =>
      have hm := ih m List.mem_cons_self
      have hrest := run_memberTokens (fun k hk => ih k (List.mem_cons_of_mem m hk)) stack
        [(some m.1, m.2)]
      have hmembers : closeMembers
          ((rest.map fun m => (some m.1, m.2)).reverse ++ [(some m.1, m.2)]) =
            .object (m :: rest) := by
        rw [← closeMembers_texts, List.map_cons, List.reverse_cons]
      have hclose : feed (.within
          (.object ((rest.map fun m => (some m.1, m.2)).reverse ++ [(some m.1, m.2)]) none :: stack)
          .separator) .closeBrace = some (complete stack (.object (m :: rest))) := by
        rw [← hmembers]
        rfl
      simp only [tokensOf, List.cons_append, List.append_assoc]
      rw [run_cons hopen, run_member hm _ _ (.inr rfl)]
      exact (run_append hrest [.closeBrace]).trans (run_cons hclose [])

end Builder

theorem parse?_render {j : Json} (h : Printable j) : parse? (render j) = some j := by
  have hbuilt := Builder.built_of_printable h [] .value (.inl rfl)
  rw [parse?, render, String.toList_ofList, tokens?_print h, Option.bind_some]
  change (Builder.run .start (tokensOf j)).bind _ = _
  rw [Builder.start, hbuilt]
  rfl

end BuildPipeline.Json

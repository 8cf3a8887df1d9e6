import BuildPipeline.Proofs.JsonNumbers
import Mathlib.Tactic.SplitIfs

/-! Documents that are written and cut into tokens again. Whatever follows a value, as long as it
cannot go on with the value's last token, the scanner finds the tokens of that value. -/
namespace BuildPipeline.Json

/-- The double is what a reader gets from the double's own text. -/
def ReadsBack (x : Float) : Prop := (parse? (render (.double x))).bind double? = some x

instance (x : Float) : Decidable (ReadsBack x) := inferInstanceAs (Decidable (_ = _))

/-- Values that can be written without loss: whole numbers within a machine word, finite doubles
that are read back, and no place without a value. -/
inductive Printable : Json → Prop
  | null : Printable .null
  | bool (b : Bool) : Printable (.bool b)
  | integer {n : Int} (h : FitsWord n) : Printable (.integer n)
  | double {x : Float} (hfinite : Decimal.isFinite x = true) (h : ReadsBack x) :
    Printable (.double x)
  | string (s : String) : Printable (.string s)
  | array {items : List Json} (h : ∀ j ∈ items, Printable j) : Printable (.array items)
  | object {members : List (String × Json)} (h : ∀ m ∈ members, Printable m.2) :
    Printable (.object members)

mutual
def tokensOf : Json → List Token
  | .string s => [.text (some s)]
  | .array [] => [.openBracket, .closeBracket]
  | .array (j :: rest) => .openBracket :: tokensOf j ++ itemTokens rest ++ [.closeBracket]
  | .object [] => [.openBrace, .closeBrace]
  | .object (m :: rest) =>
    .openBrace :: .text (some m.1) :: .colon :: tokensOf m.2 ++ memberTokens rest ++ [.closeBrace]
  | j => [.scalar j]

def itemTokens : List Json → List Token
  | [] => []
  | j :: rest => .comma :: tokensOf j ++ itemTokens rest

def memberTokens : List (String × Json) → List Token
  | [] => []
  | m :: rest => .comma :: .text (some m.1) :: .colon :: tokensOf m.2 ++ memberTokens rest
end

namespace Scanner

/-- The tokens of a text, last first, after those already found. -/
def scan (s : Scanner) (text : List Char) : Option (List Token) := (text.foldlM step s).bind finish

theorem scan_nil (s : Scanner) : scan s [] = finish s := rfl

theorem scan_cons (s : Scanner) (c : Char) (text : List Char) :
    scan s (c :: text) = (step s c).bind (scan · text) := by
  rw [scan, List.foldlM_cons]
  cases step s c <;> rfl

def Stops (text : List Char) : Prop :=
  ∀ c ∈ text.head?, continuesNumber c = false ∧ isLetter c = false

theorem stops_nil : Stops [] := by simp [Stops]

theorem stops_cons {c : Char} {text : List Char} :
    Stops (c :: text) ↔ continuesNumber c = false ∧ isLetter c = false := by simp [Stops]

variable {tokens : List Token}

/-! ### Between tokens -/

theorem scan_newLine (level : Nat) (text : List Char) :
    scan ⟨.between, tokens⟩ (newLine level ++ text) = scan ⟨.between, tokens⟩ text := by
  have hspaces (n : Nat) :
      scan ⟨.between, tokens⟩ (List.replicate n ' ' ++ text) = scan ⟨.between, tokens⟩ text := by
    induction n with
    | zero => rfl
    | succ n ih =>
      rw [List.replicate_succ, List.cons_append, scan_cons]
      exact ih
  rw [newLine, List.cons_append, scan_cons]
  exact hspaces (2 * level)

theorem scan_mark {c : Char} {t : Token}
    (h : ∀ tokens, beginToken tokens c = some ⟨.between, t :: tokens⟩) (text : List Char) :
    scan ⟨.between, tokens⟩ (c :: text) = scan ⟨.between, t :: tokens⟩ text := by
  rw [scan_cons, step, h]
  rfl

/-! ### Numbers and words -/

/-- A token that the next character ends leaves the scanner between tokens. -/
theorem scan_end {s : Scanner} {found : Option (List Token)} {text : List Char}
    (hfinish : finish s = found)
    (hstep : ∀ c ∈ text.head?, step s c = found.bind (beginToken · c)) :
    scan s text = found.bind fun tokens => scan ⟨.between, tokens⟩ text := by
  cases text with
  | nil =>
    rw [scan_nil, hfinish]
    cases found <;> rfl
  | cons c text =>
    rw [scan_cons, hstep c rfl]
    cases found with
    | none => rfl
    | some tokens =>
      rw [Option.bind_some, Option.bind_some, scan_cons]
      rfl

/-- A mode that gathers the characters of a kind goes on to the last of them. -/
theorem scan_gather {mode : List Char → Mode} {p : Char → Bool}
    {ended : List Char → Option (List Token)}
    (hfinish : ∀ seen, finish ⟨mode seen, tokens⟩ = ended seen)
    (hstep : ∀ seen c, step ⟨mode seen, tokens⟩ c =
      if p c then some ⟨mode (c :: seen), tokens⟩ else (ended seen).bind (beginToken · c))
    {seen more text : List Char} (hmore : ∀ c ∈ more, p c = true)
    (htext : ∀ c ∈ text.head?, p c = false) :
    scan ⟨mode seen, tokens⟩ (more ++ text) =
      (ended (more.reverse ++ seen)).bind fun found => scan ⟨.between, found⟩ text := by
  induction more generalizing seen with
  | nil => exact scan_end (hfinish seen) fun c hc => by simp [hstep, htext c hc]
  | cons c more ih =>
    have hc : p c = true := hmore c List.mem_cons_self
    have hrest : scan ⟨mode (c :: seen), tokens⟩ (more ++ text) = _ :=
      ih fun d hd => hmore d (List.mem_cons_of_mem c hd)
    rw [List.cons_append, scan_cons, hstep, if_pos hc, Option.bind_some, hrest, List.reverse_cons,
      List.append_assoc]
    rfl

theorem scan_number {seen more text : List Char} (hmore : ∀ c ∈ more, continuesNumber c = true)
    (h : Stops text) : scan ⟨.number seen, tokens⟩ (more ++ text) =
      (endNumber tokens (more.reverse ++ seen)).bind fun found => scan ⟨.between, found⟩ text :=
  scan_gather (fun _ => rfl) (fun _ _ => rfl) hmore fun c hc => (h c hc).1

theorem scan_word {seen more text : List Char} (hmore : ∀ c ∈ more, isLetter c = true)
    (h : Stops text) : scan ⟨.word seen, tokens⟩ (more ++ text) =
      (endWord tokens (more.reverse ++ seen)).bind fun found => scan ⟨.between, found⟩ text :=
  scan_gather (fun _ => rfl) (fun _ _ => rfl) hmore fun c hc => (h c hc).2

theorem beginToken_number {c : Char} (h : isDigit c = true ∨ c = '-') :
    beginToken tokens c = some ⟨.number [c], tokens⟩ := by
  have hne {d : Char} (hd : (isDigit d || d = '-') = false) : c ≠ d := by
    rintro rfl
    simp_all
  have hspace : isSpace c = false := by
    simp [isSpace, hne (d := ' ') rfl, hne (d := '\n') rfl, hne (d := '\t') rfl,
      hne (d := '\r') rfl]
  simp [beginToken, hspace, h, hne (d := '"') rfl, hne (d := '{') rfl, hne (d := '}') rfl,
    hne (d := '[') rfl, hne (d := ']') rfl, hne (d := ',') rfl, hne (d := ':') rfl]

/-- A number's text is read as a whole. -/
theorem scan_numberText {number text : List Char} (hnumber : NumberText number) (h : Stops text) :
    scan ⟨.between, tokens⟩ (number ++ text) =
      ((Numeral.read number).map Numeral.toJson).bind fun value =>
        scan ⟨.between, .scalar value :: tokens⟩ text := by
  obtain ⟨c, more, rfl, hc⟩ := hnumber.start
  have hmore : ∀ d ∈ more, continuesNumber d = true := fun d hd =>
    hnumber.within d (List.mem_cons_of_mem c hd)
  have hend : endNumber tokens (more.reverse ++ [c]) =
      (Numeral.read (c :: more)).map fun n => .scalar n.toJson :: tokens := by
    rw [endNumber, List.reverse_append, List.reverse_reverse]
    rfl
  rw [List.cons_append, scan_cons, step, beginToken_number hc, Option.bind_some,
    scan_number hmore h, hend]
  cases Numeral.read (c :: more) <;> rfl

theorem scan_literal {c : Char} {more : List Char} {value : Json}
    (hbegin : ∀ tokens, beginToken tokens c = some ⟨.word [c], tokens⟩)
    (hmore : ∀ c ∈ more, isLetter c = true) (hvalue : literal? (c :: more) = some value)
    {text : List Char} (h : Stops text) :
    scan ⟨.between, tokens⟩ (c :: more ++ text) =
      scan ⟨.between, .scalar value :: tokens⟩ text := by
  have hend : endWord tokens (more.reverse ++ [c]) = some (.scalar value :: tokens) := by
    simp [endWord, hvalue]
  rw [List.cons_append, scan_cons, step, hbegin, Option.bind_some, scan_word hmore h, hend,
    Option.bind_some]

/-! ### Strings -/

theorem hexValue?_hexDigit : ∀ n < 16, hexValue? (hexDigit n) = some n := by decide

theorem scan_escaped {t : TextSoFar} {c e : Char} (h : escaped? e = some c) (text : List Char) :
    scan ⟨.text t, tokens⟩ ('\\' :: e :: text) = scan ⟨.text (t.addChar c), tokens⟩ text := by
  have he : e ≠ 'u' := by
    rintro rfl
    have hnone : escaped? 'u' = none := by decide
    simp [hnone] at h
  have hescape : step ⟨.escape t, tokens⟩ e = some ⟨.text (t.addChar c), tokens⟩ := by
    simp [step, he, h]
  rw [scan_cons]
  change scan ⟨.escape t, tokens⟩ (e :: text) = _
  rw [scan_cons, hescape, Option.bind_some]

theorem scan_unit (tokens : List Token) (t : TextSoFar) {a b : Nat} (ha : a < 16) (hb : b < 16)
    (text : List Char) :
    scan ⟨.text t, tokens⟩ ('\\' :: 'u' :: '0' :: '0' :: hexDigit a :: hexDigit b :: text) =
      scan ⟨.text (t.addUnit (a * 16 + b)), tokens⟩ text := by
  have hfirst : step ⟨.hex t 2 0, tokens⟩ (hexDigit a) = some ⟨.hex t 1 a, tokens⟩ := by
    simp [step, hexValue?_hexDigit a ha]
  have hsecond : step ⟨.hex t 1 a, tokens⟩ (hexDigit b) =
      some ⟨.text (t.addUnit (a * 16 + b)), tokens⟩ := by
    simp [step, hexValue?_hexDigit b hb]
  -- one character after the other, down to the two digits that count
  rw [scan_cons]
  change scan ⟨.escape t, tokens⟩ ('u' :: _) = _
  rw [scan_cons]
  change scan ⟨.hex t 4 0, tokens⟩ ('0' :: _) = _
  rw [scan_cons]
  change scan ⟨.hex t 3 0, tokens⟩ ('0' :: _) = _
  rw [scan_cons]
  change scan ⟨.hex t 2 0, tokens⟩ (hexDigit a :: hexDigit b :: text) = _
  rw [scan_cons, hfirst, Option.bind_some, scan_cons, hsecond, Option.bind_some]

theorem addUnit_control {seen : List Char} {c : Char} (h : c.toNat < 0x20) :
    TextSoFar.addUnit ⟨seen, none, true⟩ c.toNat = ⟨c :: seen, none, true⟩ := by
  have hhigh : TextSoFar.isHighSurrogate c.toNat = false := by
    simp only [TextSoFar.isHighSurrogate, Bool.and_eq_false_iff, decide_eq_false_iff_not]
    omega
  have hlow : TextSoFar.isLowSurrogate c.toNat = false := by
    simp only [TextSoFar.isLowSurrogate, Bool.and_eq_false_iff, decide_eq_false_iff_not]
    omega
  simp [TextSoFar.addUnit, hhigh, hlow]

/-- A character in quotes is read back, escaped or not. -/
theorem scan_escapeChar (c : Char) (seen text : List Char) :
    scan ⟨.text ⟨seen, none, true⟩, tokens⟩ (escapeChar c ++ text) =
      scan ⟨.text ⟨c :: seen, none, true⟩, tokens⟩ text := by
  have hcode {n : Nat} (h : c.toNat = n) : Char.ofNat n = c := by rw [← h, Char.ofNat_toNat]
  unfold escapeChar
  split_ifs with hquote hslash hline hreturn htab hback hfeed hcontrol
  · subst hquote
    exact scan_escaped rfl text
  · subst hslash
    exact scan_escaped rfl text
  · subst hline
    exact scan_escaped rfl text
  · subst hreturn
    exact scan_escaped rfl text
  · subst htab
    exact scan_escaped rfl text
  · have hb : escaped? 'b' = some c := congrArg some (hcode hback)
    exact scan_escaped hb text
  · have hf : escaped? 'f' = some c := congrArg some (hcode hfeed)
    exact scan_escaped hf text
  · have hunit : c.toNat / 16 * 16 + c.toNat % 16 = c.toNat := Nat.div_add_mod' ..
    have hhigh : c.toNat / 16 < 16 := by omega
    have hlow : c.toNat % 16 < 16 := by omega
    have hscan := scan_unit tokens ⟨seen, none, true⟩ hhigh hlow text
    rw [hunit, addUnit_control hcontrol] at hscan
    exact hscan
  · have hplain : step ⟨.text ⟨seen, none, true⟩, tokens⟩ c =
        some ⟨.text ⟨c :: seen, none, true⟩, tokens⟩ := by
      simp [step, hquote, hslash, hcontrol, TextSoFar.addChar]
    rw [List.cons_append, scan_cons, hplain]
    rfl

theorem scan_quoted (tokens : List Token) (cs seen text : List Char) :
    scan ⟨.text ⟨seen, none, true⟩, tokens⟩ (cs.flatMap escapeChar ++ '"' :: text) =
      scan ⟨.between, .text (some (String.ofList (seen.reverse ++ cs))) :: tokens⟩ text := by
  induction cs generalizing seen with
  | nil =>
    rw [List.flatMap_nil, List.nil_append, scan_cons, List.append_nil]
    rfl
  | cons c cs ih =>
    rw [List.flatMap_cons, List.append_assoc, scan_escapeChar, ih, List.reverse_cons,
      List.append_assoc]
    rfl

theorem scan_quote (s : String) (text : List Char) :
    scan ⟨.between, tokens⟩ (quote s ++ text) = scan ⟨.between, .text (some s) :: tokens⟩ text := by
  have hquoted := scan_quoted tokens s.toList [] text
  rw [List.reverse_nil, List.nil_append, String.ofList_toList] at hquoted
  rw [quote, List.cons_append, List.cons_append, List.append_assoc, scan_cons]
  exact hquoted

/-! ### Values -/

theorem stops_newLine (level : Nat) (text : List Char) : Stops (newLine level ++ text) :=
  stops_cons.2 (by decide)

theorem stops_printItems (level : Nat) (items : List Json) {text : List Char} (h : Stops text) :
    Stops (printItems level items ++ text) := by
  cases items with
  | nil => exact h
  | cons j rest => exact stops_cons.2 (by decide)

theorem stops_printMembers (level : Nat) (members : List (String × Json)) {text : List Char}
    (h : Stops text) : Stops (printMembers level members ++ text) := by
  cases members with
  | nil => exact h
  | cons m rest => exact stops_cons.2 (by decide)

/-- A written value is found as its tokens, at every level. -/
def Scanned (j : Json) : Prop :=
  ∀ (level : Nat) (tokens : List Token) (text : List Char), Stops text →
    scan ⟨.between, tokens⟩ (print level j ++ text) =
      scan ⟨.between, (tokensOf j).reverse ++ tokens⟩ text

theorem scan_printItems {items : List Json} (hitems : ∀ j ∈ items, Scanned j) (level : Nat)
    (tokens : List Token) {text : List Char} (h : Stops text) :
    scan ⟨.between, tokens⟩ (printItems level items ++ text) =
      scan ⟨.between, (itemTokens items).reverse ++ tokens⟩ text := by
  induction items generalizing tokens with
  | nil => rfl
  | cons j rest ih =>
    have hj := hitems j List.mem_cons_self level (.comma :: tokens) _
      (stops_printItems level rest h)
    have hrest := ih (fun k hk => hitems k (List.mem_cons_of_mem j hk))
      ((tokensOf j).reverse ++ .comma :: tokens)
    simp only [printItems, itemTokens, List.cons_append, List.append_assoc, List.reverse_cons,
      List.reverse_append]
    rw [scan_mark (fun _ => rfl), scan_newLine, hj, hrest]
    rfl

theorem scan_member {m : String × Json} (hm : Scanned m.2) (level : Nat) (tokens : List Token)
    {text : List Char} (h : Stops text) :
    scan ⟨.between, tokens⟩ (quote m.1 ++ ':' :: ' ' :: (print level m.2 ++ text)) =
      scan ⟨.between, (tokensOf m.2).reverse ++ .colon :: .text (some m.1) :: tokens⟩ text := by
  have hspace (text : List Char) :
      scan ⟨.between, .colon :: .text (some m.1) :: tokens⟩ (' ' :: text) =
        scan ⟨.between, .colon :: .text (some m.1) :: tokens⟩ text := by
    rw [scan_cons]
    rfl
  rw [scan_quote, scan_mark (fun _ => rfl), hspace, hm level _ _ h]

theorem scan_printMembers {members : List (String × Json)}
    (hmembers : ∀ m ∈ members, Scanned m.2) (level : Nat) (tokens : List Token)
    {text : List Char} (h : Stops text) :
    scan ⟨.between, tokens⟩ (printMembers level members ++ text) =
      scan ⟨.between, (memberTokens members).reverse ++ tokens⟩ text := by
  induction members generalizing tokens with
  | nil => rfl
  | cons m rest ih =>
    have hm := scan_member (hmembers m List.mem_cons_self) level (.comma :: tokens)
      (stops_printMembers level rest h)
    have hrest := ih (fun k hk => hmembers k (List.mem_cons_of_mem m hk))
      ((tokensOf m.2).reverse ++ .colon :: .text (some m.1) :: .comma :: tokens)
    simp only [printMembers, memberTokens, List.cons_append, List.append_assoc, List.reverse_cons,
      List.reverse_append]
    rw [scan_mark (fun _ => rfl), scan_newLine, hm, hrest]
    rfl

theorem parse?_render_double {x : Float} (hfinite : Decimal.isFinite x = true) :
    parse? (render (.double x)) = (Numeral.read (printDouble x)).map Numeral.toJson := by
  have hscan : scan ⟨.between, []⟩ (printDouble x ++ []) = _ :=
    scan_numberText (numberText_printDouble hfinite) stops_nil
  rw [List.append_nil] at hscan
  have htokens : tokens? (render (.double x)).toList =
      (scan .start (printDouble x)).map List.reverse := by
    rw [render, String.toList_ofList]
    rfl
  rw [parse?, htokens, start, hscan]
  cases (Numeral.read (printDouble x)).map Numeral.toJson <;> rfl

/-- A double that is read back is read as a double. -/
theorem toJson_of_readsBack {x : Float} (hfinite : Decimal.isFinite x = true) (h : ReadsBack x) :
    (Numeral.read (printDouble x)).map Numeral.toJson = some (.double x) := by
  rw [ReadsBack, parse?_render_double hfinite] at h
  obtain ⟨value, hvalue, hdouble⟩ := Option.bind_eq_some_iff.1 h
  obtain ⟨n, hread, rfl⟩ := Option.map_eq_some_iff.1 hvalue
  -- the point or exponent rules out the other way to read a number
  have hplain := isPlainWhole_of_read_printDouble hfinite hread
  have hinteger : n.integer? = none := by simp [Numeral.integer?, hplain]
  rw [hvalue, Numeral.toJson, hinteger]
  rw [Numeral.toJson, hinteger] at hdouble
  cases hn : n.double? with
  | none => simp [hn, double?] at hdouble
  | some y => simpa [hn, double?] using hdouble

theorem scanned_of_printable {j : Json} (h : Printable j) : Scanned j := by
  induction h with
  | null =>
    exact fun _ _ _ hstop => scan_literal (fun _ => rfl) (List.all_eq_true.1 rfl) rfl hstop
  | bool b =>
    cases b with
    | true | false =>
      exact fun _ _ _ hstop => scan_literal (fun _ => rfl) (List.all_eq_true.1 rfl) rfl hstop
  | @integer n h =>
    intro level tokens text hstop
    rw [print, scan_numberText (numberText_printInteger n) hstop, read_printInteger h]
    rfl
  | double hfinite h =>
    intro level tokens text hstop
    rw [print, scan_numberText (numberText_printDouble hfinite) hstop,
      toJson_of_readsBack hfinite h]
    rfl
  | string s => exact fun _ _ text _ => scan_quote s text
  | @array items _ ih =>
    intro level tokens text _
    cases items with
    | nil => rfl
    | cons j rest =>
      have hend : Stops (newLine level ++ ']' :: text) := stops_newLine level _
      have hj := ih j List.mem_cons_self (level + 1) (.openBracket :: tokens) _
        (stops_printItems (level + 1) rest hend)
      -- the closing bracket stands on a line of its own, and the line break ends any token
      have hrest := scan_printItems (fun k hk => ih k (List.mem_cons_of_mem j hk)) (level + 1)
        ((tokensOf j).reverse ++ .openBracket :: tokens) hend
      simp only [print, tokensOf, List.cons_append, List.append_assoc, List.reverse_cons,
        List.reverse_append, List.nil_append]
      rw [scan_mark (fun _ => rfl), scan_newLine, hj, hrest, scan_newLine, scan_mark (fun _ => rfl)]
      rfl
  | @object members _ ih =>
    intro level tokens text _
    cases members with
    | nil => rfl
    | cons m rest =>
      have hend : Stops (newLine level ++ '}' :: text) := stops_newLine level _
      have hm := scan_member (ih m List.mem_cons_self) (level + 1) (.openBrace :: tokens)
        (stops_printMembers (level + 1) rest hend)
      have hrest := scan_printMembers (fun k hk => ih k (List.mem_cons_of_mem m hk)) (level + 1)
        ((tokensOf m.2).reverse ++ .colon :: .text (some m.1) :: .openBrace :: tokens) hend
      simp only [print, tokensOf, List.cons_append, List.append_assoc, List.reverse_cons,
        List.reverse_append, List.nil_append]
      rw [scan_mark (fun _ => rfl), scan_newLine, hm, hrest, scan_newLine, scan_mark (fun _ => rfl)]
      rfl

end Scanner

theorem tokens?_print {j : Json} (h : Printable j) : tokens? (print 0 j) = some (tokensOf j) := by
  have hscan := Scanner.scanned_of_printable h 0 [] [] Scanner.stops_nil
  rw [List.append_nil, List.append_nil] at hscan
  change (Scanner.scan .start (print 0 j)).map List.reverse = _
  rw [Scanner.start, hscan, Scanner.scan_nil, Scanner.finish, Option.map_some, List.reverse_reverse]

end BuildPipeline.Json

import Mathlib.Data.List.TakeWhile
import SchemaScaffold.Proofs.Balanced
import SchemaScaffold.Script.Statements

/-!
# Closed texts

A text is closed when nothing in it goes on behind its end: no quoted run, no comment and no body
between dollar signs. Semicolons between closed texts are the only places where a script is cut, so
the statements of the script are the texts themselves.
-/

namespace SchemaScaffold.Script

/-- Two characters that open a comment or a body between dollar signs. -/
def opensGap (c d : Char) : Bool := c == d && (c == '-' || c == '$') || c == '/' && d == '*'

/-- A text that leaves no quoted run, comment or body between dollar signs open, and that has no
semicolon outside of them. -/
inductive Closed : List Char → Prop where
  | nil : Closed []
  | quoted {quote : Char} {run rest : List Char} (hquote : isQuote quote)
      (hrun : IsRun quote run) (hrest : Closed rest) : Closed (quote :: run ++ quote :: rest)
  | dashes {line rest : List Char} (hline : '\n' ∉ line) (hrest : Closed rest) :
      Closed ('-' :: '-' :: line ++ '\n' :: rest)
  | hash {line rest : List Char} (hline : '\n' ∉ line) (hrest : Closed rest) :
      Closed ('#' :: line ++ '\n' :: rest)
  | block {body rest : List Char} (hbody : ¬['*', '/'] <:+: body ++ ['*'])
      (hrest : Closed rest) : Closed ('/' :: '*' :: body ++ '*' :: '/' :: rest)
  | dollars {body rest : List Char} (hbody : ¬['$', '$'] <:+: body ++ ['$'])
      (hrest : Closed rest) : Closed ('$' :: '$' :: body ++ '$' :: '$' :: rest)
  | char {c : Char} {rest : List Char} (hquote : isQuote c = false) (hc : c ≠ ';' ∧ c ≠ '#')
      (hpair : ∀ d ∈ rest.head?, opensGap c d = false) (hrest : Closed rest) : Closed (c :: rest)

theorem IsRun.of_all {quote : Char} {run : List Char}
    (h : run.all fun c => c != quote && c != '\\') : IsRun quote run := by
  induction run with
  | nil => exact .nil
  | cons c rest ih =>
      simp only [List.all_cons, Bool.and_eq_true, bne_iff_ne] at h
      obtain ⟨⟨hquote, hescape⟩, hrest⟩ := h
      exact .char hquote (fun hc => absurd hc hescape) (ih hrest)

/-- A character that opens nothing and separates nothing, whatever stands around it. -/
def isPlain (c : Char) : Bool := !isQuote c && !";#-/$".toList.contains c

theorem Closed.plain_append {plain rest : List Char} (hplain : plain.all isPlain)
    (hrest : Closed rest) : Closed (plain ++ rest) := by
  induction plain with
  | nil => exact hrest
  | cons c more ih =>
      rw [List.all_cons, Bool.and_eq_true] at hplain
      have hc := hplain.1
      simp only [isPlain, Bool.and_eq_true, Bool.not_eq_true'] at hc
      obtain ⟨hquote, hmarks⟩ := hc
      rw [← Bool.not_eq_true, List.contains_iff_mem] at hmarks
      have hne : ∀ mark ∈ ";#-/$".toList, c ≠ mark := by
        rintro mark hmark rfl
        exact hmarks hmark
      have hopens : ∀ d, opensGap c d = false := by
        intro d
        simp [opensGap, hne '-' (by decide), hne '$' (by decide), hne '/' (by decide)]
      exact .char hquote ⟨hne ';' (by decide), hne '#' (by decide)⟩ (fun d _ => hopens d)
        (ih hplain.2)

theorem isPlain_of_isBlank {c : Char} (h : Text.isBlank c) : isPlain c := by
  have hmarks : (backtick :: "'\";#-/$".toList).all fun mark => !Text.isBlank mark := by decide
  have hne : ∀ mark ∈ backtick :: "'\";#-/$".toList, c ≠ mark := by
    rintro mark hmark rfl
    have hblank := List.all_eq_true.mp hmarks c hmark
    simp [h] at hblank
  simp at hne
  simp [isPlain, isQuote, hne]

/-! ### Passing over what is closed -/

theorem skipLine_append {line : List Char} (hline : '\n' ∉ line) (passed rest : List Char) :
    skipLine passed (line ++ '\n' :: rest) = ⟨'\n' :: (line.reverse ++ passed), rest⟩ := by
  induction line generalizing passed with
  | nil => rfl
  | cons c more ih =>
      rw [List.mem_cons, not_or] at hline
      have hc : (c == '\n') = false := by
        rw [beq_eq_false_iff_ne]
        exact Ne.symm hline.1
      simp [skipLine, hc, ih hline.2]

theorem skipPast_append {a b : Char} {body : List Char} (hbody : ¬[a, b] <:+: body ++ [a])
    (passed rest : List Char) :
    skipPast a b passed (body ++ a :: b :: rest) = ⟨b :: a :: (body.reverse ++ passed), rest⟩ := by
  induction body generalizing passed with
  | nil => simp [skipPast]
  | cons c more ih =>
      have hmore : ¬[a, b] <:+: more ++ [a] := fun h => hbody (List.infix_cons h)
      obtain ⟨d, others, hothers⟩ : ∃ d others, more ++ [a] = d :: others := by
        cases more <;> simp
      have hpair : (c == a && d == b) = false := by
        rw [← Bool.not_eq_true, Bool.and_eq_true, beq_iff_eq, beq_iff_eq]
        rintro ⟨rfl, rfl⟩
        apply hbody
        rw [List.cons_append, hothers]
        exact (List.prefix_append [c, d] others).isInfix
      have htext : more ++ a :: b :: rest = d :: (others ++ b :: rest) := by
        rw [← List.cons_append, ← hothers]
        simp
      have hlater := ih hmore (c :: passed)
      rw [htext] at hlater
      rw [List.cons_append, htext, skipPast, hpair]
      simp [hlater]

theorem skipItem_quote {quote : Char} (hquote : isQuote quote) (passed rest : List Char) :
    skipItem passed quote rest = skipQuoted quote (quote :: passed) rest := by
  unfold skipItem
  exact if_pos hquote

theorem skipItem_char {c : Char} {rest : List Char} (hquote : isQuote c = false) (hc : c ≠ '#')
    (hpair : ∀ d ∈ rest.head?, opensGap c d = false) (passed : List Char) :
    skipItem passed c rest = ⟨c :: passed, rest⟩ := by
  unfold skipItem
  rw [if_neg (by simp [hquote])]
  split
  case h_2 => exact absurd rfl hc
  case h_5 => rfl
  all_goals exact absurd (hpair _ rfl) (by decide)

theorem piecesFrom_cons {c : Char} (hc : c ≠ ';') (passed rest : List Char) :
    piecesFrom passed (c :: rest) =
      piecesFrom (skipItem passed c rest).passed (skipItem passed c rest).ahead := by
  rw [piecesFrom.eq_def]
  simp [hc]

theorem ne_semicolon_of_isQuote {quote : Char} (h : isQuote quote) : quote ≠ ';' := by
  rintro rfl
  revert h
  decide

/-- A closed text is passed over whole when a semicolon or the end of the script follows. -/
theorem piecesFrom_append {text : List Char} (h : Closed text) (passed : List Char)
    {stop : List Char} (hstop : ∀ c ∈ stop.head?, c = ';') :
    piecesFrom passed (text ++ stop) = piecesFrom (text.reverse ++ passed) stop := by
  induction h generalizing passed with
  | nil => rfl
  | @quoted quote run rest hquote hrun _ ih =>
      have hquoted : ∀ before more, piecesFrom before (quote :: more) =
          piecesFrom (skipQuoted quote (quote :: before) more).passed
            (skipQuoted quote (quote :: before) more).ahead := by
        intro before more
        rw [piecesFrom_cons (ne_semicolon_of_isQuote hquote), skipItem_quote hquote]
      have hrest := ih (quote :: (run.reverse ++ quote :: passed))
      have htext : quote :: run ++ quote :: rest ++ stop =
          quote :: (run ++ quote :: (rest ++ stop)) := by simp
      rw [htext, hquoted, skipQuoted_run hquote hrun]
      split
      -- The run goes on with a doubled quote, as it does when the rest is read on its own.
      · rename_i hhead
        obtain ⟨tail, htail⟩ := List.head?_eq_some_iff.mp hhead
        rw [htail, hquoted] at hrest
        rw [htail, List.tail_cons, hrest]
        simp
      · rw [hrest]
        simp
  | @dashes line rest hline _ ih =>
      have hskip : skipItem passed '-' ('-' :: (line ++ '\n' :: (rest ++ stop))) =
          ⟨'\n' :: (line.reverse ++ '-' :: '-' :: passed), rest ++ stop⟩ :=
        skipLine_append hline _ _
      have htext : '-' :: '-' :: line ++ '\n' :: rest ++ stop =
          '-' :: '-' :: (line ++ '\n' :: (rest ++ stop)) := by simp
      rw [htext, piecesFrom_cons (by decide), hskip, ih]
      simp
  | @hash line rest hline _ ih =>
      have hskip : skipItem passed '#' (line ++ '\n' :: (rest ++ stop)) =
          ⟨'\n' :: (line.reverse ++ '#' :: passed), rest ++ stop⟩ := skipLine_append hline _ _
      have htext : '#' :: line ++ '\n' :: rest ++ stop =
          '#' :: (line ++ '\n' :: (rest ++ stop)) := by simp
      rw [htext, piecesFrom_cons (by decide), hskip, ih]
      simp
  | @block body rest hbody _ ih =>
      have hskip : skipItem passed '/' ('*' :: (body ++ '*' :: '/' :: (rest ++ stop))) =
          ⟨'/' :: '*' :: (body.reverse ++ '*' :: '/' :: passed), rest ++ stop⟩ :=
        skipPast_append hbody _ _
      have htext : '/' :: '*' :: body ++ '*' :: '/' :: rest ++ stop =
          '/' :: '*' :: (body ++ '*' :: '/' :: (rest ++ stop)) := by simp
      rw [htext, piecesFrom_cons (by decide), hskip, ih]
      simp
  | @dollars body rest hbody _ ih =>
      have hskip : skipItem passed '$' ('$' :: (body ++ '$' :: '$' :: (rest ++ stop))) =
          ⟨'$' :: '$' :: (body.reverse ++ '$' :: '$' :: passed), rest ++ stop⟩ :=
        skipPast_append hbody _ _
      have htext : '$' :: '$' :: body ++ '$' :: '$' :: rest ++ stop =
          '$' :: '$' :: (body ++ '$' :: '$' :: (rest ++ stop)) := by simp
      rw [htext, piecesFrom_cons (by decide), hskip, ih]
      simp
  | @char c rest hquote hc hpair _ ih =>
      have hnext : ∀ d ∈ (rest ++ stop).head?, opensGap c d = false := by
        intro d hd
        cases rest with
        | nil =>
            obtain rfl := hstop d hd
            simp [opensGap, hc]
        | cons first others => exact hpair d hd
      rw [List.cons_append, piecesFrom_cons hc.1, skipItem_char hquote hc.2 hnext, ih]
      simp

/-! ### Scripts of closed texts -/

theorem pieces_intercalate {texts : List (List Char)} (hne : texts ≠ [])
    (hclosed : ∀ text ∈ texts, Closed text) : pieces ([';'].intercalate texts) = texts := by
  induction texts with
  | nil => exact absurd rfl hne
  | cons text rest ih =>
      rw [List.forall_mem_cons] at hclosed
      cases rest with
      | nil =>
          have hend : ∀ c ∈ ([] : List Char).head?, c = ';' := by simp
          have hlast := piecesFrom_append hclosed.1 [] hend
          rw [List.append_nil] at hlast
          rw [List.intercalate_singleton, pieces, hlast, piecesFrom.eq_def]
          simp
      | cons second others =>
          have hothers := ih (by simp) hclosed.2
          have hstop : ∀ c ∈ (';' :: [';'].intercalate (second :: others)).head?, c = ';' := by
            simp
          have hfirst := piecesFrom_append hclosed.1 [] hstop
          rw [pieces] at hothers
          rw [List.intercalate_cons_cons, List.append_assoc, List.singleton_append, pieces, hfirst,
            piecesFrom.eq_def]
          simp [hothers]

structure ClosedText where
  text : String
  closed : Closed text.toList

def ofTexts (texts : List ClosedText) : String := ";".intercalate (texts.map (·.text))

/-- The statements of a script of closed texts are the texts that are not blank. -/
theorem statements_ofTexts (texts : List ClosedText) :
    statements (ofTexts texts) =
      (texts.map fun text => Text.trim text.text).filter fun text => !text.isEmpty := by
  have hclosed : ∀ chars ∈ texts.map (·.text.toList), Closed chars := by
    intro chars hmem
    obtain ⟨text, -, rfl⟩ := List.mem_map.mp hmem
    exact text.closed
  have hchars : (ofTexts texts).toList = [';'].intercalate (texts.map (·.text.toList)) := by
    simp [ofTexts, String.toList_intercalate, Function.comp_def]
  have hempty : ∀ chars : List Char, (String.ofList chars).isEmpty = chars.isEmpty := by
    intro chars
    cases chars <;> simp
  cases texts with
  | nil =>
      rw [statements, statementLists, hchars]
      simp [pieces, piecesFrom.eq_def, Text.trimList, Text.trimStart, Text.trimEnd]
  | cons text rest =>
      rw [statements, statementLists, hchars, pieces_intercalate (by simp) hclosed]
      simp only [List.map_map, List.filter_map, Function.comp_def, Text.trim, hempty]

theorem statements_of_isBlankText {script : String} (h : Text.isBlankText script) :
    statements script = [] := by
  rw [Text.isBlankText_eq, List.all_eq_true] at h
  have hclosed : Closed script.toList := by
    have hall : script.toList.all isPlain :=
      List.all_eq_true.mpr fun c hc => isPlain_of_isBlank (h c hc)
    have hplain := Closed.plain_append hall .nil
    rwa [List.append_nil] at hplain
  have hscript : ofTexts [⟨script, hclosed⟩] = script := by simp [ofTexts]
  have htrim : Text.trimList script.toList = [] := by
    rw [Text.trimList, Text.trimStart, List.dropWhile_eq_nil_iff.mpr h]
    rfl
  have hstatements := statements_ofTexts [⟨script, hclosed⟩]
  rw [hscript] at hstatements
  simp [hstatements, Text.trim, htrim]

end SchemaScaffold.Script

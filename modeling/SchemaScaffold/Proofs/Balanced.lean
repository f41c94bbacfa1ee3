import Mathlib.Data.List.Basic
import SchemaScaffold.Script.TableOptions

/-!
# Balanced texts

The scan for the options of a table knows brackets and quoted runs and nothing else. It passes over
a text in which both are closed, wherever the text stands, and so it finds what follows the first
bracket of a statement when the text up to the bracket that closes it is balanced.
-/

namespace SchemaScaffold.Script

/-- What may stand between the quotes of a closed run: doubled quotes, escaped characters and other
characters than the quote. Between backticks a backslash is a character like any other. -/
inductive IsRun (quote : Char) : List Char → Prop where
  | nil : IsRun quote []
  | doubled {run : List Char} (hrun : IsRun quote run) : IsRun quote (quote :: quote :: run)
  | escaped (c : Char) {run : List Char} (hquote : quote ≠ backtick) (hrun : IsRun quote run) :
      IsRun quote ('\\' :: c :: run)
  | char {c : Char} {run : List Char} (hc : c ≠ quote) (hslash : c = '\\' → quote = backtick)
      (hrun : IsRun quote run) : IsRun quote (c :: run)

def isMark (c : Char) : Bool := isQuote c || c == '(' || c == ')'

/-- A text whose quoted runs and brackets are closed. -/
inductive Balanced : List Char → Prop where
  | nil : Balanced []
  | char {c : Char} {rest : List Char} (hc : isMark c = false) (hrest : Balanced rest) :
      Balanced (c :: rest)
  | quoted {quote : Char} {run rest : List Char} (hquote : isQuote quote)
      (hrun : IsRun quote run) (hrest : Balanced rest) :
      Balanced (quote :: run ++ quote :: rest)
  | nested {body rest : List Char} (hbody : Balanced body) (hrest : Balanced rest) :
      Balanced ('(' :: body ++ ')' :: rest)

namespace Balanced

theorem append {before after : List Char} (hbefore : Balanced before) (hafter : Balanced after) :
    Balanced (before ++ after) := by
  induction hbefore with
  | nil => exact hafter
  | char hc _ ih => exact .char hc ih
  | quoted hquote hrun _ ih =>
      rw [List.append_assoc, List.cons_append]
      exact .quoted hquote hrun ih
  | nested hbody _ _ ih =>
      rw [List.append_assoc, List.cons_append]
      exact .nested hbody ih

theorem of_any_isMark {chars : List Char} (h : chars.any isMark = false) : Balanced chars := by
  induction chars with
  | nil => exact .nil
  | cons c rest ih =>
      rw [List.any_cons, Bool.or_eq_false_iff] at h
      exact .char h.1 (ih h.2)

theorem run {quote : Char} {run : List Char} (hquote : isQuote quote) (hrun : IsRun quote run) :
    Balanced (quote :: run ++ [quote]) :=
  .quoted hquote hrun .nil

end Balanced

/-! ### Passing over quoted runs -/

theorem ne_backslash_of_isQuote {quote : Char} (h : isQuote quote) : quote ≠ '\\' := by
  rintro rfl
  revert h
  decide

/-- What lies ahead of a quoted run does not depend on what was passed before it. -/
theorem ahead_skipQuoted_passed (quote : Char) (passed other text : List Char) :
    (skipQuoted quote passed text).ahead = (skipQuoted quote other text).ahead := by
  fun_induction skipQuoted quote passed text generalizing other with
  | case1 => rfl
  | case2 => rfl
  | case3 _ c d more hescape ih =>
      rw [skipQuoted, if_pos hescape]
      exact ih _
  | case4 _ c d more hescape hc hd ih =>
      rw [skipQuoted, if_neg hescape, if_pos hc, if_pos hd]
      exact ih _
  | case5 _ c d more hescape hc hd => rw [skipQuoted, if_neg hescape, if_pos hc, if_neg hd]
  | case6 _ c d more hescape hc ih =>
      rw [skipQuoted, if_neg hescape, if_neg hc]
      exact ih _

/-- A run is passed over with its closing quote, and a run that begins right behind it is passed
over as well, because two quotes in a row are read as one inside. -/
theorem skipQuoted_run {quote : Char} (hquote : isQuote quote) {run : List Char}
    (hrun : IsRun quote run) (passed rest : List Char) :
    skipQuoted quote passed (run ++ quote :: rest) =
      if rest.head? = some quote then
        skipQuoted quote (quote :: quote :: (run.reverse ++ passed)) rest.tail
      else ⟨quote :: (run.reverse ++ passed), rest⟩ := by
  have hslash := ne_backslash_of_isQuote hquote
  induction hrun generalizing passed with
  | nil =>
      cases rest with
      | nil => simp [skipQuoted]
      | cons d more =>
          by_cases hd : d = quote
          · simp [skipQuoted, hd, hslash]
          · simp [skipQuoted, hd, hslash]
  | doubled _ ih => simp [skipQuoted, hslash, ih]
  | escaped c hne _ ih => simp [skipQuoted, hne, ih]
  | @char c run hc hplain _ ih =>
      have hkept : (c == '\\' && quote != backtick) = false := by
        rw [← Bool.not_eq_true, Bool.and_eq_true, beq_iff_eq, bne_iff_ne]
        exact fun hescape => hescape.2 (hplain hescape.1)
      obtain ⟨d, more, hmore⟩ : ∃ d more, run ++ quote :: rest = d :: more := by
        cases run <;> simp
      rw [hmore] at ih
      rw [List.cons_append, hmore, skipQuoted, hkept]
      simp [hc, ih]

theorem ahead_skipQuoted {quote : Char} (hquote : isQuote quote) {run : List Char}
    (hrun : IsRun quote run) (passed rest : List Char) :
    (skipQuoted quote passed (run ++ quote :: rest)).ahead =
      if rest.head? = some quote then (skipQuoted quote [] rest.tail).ahead else rest := by
  rw [skipQuoted_run hquote hrun]
  split
  · exact ahead_skipQuoted_passed ..
  · rfl

/-! ### Passing over balanced texts -/

section

variable (depth : Nat) (rest : List Char)

theorem afterClosing_quote {quote : Char} (hquote : isQuote quote) :
    afterClosing depth (quote :: rest) = afterClosing depth (skipQuoted quote [] rest).ahead := by
  rw [afterClosing.eq_def]
  exact if_pos hquote

theorem afterClosing_open : afterClosing depth ('(' :: rest) = afterClosing (depth + 1) rest := by
  rw [afterClosing.eq_def]
  rfl

theorem afterClosing_close :
    afterClosing (depth + 2) (')' :: rest) = afterClosing (depth + 1) rest := by
  rw [afterClosing.eq_def]
  rfl

theorem afterClosing_close_one : afterClosing 1 (')' :: rest) = some rest := by
  rw [afterClosing.eq_def]
  rfl

theorem afterClosing_other {c : Char} (hc : isMark c = false) :
    afterClosing depth (c :: rest) = afterClosing depth rest := by
  simp only [isMark, Bool.or_eq_false_iff] at hc
  rw [afterClosing.eq_def]
  simp [hc]

end

theorem afterClosing_append {text : List Char} (h : Balanced text) (depth : Nat)
    (rest : List Char) :
    afterClosing (depth + 1) (text ++ rest) = afterClosing (depth + 1) rest := by
  induction h generalizing depth rest with
  | nil => rfl
  | char hc _ ih => rw [List.cons_append, afterClosing_other _ _ hc, ih]
  | @quoted quote run more hquote hrun _ ih =>
      rw [List.append_assoc, List.cons_append, List.cons_append, afterClosing_quote _ _ hquote,
        ahead_skipQuoted hquote hrun]
      have hmore := ih depth rest
      split
      · rename_i hhead
        obtain ⟨tail, htail⟩ := List.head?_eq_some_iff.mp hhead
        rw [htail, afterClosing_quote _ _ hquote] at hmore
        rw [htail, List.tail_cons, hmore]
      · exact hmore
  | nested _ _ ihbody ih =>
      rw [List.append_assoc, List.cons_append, List.cons_append, afterClosing_open, ihbody,
        afterClosing_close, ih]

/-! ### What the scan has passed -/

theorem exists_run_of_skipQuoted {quote : Char} (hquote : isQuote quote) {passed text : List Char}
    (h : (skipQuoted quote passed text).ahead ≠ []) :
    ∃ run, IsRun quote run ∧ text = run ++ quote :: (skipQuoted quote passed text).ahead := by
  have hslash := ne_backslash_of_isQuote hquote
  fun_induction skipQuoted quote passed text with
  | case1 => exact absurd rfl h
  | case2 => exact absurd rfl h
  | case3 _ c d more hescape ih =>
      obtain ⟨run, hrun, hmore⟩ := ih h
      simp only [Bool.and_eq_true, beq_iff_eq, bne_iff_ne] at hescape
      obtain ⟨rfl, hne⟩ := hescape
      refine ⟨'\\' :: d :: run, .escaped d hne hrun, ?_⟩
      rw [List.cons_append, List.cons_append, ← hmore]
  | case4 _ c d more hescape hc hd ih =>
      obtain ⟨run, hrun, hmore⟩ := ih h
      obtain rfl := beq_iff_eq.mp hc
      obtain rfl := beq_iff_eq.mp hd
      exact ⟨d :: d :: run, .doubled hrun, by rw [List.cons_append, List.cons_append, ← hmore]⟩
  | case5 _ c d more hescape hc hd =>
      obtain rfl := beq_iff_eq.mp hc
      exact ⟨[], .nil, rfl⟩
  | case6 _ c d more hescape hc ih =>
      obtain ⟨run, hrun, hmore⟩ := ih h
      refine ⟨c :: run, .char (by simpa using hc) (fun hbackslash => ?_) hrun, ?_⟩
      · by_contra hne
        exact hescape (by simp [hbackslash, hne])
      · rw [List.cons_append, ← hmore]

/-- What the scan has passed when it closes a bracket is balanced. -/
theorem exists_balanced_of_afterClosing {depth : Nat} {text rest : List Char}
    (h : afterClosing (depth + 1) text = some rest) :
    ∃ body after, Balanced body ∧ text = body ++ ')' :: after ∧
      (depth = 0 ∧ after = rest ∨ ∃ above, depth = above + 1 ∧
        afterClosing (above + 1) after = some rest) := by
  induction hlength : text.length using Nat.strongRecOn generalizing depth text with
  | ind length ih =>
      cases text with
      | nil =>
          rw [afterClosing.eq_def] at h
          cases h
      | cons c more =>
          have hshorter : more.length < length := by
            rw [← hlength, List.length_cons]
            exact Nat.lt_succ_self _
          by_cases hquote : isQuote c
          · rw [afterClosing_quote _ _ hquote] at h
            have hahead : (skipQuoted c [] more).ahead ≠ [] := by
              intro hend
              rw [hend, afterClosing.eq_def] at h
              cases h
            obtain ⟨run, hrun, hmore⟩ := exists_run_of_skipQuoted hquote hahead
            obtain ⟨body, after, hbody, htext, hafter⟩ :=
              ih _ (Nat.lt_of_le_of_lt (length_ahead_skipQuoted ..) hshorter) h rfl
            refine ⟨c :: run ++ c :: body, after, .quoted hquote hrun hbody, ?_, hafter⟩
            rw [hmore, htext]
            simp
          by_cases hopen : c = '('
          · obtain rfl := hopen
            rw [afterClosing_open] at h
            -- The bracket that closes this one comes before the one that closes the text.
            obtain ⟨inner, outer, hinner, hmore, hdepth⟩ := ih _ hshorter h rfl
            obtain ⟨⟨⟩, -⟩ | ⟨above, habove, houter⟩ := hdepth
            obtain rfl : depth = above := Nat.succ.inj habove
            have houterLength : outer.length < length := by
              have hlonger := congrArg List.length hmore
              rw [List.length_append, List.length_cons] at hlonger
              omega
            obtain ⟨body, after, hbody, htext, hafter⟩ := ih _ houterLength houter rfl
            refine ⟨'(' :: inner ++ ')' :: body, after, .nested hinner hbody, ?_, hafter⟩
            rw [hmore, htext]
            simp
          by_cases hclose : c = ')'
          · obtain rfl := hclose
            refine ⟨[], more, .nil, rfl, ?_⟩
            cases depth with
            | zero =>
                rw [afterClosing_close_one] at h
                exact .inl ⟨rfl, Option.some.inj h⟩
            | succ above =>
                rw [afterClosing_close] at h
                exact .inr ⟨above, rfl, h⟩
          have hc : isMark c = false := by simp [isMark, hquote, hopen, hclose]
          rw [afterClosing_other _ _ hc] at h
          obtain ⟨body, after, hbody, hmore, hafter⟩ := ih _ hshorter h rfl
          exact ⟨c :: body, after, .char hc hbody, by rw [hmore, List.cons_append], hafter⟩

theorem tableOptions_append {head : List Char} (hhead : '(' ∉ head) (rest : List Char) :
    tableOptions (head ++ '(' :: rest) = afterClosing 1 rest := by
  have hpassed : ∀ c ∈ head, (c != '(') = true := by
    intro c hc
    rw [bne_iff_ne]
    rintro rfl
    exact hhead hc
  rw [tableOptions, List.dropWhile_append_of_pos hpassed, List.dropWhile_cons_of_neg (by decide),
    afterClosing_open]

/-- What follows the closing bracket of the first list are the options of a table exactly when the
list is balanced. -/
theorem tableOptions_eq_iff {head list options : List Char} (hhead : '(' ∉ head) :
    tableOptions (head ++ '(' :: list ++ ')' :: options) = some options ↔ Balanced list := by
  rw [List.append_assoc, List.cons_append, tableOptions_append hhead]
  constructor
  · intro h
    obtain ⟨body, after, hbody, htext, ⟨-, rfl⟩ | ⟨above, ⟨⟩, -⟩⟩ :=
      exists_balanced_of_afterClosing h
    rwa [List.append_cancel_right htext]
  · intro hlist
    rw [afterClosing_append hlist, afterClosing_close_one]

end SchemaScaffold.Script

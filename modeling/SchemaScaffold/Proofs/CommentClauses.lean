import Mathlib.Data.List.Basic
import SchemaScaffold.Script.TableOptions

namespace SchemaScaffold.Script

def commentWord : List Char := "COMMENT".toList

/-- Whether a text says `COMMENT` anywhere, be it inside a word, a comment or a literal. -/
def mentionsComment : List Char → Bool
  | [] => false
  | c :: rest => (stripWord commentWord (c :: rest)).isSome || mentionsComment rest

def doubled (quote : Char) (text : List Char) : List Char :=
  text.flatMap fun c => if c = quote then [quote, quote] else [c]

/-- Options whose first mention of `COMMENT` states this text. -/
inductive States (text : List Char) : List Char → Prop where
  | clause {before word blanks sign moreBlanks after : List Char}
      (hbefore : mentionsComment before = false)
      (hapart : ∀ c ∈ before.getLast?, Text.isWordChar c = false)
      (hword : word.map Char.toUpper = commentWord)
      (hblanks : ∀ c ∈ blanks ++ moreBlanks, Text.isBlank c)
      (hsign : sign = [] ∨ sign = ['='])
      (hafter : after.head? ≠ some '\'') :
      States text (before ++ word ++ blanks ++ sign ++ moreBlanks
        ++ '\'' :: doubled '\'' text ++ '\'' :: after)

/-- Options whose first mention of `COMMENT` announces a text in apostrophes, and what follows the
first of these. -/
inductive Announces (body : List Char) : List Char → Prop where
  | clause {before word blanks sign moreBlanks : List Char}
      (hbefore : mentionsComment before = false)
      (hapart : ∀ c ∈ before.getLast?, Text.isWordChar c = false)
      (hword : word.map Char.toUpper = commentWord)
      (hblanks : ∀ c ∈ blanks ++ moreBlanks, Text.isBlank c)
      (hsign : sign = [] ∨ sign = ['=']) :
      Announces body (before ++ word ++ blanks ++ sign ++ moreBlanks ++ '\'' :: body)

/-! ### The word -/

theorem stripWord_append {word spelled : List Char} (h : spelled.map Char.toUpper = word)
    (rest : List Char) : stripWord word (spelled ++ rest) = some rest := by
  induction spelled generalizing word with
  | nil =>
      rw [← h]
      rfl
  | cons c more ih =>
      rw [← h, List.map_cons, List.cons_append, stripWord, if_pos (beq_self_eq_true _)]
      exact ih rfl

/-- A word that is missing at the front of a text is not completed by what follows, if that begins
with a letter that the word does not hold. -/
theorem stripWord_eq_none_append {word text : List Char} (h : stripWord word text = none) {c : Char}
    (hc : c.toUpper ∉ word) (rest : List Char) : stripWord word (text ++ c :: rest) = none := by
  induction word generalizing text with
  | nil => cases h
  | cons w word ih =>
      rw [List.mem_cons, not_or] at hc
      cases text with
      | nil => rw [List.nil_append, stripWord, if_neg (by simpa using hc.1)]
      | cons d text =>
          rw [stripWord] at h
          rw [List.cons_append, stripWord]
          split
          · rename_i hd
            rw [if_pos hd] at h
            exact ih h hc.2
          · rfl

/-- No mention of the word in a text begins before a place that begins with its first letter. -/
theorem stripWord_comment_append {text rest : List Char} {c d : Char}
    (h : stripWord commentWord (d :: text) = none) (hc : c.toUpper = 'C') :
    stripWord commentWord (d :: text ++ c :: rest) = none := by
  have hword : commentWord = 'C' :: "OMMENT".toList := by decide
  rw [hword, stripWord] at h
  rw [hword, List.cons_append, stripWord]
  split
  · rename_i hd
    rw [if_pos hd] at h
    exact stripWord_eq_none_append h (by rw [hc]; decide) rest
  · rfl

theorem commentHere_eq_none {text : List Char} (h : stripWord commentWord text = none) :
    commentHere text = none := by
  rw [commentHere]
  change (stripWord commentWord text).bind _ = none
  rw [h]
  rfl

/-! ### The quoted text -/

theorem quotedText_cons_of_ne {quote c : Char} (hc : c ≠ quote) (rest : List Char) :
    quotedText quote (c :: rest) = (quotedText quote rest).map (c :: ·) := by
  cases rest with
  | nil => simp [quotedText, hc]
  | cons d more => rw [quotedText, if_neg (by simpa using hc)]

theorem quotedText_closed {quote : Char} {rest : List Char} (hrest : rest.head? ≠ some quote) :
    quotedText quote (quote :: rest) = some [] := by
  cases rest with
  | nil => simp [quotedText]
  | cons d more =>
      have hd : d ≠ quote := by simpa using hrest
      simp [quotedText, hd]

theorem exists_quotedText_of_mem {quote : Char} {source : List Char} (h : quote ∈ source) :
    ∃ text, quotedText quote source = some text := by
  induction source with
  | nil => cases h
  | cons c rest ih =>
      by_cases hc : c = quote
      · cases rest with
        | nil => exact ⟨[], by simp [quotedText, hc]⟩
        | cons d more => by_cases hd : d = quote <;> cases hmore : quotedText quote more <;>
            simp [quotedText, hc, hd, hmore]
      · obtain ⟨text, htext⟩ := ih (by simpa [Ne.symm hc] using h)
        exact ⟨c :: text, by rw [quotedText_cons_of_ne hc, htext]; rfl⟩

theorem quotedText_doubled (quote : Char) (text : List Char) {rest : List Char}
    (hrest : rest.head? ≠ some quote) :
    quotedText quote (doubled quote text ++ quote :: rest) = some text := by
  induction text with
  | nil => exact quotedText_closed hrest
  | cons c more ih =>
      by_cases hc : c = quote
      · simp [doubled, hc, quotedText] at ih ⊢
        simp [ih]
      · have hsplit : doubled quote (c :: more) = c :: doubled quote more := by simp [doubled, hc]
        rw [hsplit, List.cons_append, quotedText_cons_of_ne hc, ih]
        rfl

/-! ### The first mention -/

theorem commentFrom_eq_none {text : List Char} (h : mentionsComment text = false)
    (afterWord : Bool) : commentFrom afterWord text = none := by
  induction text generalizing afterWord with
  | nil => rfl
  | cons c rest ih =>
      rw [mentionsComment, Bool.or_eq_false_iff, Option.isSome_eq_false_iff,
        Option.isNone_iff_eq_none] at h
      rw [commentFrom, ih h.2, commentHere_eq_none h.1, ite_self]
      rfl

theorem commentFrom_append {before rest : List Char} (h : mentionsComment before = false) {c : Char}
    (hc : c.toUpper = 'C') (afterWord : Bool) :
    commentFrom afterWord (before ++ c :: rest) =
      commentFrom ((before.getLast?.map Text.isWordChar).getD afterWord) (c :: rest) := by
  induction before generalizing afterWord with
  | nil => rfl
  | cons d more ih =>
      rw [mentionsComment, Bool.or_eq_false_iff, Option.isSome_eq_false_iff,
        Option.isNone_iff_eq_none] at h
      have hhere : commentHere (d :: more ++ c :: rest) = none :=
        commentHere_eq_none (stripWord_comment_append h.1 hc)
      rw [List.cons_append] at hhere ⊢
      rw [commentFrom, hhere, ite_self, ih h.2]
      cases more with
      | nil => rfl
      | cons e others =>
          rw [List.getLast?_cons_cons, List.getLast?_eq_some_getLast (List.cons_ne_nil e others)]
          rfl

theorem trimStart_append {blanks : List Char} (hblanks : ∀ c ∈ blanks, Text.isBlank c)
    {c : Char} (hc : Text.isBlank c = false) (rest : List Char) :
    Text.trimStart (blanks ++ c :: rest) = c :: rest := by
  rw [Text.trimStart, List.dropWhile_append_of_pos hblanks,
    List.dropWhile_cons_of_neg (by simp [hc])]

theorem commentHere_of_clause {quote : Char} (hquote : quote = '\'' ∨ quote = '"')
    {word blanks sign moreBlanks : List Char} (body : List Char)
    (hword : word.map Char.toUpper = commentWord)
    (hblanks : ∀ c ∈ blanks ++ moreBlanks, Text.isBlank c)
    (hsign : sign = [] ∨ sign = ['=']) :
    commentHere (word ++ (blanks ++ (sign ++ (moreBlanks ++ quote :: body)))) =
      quotedText quote body := by
  have hmark : Text.isBlank quote = false := by rcases hquote with rfl | rfl <;> decide
  rw [List.forall_mem_append] at hblanks
  rw [commentHere]
  change (stripWord commentWord _).bind _ = _
  rw [stripWord_append hword, Option.bind_some]
  rcases hsign with rfl | rfl
  · have hskip : Text.trimStart (blanks ++ ([] ++ (moreBlanks ++ quote :: body))) =
        quote :: body := by
      rw [List.nil_append, ← List.append_assoc]
      exact trimStart_append (List.forall_mem_append.mpr hblanks) hmark _
    rw [hskip]
    rcases hquote with rfl | rfl <;> rfl
  · rw [List.singleton_append, trimStart_append hblanks.1 (by decide)]
    have hskip := trimStart_append hblanks.2 hmark body
    simp only [hskip]
    rcases hquote with rfl | rfl <;> rfl

/-- The quoted text that the first mention of the word announces is the comment. -/
theorem optionComment_of_clause {quote : Char} (hquote : quote = '\'' ∨ quote = '"')
    {before word blanks sign moreBlanks body text : List Char}
    (hbefore : mentionsComment before = false)
    (hapart : ∀ c ∈ before.getLast?, Text.isWordChar c = false)
    (hword : word.map Char.toUpper = commentWord)
    (hblanks : ∀ c ∈ blanks ++ moreBlanks, Text.isBlank c)
    (hsign : sign = [] ∨ sign = ['=']) (htext : quotedText quote body = some text) :
    optionComment (before ++ word ++ blanks ++ sign ++ moreBlanks ++ quote :: body) =
      some text := by
  obtain ⟨c, letters, rfl, hc, -⟩ := List.map_eq_cons_iff.mp hword
  have hboundary : (before.getLast?.map Text.isWordChar).getD false = false := by
    cases hlast : before.getLast? with
    | none => rfl
    | some d => exact hapart d hlast
  have hhere := commentHere_of_clause hquote body hword hblanks hsign
  simp only [optionComment, List.append_assoc, List.cons_append] at hhere ⊢
  rw [commentFrom_append hbefore hc, hboundary, commentFrom, hhere, htext]
  rfl

theorem optionComment_of_announces {body options text : List Char} (h : Announces body options)
    (htext : quotedText '\'' body = some text) : optionComment options = some text := by
  obtain ⟨hbefore, hapart, hword, hblanks, hsign⟩ := h
  exact optionComment_of_clause (.inl rfl) hbefore hapart hword hblanks hsign htext

theorem optionComment_of_states {text options : List Char} (h : States text options) :
    optionComment options = some text := by
  obtain ⟨hbefore, hapart, hword, hblanks, hsign, hafter⟩ := h
  rw [List.append_assoc, List.cons_append]
  exact optionComment_of_announces (.clause hbefore hapart hword hblanks hsign)
    (quotedText_doubled '\'' text hafter)

theorem optionComment_eq_none {options : List Char} (h : mentionsComment options = false) :
    optionComment options = none := commentFrom_eq_none h false

end SchemaScaffold.Script

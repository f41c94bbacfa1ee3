import SchemaScaffold.Proofs.CommentClauses
import SchemaScaffold.Proofs.PrintableNames

/-!
# Comments that are read back

A comment is stated between apostrophes or double quotes, those of its own kind being doubled inside.
Reading stops at a quote that no second one follows. A run of quotes is taken two by two from the
left, so the doubled ones of the text are used up before the closing one is met. The text is read
back whatever it is, as long as no further quote stands right behind the closing one. Such a quote
would be taken for the second of a doubled one, unless there is none after it that could close the
text.
-/

namespace SchemaScaffold

namespace Script

/-! ### Mentions of the word -/

theorem stripWord_isSome_iff {word text : List Char} :
    (stripWord word text).isSome ↔ ∃ spelled, spelled <+: text ∧ spelled.map Char.toUpper = word := by
  constructor
  · intro h
    fun_induction stripWord word text with
    | case1 text => exact ⟨[], List.nil_prefix, rfl⟩
    | case2 w word c text hw ih =>
        obtain ⟨spelled, hprefix, rfl⟩ := ih h
        exact ⟨c :: spelled, List.cons_prefix_cons.mpr ⟨rfl, hprefix⟩,
          congrArg (· :: _) (beq_iff_eq.mp hw)⟩
    | case3 => cases h
    | case4 => cases h
  · rintro ⟨spelled, ⟨rest, rfl⟩, hword⟩
    rw [stripWord_append hword]
    rfl

/-- A text mentions `COMMENT` when the letters stand anywhere in it, whatever their case. -/
theorem mentionsComment_iff {text : List Char} :
    mentionsComment text ↔ ∃ part, part <:+: text ∧ part.map Char.toUpper = commentWord := by
  induction text with
  | nil =>
      refine iff_of_false Bool.false_ne_true ?_
      rintro ⟨part, hpart, hword⟩
      rw [List.infix_nil.mp hpart] at hword
      cases hword
  | cons c rest ih =>
      simp only [mentionsComment, Bool.or_eq_true, stripWord_isSome_iff, ih, List.infix_cons_iff,
        or_and_right, exists_or]

/-! ### The end of a quoted text -/

theorem quotedText_eq_none_iff {quote : Char} {source : List Char} :
    quotedText quote source = none ↔ quote ∉ source := by
  constructor
  · intro hnone hmem
    obtain ⟨text, htext⟩ := exists_quotedText_of_mem hmem
    rw [hnone] at htext
    cases htext
  · intro hmem
    induction source with
    | nil => rfl
    | cons c rest ih =>
        rw [List.mem_cons, not_or] at hmem
        rw [quotedText_cons_of_ne (Ne.symm hmem.1), ih hmem.2]
        rfl

/-- What is read when a quote follows right behind the closing one: the text goes on, if a later
quote closes it. -/
theorem quotedText_doubled_quote (quote : Char) (text rest : List Char) :
    quotedText quote (doubled quote text ++ quote :: quote :: rest) =
      some (text ++ ((quotedText quote rest).map (quote :: ·)).getD []) := by
  induction text with
  | nil =>
      cases hrest : quotedText quote rest <;> simp [doubled, quotedText, hrest]
  | cons c more ih =>
      by_cases hc : c = quote
      · have hsplit : doubled quote (c :: more) = quote :: quote :: doubled quote more := by
          simp [doubled, hc]
        rw [hsplit, List.cons_append, List.cons_append, quotedText, if_pos (beq_self_eq_true _),
          if_pos (beq_self_eq_true _), ih, hc]
        rfl
      · have hsplit : doubled quote (c :: more) = c :: doubled quote more := by simp [doubled, hc]
        rw [hsplit, List.cons_append, quotedText_cons_of_ne hc, ih]
        rfl

theorem quotedText_doubled_eq_iff (quote : Char) (text after : List Char) :
    quotedText quote (doubled quote text ++ quote :: after) = some text ↔
      (after.head? = some quote → quote ∉ after.tail) := by
  by_cases hafter : after.head? = some quote
  · obtain ⟨rest, rfl⟩ := List.head?_eq_some_iff.mp hafter
    rw [quotedText_doubled_quote, ← quotedText_eq_none_iff]
    cases hrest : quotedText quote rest <;> simp [hrest]
  · rw [quotedText_doubled quote text hafter]
    exact iff_of_true rfl fun h => absurd h hafter

/-! ### Decoding what was encoded -/

/-- A text with its quotes doubled, stated as the comment in quotes of this kind, is read back. The
word may be spelled in any case, and blanks may stand around the equals sign or in its place. Of the
options before it, none may mention the word, and of those behind it, none may begin with a quote of
this kind, unless it is the only one there. -/
theorem stated_comment_read_back_iff {quote : Char} (hquote : quote = '\'' ∨ quote = '"')
    (text : List Char) {before word blanks sign moreBlanks : List Char}
    (hbefore : ∀ part, part <:+: before → part.map Char.toUpper ≠ commentWord)
    (hapart : ∀ c ∈ before.getLast?, Text.isBlank c)
    (hword : word.map Char.toUpper = commentWord)
    (hblanks : ∀ c ∈ blanks ++ moreBlanks, Text.isBlank c)
    (hsign : sign = [] ∨ sign = ['=']) (after : List Char) :
    optionComment (before ++ word ++ blanks ++ sign ++ moreBlanks ++
        quote :: (doubled quote text ++ quote :: after)) = some text ↔
      (after.head? = some quote → quote ∉ after.tail) := by
  have hmention : mentionsComment before = false := by
    rw [← Bool.not_eq_true, mentionsComment_iff]
    rintro ⟨part, hpart, hspelled⟩
    exact hbefore part hpart hspelled
  have hboundary : ∀ c ∈ before.getLast?, Text.isWordChar c = false :=
    fun c hc => Text.not_isWordChar_of_isBlank (hapart c hc)
  obtain ⟨read, hread⟩ : ∃ read,
      quotedText quote (doubled quote text ++ quote :: after) = some read :=
    exists_quotedText_of_mem (by simp)
  rw [optionComment_of_clause hquote hmention hboundary hword hblanks hsign hread, ← hread,
    quotedText_doubled_eq_iff]

/-- A text of double quotes is read back between double quotes, behind other options and in front of
some that state a comment once more. -/
theorem stated_comment_read_back_quotes :
    (∀ part, part <:+: "ENGINE=InnoDB\t".toList → part.map Char.toUpper ≠ commentWord) ∧
      "cOmMent".toList.map Char.toUpper = commentWord ∧
      optionComment "ENGINE=InnoDB\tcOmMent \n\"a\"\"\"\"\" COMMENT='b'".toList =
        some "a\"\"".toList := by
  have hbefore : ∀ part, part <:+: "ENGINE=InnoDB\t".toList →
      part.map Char.toUpper ≠ commentWord := by
    intro part hpart hspelled
    have hmention := mentionsComment_iff.mpr ⟨part, hpart, hspelled⟩
    revert hmention
    decide
  have hword : "cOmMent".toList.map Char.toUpper = commentWord := by decide
  have hblanks : ∀ c ∈ " \n".toList ++ [], Text.isBlank c := List.all_eq_true.mp (by decide)
  have hread := (stated_comment_read_back_iff (.inr rfl) "a\"\"".toList hbefore
    (by rintro c ⟨⟩; decide) hword hblanks (.inl rfl) " COMMENT='b'".toList).mpr (by decide)
  exact ⟨hbefore, hword, hread⟩

end Script

end SchemaScaffold

import SchemaScaffold.Proofs.LowerCase

namespace SchemaScaffold.Text

theorem bne_of_not_mem {c : Char} {chars : List Char} (h : c ∉ chars) : ∀ d ∈ chars, d != c := by
  intro d hd
  rw [bne_iff_ne]
  rintro rfl
  exact h hd

/-! ### First words -/

def firstWord (chars : List Char) : List Char :=
  (chars.dropWhile isBlank).takeWhile fun c => !isBlank c

theorem flatten_take_runs (keep : Char → Bool) (chars : List Char) :
    ((runs keep chars).take 1).flatten = (chars.dropWhile fun c => !keep c).takeWhile keep := by
  induction chars with
  | nil => rfl
  | cons c rest ih =>
      unfold runs
      split <;> rename_i hc
      · rw [List.dropWhile_cons_of_neg (by simpa using hc), List.takeWhile_cons_of_pos hc]
        cases rest with
        | nil => simp [runs]
        | cons d others =>
            by_cases hd : keep d
            · rw [List.dropWhile_cons_of_neg (by simpa using hd)] at ih
              cases hruns : runs keep (d :: others) with
              | nil => simp [hruns, hd] at ih
              | cons run more => simpa [hruns, hd] using ih
            · cases hruns : runs keep (d :: others) <;> simp [hd]
      · rw [ih, List.dropWhile_cons_of_pos (by simpa using hc)]

theorem flatten_take_words (chars : List Char) :
    ((words chars).take 1).flatten = firstWord chars := by
  rw [words, flatten_take_runs, firstWord]
  simp only [Bool.not_not]

theorem takeWhile_append_of_blank {chars rest : List Char}
    (hrest : ∀ c ∈ rest.head?, isBlank c) :
    (chars ++ rest).takeWhile (fun c => !isBlank c) = chars.takeWhile fun c => !isBlank c := by
  induction chars with
  | nil =>
      cases rest with
      | nil => rfl
      | cons c others => simp [hrest c rfl]
  | cons c others ih => simp only [List.cons_append, List.takeWhile_cons, ih]

theorem firstWord_trimList (chars : List Char) : firstWord (trimList chars) = firstWord chars := by
  have hcore : trimList chars ++ (chars.dropWhile isBlank).rtakeWhile isBlank =
      chars.dropWhile isBlank := by
    rw [trimList_eq, List.rdropWhile_append_rtakeWhile]
  have hstart : (trimList chars).dropWhile isBlank = trimList chars := by
    have htrim := (trimList_eq_self_iff.mp (trimList_trimList chars)).1
    cases hlist : trimList chars with
    | nil => rfl
    | cons c rest => exact List.dropWhile_cons_of_neg (by simp [htrim c (by simp [hlist])])
  rw [firstWord, firstWord, hstart, ← hcore, takeWhile_append_of_blank]
  intro c hc
  exact List.mem_rtakeWhile_imp (List.mem_of_mem_head? hc)

/-- Behind a blank, a text goes on without a change to its first word. -/
theorem firstWord_append_of_blank {chars rest : List Char} (hchars : ¬∀ c ∈ chars, isBlank c)
    (hrest : ∀ c ∈ rest.head?, isBlank c) : firstWord (chars ++ rest) = firstWord chars := by
  have hne : chars.dropWhile isBlank ≠ [] := by rwa [ne_eq, List.dropWhile_eq_nil_iff]
  rw [firstWord, List.dropWhile_append, if_neg (by rwa [List.isEmpty_iff]),
    takeWhile_append_of_blank hrest, firstWord]

/-- Behind a word, it goes on with a change to the word unless there was a blank before. -/
theorem firstWord_append_cons {c : Char} (hc : isBlank c = false) (chars rest : List Char)
    [Decidable (∀ d ∈ trimStart chars, isBlank d = false)] :
    firstWord (chars ++ c :: rest) =
      if ∀ d ∈ trimStart chars, isBlank d = false then
        trimStart chars ++ c :: rest.takeWhile fun d => !isBlank d
      else firstWord chars := by
  have hstart : (chars ++ c :: rest).dropWhile isBlank = trimStart chars ++ c :: rest := by
    rw [List.dropWhile_append, trimStart]
    split <;> rename_i hempty
    · rw [List.isEmpty_iff.mp hempty, List.dropWhile_cons_of_neg (by simp [hc]), List.nil_append]
    · rfl
  rw [firstWord, hstart]
  split <;> rename_i hword
  · rw [List.takeWhile_append_of_pos (by simpa using hword),
      List.takeWhile_cons_of_pos (by simp [hc])]
  · rw [List.takeWhile_append, if_neg, firstWord, trimStart]
    intro hlength
    have hall := (List.takeWhile_prefix _).eq_of_length hlength
    rw [List.takeWhile_eq_self_iff] at hall
    exact hword (by simpa using hall)

/-! ### Lower case of words -/

/-- Whether no case mapping looks at or past a character, nor changes it. -/
def isCaseless (c : Char) : Bool := !isCaseIgnorable c && !isCased c && lowerChar c == [c]

theorem not_contains_of_apart {ranges : List StridedRange} {others : CodeRanges}
    (h : CodeRanges.apart others (ranges.map fun range => (range.first, range.last))) {c : Char}
    (hc : isWithin others c.toNat) : ranges.any (·.contains c) = false := by
  have hmissed := not_isWithin_of_apart h hc
  rw [isWithin, List.any_map, List.any_eq_false] at hmissed
  rw [List.any_eq_false]
  intro range hrange hcontains
  rw [StridedRange.contains, Bool.and_eq_true] at hcontains
  exact hmissed range hrange hcontains.1

theorem not_isCased_of_isBlank {c : Char} (hc : isBlank c) : isCased c = false := by
  by_cases hascii : c.toNat < 0x80
  · exact forall_ascii (p := fun c => isBlank c → isCased c = false) (by decide) hascii hc
  · rw [← isWithin_blankRanges] at hc
    rw [isCased, isLowercase, isUppercase, if_neg hascii, if_neg hascii,
      not_contains_of_apart (by decide +kernel) hc, not_contains_of_apart (by decide +kernel) hc]
    exact not_isWithin_of_apart (by decide) hc

theorem not_isCaseIgnorable_of_isBlank {c : Char} (hc : isBlank c) : isCaseIgnorable c = false := by
  by_cases hascii : c.toNat < 0x80
  · exact forall_ascii (p := fun c => isBlank c → isCaseIgnorable c = false) (by decide) hascii hc
  · rw [← isWithin_blankRanges] at hc
    rw [isCaseIgnorable, if_neg hascii]
    exact not_isWithin_of_apart (by decide +kernel) hc

theorem isCaseless_of_isBlank {c : Char} (hc : isBlank c) : isCaseless c := by
  rw [isCaseless, not_isCaseIgnorable_of_isBlank hc, not_isCased_of_isBlank hc,
    lowerChar_of_isBlank hc]
  simp

theorem meetsCased_append_cons {c : Char} (hc : isCaseless c) (chars rest : List Char) :
    meetsCased (chars ++ c :: rest) = meetsCased chars := by
  simp only [isCaseless, Bool.and_eq_true, Bool.not_eq_true'] at hc
  induction chars with
  | nil => simp [meetsCased, hc.1]
  | cons d others ih =>
      simp only [meetsCased] at ih ⊢
      cases hd : isCaseIgnorable d
      · simp [hd]
      · simpa [hd] using ih

theorem lowerFrom_append_cons {c : Char} (hc : isCaseless c) (before chars rest : List Char) :
    lowerFrom before (chars ++ c :: rest) =
      lowerFrom before chars ++ c :: lowerFrom (c :: chars.reverse ++ before) rest := by
  induction chars generalizing before with
  | nil =>
      have hsigma : (c == capitalSigma) = false := by
        rw [beq_eq_false_iff_ne]
        rintro rfl
        exact absurd hc (by decide +kernel)
      simp only [isCaseless, Bool.and_eq_true, beq_iff_eq] at hc
      simp [lowerFrom, hsigma, hc.2]
  | cons d others ih =>
      simp only [List.cons_append, lowerFrom, meetsCased_append_cons hc, ih, List.reverse_cons,
        List.append_assoc]
      split <;> simp

def bracketRange : CodeRanges := [(0x28, 0x28)]

theorem isWithin_bracketRange (c : Char) : isWithin bracketRange c.toNat = (c == '(') := by
  have hcode : c = '(' ↔ c.toNat = 0x28 := ⟨fun h => h ▸ rfl, fun h => Char.toNat_inj.mp h⟩
  rw [Bool.eq_iff_iff, beq_iff_eq, hcode]
  simp only [isWithin, bracketRange, List.any_cons, List.any_nil, Bool.or_false, Bool.and_eq_true,
    decide_eq_true_eq]
  omega

theorem bracket_not_mem_lowerChar {c : Char} (hc : c ≠ '(') : '(' ∉ lowerChar c := by
  intro hd
  have hbracket : isWithin bracketRange '('.toNat = true := by decide
  have hc : isWithin bracketRange c.toNat = false := by simpa [isWithin_bracketRange] using hc
  rw [← Bool.not_eq_false] at hbracket
  apply hbracket
  unfold lowerChar at hd
  split at hd
  case isTrue hascii =>
    rw [List.mem_singleton.mp hd]
    exact forall_ascii (p := fun c => isWithin bracketRange c.toNat = false →
      isWithin bracketRange c.toLower.toNat = false) (by decide +kernel) hascii hc
  case isFalse =>
    split at hd
    case h_1 codes hlookup => exact not_isWithin_expansions (by decide) hlookup hd
    case h_2 =>
      rw [List.mem_singleton.mp hd]
      exact not_isWithin_shiftCase (by decide) (by decide +kernel) hc

theorem mem_lowerList_of_isCaseless {c : Char} (hc : isCaseless c) {chars : List Char}
    (h : c ∈ chars) : c ∈ lowerList chars := by
  obtain ⟨before, after, rfl⟩ := List.append_of_mem h
  rw [lowerList, lowerFrom_append_cons hc]
  exact List.mem_append_right _ List.mem_cons_self

theorem bracket_not_mem_lowerList {chars : List Char} (h : '(' ∉ chars) :
    '(' ∉ lowerList chars := by
  intro hmem
  rcases exists_mem_of_mem_lowerFrom hmem with hsigma | ⟨c, hc, hd⟩
  · exact absurd hsigma (by decide)
  · exact bracket_not_mem_lowerChar (fun heq => h (heq ▸ hc)) hd

theorem not_isBlank_of_mem_lowerList {chars : List Char} (h : ∀ c ∈ chars, isBlank c = false)
    {d : Char} (hd : d ∈ lowerList chars) : isBlank d = false := by
  rcases exists_mem_of_mem_lowerFrom hd with rfl | ⟨c, hc, hd⟩
  · decide
  · exact not_isBlank_of_mem_lowerChar (h c hc) hd

theorem takeWhile_lowerList (chars : List Char) :
    (lowerList chars).takeWhile (fun c => !isBlank c) =
      lowerList (chars.takeWhile fun c => !isBlank c) := by
  obtain ⟨word, hword⟩ : ∃ word, word = chars.takeWhile fun c => !isBlank c := ⟨_, rfl⟩
  have hkept : ∀ c ∈ word, isBlank c = false := by
    intro c hc
    rw [hword] at hc
    simpa using List.mem_takeWhile_imp hc
  have hlower : (lowerList word).takeWhile (fun c => !isBlank c) = lowerList word := by
    rw [List.takeWhile_eq_self_iff]
    intro d hd
    rw [not_isBlank_of_mem_lowerList hkept hd, Bool.not_false]
  have hsplit := List.takeWhile_append_dropWhile (p := fun c => !isBlank c) (l := chars)
  rw [← hword] at hsplit ⊢
  cases hafter : chars.dropWhile fun c => !isBlank c with
  | nil =>
      rw [hafter, List.append_nil] at hsplit
      rw [← hsplit, hlower]
  | cons c rest =>
      have hblank : isBlank c := by
        have hnot := List.head?_dropWhile_not (fun c => !isBlank c) chars
        simpa [hafter] using hnot
      have hblanks : ∀ d ∈ (c :: lowerFrom (c :: word.reverse ++ []) rest).head?, isBlank d := by
        rintro d hd
        rwa [← Option.some.inj hd]
      rw [hafter] at hsplit
      rw [← hsplit, lowerList, lowerFrom_append_cons (isCaseless_of_isBlank hblank),
        takeWhile_append_of_blank hblanks]
      exact hlower

/-- The first word of a trimmed text in lower case is the first word of the text in lower case. -/
theorem firstWord_lowerList (chars : List Char) :
    firstWord (lowerList (trimList chars)) = lowerList (firstWord chars) := by
  have hstart : ∀ chars, trimList chars = chars → chars.dropWhile isBlank = chars := by
    intro chars htrim
    rw [List.dropWhile_eq_self_iff]
    intro hlength
    rw [trimList_eq_self_iff] at htrim
    simpa using htrim.1 _ (List.head?_eq_getElem?.trans (List.getElem?_eq_getElem hlength))
  have htrim := trimList_trimList chars
  rw [← firstWord_trimList chars, firstWord, firstWord, hstart _ htrim,
    hstart _ (trimList_lowerList htrim), takeWhile_lowerList]

end SchemaScaffold.Text

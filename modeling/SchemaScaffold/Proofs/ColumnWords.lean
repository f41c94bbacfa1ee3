import SchemaScaffold.Proofs.CamelCase

/-!
# Words of a column name

A property name is made of the words between the separators of a column name, and these can be read
off it again, since a capital stands wherever a word starts with a letter. What is lost is where a word
starts with a digit: `line_1` and `line1` have the same words.
-/

namespace SchemaScaffold.Naming

open SchemaScaffold.Text

/-! ### Words -/

/-- Attaches words that do not start with a small letter to the words before them. -/
def attach : List (List Char) → List (List Char)
  | [] => []
  | word :: rest =>
    match attach rest with
    | [] => [word]
    | next :: others =>
      if next.head?.any Char.isLower then word :: next :: others else (word ++ next) :: others

/-- Puts `col` in front of a first word that starts with a digit. -/
def nameFirst : List (List Char) → List (List Char)
  | [] => []
  | first :: others =>
    if first.head?.any Char.isDigit then ("col".toList ++ first) :: others else first :: others

def columnWords (name : String) : List (List Char) :=
  nameFirst (attach ((segments (stripQuotesList name.toList)).map fun word =>
    word.map Char.toLower))

def smallName (name : String) : String := String.ofList (uncapitalize (typeNameList name.toList))

theorem propertyName_eq (name : String) : propertyName name = avoidKeyword (smallName name) := rfl

/-! ### Small letters and digits -/

def isSmall (c : Char) : Bool := c.isLower || c.isDigit

structure IsSmallWord (word : List Char) : Prop where
  ne : word ≠ []
  small : ∀ c ∈ word, isSmall c

theorem toNat_lt_of_isSmall {c : Char} (h : isSmall c) : c.toNat < 0x80 := by
  have hlower : c.isLower = (decide (c.val ≥ 'a'.val) && decide (c.val ≤ 'z'.val)) := rfl
  simp only [isSmall, Bool.or_eq_true, hlower, Char.isDigit, Bool.and_eq_true,
    decide_eq_true_eq] at h
  rcases h with ⟨-, h⟩ | ⟨-, h⟩ <;> exact Nat.lt_of_le_of_lt (UInt32.le_iff_toNat_le.mp h) (by decide)

section

variable {c : Char}

theorem isUppercase_of_isSmall (h : isSmall c) : isUppercase c = false :=
  forall_ascii (p := fun c => isSmall c → isUppercase c = false) (by decide)
    (toNat_lt_of_isSmall h) h

theorem upperChar_of_isLower (h : c.isLower) :
    upperChar c = [c.toUpper] ∧ c.toUpper.isDigit = false ∧ lowerChar c.toUpper = [c] := by
  have hsmall : isSmall c := by simp [isSmall, h]
  exact forall_ascii (p := fun c => c.isLower → upperChar c = [c.toUpper] ∧
    c.toUpper.isDigit = false ∧ lowerChar c.toUpper = [c]) (by decide)
    (toNat_lt_of_isSmall hsmall) h

theorem isUppercase_toUpper (h : c.isLower) : isUppercase c.toUpper := by
  have hsmall : isSmall c := by simp [isSmall, h]
  exact forall_ascii (p := fun c => c.isLower → isUppercase c.toUpper) (by decide)
    (toNat_lt_of_isSmall hsmall) h

theorem upperChar_of_isDigit (h : c.isDigit) : upperChar c = [c] ∧ lowerChar c = [c] := by
  have hsmall : isSmall c := by simp [isSmall, h]
  exact forall_ascii (p := fun c => c.isDigit → upperChar c = [c] ∧ lowerChar c = [c])
    (by decide) (toNat_lt_of_isSmall hsmall) h

theorem isDigit_of_isSmall (h : isSmall c) (hlower : c.isLower = false) : c.isDigit := by
  simpa [isSmall, hlower] using h

theorem isDigit_of_isLower (h : c.isLower) : c.isDigit = false := by
  have hsmall : isSmall c := by simp [isSmall, h]
  exact forall_ascii (p := fun c => c.isLower → c.isDigit = false) (by decide)
    (toNat_lt_of_isSmall hsmall) h

end

/-- A word that starts with a digit has no letter to put in upper case. -/
theorem withCapital_of_not_isLower {word : List Char} (h : IsSmallWord word)
    (hfirst : word.head?.any Char.isLower = false) : withCapital word = word := by
  obtain ⟨c, rest, rfl⟩ := List.exists_cons_of_ne_nil h.ne
  have hdigit := isDigit_of_isSmall (h.small c List.mem_cons_self) (by simpa using hfirst)
  rw [withCapital, (upperChar_of_isDigit hdigit).1, List.singleton_append]

theorem exists_withCapital_of_isLower {word : List Char} (hfirst : word.head?.any Char.isLower) :
    ∃ c rest, word = c :: rest ∧ c.isLower ∧ withCapital word = c.toUpper :: rest := by
  cases word with
  | nil => cases hfirst
  | cons c rest =>
      have hlower : c.isLower := by simpa using hfirst
      refine ⟨c, rest, rfl, hlower, ?_⟩
      rw [withCapital, (upperChar_of_isLower hlower).1, List.singleton_append]

/-! ### From words to names -/

/-- Every word that starts with a letter or comes first is a word of its own. -/
structure AreAttached (words : List (List Char)) : Prop where
  small : ∀ word ∈ words, IsSmallWord word
  letters : ∀ word ∈ words.tail, word.head?.any Char.isLower

theorem areAttached_attach {words : List (List Char)} (h : ∀ word ∈ words, IsSmallWord word) :
    AreAttached (attach words) ∧ (attach words).flatMap withCapital = words.flatMap withCapital := by
  induction words with
  | nil => exact ⟨⟨by simp [attach], by simp [attach]⟩, rfl⟩
  | cons word rest ih =>
      rw [List.forall_mem_cons] at h
      obtain ⟨⟨hsmall, hletters⟩, hname⟩ := ih h.2
      unfold attach
      cases hrest : attach rest with
      | nil =>
          rw [hrest] at hname
          refine ⟨⟨by simpa using h.1, by simp⟩, ?_⟩
          rw [List.flatMap_cons, List.flatMap_cons, hname]
      | cons next others =>
          rw [hrest] at hname hsmall hletters
          rw [List.forall_mem_cons] at hsmall
          dsimp only
          split
          case isTrue hfirst =>
            refine ⟨⟨?_, ?_⟩, ?_⟩
            · rw [List.forall_mem_cons, List.forall_mem_cons]
              exact ⟨h.1, hsmall⟩
            · rw [List.tail_cons, List.forall_mem_cons]
              exact ⟨hfirst, hletters⟩
            · rw [List.flatMap_cons, hname, List.flatMap_cons]
          case isFalse hfirst =>
            -- The next word begins with a digit, so being attached takes no capital from it.
            rw [Bool.not_eq_true] at hfirst
            have hword : IsSmallWord (word ++ next) := by
              refine ⟨by simp [h.1.ne], ?_⟩
              intro c hc
              rw [List.mem_append] at hc
              exact hc.elim (h.1.small c) (hsmall.1.small c)
            have hcapital : withCapital (word ++ next) = withCapital word ++ withCapital next := by
              rw [withCapital_of_not_isLower hsmall.1 hfirst]
              obtain ⟨c, others, rfl⟩ := List.exists_cons_of_ne_nil h.1.ne
              simp [withCapital]
            refine ⟨⟨?_, hletters⟩, ?_⟩
            · rw [List.forall_mem_cons]
              exact ⟨hword, hsmall.2⟩
            · rw [List.flatMap_cons, hcapital, List.flatMap_cons, ← hname, List.flatMap_cons,
                List.append_assoc]

theorem areAttached_nameFirst {words : List (List Char)} (h : AreAttached words) :
    AreAttached (nameFirst words) := by
  cases words with
  | nil => exact h
  | cons first others =>
      have hsmall := h.small
      rw [List.forall_mem_cons] at hsmall
      rw [nameFirst]
      split
      · refine ⟨?_, h.letters⟩
        rw [List.forall_mem_cons]
        refine ⟨⟨by simp, ?_⟩, hsmall.2⟩
        have hcol : "col".toList.all isSmall := by decide
        intro c hc
        rw [List.mem_append] at hc
        exact hc.elim (List.all_eq_true.mp hcol c) (hsmall.1.small c)
      · exact h

/-- The words of a name with the first one in small letters throughout. -/
theorem uncapitalize_guardDigit {words : List (List Char)} (h : AreAttached words) :
    uncapitalize (guardDigit (words.flatMap withCapital)) = joinWords (nameFirst words) := by
  cases words with
  | nil => rfl
  | cons first others =>
      have hfirst := h.small first List.mem_cons_self
      cases hlower : first.head?.any Char.isLower with
      | true =>
          obtain ⟨c, rest, rfl, hletter, hcapital⟩ := exists_withCapital_of_isLower hlower
          obtain ⟨-, hdigit, hback⟩ := upperChar_of_isLower hletter
          have hname : nameFirst ((c :: rest) :: others) = (c :: rest) :: others := by
            simp [nameFirst, isDigit_of_isLower hletter]
          rw [List.flatMap_cons, hcapital, List.cons_append, hname]
          simp [guardDigit, hdigit, uncapitalize, hback, joinWords]
      | false =>
          obtain ⟨c, rest, rfl⟩ := List.exists_cons_of_ne_nil hfirst.ne
          have hdigit := isDigit_of_isSmall (hfirst.small c List.mem_cons_self) (by simpa using hlower)
          have hname : nameFirst ((c :: rest) :: others) =
              ("col".toList ++ c :: rest) :: others := by
            simp [nameFirst, hdigit]
          have hcol : lowerChar 'C' = ['c'] := by decide
          rw [List.flatMap_cons, withCapital_of_not_isLower hfirst hlower, hname]
          simp [guardDigit, hdigit, uncapitalize, hcol, joinWords]

theorem readWords_joinWords {words : List (List Char)} (h : AreAttached words) :
    readWords (joinWords words) = words := by
  cases words with
  | nil => rfl
  | cons first others =>
      have hsmall := h.small
      rw [List.forall_mem_cons] at hsmall
      have hupper : ∀ word, IsSmallWord word → ∀ c ∈ word, isUppercase c = false :=
        fun word hword c hc => isUppercase_of_isSmall (hword.small c hc)
      have hsplit : (joinWords (first :: others)).splitBy (fun _ c => !isUppercase c) =
          first :: others.map withCapital := by
        rw [joinWords, List.flatMap_def]
        refine splitBy_capitals hsmall.1.ne (hupper first hsmall.1) ?_
        rw [List.forall_mem_map]
        intro word hword
        obtain ⟨c, rest, rfl, hletter, hcapital⟩ :=
          exists_withCapital_of_isLower (h.letters word hword)
        have hrest := hupper _ (hsmall.2 _ hword)
        rw [List.forall_mem_cons] at hrest
        exact ⟨_, rest, hcapital, isUppercase_toUpper hletter, hrest.2⟩
      have hback : ∀ word ∈ others, uncapitalize (withCapital word) = word := by
        intro word hword
        obtain ⟨c, rest, rfl, hletter, hcapital⟩ :=
          exists_withCapital_of_isLower (h.letters word hword)
        rw [hcapital, uncapitalize, (upperChar_of_isLower hletter).2.2, List.singleton_append]
      have hothers : (others.map withCapital).map uncapitalize = others := by
        rw [List.map_map]
        exact (List.map_congr_left hback).trans (List.map_id _)
      rw [readWords, hsplit]
      exact congrArg (first :: ·) hothers

/-! ### Names of ASCII characters -/

def IsAscii (name : String) : Prop := ∀ c ∈ name.toList, c.toNat < 0x80

instance (name : String) : Decidable (IsAscii name) := inferInstanceAs (Decidable (∀ c ∈ _, _))

section

variable {name : String} (hname : IsAscii name)

include hname

theorem isAlphanum_of_mem_segments {segment : List Char}
    (hsegment : segment ∈ segments (stripQuotesList name.toList)) :
    ∀ c ∈ segment, c.toNat < 0x80 ∧ c.isAlphanum := by
  intro c hc
  have hmem : c ∈ name.toList := by
    have hstrip := (trimList_sublist _).mem (mem_and_keep_of_mem_runs hsegment hc).1
    exact (List.mem_filter.mp hstrip).1
  have hkeep := keep_of_mem_runs hsegment hc
  have halpha := (Bool.and_eq_true_iff.mp hkeep).2
  rw [isAlphanumeric, if_pos (hname c hmem)] at halpha
  exact ⟨hname c hmem, halpha⟩

theorem areSmall_segments : ∀ word ∈ (segments (stripQuotesList name.toList)).map
    (fun segment => segment.map Char.toLower), IsSmallWord word := by
  rw [List.forall_mem_map]
  intro segment hsegment
  refine ⟨by simpa using ne_nil_of_mem_runs hsegment, ?_⟩
  rw [List.forall_mem_map]
  intro c hc
  obtain ⟨hascii, halpha⟩ := isAlphanum_of_mem_segments hname hsegment c hc
  exact forall_ascii (p := fun c => c.isAlphanum → isSmall c.toLower) (by decide) hascii halpha

theorem titleCase_eq {segment : List Char}
    (hsegment : segment ∈ segments (stripQuotesList name.toList)) :
    titleCase segment = withCapital (segment.map Char.toLower) := by
  have hchars := isAlphanum_of_mem_segments hname hsegment
  have hlower : ∀ chars : List Char, (∀ c ∈ chars, c.toNat < 0x80 ∧ c.isAlphanum) →
      chars.flatMap lowerChar = chars.map Char.toLower := by
    intro chars h
    rw [← List.flatMap_singleton' (chars.map Char.toLower), List.flatMap_map]
    refine List.flatMap_congr fun c hc => ?_
    rw [lowerChar, if_pos (h c hc).1]
  cases segment with
  | nil => rfl
  | cons c rest =>
      rw [List.forall_mem_cons] at hchars
      have hupper : upperChar c = upperChar c.toLower :=
        forall_ascii (p := fun c => upperChar c = upperChar c.toLower) (by decide)
          hchars.1.1
      rw [titleCase, hlower rest hchars.2, List.map_cons, withCapital, hupper]

theorem smallName_eq : smallName name = String.ofList (joinWords (columnWords name)) := by
  have hsmall := areSmall_segments hname
  obtain ⟨hattached, hwords⟩ := areAttached_attach hsmall
  have htitle : (segments (stripQuotesList name.toList)).flatMap titleCase =
      ((segments (stripQuotesList name.toList)).map fun segment =>
        segment.map Char.toLower).flatMap withCapital := by
    rw [List.flatMap_map]
    exact List.flatMap_congr fun segment hsegment => titleCase_eq hname hsegment
  rw [smallName, typeNameList, filter_titleCase, htitle, ← hwords,
    uncapitalize_guardDigit hattached]
  rfl

theorem areAttached_columnWords : AreAttached (columnWords name) :=
  areAttached_nameFirst (areAttached_attach (areSmall_segments hname)).1

theorem isWritten_smallName : IsWritten (smallName name) (columnWords name) :=
  ⟨smallName_eq hname, readWords_joinWords (areAttached_columnWords hname)⟩

theorem exists_smallName_eq_cons (hne : smallName name ≠ "") :
    ∃ c rest, (smallName name).toList = c :: rest ∧ c.isLower := by
  have hattached := (areAttached_attach (areSmall_segments hname)).1
  rw [smallName_eq hname, columnWords] at hne ⊢
  rw [String.toList_ofList]
  generalize attach _ = words at hattached hne ⊢
  cases words with
  | nil => exact absurd rfl hne
  | cons first others =>
      have hfirst := hattached.small first List.mem_cons_self
      obtain ⟨c, rest, rfl⟩ := List.exists_cons_of_ne_nil hfirst.ne
      rw [nameFirst]
      split
      · exact ⟨'c', _, rfl, by decide⟩
      case isFalse hdigit =>
        refine ⟨c, _, rfl, ?_⟩
        have hsmall := hfirst.small c List.mem_cons_self
        simpa [isSmall, show c.isDigit = false by simpa using hdigit] using hsmall

end

end SchemaScaffold.Naming

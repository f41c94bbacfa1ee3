import SchemaScaffold.Proofs.InstanceNames
import SchemaScaffold.Proofs.LowerCase
import SchemaScaffold.Proofs.PropertyNames

namespace SchemaScaffold.Naming

open SchemaScaffold.Text

def IsNameWith (starts : Char → Bool) (name : String) : Prop :=
  ∃ c rest, name.toList = c :: rest ∧ starts c ∧ ∀ d ∈ rest, d.isAlphanum

/-! ### Where there is no name -/

theorem runs_eq_nil_iff {keep : Char → Bool} {chars : List Char} :
    runs keep chars = [] ↔ ∀ c ∈ chars, keep c = false := by
  constructor
  · intro h c hc
    have hkept := flatten_runs keep chars
    rw [h, List.flatten_nil, eq_comm, List.filter_eq_nil_iff] at hkept
    exact eq_false_of_ne_true (hkept c hc)
  · intro h
    rw [List.eq_nil_iff_forall_not_mem]
    intro run hrun
    obtain ⟨c, rest, rfl⟩ := List.exists_cons_of_ne_nil (ne_nil_of_mem_runs hrun)
    obtain ⟨hmem, hkeep⟩ := mem_and_keep_of_mem_runs hrun List.mem_cons_self
    rw [h c hmem] at hkeep
    cases hkeep

theorem mem_trimList_of_not_isBlank {chars : List Char} {c : Char} (hc : c ∈ chars)
    (hblank : isBlank c = false) : c ∈ trimList chars := by
  obtain ⟨before, after, hchars, hbefore, hafter⟩ := exists_blanks_around chars
  rw [hchars, List.mem_append, List.mem_append] at hc
  rcases hc with (hc | hc) | hc
  · rw [hbefore c hc] at hblank
    cases hblank
  · exact hc
  · rw [hafter c hc] at hblank
    cases hblank

theorem not_isQuote_of_isNameChar {c : Char} (hc : isNameChar c) : c ≠ '_' ∧ isQuote c = false := by
  by_cases hascii : c.toNat < 0x80
  · exact forall_ascii (p := fun c => isNameChar c → c ≠ '_' ∧ isQuote c = false) (by decide)
      hascii hc
  · constructor
    · rintro rfl
      exact hascii (by decide)
    · rw [← Bool.not_eq_true, isQuote]
      simp only [Bool.or_eq_true, beq_iff_eq]
      rintro ((hcode | rfl) | rfl)
      · omega
      · exact hascii (by decide)
      · exact hascii (by decide)

theorem segments_stripQuotesList_eq_nil_iff {raw : List Char} :
    segments (stripQuotesList raw) = [] ↔ ∀ c ∈ raw, isAlphanumeric c = false := by
  rw [segments, runs_eq_nil_iff]
  constructor
  · intro h c hc
    by_contra halpha
    rw [Bool.not_eq_false] at halpha
    obtain ⟨hunderscore, hquote⟩ :=
      not_isQuote_of_isNameChar (isNameChar_of_isAlphanumeric halpha)
    have hkept : c ∈ stripQuotesList raw := by
      refine mem_trimList_of_not_isBlank ?_ (not_isBlank_of_isInk (isInk_of_isAlphanumeric halpha))
      exact List.mem_filter.mpr ⟨hc, by rw [hquote]; rfl⟩
    simpa [halpha, hunderscore] using h c hkept
  · intro h c hc
    have hmem := (List.mem_filter.mp ((trimList_sublist _).mem hc)).1
    rw [h c hmem, Bool.and_false]

theorem titleCase_ne_nil {segment : List Char} (h : segment ≠ []) : titleCase segment ≠ [] := by
  obtain ⟨c, rest, rfl⟩ := List.exists_cons_of_ne_nil h
  exact List.append_ne_nil_of_left_ne_nil (upperChar_ne_nil c) _

theorem guardDigit_eq_nil_iff {name : List Char} : guardDigit name = [] ↔ name = [] := by
  cases name with
  | nil => simp [guardDigit]
  | cons c rest =>
      rw [guardDigit]
      split <;> simp

theorem typeNameList_eq_nil_iff {raw : List Char} :
    typeNameList raw = [] ↔ ∀ c ∈ raw, isAlphanumeric c = false := by
  rw [typeNameList, guardDigit_eq_nil_iff, filter_titleCase, List.flatMap_eq_nil_iff,
    ← segments_stripQuotesList_eq_nil_iff, List.eq_nil_iff_forall_not_mem]
  constructor
  · intro h segment hsegment
    exact titleCase_ne_nil (ne_nil_of_mem_runs hsegment) (h segment hsegment)
  · intro h segment hsegment
    exact absurd hsegment (h segment)

theorem typeName_eq_empty_iff {raw : String} :
    typeName raw = "" ↔ ∀ c ∈ raw.toList, isAlphanumeric c = false := by
  rw [← String.toList_eq_nil_iff, typeName, String.toList_ofList, typeNameList_eq_nil_iff]

/-! ### Reserved words -/

theorem avoidKeyword_notMem (name : String) : avoidKeyword name ∉ javaKeywords := by
  rw [← isJavaKeyword_iff, avoidKeyword]
  split
  case isTrue =>
    rw [not_isJavaKeyword_append_value]
    exact Bool.false_ne_true
  case isFalse h => exact h

theorem avoidKeyword_eq_empty_iff {name : String} : avoidKeyword name = "" ↔ name = "" := by
  rw [avoidKeyword]
  split
  case isTrue h =>
    have hne : name ≠ "" := by
      rintro rfl
      exact absurd h (by decide)
    rw [← String.toList_eq_nil_iff, String.toList_append]
    simp [hne]
  case isFalse => exact Iff.rfl

theorem propertyName_eq_empty_iff {raw : String} : propertyName raw = "" ↔ typeName raw = "" := by
  rw [propertyName, avoidKeyword_eq_empty_iff, typeName, ← String.toList_eq_nil_iff,
    ← String.toList_eq_nil_iff, String.toList_ofList, String.toList_ofList]
  cases typeNameList raw.toList with
  | nil => rfl
  | cons c rest => simp [uncapitalize, lowerChar_ne_nil]

/-! ### How names start -/

theorem not_isDigit_of_mem_head?_guardDigit {name : List Char} {c : Char}
    (hc : c ∈ (guardDigit name).head?) : c.isDigit = false := by
  unfold guardDigit at hc
  split at hc
  · split at hc
    case isTrue =>
      obtain rfl := Option.some.inj hc
      decide
    case isFalse h =>
      obtain rfl := Option.some.inj hc
      exact eq_false_of_ne_true h
  · cases hc

theorem mem_guardDigit {name : List Char} {c : Char} (hc : c ∈ guardDigit name) :
    c ∈ "Col".toList ∨ c ∈ name := by
  unfold guardDigit at hc
  split at hc
  · split at hc
    · exact List.mem_append.mp (show c ∈ "Col".toList ++ _ from hc)
    · exact .inr hc
  · cases hc

/-! ### Names of ASCII characters -/

theorem isAlphanum_iff {c : Char} : c.isAlphanum ↔ c.isUpper ∨ isSmall c := by
  have halphanum : c.isAlphanum = ((c.isUpper || c.isLower) || c.isDigit) := rfl
  rw [halphanum, Bool.or_assoc, Bool.or_eq_true, isSmall]

theorem toNat_lt_of_isAlphanum {c : Char} (hc : c.isAlphanum) : c.toNat < 0x80 := by
  rcases isAlphanum_iff.mp hc with hupper | hsmall
  · have hrange : c.val ≥ 'A'.val ∧ c.val ≤ 'Z'.val := of_decide_eq_true hupper
    exact Nat.lt_of_le_of_lt (UInt32.le_iff_toNat_le.mp hrange.2) (by decide)
  · exact toNat_lt_of_isSmall hsmall

theorem isAlphanum_of_case {c : Char} (hc : c.isAlphanum) :
    (∀ d ∈ upperChar c, d.isAlphanum) ∧ ∀ d ∈ lowerChar c, d.isAlphanum := by
  obtain ⟨hupper, hlower⟩ := forall_ascii (p := fun c => c.isAlphanum →
    (upperChar c).all Char.isAlphanum ∧ (lowerChar c).all Char.isAlphanum) (by decide)
    (toNat_lt_of_isAlphanum hc) hc
  exact ⟨List.all_eq_true.mp hupper, List.all_eq_true.mp hlower⟩

theorem isAlphanum_of_mem_titleCase {segment : List Char} (hsegment : ∀ c ∈ segment, c.isAlphanum)
    {d : Char} (hd : d ∈ titleCase segment) : d.isAlphanum := by
  cases segment with
  | nil => cases hd
  | cons c rest =>
      rw [List.forall_mem_cons] at hsegment
      rcases List.mem_append.mp hd with hd | hd
      · exact (isAlphanum_of_case hsegment.1).1 d hd
      · obtain ⟨e, he, hd⟩ := List.mem_flatMap.mp hd
        exact (isAlphanum_of_case (hsegment.2 e he)).2 d hd

theorem isAlphanum_of_mem_lowerWord {word : List Char} (hword : ∀ c ∈ word, c.isAlphanum) {d : Char}
    (hd : d ∈ lowerWord word) : d.isAlphanum := by
  induction word with
  | nil => cases hd
  | cons c rest ih =>
      rw [List.forall_mem_cons] at hword
      rw [lowerWord_cons (isPlainLetter_of_isAlphanum (toNat_lt_of_isAlphanum hword.1) hword.1),
        List.mem_append] at hd
      rcases hd with hd | hd
      · exact (isAlphanum_of_case hword.1).2 d hd
      · exact ih hword.2 hd

theorem isAlphanum_of_mem_capitalizeWord {word : List Char} (hword : ∀ c ∈ word, c.isAlphanum)
    {d : Char} (hd : d ∈ capitalizeWord word) : d.isAlphanum := by
  cases word with
  | nil => cases hd
  | cons c rest =>
      rw [List.forall_mem_cons] at hword
      rcases List.mem_append.mp hd with hd | hd
      · exact (isAlphanum_of_case hword.1).1 d hd
      · exact isAlphanum_of_mem_lowerWord hword.2 hd

section

variable {raw : String} (hraw : IsAscii raw)

include hraw

theorem isAlphanum_of_mem_typeNameList {c : Char} (hc : c ∈ typeNameList raw.toList) :
    c.isAlphanum := by
  have htitle : ∀ d ∈ (segments (stripQuotesList raw.toList)).flatMap titleCase, d.isAlphanum := by
    intro d hd
    obtain ⟨segment, hsegment, hd⟩ := List.mem_flatMap.mp hd
    have hchars := isAlphanum_of_mem_segments hraw hsegment
    exact isAlphanum_of_mem_titleCase (fun c hc => (hchars c hc).2) hd
  rw [typeNameList, filter_titleCase] at hc
  rcases mem_guardDigit hc with hc | hc
  · have hguard : "Col".toList.all Char.isAlphanum := by decide
    exact List.all_eq_true.mp hguard c hc
  · exact htitle c hc

theorem isNameWith_typeName (hne : typeName raw ≠ "") :
    IsNameWith Char.isUpper (typeName raw) := by
  have hlist : typeNameList raw.toList ≠ [] := by simpa [typeName] using hne
  obtain ⟨c, rest, hchars, hlower⟩ := exists_typeNameList_eq_cons hlist
  have halpha : ∀ d ∈ c :: rest, d.isAlphanum := by
    rw [← hchars]
    exact fun d => isAlphanum_of_mem_typeNameList hraw
  have hdigit : c.isDigit = false := by
    have hhead : c ∈ (typeNameList raw.toList).head? := by
      rw [hchars, List.head?_cons, Option.mem_some]
    exact not_isDigit_of_mem_head?_guardDigit hhead
  rw [List.forall_mem_cons] at halpha
  refine ⟨c, rest, by rw [typeName, String.toList_ofList, hchars], ?_, halpha.2⟩
  simpa [isAlphanum_iff, isSmall, hlower, hdigit] using halpha.1

end

section

variable {name : String}

theorem IsNameWith.avoidKeyword {starts : Char → Bool} (h : IsNameWith starts name) :
    IsNameWith starts (avoidKeyword name) := by
  obtain ⟨c, rest, hchars, hstarts, hrest⟩ := h
  unfold Naming.avoidKeyword
  split
  · have hvalue : "Value".toList.all Char.isAlphanum := by decide
    refine ⟨c, rest ++ "Value".toList, by simp [hchars], hstarts, ?_⟩
    exact List.forall_mem_append.mpr ⟨hrest, List.all_eq_true.mp hvalue⟩
  · exact ⟨c, rest, hchars, hstarts, hrest⟩

theorem lowerChar_of_isUpper {c : Char} (h : c.isUpper) :
    lowerChar c = [c.toLower] ∧ c.toLower.isLower := by
  have halpha : c.isAlphanum := isAlphanum_iff.mpr (.inl h)
  exact forall_ascii (p := fun c => c.isUpper → lowerChar c = [c.toLower] ∧ c.toLower.isLower)
    (by decide) (toNat_lt_of_isAlphanum halpha) h

variable (hname : IsNameWith Char.isUpper name)

include hname

theorem isNameWith_uncapitalize :
    IsNameWith Char.isLower (String.ofList (uncapitalize name.toList)) := by
  obtain ⟨c, rest, hchars, hupper, hrest⟩ := hname
  obtain ⟨hlower, hsmall⟩ := lowerChar_of_isUpper hupper
  refine ⟨c.toLower, rest, ?_, hsmall, hrest⟩
  rw [String.toList_ofList, hchars, uncapitalize, hlower, List.singleton_append]

/-- The words of a class name begin where it begins, so its lower camel case begins with its first
letter. -/
theorem isNameWith_lowerCamelCase :
    IsNameWith Char.isLower (String.ofList (lowerCamelCase name.toList)) := by
  obtain ⟨c, rest, hchars, hupper, hrest⟩ := hname
  obtain ⟨hlower, hsmall⟩ := lowerChar_of_isUpper hupper
  have hletters : ∀ d ∈ c :: rest, d.isAlphanum := by
    rw [List.forall_mem_cons]
    exact ⟨isAlphanum_iff.mpr (.inl hupper), hrest⟩
  have hplain : ∀ d ∈ c :: rest, isPlainLetter d := fun d hd =>
    isPlainLetter_of_isAlphanum (toNat_lt_of_isAlphanum (hletters d hd)) (hletters d hd)
  have hruns : runs isAlphanumeric (c :: rest) = [c :: rest] :=
    runs_eq_singleton (List.cons_ne_nil c rest) fun d hd =>
      isAlphanumeric_of_isPlainLetter (hplain d hd)
  have hmode : ([] : List Char) = [] → WordMode.start = .start := fun _ => rfl
  obtain ⟨first, others, hwords, hfirst, -⟩ :=
    camelWords_eq_cons (List.cons_ne_nil c rest) hmode
  have hsplit : camelSplit (c :: rest) = first :: others := by
    rw [camelSplit, hruns, List.flatMap_singleton, hwords]
  have hmem : ∀ word ∈ first :: others, ∀ d ∈ word, d.isAlphanum := by
    intro word hword d hd
    rw [← hwords] at hword
    exact hletters d ((mem_of_mem_camelWords hword hd).resolve_left List.not_mem_nil)
  rw [List.forall_mem_cons] at hmem
  obtain ⟨more, rfl⟩ := List.head?_eq_some_iff.mp hfirst
  refine ⟨c.toLower, lowerWord more ++ others.flatMap capitalizeWord, ?_, hsmall, ?_⟩
  · rw [String.toList_ofList, hchars, lowerCamelCase_eq hsplit,
      lowerWord_cons (hplain c List.mem_cons_self), hlower]
    rfl
  · rw [List.forall_mem_append]
    constructor
    · exact fun d hd => isAlphanum_of_mem_lowerWord (List.forall_mem_cons.mp hmem.1).2 hd
    · intro d hd
      obtain ⟨word, hword, hd⟩ := List.mem_flatMap.mp hd
      exact isAlphanum_of_mem_capitalizeWord (hmem.2 word hword) hd

end

/-- A letter or digit is all that an identifier needs to name a class and a property, and what it
names them is fit for it. -/
theorem names_of_identifier (raw : String) :
    (typeName raw = "" ↔ ∀ c ∈ raw.toList, isAlphanumeric c = false) ∧
    (∀ c ∈ (typeName raw).toList, c ≠ '_' ∧ isQuote c = false) ∧
    (∀ c ∈ (typeName raw).toList.head?, c.isDigit = false) ∧
    (propertyName raw = "" ↔ typeName raw = "") ∧
    propertyName raw ∉ javaKeywords ∧
    (IsAscii raw → typeName raw ≠ "" →
      IsNameWith Char.isUpper (typeName raw) ∧
      ∀ name ∈ [propertyName raw, instanceName (typeName raw)],
        IsNameWith Char.isLower name ∧ name ∉ javaKeywords) := by
  refine ⟨typeName_eq_empty_iff, ?_, ?_, propertyName_eq_empty_iff, avoidKeyword_notMem _, ?_⟩
  · intro c hc
    rw [typeName, String.toList_ofList] at hc
    exact not_isQuote_of_isNameChar (isNameChar_of_mem_typeNameList hc)
  · intro c hc
    rw [typeName, String.toList_ofList] at hc
    exact not_isDigit_of_mem_head?_guardDigit hc
  · intro hascii hne
    have hclass := isNameWith_typeName hascii hne
    have hsmall := isNameWith_uncapitalize hclass
    rw [typeName, String.toList_ofList] at hsmall
    refine ⟨hclass, ?_⟩
    simp only [List.forall_mem_cons, List.not_mem_nil, false_implies, implies_true, and_true]
    exact ⟨⟨hsmall.avoidKeyword, avoidKeyword_notMem _⟩,
      (isNameWith_lowerCamelCase hclass).avoidKeyword, avoidKeyword_notMem _⟩

theorem names_of_quoted_keyword :
    IsNameWith Char.isUpper (typeName "\"class\"") ∧
      IsNameWith Char.isLower (propertyName "\"class\"") := by
  have hsmall : "\"class\"".toList.all (·.toNat < 0x80) := by decide
  have hascii : IsAscii "\"class\"" := fun c hc => of_decide_eq_true (List.all_eq_true.mp hsmall c hc)
  obtain ⟨-, -, -, -, -, hnames⟩ := names_of_identifier "\"class\""
  obtain ⟨hclass, hmembers⟩ := hnames hascii (by decide)
  exact ⟨hclass, (hmembers _ List.mem_cons_self).1⟩

end SchemaScaffold.Naming

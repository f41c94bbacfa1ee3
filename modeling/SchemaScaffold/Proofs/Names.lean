import Mathlib.Data.List.DropRight
import SchemaScaffold.Naming

namespace SchemaScaffold.Text

theorem trimList_eq (chars : List Char) :
    trimList chars = (chars.dropWhile isBlank).rdropWhile isBlank := rfl

theorem trimList_sublist (chars : List Char) : (trimList chars).Sublist chars :=
  (List.rdropWhile_prefix isBlank _).sublist.trans (List.dropWhile_suffix _).sublist

@[simp]
theorem trimList_trimList (chars : List Char) : trimList (trimList chars) = trimList chars := by
  simp only [trimList_eq]
  generalize hd : chars.dropWhile isBlank = kept
  have hkept : kept.dropWhile isBlank = kept := by
    rw [← hd]
    exact List.dropWhile_idempotent isBlank chars
  have hhead : (kept.rdropWhile isBlank).dropWhile isBlank = kept.rdropWhile isBlank := by
    rw [List.dropWhile_eq_self_iff]
    intro hlength
    have hstarts := List.rdropWhile_prefix (p := isBlank) kept
    have hkept0 : 0 < kept.length := hlength.trans_le hstarts.length_le
    have hget := hstarts.getElem hlength
    rw [hget]
    exact List.dropWhile_eq_self_iff.mp hkept hkept0
  rw [hhead]
  exact List.rdropWhile_idempotent isBlank kept

theorem trimList_eq_self_iff {chars : List Char} : trimList chars = chars ↔
    (∀ c ∈ chars.head?, isBlank c = false) ∧ ∀ c ∈ chars.getLast?, isBlank c = false := by
  constructor
  · intro h
    have hlength := (List.rdropWhile_prefix isBlank (chars.dropWhile isBlank)).length_le
    rw [← trimList_eq, h] at hlength
    have hfront : chars.dropWhile isBlank = chars :=
      (List.dropWhile_suffix isBlank).eq_of_length_le hlength
    have hback : chars.rdropWhile isBlank = chars := by
      rwa [trimList_eq, hfront] at h
    constructor
    · intro c hc
      have hnot := List.head?_dropWhile_not isBlank chars
      rw [hfront, Option.mem_def.mp hc] at hnot
      exact hnot
    · intro c hc
      obtain ⟨hne, rfl⟩ := List.mem_getLast?_eq_getLast hc
      exact eq_false_of_ne_true (List.rdropWhile_eq_self_iff.mp hback hne)
  · rintro ⟨hhead, hlast⟩
    have hfront : chars.dropWhile isBlank = chars := by
      cases chars with
      | nil => rfl
      | cons c rest => exact List.dropWhile_cons_of_neg (by simp [hhead c rfl])
    have hback : chars.rdropWhile isBlank = chars := by
      rw [List.rdropWhile_eq_self_iff]
      intro hne
      simp [hlast _ (List.getLast?_eq_some_getLast hne)]
    rw [trimList_eq, hfront, hback]

theorem exists_blanks_around (chars : List Char) : ∃ before after,
    chars = before ++ trimList chars ++ after ∧ (∀ c ∈ before, isBlank c) ∧
      ∀ c ∈ after, isBlank c := by
  refine ⟨chars.takeWhile isBlank, (chars.dropWhile isBlank).rtakeWhile isBlank, ?_,
    fun c hc => List.mem_takeWhile_imp hc, fun c hc => List.mem_rtakeWhile_imp hc⟩
  rw [trimList_eq, List.append_assoc, List.rdropWhile_append_rtakeWhile,
    List.takeWhile_append_dropWhile]

theorem trimList_eq_nil_iff {chars : List Char} :
    trimList chars = [] ↔ ∀ c ∈ chars, isBlank c := by
  rw [trimList_eq, List.rdropWhile_eq_nil_iff]
  constructor
  · intro h c hc
    rw [← List.takeWhile_append_dropWhile (p := isBlank) (l := chars), List.mem_append] at hc
    exact hc.elim List.mem_takeWhile_imp (h c)
  · exact fun h c hc => h c ((List.dropWhile_suffix _).subset hc)

theorem trimList_blanks_around {before after : List Char} (hbefore : ∀ c ∈ before, isBlank c)
    (hafter : ∀ c ∈ after, isBlank c) (kept : List Char) :
    trimList (before ++ kept ++ after) = trimList kept := by
  by_cases hkept : ∀ c ∈ kept, isBlank c
  · rw [trimList_eq_nil_iff.mpr hkept, trimList_eq_nil_iff]
    simp only [List.forall_mem_append]
    exact ⟨⟨hbefore, hkept⟩, hafter⟩
  · have hfront : (kept ++ after).dropWhile isBlank = kept.dropWhile isBlank ++ after := by
      rw [List.dropWhile_append, if_neg]
      simpa [List.dropWhile_eq_nil_iff] using hkept
    rw [trimList_eq, List.append_assoc, List.dropWhile_append_of_pos hbefore, hfront,
      List.rdropWhile, List.reverse_append,
      List.dropWhile_append_of_pos fun c hc => hafter c (List.mem_reverse.mp hc)]
    rfl

/-- What holds of all ASCII characters by evaluation holds of a character below `0x80`. -/
theorem forall_ascii {p : Char → Prop} (h : ∀ n < 0x80, p (Char.ofNat n)) {c : Char}
    (hc : c.toNat < 0x80) : p c := by
  have hp := h c.toNat hc
  rwa [Char.ofNat_toNat] at hp

/-! ### Characters of names

The case mappings lead out of ASCII or stay among its letters, and never to a code point that is no
character. -/

/-- A character that is no ASCII character, or a letter or digit. -/
def isNameChar (c : Char) : Bool := 0x80 ≤ c.toNat || c.isAlphanum

def CaseShift.keepsNames (shift : CaseShift) : Bool :=
  let low := (shift.codes.first : Int) + shift.offset
  let high := (shift.codes.last : Int) + shift.offset
  (0x80 ≤ low && high < 0xD800) || (0xDFFF < low && high < 0x110000)
    || (shift.codes.first == shift.codes.last && isNameChar (Char.ofNat low.toNat))

theorem toNat_ofNat {n : Nat} (h : n.isValidChar) : (Char.ofNat n).toNat = n := by
  unfold Char.ofNat
  rw [dif_pos h]
  rfl

theorem isNameChar_shiftCase {shifts : List CaseShift} (hshifts : shifts.all (·.keepsNames))
    {c : Char} (hc : isNameChar c) : isNameChar (shiftCase shifts c) := by
  unfold shiftCase
  cases hfind : shifts.find? (·.codes.contains c) with
  | none => exact hc
  | some shift =>
      have hkeeps := List.all_eq_true.mp hshifts shift (List.mem_of_find?_eq_some hfind)
      have hcontains := List.find?_some hfind
      simp only [StridedRange.contains, Bool.and_eq_true, decide_eq_true_eq] at hcontains
      obtain ⟨⟨hfirst, hlast⟩, -⟩ := hcontains
      simp only [CaseShift.keepsNames, Bool.or_eq_true, Bool.and_eq_true, decide_eq_true_eq,
        beq_iff_eq] at hkeeps
      rcases hkeeps with (⟨hlow, hhigh⟩ | ⟨hlow, hhigh⟩) | ⟨hsingle, hname⟩
      · have hvalid : ((c.toNat : Int) + shift.offset).toNat.isValidChar := by
          left
          omega
        simp only [isNameChar, toNat_ofNat hvalid, Bool.or_eq_true, decide_eq_true_eq]
        left
        omega
      · have hvalid : ((c.toNat : Int) + shift.offset).toNat.isValidChar := by
          right
          omega
        simp only [isNameChar, toNat_ofNat hvalid, Bool.or_eq_true, decide_eq_true_eq]
        left
        omega
      · have hcode : c.toNat = shift.codes.first := by omega
        rwa [← hcode] at hname

theorem isNameChar_of_mem_expansions {expansions : List (Nat × List Nat)} {n : Nat}
    {codes : List Nat}
    (hexpansions : expansions.all fun entry => entry.2.all fun code => isNameChar (Char.ofNat code))
    (hlookup : expansions.lookup n = some codes) {c : Char} (hc : c ∈ codes.map Char.ofNat) :
    isNameChar c := by
  obtain ⟨code, hcode, rfl⟩ := List.mem_map.mp hc
  have hentry : (n, codes) ∈ expansions := by
    obtain ⟨before, after, hsplit, -⟩ := List.lookup_eq_some_iff.mp hlookup
    simp [hsplit]
  exact List.all_eq_true.mp (List.all_eq_true.mp hexpansions _ hentry) code hcode

theorem isNameChar_of_mem_upperChar {c d : Char} (hc : isNameChar c) (hd : d ∈ upperChar c) :
    isNameChar d := by
  unfold upperChar at hd
  split at hd
  case isTrue hascii =>
    obtain rfl := List.mem_singleton.mp hd
    exact forall_ascii (p := fun c => isNameChar c → isNameChar c.toUpper) (by decide)
      hascii hc
  case isFalse =>
    split at hd
    case h_1 codes hlookup => exact isNameChar_of_mem_expansions (by decide) hlookup hd
    case h_2 =>
      obtain rfl := List.mem_singleton.mp hd
      exact isNameChar_shiftCase (by decide) hc

theorem isNameChar_of_mem_lowerChar {c d : Char} (hc : isNameChar c) (hd : d ∈ lowerChar c) :
    isNameChar d := by
  unfold lowerChar at hd
  split at hd
  case isTrue hascii =>
    obtain rfl := List.mem_singleton.mp hd
    exact forall_ascii (p := fun c => isNameChar c → isNameChar c.toLower) (by decide)
      hascii hc
  case isFalse =>
    split at hd
    case h_1 codes hlookup => exact isNameChar_of_mem_expansions (by decide) hlookup hd
    case h_2 =>
      obtain rfl := List.mem_singleton.mp hd
      exact isNameChar_shiftCase (by decide) hc

theorem isNameChar_of_isAlphanumeric {c : Char} (h : isAlphanumeric c) : isNameChar c := by
  simp only [isNameChar, Bool.or_eq_true, decide_eq_true_eq]
  by_cases hascii : c.toNat < 0x80
  · rw [isAlphanumeric, if_pos hascii] at h
    exact .inr h
  · exact .inl (by omega)

theorem flatten_runs (keep : Char → Bool) (chars : List Char) :
    (runs keep chars).flatten = chars.filter keep := by
  induction chars with
  | nil => rfl
  | cons c rest ih =>
      unfold runs
      split
      case isFalse hc => rw [List.filter_cons_of_neg hc, ih]
      case isTrue hc =>
        rw [List.filter_cons_of_pos hc, ← ih]
        split
        case h_1 d rest' run others hruns =>
          rw [hruns]
          split <;> rfl
        case h_2 => rfl

theorem ne_nil_of_mem_runs {keep : Char → Bool} {chars run : List Char}
    (hrun : run ∈ runs keep chars) : run ≠ [] := by
  induction chars generalizing run with
  | nil => cases hrun
  | cons c rest ih =>
      unfold runs at hrun
      split at hrun
      case isFalse => exact ih hrun
      case isTrue =>
        split at hrun
        case h_1 d rest' run' others hruns =>
          have hothers : ∀ other ∈ others, other ≠ [] := by
            intro other hother
            exact ih (hruns ▸ List.mem_cons_of_mem _ hother)
          split at hrun
          · rcases List.mem_cons.mp hrun with rfl | hrun
            · exact List.cons_ne_nil _ _
            · exact hothers run hrun
          · simp only [List.mem_cons] at hrun
            rcases hrun with rfl | rfl | hrun
            · exact List.cons_ne_nil _ _
            · exact ih (hruns ▸ List.mem_cons_self)
            · exact hothers run hrun
        case h_2 =>
          rcases List.mem_cons.mp hrun with rfl | hrun
          · exact List.cons_ne_nil _ _
          · exact ih hrun

theorem mem_and_keep_of_mem_runs {keep : Char → Bool} {chars run : List Char}
    (hrun : run ∈ runs keep chars) {c : Char} (hc : c ∈ run) : c ∈ chars ∧ keep c := by
  have hmem : c ∈ (runs keep chars).flatten := List.mem_flatten.mpr ⟨run, hrun, hc⟩
  rwa [flatten_runs, List.mem_filter] at hmem

theorem keep_of_mem_runs {keep : Char → Bool} {chars run : List Char}
    (hrun : run ∈ runs keep chars) {c : Char} (hc : c ∈ run) : keep c :=
  (mem_and_keep_of_mem_runs hrun hc).2

end SchemaScaffold.Text

namespace SchemaScaffold.Naming

open SchemaScaffold.Text

@[simp]
theorem stripQuotesList_stripQuotesList (raw : List Char) :
    stripQuotesList (stripQuotesList raw) = stripQuotesList raw := by
  have hquotes : (stripQuotesList raw).filter (fun c => !isQuote c) = stripQuotesList raw := by
    rw [List.filter_eq_self]
    intro c hc
    have hc' := (trimList_sublist _).mem hc
    exact (List.mem_filter.mp hc').2
  rw [stripQuotesList, hquotes]
  exact trimList_trimList _

@[simp]
theorem typeNameList_toList_stripQuotes (raw : String) :
    typeNameList (stripQuotes raw).toList = typeNameList raw.toList := by
  simp [typeNameList, stripQuotes]

@[simp]
theorem typeName_stripQuotes (raw : String) : typeName (stripQuotes raw) = typeName raw := by
  simp [typeName]

@[simp]
theorem propertyName_stripQuotes (raw : String) :
    propertyName (stripQuotes raw) = propertyName raw := by
  simp [propertyName]

/-- What the case mappings make of letters and digits holds of the words of a class name. -/
theorem forall_mem_titleCase {p : Char → Prop}
    (hcase : ∀ c, isAlphanumeric c → (∀ d ∈ upperChar c, p d) ∧ ∀ d ∈ lowerChar c, p d)
    (raw : List Char) : ∀ c ∈ (segments raw).flatMap titleCase, p c := by
  intro d hd
  obtain ⟨segment, hsegment, hd⟩ := List.mem_flatMap.mp hd
  have hchars : ∀ e ∈ segment, isAlphanumeric e := by
    intro e he
    have hkeep := keep_of_mem_runs hsegment he
    exact (Bool.and_eq_true_iff.mp hkeep).2
  cases segment with
  | nil => cases hd
  | cons first rest =>
      rcases List.mem_append.mp hd with hd | hd
      · exact (hcase first (hchars first List.mem_cons_self)).1 d hd
      · obtain ⟨e, he, hd⟩ := List.mem_flatMap.mp hd
        exact (hcase e (hchars e (List.mem_cons_of_mem _ he))).2 d hd

theorem forall_mem_typeNameList {p : Char → Prop} (hdigit : p 'C' ∧ p 'o' ∧ p 'l')
    (hcase : ∀ c, isAlphanumeric c → (∀ d ∈ upperChar c, p d) ∧ ∀ d ∈ lowerChar c, p d)
    (raw : List Char) : ∀ c ∈ typeNameList raw, p c := by
  have hname : ∀ name : List Char, (∀ d ∈ name, p d) → ∀ d ∈ guardDigit name, p d := by
    intro name hname d hd
    unfold guardDigit at hd
    split at hd
    · split at hd
      · simp only [List.mem_cons] at hd
        rcases hd with rfl | rfl | rfl | rfl | hd
        · exact hdigit.1
        · exact hdigit.2.1
        · exact hdigit.2.2
        · exact hname _ List.mem_cons_self
        · exact hname _ (List.mem_cons_of_mem _ hd)
      · exact hname d hd
    · cases hd
  refine hname _ fun d hd => ?_
  exact forall_mem_titleCase hcase _ d (List.mem_filter.mp hd).1

theorem isNameChar_of_case {c : Char} (h : isAlphanumeric c) :
    (∀ d ∈ upperChar c, isNameChar d) ∧ ∀ d ∈ lowerChar c, isNameChar d := by
  have hname := isNameChar_of_isAlphanumeric h
  exact ⟨fun d => isNameChar_of_mem_upperChar hname, fun d => isNameChar_of_mem_lowerChar hname⟩

theorem filter_titleCase (raw : List Char) :
    ((segments raw).flatMap titleCase).filter (fun c => !isQuote c) =
      (segments raw).flatMap titleCase := by
  rw [List.filter_eq_self]
  intro c hc
  have hname : isNameChar c := forall_mem_titleCase (fun _ => isNameChar_of_case) raw c hc
  cases hquote : isQuote c with
  | false => rfl
  | true =>
      simp only [isQuote, Bool.or_eq_true, beq_iff_eq] at hquote
      rcases hquote with (hcode | rfl) | rfl
      · have hc : c = Char.ofNat 0x60 := by rw [← hcode, Char.ofNat_toNat]
        rw [hc] at hname
        cases hname
      · cases hname
      · cases hname

/-- A class name holds no ASCII characters other than letters and digits. -/
theorem isNameChar_of_mem_typeNameList {raw : List Char} {c : Char} (hc : c ∈ typeNameList raw) :
    isNameChar c := by
  exact forall_mem_typeNameList (by decide) (fun _ => isNameChar_of_case) raw c hc

theorem isNameChar_of_mem_avoidKeyword {name : String} (hname : ∀ c ∈ name.toList, isNameChar c)
    {c : Char} (hc : c ∈ (avoidKeyword name).toList) : isNameChar c := by
  unfold avoidKeyword at hc
  split at hc
  · rw [String.toList_append, List.mem_append] at hc
    rcases hc with hc | hc
    · exact hname c hc
    · have hvalue : "Value".toList.all isNameChar := by decide
      exact List.all_eq_true.mp hvalue c hc
  · exact hname c hc

theorem isNameChar_of_mem_propertyName {raw : String} {c : Char}
    (hc : c ∈ (propertyName raw).toList) : isNameChar c := by
  refine isNameChar_of_mem_avoidKeyword (fun d hd => ?_) hc
  rw [String.toList_ofList] at hd
  cases hname : typeNameList raw.toList with
  | nil =>
      rw [hname] at hd
      cases hd
  | cons first rest =>
      have hchars : ∀ e ∈ first :: rest, isNameChar e := by
        rw [← hname]
        exact fun e => isNameChar_of_mem_typeNameList
      rw [List.forall_mem_cons] at hchars
      rw [hname, uncapitalize, List.mem_append] at hd
      rcases hd with hd | hd
      · exact isNameChar_of_mem_lowerChar hchars.1 hd
      · exact hchars.2 d hd

theorem not_mem_typeNameList {raw : List Char} {c : Char} (hc : isNameChar c = false) :
    c ∉ typeNameList raw := by
  intro hmem
  rw [isNameChar_of_mem_typeNameList hmem] at hc
  cases hc

end SchemaScaffold.Naming

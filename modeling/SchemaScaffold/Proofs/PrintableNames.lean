import SchemaScaffold.Proofs.PackageNames

/-!
# Characters that names of classes may hold

A class name is made of letters and digits by the case mappings, and these lead to no character that
cannot be seen: a blank or a control character. Such characters are few, so the tables of the
mappings are searched for each of them.
-/

namespace SchemaScaffold.Text

/-- A letter or digit of ASCII, or a character beyond ASCII that can be seen. -/
def isInk (c : Char) : Bool := isNameChar c && !isControl c && !isBlank c

def isWithin (ranges : CodeRanges) (code : Nat) : Bool :=
  ranges.any fun r => r.1 ≤ code && code ≤ r.2

def misses (ranges : CodeRanges) (first last : Int) : Bool :=
  ranges.all fun r => last < r.1 || (r.2 : Int) < first

theorem not_isWithin_of_misses {ranges : CodeRanges} {first last : Int}
    (h : misses ranges first last) {code : Nat} (hfirst : first ≤ code) (hlast : code ≤ last) :
    isWithin ranges code = false := by
  rw [misses, List.all_eq_true] at h
  rw [isWithin, List.any_eq_false]
  intro r hr
  have hmisses := h r hr
  simp only [Bool.or_eq_true, Bool.and_eq_true, decide_eq_true_eq] at hmisses ⊢
  omega

def CodeRanges.apart (ranges others : CodeRanges) : Bool :=
  ranges.all fun r => others.all fun other => r.2.blt other.1 || other.2.blt r.1

theorem not_isWithin_of_apart {ranges others : CodeRanges} (h : ranges.apart others) {code : Nat}
    (hcode : isWithin ranges code) : isWithin others code = false := by
  obtain ⟨r, hr, hinside⟩ := List.any_eq_true.mp hcode
  rw [isWithin, List.any_eq_false]
  intro other hother
  have hapart := List.all_eq_true.mp (List.all_eq_true.mp h r hr) other hother
  simp only [Bool.or_eq_true, Bool.and_eq_true, decide_eq_true_eq, Nat.blt_eq]
    at hapart hinside ⊢
  omega

def hiddenRanges : CodeRanges :=
  [(0x80, 0xA0), (0x1680, 0x1680), (0x2000, 0x200A), (0x2028, 0x2029), (0x202F, 0x202F),
    (0x205F, 0x205F), (0x3000, 0x3000)]

def isHidden (code : Nat) : Bool := isWithin hiddenRanges code

theorem isHidden_iff {code : Nat} : isHidden code ↔ 0x80 ≤ code ∧ code ≤ 0xA0 ∨ code = 0x1680 ∨
    0x2000 ≤ code ∧ code ≤ 0x200A ∨ 0x2028 ≤ code ∧ code ≤ 0x2029 ∨ code = 0x202F ∨
      code = 0x205F ∨ code = 0x3000 := by
  simp only [isHidden, isWithin, hiddenRanges, List.any_cons, List.any_nil, Bool.or_eq_true,
    Bool.and_eq_true, decide_eq_true_eq, Bool.false_eq_true, or_false]
  omega

theorem not_isBlank_of_isInk {c : Char} (h : isInk c) : isBlank c = false := by
  rw [isInk, Bool.and_eq_true, Bool.not_eq_true'] at h
  exact h.2

theorem isHidden_eq {c : Char} (h : ¬c.toNat < 0x80) :
    isHidden c.toNat = (isControl c || isBlank c) := by
  rw [Bool.eq_iff_iff, isHidden_iff]
  simp only [isControl, isBlank, Bool.or_eq_true, Bool.and_eq_true, decide_eq_true_eq, beq_iff_eq]
  omega

/-- The characters of names are seen unless they are among the few that are not. -/
theorem isInk_iff {c : Char} : isInk c ↔ isNameChar c ∧ isHidden c.toNat = false := by
  by_cases hascii : c.toNat < 0x80
  · exact forall_ascii (p := fun c => isInk c ↔ isNameChar c ∧ isHidden c.toNat = false)
      (by decide) hascii
  · rw [isInk, isHidden_eq hascii, Bool.and_eq_true, Bool.and_eq_true, Bool.or_eq_false_iff,
      Bool.not_eq_true', Bool.not_eq_true', and_assoc]

section

variable {ranges : CodeRanges}

/-- A shift leads into no range that it misses, if it takes the character. -/
theorem not_isWithin_shiftCase_of_contains (hzero : isWithin ranges 0 = false)
    {shifts : List CaseShift} {c : Char}
    (hshifts : ∀ shift ∈ shifts, shift.codes.contains c → misses ranges
      ((shift.codes.first : Int) + shift.offset) ((shift.codes.last : Int) + shift.offset))
    (hc : isWithin ranges c.toNat = false) : isWithin ranges (shiftCase shifts c).toNat = false := by
  unfold shiftCase
  cases hfind : shifts.find? (·.codes.contains c) with
  | none => exact hc
  | some shift =>
      have hcontains := List.find?_some (p := fun shift : CaseShift => shift.codes.contains c) hfind
      have hmisses := hshifts shift (List.mem_of_find?_eq_some hfind) hcontains
      simp only [StridedRange.contains, Bool.and_eq_true, decide_eq_true_eq] at hcontains
      obtain ⟨⟨hfirst, hlast⟩, -⟩ := hcontains
      by_cases hvalid : ((c.toNat : Int) + shift.offset).toNat.isValidChar
      · rw [toNat_ofNat hvalid]
        by_cases hpositive : 0 ≤ (c.toNat : Int) + shift.offset
        · exact not_isWithin_of_misses hmisses (by omega) (by omega)
        · rwa [Int.toNat_of_nonpos (by omega)]
      · have hnone : (Char.ofNat ((c.toNat : Int) + shift.offset).toNat).toNat = 0 := by
          unfold Char.ofNat
          rw [dif_neg hvalid]
          rfl
        rwa [hnone]

theorem not_isWithin_shiftCase (hzero : isWithin ranges 0 = false) {shifts : List CaseShift}
    (hshifts : shifts.all fun shift => misses ranges ((shift.codes.first : Int) + shift.offset)
      ((shift.codes.last : Int) + shift.offset)) {c : Char} (hc : isWithin ranges c.toNat = false) :
    isWithin ranges (shiftCase shifts c).toNat = false :=
  not_isWithin_shiftCase_of_contains hzero
    (fun shift hshift _ => List.all_eq_true.mp hshifts shift hshift) hc

theorem not_isWithin_expansions {expansions : List (Nat × List Nat)} {n : Nat} {codes : List Nat}
    (hexpansions : expansions.all fun entry => entry.2.all fun code =>
      !isWithin ranges (Char.ofNat code).toNat)
    (hlookup : expansions.lookup n = some codes) {c : Char} (hc : c ∈ codes.map Char.ofNat) :
    isWithin ranges c.toNat = false := by
  obtain ⟨code, hcode, rfl⟩ := List.mem_map.mp hc
  obtain ⟨before, after, hsplit, -⟩ := List.lookup_eq_some_iff.mp hlookup
  have hentry : (n, codes) ∈ expansions := by simp [hsplit]
  have hseen := List.all_eq_true.mp (List.all_eq_true.mp hexpansions _ hentry) code hcode
  simpa using hseen

/-- The upper-case mapping leads into no range that its tables miss. -/
theorem not_isWithin_of_mem_upperChar (hzero : isWithin ranges 0 = false)
    (hascii : ∀ n < 0x80, isWithin ranges (Char.ofNat n).toUpper.toNat = false)
    (hexpansions : upperExpansions.all fun entry => entry.2.all fun code =>
      !isWithin ranges (Char.ofNat code).toNat)
    (hshifts : upperShifts.all fun shift => misses ranges
      ((shift.codes.first : Int) + shift.offset) ((shift.codes.last : Int) + shift.offset))
    {c d : Char} (hc : 0x80 ≤ c.toNat → isWithin ranges c.toNat = false) (hd : d ∈ upperChar c) :
    isWithin ranges d.toNat = false := by
  unfold upperChar at hd
  split at hd
  case isTrue hsmall =>
    obtain rfl := List.mem_singleton.mp hd
    exact forall_ascii (p := fun c => isWithin ranges c.toUpper.toNat = false) hascii hsmall
  case isFalse hlarge =>
    split at hd
    case h_1 codes hlookup => exact not_isWithin_expansions hexpansions hlookup hd
    case h_2 =>
      obtain rfl := List.mem_singleton.mp hd
      exact not_isWithin_shiftCase hzero hshifts (hc (by omega))

end

theorem isInk_of_mem_upperChar {c d : Char} (hc : isInk c) (hd : d ∈ upperChar c) : isInk d := by
  rw [isInk_iff] at hc ⊢
  refine ⟨isNameChar_of_mem_upperChar hc.1 hd, ?_⟩
  exact not_isWithin_of_mem_upperChar (by decide) (by decide) (by decide)
    (by decide) (fun _ => hc.2) hd

theorem isInk_of_mem_lowerChar {c d : Char} (hc : isInk c) (hd : d ∈ lowerChar c) : isInk d := by
  rw [isInk_iff] at hc ⊢
  refine ⟨isNameChar_of_mem_lowerChar hc.1 hd, ?_⟩
  unfold lowerChar at hd
  split at hd
  case isTrue hascii =>
    obtain rfl := List.mem_singleton.mp hd
    exact forall_ascii (p := fun c => isHidden c.toLower.toNat = false) (by decide) hascii
  case isFalse =>
    split at hd
    case h_1 codes hlookup => exact not_isWithin_expansions (by decide) hlookup hd
    case h_2 =>
      obtain rfl := List.mem_singleton.mp hd
      exact not_isWithin_shiftCase (by decide) (by decide) hc.2

def smallRange : CodeRanges := [(0x61, 0x7A)]

theorem isWithin_smallRange (c : Char) : isWithin smallRange c.toNat = c.isLower := by
  rw [isWithin, smallRange, List.any_cons, List.any_nil, Bool.or_false]
  rfl

theorem not_isLower_of_mem_upperChar {c d : Char} (hd : d ∈ upperChar c) : d.isLower = false := by
  rw [← isWithin_smallRange]
  refine not_isWithin_of_mem_upperChar (by decide) (by decide) (by decide)
    (by decide) (fun hlarge => ?_) hd
  rw [isWithin, smallRange]
  simp
  omega

theorem not_isHidden_of_isAlphabetic {c : Char} (h : isAlphabetic c) : isHidden c.toNat = false := by
  by_cases hascii : c.toNat < 0x80
  · exact forall_ascii (p := fun c => isHidden c.toNat = false) (by decide) hascii
  · rw [isAlphabetic, if_neg hascii] at h
    exact not_isWithin_of_apart (by decide +kernel) h

theorem isInk_of_isAlphanumeric {c : Char} (h : isAlphanumeric c) : isInk c := by
  rw [isInk_iff]
  refine ⟨isNameChar_of_isAlphanumeric h, ?_⟩
  by_cases hascii : c.toNat < 0x80
  · exact forall_ascii (p := fun c => isHidden c.toNat = false) (by decide) hascii
  · rw [isAlphanumeric, if_neg hascii, Bool.or_eq_true, Bool.or_eq_true] at h
    rcases h with (hletter | hdigit) | hnumber
    · exact not_isHidden_of_isAlphabetic hletter
    · exact not_isWithin_of_apart (by decide) hdigit
    · exact not_isWithin_of_apart (by decide) hnumber

theorem not_isWordChar_of_isBlank {c : Char} (h : isBlank c) : isWordChar c = false := by
  by_cases hascii : c.toNat < 0x80
  · exact forall_ascii (p := fun c => isBlank c → isWordChar c = false) (by decide) hascii h
  · have hhidden : isHidden c.toNat := by rw [isHidden_eq hascii, h, Bool.or_true]
    rw [← Bool.not_eq_true, isWordChar, if_neg hascii, Bool.or_eq_true, Bool.or_eq_true,
      Bool.or_eq_true]
    intro hword
    refine absurd hhidden (Bool.eq_false_iff.mp ?_)
    rcases hword with ((hletter | hdigit) | hmark) | hconnector
    · exact not_isHidden_of_isAlphabetic hletter
    · exact not_isWithin_of_apart (by decide) hdigit
    · exact not_isWithin_of_apart (by decide +kernel) hmark
    · exact not_isWithin_of_apart (by decide) hconnector

theorem upperChar_ne_nil (c : Char) : upperChar c ≠ [] := by
  unfold upperChar
  split
  · simp
  · split
    · rename_i codes hlookup
      have hexpansions : upperExpansions.all fun entry => !entry.2.isEmpty := by decide
      obtain ⟨before, after, hsplit, -⟩ := List.lookup_eq_some_iff.mp hlookup
      have hentry : (c.toNat, codes) ∈ upperExpansions := by simp [hsplit]
      simpa using List.all_eq_true.mp hexpansions _ hentry
    · simp

theorem length_le_upperList (chars : List Char) : chars.length ≤ (upperList chars).length := by
  induction chars with
  | nil => simp [upperList]
  | cons c rest ih =>
      have hfirst := List.length_pos_of_ne_nil (upperChar_ne_nil c)
      simp only [upperList, List.flatMap_cons, List.length_append, List.length_cons] at ih ⊢
      omega

end SchemaScaffold.Text

namespace SchemaScaffold.Naming

open SchemaScaffold.Text

theorem isInk_of_mem_typeNameList {raw : List Char} {c : Char} (hc : c ∈ typeNameList raw) :
    isInk c := by
  refine forall_mem_typeNameList (p := fun c => isInk c) (by decide) ?_ raw c hc
  intro e he
  have hink := isInk_of_isAlphanumeric he
  exact ⟨fun d => isInk_of_mem_upperChar hink, fun d => isInk_of_mem_lowerChar hink⟩

theorem exists_typeNameList_eq_cons {raw : List Char} (hne : typeNameList raw ≠ []) :
    ∃ c rest, typeNameList raw = c :: rest ∧ c.isLower = false := by
  rw [typeNameList, filter_titleCase] at hne ⊢
  cases hsegments : segments (stripQuotesList raw) with
  | nil =>
      rw [hsegments] at hne
      exact absurd rfl hne
  | cons first others =>
      have hmem : first ∈ segments (stripQuotesList raw) := by simp [hsegments]
      obtain ⟨c, rest, rfl⟩ := List.exists_cons_of_ne_nil (ne_nil_of_mem_runs hmem)
      obtain ⟨d, more, hupper⟩ := List.exists_cons_of_ne_nil (upperChar_ne_nil c)
      have hlower : d.isLower = false := not_isLower_of_mem_upperChar (c := c) (by simp [hupper])
      rw [List.flatMap_cons, titleCase, hupper, List.cons_append, List.cons_append, guardDigit]
      split
      · exact ⟨'C', _, rfl, by decide⟩
      · exact ⟨d, _, rfl, hlower⟩

end SchemaScaffold.Naming

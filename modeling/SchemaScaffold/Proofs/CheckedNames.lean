import SchemaScaffold.Proofs.JavaNames
import SchemaScaffold.Proofs.ProjectDirectories

/-!
# Names that pass the checks

The checks of names look at a copy in small letters, so that the case of letters does not matter.
Beyond ASCII there is one character whose lower case is an ASCII character: the sign of the unit
Kelvin, which looks like the letter K. A name passes exactly when it follows the grammar of names
with this sign among the letters; the grammar itself is met by the names that pass and do without
the sign.
-/

namespace SchemaScaffold.Text

def kelvinSign : Char := Char.ofNat 0x212A

def alphanumRanges : CodeRanges := [(0x30, 0x39), (0x41, 0x5A), (0x61, 0x7A)]

theorem isWithin_alphanumRanges (c : Char) : isWithin alphanumRanges c.toNat = c.isAlphanum := by
  by_cases hascii : c.toNat < 0x80
  · exact forall_ascii (p := fun c => isWithin alphanumRanges c.toNat = c.isAlphanum) (by decide)
      hascii
  · have halphanum : c.isAlphanum = false :=
      eq_false_of_ne_true fun h => hascii (Naming.toNat_lt_of_isAlphanum h)
    rw [halphanum]
    simp only [isWithin, alphanumRanges, List.any_cons, List.any_nil, Bool.or_false,
      Bool.or_eq_false_iff, Bool.and_eq_false_iff, decide_eq_false_iff_not]
    omega

/-- The shift of the sign is the only one that leads to letters and digits of ASCII. -/
theorem not_isAlphanum_shiftCase {c : Char} (hascii : 0x80 ≤ c.toNat) (hkelvin : c ≠ kelvinSign) :
    (shiftCase lowerShifts c).isAlphanum = false := by
  have hshifts : lowerShifts.all fun shift =>
      misses alphanumRanges ((shift.codes.first : Int) + shift.offset)
        ((shift.codes.last : Int) + shift.offset)
        || (shift.codes.first == 0x212A && shift.codes.last == 0x212A) := by decide
  rw [← isWithin_alphanumRanges]
  refine not_isWithin_shiftCase_of_contains (by decide) (fun shift hshift hcontains => ?_) ?_
  · have hcases := List.all_eq_true.mp hshifts shift hshift
    simp only [Bool.or_eq_true, Bool.and_eq_true, beq_iff_eq] at hcases
    refine hcases.resolve_right fun hsign => hkelvin ?_
    simp only [StridedRange.contains, Bool.and_eq_true, decide_eq_true_eq] at hcontains
    have hcode : c.toNat = 0x212A := by omega
    rw [kelvinSign, ← hcode, Char.ofNat_toNat]
  · simp [isWithin, alphanumRanges]
    omega

/-- A character whose lower case stands in ASCII. -/
def FoldsToAscii (c : Char) : Prop := c.toNat < 0x80 ∨ c = kelvinSign

theorem foldsToAscii_of_lowerChar {c : Char} (h : ∀ d ∈ lowerChar c, d.toNat < 0x80) :
    FoldsToAscii c := by
  by_contra hc
  obtain ⟨hascii, hkelvin⟩ := not_or.mp hc
  rw [lowerChar, if_neg hascii] at h
  split at h
  case h_1 codes hlookup =>
    have hexpansions : lowerExpansions.all fun entry =>
        entry.2.any fun code => !decide ((Char.ofNat code).toNat < 0x80) := by decide
    obtain ⟨before, after, hsplit, -⟩ := List.lookup_eq_some_iff.mp hlookup
    have hentry : (c.toNat, codes) ∈ lowerExpansions := by simp [hsplit]
    obtain ⟨code, hcode, hbeyond⟩ :=
      List.any_eq_true.mp (List.all_eq_true.mp hexpansions _ hentry)
    rw [Bool.not_eq_true', decide_eq_false_iff_not] at hbeyond
    exact hbeyond (h _ (List.mem_map_of_mem hcode))
  case h_2 hlookup =>
    have hname : isNameChar (shiftCase lowerShifts c) :=
      isNameChar_shiftCase (by decide) (by simp [isNameChar]; omega)
    rw [isNameChar, not_isAlphanum_shiftCase (Nat.le_of_not_lt hascii) hkelvin, Bool.or_false,
      decide_eq_true_eq] at hname
    exact absurd (h _ (List.mem_singleton_self _)) (Nat.not_lt_of_le hname)

def asciiLower (c : Char) : Char := if c = kelvinSign then 'k' else c.toLower

/-- What holds of the ASCII characters and of the sign by evaluation holds of these characters. -/
theorem FoldsToAscii.elim {p : Char → Prop} (hsign : p kelvinSign)
    (hascii : ∀ n < 0x80, p (Char.ofNat n)) {c : Char} (h : FoldsToAscii c) : p c := by
  rcases h with hc | rfl
  · exact forall_ascii hascii hc
  · exact hsign

theorem lowerChar_of_foldsToAscii {c : Char} (h : FoldsToAscii c) : lowerChar c = [asciiLower c] :=
  h.elim (p := fun c => lowerChar c = [asciiLower c]) (by decide) (by decide)

theorem lowerFrom_of_foldsToAscii {chars : List Char} (h : ∀ c ∈ chars, FoldsToAscii c)
    (before : List Char) : lowerFrom before chars = chars.map asciiLower := by
  induction chars generalizing before with
  | nil => rfl
  | cons c rest ih =>
      obtain ⟨hc, hrest⟩ := List.forall_mem_cons.mp h
      have hsigma : (c == capitalSigma) = false :=
        hc.elim (p := fun c => (c == capitalSigma) = false) (by decide) (by decide)
      simp only [lowerFrom, hsigma, lowerChar_of_foldsToAscii hc, ih hrest, Bool.false_and,
        Bool.false_eq_true, if_false, List.map_cons, List.singleton_append]

theorem foldsToAscii_of_lowerFrom {before chars : List Char}
    (h : ∀ d ∈ lowerFrom before chars, d.toNat < 0x80) : ∀ c ∈ chars, FoldsToAscii c := by
  induction chars generalizing before with
  | nil => simp
  | cons c rest ih =>
      have hsigma : ¬finalSigma.toNat < 0x80 := by decide
      rw [lowerFrom] at h
      split at h
      case isTrue => exact absurd (h _ List.mem_cons_self) hsigma
      case isFalse =>
        rw [List.forall_mem_append] at h
        exact List.forall_mem_cons.mpr ⟨foldsToAscii_of_lowerChar h.1, ih h.2⟩

/-- A check of characters of ASCII that a text in lower case passes is passed letter by letter. -/
theorem lowerList_iff {check : List Char → Bool}
    (hcheck : ∀ chars, check chars → ∀ c ∈ chars, c.toNat < 0x80) (chars : List Char) :
    check (lowerList chars) ↔ (∀ c ∈ chars, FoldsToAscii c) ∧ check (chars.map asciiLower) := by
  constructor
  · intro h
    have hfolds := foldsToAscii_of_lowerFrom (hcheck _ h)
    rw [lowerList, lowerFrom_of_foldsToAscii hfolds] at h
    exact ⟨hfolds, h⟩
  · rintro ⟨hfolds, h⟩
    rwa [lowerList, lowerFrom_of_foldsToAscii hfolds]

/-! ### Parts between dots -/

/-- A text of one or more parts with dots between them. -/
def IsDotted (IsPart : List Char → Prop) (text : List Char) : Prop :=
  ∃ parts, parts ≠ [] ∧ (∀ part ∈ parts, IsPart part) ∧ text = ['.'].intercalate parts

/-- The parts of a text are its fields, if no part has a dot in it. -/
theorem isDotted_iff {IsPart : List Char → Prop} (hdot : ∀ part, IsPart part → '.' ∉ part)
    {text : List Char} : IsDotted IsPart text ↔ ∀ field ∈ fields '.' text, IsPart field := by
  constructor
  · rintro ⟨parts, hne, hparts, rfl⟩
    rwa [fields_intercalate hne fun part hpart => hdot part (hparts part hpart)]
  · intro h
    exact ⟨fields '.' text, fields_ne_nil '.' text, h, (intercalate_fields '.' text).symm⟩

theorem fields_map {separator : Char} {f : Char → Char} {chars : List Char}
    (hf : ∀ c ∈ chars, f c = separator ↔ c = separator) :
    fields separator (chars.map f) = (fields separator chars).map (List.map f) := by
  induction chars with
  | nil => rfl
  | cons c rest ih =>
      obtain ⟨hc, hrest⟩ := List.forall_mem_cons.mp hf
      simp only [List.map_cons, fields, beq_iff_eq, hc, ih hrest]
      split
      · rfl
      · cases fields separator rest <;> rfl

end SchemaScaffold.Text

namespace SchemaScaffold.Validation

open Text (kelvinSign FoldsToAscii asciiLower)

/-! ### The grammar of names -/

def IsNameCharOf (isLetter : Char → Bool) (c : Char) : Prop :=
  isLetter c ∨ c.isDigit ∨ c = '.' ∨ c = '_' ∨ c = '-'

structure IsProjectNameOf (isLetter : Char → Bool) (name : List Char) : Prop where
  nonempty : 1 ≤ name.length
  short : name.length ≤ 50
  chars : ∀ c ∈ name, IsNameCharOf isLetter c
  first : ∀ c ∈ name.head?, isLetter c ∨ c.isDigit
  last : ∀ c ∈ name.getLast?, isLetter c ∨ c.isDigit

def IsSegmentOf (isLetter : Char → Bool) (segment : List Char) : Prop :=
  ∃ first rest, segment = first :: rest ∧ isLetter first ∧
    ∀ c ∈ rest, isLetter c ∨ c.isDigit ∨ c = '_'

structure IsPackageNameOf (isLetter : Char → Bool) (name : List Char) : Prop where
  nonempty : 1 ≤ name.length
  short : name.length ≤ 100
  segments : Text.IsDotted (IsSegmentOf isLetter) name

/-- The letters of names, among them the sign that has an ASCII letter as its lower case. -/
def isFoldedLetter (c : Char) : Bool := c.isAlpha || c == kelvinSign

/-! ### What the checks accept -/

section

variable {c : Char} (hc : FoldsToAscii c)
include hc

theorem isLower_asciiLower : (asciiLower c).isLower = isFoldedLetter c :=
  hc.elim (p := fun c => (asciiLower c).isLower = isFoldedLetter c) (by decide) (by decide)

theorem isLowerAlphanumeric_asciiLower :
    isLowerAlphanumeric (asciiLower c) = (isFoldedLetter c || c.isDigit) :=
  hc.elim (p := fun c => isLowerAlphanumeric (asciiLower c) = (isFoldedLetter c || c.isDigit))
    (by decide) (by decide)

theorem asciiLower_eq_iff {mark : Char} (hmark : mark ∈ ['.', '_', '-']) :
    asciiLower c = mark ↔ c = mark := by
  simp only [List.mem_cons, List.not_mem_nil, or_false] at hmark
  rcases hmark with rfl | rfl | rfl
  all_goals exact hc.elim (p := fun c => asciiLower c = _ ↔ c = _) (by decide) (by decide)

end

/-- The characters of names are among those whose lower case stands in ASCII. -/
theorem foldsToAscii_of_isFoldedLetter {c : Char} (h : isFoldedLetter c ∨ c.isDigit) :
    FoldsToAscii c := by
  rw [isFoldedLetter, Bool.or_eq_true, beq_iff_eq] at h
  rcases h with (halpha | hsign) | hdigit
  · exact .inl (Naming.toNat_lt_of_isAlphanum (by simp [Char.isAlphanum, halpha]))
  · exact .inr hsign
  · exact .inl (Naming.toNat_lt_of_isAlphanum (by simp [Char.isAlphanum, hdigit]))

theorem isProjectNameChar_asciiLower {c : Char} (hc : FoldsToAscii c) :
    isProjectNameChar (asciiLower c) ↔ IsNameCharOf isFoldedLetter c := by
  simp only [isProjectNameChar, IsNameCharOf, isLowerAlphanumeric_asciiLower hc, Bool.or_eq_true,
    beq_iff_eq, asciiLower_eq_iff hc (by decide : '.' ∈ ['.', '_', '-']),
    asciiLower_eq_iff hc (by decide : '_' ∈ ['.', '_', '-']),
    asciiLower_eq_iff hc (by decide : '-' ∈ ['.', '_', '-']), or_assoc]

theorem isSegmentOf_cons {isLetter : Char → Bool} {first : Char} {rest : List Char} :
    IsSegmentOf isLetter (first :: rest) ↔
      isLetter first ∧ ∀ c ∈ rest, isLetter c ∨ c.isDigit ∨ c = '_' := by
  constructor
  · rintro ⟨c, others, ⟨⟩, h⟩
    exact h
  · exact fun h => ⟨first, rest, rfl, h⟩

theorem isPackageSegment_asciiLower {segment : List Char}
    (hsegment : ∀ c ∈ segment, FoldsToAscii c) :
    isPackageSegment (segment.map asciiLower) ↔ IsSegmentOf isFoldedLetter segment := by
  cases segment with
  | nil => simp [isPackageSegment, IsSegmentOf]
  | cons first rest =>
      obtain ⟨hfirst, hrest⟩ := List.forall_mem_cons.mp hsegment
      rw [isSegmentOf_cons, List.map_cons, isPackageSegment, Bool.and_eq_true, List.all_map,
        List.all_eq_true, isLower_asciiLower hfirst]
      refine and_congr_right fun _ => forall₂_congr fun c hc => ?_
      simp only [Function.comp_apply, isLowerAlphanumeric_asciiLower (hrest c hc), Bool.or_eq_true,
        beq_iff_eq, asciiLower_eq_iff (hrest c hc) (by decide : '_' ∈ ['.', '_', '-']), or_assoc]

theorem toNat_lt_of_isProjectNameChar {c : Char} (h : isProjectNameChar c) : c.toNat < 0x80 := by
  simp only [isProjectNameChar, Bool.or_eq_true, beq_iff_eq] at h
  rcases h with ((hsmall | rfl) | rfl) | rfl
  · exact Naming.toNat_lt_of_isSmall hsmall
  · decide
  · decide
  · decide

theorem isProjectName_asciiLower {chars : List Char} (hchars : ∀ c ∈ chars, FoldsToAscii c) :
    isProjectName (chars.map asciiLower) ↔
      (∀ c ∈ chars, IsNameCharOf isFoldedLetter c) ∧ chars ≠ [] ∧
        (∀ c ∈ chars.head?, isFoldedLetter c ∨ c.isDigit) ∧
          ∀ c ∈ chars.getLast?, isFoldedLetter c ∨ c.isDigit := by
  have hall : (chars.map asciiLower).all isProjectNameChar ↔
      ∀ c ∈ chars, IsNameCharOf isFoldedLetter c := by
    rw [List.all_map, List.all_eq_true]
    exact forall₂_congr fun c hc => isProjectNameChar_asciiLower (hchars c hc)
  have hend : ∀ c ∈ chars, isLowerAlphanumeric (asciiLower c) ↔ isFoldedLetter c ∨ c.isDigit := by
    intro c hc
    rw [isLowerAlphanumeric_asciiLower (hchars c hc), Bool.or_eq_true]
  rw [isProjectName, Bool.and_eq_true, Bool.and_eq_true, hall, and_assoc]
  refine and_congr_right fun _ => ?_
  cases hhead : chars.head? with
  | none => simp [List.head?_eq_none_iff.mp hhead]
  | some first =>
      have hne : chars ≠ [] := by
        rintro rfl
        cases hhead
      have hlast := List.getLast?_eq_some_getLast hne
      simp [hhead, hlast, hne, hend first (List.mem_of_mem_head? hhead),
        hend _ (List.getLast_mem hne)]

theorem foldsToAscii_of_isNameCharOf {c : Char} (h : IsNameCharOf isFoldedLetter c) :
    FoldsToAscii c := by
  rcases h with hletter | hdigit | rfl | rfl | rfl
  · exact foldsToAscii_of_isFoldedLetter (.inl hletter)
  · exact foldsToAscii_of_isFoldedLetter (.inr hdigit)
  · exact .inl (by decide)
  · exact .inl (by decide)
  · exact .inl (by decide)

theorem not_isBlank_of_isFoldedLetter {c : Char} (h : isFoldedLetter c ∨ c.isDigit) :
    Text.isBlank c = false :=
  (foldsToAscii_of_isFoldedLetter h).elim
    (p := fun c => isFoldedLetter c ∨ c.isDigit → Text.isBlank c = false) (by decide) (by decide) h

theorem isBlankText_eq_false_of_mem {name : String} {c : Char} (hc : c ∈ name.toList)
    (h : isFoldedLetter c ∨ c.isDigit) : Text.isBlankText name = false := by
  rw [Text.isBlankText_eq, List.all_eq_false]
  exact ⟨c, hc, by rw [not_isBlank_of_isFoldedLetter h]; exact Bool.false_ne_true⟩

theorem projectName_eq_ok_iff_isProjectNameOf {name : String} :
    projectName name = .ok () ↔ IsProjectNameOf isFoldedLetter name.toList := by
  have hascii : ∀ chars, isProjectName chars → ∀ c ∈ chars, c.toNat < 0x80 := by
    intro chars h c hc
    rw [isProjectName, Bool.and_eq_true, Bool.and_eq_true, List.all_eq_true] at h
    exact toNat_lt_of_isProjectNameChar (h.1.1 c hc)
  rw [projectName_eq_ok_iff, Text.lower, String.toList_ofList, Text.lowerList_iff hascii,
    ← String.length_toList]
  constructor
  · rintro ⟨-, ⟨hfolds, h⟩, hshort⟩
    obtain ⟨hchars, hne, hfirst, hlast⟩ := (isProjectName_asciiLower hfolds).mp h
    exact ⟨List.length_pos_of_ne_nil hne, hshort, hchars, hfirst, hlast⟩
  · intro h
    have hne := List.ne_nil_of_length_pos h.nonempty
    have hfolds : ∀ c ∈ name.toList, FoldsToAscii c :=
      fun c hc => foldsToAscii_of_isNameCharOf (h.chars c hc)
    obtain ⟨c, rest, hname⟩ := List.exists_cons_of_ne_nil hne
    have hblank : Text.isBlankText name = false :=
      isBlankText_eq_false_of_mem (c := c) (by simp [hname]) (h.first c (by simp [hname]))
    exact ⟨hblank, ⟨hfolds, (isProjectName_asciiLower hfolds).mpr ⟨h.chars, hne, h.first, h.last⟩⟩,
      h.short⟩

section

variable {isLetter : Char → Bool} (hdot : isLetter '.' = false)
include hdot

theorem not_mem_of_isSegmentOf {segment : List Char} (h : IsSegmentOf isLetter segment) :
    '.' ∉ segment := by
  obtain ⟨first, rest, rfl, hfirst, hrest⟩ := h
  intro hmem
  rcases List.mem_cons.mp hmem with rfl | hmem
  · rw [hfirst] at hdot
    cases hdot
  · have hchar := hrest _ hmem
    rw [hdot] at hchar
    revert hchar
    decide

theorem isDotted_isSegmentOf_iff {name : List Char} : Text.IsDotted (IsSegmentOf isLetter) name ↔
    ∀ field ∈ Text.fields '.' name, IsSegmentOf isLetter field :=
  Text.isDotted_iff fun _ => not_mem_of_isSegmentOf hdot

theorem isNameCharOf_of_isDotted {name : List Char}
    (h : Text.IsDotted (IsSegmentOf isLetter) name) {c : Char} (hc : c ∈ name) :
    IsNameCharOf isLetter c := by
  rw [isDotted_isSegmentOf_iff hdot] at h
  rcases Text.mem_fields '.' hc with rfl | ⟨field, hfield, hc⟩
  · exact .inr (.inr (.inl rfl))
  · obtain ⟨first, rest, rfl, hfirst, hrest⟩ := h field hfield
    rcases List.mem_cons.mp hc with rfl | hc
    · exact .inl hfirst
    · rcases hrest c hc with hletter | hdigit | hline
      · exact .inl hletter
      · exact .inr (.inl hdigit)
      · exact .inr (.inr (.inr (.inl hline)))

theorem exists_letter_of_isDotted {name : List Char}
    (h : Text.IsDotted (IsSegmentOf isLetter) name) : ∃ c ∈ name, isLetter c := by
  rw [isDotted_isSegmentOf_iff hdot] at h
  obtain ⟨field, others, hfields⟩ := List.exists_cons_of_ne_nil (Text.fields_ne_nil '.' name)
  have hfield : field ∈ Text.fields '.' name := by simp [hfields]
  obtain ⟨first, rest, rfl, hfirst, -⟩ := h field hfield
  exact ⟨first, (Text.infix_of_mem_fields hfield).subset List.mem_cons_self, hfirst⟩

end

theorem isPackageName_asciiLower {chars : List Char} (hchars : ∀ c ∈ chars, FoldsToAscii c) :
    isPackageName (chars.map asciiLower) ↔ Text.IsDotted (IsSegmentOf isFoldedLetter) chars := by
  have hdots : ∀ c ∈ chars, asciiLower c = '.' ↔ c = '.' :=
    fun c hc => asciiLower_eq_iff (hchars c hc) (by decide)
  rw [isDotted_isSegmentOf_iff (by decide), isPackageName, Text.fields_map hdots, List.all_map,
    List.all_eq_true]
  exact forall₂_congr fun field hfield => isPackageSegment_asciiLower fun c hc =>
    hchars c ((Text.infix_of_mem_fields hfield).subset hc)

theorem packageName_eq_ok_iff_isPackageNameOf {name : String} :
    packageName name = .ok () ↔ IsPackageNameOf isFoldedLetter name.toList := by
  have hascii : ∀ chars, isPackageName chars → ∀ c ∈ chars, c.toNat < 0x80 := by
    intro chars h c hc
    have hchar := isPackageChar_of_isPackageName h hc
    refine toNat_lt_of_isProjectNameChar ?_
    simp only [isPackageChar, isProjectNameChar, Bool.or_eq_true, beq_iff_eq] at hchar ⊢
    tauto
  have hdot : isFoldedLetter '.' = false := by decide
  rw [packageName_eq_ok_iff, Text.lower, String.toList_ofList, Text.lowerList_iff hascii,
    ← String.length_toList]
  constructor
  · rintro ⟨-, ⟨hfolds, h⟩, hshort⟩
    have hsegments := (isPackageName_asciiLower hfolds).mp h
    obtain ⟨c, hc, -⟩ := exists_letter_of_isDotted hdot hsegments
    exact ⟨List.length_pos_of_mem hc, hshort, hsegments⟩
  · intro h
    have hfolds : ∀ c ∈ name.toList, FoldsToAscii c :=
      fun c hc => foldsToAscii_of_isNameCharOf (isNameCharOf_of_isDotted hdot h.segments hc)
    obtain ⟨c, hc, hletter⟩ := exists_letter_of_isDotted hdot h.segments
    exact ⟨isBlankText_eq_false_of_mem hc (.inl hletter),
      ⟨hfolds, (isPackageName_asciiLower hfolds).mpr h.segments⟩, h.short⟩

/-! ### Names without the sign -/

section

variable {isLetter other : Char → Bool} {name : List Char} (h : ∀ c ∈ name, isLetter c = other c)
include h

theorem IsProjectNameOf.of_eq (hname : IsProjectNameOf isLetter name) :
    IsProjectNameOf other name := by
  obtain ⟨hnonempty, hshort, hchars, hfirst, hlast⟩ := hname
  refine ⟨hnonempty, hshort, fun c hc => ?_, fun c hc => ?_, fun c hc => ?_⟩
  · rw [IsNameCharOf, ← h c hc]
    exact hchars c hc
  · rw [← h c (List.mem_of_mem_head? hc)]
    exact hfirst c hc
  · rw [← h c (List.mem_of_mem_getLast? hc)]
    exact hlast c hc

theorem IsPackageNameOf.of_eq (hdot : isLetter '.' = false) (hother : other '.' = false)
    (hname : IsPackageNameOf isLetter name) : IsPackageNameOf other name := by
  obtain ⟨hnonempty, hshort, hsegments⟩ := hname
  refine ⟨hnonempty, hshort, (isDotted_isSegmentOf_iff hother).mpr fun field hfield => ?_⟩
  have hchars : ∀ c ∈ field, isLetter c = other c :=
    fun c hc => h c ((Text.infix_of_mem_fields hfield).subset hc)
  obtain ⟨first, rest, rfl, hfirst, hrest⟩ := (isDotted_isSegmentOf_iff hdot).mp hsegments _ hfield
  rw [List.forall_mem_cons] at hchars
  refine ⟨first, rest, rfl, hchars.1 ▸ hfirst, fun c hc => ?_⟩
  rw [← hchars.2 c hc]
  exact hrest c hc

end

theorem not_isNameCharOf_kelvinSign : ¬IsNameCharOf Char.isAlpha kelvinSign := by
  unfold IsNameCharOf
  decide

theorem IsProjectNameOf.not_mem_kelvinSign {name : List Char}
    (h : IsProjectNameOf Char.isAlpha name) : kelvinSign ∉ name :=
  fun hmem => not_isNameCharOf_kelvinSign (h.chars _ hmem)

theorem IsPackageNameOf.not_mem_kelvinSign {name : List Char}
    (h : IsPackageNameOf Char.isAlpha name) : kelvinSign ∉ name :=
  fun hmem =>
    not_isNameCharOf_kelvinSign (isNameCharOf_of_isDotted (by decide) h.segments hmem)

theorem isFoldedLetter_of_ne {c : Char} (hc : c ≠ kelvinSign) : isFoldedLetter c = c.isAlpha := by
  rw [isFoldedLetter, beq_eq_false_iff_ne.mpr hc, Bool.or_false]

theorem isFoldedLetter_of_not_mem {name : List Char} (h : kelvinSign ∉ name) :
    ∀ c ∈ name, isFoldedLetter c = c.isAlpha := by
  intro c hc
  refine isFoldedLetter_of_ne ?_
  rintro rfl
  exact h hc

/-- A name that is checked is accepted exactly when it follows the grammar of names with the sign of
the unit Kelvin among the letters. The grammar itself is that of the accepted names without the
sign. -/
theorem names_pass_iff (name : String) :
    (projectName name = .ok () ↔ IsProjectNameOf isFoldedLetter name.toList) ∧
    (packageName name = .ok () ↔ IsPackageNameOf isFoldedLetter name.toList) ∧
    (IsProjectNameOf Char.isAlpha name.toList ↔
      projectName name = .ok () ∧ kelvinSign ∉ name.toList) ∧
    (IsPackageNameOf Char.isAlpha name.toList ↔
      packageName name = .ok () ∧ kelvinSign ∉ name.toList) := by
  refine ⟨projectName_eq_ok_iff_isProjectNameOf, packageName_eq_ok_iff_isPackageNameOf, ?_, ?_⟩
  · rw [projectName_eq_ok_iff_isProjectNameOf]
    constructor
    · intro h
      have hnone := h.not_mem_kelvinSign
      exact ⟨h.of_eq fun c hc => (isFoldedLetter_of_not_mem hnone c hc).symm, hnone⟩
    · rintro ⟨h, hnone⟩
      exact h.of_eq (isFoldedLetter_of_not_mem hnone)
  · rw [packageName_eq_ok_iff_isPackageNameOf]
    constructor
    · intro h
      have hnone := h.not_mem_kelvinSign
      exact ⟨h.of_eq (fun c hc => (isFoldedLetter_of_not_mem hnone c hc).symm) (by decide)
        (by decide), hnone⟩
    · rintro ⟨h, hnone⟩
      exact h.of_eq (isFoldedLetter_of_not_mem hnone) (by decide) (by decide)

/-- Names that the grammar does not have, and that are accepted. -/
theorem kelvin_names_pass :
    let project := String.ofList (kelvinSign :: "iosk".toList)
    let package := String.ofList ("com.".toList ++ kelvinSign :: "iosk".toList)
    (projectName project = .ok () ∧ ¬IsProjectNameOf Char.isAlpha project.toList) ∧
      packageName package = .ok () ∧ ¬IsPackageNameOf Char.isAlpha package.toList := by
  refine ⟨⟨?_, fun h => h.not_mem_kelvinSign (by simp)⟩, ?_,
    fun h => h.not_mem_kelvinSign (by simp)⟩
  · rw [projectName_eq_ok_iff, Text.isBlankText_eq]
    decide
  · rw [packageName_eq_ok_iff, Text.isBlankText_eq]
    decide

end SchemaScaffold.Validation

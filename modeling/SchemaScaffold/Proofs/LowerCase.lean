import SchemaScaffold.Proofs.PrintableNames

namespace SchemaScaffold.Text

/-! ### Characters -/

/-- Whether no code point is shifted into a range. Where the intervals meet, every second code point is
moved between those of a range with every second one. -/
def CaseShift.clears (shift : CaseShift) (range : StridedRange) : Bool :=
  let first := (shift.codes.first : Int) + shift.offset
  let last := (shift.codes.last : Int) + shift.offset
  last.toNat.blt range.first || range.last.blt first.toNat
    || ((shift.codes.first == shift.codes.last || shift.codes.stride == 2) && range.stride == 2
      && (first - range.first) % 2 != 0)

theorem CaseShift.not_contains_of_clears {shift : CaseShift} {range : StridedRange}
    (h : shift.clears range) {c d : Char} (hc : shift.codes.contains c)
    (hd : (d.toNat : Int) = c.toNat + shift.offset) : range.contains d = false := by
  obtain ⟨⟨first, last, stride⟩, offset⟩ := shift
  obtain ⟨first', last', stride'⟩ := range
  simp only [clears, StridedRange.contains, Bool.or_eq_true, Bool.and_eq_true, decide_eq_true_eq,
    beq_iff_eq, bne_iff_ne, Nat.blt_eq] at h hc hd
  rw [← Bool.not_eq_true]
  simp only [StridedRange.contains, Bool.and_eq_true, decide_eq_true_eq, beq_iff_eq]
  rintro ⟨⟨hfirst, hlast⟩, hstride⟩
  rcases h with (h | h) | ⟨⟨h | rfl, rfl⟩, hodd⟩ <;> omega

def CaseShift.settles (shift : CaseShift) : Bool :=
  let first := (shift.codes.first : Int) + shift.offset
  let image := Char.ofNat first.toNat
  (lowerShifts.all fun other => shift.clears other.codes)
    && (lowerExpansions.all fun entry => shift.clears ⟨entry.1, entry.1, 1⟩)
    && (0x80 ≤ first || (shift.codes.first == shift.codes.last && lowerChar image == [image]))

theorem settles_of_mem_lowerShifts : ∀ shift ∈ lowerShifts, shift.settles := by
  have hall : lowerShifts.all (·.settles) := by decide +kernel
  exact List.all_eq_true.mp hall

/-- A character beyond ASCII is its own lower case if no shift and no expansion takes it. -/
theorem lowerChar_eq_singleton {c : Char} (hascii : 0x80 ≤ c.toNat)
    (hexpansions : ∀ entry ∈ lowerExpansions, entry.1 ≠ c.toNat)
    (hshifts : ∀ shift ∈ lowerShifts, shift.codes.contains c = false) : lowerChar c = [c] := by
  have hlookup : lowerExpansions.lookup c.toNat = none := by
    rw [List.lookup_eq_none_iff]
    intro entry hentry
    exact bne_iff_ne.mpr (hexpansions entry hentry).symm
  have hfind : lowerShifts.find? (·.codes.contains c) = none :=
    List.find?_eq_none.mpr fun shift hshift => by simp [hshifts shift hshift]
  rw [lowerChar, if_neg (by omega), hlookup, shiftCase, hfind]

theorem lowerChar_shiftCase {c : Char} (hascii : ¬c.toNat < 0x80)
    (hlookup : lowerExpansions.lookup c.toNat = none) :
    lowerChar (shiftCase lowerShifts c) = [shiftCase lowerShifts c] := by
  cases hfind : lowerShifts.find? (·.codes.contains c) with
  | none =>
      have hself : shiftCase lowerShifts c = c := by rw [shiftCase, hfind]
      rw [hself, lowerChar, if_neg hascii, hlookup, hself]
  | some shift =>
      have hshift : shiftCase lowerShifts c = Char.ofNat ((c.toNat : Int) + shift.offset).toNat := by
        rw [shiftCase, hfind]
      rw [hshift]
      have hcontains : shift.codes.contains c :=
        List.find?_some (p := fun shift : CaseShift => shift.codes.contains c) hfind
      have hsettles := settles_of_mem_lowerShifts shift (List.mem_of_find?_eq_some hfind)
      have hrange : shift.codes.first ≤ c.toNat ∧ c.toNat ≤ shift.codes.last := by
        rw [StridedRange.contains, Bool.and_eq_true, Bool.and_eq_true] at hcontains
        exact ⟨of_decide_eq_true hcontains.1.1, of_decide_eq_true hcontains.1.2⟩
      simp only [CaseShift.settles, Bool.and_eq_true, Bool.or_eq_true, List.all_eq_true,
        decide_eq_true_eq, beq_iff_eq] at hsettles
      obtain ⟨⟨hothers, hexpansions⟩, hlarge | ⟨hsingle, hfixed⟩⟩ := hsettles
      · by_cases hvalid : ((c.toNat : Int) + shift.offset).toNat.isValidChar
        · have hcode := toNat_ofNat hvalid
          refine lowerChar_eq_singleton (by omega) ?_ ?_
          · intro entry hentry heq
            have hnot := CaseShift.not_contains_of_clears (hexpansions entry hentry) hcontains
              (d := Char.ofNat ((c.toNat : Int) + shift.offset).toNat) (by omega)
            simp [StridedRange.contains, heq] at hnot
          · exact fun other hother =>
              CaseShift.not_contains_of_clears (hothers other hother) hcontains (by omega)
        · rw [Char.ofNat, dif_neg hvalid]
          decide
      · have hfirst : c.toNat = shift.codes.first := by omega
        rwa [hfirst]

theorem lowerChar_of_mem_lowerChar {c d : Char} (hd : d ∈ lowerChar c) : lowerChar d = [d] := by
  unfold lowerChar at hd
  split at hd
  case isTrue hascii =>
    obtain rfl := List.mem_singleton.mp hd
    exact forall_ascii (p := fun c => lowerChar c.toLower = [c.toLower]) (by decide) hascii
  case isFalse hascii =>
    split at hd
    case h_1 codes hlookup =>
      obtain ⟨code, hcode, rfl⟩ := List.mem_map.mp hd
      obtain ⟨before, after, hsplit, -⟩ := List.lookup_eq_some_iff.mp hlookup
      have hentry : (c.toNat, codes) ∈ lowerExpansions := by simp [hsplit]
      have hfixed : ∀ entry ∈ lowerExpansions, ∀ code ∈ entry.2,
          lowerChar (Char.ofNat code) = [Char.ofNat code] := by decide
      exact hfixed _ hentry code hcode
    case h_2 hlookup =>
      obtain rfl := List.mem_singleton.mp hd
      exact lowerChar_shiftCase hascii hlookup

/-! ### Texts -/

theorem lowerChar_ne_nil (c : Char) : lowerChar c ≠ [] := by
  unfold lowerChar
  split
  · simp
  · split
    · rename_i codes hlookup
      have hexpansions : ∀ entry ∈ lowerExpansions, entry.2 ≠ [] := by decide
      obtain ⟨before, after, hsplit, -⟩ := List.lookup_eq_some_iff.mp hlookup
      have hentry : (c.toNat, codes) ∈ lowerExpansions := by simp [hsplit]
      simpa using hexpansions _ hentry
    · simp

/-- The lower case of a text is put together from those of its characters. -/
theorem exists_mem_of_mem_lowerFrom {before chars : List Char} {d : Char}
    (hd : d ∈ lowerFrom before chars) : d = finalSigma ∨ ∃ c ∈ chars, d ∈ lowerChar c := by
  induction chars generalizing before with
  | nil => simp [lowerFrom] at hd
  | cons c rest ih =>
      rw [lowerFrom] at hd
      have hrest : d ∈ lowerFrom (c :: before) rest →
          d = finalSigma ∨ ∃ e ∈ c :: rest, d ∈ lowerChar e := by
        intro hd
        rcases ih hd with hsigma | ⟨e, he, hd⟩
        · exact .inl hsigma
        · exact .inr ⟨e, List.mem_cons_of_mem c he, hd⟩
      split at hd
      case isTrue =>
        rcases List.mem_cons.mp hd with rfl | hd
        · exact .inl rfl
        · exact hrest hd
      case isFalse =>
        rcases List.mem_append.mp hd with hd | hd
        · exact .inr ⟨c, List.mem_cons_self, hd⟩
        · exact hrest hd

theorem lowerChar_of_mem_lowerList {chars : List Char} {d : Char} (hd : d ∈ lowerList chars) :
    lowerChar d = [d] := by
  rcases exists_mem_of_mem_lowerFrom hd with rfl | ⟨c, -, hd⟩
  · decide
  · exact lowerChar_of_mem_lowerChar hd

/-- Characters that are their own lower case stay in front of a text in lower case. -/
theorem lowerFrom_append {chars : List Char} (hchars : ∀ c ∈ chars, lowerChar c = [c])
    (before rest : List Char) :
    lowerFrom before (chars ++ rest) = chars ++ lowerFrom (chars.reverse ++ before) rest := by
  induction chars generalizing before with
  | nil => rfl
  | cons c others ih =>
      obtain ⟨hc, hothers⟩ := List.forall_mem_cons.mp hchars
      have hsigma : (c == capitalSigma) = false := by
        rw [beq_eq_false_iff_ne]
        rintro rfl
        exact absurd hc (by decide)
      simp only [List.cons_append, lowerFrom, hsigma, hc, ih hothers, Bool.false_and, Bool.false_eq_true,
        if_false, List.nil_append, List.reverse_cons, List.append_assoc]

/-- A text in lower case is lowered no further, whatever stands behind it. -/
theorem lowerList_lowerList_append (chars rest : List Char) :
    lowerList (lowerList chars ++ rest) =
      lowerList chars ++ lowerFrom (lowerList chars).reverse rest := by
  have hfixed : ∀ c ∈ lowerList chars, lowerChar c = [c] := fun _ => lowerChar_of_mem_lowerList
  have happend := lowerFrom_append hfixed [] rest
  rwa [List.append_nil] at happend

theorem lowerList_lowerList (chars : List Char) : lowerList (lowerList chars) = lowerList chars := by
  simpa [lowerFrom] using lowerList_lowerList_append chars []

/-! ### Blanks -/

def blankRanges : CodeRanges :=
  [(0x09, 0x0D), (0x20, 0x20), (0x85, 0x85), (0xA0, 0xA0), (0x1680, 0x1680), (0x2000, 0x200A),
    (0x2028, 0x2029), (0x202F, 0x202F), (0x205F, 0x205F), (0x3000, 0x3000)]

theorem isWithin_blankRanges (c : Char) : isWithin blankRanges c.toNat = isBlank c := by
  rw [Bool.eq_iff_iff]
  simp only [isWithin, blankRanges, isBlank, List.any_cons, List.any_nil, Bool.or_eq_true,
    Bool.and_eq_true, decide_eq_true_eq, beq_iff_eq, Bool.false_eq_true, or_false]
  omega

theorem not_isBlank_of_mem_lowerChar {c d : Char} (hc : isBlank c = false) (hd : d ∈ lowerChar c) :
    isBlank d = false := by
  rw [← isWithin_blankRanges] at hc ⊢
  unfold lowerChar at hd
  split at hd
  case isTrue hascii =>
    obtain rfl := List.mem_singleton.mp hd
    exact forall_ascii (p := fun c => isWithin blankRanges c.toNat = false →
      isWithin blankRanges c.toLower.toNat = false) (by decide +kernel) hascii hc
  case isFalse =>
    split at hd
    case h_1 codes hlookup => exact not_isWithin_expansions (by decide) hlookup hd
    case h_2 =>
      obtain rfl := List.mem_singleton.mp hd
      exact not_isWithin_shiftCase (by decide) (by decide +kernel) hc

theorem head?_lowerFrom {before chars : List Char} {d : Char}
    (hd : d ∈ (lowerFrom before chars).head?) :
    d = finalSigma ∨ ∃ c ∈ chars.head?, d ∈ lowerChar c := by
  cases chars with
  | nil => simp [lowerFrom] at hd
  | cons c rest =>
      rw [lowerFrom] at hd
      split at hd
      case isTrue => exact .inl (by simpa using hd.symm)
      case isFalse =>
        rw [List.head?_append_of_ne_nil _ (lowerChar_ne_nil c)] at hd
        exact .inr ⟨c, rfl, List.mem_of_mem_head? hd⟩

theorem lowerFrom_ne_nil {before chars : List Char} (h : chars ≠ []) :
    lowerFrom before chars ≠ [] := by
  obtain ⟨c, rest, rfl⟩ := List.exists_cons_of_ne_nil h
  rw [lowerFrom]
  split
  · exact List.cons_ne_nil _ _
  · exact List.append_ne_nil_of_left_ne_nil (lowerChar_ne_nil c) _

theorem getLast?_lowerFrom {before chars : List Char} {d : Char}
    (hd : d ∈ (lowerFrom before chars).getLast?) :
    d = finalSigma ∨ ∃ c ∈ chars.getLast?, d ∈ lowerChar c := by
  induction chars generalizing before with
  | nil => simp [lowerFrom] at hd
  | cons c rest ih =>
      cases rest with
      | nil =>
          rcases exists_mem_of_mem_lowerFrom (List.mem_of_mem_getLast? hd) with hsigma | hlast
          · exact .inl hsigma
          · exact .inr (by simpa using hlast)
      | cons e others =>
          have hne : lowerFrom (c :: before) (e :: others) ≠ [] := lowerFrom_ne_nil (by simp)
          rw [List.getLast?_cons_cons]
          rw [lowerFrom] at hd
          split at hd
          case isTrue =>
            rw [List.getLast?_cons_of_ne_nil hne] at hd
            exact ih hd
          case isFalse =>
            rw [List.getLast?_append_of_ne_nil _ hne] at hd
            exact ih hd

theorem trimList_lowerList {chars : List Char} (h : trimList chars = chars) :
    trimList (lowerList chars) = lowerList chars := by
  have hsigma : isBlank finalSigma = false := by decide
  rw [trimList_eq_self_iff] at h ⊢
  constructor
  · intro d hd
    rcases head?_lowerFrom hd with rfl | ⟨c, hc, hd⟩
    · exact hsigma
    · exact not_isBlank_of_mem_lowerChar (h.1 c hc) hd
  · intro d hd
    rcases getLast?_lowerFrom hd with rfl | ⟨c, hc, hd⟩
    · exact hsigma
    · exact not_isBlank_of_mem_lowerChar (h.2 c hc) hd

end SchemaScaffold.Text

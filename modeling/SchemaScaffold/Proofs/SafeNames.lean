import Mathlib.Data.List.Infix
import SchemaScaffold.Output.FileName
import SchemaScaffold.Proofs.Names
import SchemaScaffold.Proofs.PackageNames

namespace SchemaScaffold.FileName

/-- A name that leads from a directory to an entry of it, or at worst nowhere. -/
structure IsSafe (name : String) : Prop where
  slash : '/' ∉ name.toList
  empty : name ≠ ""
  up : name ≠ ".."

def IsLegal (c : Char) : Prop := c ∉ illegalChars ∧ Text.isControl c = false

theorem replaceIllegal_eq_self {c : Char} (h : IsLegal c) : replaceIllegal c = c := by
  simp [replaceIllegal, h.1, h.2]

theorem replaceIllegal_of_not_isLegal {c : Char} (h : ¬IsLegal c) : replaceIllegal c = '_' := by
  rw [replaceIllegal, if_pos]
  by_contra hlegal
  exact h (by simpa [IsLegal] using hlegal)

theorem isLegal_underscore : IsLegal '_' := ⟨by decide, by decide⟩

theorem isLegal_replaceIllegal (c : Char) : IsLegal (replaceIllegal c) := by
  by_cases h : IsLegal c
  · rwa [replaceIllegal_eq_self h]
  · rw [replaceIllegal_of_not_isLegal h]
    exact isLegal_underscore

theorem mem_collapseDots {c : Char} {chars : List Char} (h : c ∈ collapseDots chars) :
    c = '_' ∨ c ∈ chars := by
  induction chars using collapseDots.induct with
  | case1 rest ih =>
      rw [collapseDots, List.mem_cons] at h
      rcases h with rfl | h
      · exact .inl rfl
      · exact (ih h).imp_right fun hmem => List.mem_cons_of_mem _ (List.mem_cons_of_mem _ hmem)
  | case2 d rest hdots ih =>
      rw [collapseDots, List.mem_cons] at h
      · rcases h with rfl | h
        · exact .inr List.mem_cons_self
        · exact (ih h).imp_right (List.mem_cons_of_mem _)
      · exact hdots
  | case3 => cases h

theorem dot_prefix_of_collapseDots {chars : List Char} (h : ['.'] <+: collapseDots chars) :
    ['.'] <+: chars := by
  induction chars using collapseDots.induct with
  | case1 rest ih => simp [collapseDots] at h
  | case2 d rest hdots ih =>
      rw [collapseDots] at h
      · simpa using h
      · exact hdots
  | case3 => exact h

theorem not_dots_infix_collapseDots (chars : List Char) : ¬['.', '.'] <:+: collapseDots chars := by
  induction chars using collapseDots.induct with
  | case1 rest ih =>
      rw [collapseDots, List.infix_cons_iff]
      simpa using ih
  | case2 d rest hdots ih =>
      rw [collapseDots, List.infix_cons_iff]
      · rintro (hstarts | hinside)
        · rw [List.cons_prefix_cons] at hstarts
          obtain ⟨rfl, hrest⟩ := hstarts
          obtain ⟨more, rfl⟩ := dot_prefix_of_collapseDots hrest
          exact hdots more rfl rfl
        · exact ih hinside
      · exact hdots
  | case3 => simp [collapseDots]

theorem collapseDots_eq_self {chars : List Char} (h : ¬['.', '.'] <:+: chars) :
    collapseDots chars = chars := by
  induction chars using collapseDots.induct with
  | case1 rest ih => exact absurd (List.prefix_append ['.', '.'] rest).isInfix h
  | case2 d rest hdots ih =>
      rw [collapseDots, ih fun hinside => h (hinside.trans (List.suffix_cons d rest).isInfix)]
      exact hdots
  | case3 => rfl

theorem not_dots_infix_of_count {chars : List Char} (h : chars.count '.' ≤ 1) :
    ¬['.', '.'] <:+: chars := by
  intro hdots
  have htwo : ['.', '.'].count '.' ≤ chars.count '.' := hdots.sublist.count_le '.'
  rw [List.count_cons_self, List.count_cons_self] at htwo
  omega

/-- Legal characters without two dots in a row only lose the blanks around them. -/
theorem clean_eq_trimList {name : List Char} (hlegal : ∀ c ∈ name, IsLegal c)
    (hdots : ¬['.', '.'] <:+: name) : clean name = Text.trimList name := by
  have hmap : name.map replaceIllegal = name :=
    (List.map_congr_left fun c hc => replaceIllegal_eq_self (hlegal c hc)).trans (List.map_id _)
  rw [clean, hmap, collapseDots_eq_self hdots]

theorem infix_trimList (chars : List Char) : Text.trimList chars <:+: chars := by
  rw [Text.trimList_eq]
  exact (List.rdropWhile_prefix _ _).isInfix.trans (List.dropWhile_suffix _).isInfix

theorem isLegal_of_mem_clean {name : List Char} {c : Char} (hc : c ∈ clean name) : IsLegal c := by
  rcases mem_collapseDots ((Text.trimList_sublist _).subset hc) with rfl | hmem
  · exact isLegal_underscore
  · obtain ⟨d, -, rfl⟩ := List.mem_map.mp hmem
    exact isLegal_replaceIllegal d

theorem slash_not_mem_clean (name : List Char) : '/' ∉ clean name := by
  intro h
  exact (isLegal_of_mem_clean h).1 (by decide)

theorem not_dots_infix_clean (name : List Char) : ¬['.', '.'] <:+: clean name :=
  fun h => not_dots_infix_collapseDots _ (h.trans (infix_trimList _))

theorem slash_not_mem_avoidDevice {name : List Char} (h : '/' ∉ name) : '/' ∉ avoidDevice name := by
  unfold avoidDevice
  split <;> simp [h]

theorem not_dots_infix_avoidDevice {name : List Char} (h : ¬['.', '.'] <:+: name) :
    ¬['.', '.'] <:+: avoidDevice name := by
  unfold avoidDevice
  split
  · simpa [List.infix_cons_iff] using h
  · exact h

theorem avoidDevice_ne_nil {name : List Char} (h : name ≠ []) : avoidDevice name ≠ [] := by
  unfold avoidDevice
  split <;> simp [h]

theorem sanitize_eq_ok_iff {name safe : String} :
    sanitize name = .ok safe ↔ clean name.toList ≠ [] ∧
      safe = String.ofList ((avoidDevice (clean name.toList)).take Limits.maxFileNameLength) := by
  have hempty : name = "" → clean name.toList = [] := by
    rintro rfl
    rfl
  simp only [sanitize, Traversal.bind_eq_ok_iff, Validation.require_eq_ok_iff, pure, Except.pure,
    Except.ok.injEq, Bool.not_eq_true', String.isEmpty_eq_false_iff, List.isEmpty_eq_false_iff]
  constructor
  · rintro ⟨-, -, -, hclean, rfl⟩
    exact ⟨hclean, rfl⟩
  · rintro ⟨hclean, rfl⟩
    exact ⟨(), fun h => hclean (hempty h), (), hclean, rfl⟩

theorem isSafe_of_sanitize {name safe : String} (h : sanitize name = .ok safe) : IsSafe safe := by
  obtain ⟨hclean, rfl⟩ := sanitize_eq_ok_iff.mp h
  have htake := List.take_prefix Limits.maxFileNameLength (avoidDevice (clean name.toList))
  refine ⟨?_, ?_, ?_⟩
  · rw [String.toList_ofList]
    exact fun hslash =>
      slash_not_mem_avoidDevice (slash_not_mem_clean _) (htake.subset hslash)
  · rw [ne_eq, ← String.toList_eq_nil_iff, String.toList_ofList, List.take_eq_nil_iff]
    simp [avoidDevice_ne_nil hclean, Limits.maxFileNameLength]
  · intro hup
    have hchars := congrArg String.toList hup
    rw [String.toList_ofList] at hchars
    refine not_dots_infix_avoidDevice (not_dots_infix_clean name.toList) ?_
    rw [show ['.', '.'] = "..".toList by decide, ← hchars]
    exact htake.isInfix

end SchemaScaffold.FileName

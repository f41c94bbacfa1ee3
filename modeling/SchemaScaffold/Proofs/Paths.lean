import Mathlib.Data.List.Basic
import SchemaScaffold.Path

namespace SchemaScaffold

namespace Text

theorem fields_ne_nil (separator : Char) (chars : List Char) : fields separator chars ≠ [] := by
  induction chars with
  | nil => simp [fields]
  | cons c rest ih =>
      unfold fields
      split
      · simp
      · split <;> simp

theorem fields_of_not_mem {separator : Char} {chars : List Char} (h : separator ∉ chars) :
    fields separator chars = [chars] := by
  induction chars with
  | nil => rfl
  | cons c rest ih =>
      rw [List.mem_cons, not_or] at h
      have hc : (c == separator) = false := beq_eq_false_iff_ne.mpr (Ne.symm h.1)
      simp [fields, hc, ih h.2]

theorem fields_append (separator : Char) (before after : List Char) :
    fields separator (before ++ separator :: after) =
      fields separator before ++ fields separator after := by
  induction before with
  | nil => simp [fields]
  | cons c rest ih =>
      simp only [List.cons_append, fields, ih]
      cases c == separator with
      | true => rfl
      | false =>
          cases hrest : fields separator rest with
          | nil => exact absurd hrest (fields_ne_nil separator rest)
          | cons field others => rfl

theorem exists_fields_append {separator : Char} {before : List Char} (h : separator ∉ before)
    (after : List Char) : ∃ first others, fields separator after = first :: others ∧
      fields separator (before ++ after) = (before ++ first) :: others := by
  induction before with
  | nil =>
      cases hafter : fields separator after with
      | nil => exact absurd hafter (fields_ne_nil separator after)
      | cons first others => exact ⟨first, others, rfl, hafter⟩
  | cons c rest ih =>
      rw [List.mem_cons, not_or] at h
      obtain ⟨first, others, hafter, hrest⟩ := ih h.2
      have hc : (c == separator) = false := beq_eq_false_iff_ne.mpr (Ne.symm h.1)
      exact ⟨first, others, hafter, by simp [fields, hc, hrest]⟩

theorem not_mem_of_mem_fields {separator : Char} {chars field : List Char}
    (h : field ∈ fields separator chars) : separator ∉ field := by
  induction chars generalizing field with
  | nil =>
      obtain rfl := List.mem_singleton.mp h
      simp
  | cons c rest ih =>
      unfold fields at h
      cases hc : c == separator with
      | true =>
          rw [hc] at h
          rcases List.mem_cons.mp h with rfl | h
          · simp
          · exact ih h
      | false =>
          have hne : separator ≠ c := (beq_eq_false_iff_ne.mp hc).symm
          rw [hc] at h
          cases hrest : fields separator rest with
          | nil => exact absurd hrest (fields_ne_nil separator rest)
          | cons first others =>
              rw [hrest] at h ih
              rcases List.mem_cons.mp h with rfl | h
              · simp [hne, ih]
              · exact ih (List.mem_cons_of_mem _ h)

/-- The fields with the separators between them are the text again. -/
theorem intercalate_fields (separator : Char) (chars : List Char) :
    [separator].intercalate (fields separator chars) = chars := by
  induction chars with
  | nil => rfl
  | cons c rest ih =>
      unfold fields
      cases hrest : fields separator rest with
      | nil => exact absurd hrest (fields_ne_nil separator rest)
      | cons first others =>
          rw [hrest] at ih
          cases hc : c == separator with
          | true =>
              obtain rfl := beq_iff_eq.mp hc
              simp [List.intercalate_cons_cons, ih]
          | false => cases others <;> simp_all [List.intercalate_cons_cons]

theorem mem_fields (separator : Char) {c : Char} {chars : List Char} (hc : c ∈ chars) :
    c = separator ∨ ∃ field ∈ fields separator chars, c ∈ field := by
  induction chars with
  | nil => cases hc
  | cons d rest ih =>
      unfold fields
      cases hd : d == separator with
      | true =>
          rcases List.mem_cons.mp hc with rfl | hc
          · exact .inl (beq_iff_eq.mp hd)
          · rcases ih hc with rfl | ⟨field, hfield, hc⟩
            · exact .inl rfl
            · exact .inr ⟨field, List.mem_cons_of_mem _ hfield, hc⟩
      | false =>
          cases hrest : fields separator rest with
          | nil => exact absurd hrest (fields_ne_nil separator rest)
          | cons first others =>
              rw [hrest] at ih
              rcases List.mem_cons.mp hc with rfl | hc
              · exact .inr ⟨c :: first, by simp, by simp⟩
              · rcases ih hc with rfl | ⟨field, hfield, hc⟩
                · exact .inl rfl
                · rcases List.mem_cons.mp hfield with rfl | hfield
                  · exact .inr ⟨d :: field, by simp, by simp [hc]⟩
                  · exact .inr ⟨field, by simp [hfield], hc⟩

end Text

namespace Path

theorem names_slash (before after : String) :
    (Path.mk (before ++ "/" ++ after)).names = (Path.mk before).names ++ (Path.mk after).names := by
  have htext : (before ++ "/" ++ after).toList = before.toList ++ '/' :: after.toList := by simp
  simp [names, Text.fieldsOf, htext, Text.fields_append]

theorem isAbsolute_append {before after : String} (h : before ≠ "") :
    (Path.mk (before ++ after)).isAbsolute = (Path.mk before).isAbsolute := by
  cases hchars : before.toList with
  | nil => exact absurd (String.toList_eq_nil_iff.mp hchars) h
  | cons c rest => simp [isAbsolute, hchars]

theorem exists_eq_append_slash {s : String} (h : endsInSlash s) : ∃ t, s = t ++ "/" := by
  unfold endsInSlash at h
  split at h
  case h_1 c hlast =>
    obtain ⟨chars, hchars⟩ := List.getLast?_eq_some_iff.mp hlast
    obtain rfl := beq_iff_eq.mp h
    exact ⟨String.ofList chars, String.toList_inj.mp (by simp [hchars])⟩
  case h_2 => cases h

variable {directory path : Path}

theorem names_join (h : path.isAbsolute = false) :
    (directory.join path).names = directory.names ++ path.names := by
  unfold join
  by_cases hempty : directory.isEmpty
  · have htext : directory.text = "" := String.isEmpty_iff.mp hempty
    have hnames : directory.names = [] := by
      simp [names, htext, Text.fieldsOf, Text.fields]
    simp [hempty, hnames]
  · rw [if_neg (by simp [h, hempty])]
    split
    case isTrue hslash =>
      obtain ⟨t, ht⟩ := exists_eq_append_slash hslash
      have hdirectory : directory.names = (Path.mk t).names := by
        have hnames := names_slash t ""
        rw [String.append_empty, ← ht] at hnames
        simpa [names, Text.fieldsOf, Text.fields] using hnames
      rw [ht, names_slash, hdirectory]
    case isFalse => exact names_slash _ _

theorem isAbsolute_join (h : path.isAbsolute = false) :
    (directory.join path).isAbsolute = directory.isAbsolute := by
  unfold join
  by_cases hempty : directory.isEmpty
  · have htext : directory.text = "" := String.isEmpty_iff.mp hempty
    rw [if_pos (by simp [hempty]), h]
    simp [isAbsolute, htext]
  · have htext : directory.text ≠ "" := fun htext => hempty (String.isEmpty_iff.mpr htext)
    rw [if_neg (by simp [h, hempty])]
    split
    · exact isAbsolute_append htext
    · rw [String.append_assoc]
      exact isAbsolute_append htext

theorem components_congr {other : Path} (habsolute : path.isAbsolute = other.isAbsolute)
    (hnames : path.names = other.names) : path.components = other.components := by
  simp only [components, habsolute, hnames]

theorem components_join (habsolute : path.isAbsolute = false) (hdot : "." ∉ path.names) :
    (directory.join path).components =
      (directory.components.1, directory.components.2 ++ path.names) := by
  have hfilter : path.names.filter (· != ".") = path.names := by
    rw [List.filter_eq_self]
    intro name hname
    simpa using fun heq : name = "." => hdot (heq ▸ hname)
  simp only [components, names_join habsolute, isAbsolute_join habsolute]
  cases hnames : directory.names with
  | nil =>
      cases hpath : path.names with
      | nil => rfl
      | cons first rest =>
          rw [hpath] at hfilter hdot
          have hfirst : (first == ".") = false :=
            beq_eq_false_iff_ne.mpr fun heq => hdot (heq ▸ List.mem_cons_self)
          simp [hfirst, hfilter]
  | cons first rest =>
      simp only [List.cons_append]
      split
      · rw [List.filter_append, hfilter, List.cons_append]
      · rw [← List.cons_append, List.filter_append, hfilter]

/-- A path below a path that is below a directory is one path below the directory. -/
theorem components_join_slash {before after : String}
    (hbefore : before ≠ "") (hafter : (Path.mk after).isAbsolute = false) :
    (directory.join ⟨before ++ "/" ++ after⟩).components =
      ((directory.join ⟨before⟩).join ⟨after⟩).components := by
  have habsolute : (Path.mk (before ++ "/" ++ after)).isAbsolute = (Path.mk before).isAbsolute := by
    rw [String.append_assoc]
    exact isAbsolute_append hbefore
  cases hrelative : (Path.mk before).isAbsolute with
  | true =>
      have hjoin : directory.join ⟨before⟩ = ⟨before⟩ := by simp [join, hrelative]
      have hjoin' : directory.join ⟨before ++ "/" ++ after⟩ = ⟨before ++ "/" ++ after⟩ := by
        simp [join, habsolute, hrelative]
      rw [hjoin, hjoin']
      refine components_congr ?_ ?_
      · rw [isAbsolute_join hafter, habsolute]
      · rw [names_join hafter, names_slash]
  | false =>
      refine components_congr ?_ ?_
      · rw [isAbsolute_join hafter, isAbsolute_join (habsolute.trans hrelative),
          isAbsolute_join hrelative]
      · rw [names_join hafter, names_join (habsolute.trans hrelative), names_join hrelative,
          names_slash, List.append_assoc]

end Path

end SchemaScaffold

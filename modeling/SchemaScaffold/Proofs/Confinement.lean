import SchemaScaffold.Output.Placement
import SchemaScaffold.Proofs.SafeNames

namespace SchemaScaffold

namespace Text

theorem infix_of_mem_fields {separator : Char} {chars field : List Char}
    (h : field ∈ fields separator chars) : field <:+: chars := by
  rw [← intercalate_fields separator chars]
  generalize fields separator chars = all at h ⊢
  induction all with
  | nil => cases h
  | cons first others ih =>
      cases others with
      | nil =>
          obtain rfl := List.mem_singleton.mp h
          rw [List.intercalate_singleton]
      | cons second more =>
          rw [List.intercalate_cons_cons, List.append_assoc]
          rcases List.mem_cons.mp h with rfl | h
          · exact (List.prefix_append _ _).isInfix
          · exact (ih h).trans ((List.suffix_append _ _).trans (List.suffix_append _ _)).isInfix

end Text

namespace Path

theorem exists_field_of_mem_names {path : Path} {name : String} (h : name ∈ path.names) :
    ∃ field ∈ Text.fields '/' path.text.toList, name = String.ofList field := by
  obtain ⟨field, hfield, rfl⟩ := List.mem_map.mp (List.mem_filter.mp h).1
  exact ⟨field, hfield, rfl⟩

/-- A path that goes down from where it starts, and not just after staying there. -/
structure Descends (path : Path) : Prop where
  relative : path.isAbsolute = false
  up : ".." ∉ path.names
  first : ∃ first rest, path.names = first :: rest ∧ first ≠ "."

theorem Descends.components_eq {path : Path} (h : path.Descends) :
    path.components = (false, path.names.filter (· != ".")) := by
  obtain ⟨first, rest, hnames, hfirst⟩ := h.first
  have hdot : (first == ".") = false := beq_eq_false_iff_ne.mpr hfirst
  simp [components, h.relative, hnames, hdot]

theorem Descends.exists_component {path : Path} (h : path.Descends) :
    ∃ first rest, path.components.2 = first :: rest := by
  obtain ⟨first, rest, hnames, hfirst⟩ := h.first
  exact ⟨first, rest.filter (· != "."), by simp [h.components_eq, hnames, hfirst]⟩

end Path

namespace AbsPath

theorem names_foldl_step {names : List String} (hup : ".." ∉ names) (base : AbsPath) :
    (names.foldl step base).names = base.names ++ names.filter (· != ".") := by
  induction names generalizing base with
  | nil => simp
  | cons name rest ih =>
      rw [List.mem_cons, not_or] at hup
      rw [List.foldl_cons, ih hup.2, step]
      by_cases hdot : name = "."
      · simp [hdot]
      · simp [hdot, Ne.symm hup.1, child]

/-- Going down leads to the names of the path below where it starts. -/
theorem names_follow {path : Path} (h : path.Descends) (base : AbsPath) :
    (base.follow path).names = base.names ++ path.components.2 := by
  rw [follow, h.relative, h.components_eq]
  exact names_foldl_step h.up base

/-- Going on from where a path leads is going along the joined path. -/
theorem follow_join (base : AbsPath) (directory path : Path) :
    base.follow (directory.join path) = (base.follow directory).follow path := by
  cases hrelative : path.isAbsolute with
  | true => simp [follow, Path.join, hrelative]
  | false =>
      simp only [follow, Path.names_join hrelative, Path.isAbsolute_join hrelative, hrelative,
        List.foldl_append, Bool.false_eq_true, if_false]

theorem within_iff {path directory : AbsPath} :
    path.within directory ↔ directory.names <+: path.names := by
  rw [within, List.isPrefixOf_iff_prefix]

theorem within_follow {path : Path} (h : path.Descends) (base : AbsPath) :
    (base.follow path).within base := by
  rw [within_iff, names_follow h]
  exact List.prefix_append _ _

end AbsPath

namespace Layout

theorem location_cases (name : String) :
    location name = .package "entity" ∨
      ∃ rule ∈ rules, rule.1.covers name ∧ location name = rule.2 := by
  unfold location
  cases hfind : rules.find? (·.1.covers name) with
  | none => exact .inl rfl
  | some rule =>
      exact .inr ⟨rule, List.mem_of_find?_eq_some hfind,
        by simpa using List.find?_some hfind, rfl⟩

/-- What is common to all places below the directory of a project. -/
inductive IsPlace (name : String) : Location → Prop where
  | top (hname : name ≠ ".") : IsPlace name .top
  | directory {path : String} (hpath : (Path.mk path).Descends) : IsPlace name (.directory path)
  | package {path : String} (hrelative : (Path.mk path).isAbsolute = false)
      (hup : ".." ∉ (Path.mk path).names) : IsPlace name (.package path)

theorem isPlace_of_mem_rules {rule : Pattern × Location} (hrule : rule ∈ rules) {name : String}
    (hcovers : rule.1.covers name) : IsPlace name rule.2 := by
  simp only [rules, List.mem_cons, List.not_mem_nil, or_false] at hrule
  rcases hrule with rfl | rfl | rfl | rfl | rfl | rfl | rfl | rfl | rfl | rfl | rfl | rfl | rfl
  case inl | inr.inl =>
    obtain rfl := beq_iff_eq.mp hcovers
    exact .top (by decide)
  case inr.inr.inl | inr.inr.inr.inr.inr.inr.inl =>
    apply IsPlace.directory
    exact ⟨by decide, by decide, "src", _, rfl, by decide⟩
  all_goals apply IsPlace.package <;> decide

theorem isPlace_location (name : String) : IsPlace name (location name) := by
  rcases location_cases name with hentity | ⟨rule, hrule, hcovers, hlocation⟩
  · rw [hentity]
    exact .package (by decide) (by decide)
  · rw [hlocation]
    exact isPlace_of_mem_rules hrule hcovers

/-! ### Directories of packages -/

/-- A dot separates the segments of a package, so that none of its directories is made of dots. -/
theorem up_not_mem_names_packageDirectory (packageName : String) :
    ".." ∉ (Path.mk (Naming.packageDirectory packageName)).names := by
  intro h
  obtain ⟨field, hfield, hup⟩ := Path.exists_field_of_mem_names h
  have hdot : '.' ∈ field := by
    have hchars : "..".toList = field := by rw [hup, String.toList_ofList]
    rw [← hchars]
    decide
  have hmem := (Text.infix_of_mem_fields hfield).subset hdot
  rw [Naming.packageDirectory, String.toList_ofList] at hmem
  obtain ⟨c, -, hc⟩ := List.mem_map.mp hmem
  split at hc
  · exact absurd hc (by decide)
  · rename_i hne
    simp [hc] at hne

/-- The check of a package name refuses one that begins with an empty segment or with a slash. -/
theorem isAbsolute_packageDirectory {packageName : String}
    (hpackage : Validation.packageName packageName = .ok ()) :
    (Path.mk (Naming.packageDirectory packageName)).isAbsolute = false := by
  have hform := (Validation.packageName_eq_ok_iff.mp hpackage).2.1
  have hchars := toList_packageDirectory
    fun c => Validation.not_isBlank_of_packageName hpackage (c := c)
  rw [Path.isAbsolute, hchars]
  cases hname : packageName.toList with
  | nil => rfl
  | cons c rest =>
      rw [Text.lower, String.toList_ofList, Text.lowerList, hname] at hform
      have hrefused : ∀ d : Char, (d = '.' ∨ d = '/') → c ≠ d := by
        rintro d hd rfl
        rcases hd with rfl | rfl
        · have hlower : Text.lowerFrom [] ('.' :: rest) = '.' :: Text.lowerFrom ['.'] rest := rfl
          rw [hlower] at hform
          simp [Validation.isPackageName, Text.fields, Validation.isPackageSegment] at hform
        · have hlower : Text.lowerFrom [] ('/' :: rest) = '/' :: Text.lowerFrom ['/'] rest := rfl
          rw [hlower] at hform
          cases hfields : Text.fields '.' (Text.lowerFrom ['/'] rest) <;>
            simp [Validation.isPackageName, Text.fields, Validation.isPackageSegment,
              hfields] at hform
      simp [hrefused '.' (.inl rfl), hrefused '/' (.inr rfl)]

theorem descends_sourceDirectory {packageName : String}
    (hpackage : Validation.packageName packageName = .ok ()) :
    (directory packageName (.package "")).Descends := by
  have hrelative := isAbsolute_packageDirectory hpackage
  have hnames := @Path.names_join ⟨sourceRoot⟩ _ hrelative
  have hroot : (Path.mk sourceRoot).names = ["src", "main", "java"] := by decide
  rw [directory_base]
  refine ⟨?_, ?_, "src", _, by rw [hnames, hroot]; rfl, by decide⟩
  · rw [Path.isAbsolute_join hrelative]
    decide
  · rw [hnames, hroot]
    simp [up_not_mem_names_packageDirectory]

end Layout

namespace Path

theorem Descends.join {directory path : Path} (h : directory.Descends)
    (hrelative : path.isAbsolute = false) (hup : ".." ∉ path.names) :
    (directory.join path).Descends := by
  obtain ⟨first, rest, hfirst, hdot⟩ := h.first
  refine ⟨(isAbsolute_join hrelative).trans h.relative, ?_, first, rest ++ path.names, ?_, hdot⟩
  · rw [names_join hrelative, List.mem_append, not_or]
    exact ⟨h.up, hup⟩
  · rw [names_join hrelative, hfirst, List.cons_append]

end Path

namespace Layout

open FileName (IsSafe)

/-- A file with a safe name stands below the directory of its project. -/
theorem descends_resolve {packageName name : String}
    (hpackage : Validation.packageName packageName = .ok ()) (hname : IsSafe name) :
    (resolve name packageName).Descends := by
  have hnames := names_mk hname.empty hname.slash
  have hrelative := isAbsolute_mk hname.slash
  have hup : ".." ∉ (Path.mk name).names := by simpa [hnames] using hname.up.symm
  unfold resolve
  cases hlocation : location name with
  | top =>
      have hplace := isPlace_location name
      rw [hlocation] at hplace
      cases hplace with
      | top hdot =>
          rw [directory, Path.join, if_pos (by simp [Path.isEmpty])]
          exact ⟨hrelative, hup, name, [], hnames, hdot⟩
  | directory path =>
      have hplace := isPlace_location name
      rw [hlocation] at hplace
      cases hplace with
      | directory hpath => exact hpath.join hrelative hup
  | package path =>
      have hplace := isPlace_location name
      rw [hlocation] at hplace
      have hsource := descends_sourceDirectory hpackage
      cases hplace with
      | package hpath hpathUp =>
          by_cases hempty : path = ""
          · rw [hempty]
            exact hsource.join hrelative hup
          · rw [directory_package packageName hempty]
            exact (hsource.join hpath hpathUp).join hrelative hup

end Layout

end SchemaScaffold

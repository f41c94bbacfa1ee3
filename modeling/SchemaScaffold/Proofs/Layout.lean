import SchemaScaffold.Output.Layout
import SchemaScaffold.Proofs.Names
import SchemaScaffold.Proofs.Paths
import SchemaScaffold.Role

namespace SchemaScaffold.Layout

/-- Where the files of a role belong. -/
def home (stack : Stack) : Role → Location
  | .buildFile => .top
  | .appConfig => .directory resourceRoot
  | .resultWrapper | .resultCodeEnum => .package "common/api"
  | .applicationEntryPoint => .package ""
  | .apiDocConfig => .package "config"
  | .entity => .package "entity"
  | .dataAccess =>
    match stack.orm with
    | .jpa => .package "repository"
    | .mybatis | .mybatisPlus => .package "mapper"
  | .dataAccessMarkup => .directory (resourceRoot ++ "/mapper")
  | .serviceInterface => .package "service"
  | .serviceImpl => .package "service/impl"
  | .controller => .package "controller"

def IsEntry (directory : Path) (name : String) (path : Path) : Prop :=
  path.components = (directory.components.1, directory.components.2 ++ [name])

instance (directory : Path) (name : String) (path : Path) :
    Decidable (IsEntry directory name path) := inferInstanceAs (Decidable (_ = _))

def foreignEndings : List String :=
  ["ServiceImpl", "Repository", "Mapper", "Controller", "Service", "Application"]

/-- A class name that makes the layout take an entity for a file of another role. -/
def IsForeign (className : String) : Prop :=
  className = "OpenApiConfig" ∨ ∃ ending ∈ foreignEndings, ending.toList <:+ className.toList

instance (className : String) : Decidable (IsForeign className) :=
  inferInstanceAs (Decidable (_ ∨ _))

/-! ### Names of roles other than entities -/

def Pattern.misses (ending : String) : Pattern → Bool
  | exact name => !ending.toList.isSuffixOf name.toList
  | .ending suffix =>
    !suffix.toList.isSuffixOf ending.toList && !ending.toList.isSuffixOf suffix.toList

theorem covers_of_misses {pattern : Pattern} {ending : String} (h : pattern.misses ending)
    (before : String) : pattern.covers (before ++ ending) = false := by
  cases pattern with
  | exact name =>
      simp only [Pattern.misses, Bool.not_eq_true', ← Bool.not_eq_true,
        List.isSuffixOf_iff_suffix] at h
      rw [Pattern.covers, beq_eq_false_iff_ne]
      rintro rfl
      exact h (by simp)
  | ending suffix =>
      simp only [Pattern.misses, Bool.and_eq_true, Bool.not_eq_true', ← Bool.not_eq_true,
        List.isSuffixOf_iff_suffix] at h
      rw [Pattern.covers, ← Bool.not_eq_true, List.isSuffixOf_iff_suffix]
      intro hsuffix
      have hending : ending.toList <:+ (before ++ ending).toList := by simp
      rcases List.suffix_or_suffix_of_suffix hsuffix hending with hshort | hlong
      · exact h.1 hshort
      · exact h.2 hlong

/-- The first rule that an ending does not rule out decides, if it covers the ending. -/
theorem location_append {ending : String} {place : Location} (suffix : String)
    (hfind : rules.find? (fun rule => !rule.1.misses ending) = some (.ending suffix, place))
    (hsuffix : suffix.toList <:+ ending.toList) (before : String) :
    location (before ++ ending) = place := by
  obtain ⟨-, passed, others, hsplit, hpassed⟩ := List.find?_eq_some_iff_append.mp hfind
  have hcovers : (Pattern.ending suffix).covers (before ++ ending) := by
    rw [Pattern.covers, List.isSuffixOf_iff_suffix, String.toList_append]
    exact hsuffix.trans (List.suffix_append _ _)
  have hrule : rules.find? (·.1.covers (before ++ ending)) = some (.ending suffix, place) := by
    refine List.find?_eq_some_iff_append.mpr ⟨hcovers, passed, others, hsplit, fun rule hrule => ?_⟩
    have hmisses : rule.1.misses ending := by simpa using hpassed rule hrule
    simp [covers_of_misses hmisses before]
  rw [location, hrule]

theorem location_fileName {role : Role} (hrole : role ≠ .entity) (className appName : String)
    (stack : Stack) : location (role.fileName className appName stack) = home stack role := by
  cases role with
  | buildFile => cases htool : stack.buildTool <;> simp only [Role.fileName, htool] <;> rfl
  | appConfig | resultWrapper | resultCodeEnum | apiDocConfig => rfl
  | entity => exact absurd rfl hrole
  | dataAccess =>
      cases horm : stack.orm <;> simp only [Role.fileName, home, horm]
      · exact location_append "Mapper.java" rfl (by decide) className
      · exact location_append "Mapper.java" rfl (by decide) className
      · exact location_append "Repository.java" rfl (by decide) className
  | applicationEntryPoint =>
      exact location_append "Application.java" rfl (by decide) appName
  | dataAccessMarkup => exact location_append "Mapper.xml" rfl (by decide) className
  | serviceInterface =>
      exact location_append "Service.java" rfl (by decide) ("I" ++ className)
  | serviceImpl => exact location_append "ServiceImpl.java" rfl (by decide) className
  | controller => exact location_append "Controller.java" rfl (by decide) className

/-! ### Names of entities -/

/-- The rules that decide on names of Java files, as rules about the names of their classes. -/
def classRules : List (Pattern × Location) := [
  (.exact "Result", .package "common/api"),
  (.exact "ResultCode", .package "common/api"),
  (.exact "OpenApiConfig", .package "config"),
  (.ending "ServiceImpl", .package "service/impl"),
  (.ending "Repository", .package "repository"),
  (.ending "Mapper", .package "mapper"),
  (.ending "Controller", .package "controller"),
  (.ending "Service", .package "service"),
  (.ending "Application", .package "")]

def Pattern.java : Pattern → Pattern
  | exact name => exact (name ++ ".java")
  | ending suffix => ending (suffix ++ ".java")

theorem covers_java (pattern : Pattern) (className : String) :
    pattern.java.covers (className ++ ".java") = pattern.covers className := by
  cases pattern with
  | exact name =>
      rw [Bool.eq_iff_iff, Pattern.java, Pattern.covers, Pattern.covers, beq_iff_eq, beq_iff_eq]
      exact String.append_left_inj _
  | ending suffix =>
      rw [Bool.eq_iff_iff, Pattern.java, Pattern.covers, Pattern.covers,
        List.isSuffixOf_iff_suffix, List.isSuffixOf_iff_suffix, String.toList_append,
        String.toList_append, List.suffix_append_self_iff]

theorem location_java (className : String) :
    location (className ++ ".java") =
      match classRules.find? (·.1.covers className) with
      | some rule => rule.2
      | none => .package "entity" := by
  have hrules : rules.filter (fun rule => !rule.1.misses ".java") =
      classRules.map fun rule => (rule.1.java, rule.2) := by rfl
  have hfind : rules.find? (·.1.covers (className ++ ".java")) =
      (rules.filter fun rule => !rule.1.misses ".java").find?
        (·.1.covers (className ++ ".java")) := by
    rw [List.find?_filter]
    refine congrArg (List.find? · rules) (funext fun rule => ?_)
    cases hmisses : rule.1.misses ".java" with
    | true => simp [covers_of_misses hmisses className]
    | false => simp
  rw [location, hfind, hrules, List.find?_map]
  simp only [Function.comp_def, covers_java]
  cases classRules.find? (·.1.covers className) <;> rfl

theorem exists_package_of_mem_classRules {rule : Pattern × Location} (h : rule ∈ classRules) :
    ∃ path, rule.2 = .package path ∧ (Path.mk path).names ≠ ["entity"] ∧
      (Path.mk path).isAbsolute = false ∧ "." ∉ (Path.mk path).names := by
  simp only [classRules, List.mem_cons, List.not_mem_nil, or_false] at h
  rcases h with rfl | rfl | rfl | rfl | rfl | rfl | rfl | rfl | rfl <;>
    exact ⟨_, rfl, by decide, by decide, by decide⟩

theorem find?_classRules_eq_none_iff {className : String} (hresult : className ≠ "Result")
    (hcode : className ≠ "ResultCode") :
    classRules.find? (·.1.covers className) = none ↔ ¬IsForeign className := by
  rw [List.find?_eq_none, IsForeign]
  simp [classRules, foreignEndings, Pattern.covers, hresult, hcode, ← List.isSuffixOf_iff_suffix]

/-! ### Directories -/

theorem names_mk {name : String} (hempty : name ≠ "") (hslash : '/' ∉ name.toList) :
    (Path.mk name).names = [name] := by
  simp [Path.names, Text.fieldsOf, Text.fields_of_not_mem hslash, hempty]

theorem isAbsolute_mk {name : String} (hslash : '/' ∉ name.toList) :
    (Path.mk name).isAbsolute = false := by
  unfold Path.isAbsolute
  split
  case h_1 c rest hchars =>
    rw [hchars, List.mem_cons, not_or] at hslash
    exact beq_eq_false_iff_ne.mpr (Ne.symm hslash.1)
  case h_2 => rfl

structure IsFileName (name : String) : Prop where
  slash : '/' ∉ name.toList
  empty : name ≠ ""
  dot : name ≠ "."

theorem IsFileName.components_join {name : String} (hname : IsFileName name) (directory : Path) :
    (directory.join ⟨name⟩).components =
      (directory.components.1, directory.components.2 ++ [name]) := by
  have hnames := names_mk hname.empty hname.slash
  rw [Path.components_join (isAbsolute_mk hname.slash) (by simp [hnames, hname.dot.symm]), hnames]

theorem directory_package (packageName : String) {path : String} (hpath : path ≠ "") :
    directory packageName (.package path) =
      (directory packageName (.package "")).join ⟨path⟩ := by
  have hempty : path.isEmpty = false := by simpa using hpath
  simp [directory, hempty]

theorem IsFileName.append {before ending : String} (hbefore : '/' ∉ before.toList)
    (hending : '/' ∉ ending.toList) (hlength : 1 < ending.toList.length) :
    IsFileName (before ++ ending) := by
  have hshort : ∀ s : String, s.toList.length ≤ 1 → before ++ ending ≠ s := by
    rintro s hs rfl
    rw [String.toList_append, List.length_append] at hs
    omega
  exact ⟨by simp [hbefore, hending], hshort "" (by decide), hshort "." (by decide)⟩

theorem isFileName_fileName (role : Role) {className appName : String}
    (hclass : '/' ∉ className.toList) (happ : '/' ∉ appName.toList) (stack : Stack) :
    IsFileName (role.fileName className appName stack) := by
  cases role with
  | buildFile =>
      simp only [Role.fileName]
      cases stack.buildTool <;> exact ⟨by decide, by decide, by decide⟩
  | appConfig | resultWrapper | resultCodeEnum | apiDocConfig =>
      simp only [Role.fileName]
      exact ⟨by decide, by decide, by decide⟩
  | applicationEntryPoint => exact .append happ (by decide) (by decide)
  | dataAccess =>
      simp only [Role.fileName]
      cases stack.orm <;> exact .append hclass (by decide) (by decide)
  | serviceInterface => exact .append (by simp [hclass]) (by decide) (by decide)
  | entity | dataAccessMarkup | serviceImpl | controller =>
      exact .append hclass (by decide) (by decide)

theorem components_package (packageName : String) {path : String}
    (habsolute : (Path.mk path).isAbsolute = false) (hdot : "." ∉ (Path.mk path).names) :
    (directory packageName (.package path)).components =
      ((directory packageName (.package "")).components.1,
        (directory packageName (.package "")).components.2 ++ (Path.mk path).names) := by
  by_cases hempty : path = ""
  · have hnames : (Path.mk "").names = [] := by decide
    rw [hempty, hnames, List.append_nil]
  · rw [directory_package packageName hempty, Path.components_join habsolute hdot]

theorem isEntry_home {role : Role} (hrole : role ≠ .entity) {className appName : String}
    {stack : Stack} (hname : IsFileName (role.fileName className appName stack))
    (packageName : String) :
    IsEntry (directory packageName (home stack role)) (role.fileName className appName stack)
      (resolve (role.fileName className appName stack) packageName) := by
  rw [IsEntry, resolve, location_fileName hrole]
  exact hname.components_join _

/-- An entity stands in the package of entities unless its class name is that of another file. -/
theorem isEntry_entity_iff {className : String} (hname : IsFileName (className ++ ".java"))
    (hresult : className ≠ "Result") (hcode : className ≠ "ResultCode") (packageName : String) :
    IsEntry (directory packageName (.package "entity")) (className ++ ".java")
      (resolve (className ++ ".java") packageName) ↔ ¬IsForeign className := by
  rw [← find?_classRules_eq_none_iff hresult hcode, IsEntry, resolve, hname.components_join,
    location_java]
  cases hfind : classRules.find? (·.1.covers className) with
  | none => simp
  | some rule =>
      obtain ⟨path, hpath, hnames, habsolute, hdot⟩ :=
        exists_package_of_mem_classRules (List.mem_of_find?_eq_some hfind)
      have hrelative : (Path.mk "entity").isAbsolute = false := by decide
      have hentity : (Path.mk "entity").names = ["entity"] := by decide
      simp only [hpath, components_package packageName habsolute hdot,
        components_package packageName hrelative (by decide), hentity, Prod.mk.injEq, true_and, List.append_cancel_right_eq, List.append_cancel_left_eq,
        reduceCtorEq, iff_false]
      exact hnames

end SchemaScaffold.Layout

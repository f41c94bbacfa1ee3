import SchemaScaffold.Proofs.CheckedNames
import SchemaScaffold.Proofs.PlanReports
import SchemaScaffold.Proofs.TemplateDirectory

/-!
# Framework versions

The check of a framework version leaves the blanks around it aside, and nothing takes them away
afterwards: the models hand the version out as it is given, and the build file has it with its
blanks between the marks for it. The names of a project have no blanks around them once they are
checked, so that for them the checked text is the one that is handed out.
-/

namespace SchemaScaffold

namespace Validation

/-! ### What the check accepts -/

def IsVersionPart (part : List Char) : Prop := part ≠ [] ∧ ∀ c ∈ part, c.isAlphanum ∨ c = '-'

def IsVersion : List Char → Prop := Text.IsDotted IsVersionPart

theorem isVersion_iff_fields {text : List Char} :
    IsVersion text ↔ ∀ field ∈ Text.fields '.' text, IsVersionPart field := by
  refine Text.isDotted_iff fun part hpart hdot => ?_
  exact absurd (hpart.2 _ hdot) (by decide)

theorem isVersion_iff {text : List Char} : isVersion text ↔ IsVersion text := by
  rw [isVersion_iff_fields, isVersion, List.all_eq_true]
  refine forall₂_congr fun field _ => ?_
  simp [isVersionPart, IsVersionPart]

theorem IsVersion.not_isBlank {text : List Char} (h : IsVersion text) {c : Char} (hc : c ∈ text) :
    Text.isBlank c = false := by
  rcases Text.mem_fields '.' hc with rfl | ⟨field, hfield, hc⟩
  · decide
  · rcases (isVersion_iff_fields.mp h field hfield).2 c hc with halphanum | rfl
    · exact Text.forall_ascii (p := fun c => c.isAlphanum → Text.isBlank c = false) (by decide)
        (Naming.toNat_lt_of_isAlphanum halphanum) halphanum
    · decide

theorem IsVersion.trimList_eq {text : List Char} (h : IsVersion text) : Text.trimList text = text :=
  Text.trimList_of_forall_not_isBlank fun _ => h.not_isBlank

/-- A version with blanks around it. -/
def IsPaddedVersion (text : List Char) : Prop :=
  ∃ before version after, text = before ++ version ++ after ∧ IsVersion version ∧
    (∀ c ∈ before, Text.isBlank c) ∧ ∀ c ∈ after, Text.isBlank c

theorem isPaddedVersion_iff {text : List Char} :
    IsPaddedVersion text ↔ IsVersion (Text.trimList text) := by
  constructor
  · rintro ⟨before, version, after, rfl, hversion, hbefore, hafter⟩
    rwa [Text.trimList_blanks_around hbefore hafter, hversion.trimList_eq]
  · intro h
    obtain ⟨before, after, htext, hbefore, hafter⟩ := Text.exists_blanks_around text
    exact ⟨before, _, after, htext, h, hbefore, hafter⟩

theorem IsPaddedVersion.isVersion_iff {text : List Char} (h : IsPaddedVersion text) :
    IsVersion text ↔ Text.trimList text = text := by
  refine ⟨IsVersion.trimList_eq, fun htrim => ?_⟩
  rw [← htrim]
  exact isPaddedVersion_iff.mp h

theorem stack_eq_ok_iff {stack : Stack} :
    Validation.stack stack = .ok () ↔ IsPaddedVersion stack.frameworkVersion.toList := by
  rw [Validation.stack, require_eq_ok_iff, isVersion_iff, isPaddedVersion_iff]

theorem trim_of_projectName {name : String} (h : projectName name = .ok ()) :
    Text.trim name = name := by
  have hname := projectName_eq_ok_iff_isProjectNameOf.mp h
  rw [Text.trim_eq_self_iff, Text.trimList_eq_self_iff]
  exact ⟨fun c hc => not_isBlank_of_isFoldedLetter (hname.first c hc),
    fun c hc => not_isBlank_of_isFoldedLetter (hname.last c hc)⟩

end Validation

/-! ### What templates are given -/

def Model.frameworkVersion? (model : Value) : Option Value :=
  (model.field? "project").bind fun project => project.field? "frameworkVersion"

theorem Model.frameworkVersion?_make (project : Project) (table : Option Table) :
    frameworkVersion? (make project table) = some (.text project.stack.frameworkVersion) := by
  cases table <;> rfl

/-! ### What build files state -/

namespace BuildTool

def versionOpening : BuildTool → List Char
  | maven => "<version>".toList
  | gradle => "version '".toList

def versionClosing : BuildTool → List Char
  | maven => "</version>".toList
  | gradle => "'".toList

/-- The first version in a build file is this one. -/
def StatesVersion (tool : BuildTool) (version content : List Char) : Prop :=
  ∃ front back, content = front ++ tool.versionOpening ++ version ++ tool.versionClosing ++ back ∧
    ¬tool.versionOpening <:+: front ++ tool.versionOpening.dropLast

end BuildTool

namespace Form

def statesVersion (tool : BuildTool) : List Piece → Bool
  | .plain front :: .print (.data .frameworkVersion) :: .plain back :: _ =>
    tool.versionOpening.isSuffixOf front && tool.versionClosing.isPrefixOf back
      && !decide (tool.versionOpening <:+: front.dropLast)
  | _ => false

theorem statesVersion_textOf {tool : BuildTool} {form : List Piece} (h : statesVersion tool form)
    (focus : Focus) :
    tool.StatesVersion focus.project.stack.frameworkVersion.toList (textOf form focus).toList := by
  unfold statesVersion at h
  split at h
  case h_1 front back rest =>
    have hopening : tool.versionOpening ≠ [] := by cases tool <;> decide
    simp only [Bool.and_eq_true, Bool.not_eq_true', decide_eq_false_iff_not,
      List.isSuffixOf_iff_suffix, List.isPrefixOf_iff_prefix] at h
    obtain ⟨⟨⟨head, rfl⟩, tail, rfl⟩, hfirst⟩ := h
    rw [List.dropLast_append_of_ne_nil hopening] at hfirst
    refine ⟨head, tail ++ charsOf rest focus, ?_, hfirst⟩
    simp [Piece.chars, Term.text, Term.value, Datum.value, Template.printedText]
  case h_2 => cases h

def buildTemplate : BuildTool → TemplateId × List String
  | .maven => ("maven/pom.xml.ftl", Template.Shipped.Build.maven)
  | .gradle => ("gradle/build.gradle.ftl", Template.Shipped.Build.gradle)

theorem shippedFor_buildFile (stack : Stack) :
    shippedFor stack .buildFile = some (buildTemplate stack.buildTool) := by
  rw [shippedFor]
  cases stack.buildTool <;> rfl

theorem hasForm_buildTemplate (tool : BuildTool) :
    HasForm .ofProject (buildTemplate tool).2 (statesVersion tool) := by
  cases tool
  all_goals
    apply Spelled.hasForm
    · simp only [buildTemplate, Template.Shipped.Build.gradle, Template.Shipped.Build.maven]
      repeat first | exact .last _ | apply Spelled.line
    · decide +kernel

/-- The build file of a project states the framework version as it is given. -/
theorem exists_buildFile (project : Project) : ∃ template content,
    Selector.standard.resolve .buildFile project.stack = some template ∧
    shippedRenderer (Model.make project none) template = .ok content ∧
    project.stack.buildTool.StatesVersion project.stack.frameworkVersion.toList content.toList := by
  obtain ⟨form, hform, hstates⟩ := hasForm_buildTemplate project.stack.buildTool
  have hshipped := shippedFor_buildFile project.stack
  refine ⟨_, textOf form { project, table := default }, ?_,
    shippedRenderer_eq_textOf hshipped hform { project, table := default },
    statesVersion_textOf hstates _⟩
  rw [resolve_standard, hshipped, Option.map_some]

end Form

/-- The names of a checked project are handed out as they were checked, and so is the framework
version up to the blanks around it: the text that every model hands out, and that the build file
states, is a version with blanks around it, and a version itself exactly when there are none. -/
theorem checked_version_handed_out (settings : Settings) (h : settings.checkProject = .ok ()) :
    let project := settings.project
    let version := settings.stack.frameworkVersion
    (project.name = settings.projectName ∧ project.packageName = settings.packageName) ∧
    (∀ table, Model.frameworkVersion? (Model.make project table) = some (.text version)) ∧
    (∃ template content, Selector.standard.resolve .buildFile project.stack = some template ∧
      Form.shippedRenderer (Model.make project none) template = .ok content ∧
      project.stack.buildTool.StatesVersion version.toList content.toList) ∧
    Validation.IsPaddedVersion version.toList ∧
    (Validation.IsVersion version.toList ↔ Text.trim version = version) := by
  intro project version
  obtain ⟨hname, hpackage, -, hstack, -⟩ := Settings.checkProject_eq_ok_iff.mp h
  have hpadded := Validation.stack_eq_ok_iff.mp hstack
  refine ⟨⟨Validation.trim_of_projectName hname, Validation.trim_of_packageName hpackage⟩,
    Model.frameworkVersion?_make project, Form.exists_buildFile project, hpadded, ?_⟩
  rw [hpadded.isVersion_iff, Text.trim_eq_self_iff]

/-- The settings by default pass their checks, with any stack that does. -/
theorem checkProject_of_stack {stack : Stack} (h : Validation.stack stack = .ok ()) :
    Settings.checkProject { stack } = .ok () := by
  have hname : Validation.projectName "demo" = .ok () := by
    rw [Validation.projectName_eq_ok_iff, Text.isBlankText_eq]
    decide
  have hpackage : Validation.packageName "com.example.demo" = .ok () := by
    rw [Validation.packageName_eq_ok_iff, Text.isBlankText_eq]
    decide
  have hdir : Validation.outputDir "./generated" = .ok () := by
    rw [Validation.outputDir_eq_ok_iff, Text.isBlankText_eq]
    decide
  have htables : Limits.maxTables ≠ 0 := by decide
  exact Settings.checkProject_eq_ok_iff.mpr ⟨hname, hpackage, hdir, h, htables⟩

/-- A release candidate. -/
theorem checked_version_handed_out_candidate :
    let settings : Settings :=
      { stack := { buildTool := .gradle, frameworkVersion := "3.4.0-RC1" } }
    let version := settings.stack.frameworkVersion
    settings.checkProject = .ok () ∧ Validation.IsVersion version.toList ∧
      Model.frameworkVersion? (Model.make settings.project none) = some (.text version) ∧
      ∃ template content, Selector.standard.resolve .buildFile settings.stack = some template ∧
        Form.shippedRenderer (Model.make settings.project none) template = .ok content ∧
        BuildTool.gradle.StatesVersion version.toList content.toList := by
  intro settings version
  have hchecked : settings.checkProject = .ok () :=
    checkProject_of_stack (Validation.require_eq_ok_iff.mpr (by decide))
  obtain ⟨-, hhanded, hstated, -, hversion⟩ := checked_version_handed_out settings hchecked
  exact ⟨hchecked, hversion.mpr (by decide), hhanded none, hstated⟩

/-- A version with a line break behind it passes, and is handed out with the line break. -/
theorem checked_version_with_line_break :
    let settings : Settings := { stack := { buildTool := .gradle, frameworkVersion := "3.2.0\n" } }
    settings.checkProject = .ok () ∧
      ∃ version, Model.frameworkVersion? (Model.make settings.project none) = some (.text version) ∧
        ¬Validation.IsVersion version.toList := by
  intro settings
  refine ⟨checkProject_of_stack (Validation.require_eq_ok_iff.mpr (by decide)), _,
    Model.frameworkVersion?_make settings.project none, ?_⟩
  rw [← Validation.isVersion_iff]
  decide

end SchemaScaffold

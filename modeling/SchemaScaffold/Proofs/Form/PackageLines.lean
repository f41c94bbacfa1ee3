import SchemaScaffold.Proofs.Form.Shipped
import SchemaScaffold.Proofs.PackageNames

namespace SchemaScaffold

open Form Layout

def Declares (content packageName : String) : Prop :=
  content.toList.takeWhile (· != '\n') = ("package " ++ packageName ++ ";").toList

def declares (suffix : String) : List Piece → Bool
  | .plain front :: .print (.data .packageName) :: .plain back :: _ =>
    front == "package ".toList && (suffix ++ ";\n").toList.isPrefixOf back
  | _ => false

theorem declares_textOf {suffix : String} {form : List Piece} (h : declares suffix form)
    {focus : Focus} (hpackage : '\n' ∉ focus.project.packageName.toList)
    (hsuffix : '\n' ∉ suffix.toList) :
    Declares (textOf form focus) (focus.project.packageName ++ suffix) := by
  unfold declares at h
  split at h
  case h_2 => cases h
  case h_1 front back rest =>
    rw [Bool.and_eq_true, beq_iff_eq, List.isPrefixOf_iff_prefix] at h
    obtain ⟨rfl, others, hothers⟩ := h
    have hchars : charsOf (.plain "package ".toList :: .print (.data .packageName) :: .plain back
        :: rest) focus = ("package " ++ (focus.project.packageName ++ suffix) ++ ";").toList ++
          '\n' :: (others ++ charsOf rest focus) := by
      simp [Piece.chars, Term.text, Term.value, Datum.value, Template.printedText, ← hothers]
    rw [Declares, toList_textOf, hchars, List.takeWhile_append_of_pos]
    · simp
    · intro c hc
      rw [bne_iff_ne]
      rintro rfl
      simp [hpackage, hsuffix] at hc

def scopeOf (role : Role) : Scope :=
  if Role.ofTable.contains role then .ofTable else .ofProject

def javaTemplates : List (Scope × List String × String) := [
  (.ofProject, Template.Shipped.Common.result, "common/api"),
  (.ofProject, Template.Shipped.Common.resultCode, "common/api"),
  (.ofProject, Template.Shipped.Common.openApiConfig, "config"),
  (.ofProject, Template.Shipped.Mybatis.application, ""),
  (.ofProject, Template.Shipped.MybatisPlus.application, ""),
  (.ofProject, Template.Shipped.Jpa.application, ""),
  (.ofTable, Template.Shipped.Mybatis.entity, "entity"),
  (.ofTable, Template.Shipped.MybatisPlus.entity, "entity"),
  (.ofTable, Template.Shipped.Jpa.entity, "entity"),
  (.ofTable, Template.Shipped.Mybatis.mapper, "mapper"),
  (.ofTable, Template.Shipped.MybatisPlus.mapper, "mapper"),
  (.ofTable, Template.Shipped.Jpa.repository, "repository"),
  (.ofTable, Template.Shipped.Common.service, "service"),
  (.ofTable, Template.Shipped.Mybatis.serviceImpl, "service/impl"),
  (.ofTable, Template.Shipped.MybatisPlus.serviceImpl, "service/impl"),
  (.ofTable, Template.Shipped.Jpa.serviceImpl, "service/impl"),
  (.ofTable, Template.Shipped.Common.controller, "controller")]

theorem mem_javaTemplates {stack : Stack} {role : Role} {template : TemplateId × List String}
    {path : String} (htemplate : shippedFor stack role = some template)
    (hhome : home stack role = .package path) :
    (scopeOf role, template.2, path) ∈ javaTemplates := by
  unfold shippedFor at htemplate
  unfold home at hhome
  split at htemplate <;> (try split at htemplate) <;> simp_all [javaTemplates, scopeOf, Role.ofTable]
  all_goals
    subst htemplate
    simp

end SchemaScaffold

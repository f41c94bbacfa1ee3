import SchemaScaffold.Selector

namespace SchemaScaffold

/-- The role is that of a rule, and the stack meets every condition that the rule makes. -/
structure TemplateRule.Holds (rule : TemplateRule) (role : Role) (stack : Stack) : Prop where
  role : rule.role = role
  orm : ∀ orm, rule.orm = some orm → stack.orm = orm
  buildTool : ∀ tool, rule.buildTool = some tool → stack.buildTool = tool
  requires : ∀ feature, rule.requires = some feature → stack.has feature = true

theorem TemplateRule.applies_iff {rule : TemplateRule} {role : Role} {stack : Stack} :
    rule.applies role stack ↔ rule.Holds role stack := by
  simp only [applies, Bool.and_eq_true, beq_iff_eq, Option.all_eq_true, and_assoc]
  constructor
  · rintro ⟨hrole, horm, htool, hfeature⟩
    exact ⟨hrole, fun orm h => (horm orm h).symm, fun tool h => (htool tool h).symm, hfeature⟩
  · rintro ⟨hrole, horm, htool, hfeature⟩
    exact ⟨hrole, fun orm h => (horm orm h).symm, fun tool h => (htool tool h).symm, hfeature⟩

namespace Selector

variable {selector : Selector} {rule : TemplateRule} {role : Role} {stack : Stack}

def withRules (selector : Selector) (rules : List TemplateRule) : Selector :=
  rules.foldl withRule selector

theorem withRules_append (selector : Selector) (rules more : List TemplateRule) :
    selector.withRules (rules ++ more) = (selector.withRules rules).withRules more :=
  List.foldl_append

theorem resolve_withRule_of_holds (h : rule.Holds role stack) :
    (selector.withRule rule).resolve role stack = rule.template := by
  have happlies := TemplateRule.applies_iff.mpr h
  simp [withRule, resolve, happlies]

theorem resolve_withRule_of_not_holds (h : ¬rule.Holds role stack) :
    (selector.withRule rule).resolve role stack = selector.resolve role stack := by
  rw [← TemplateRule.applies_iff] at h
  simp [withRule, resolve, h]

theorem resolve_withRules_of_not_holds {rules : List TemplateRule}
    (h : ∀ rule ∈ rules, ¬rule.Holds role stack) :
    (selector.withRules rules).resolve role stack = selector.resolve role stack := by
  induction rules generalizing selector with
  | nil => rfl
  | cons rule rest ih =>
      rw [List.forall_mem_cons] at h
      have hrest : ((selector.withRule rule).withRules rest).resolve role stack =
          (selector.withRule rule).resolve role stack := ih h.2
      exact hrest.trans (resolve_withRule_of_not_holds h.1)

/-- Selectors that agree still agree when the same rules are added. -/
theorem resolve_withRules_congr {other : Selector}
    (h : selector.resolve role stack = other.resolve role stack) (rules : List TemplateRule) :
    (selector.withRules rules).resolve role stack = (other.withRules rules).resolve role stack := by
  induction rules generalizing selector other with
  | nil => exact h
  | cons rule rest ih =>
      apply ih
      by_cases hrule : rule.Holds role stack
      · rw [resolve_withRule_of_holds hrule, resolve_withRule_of_holds hrule]
      · rw [resolve_withRule_of_not_holds hrule, resolve_withRule_of_not_holds hrule, h]

theorem resolve_withRules_of_last {before after : List TemplateRule} (h : rule.Holds role stack)
    (hafter : ∀ later ∈ after, ¬later.Holds role stack) :
    (selector.withRules (before ++ rule :: after)).resolve role stack = rule.template := by
  rw [withRules_append]
  calc ((selector.withRules before).withRules (rule :: after)).resolve role stack
      = ((selector.withRules before).withRule rule).resolve role stack :=
        resolve_withRules_of_not_holds hafter
    _ = rule.template := resolve_withRule_of_holds h

theorem exists_last_or_none (rules : List TemplateRule) (role : Role) (stack : Stack) :
    (∃ before rule after, rules = before ++ rule :: after ∧ rule.Holds role stack ∧
      ∀ later ∈ after, ¬later.Holds role stack) ∨ ∀ rule ∈ rules, ¬rule.Holds role stack := by
  induction rules with
  | nil => exact .inr fun rule hrule => absurd hrule List.not_mem_nil
  | cons first rest ih =>
      rcases ih with ⟨before, rule, after, rfl, h⟩ | hnone
      · exact .inl ⟨first :: before, rule, after, rfl, h⟩
      · by_cases hfirst : first.Holds role stack
        · exact .inl ⟨[], first, rest, rfl, hfirst, hnone⟩
        · exact .inr (List.forall_mem_cons.mpr ⟨hfirst, hnone⟩)

/-- With rules added to the standard ones, the template is that of the last added rule that holds,
which may be none, and the standard one if no added rule holds. So a rule, wherever it is added,
changes the template of its own role only, and only for stacks that meet all its conditions. -/
theorem last_added_rule_decides (role : Role) (stack : Stack) :
    (∀ rules answer, (standard.withRules rules).resolve role stack = answer ↔
      (∃ before rule after, rules = before ++ rule :: after ∧ rule.Holds role stack ∧
        (∀ later ∈ after, ¬later.Holds role stack) ∧ rule.template = answer) ∨
      ((∀ rule ∈ rules, ¬rule.Holds role stack) ∧ standard.resolve role stack = answer)) ∧
    ∀ before rule after,
      (standard.withRules (before ++ rule :: after)).resolve role stack ≠
        (standard.withRules (before ++ after)).resolve role stack → rule.Holds role stack := by
  constructor
  · intro rules answer
    constructor
    · rintro rfl
      rcases exists_last_or_none rules role stack with ⟨before, rule, after, rfl, h, hafter⟩ | hnone
      · exact .inl ⟨before, rule, after, rfl, h, hafter, (resolve_withRules_of_last h hafter).symm⟩
      · exact .inr ⟨hnone, (resolve_withRules_of_not_holds hnone).symm⟩
    · rintro (⟨before, rule, after, rfl, h, hafter, rfl⟩ | ⟨hnone, rfl⟩)
      · exact resolve_withRules_of_last h hafter
      · exact resolve_withRules_of_not_holds hnone
  · intro before rule after hchange
    by_cases h : rule.Holds role stack
    · exact h
    refine absurd ?_ hchange
    rw [withRules_append, withRules_append]
    exact resolve_withRules_congr (resolve_withRule_of_not_holds h) after

example :
    let selector := standard.withRules [
      { role := .dataAccessMarkup, template := some "plus/Mapper.xml.ftl", orm := some .mybatisPlus },
      { role := .dataAccessMarkup, template := none, requires := some .pagination }]
    selector.resolve .dataAccessMarkup { orm := .mybatisPlus, pagination := true } = none ∧
      selector.resolve .dataAccessMarkup { orm := .mybatisPlus } = some "plus/Mapper.xml.ftl" ∧
      selector.resolve .dataAccessMarkup { orm := .mybatis } = some "mybatis/Mapper.xml.ftl" := by
  decide

end Selector

end SchemaScaffold

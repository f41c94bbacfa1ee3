import SchemaScaffold.Proofs.Form.Compile
import SchemaScaffold.Proofs.Traversal
import SchemaScaffold.Renderer

/-!
# A form prints what its template prints

What is known of the names at a place of a template fits the names themselves while the template is
rendered. Only a repetition moves the focus, to another column or import, and what was known outside
of it is then forgotten; names without a value stay without one, so that the model remains visible.
-/

namespace SchemaScaffold.Form

open Template (Expr Part Env Item Rendering evaluate evaluateAll renderPart renderParts
  forEach keepItems defined test printedText truth bindArguments loopRecord between)

/-! ## What is known of names -/

/-- What is known of a name agrees with what the name stands for. -/
def Agrees (focus : Focus) : Option (Option Known) → Option Item → Prop
  | none, none => True
  | some none, some _ => True
  | some (some known), some item => item = some (known.value focus)
  | _, _ => False

def Suits (focus : Focus) (bindings : Bindings) (scope : Template.Scope) : Prop :=
  ∀ name, Agrees focus (bindings.lookup name) (scope.lookup name)

structure Fits (names : Names) (env : Env) (focus : Focus) : Prop where
  model : env.model = (Known.model names.scope).value focus
  bindings : Suits focus names.bindings env.bindings
  macros : ∀ macroName seen, names.macros.lookup macroName = some seen →
    ∃ scope, env.macros.lookup macroName = some scope ∧ Suits focus seen scope

theorem Suits.cons {focus : Focus} {bindings : Bindings} {scope : Template.Scope}
    (hsuits : Suits focus bindings scope) (name : String) {known : Option Known} {item : Item}
    (hagrees : Agrees focus (some known) (some item)) :
    Suits focus ((name, known) :: bindings) ((name, item) :: scope) := by
  intro other
  simp only [List.lookup_cons]
  cases other == name with
  | true => exact hagrees
  | false => exact hsuits other

theorem Suits.bindParameters {focus : Focus} {seen : Bindings} {scope : Template.Scope}
    (hsuits : Suits focus seen scope) (parameters : List String) (arguments : List Known) :
    Suits focus (bindParameters parameters arguments ++ seen)
      (bindArguments parameters (arguments.map fun known => some (known.value focus)) ++ scope) := by
  induction parameters generalizing arguments with
  | nil => exact hsuits
  | cons parameter rest ih =>
      cases arguments with
      | nil => exact (ih []).cons parameter trivial
      | cons argument others => exact (ih others).cons parameter rfl

theorem Names.lookup_forgotten (bindings : Bindings) (name : String) :
    (forgotten bindings).lookup name = (bindings.lookup name).map fun _ => none := by
  induction bindings with
  | nil => rfl
  | cons binding rest ih =>
      obtain ⟨other, known⟩ := binding
      simp only [forgotten, List.map_cons, List.lookup_cons]
      cases name == other with
      | true => rfl
      | false => exact ih

theorem Suits.forgotten {focus : Focus} {bindings : Bindings} {scope : Template.Scope}
    (hsuits : Suits focus bindings scope) (other : Focus) :
    Suits other (Names.forgotten bindings) scope := by
  intro name
  have hagrees := hsuits name
  rw [Names.lookup_forgotten]
  generalize bindings.lookup name = known at hagrees ⊢
  generalize scope.lookup name = item at hagrees ⊢
  rcases known with - | - | known <;> cases item <;> simp_all [Agrees]

/-- Setting a variable again leaves no trace of its former value. -/
theorem Suits.reset {focus : Focus} (other : Focus) {seen : Bindings} {scope : Template.Scope}
    {outer inner : String} {known known' : Known} {item item' : Item}
    (hsuits : Suits focus ((inner, some known) :: (outer, some known') :: Names.forgotten seen) scope)
    (hitem : item = some (known.value other)) (hitem' : item' = some (known'.value other)) :
    Suits other ((inner, some known) :: (outer, some known') :: Names.forgotten seen)
      ((inner, item) :: (outer, item') :: scope) := by
  intro name
  have hagrees := hsuits name
  simp only [List.lookup_cons] at hagrees ⊢
  cases hinner : name == inner with
  | true => exact hitem
  | false =>
      cases houter : name == outer with
      | true => exact hitem'
      | false =>
          simp only [hinner, houter, Names.lookup_forgotten] at hagrees ⊢
          cases hseen : seen.lookup name <;> cases hscope : scope.lookup name <;>
            simp_all [Agrees]

namespace Fits

variable {names : Names} {env : Env} {focus : Focus}

theorem get {name : String} {known : Known} (hfits : Fits names env focus)
    (hknown : names.get name = some known) : env.get name = some (known.value focus) := by
  have hagrees := hfits.bindings name
  unfold Names.get at hknown
  unfold Env.get
  generalize names.bindings.lookup name = static at hagrees hknown
  generalize env.bindings.lookup name = dynamic at hagrees ⊢
  match static, dynamic with
  | none, none =>
      rw [hfits.model]
      exact Known.field?_value hknown focus
  | some (some _), some item =>
      obtain rfl := Option.some.inj hknown
      exact hagrees

theorem set (hfits : Fits names env focus) (name : String) {known : Known} {item : Item}
    (hitem : item = some (known.value focus)) :
    Fits (names.set name known) (env.set name item) focus where
  model := hfits.model
  bindings := hfits.bindings.cons name hitem
  macros := hfits.macros

theorem define (hfits : Fits names env focus) (macroName : String) :
    Fits (names.define macroName) (env.define macroName) focus where
  model := hfits.model
  bindings := hfits.bindings
  macros := by
    intro other seen hseen
    simp only [Names.define, Env.define, List.lookup_cons] at hseen ⊢
    cases hother : other == macroName with
    | true =>
        rw [hother] at hseen
        obtain rfl := Option.some.inj hseen
        exact ⟨env.bindings, rfl, hfits.bindings⟩
    | false =>
        rw [hother] at hseen
        exact hfits.macros other seen hseen

/-- What is forgotten fits whatever the focus is on, as long as the model stays. -/
theorem forget (hfits : Fits names env focus) {other : Focus}
    (hmodel : (Known.model names.scope).value other = (Known.model names.scope).value focus) :
    Fits names.forget env other where
  model := hfits.model.trans hmodel.symm
  bindings := hfits.bindings.forgotten other
  macros := by
    intro macroName seen hseen
    have hlookup : ∀ macros : List (String × Bindings),
        (macros.map fun entry => (entry.1, Names.forgotten entry.2)).lookup macroName =
          (macros.lookup macroName).map Names.forgotten := by
      intro macros
      induction macros with
      | nil => rfl
      | cons entry rest ih =>
          obtain ⟨other, seen⟩ := entry
          simp only [List.map_cons, List.lookup_cons]
          cases macroName == other with
          | true => rfl
          | false => exact ih
    rw [show names.forget.macros.lookup macroName = _ from hlookup names.macros] at hseen
    obtain ⟨seen', hseen', rfl⟩ := Option.map_eq_some_iff.mp hseen
    obtain ⟨scope, hscope, hsuits⟩ := hfits.macros macroName seen' hseen'
    exact ⟨scope, hscope, hsuits.forgotten other⟩

theorem call {macroName : String} {seen : Bindings} (hfits : Fits names env focus)
    (hseen : names.macros.lookup macroName = some seen) (parameters : List String)
    (arguments : List Known) :
    ∃ scope, env.macros.lookup macroName = some scope ∧
      Fits { names with bindings := bindParameters parameters arguments ++ seen }
        { env with
          bindings :=
            bindArguments parameters (arguments.map fun known => some (known.value focus)) ++ scope }
        focus := by
  obtain ⟨scope, hscope, hsuits⟩ := hfits.macros macroName seen hseen
  exact ⟨scope, hscope, {
    model := hfits.model
    bindings := hsuits.bindParameters parameters arguments
    macros := hfits.macros }⟩

end Fits

/-! ## Repetitions -/

mutual

theorem env_of_keepsNames : ∀ {part : Part} {env env' : Env} {printed : String},
    keepsNames part → renderPart part env = .ok (printed, env') → env' = env
  | .plain chars, env, env', printed, _, h => by
      obtain ⟨-, rfl⟩ := Prod.mk.inj (Except.ok.inj h)
      rfl
  | .print line expr, env, env', printed, _, h => by
      simp only [renderPart, Traversal.bind_eq_ok_iff] at h
      obtain ⟨_, _, _, _, h⟩ := h
      obtain ⟨-, rfl⟩ := Prod.mk.inj (Except.ok.inj h)
      rfl
  | .branch line condition yes no, env, env', printed, hkeeps, h => by
      simp only [keepsNames, Bool.and_eq_true] at hkeeps
      simp only [renderPart, Traversal.bind_eq_ok_iff] at h
      obtain ⟨_, _, holds, _, h⟩ := h
      cases holds with
      | true => exact env_of_allKeepNames hkeeps.1 h
      | false => exact env_of_allKeepNames hkeeps.2 h
  | .each line name expr condition body, env, env', printed, _, h => by
      simp only [renderPart, Traversal.bind_eq_ok_iff] at h
      obtain ⟨_, _, _, _, _, _, _, _, _, _, h⟩ := h
      obtain ⟨-, rfl⟩ := Prod.mk.inj (Except.ok.inj h)
      rfl
  | .assign _ _ _, _, _, _, hkeeps, _ => by cases hkeeps
  | .define _, _, _, _, hkeeps, _ => by cases hkeeps

theorem env_of_allKeepNames : ∀ {parts : List Part} {env env' : Env} {printed : String},
    allKeepNames parts → renderParts parts env = .ok (printed, env') → env' = env
  | [], env, env', printed, _, h => by
      obtain ⟨-, rfl⟩ := Prod.mk.inj (Except.ok.inj h)
      rfl
  | part :: rest, env, env', printed, hkeeps, h => by
      simp only [allKeepNames, Bool.and_eq_true] at hkeeps
      simp only [renderParts, Traversal.bind_eq_ok_iff] at h
      obtain ⟨⟨_, _⟩, hpart, ⟨_, _⟩, hrest, h⟩ := h
      obtain ⟨-, rfl⟩ := Prod.mk.inj (Except.ok.inj h)
      rw [env_of_allKeepNames hkeeps.2 hrest, env_of_keepsNames hkeeps.1 hpart]

end

section Repetition

variable {α : Type} {names : Names} {name : String} {item : Known} {toValue : α → Value}
  {enter : α → Focus} {count : Nat}

/-- Wherever a repetition enters its body next, what is known there fits. -/
def Ready (names : Names) (name : String) (item : Known) (toValue : α → Value) (enter : α → Focus)
    (count : Nat) (env : Env) : Prop :=
  ∀ a index, Fits (names.inside name item)
    ((env.set "loop" (some (loopRecord index count))).set name (some (toValue a)))
    { enter a with index, count }

theorem Ready.start (toValue : α → Value) (enter : α → Focus) (count : Nat) {env : Env}
    {focus : Focus} (hfits : Fits names env focus)
    (hmodel : ∀ a index, (Known.model names.scope).value { enter a with index, count } =
      (Known.model names.scope).value focus)
    (hitem : ∀ a index, toValue a = item.value { enter a with index, count }) :
    Ready names name item toValue enter count env := fun a index =>
  ((hfits.forget (hmodel a index)).set "loop" rfl).set name (congrArg some (hitem a index))

theorem Ready.again {env : Env} (hready : Ready names name item toValue enter count env)
    (hitem : ∀ a index, toValue a = item.value { enter a with index, count }) (a : α)
    (index : Nat) :
    Ready names name item toValue enter count
      ((env.set "loop" (some (loopRecord index count))).set name (some (toValue a))) := by
  intro b index'
  have hfits := hready a index
  have hagain := hready b index'
  exact {
    model := hagain.model
    bindings := hfits.bindings.reset { enter b with index := index', count }
      (congrArg some (hitem b index')) rfl
    macros := hagain.macros }

theorem forEach_eq_ok {body : Env → Rendering (String × Env)} {chars : Focus → List Char}
    (hitem : ∀ a index, toValue a = item.value { enter a with index, count })
    (hbody : ∀ env focus, Fits (names.inside name item) env focus →
      body env = .ok (String.ofList (chars focus), env))
    (as : List α) (index : Nat) {env : Env}
    (hready : Ready names name item toValue enter count env) :
    forEach name count body index (as.map toValue) env =
      .ok (String.ofList ((places enter count index as).flatMap chars)) := by
  induction as generalizing index env with
  | nil => rfl
  | cons a rest ih =>
      have hnext := ih (index + 1) (hready.again hitem a index)
      simp only [List.map_cons, forEach, hbody _ _ (hready a index), Traversal.ok_bind, hnext,
        places, List.flatMap_cons, String.ofList_append]
      rfl

end Repetition

theorem keepItems_eq_filter {α : Type} (condition : Value → Rendering Bool) {toValue : α → Value}
    (keep : α → Bool) (hcondition : ∀ a, condition (toValue a) = .ok (keep a)) (as : List α) :
    keepItems condition (as.map toValue) = .ok ((as.filter keep).map toValue) := by
  induction as with
  | nil => rfl
  | cons a rest ih =>
      simp only [List.map_cons, keepItems, hcondition, ih, Traversal.ok_bind, List.filter_cons]
      cases keep a <;> rfl

/-! ## Templates -/

theorem test_some (line : Nat) (value : Value) : test line (some value) = .ok (truth value) := rfl

theorem Term.truth_value (term : Term) (focus : Focus) :
    truth (term.value focus) = term.holds focus := rfl

theorem Known.value_scalar (term : Term) (focus : Focus) :
    (scalar term).value focus = term.value focus := rfl

theorem Known.value_of_term? {known : Known} {term : Term} (h : known.term? = some term)
    (focus : Focus) : known.value focus = term.value focus := by
  cases known with
  | scalar other =>
      obtain rfl := Option.some.inj h
      rfl
  | _ => cases h

theorem text_of_joinedTerm? {pieces : List Piece} {term : Term}
    (h : joinedTerm? pieces = some term) (focus : Focus) :
    term.value focus = .text (textOf pieces focus) := by
  induction pieces generalizing term with
  | nil =>
      obtain rfl := Option.some.inj h
      rfl
  | cons piece rest ih =>
      cases piece with
      | plain | print =>
          obtain ⟨others, hothers, rfl⟩ := Option.map_eq_some_iff.mp h
          simp [Term.value, ih hothers, textOf, Piece.chars, Term.text, printedText,
            String.ofList_append]
      | _ => cases h

mutual

theorem evaluate_of_ofExpr : ∀ {expr : Expr} {names : Names} {env : Env} {focus : Focus}
    {known : Known} (line : Nat), ofExpr expr names = some known → Fits names env focus →
    evaluate expr line env = .ok (some (known.value focus))
  | .constant value, names, env, focus, known, line, hknown, hfits => by
      obtain rfl := Option.some.inj hknown
      rfl
  | .variable name, names, env, focus, known, line, hknown, hfits => by
      rw [evaluate, hfits.get hknown]
  | .field record key, names, env, focus, known, line, hknown, hfits => by
      simp only [ofExpr, Option.bind_eq_bind, Option.bind_eq_some_iff] at hknown
      obtain ⟨whole, hwhole, hfield⟩ := hknown
      simp only [evaluate, evaluate_of_ofExpr line hwhole hfits, Traversal.ok_bind, defined,
        Known.field?_value hfield focus]
      rfl
  | .slice text start stop, names, env, focus, known, line, hknown, hfits => by
      simp only [ofExpr, Option.bind_eq_bind, Option.bind_eq_some_iff] at hknown
      obtain ⟨whole, hwhole, term, hterm, hslice⟩ := hknown
      cases htext : term.isText with
      | false => simp [htext] at hslice
      | true =>
          simp only [htext, if_true, Option.some.injEq] at hslice
          obtain ⟨s, hs⟩ := Term.exists_value_eq_text htext focus
          simp only [evaluate, evaluate_of_ofExpr line hwhole hfits, Traversal.ok_bind, defined,
            Known.value_of_term? hterm, hs, Template.sliced, ← hslice, Known.value_scalar,
            Term.value, printedText]
          rfl
  | .upper text, names, env, focus, known, line, hknown, hfits => by
      simp only [ofExpr, Option.bind_eq_bind, Option.bind_eq_some_iff, Option.pure_def,
        Option.some.injEq] at hknown
      obtain ⟨whole, hwhole, term, hterm, rfl⟩ := hknown
      simp only [evaluate, evaluate_of_ofExpr line hwhole hfits, Traversal.ok_bind, defined,
        Known.value_of_term? hterm]
      rfl
  | .lower text, names, env, focus, known, line, hknown, hfits => by
      simp only [ofExpr, Option.bind_eq_bind, Option.bind_eq_some_iff, Option.pure_def,
        Option.some.injEq] at hknown
      obtain ⟨whole, hwhole, term, hterm, rfl⟩ := hknown
      simp only [evaluate, evaluate_of_ofExpr line hwhole hfits, Traversal.ok_bind, defined,
        Known.value_of_term? hterm]
      rfl
  | .replace text pattern replacement, names, env, focus, known, line, hknown, hfits => by
      simp only [ofExpr, Option.bind_eq_bind, Option.bind_eq_some_iff, Option.pure_def,
        Option.some.injEq] at hknown
      obtain ⟨_, htext, text', htext', _, hpattern, pattern', hpattern', _, hreplacement,
        replacement', hreplacement', rfl⟩ := hknown
      simp only [evaluate, evaluate_of_ofExpr line htext hfits,
        evaluate_of_ofExpr line hpattern hfits, evaluate_of_ofExpr line hreplacement hfits,
        Traversal.ok_bind, defined, Known.value_of_term? htext', Known.value_of_term? hpattern',
        Known.value_of_term? hreplacement']
      rfl
  | .equal left right, names, env, focus, known, line, hknown, hfits => by
      simp only [ofExpr, Option.bind_eq_bind, Option.bind_eq_some_iff, Option.pure_def,
        Option.some.injEq] at hknown
      obtain ⟨_, hleft, left', hleft', _, hright, right', hright', rfl⟩ := hknown
      simp only [evaluate, evaluate_of_ofExpr line hleft hfits,
        evaluate_of_ofExpr line hright hfits, Traversal.ok_bind, Known.value_of_term? hleft',
        Known.value_of_term? hright']
      rfl
  | .negation condition, names, env, focus, known, line, hknown, hfits => by
      simp only [ofExpr, Option.bind_eq_bind, Option.bind_eq_some_iff, Option.pure_def,
        Option.some.injEq] at hknown
      obtain ⟨whole, hwhole, term, hterm, rfl⟩ := hknown
      simp only [evaluate, evaluate_of_ofExpr line hwhole hfits, Traversal.ok_bind, test_some,
        Known.value_of_term? hterm]
      rfl
  | .both left right, names, env, focus, known, line, hknown, hfits => by
      simp only [ofExpr, Option.bind_eq_bind, Option.bind_eq_some_iff, Option.pure_def,
        Option.some.injEq] at hknown
      obtain ⟨_, hleft, left', hleft', _, hright, right', hright', rfl⟩ := hknown
      simp only [evaluate, evaluate_of_ofExpr line hleft hfits,
        evaluate_of_ofExpr line hright hfits, Traversal.ok_bind, test_some,
        Known.value_of_term? hleft', Known.value_of_term? hright', Known.value_scalar, Term.value]
      cases truth (left'.value focus) <;> rfl
  | .either left right, names, env, focus, known, line, hknown, hfits => by
      simp only [ofExpr, Option.bind_eq_bind, Option.bind_eq_some_iff, Option.pure_def,
        Option.some.injEq] at hknown
      obtain ⟨_, hleft, left', hleft', _, hright, right', hright', rfl⟩ := hknown
      simp only [evaluate, evaluate_of_ofExpr line hleft hfits,
        evaluate_of_ofExpr line hright hfits, Traversal.ok_bind, test_some,
        Known.value_of_term? hleft', Known.value_of_term? hright', Known.value_scalar, Term.value]
      cases truth (left'.value focus) <;> rfl
  | .choice condition yes (some no), names, env, focus, known, line, hknown, hfits => by
      simp only [ofExpr, Option.bind_eq_bind, Option.bind_eq_some_iff, Option.pure_def,
        Option.some.injEq] at hknown
      obtain ⟨_, hcondition, condition', hcondition', _, hyes, yes', hyes', _, hno, no', hno',
        rfl⟩ := hknown
      simp only [evaluate, Template.evaluateOption, evaluate_of_ofExpr line hcondition hfits,
        evaluate_of_ofExpr line hyes hfits, evaluate_of_ofExpr line hno hfits, Traversal.ok_bind,
        test_some, Known.value_of_term? hcondition', Known.value_of_term? hyes',
        Known.value_of_term? hno', Known.value_scalar, Term.value]
      cases truth (condition'.value focus) <;> rfl
  | .call macroName parameters body arguments, names, env, focus, known, line, hknown, hfits => by
      simp only [ofExpr, Option.bind_eq_bind, Option.bind_eq_some_iff, Option.pure_def,
        Option.some.injEq] at hknown
      obtain ⟨seen, hseen, arguments', harguments, ⟨pieces, after⟩, hbody, term, hterm, rfl⟩ :=
        hknown
      obtain ⟨scope, hscope, hinside⟩ := hfits.call hseen parameters arguments'
      obtain ⟨env', hrender, -⟩ := renderParts_of_ofParts hbody hinside
      simp only [evaluate, hscope, evaluateAll_of_ofExprs line harguments hfits, hrender,
        Traversal.ok_bind, Known.value_scalar, text_of_joinedTerm? hterm]
      rfl
  | .item .., _, _, _, _, _, hknown, _ | .itemFromEnd .., _, _, _, _, _, hknown, _
  | .choice _ _ none, _, _, _, _, _, hknown, _ => by cases hknown

theorem evaluateAll_of_ofExprs : ∀ {exprs : List Expr} {names : Names} {env : Env} {focus : Focus}
    {knowns : List Known} (line : Nat), ofExprs exprs names = some knowns → Fits names env focus →
    evaluateAll exprs line env = .ok (knowns.map fun known => some (known.value focus))
  | [], names, env, focus, knowns, line, hknown, hfits => by
      obtain rfl := Option.some.inj hknown
      rfl
  | expr :: rest, names, env, focus, knowns, line, hknown, hfits => by
      simp only [ofExprs, Option.bind_eq_bind, Option.bind_eq_some_iff, Option.pure_def,
        Option.some.injEq] at hknown
      obtain ⟨known, hexpr, others, hrest, rfl⟩ := hknown
      simp only [evaluateAll, evaluate_of_ofExpr line hexpr hfits,
        evaluateAll_of_ofExprs line hrest hfits, Traversal.ok_bind]
      rfl

theorem holds_of_ofCondition : ∀ {condition : Option Expr} {names : Names} {env : Env}
    {focus : Focus} {term : Term} (line : Nat), ofCondition condition names = some term →
    Fits names env focus → Template.holds condition line env = .ok (term.holds focus)
  | some condition, names, env, focus, term, line, hknown, hfits => by
      simp only [ofCondition, Option.bind_eq_bind, Option.bind_eq_some_iff] at hknown
      obtain ⟨whole, hwhole, hterm⟩ := hknown
      simp only [Template.holds, evaluate_of_ofExpr line hwhole hfits, Traversal.ok_bind, test_some,
        Known.value_of_term? hterm]
      rfl
  | none, names, env, focus, term, line, hknown, hfits => by
      obtain rfl := Option.some.inj hknown
      rfl

theorem renderPart_of_ofPart : ∀ {part : Part} {names names' : Names} {env : Env} {focus : Focus}
    {pieces : List Piece}, ofPart part names = some (pieces, names') → Fits names env focus →
    ∃ env', renderPart part env = .ok (textOf pieces focus, env') ∧ Fits names' env' focus
  | .plain chars, names, names', env, focus, pieces, hform, hfits => by
      obtain ⟨rfl, rfl⟩ := Prod.mk.inj (Option.some.inj hform)
      exact ⟨env, by rw [renderPart, textOf_singleton, Piece.chars], hfits⟩
  | .print line expr, names, names', env, focus, pieces, hform, hfits => by
      simp only [ofPart, Option.bind_eq_bind, Option.bind_eq_some_iff, Option.pure_def,
        Option.some.injEq, Prod.mk.injEq] at hform
      obtain ⟨whole, hwhole, term, hterm, rfl, rfl⟩ := hform
      refine ⟨env, ?_, hfits⟩
      simp only [renderPart, evaluate_of_ofExpr line hwhole hfits, Traversal.ok_bind, defined,
        Known.value_of_term? hterm, textOf_singleton, Piece.chars, Term.text, String.ofList_toList]
      rfl
  | .branch line condition yes no, names, names', env, focus, pieces, hform, hfits => by
      simp only [ofPart] at hform
      split at hform
      case isFalse => cases hform
      case isTrue hkeeps =>
      simp only [Option.bind_eq_bind, Option.bind_eq_some_iff, Option.pure_def,
        Option.some.injEq, Prod.mk.injEq] at hform
      obtain ⟨whole, hwhole, term, hterm, ⟨yes', _⟩, hyes, ⟨no', _⟩, hno, rfl, rfl⟩ := hform
      rw [Bool.and_eq_true] at hkeeps
      -- Neither branch sets a name, so what follows is read the same behind both.
      refine ⟨env, ?_, hfits⟩
      simp only [renderPart, evaluate_of_ofExpr line hwhole hfits, Traversal.ok_bind, test_some,
        Known.value_of_term? hterm, Term.truth_value, textOf_singleton, Piece.chars]
      by_cases hholds : term.holds focus
      · obtain ⟨env', hrender, -⟩ := renderParts_of_ofParts hyes hfits
        rw [if_pos hholds, if_pos hholds, hrender, env_of_allKeepNames hkeeps.1 hrender, textOf]
      · obtain ⟨env', hrender, -⟩ := renderParts_of_ofParts hno hfits
        rw [if_neg hholds, if_neg hholds, hrender, env_of_allKeepNames hkeeps.2 hrender, textOf]
  | .each line name items condition body, names, names', env, focus, pieces, hform, hfits => by
      simp only [ofPart] at hform
      split at hform
      case isFalse => cases hform
      case isTrue hkeeps =>
      simp only [Option.bind_eq_bind, Option.bind_eq_some_iff, Option.pure_def,
        Option.some.injEq, Prod.mk.injEq] at hform
      obtain ⟨all, hall, item, hitem, keep, hkeep, ⟨body', _⟩, hbody, piece, hpiece, rfl, rfl⟩ :=
        hform
      refine ⟨env, ?_, hfits⟩
      -- The body sets no name either, so every round begins with what was known before the first.
      have hrepeat : ∀ env focus, Fits (names.inside name item) env focus →
          renderParts body env = .ok (textOf body' focus, env) := by
        intro env focus hfits
        obtain ⟨env', hrender, -⟩ := renderParts_of_ofParts hbody hfits
        rw [hrender, env_of_allKeepNames hkeeps hrender]
      have hmodel : ∀ column imported index count,
          (Known.model names.scope).value { focus with column, imported, index, count } =
            (Known.model names.scope).value focus := by
        intro column imported index count
        cases names.scope <;> rfl
      simp only [renderPart, evaluate_of_ofExpr line hall hfits, Traversal.ok_bind, defined,
        textOf_singleton]
      cases all with
      | columns =>
          obtain rfl := Option.some.inj hitem
          obtain rfl := Option.some.inj hpiece
          have hholds : ∀ column : Column,
              Template.holds condition line (env.set name (some column.toValue)) =
                .ok (keep.holds { focus with column }) := fun column =>
            holds_of_ofCondition line hkeep ((hfits.forget (hmodel column _ _ _)).set name rfl)
          have hkept : keepItems
              (fun item => Template.holds condition line (env.set name (some item)))
              (focus.table.columns.map Column.toValue) =
                .ok ((focus.keptColumns keep).map Column.toValue) :=
            keepItems_eq_filter _ _ hholds focus.table.columns
          have hloop := forEach_eq_ok (fun _ _ => rfl) hrepeat (focus.keptColumns keep) 0
            (Ready.start Column.toValue (fun column => { focus with column })
              (focus.keptColumns keep).length hfits (fun column index => hmodel column _ index _)
              fun _ _ => rfl)
          simp only [Known.value, Table.columnValues, Template.items, Traversal.ok_bind, hkept,
            List.length_map, hloop, Piece.chars]
          rfl
      | imports =>
          obtain rfl := Option.some.inj hitem
          -- A repetition for the imports has a form only if it leaves none out.
          have hkeepAll : keep = .constant (.bool true) ∧ piece = .forImports body' := by
            unfold Known.repeated? at hpiece
            split at hpiece <;> simp_all
          obtain ⟨rfl, rfl⟩ := hkeepAll
          have hholds : ∀ imported : String,
              Template.holds condition line (env.set name (some (.text imported))) = .ok true :=
            fun imported => holds_of_ofCondition line hkeep
              ((hfits.forget (hmodel focus.column imported 0 0)).set name rfl)
          have hkept : keepItems
              (fun item => Template.holds condition line (env.set name (some item)))
              (focus.imports.map Value.text) = .ok (focus.imports.map Value.text) := by
            have hkept := keepItems_eq_filter
              (fun item => Template.holds condition line (env.set name (some item)))
              (fun _ => true) hholds focus.imports
            rwa [List.filter_true] at hkept
          have hloop := forEach_eq_ok (fun _ _ => rfl) hrepeat focus.imports 0
            (Ready.start Value.text (fun imported => { focus with imported }) focus.imports.length
              hfits (fun imported index => hmodel _ imported index _) fun _ _ => rfl)
          have hitems : Known.imports.value focus = .list (focus.imports.map Value.text) := rfl
          simp only [hitems, Template.items, Traversal.ok_bind, hkept, List.length_map, hloop,
            Piece.chars]
          rfl
      | _ => cases hitem
  | .assign line name expr, names, names', env, focus, pieces, hform, hfits => by
      simp only [ofPart, Option.bind_eq_bind, Option.bind_eq_some_iff, Option.pure_def,
        Option.some.injEq, Prod.mk.injEq] at hform
      obtain ⟨known, hknown, rfl, rfl⟩ := hform
      refine ⟨env.set name (some (known.value focus)), ?_, hfits.set name rfl⟩
      simp only [renderPart, evaluate_of_ofExpr line hknown hfits, Traversal.ok_bind]
      rfl
  | .define macroName, names, names', env, focus, pieces, hform, hfits => by
      obtain ⟨rfl, rfl⟩ := Prod.mk.inj (Option.some.inj hform)
      exact ⟨env.define macroName, rfl, hfits.define macroName⟩

theorem renderParts_of_ofParts : ∀ {parts : List Part} {names names' : Names} {env : Env}
    {focus : Focus} {pieces : List Piece}, ofParts parts names = some (pieces, names') →
    Fits names env focus →
    ∃ env', renderParts parts env = .ok (textOf pieces focus, env') ∧ Fits names' env' focus
  | [], names, names', env, focus, pieces, hform, hfits => by
      obtain ⟨rfl, rfl⟩ := Prod.mk.inj (Option.some.inj hform)
      exact ⟨env, rfl, hfits⟩
  | part :: rest, names, names', env, focus, pieces, hform, hfits => by
      simp only [ofParts, Option.bind_eq_bind, Option.bind_eq_some_iff, Option.pure_def,
        Option.some.injEq, Prod.mk.injEq] at hform
      obtain ⟨⟨first, between⟩, hpart, ⟨others, after⟩, hrest, rfl, rfl⟩ := hform
      obtain ⟨env₁, hrender, hfits₁⟩ := renderPart_of_ofPart hpart hfits
      obtain ⟨env₂, hrender', hfits₂⟩ := renderParts_of_ofParts hrest hfits₁
      refine ⟨env₂, ?_, hfits₂⟩
      simp only [renderParts, hrender, hrender', Traversal.ok_bind, textOf_append]
      rfl

end

theorem renderText_of_ofChars? {scope : Scope} {source : String} {form : List Piece}
    (hform : ofChars? scope source.toList = some form) (focus : Focus) :
    Renderer.renderText source ((Known.model scope).value focus) = .ok (textOf form focus) := by
  simp only [ofChars?, Option.bind_eq_bind, Option.bind_eq_some_iff, Option.pure_def,
    Option.some.injEq] at hform
  obtain ⟨parts, hparts, ⟨pieces, names⟩, hpieces, rfl⟩ := hform
  have hfits : Fits { scope } { model := (Known.model scope).value focus } focus :=
    { model := rfl
      bindings := fun _ => trivial
      macros := fun _ _ h => by cases h }
  obtain ⟨env, hrender, -⟩ := renderParts_of_ofParts hpieces hfits
  simp only [Renderer.renderText, hparts, Template.render, hrender]
  rfl

end SchemaScaffold.Form

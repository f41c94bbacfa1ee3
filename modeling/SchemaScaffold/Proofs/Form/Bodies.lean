import SchemaScaffold.Proofs.Form.HoleNames
import SchemaScaffold.Proofs.Form.Shipped
import SchemaScaffold.Proofs.Java.Methods

namespace SchemaScaffold.Form

open Java

abbrev Word := List (Letter Hole)

def Word.text (focus : Focus) (word : Word) : String :=
  String.ofList (Letter.filled (Hole.fill focus) word)

mutual

/-- What is left of a piece when it is read by modes once the choices are settled. A piece is read in
the same way in whatever text it stands, which spares an evaluation to read it again. -/
def Piece.code? (settings : Settings) (mayStand : Hole → State → Bool) :
    Piece → Mode → Option (Mode × List (Letter Hole))
  | .plain chars, mode => mode.runGapped mayStand (Letter.ofChars chars)
  | .print term, mode => do mode.runGapped mayStand (← term.letters? settings)
  | .branch condition yes no, mode => do
    if ← condition.settled? settings then codeOf? settings mayStand yes mode
    else codeOf? settings mayStand no mode
  | .forColumns .., _ | .forImports _, _ => none

def codeOf? (settings : Settings) (mayStand : Hole → State → Bool) :
    List Piece → Mode → Option (Mode × List (Letter Hole))
  | [], mode => some (mode, [])
  | piece :: rest, mode => do
    let (next, kept) ← piece.code? settings mayStand mode
    let (final, others) ← codeOf? settings mayStand rest next
    return (final, kept ++ others)

end

section

variable {settings : Settings} {mayStand : Hole → State → Bool}

mutual

theorem Piece.exists_letters_of_code? : ∀ {piece : Piece} {mode final : Mode}
    {kept : List (Letter Hole)}, piece.code? settings mayStand mode = some (final, kept) →
      ∃ letters, piece.letters? settings = some letters ∧
        mode.runGapped mayStand letters = some (final, kept)
  | .plain chars, _, _, _, h => ⟨Letter.ofChars chars, rfl, h⟩
  | .print _, _, _, _, h => Option.bind_eq_some_iff.mp h
  | .branch condition yes no, _, _, _, h => by
      obtain ⟨holds, hsettled, h⟩ := Option.bind_eq_some_iff.mp h
      cases holds with
      | true =>
          obtain ⟨letters, hletters, hrun⟩ := exists_letters_of_codeOf? h
          exact ⟨letters, by rw [Piece.letters?, hsettled]; exact hletters, hrun⟩
      | false =>
          obtain ⟨letters, hletters, hrun⟩ := exists_letters_of_codeOf? h
          exact ⟨letters, by rw [Piece.letters?, hsettled]; exact hletters, hrun⟩
  | .forColumns .., _, _, _, h | .forImports _, _, _, _, h => by cases h

theorem exists_letters_of_codeOf? : ∀ {form : List Piece} {mode final : Mode}
    {kept : List (Letter Hole)}, codeOf? settings mayStand form mode = some (final, kept) →
      ∃ letters, lettersOf? settings form = some letters ∧
        mode.runGapped mayStand letters = some (final, kept)
  | [], _, _, _, h => ⟨[], rfl, h⟩
  | piece :: rest, _, _, _, h => by
      obtain ⟨⟨middle, front⟩, hfront, h⟩ := Option.bind_eq_some_iff.mp h
      obtain ⟨⟨final, back⟩, hback, h⟩ := Option.bind_eq_some_iff.mp h
      cases h
      obtain ⟨first, hfirst, hread⟩ := Piece.exists_letters_of_code? hfront
      obtain ⟨others, hothers, hrest⟩ := exists_letters_of_codeOf? hback
      refine ⟨first ++ others, ?_, Mode.runGapped_append hread hrest⟩
      rw [lettersOf?, hfirst, hothers]
      rfl

end

end

/-- A template of a type, and what is said of the body of the type however the choices of the template
are settled. -/
structure BodyCheck where
  lines : List String
  choices : List Datum
  commented : Bool := false
  holds : Settings → Tokens Word → Bool

namespace BodyCheck

def passes (check : BodyCheck) (form : List Piece) : Bool :=
  (Settings.all check.choices).all fun settings =>
    ((lettersOf? settings form).bind (gappedBodyTokens? (javaRules check.commented))).any
      (check.holds settings)

def passesByModes (check : BodyCheck) (form : List Piece) : Bool :=
  let rules := javaRules check.commented
  (Settings.all check.choices).all fun settings =>
    ((codeOf? settings rules.mayStand form .code).bind fun (_, code) => codeTokens? rules code).any
      (check.holds settings)

theorem passes_of_modes {check : BodyCheck} {form : List Piece} (h : check.passesByModes form) :
    check.passes form := by
  simp only [passesByModes, passes, List.all_eq_true, Option.any_eq_true] at h ⊢
  intro settings hsettings
  obtain ⟨body, hbody, hholds⟩ := h settings hsettings
  obtain ⟨⟨final, code⟩, hcode, hbody⟩ := Option.bind_eq_some_iff.mp hbody
  obtain ⟨letters, hletters, hrun⟩ := exists_letters_of_codeOf? hcode
  refine ⟨body, ?_, hholds⟩
  rw [hletters, Option.bind_some, gappedBodyTokens?_of_modes hrun]
  exact hbody

end BodyCheck

structure HasBody (focus : Focus) (body : Tokens Word) (source : String) : Prop where
  methods : methods source = (methodsIn body).map (Method.map (Word.text focus))
  fields : fields source = (fieldsIn body).map (DeclaredField.map (Word.text focus))

theorem hasBody_of_bodyTokens {focus : Focus} {body : Tokens Word} {source : String}
    (h : bodyTokens source = body.map (Token.map (Letter.filled (Hole.fill focus)))) :
    HasBody focus body source :=
  ⟨(members_of_bodyTokens h).1, (members_of_bodyTokens h).2⟩

/-- A template that passes a check prints types with such bodies. -/
theorem exists_body {check : BodyCheck} (h : HasForm .ofTable check.lines check.passes)
    {project : Project} {table : Table} (hplain : HasPlainNames { project, table })
    (hcomment : check.commented →
      State.inString.run (Hole.fill { project, table } .comment) = (.inString, []))
    {role : Role} {id : TemplateId}
    (htemplate : shippedFor project.stack role = some (id, check.lines)) :
    ∃ content body, Renders project table role content ∧
      HasBody { project, table } body content ∧
      check.holds (Settings.at { project, table } check.choices) body := by
  obtain ⟨form, hform, hpasses⟩ := h
  have hsettings := List.all_eq_true.mp hpasses _
    (Settings.at_mem_all { project, table } check.choices)
  obtain ⟨body, hbody, hholds⟩ := (Option.any_eq_true _ _).mp hsettings
  obtain ⟨letters, hletters, hbody⟩ := Option.bind_eq_some_iff.mp hbody
  have htext : (textOf form { project, table }).toList =
      Letter.filled (Hole.fill { project, table }) letters := by
    rw [toList_textOf]
    exact charsOf_of_lettersOf? hletters
  refine ⟨_, body, renders_textOf htemplate hform table, ?_, hholds⟩
  exact hasBody_of_bodyTokens (bodyTokens_filled (obeys hplain hcomment) hbody htext)

end SchemaScaffold.Form

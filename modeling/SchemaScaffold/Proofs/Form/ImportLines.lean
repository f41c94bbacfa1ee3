import SchemaScaffold.Proofs.Form.Headers
import SchemaScaffold.Proofs.Form.Shipped
import SchemaScaffold.Proofs.Form.Types

namespace SchemaScaffold.Form

/-! ## Entities -/

def opensLine : List Piece → Bool
  | .plain ('\n' :: _) :: _ => true
  | .branch _ (.plain ('\n' :: _) :: _) [] :: rest => opensLine rest
  | _ => false

def opensWithImports : List Piece → Bool
  | .plain front :: .print (.data .packageName) :: .plain back
      :: .forImports [.plain lead, .print (.data .imported), .plain stop] :: rest =>
    front == "package ".toList && back == ".entity;\n".toList && lead == "\nimport ".toList
      && stop == ";".toList && opensLine rest
  | _ => false

theorem exists_text_of_opensLine {form : List Piece} (h : opensLine form) (focus : Focus) :
    ∃ rest, charsOf form focus = '\n' :: rest := by
  induction form with
  | nil => cases h
  | cons piece rest ih =>
      unfold opensLine at h
      split at h
      case h_1 chars others heq =>
        obtain ⟨rfl, rfl⟩ := List.cons.inj heq
        exact ⟨chars ++ charsOf rest focus, by simp [Piece.chars]⟩
      case h_2 condition chars others rest heq =>
        obtain ⟨rfl, rfl⟩ := List.cons.inj heq
        by_cases hholds : condition.holds focus
        · exact ⟨chars ++ charsOf others focus ++ charsOf rest focus, by
            simp [Piece.chars, hholds]⟩
        · obtain ⟨tail, htail⟩ := ih h
          exact ⟨tail, by simpa [Piece.chars, hholds] using htail⟩
      case h_3 => cases h

theorem isHeaderLine_importLine (path : String) : isHeaderLine (importLine path) := by
  have hstarts : "import ".toList <+: importLine path :=
    ⟨path.toList ++ ";".toList, by simp [importLine]⟩
  simp only [isHeaderLine, List.isPrefixOf_iff_prefix.mpr hstarts, Bool.or_true]

theorem not_mem_importLine {path : String} (h : '\n' ∉ path.toList) : '\n' ∉ importLine path := by
  simp [importLine, h]

theorem importLine_mem_headerLines {path : String} {paths : List String} (hpath : path ∈ paths)
    (hline : ∀ other ∈ paths, '\n' ∉ other.toList) (rest : List Char) :
    importLine path ∈
      headerLines (paths.flatMap (fun other => '\n' :: importLine other) ++ '\n' :: rest) := by
  induction paths with
  | nil => cases hpath
  | cons first others ih =>
      rw [List.forall_mem_cons] at hline
      obtain ⟨tail, htail⟩ : ∃ tail,
          others.flatMap (fun other => '\n' :: importLine other) ++ '\n' :: rest =
            '\n' :: tail := by
        cases others with
        | nil => exact ⟨rest, rfl⟩
        | cons second others => exact ⟨_, by rw [List.flatMap_cons, List.append_assoc]; rfl⟩
      rw [List.flatMap_cons, List.append_assoc, htail, List.cons_append, headerLines_newline,
        headerLines_line (not_mem_importLine hline.1), if_pos (isHeaderLine_importLine first)]
      rcases List.mem_cons.mp hpath with rfl | hmem
      · simp
      · have hothers := ih hmem hline.2
        rw [htail, headerLines_newline] at hothers
        have htail := (List.mem_cons.mp hothers).resolve_left (importLine_ne_nil path)
        exact List.mem_cons_of_mem _ (List.mem_cons_of_mem _ htail)

theorem flatMap_places {α : Type} {enter : α → Focus} {chars : Focus → List Char}
    {text : α → List Char} (count index : Nat)
    (hchars : ∀ item index, chars { enter item with index, count } = text item)
    (items : List α) : (places enter count index items).flatMap chars = items.flatMap text := by
  induction items generalizing index with
  | nil => rfl
  | cons item rest ih => rw [places, List.flatMap_cons, hchars, ih, List.flatMap_cons]

theorem imports_of_opensWithImports {form : List Piece} (h : opensWithImports form) {focus : Focus}
    (hline : focus.InLine) (himports : ∀ path ∈ focus.imports, '\n' ∉ path.toList) {path : String}
    (hpath : path ∈ focus.imports) : Imports (textOf form focus) path := by
  unfold opensWithImports at h
  split at h
  case h_2 => cases h
  case h_1 front back lead stop rest =>
    simp only [Bool.and_eq_true, beq_iff_eq] at h
    obtain ⟨⟨⟨⟨rfl, rfl⟩, rfl⟩, rfl⟩, hrest⟩ := h
    obtain ⟨tail, htail⟩ := exists_text_of_opensLine hrest focus
    have hbody : ∀ path index,
        charsOf [.plain "\nimport ".toList, .print (.data .imported), .plain ";".toList]
          { focus with imported := path, index, count := focus.imports.length } =
            '\n' :: importLine path := by
      intro path index
      simp [Piece.chars, Term.text, Term.value, Datum.value, Template.printedText, importLine]
    have hpackage : '\n' ∉ ("package " ++ focus.project.packageName ++ ".entity;").toList := by
      simp [hline.packageName]
    have hheader : isHeaderLine
        ("package " ++ focus.project.packageName ++ ".entity;").toList := by
      have hstarts : "package ".toList <+:
          ("package " ++ focus.project.packageName ++ ".entity;").toList :=
        ⟨focus.project.packageName.toList ++ ".entity;".toList, by simp⟩
      simp only [isHeaderLine, List.isPrefixOf_iff_prefix.mpr hstarts, Bool.or_true, Bool.true_or]
    have hchars : ∀ body : List Piece,
        charsOf (.plain "package ".toList :: .print (.data .packageName)
          :: .plain ".entity;\n".toList :: .forImports body :: rest) focus =
            ("package " ++ focus.project.packageName ++ ".entity;").toList ++
              '\n' :: (focus.atImports.flatMap (charsOf body) ++ '\n' :: tail) := by
      intro body
      simp [Piece.chars, Term.text, Term.value, Datum.value, Template.printedText, htail]
    rw [Imports, toList_textOf, hchars, headerLines_line hpackage, if_pos hheader, Focus.atImports,
      flatMap_places _ _ hbody]
    exact List.mem_cons_of_mem _ (importLine_mem_headerLines hpath himports tail)

/-! ## Shipped templates -/

inductive TypeUse where
  | ofColumns
  | ofKey
  | ofNothing
  deriving DecidableEq

/-- Which types the file of a role uses: the interface that extends `BaseMapper` names none. -/
def typeUse (stack : Stack) : Role → TypeUse
  | .entity => .ofColumns
  | .dataAccess => if stack.orm == .mybatisPlus then .ofNothing else .ofKey
  | _ => .ofKey

theorem typeUse_eq_ofColumns_iff {stack : Stack} {role : Role} :
    typeUse stack role = .ofColumns ↔ role = .entity := by
  cases role <;> cases horm : stack.orm <;> simp [typeUse, horm]

theorem typeUse_eq_ofNothing_iff {stack : Stack} {role : Role} :
    typeUse stack role = .ofNothing ↔ role = .dataAccess ∧ stack.orm = .mybatisPlus := by
  cases role <;> cases horm : stack.orm <;> simp [typeUse, horm]

def TypeUse.check : TypeUse → List Piece → Bool
  | ofColumns, form => allTypesWithin [] [.mappedType] form && opensWithImports form
  | ofKey, form =>
    allTypesWithin [.keyType] [] form && printsKeyType form
      && (JavaType.all.filterMap JavaType.importPath).all
        fun path => lacksHeaderLine (importLine path) form
  | ofNothing, form => allTypesWithin [] [] form

def typedTemplates : List (List String × TypeUse) := [
  (Template.Shipped.Mybatis.entity, .ofColumns),
  (Template.Shipped.MybatisPlus.entity, .ofColumns),
  (Template.Shipped.Jpa.entity, .ofColumns),
  (Template.Shipped.Mybatis.mapper, .ofKey),
  (Template.Shipped.MybatisPlus.mapper, .ofNothing),
  (Template.Shipped.Jpa.repository, .ofKey),
  (Template.Shipped.Common.service, .ofKey),
  (Template.Shipped.Mybatis.serviceImpl, .ofKey),
  (Template.Shipped.MybatisPlus.serviceImpl, .ofKey),
  (Template.Shipped.Jpa.serviceImpl, .ofKey),
  (Template.Shipped.Common.controller, .ofKey)]

def classRoles : List Role := [.entity, .dataAccess, .serviceInterface, .serviceImpl, .controller]

theorem exists_typedTemplate {role : Role} (hrole : role ∈ classRoles) (stack : Stack) :
    ∃ template, shippedFor stack role = some template ∧
      (template.2, typeUse stack role) ∈ typedTemplates := by
  simp only [classRoles, List.mem_cons, List.not_mem_nil, or_false] at hrole
  rcases hrole with rfl | rfl | rfl | rfl | rfl <;> cases horm : stack.orm <;>
    simp [shippedFor, typeUse, typedTemplates, horm]

end SchemaScaffold.Form

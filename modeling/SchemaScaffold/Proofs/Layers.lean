import SchemaScaffold.Proofs.Form.LayerTemplates
import SchemaScaffold.Proofs.PropertyNames

namespace SchemaScaffold

open Form Java

/-! ### What each layer declares and calls -/

def Project.isPaged (project : Project) : Bool := project.stack.has .pagination

theorem isPaged_at (project : Project) (table : Table) (choices : List Datum) :
    isPaged (Settings.at { project, table } (.flag .pagination :: choices)) = project.isPaged := by
  simp [isPaged, Settings.at, Datum.value, Template.truth, Project.isPaged]

theorem map_gapped (project : Project) (table : Table) :
    LayerWords.gapped.map (Word.text { project, table }) = LayerWords.ofTable table := by
  have hclass : Hole.fill { project, table } .className = table.className.toList := rfl
  have hkey : Hole.fill { project, table } .keyType = table.primaryKeyType.source.toList := rfl
  have hinstance : Hole.fill { project, table } .instanceName =
      (Naming.instanceName table.className).toList := rfl
  simp [LayerWords.map, LayerWords.gapped, LayerWords.ofTable, Word.text, Letter.chars, hclass,
    hkey, hinstance, String.append_assoc]

section

variable {project : Project} {table : Table} {content : String} {body : Tokens Word}

theorem map_signature (h : HasBody { project, table } body content) :
    (methods content).map (·.signature) =
      ((methodsIn body).map (·.signature)).map (Signature.map (Word.text { project, table })) := by
  rw [h.methods, List.map_map, List.map_map]
  rfl

theorem flatMap_calls (h : HasBody { project, table } body content) :
    (methods content).flatMap (·.calls) =
      ((methodsIn body).flatMap (·.calls)).map (Call.map (Word.text { project, table })) := by
  rw [h.methods, List.flatMap_map, List.map_flatMap]
  rfl

variable (hplain : HasPlainNames { project, table })
include hplain

theorem exists_service_methods : ∃ service, Renders project table .serviceInterface service ∧
    (methods service).map (·.signature) =
      (LayerWords.ofTable table).serviceMethods project.isPaged := by
  have htemplate : shippedFor project.stack .serviceInterface = some (_, serviceCheck.lines) := rfl
  obtain ⟨service, body, hservice, hbody, hholds⟩ := exists_body
    (hasForm_bodies serviceCheck (by simp [bodyChecks])) hplain (by simp [serviceCheck]) htemplate
  have hmethods := of_decide_eq_true hholds
  rw [serviceCheck, isPaged_at] at hmethods
  refine ⟨service, hservice, ?_⟩
  rw [map_signature hbody, hmethods, LayerWords.map_serviceMethods, map_gapped]

/-- The implementation of the service declares them too, all with an annotation, and calls the mapper
where there is one with statements of its own. -/
theorem exists_serviceImpl_methods : ∃ impl, Renders project table .serviceImpl impl ∧
    (methods impl).map (·.signature) =
      (LayerWords.ofTable table).serviceMethods project.isPaged ∧
    (∀ method ∈ methods impl, "Override" ∈ method.annotations) ∧
    (project.stack.orm = .mybatis →
      fields impl = [(LayerWords.ofTable table).mapperField] ∧
      (methods impl).flatMap (·.calls) =
        (LayerWords.ofTable table).mapperCalls project.isPaged) := by
  have hmem : serviceImplCheck project.stack.orm ∈ bodyChecks := by
    cases project.stack.orm <;> simp [bodyChecks]
  have htemplate : ∃ id, shippedFor project.stack .serviceImpl =
      some (id, (serviceImplCheck project.stack.orm).lines) := by
    cases horm : project.stack.orm
    all_goals exact ⟨_, by simp only [shippedFor, horm]; rfl⟩
  obtain ⟨id, htemplate⟩ := htemplate
  obtain ⟨impl, body, himpl, hbody, hholds⟩ := exists_body
    (hasForm_bodies _ hmem) hplain (by simp [serviceImplCheck]) htemplate
  simp only [serviceImplCheck, isPaged_at, Bool.and_eq_true, decide_eq_true_eq, List.all_eq_true,
    Bool.or_eq_true, Bool.not_eq_true', decide_eq_false_iff_not] at hholds
  obtain ⟨⟨hmethods, hoverride⟩, hmapper⟩ := hholds
  refine ⟨impl, himpl, ?_, ?_, ?_⟩
  · rw [map_signature hbody, hmethods, LayerWords.map_serviceMethods, map_gapped]
  · rw [hbody.methods, List.forall_mem_map]
    intro method hmethod
    have hplainWord := congrFun (congrArg LayerWords.plain (map_gapped project table)) "Override"
    have hannotation : LayerWords.gapped.plain "Override" ∈ method.annotations := by
      simpa using hoverride method hmethod
    exact List.mem_map.mpr ⟨_, hannotation, hplainWord⟩
  · intro horm
    obtain ⟨hfields, hcalls⟩ := hmapper.resolve_left (not_not.mpr horm)
    constructor
    · rw [hbody.fields, hfields, ← map_gapped project table]
      rfl
    · rw [flatMap_calls hbody, hcalls, LayerWords.map_mapperCalls, map_gapped]

/-- The controller of a table, whose comment stays in its string, calls the service and wraps what it
gets. -/
theorem exists_controller_calls
    (hcomment : State.inString.run (Hole.fill { project, table } .comment) = (.inString, [])) :
    ∃ controller, Renders project table .controller controller ∧
      fields controller = [(LayerWords.ofTable table).serviceField] ∧
      (methods controller).flatMap (·.calls) =
        (LayerWords.ofTable table).controllerCalls project.isPaged := by
  have htemplate : shippedFor project.stack .controller = some (_, controllerCheck.lines) := rfl
  obtain ⟨controller, body, hcontroller, hbody, hholds⟩ := exists_body
    (hasForm_bodies controllerCheck (by simp [bodyChecks])) hplain (fun _ => hcomment) htemplate
  simp only [controllerCheck, isPaged_at, Bool.and_eq_true, decide_eq_true_eq] at hholds
  obtain ⟨hfields, hcalls⟩ := hholds
  refine ⟨controller, hcontroller, ?_, ?_⟩
  · rw [hbody.fields, hfields, ← map_gapped project table]
    rfl
  · rw [flatMap_calls hbody, hcalls, LayerWords.map_controllerCalls, map_gapped]

theorem exists_mapper_methods (horm : project.stack.orm = .mybatis) :
    ∃ mapper, Renders project table .dataAccess mapper ∧
      (methods mapper).map (·.signature) =
        (LayerWords.ofTable table).mapperMethods project.isPaged := by
  have htemplate : shippedFor project.stack .dataAccess =
      some ("mybatis/Mapper.java.ftl", mapperCheck.lines) := by
    simp only [shippedFor, horm, mapperCheck]
  obtain ⟨mapper, body, hmapper, hbody, hholds⟩ := exists_body
    (hasForm_bodies mapperCheck (by simp [bodyChecks])) hplain (by simp [mapperCheck]) htemplate
  have hmethods := of_decide_eq_true hholds
  rw [mapperCheck, isPaged_at] at hmethods
  refine ⟨mapper, hmapper, ?_⟩
  rw [map_signature hbody, hmethods, LayerWords.map_mapperMethods, map_gapped]

theorem exists_mapper_elements (horm : project.stack.orm = .mybatis) :
    ∃ markup, Renders project table .dataAccessMarkup markup ∧
      Markup.elements markup = mapperElements project.isPaged := by
  have htemplate : shippedFor project.stack .dataAccessMarkup =
      some ("mybatis/Mapper.xml.ftl", Template.Shipped.Mybatis.mapperMarkup) := by
    simp only [shippedFor, horm]
  obtain ⟨form, hform, helements⟩ := hasForm_mapperMarkup
  have hsettings := List.all_eq_true.mp helements _
    (Settings.at_mem_all { project, table } [.flag .pagination])
  have hreads := reads_of_elementsOf? (fillsInertly hplain)
    (fun _ _ hplace => fillsInertly (hasPlainNames_atColumns hplain hplace))
    (of_decide_eq_true hsettings)
  refine ⟨_, renders_textOf htemplate hform table, ?_⟩
  have hfound := hreads.found
  rw [Markup.State.filled] at hfound
  rw [Markup.elements, toList_textOf, hfound, isPaged_at, List.map_map, List.map_map]
  refine (List.map_congr_left fun element _ => ?_).trans (List.map_id _)
  simp [Markup.Element.filled]

end

/-! ### What is called is declared -/

/-- A source declares a method that a call may be of. -/
def DeclaresCall (source : String) (call : Call String) : Prop :=
  ∃ method ∈ methods source, method.signature.name = call.name ∧
    method.signature.parameters.length = call.arity

/-- The one field of a source has this type, and whatever the source calls on it is declared by the
other source. -/
def CallsDeclared (source type declaring : String) : Prop :=
  ∃ field, fields source = [field] ∧ field.type = [.word type] ∧
    ∀ method ∈ methods source, ∀ call ∈ method.calls, call.receiver = field.name →
      DeclaresCall declaring call

namespace LayerWords

variable {α : Type} (words : LayerWords α) (paged : Bool)

theorem declared_of_mem_controllerCalls (hresult : words.plain "Result" ≠ words.serviceName) :
    ∀ call ∈ words.controllerCalls paged, call.receiver = words.serviceName →
      ∃ method ∈ words.serviceMethods paged, method.name = call.name ∧
        method.parameters.length = call.arity := by
  cases paged <;> simp [controllerCalls, serviceMethods, method, call, hresult]

theorem declared_of_mem_mapperCalls :
    ∀ call ∈ words.mapperCalls paged, ∃ method ∈ words.mapperMethods paged,
      method.name = call.name ∧ method.parameters.length = call.arity := by
  cases paged <;> simp [mapperCalls, mapperMethods, method, call]

end LayerWords

theorem callsDeclared_of_calls {source type declaring : String} {field : DeclaredField String}
    {calls : List (Call String)} {signatures : List (Signature String)}
    (hfields : fields source = [field]) (htype : field.type = [.word type])
    (hcalls : (methods source).flatMap (·.calls) = calls)
    (hmethods : (methods declaring).map (·.signature) = signatures)
    (hdeclared : ∀ call ∈ calls, call.receiver = field.name →
      ∃ method ∈ signatures, method.name = call.name ∧ method.parameters.length = call.arity) :
    CallsDeclared source type declaring := by
  refine ⟨field, hfields, htype, ?_⟩
  intro method hmethod call hcall hreceiver
  have hmem : call ∈ calls := hcalls ▸ List.mem_flatMap.mpr ⟨method, hmethod, hcall⟩
  obtain ⟨signature, hsignature, hname, harity⟩ := hdeclared call hmem hreceiver
  rw [← hmethods] at hsignature
  obtain ⟨declared, hdeclared, rfl⟩ := List.mem_map.mp hsignature
  exact ⟨declared, hdeclared, hname, harity⟩

/-! ### The layers fit together -/

/-- A text that does not end a string that it stands in. -/
def StaysInString (text : String) : Prop := State.inString.run text.toList = (.inString, [])

def statements (markup : String) : List String :=
  ((Markup.elements markup).filter fun element =>
    ["select", "insert", "update", "delete"].contains element.1).map (·.2)

theorem result_ne_append_service (name : String) : "Result" ≠ name ++ "Service" := by
  refine ne_of_apply_ne String.length (ne_of_lt ?_)
  rw [String.length_append]
  exact Nat.lt_of_lt_of_le (by decide : "Result".length < "Service".length) (Nat.le_add_left _ _)

/-- A table that is made of columns with plain names has plain names, whatever its comment. -/
theorem hasPlainNames_of_make {project : Project}
    (hpackage : Validation.packageName project.packageName = .ok ()) {rawName : String}
    {comment : Option String} {columns : List Column} {table : Table}
    (hbuilt : ∀ column ∈ columns, column.IsBuilt)
    (htable : Table.make rawName comment columns = .ok table) (hname : IsIdentifier table.name)
    (hcolumns : ∀ column ∈ columns, IsIdentifier column.name) (text : String) :
    HasPlainNames { project, table := { table with comment := text } } := by
  obtain ⟨hne, rfl⟩ := (Table.make_eq_ok_iff _ _ _ _).mp htable
  refine ⟨hpackage, hname, ⟨rawName, Table.of_className rawName comment columns⟩, ?_, ?_⟩
  · rwa [Table.of_className]
  · rw [Table.of_columns, List.forall_mem_cons]
    refine ⟨⟨rfl, rfl⟩, ?_⟩
    intro column hcolumn
    exact namesPlainly_of_isBuilt (hcolumns column hcolumn)
      (hbuilt column hcolumn).propertyName_eq.1

theorem run_comment {project : Project} {table : Table} (hplain : HasPlainNames { project, table })
    (hcomment : StaysInString table.comment) :
    State.inString.run (Hole.fill { project, table } .comment) = (.inString, []) := by
  have hname : Hole.className ≠ .comment := by decide
  have hclass := all_isGapChar_fill hplain hname
  rw [Hole.fill, Hole.term, Term.text_choice]
  split
  · exact hcomment
  · exact Harmless.run_inString_ordinary (all_isOrdinary hclass)

/-- The layers of a table whose names are identifiers fit together. The service declares exactly what
its implementation overrides, and what the controller calls on it, whatever comment stands in a string
of the controller. A mapper with statements of its own declares what the implementation calls, and has
one statement for each of its methods. -/
theorem layers_fit_together {project : Project}
    (hpackage : Validation.packageName project.packageName = .ok ()) {rawName : String}
    {comment : Option String} {columns : List Column} {table : Table}
    (hbuilt : ∀ column ∈ columns, column.IsBuilt)
    (htable : Table.make rawName comment columns = .ok table) (hname : IsIdentifier table.name)
    (hcolumns : ∀ column ∈ columns, IsIdentifier column.name) :
    ∃ service impl, Renders project table .serviceInterface service ∧
      Renders project table .serviceImpl impl ∧
      (methods service).map (·.signature) =
        (LayerWords.ofTable table).serviceMethods project.isPaged ∧
      ((methods impl).filter (·.annotations.contains "Override")).map (·.signature) =
        (methods service).map (·.signature) ∧
      (∀ text, StaysInString text → ∃ controller,
        Renders project { table with comment := text } .controller controller ∧
          CallsDeclared controller ("I" ++ table.className ++ "Service") service) ∧
      (project.stack.orm = .mybatis → ∃ mapper markup,
        Renders project table .dataAccess mapper ∧
          Renders project table .dataAccessMarkup markup ∧
          (methods mapper).map (·.signature) =
            (LayerWords.ofTable table).mapperMethods project.isPaged ∧
          CallsDeclared impl (table.className ++ "Mapper") mapper ∧
          statements markup = (methods mapper).map (·.signature.name) ∧
          ((Markup.elements markup).map (·.2)).Nodup) := by
  have hplain : ∀ text, HasPlainNames { project, table := { table with comment := text } } := by
    intro text
    exact hasPlainNames_of_make hpackage hbuilt htable hname hcolumns text
  obtain ⟨service, hservice, hdeclared⟩ := exists_service_methods (hplain table.comment)
  obtain ⟨impl, himpl, hsame, hoverride, hmapper⟩ :=
    exists_serviceImpl_methods (hplain table.comment)
  refine ⟨service, impl, hservice, himpl, hdeclared, ?_, ?_, ?_⟩
  · have hall : (methods impl).filter (·.annotations.contains "Override") = methods impl := by
      rw [List.filter_eq_self]
      intro method hmethod
      simpa using hoverride method hmethod
    rw [hall, hsame, hdeclared]
  · intro text hstays
    obtain ⟨controller, hcontroller, hfields, hcalls⟩ :=
      exists_controller_calls (hplain text) (run_comment (hplain text) hstays)
    refine ⟨controller, hcontroller, ?_⟩
    refine callsDeclared_of_calls hfields rfl hcalls hdeclared ?_
    exact LayerWords.declared_of_mem_controllerCalls _ _ (result_ne_append_service _)
  · intro horm
    obtain ⟨hfields, hcalls⟩ := hmapper horm
    obtain ⟨mapper, hrendered, hmethods⟩ := exists_mapper_methods (hplain table.comment) horm
    obtain ⟨markup, hmarkup, helements⟩ := exists_mapper_elements (hplain table.comment) horm
    refine ⟨mapper, markup, hrendered, hmarkup, hmethods, ?_, ?_, ?_⟩
    · refine callsDeclared_of_calls hfields rfl hcalls hmethods fun call hcall _ => ?_
      exact LayerWords.declared_of_mem_mapperCalls _ _ call hcall
    · rw [statements, helements]
      have hnames := congrArg (List.map (·.name)) hmethods
      rw [List.map_map] at hnames
      refine Eq.trans ?_ hnames.symm
      cases project.isPaged <;> simp [mapperElements, LayerWords.mapperMethods, LayerWords.method,
        LayerWords.ofTable]
    · rw [helements]
      cases project.isPaged <;> decide

theorem layers_fit_together_users :
    let columns := textColumns ["id", "name"]
    let users := Table.of "users" none columns
    Validation.packageName shop.packageName = .ok () ∧ (∀ column ∈ columns, column.IsBuilt) ∧
      Table.make "users" none columns = .ok users ∧ IsIdentifier users.name ∧
      (∀ column ∈ columns, IsIdentifier column.name) ∧
      ∃ service impl mapper markup, Renders shop users .serviceInterface service ∧
        Renders shop users .serviceImpl impl ∧ Renders shop users .dataAccess mapper ∧
        Renders shop users .dataAccessMarkup markup ∧
        (methods service).map (·.signature.name) =
          ["getById", "list", "create", "update", "delete"] ∧
        ((methods impl).filter (·.annotations.contains "Override")).map (·.signature) =
          (methods service).map (·.signature) ∧
        CallsDeclared impl "UsersMapper" mapper ∧
        statements markup = ["selectById", "selectAll", "insert", "updateById", "deleteById"] := by
  intro columns users
  have hbuilt : ∀ column ∈ columns, column.IsBuilt := isBuilt_textColumns (by decide)
  have htable : Table.make "users" none columns = .ok users :=
    (Table.make_eq_ok_iff _ _ _ _).mpr ⟨by decide, rfl⟩
  have hname : IsIdentifier users.name := by decide
  have hcolumns : ∀ column ∈ columns, IsIdentifier column.name := by decide
  have hclass : users.className = "Users" := by decide
  obtain ⟨service, impl, hservice, himpl, hmethods, hoverride, -, hmapper⟩ :=
    layers_fit_together packageName_shop hbuilt htable hname hcolumns
  obtain ⟨mapper, markup, hrendered, hmarkup, hdeclared, hcalls, hstatements, -⟩ := hmapper rfl
  rw [hclass] at hcalls
  refine ⟨packageName_shop, hbuilt, htable, hname, hcolumns, service, impl, mapper, markup, hservice,
    himpl, hrendered, hmarkup, ?_, hoverride, hcalls, ?_⟩
  · have hnames := congrArg (List.map (·.name)) hmethods
    rw [List.map_map] at hnames
    exact hnames
  · have hnames := congrArg (List.map (·.name)) hdeclared
    rw [List.map_map] at hnames
    exact hstatements.trans hnames

end SchemaScaffold

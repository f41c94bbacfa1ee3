import SchemaScaffold.Proofs.Form.Bodies

namespace SchemaScaffold

open Form Java

/-! ### Methods and calls -/

structure LayerWords (α : Type) where
  plain : String → α
  entity : α
  key : α
  service : α
  serviceName : α
  mapper : α
  mapperName : α

namespace LayerWords

variable {α β : Type} (words : LayerWords α) (paged : Bool)

def map (f : α → β) : LayerWords β where
  plain s := f (words.plain s)
  entity := f words.entity
  key := f words.key
  service := f words.service
  serviceName := f words.serviceName
  mapper := f words.mapper
  mapperName := f words.mapperName

def rows : Tokens α := [.word (words.plain "List"), .mark '<', .word words.entity, .mark '>']

def method (result : Tokens α) (name : String) (parameters : List (Tokens α)) : Signature α where
  result := result
  name := words.plain name
  parameters := parameters

def call (receiver : α) (name : String) (arity : Nat) : Call α where
  receiver := receiver
  name := words.plain name
  arity := arity

def serviceMethods : List (Signature α) :=
  let long := [.word (words.plain "long")]
  let boolean := [.word (words.plain "boolean")]
  [words.method [.word words.entity] "getById" [[.word words.key]],
    words.method words.rows "list" []]
  ++ (if paged then [words.method words.rows "page" [long, long], words.method long "count" []]
      else [])
  ++ [words.method [.word words.entity] "create" [[.word words.entity]],
    words.method boolean "update" [[.word words.entity]],
    words.method boolean "delete" [[.word words.key]]]

def mapperMethods : List (Signature α) :=
  let long := [.word (words.plain "long")]
  let int := [.word (words.plain "int")]
  [words.method [.word words.entity] "selectById" [[.word words.key]],
    words.method words.rows "selectAll" []]
  ++ (if paged then [words.method words.rows "selectPage" [long, long], words.method long "count" []]
      else [])
  ++ [words.method int "insert" [[.word words.entity]],
    words.method int "updateById" [[.word words.entity]],
    words.method int "deleteById" [[.word words.key]]]

def serviceField : DeclaredField α where
  type := [.word words.service]
  name := words.serviceName

def mapperField : DeclaredField α where
  type := [.word words.mapper]
  name := words.mapperName

def controllerCalls : List (Call α) :=
  let success := words.call (words.plain "Result") "success" 1
  let onService := words.call words.serviceName
  [onService "getById" 1, words.call (words.plain "Result") "failed" 1, success, success]
  ++ (if paged then [onService "page" 2] else [onService "list" 0])
  ++ [success, onService "create" 1, success, onService "update" 1, success, onService "delete" 1]

def mapperCalls : List (Call α) :=
  let onMapper := words.call words.mapperName
  [onMapper "selectById" 1, onMapper "selectAll" 0]
  ++ (if paged then [onMapper "selectPage" 2, onMapper "count" 0] else [])
  ++ [onMapper "insert" 1, onMapper "updateById" 1, onMapper "deleteById" 1]

theorem map_serviceMethods (f : α → β) :
    (words.serviceMethods paged).map (Signature.map f) = (words.map f).serviceMethods paged := by
  cases paged <;> rfl

theorem map_mapperMethods (f : α → β) :
    (words.mapperMethods paged).map (Signature.map f) = (words.map f).mapperMethods paged := by
  cases paged <;> rfl

theorem map_controllerCalls (f : α → β) :
    (words.controllerCalls paged).map (Call.map f) = (words.map f).controllerCalls paged := by
  cases paged <;> rfl

theorem map_mapperCalls (f : α → β) :
    (words.mapperCalls paged).map (Call.map f) = (words.map f).mapperCalls paged := by
  cases paged <;> rfl

def gapped : LayerWords Word where
  plain s := Letter.ofChars s.toList
  entity := [.gap .className]
  key := [.gap .keyType]
  service := .char 'I' :: .gap .className :: Letter.ofChars "Service".toList
  serviceName := .gap .instanceName :: Letter.ofChars "Service".toList
  mapper := .gap .className :: Letter.ofChars "Mapper".toList
  mapperName := .gap .instanceName :: Letter.ofChars "Mapper".toList

def ofTable (table : Table) : LayerWords String where
  plain s := s
  entity := table.className
  key := table.primaryKeyType.source
  service := "I" ++ table.className ++ "Service"
  serviceName := Naming.instanceName table.className ++ "Service"
  mapper := table.className ++ "Mapper"
  mapperName := Naming.instanceName table.className ++ "Mapper"

end LayerWords

/-! ### The templates -/

namespace Form

open LayerWords

def isPaged (settings : Settings) : Bool := settings.lookup (.flag .pagination) == some true

def serviceCheck : BodyCheck where
  lines := Template.Shipped.Common.service
  choices := [.flag .pagination]
  holds settings body :=
    (methodsIn body).map (·.signature) = gapped.serviceMethods (isPaged settings)

def serviceImplLines : Orm → List String
  | .mybatis => Template.Shipped.Mybatis.serviceImpl
  | .mybatisPlus => Template.Shipped.MybatisPlus.serviceImpl
  | .jpa => Template.Shipped.Jpa.serviceImpl

def serviceImplCheck (orm : Orm) : BodyCheck where
  lines := serviceImplLines orm
  choices := [.flag .pagination, .flag .cache]
  holds settings body :=
    (methodsIn body).map (·.signature) = gapped.serviceMethods (isPaged settings) &&
      (methodsIn body).all (·.annotations.contains (gapped.plain "Override")) &&
      (!orm = .mybatis || fieldsIn body = [gapped.mapperField] &&
        (methodsIn body).flatMap (·.calls) = gapped.mapperCalls (isPaged settings))

def controllerCheck : BodyCheck where
  lines := Template.Shipped.Common.controller
  choices := [.flag .pagination, .flag .validation, .flag .apiDocs]
  commented := true
  holds settings body :=
    fieldsIn body = [gapped.serviceField] &&
      (methodsIn body).flatMap (·.calls) = gapped.controllerCalls (isPaged settings)

def mapperCheck : BodyCheck where
  lines := Template.Shipped.Mybatis.mapper
  choices := [.flag .pagination]
  holds settings body :=
    (methodsIn body).map (·.signature) = gapped.mapperMethods (isPaged settings)

def bodyChecks : List BodyCheck :=
  [serviceCheck, serviceImplCheck .mybatis, serviceImplCheck .mybatisPlus, serviceImplCheck .jpa,
    controllerCheck, mapperCheck]

/-- The checks are evaluated together since they have much in common. -/
theorem hasForm_bodiesByModes :
    ∀ check ∈ bodyChecks, HasForm .ofTable check.lines check.passesByModes := by
  apply hasForm_of_spelled
  · simp only [bodyChecks, serviceCheck, serviceImplCheck, serviceImplLines, controllerCheck,
      mapperCheck, Template.Shipped.Common.service, Template.Shipped.Common.controller,
      Template.Shipped.Mybatis.mapper, Template.Shipped.Mybatis.serviceImpl,
      Template.Shipped.MybatisPlus.serviceImpl, Template.Shipped.Jpa.serviceImpl]
    repeat first | exact .nil | exact .last _ | apply Spelled.line | apply List.Forall₂.cons
  · decide +kernel

theorem hasForm_bodies : ∀ check ∈ bodyChecks, HasForm .ofTable check.lines check.passes :=
  fun check hmem => (hasForm_bodiesByModes check hmem).weaken fun _ => BodyCheck.passes_of_modes

def mapperElements (paged : Bool) : List (String × String) :=
  [("resultMap", "BaseResultMap"), ("sql", "Base_Column_List"), ("select", "selectById"),
    ("select", "selectAll")]
  ++ (if paged then [("select", "selectPage"), ("select", "count")] else [])
  ++ [("insert", "insert"), ("update", "updateById"), ("delete", "deleteById")]

def hasMapperElements (form : List Piece) : Bool :=
  (Settings.all [.flag .pagination]).all fun settings =>
    elementsOf? settings .text form = some (.text, (mapperElements (isPaged settings)).map
      fun (name, id) => { name := name.toList, id := Letter.ofChars id.toList })

theorem hasForm_mapperMarkup :
    HasForm .ofTable Template.Shipped.Mybatis.mapperMarkup hasMapperElements := by
  apply Spelled.hasForm
  · simp only [Template.Shipped.Mybatis.mapperMarkup]
    repeat first | exact .last _ | apply Spelled.line
  · decide +kernel

end Form

end SchemaScaffold

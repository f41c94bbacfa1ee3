import SchemaScaffold.Disk
import SchemaScaffold.Selector
import SchemaScaffold.Template.Parser
import SchemaScaffold.Template.Render

namespace SchemaScaffold

abbrev Renderer := Value → TemplateId → Result String

namespace Renderer

def renderText (source : String) (model : Value) : Except RenderFault String :=
  match Template.parse? source.toList with
  | some parts => Template.render parts model
  | none => .error .malformed

def ofTexts (text : TemplateId → Except RenderFault String) : Renderer := fun model id =>
  match text id >>= fun source => renderText source model with
  | .ok content => .ok content
  | .error fault => .error (.render id fault)

def isSafeName (id : TemplateId) : Bool :=
  (Text.fieldsOf '/' id).all fun name => !name.startsWith "." && !name.contains '\\'

def textIn (disk : Disk) (start : AbsPath) (dir : Path) (id : TemplateId) :
    Except RenderFault String :=
  if !isSafeName id then .error .noTemplate
  else
    match disk.readText start (((Text.fieldsOf '/' id).map Path.mk).foldl Path.join dir) with
    | .ok text => .ok text
    | .error .notFound => .error .noTemplate
    | .error _ => .error .unreadable

/-- The renderer whose templates stand in a directory. -/
def ofDirectory (disk : Disk) (start : AbsPath) (dir : Path) : Result Renderer :=
  if disk.isDirectory start dir then .ok (ofTexts (textIn disk start dir))
  else .error (.config (.noTemplates dir.text))

end Renderer

end SchemaScaffold

import SchemaScaffold.Text.CodeRanges
import SchemaScaffold.Text.Blank
import SchemaScaffold.Text.Alphabetic
import SchemaScaffold.Text.Alphanumeric
import SchemaScaffold.Text.LetterCase
import SchemaScaffold.Text.CaseIgnorable
import SchemaScaffold.Text.CaseMap
import SchemaScaffold.Naming
import SchemaScaffold.JavaType
import SchemaScaffold.Dialect
import SchemaScaffold.Sql.Token
import SchemaScaffold.Sql.Literal
import SchemaScaffold.Sql.Lexer
import SchemaScaffold.Script.Quoted
import SchemaScaffold.Script.Statements
import SchemaScaffold.Script.TableOptions
import SchemaScaffold.Sql.Parser
import SchemaScaffold.Sql.Name
import SchemaScaffold.Sql.DataType
import SchemaScaffold.Sql.Value
import SchemaScaffold.Sql.Expr
import SchemaScaffold.Sql.Query
import SchemaScaffold.Sql.CreateTable
import SchemaScaffold.Sql.Manipulation
import SchemaScaffold.Sql.Statement
import SchemaScaffold.Limits
import SchemaScaffold.Stack
import SchemaScaffold.Role
import SchemaScaffold.Error
import SchemaScaffold.Column
import SchemaScaffold.Table
import SchemaScaffold.Schema
import SchemaScaffold.Value
import SchemaScaffold.Value.Json
import SchemaScaffold.Report
import SchemaScaffold.Text.Fields
import SchemaScaffold.Text.Digits
import SchemaScaffold.Path
import SchemaScaffold.Validation
import SchemaScaffold.Project
import SchemaScaffold.Selector
import SchemaScaffold.Plan
import SchemaScaffold.Model
import SchemaScaffold.Config.Datum
import SchemaScaffold.Config.StackData
import SchemaScaffold.Output.FileName
import SchemaScaffold.Output.Layout
import SchemaScaffold.Output.Guard
import SchemaScaffold.FileMap
import SchemaScaffold.Output.Placement
import SchemaScaffold.Template.Token
import SchemaScaffold.Template.Part
import SchemaScaffold.Template.Parser
import SchemaScaffold.Template.Render
import SchemaScaffold.Template.Shipped.Common
import SchemaScaffold.Template.Shipped.Build
import SchemaScaffold.Template.Shipped.Mybatis
import SchemaScaffold.Template.Shipped.MybatisPlus
import SchemaScaffold.Template.Shipped.Jpa
import SchemaScaffold.Template.Shipped
import SchemaScaffold.Disk
import SchemaScaffold.Disk.Filing
import SchemaScaffold.Output.Write
import SchemaScaffold.Output.Archive
import SchemaScaffold.Renderer
import SchemaScaffold.Generate
import SchemaScaffold.Config.Toml.Scalar
import SchemaScaffold.Config.Toml.Text
import SchemaScaffold.Config.Toml
import SchemaScaffold.Config.Settings
import SchemaScaffold.Config.Sources
import SchemaScaffold.Run
import SchemaScaffold.Output.Zip
import SchemaScaffold.Command.Line
import SchemaScaffold.Command.Report
import SchemaScaffold.Command.Execution
import SchemaScaffold.Main
import SchemaScaffold.Proofs.Traversal
import SchemaScaffold.Proofs.Entries
import SchemaScaffold.Proofs.Names
import SchemaScaffold.Proofs.Tables
import SchemaScaffold.Proofs.SchemaReading
import SchemaScaffold.Proofs.Paths
import SchemaScaffold.Proofs.Plans
import SchemaScaffold.Proofs.PlanOutcomes
import SchemaScaffold.Proofs.Layout
import SchemaScaffold.Proofs.PackageNames
import SchemaScaffold.Proofs.Generation
import SchemaScaffold.Proofs.Form.Basic
import SchemaScaffold.Proofs.Form.Compile
import SchemaScaffold.Proofs.Form.Sound
import SchemaScaffold.Proofs.Form.Shipped
import SchemaScaffold.Proofs.Form.PackageLines
import SchemaScaffold.Proofs.RolePlaces
import SchemaScaffold.Proofs.Form.Types
import SchemaScaffold.Proofs.Form.Headers
import SchemaScaffold.Proofs.Form.ImportLines
import SchemaScaffold.Proofs.TypeImports
import SchemaScaffold.Proofs.Java.Reading
import SchemaScaffold.Proofs.Form.Comments
import SchemaScaffold.Proofs.Form.CommentFlow
import SchemaScaffold.Proofs.Form.CommentMarks
import SchemaScaffold.Proofs.CommentsInCode
import SchemaScaffold.Proofs.DiskChanges
import SchemaScaffold.Proofs.SafeNames
import SchemaScaffold.Proofs.Confinement
import SchemaScaffold.Proofs.Placements
import SchemaScaffold.Proofs.DiskPlaces
import SchemaScaffold.Proofs.DiskGrowth
import SchemaScaffold.Proofs.Descendants
import SchemaScaffold.Proofs.WrittenFiles
import SchemaScaffold.Proofs.TidyDisks
import SchemaScaffold.Proofs.ProjectDirectories
import SchemaScaffold.Proofs.Archives
import SchemaScaffold.Proofs.PlanReports
import SchemaScaffold.Proofs.Balanced
import SchemaScaffold.Proofs.CommentClauses
import SchemaScaffold.Proofs.Pieces
import SchemaScaffold.Proofs.TableComments
import SchemaScaffold.Proofs.ClosedTexts
import SchemaScaffold.Proofs.ScriptOrder
import SchemaScaffold.Proofs.TemplateDirectory
import SchemaScaffold.Proofs.Form.Openings
import SchemaScaffold.Proofs.Form.ImportedNames
import SchemaScaffold.Proofs.Form.TableTemplates
import SchemaScaffold.Proofs.NameClashes
import SchemaScaffold.Proofs.CamelCase
import SchemaScaffold.Proofs.InstanceNames
import SchemaScaffold.Proofs.PrintableNames
import SchemaScaffold.Proofs.PlannedPaths
import SchemaScaffold.Proofs.ColumnWords
import SchemaScaffold.Proofs.Form.Members
import SchemaScaffold.Proofs.PropertyNames
import SchemaScaffold.Proofs.CommentReplay
import SchemaScaffold.Proofs.GappedTexts
import SchemaScaffold.Proofs.Java.Tokens
import SchemaScaffold.Proofs.Java.Methods
import SchemaScaffold.Proofs.Form.Holes
import SchemaScaffold.Proofs.Markup
import SchemaScaffold.Proofs.Form.Elements
import SchemaScaffold.Proofs.Form.HoleNames
import SchemaScaffold.Proofs.Form.Bodies
import SchemaScaffold.Proofs.Form.LayerTemplates
import SchemaScaffold.Proofs.Layers
import SchemaScaffold.Proofs.ScriptCuts
import SchemaScaffold.Proofs.ScriptSeams
import SchemaScaffold.Proofs.DialectFallback
import SchemaScaffold.Proofs.Config.DataTrees
import SchemaScaffold.Proofs.Config.SettingReading
import SchemaScaffold.Proofs.Config.SourcePriority
import SchemaScaffold.Proofs.GuardedPaths
import SchemaScaffold.Proofs.SanitizedNames
import SchemaScaffold.Proofs.AddedRules
import SchemaScaffold.Proofs.LowerCase
import SchemaScaffold.Proofs.ColumnDrafts
import SchemaScaffold.Proofs.JavaNames
import SchemaScaffold.Proofs.Form.WrittenForms
import SchemaScaffold.Proofs.MapperMarkup
import SchemaScaffold.Proofs.EntityBlocks
import SchemaScaffold.Proofs.AccessorMethods
import SchemaScaffold.Proofs.FirstWords
import SchemaScaffold.Proofs.PrimaryKeys
import SchemaScaffold.Proofs.ValidationImports
import SchemaScaffold.Proofs.TypeArguments
import SchemaScaffold.Proofs.CommentLiterals
import SchemaScaffold.Proofs.LiteralComments
import SchemaScaffold.Proofs.StatedComments
import SchemaScaffold.Proofs.DeclaredColumns
import SchemaScaffold.Proofs.ListedValues
import SchemaScaffold.Proofs.NameOrder
import SchemaScaffold.Proofs.SortedTrees
import SchemaScaffold.Proofs.PackedTrees
import SchemaScaffold.Proofs.BracketDepths
import SchemaScaffold.Proofs.CheckedNames
import SchemaScaffold.Proofs.FrameworkVersions

import SchemaScaffold.Value

/-!
# Templates

A template is a list of parts: plain text, printed expressions, and parts that choose, repeat or
name something. A macro is a named list of parts with parameters; every call carries the parts of
the macro, so that a template contains all that it runs.
-/

namespace SchemaScaffold.Template

mutual

inductive Expr where
  | constant (value : Value)
  | variable (name : String)
  | field (record : Expr) (key : String)
  /-- The item of a list or text at a position, or the field of a record. -/
  | item (whole key : Expr)
  /-- The item of a list or text at a position counted from the end, the last one being at 1. -/
  | itemFromEnd (whole : Expr) (position : Nat)
  | slice (whole : Expr) (start : Nat) (stop : Option Nat)
  | upper (text : Expr)
  | lower (text : Expr)
  | replace (text pattern replacement : Expr)
  | equal (left right : Expr)
  | negation (condition : Expr)
  | both (left right : Expr)
  | either (left right : Expr)
  | choice (condition yes : Expr) (no : Option Expr)
  | call (macroName : String) (parameters : List String) (body : List Part)
      (arguments : List Expr)

/-- A part of a template. Lines are those in which expressions start. -/
inductive Part where
  | plain (chars : List Char)
  | print (line : Nat) (expr : Expr)
  | branch (line : Nat) (condition : Expr) (yes no : List Part)
  | each (line : Nat) (name : String) (items : Expr) (condition : Option Expr)
      (body : List Part)
  | assign (line : Nat) (name : String) (expr : Expr)
  /-- Makes a macro known. It sees the variables that have values by now. -/
  | define (macroName : String)

end

instance : Inhabited Expr := ⟨.constant .null⟩

instance : Inhabited Part := ⟨.plain []⟩

end SchemaScaffold.Template

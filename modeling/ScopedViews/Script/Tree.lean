/-!
# Script trees

The tree of a script module.  Every node keeps the byte range of the text it was read from;
trees made by lowering keep the range of the node they replace.
-/

namespace ScopedViews.Script

/-- A range of bytes of the source text. -/
structure Span where
  start : Nat
  stop : Nat
deriving Repr, DecidableEq, Inhabited

/-- An identifier and where it stands. -/
structure Name where
  span : Span
  text : String
deriving Repr, DecidableEq, Inhabited

inductive UnaryOp where
  | minus | plus | not | bitNot | typeof | void | delete
deriving Repr, DecidableEq

inductive UpdateOp where
  | increment | decrement
deriving Repr, DecidableEq

inductive BinaryOp where
  | equal | notEqual | identical | notIdentical
  | less | lessEqual | greater | greaterEqual
  | shiftLeft | shiftRight | shiftRightUnsigned
  | add | subtract | multiply | divide | remainder | power
  | bitAnd | bitOr | bitXor
  | isIn | instanceOf
deriving Repr, DecidableEq

inductive LogicalOp where
  | or | and | coalesce
deriving Repr, DecidableEq

/-- `=`, an operator followed by `=`, or a logical operator followed by `=`. -/
inductive AssignOp where
  | plain
  | combined (op : BinaryOp)
  | logical (op : LogicalOp)
deriving Repr, DecidableEq

inductive DeclKind where
  | varDecl | letDecl | constDecl | usingDecl | awaitUsingDecl
deriving Repr, DecidableEq

/-- Whether a declaration disposes of its values at the end of its block. -/
def DeclKind.disposes : DeclKind → Bool
  | .usingDecl | .awaitUsingDecl => true
  | _ => false

/-- Where a function was written. -/
inductive FunctionForm where
  | declaration | expression | method | arrow
deriving Repr, DecidableEq

inductive MethodKind where
  | method | getter | setter | constructor
deriving Repr, DecidableEq

/-- One piece of fixed text of a template: as written, and with its escapes resolved when they are
all valid. -/
structure Quasi where
  span : Span
  raw : String
  cooked : Option String
deriving Repr, DecidableEq, Inhabited

/-- A string statement in front of a body. -/
structure Directive where
  span : Span
  raw : String
  value : String
deriving Repr, DecidableEq, Inhabited

/-- The name by which a module member is imported or exported. -/
inductive ModuleName where
  | name (n : Name)
  | string (span : Span) (value : String)
deriving Repr, DecidableEq

def ModuleName.text : ModuleName → String
  | .name n => n.text
  | .string _ value => value

/-- One binding of an import declaration. -/
inductive ImportBinding where
  | default (n : Name)
  | all (span : Span) (n : Name)
  | named (span : Span) (imported : ModuleName) (binding : Name)
deriving Repr, DecidableEq

/-- `inner as outer` in an export list. -/
structure ExportSpecifier where
  span : Span
  inner : ModuleName
  outer : ModuleName
deriving Repr, DecidableEq

/-- A key of an import attribute and its value. -/
structure Attribute where
  span : Span
  key : ModuleName
  value : String
deriving Repr, DecidableEq

/-- What is asked of a module, behind `with` or the older `assert`. -/
structure AttributeClause where
  keyword : String
  entries : List Attribute
deriving Repr, DecidableEq

/-- The string a module is read from, and what is asked of it. -/
structure ModuleSource where
  span : Span
  value : String
  attributes : Option AttributeClause
deriving Repr, DecidableEq

/-- What typed dialects say of a member; scripts may say it too, without effect. -/
structure Modifiers where
  isDeclared : Bool := false
  /-- `public`, `private` or `protected`. -/
  access : Option String := none
  isAbstract : Bool := false
  isOverride : Bool := false
  isReadOnly : Bool := false
  /-- A question or an exclamation mark behind the key. -/
  mark : Option Char := none
deriving Repr, DecidableEq

/-- What typed dialects say of a class. -/
structure ClassNotes where
  isAbstract : Bool := false
  /-- The interfaces behind `implements`. -/
  interfaces : List String := []
deriving Repr, DecidableEq

mutual

/-- Expressions.  `spread` and `hole` stand only in array literals and argument lists; `privateName`
only as a key, after a dot and in front of `in`.  A `pure` call has no effect, so that it can be
left out where its value is not used.  What is `decorated` is a class. -/
inductive Expr where
  | null (span : Span)
  | boolean (span : Span) (value : Bool)
  | number (span : Span) (value : Float) (raw : String)
  | string (span : Span) (value : String)
  | bigint (span : Span) (raw : String)
  | regex (span : Span) (pattern flags : String)
  | template (span : Span) (quasis : List Quasi) (parts : List Expr)
  | tagged (span : Span) (tag : Expr) (quasis : List Quasi) (parts : List Expr)
  | name (span : Span) (text : String)
  | privateName (span : Span) (text : String)
  | thisRef (span : Span)
  | superRef (span : Span)
  | paren (span : Span) (inner : Expr)
  | sequence (span : Span) (items : List Expr)
  | function (f : Function)
  | classLike (span : Span) (name : Option Name) (parent : Option Expr) (members : List Member)
  | decorated (span : Span) (decorators : List Expr) (notes : ClassNotes) (inner : Expr)
  | array (span : Span) (elements : List Expr)
  | object (span : Span) (members : List Member)
  | spread (span : Span) (value : Expr)
  | hole (span : Span)
  | member (span : Span) (object : Expr) (name : Name) (optional : Bool)
  | index (span : Span) (object key : Expr) (optional : Bool)
  | privateMember (span : Span) (object : Expr) (name : Name) (optional : Bool)
  | call (span : Span) (callee : Expr) (arguments : List Expr) (optional : Bool)
  | construct (span : Span) (callee : Expr) (arguments : List Expr)
  | pure (span : Span) (call : Expr)
  | chain (span : Span) (inner : Expr)
  | unary (span : Span) (op : UnaryOp) (operand : Expr)
  | update (span : Span) (op : UpdateOp) (before : Bool) (target : Pattern)
  | binary (span : Span) (op : BinaryOp) (left right : Expr)
  | logical (span : Span) (op : LogicalOp) (left right : Expr)
  | assign (span : Span) (op : AssignOp) (target : Pattern) (value : Expr)
  | conditional (span : Span) (test yes no : Expr)
  | await (span : Span) (operand : Expr)
  | yield (span : Span) (delegate : Bool) (operand : Option Expr)
  | metaProperty (span : Span) (object property : String)
  | importCall (span : Span) (phase : String) (source : Expr) (options : Option Expr)

/-- What a value is bound or assigned to.  `default` gives the value of a missing item, and the
initial value in a declaration; `rest` and `hole` stand in parameter lists and array patterns,
`rest` and `keyed` in object patterns. -/
inductive Pattern where
  | name (span : Span) (text : String)
  | target (value : Expr)
  | object (span : Span) (members : List Pattern)
  | array (span : Span) (elements : List Pattern)
  | default (span : Span) (pattern : Pattern) (value : Expr)
  | rest (span : Span) (pattern : Pattern)
  | hole (span : Span)
  | keyed (span : Span) (computed : Bool) (key : Expr) (pattern : Pattern) (shorthand : Bool)
  | decorated (span : Span) (decorators : List Expr) (pattern : Pattern)

/-- A member of an object literal or a class.  A key that is not computed is a name, a private
name or a literal. -/
inductive Member where
  | keyed (span : Span) (computed : Bool) (key value : Expr) (shorthand : Bool)
  | method (span : Span) (isStatic computed : Bool) (key : Expr) (kind : MethodKind) (f : Function)
  | spread (span : Span) (value : Expr)
  | field (span : Span) (isStatic accessor computed : Bool) (key : Expr) (value : Option Expr)
  | block (span : Span) (statements : List Stmt)
  | marked (span : Span) (decorators : List Expr) (modifiers : Modifiers) (member : Member)

/-- A function.  The body of a concise arrow is one expression statement. -/
inductive Function where
  | mk (span : Span) (form : FunctionForm) (name : Option Name) (isAsync generator : Bool)
      (params : List Pattern) (bodySpan : Span) (directives : List Directive)
      (body : List Stmt) (concise : Bool)

/-- One `case`, or the `default`, of a switch. -/
inductive Case where
  | mk (span : Span) (test : Option Expr) (body : List Stmt)

/-- Statements.  The blocks of a `tryCatch` and its parts are `block`s.  What is `decorated` is a
class, and an `interface` is exported by default. -/
inductive Stmt where
  | empty (span : Span)
  | expression (span : Span) (e : Expr)
  | variable (span : Span) (kind : DeclKind) (declarators : List Pattern)
  | function (f : Function)
  | classLike (span : Span) (name : Option Name) (parent : Option Expr) (members : List Member)
  | block (span : Span) (body : List Stmt)
  | cond (span : Span) (test : Expr) (yes : Stmt) (no : Option Stmt)
  | forLoop (span : Span) (init : Option Stmt) (test update : Option Expr) (body : Stmt)
  | forOf (span : Span) (isAwait : Bool) (declared : Option (Span × DeclKind))
      (targets : List Pattern)
      (source : Expr) (body : Stmt)
  | forIn (span : Span) (declared : Option (Span × DeclKind)) (targets : List Pattern)
      (source : Expr)
      (body : Stmt)
  | whileLoop (span : Span) (test : Expr) (body : Stmt)
  | doWhile (span : Span) (body : Stmt) (test : Expr)
  | breakTo (span : Span) (label : Option Name)
  | continueTo (span : Span) (label : Option Name)
  | ret (span : Span) (value : Option Expr)
  | switch (span : Span) (subject : Expr) (cases : List Case)
  | tryCatch (span : Span) (block : Stmt) (param : Option Pattern) (handler finalizer : Option Stmt)
  | throwing (span : Span) (value : Expr)
  | debugger (span : Span)
  | labeled (span : Span) (label : Name) (body : Stmt)
  | withObject (span : Span) (object : Expr) (body : Stmt)
  | importFrom (span : Span) (bindings : Option (List ImportBinding)) (phase : String)
      (source : ModuleSource)
  | exportNamed (span : Span) (specifiers : List ExportSpecifier) (source : Option ModuleSource)
  | exportAll (span : Span) (exported : Option ModuleName) (source : ModuleSource)
  | exportDeclaration (span : Span) (declared : Stmt)
  | exportDefault (span : Span) (value : Stmt)
  | decorated (span : Span) (decorators : List Expr) (notes : ClassNotes) (inner : Stmt)
  | interface (span : Span) (name : Name)

end

/-- A function, part by part. -/
structure FunctionParts where
  span : Span
  form : FunctionForm
  name : Option Name
  isAsync : Bool
  generator : Bool
  params : List Pattern
  bodySpan : Span
  directives : List Directive
  body : List Stmt
  concise : Bool

def Function.parts : Function → FunctionParts
  | .mk span form name isAsync generator params bodySpan directives body concise =>
    { span, form, name, isAsync, generator, params, bodySpan, directives, body, concise }

def FunctionParts.whole (f : FunctionParts) : Function :=
  .mk f.span f.form f.name f.isAsync f.generator f.params f.bodySpan f.directives f.body f.concise

/-- A class, part by part. -/
structure ClassParts where
  span : Span
  name : Option Name
  parent : Option Expr
  members : List Member

/-- A script module. -/
structure Program where
  span : Span
  hashbang : Option String
  directives : List Directive
  body : List Stmt

end ScopedViews.Script

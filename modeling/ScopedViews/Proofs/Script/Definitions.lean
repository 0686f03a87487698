import ScopedViews.Script.Reader
import ScopedViews.Script.Tree
/-!
# The functions of a script

The functions that a script defines, wherever they stand in its tree: those that stand in their own
right and those that are methods, whose text starts behind their name.
-/

namespace ScopedViews.Script

/-- A function where it stands in a script. -/
structure Definition where
  isMethod : Bool
  function : Function

namespace Definition

def start (d : Definition) : Nat := d.function.parts.span.start

/-- The text of the function as an expression of its own. -/
def text (source : String) (d : Definition) : String :=
  let written := slice source d.function.parts.span
  if d.isMethod then "function" ++ written else written

end Definition

mutual

def Expr.definitions : Expr → List Definition
  | .string _ _ | .null _ | .boolean _ _ | .number _ _ _ | .bigint _ _ | .regex _ _ _ => []
  | .name _ _ | .privateName _ _ | .thisRef _ | .superRef _ | .hole _ => []
  | .metaProperty _ _ _ => []
  | .template _ _ parts => Expr.definitionsOfAll parts
  | .tagged _ tag _ parts => tag.definitions ++ Expr.definitionsOfAll parts
  | .sequence _ items => Expr.definitionsOfAll items
  | .array _ elements => Expr.definitionsOfAll elements
  | .paren _ inner => inner.definitions
  | .spread _ inner => inner.definitions
  | .pure _ inner => inner.definitions
  | .chain _ inner => inner.definitions
  | .unary _ _ operand => operand.definitions
  | .await _ operand => operand.definitions
  | .yield _ _ operand => Expr.definitionsOfOption operand
  | .member _ object _ _ => object.definitions
  | .privateMember _ object _ _ => object.definitions
  | .index _ object key _ => object.definitions ++ key.definitions
  | .call _ callee arguments _ => callee.definitions ++ Expr.definitionsOfAll arguments
  | .construct _ callee arguments => callee.definitions ++ Expr.definitionsOfAll arguments
  | .binary _ _ left right => left.definitions ++ right.definitions
  | .logical _ _ left right => left.definitions ++ right.definitions
  | .conditional _ test yes no => test.definitions ++ (yes.definitions ++ no.definitions)
  | .assign _ _ target value => target.definitions ++ value.definitions
  | .update _ _ _ target => target.definitions
  | .importCall _ _ source options => source.definitions ++ Expr.definitionsOfOption options
  | .function f => ⟨false, f⟩ :: f.definitions
  | .object _ members => Member.definitionsOfAll members
  | .classLike _ _ parent members =>
    Expr.definitionsOfOption parent ++ Member.definitionsOfAll members
  | .decorated _ decorators _ inner => Expr.definitionsOfAll decorators ++ inner.definitions

def Expr.definitionsOfAll : List Expr → List Definition
  | [] => []
  | e :: rest => e.definitions ++ Expr.definitionsOfAll rest

def Expr.definitionsOfOption : Option Expr → List Definition
  | none => []
  | some e => e.definitions

def Pattern.definitions : Pattern → List Definition
  | .name _ _ => []
  | .hole _ => []
  | .target e => e.definitions
  | .object _ members => Pattern.definitionsOfAll members
  | .array _ elements => Pattern.definitionsOfAll elements
  | .default _ pattern value => pattern.definitions ++ value.definitions
  | .rest _ pattern => pattern.definitions
  | .keyed _ _ key pattern _ => key.definitions ++ pattern.definitions
  | .decorated _ decorators pattern => Expr.definitionsOfAll decorators ++ pattern.definitions

def Pattern.definitionsOfAll : List Pattern → List Definition
  | [] => []
  | p :: rest => p.definitions ++ Pattern.definitionsOfAll rest

def Pattern.definitionsOfOption : Option Pattern → List Definition
  | none => []
  | some p => p.definitions

def Member.definitions : Member → List Definition
  | .keyed _ _ key value _ => key.definitions ++ value.definitions
  | .method _ _ _ key _ f => key.definitions ++ ⟨true, f⟩ :: f.definitions
  | .spread _ value => value.definitions
  | .field _ _ _ _ key value => key.definitions ++ Expr.definitionsOfOption value
  | .block _ statements => Stmt.definitionsOfAll statements
  | .marked _ decorators _ member => Expr.definitionsOfAll decorators ++ member.definitions

def Member.definitionsOfAll : List Member → List Definition
  | [] => []
  | m :: rest => m.definitions ++ Member.definitionsOfAll rest

def Function.definitions : Function → List Definition
  | .mk _ _ _ _ _ params _ _ body _ => Pattern.definitionsOfAll params ++ Stmt.definitionsOfAll body

def Case.definitions : Case → List Definition
  | .mk _ test body => Expr.definitionsOfOption test ++ Stmt.definitionsOfAll body

def Case.definitionsOfAll : List Case → List Definition
  | [] => []
  | c :: rest => c.definitions ++ Case.definitionsOfAll rest

def Stmt.definitions : Stmt → List Definition
  | .empty _ => []
  | .breakTo _ _ | .continueTo _ _ => []
  | .debugger _ => []
  | .importFrom _ _ _ _ | .exportNamed _ _ _ | .exportAll _ _ _ => []
  | .interface _ _ => []
  | .expression _ e => e.definitions
  | .throwing _ e => e.definitions
  | .variable _ _ declarators => Pattern.definitionsOfAll declarators
  | .function f => ⟨false, f⟩ :: f.definitions
  | .classLike _ _ parent members =>
    Expr.definitionsOfOption parent ++ Member.definitionsOfAll members
  | .block _ body => Stmt.definitionsOfAll body
  | .cond _ test yes no => test.definitions ++ (yes.definitions ++ Stmt.definitionsOfOption no)
  | .forLoop _ init test update body =>
    Stmt.definitionsOfOption init ++ (Expr.definitionsOfOption test ++
      (Expr.definitionsOfOption update ++ body.definitions))
  | .forOf _ _ _ targets source body =>
    Pattern.definitionsOfAll targets ++ (source.definitions ++ body.definitions)
  | .forIn _ _ targets source body =>
    Pattern.definitionsOfAll targets ++ (source.definitions ++ body.definitions)
  | .whileLoop _ test body => test.definitions ++ body.definitions
  | .doWhile _ body test => body.definitions ++ test.definitions
  | .ret _ value => Expr.definitionsOfOption value
  | .switch _ subject cases => subject.definitions ++ Case.definitionsOfAll cases
  | .tryCatch _ block param handler finalizer =>
    block.definitions ++ (Pattern.definitionsOfOption param ++
      (Stmt.definitionsOfOption handler ++ Stmt.definitionsOfOption finalizer))
  | .labeled _ _ body => body.definitions
  | .withObject _ object body => object.definitions ++ body.definitions
  | .exportDeclaration _ declared => declared.definitions
  | .exportDefault _ value => value.definitions
  | .decorated _ decorators _ inner => Expr.definitionsOfAll decorators ++ inner.definitions

def Stmt.definitionsOfAll : List Stmt → List Definition
  | [] => []
  | s :: rest => s.definitions ++ Stmt.definitionsOfAll rest

def Stmt.definitionsOfOption : Option Stmt → List Definition
  | none => []
  | some s => s.definitions

end

def Program.definitions (p : Program) : List Definition := Stmt.definitionsOfAll p.body

end ScopedViews.Script

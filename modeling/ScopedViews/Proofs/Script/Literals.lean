import ScopedViews.Script.Tree
/-!
# String literals

The strings that a script spells out, wherever they stand in its tree.  The fixed pieces of
templates are not among them.
-/

namespace ScopedViews.Script

mutual

def Expr.literals : Expr → List String
  | .string _ value => [value]
  | .null _ | .boolean _ _ | .number _ _ _ | .bigint _ _ | .regex _ _ _ => []
  | .name _ _ | .privateName _ _ | .thisRef _ | .superRef _ | .hole _ => []
  | .metaProperty _ _ _ => []
  | .template _ _ parts => Expr.literalsOfAll parts
  | .tagged _ tag _ parts => tag.literals ++ Expr.literalsOfAll parts
  | .sequence _ items => Expr.literalsOfAll items
  | .array _ elements => Expr.literalsOfAll elements
  | .paren _ inner => inner.literals
  | .spread _ inner => inner.literals
  | .pure _ inner => inner.literals
  | .chain _ inner => inner.literals
  | .unary _ _ operand => operand.literals
  | .await _ operand => operand.literals
  | .yield _ _ operand => Expr.literalsOfOption operand
  | .member _ object _ _ => object.literals
  | .privateMember _ object _ _ => object.literals
  | .index _ object key _ => object.literals ++ key.literals
  | .call _ callee arguments _ => callee.literals ++ Expr.literalsOfAll arguments
  | .construct _ callee arguments => callee.literals ++ Expr.literalsOfAll arguments
  | .binary _ _ left right => left.literals ++ right.literals
  | .logical _ _ left right => left.literals ++ right.literals
  | .conditional _ test yes no => test.literals ++ (yes.literals ++ no.literals)
  | .assign _ _ target value => target.literals ++ value.literals
  | .update _ _ _ target => target.literals
  | .importCall _ _ source options => source.literals ++ Expr.literalsOfOption options
  | .function f => f.literals
  | .object _ members => Member.literalsOfAll members
  | .classLike _ _ parent members => Expr.literalsOfOption parent ++ Member.literalsOfAll members
  | .decorated _ decorators _ inner => Expr.literalsOfAll decorators ++ inner.literals

def Expr.literalsOfAll : List Expr → List String
  | [] => []
  | e :: rest => e.literals ++ Expr.literalsOfAll rest

def Expr.literalsOfOption : Option Expr → List String
  | none => []
  | some e => e.literals

def Pattern.literals : Pattern → List String
  | .name _ _ => []
  | .hole _ => []
  | .target e => e.literals
  | .object _ members => Pattern.literalsOfAll members
  | .array _ elements => Pattern.literalsOfAll elements
  | .default _ pattern value => pattern.literals ++ value.literals
  | .rest _ pattern => pattern.literals
  | .keyed _ _ key pattern _ => key.literals ++ pattern.literals
  | .decorated _ decorators pattern => Expr.literalsOfAll decorators ++ pattern.literals

def Pattern.literalsOfAll : List Pattern → List String
  | [] => []
  | p :: rest => p.literals ++ Pattern.literalsOfAll rest

def Pattern.literalsOfOption : Option Pattern → List String
  | none => []
  | some p => p.literals

def Member.literals : Member → List String
  | .keyed _ _ key value _ => key.literals ++ value.literals
  | .method _ _ _ key _ f => key.literals ++ f.literals
  | .spread _ value => value.literals
  | .field _ _ _ _ key value => key.literals ++ Expr.literalsOfOption value
  | .block _ statements => Stmt.literalsOfAll statements
  | .marked _ decorators _ member => Expr.literalsOfAll decorators ++ member.literals

def Member.literalsOfAll : List Member → List String
  | [] => []
  | m :: rest => m.literals ++ Member.literalsOfAll rest

def Function.literals : Function → List String
  | .mk _ _ _ _ _ params _ _ body _ => Pattern.literalsOfAll params ++ Stmt.literalsOfAll body

def Case.literals : Case → List String
  | .mk _ test body => Expr.literalsOfOption test ++ Stmt.literalsOfAll body

def Case.literalsOfAll : List Case → List String
  | [] => []
  | c :: rest => c.literals ++ Case.literalsOfAll rest

def Stmt.literals : Stmt → List String
  | .empty _ => []
  | .breakTo _ _ | .continueTo _ _ => []
  | .debugger _ => []
  | .importFrom _ _ _ _ | .exportNamed _ _ _ | .exportAll _ _ _ => []
  | .interface _ _ => []
  | .expression _ e => e.literals
  | .throwing _ e => e.literals
  | .variable _ _ declarators => Pattern.literalsOfAll declarators
  | .function f => f.literals
  | .classLike _ _ parent members => Expr.literalsOfOption parent ++ Member.literalsOfAll members
  | .block _ body => Stmt.literalsOfAll body
  | .cond _ test yes no => test.literals ++ (yes.literals ++ Stmt.literalsOfOption no)
  | .forLoop _ init test update body =>
    Stmt.literalsOfOption init ++ (Expr.literalsOfOption test ++
      (Expr.literalsOfOption update ++ body.literals))
  | .forOf _ _ _ targets source body =>
    Pattern.literalsOfAll targets ++ (source.literals ++ body.literals)
  | .forIn _ _ targets source body =>
    Pattern.literalsOfAll targets ++ (source.literals ++ body.literals)
  | .whileLoop _ test body => test.literals ++ body.literals
  | .doWhile _ body test => body.literals ++ test.literals
  | .ret _ value => Expr.literalsOfOption value
  | .switch _ subject cases => subject.literals ++ Case.literalsOfAll cases
  | .tryCatch _ block param handler finalizer =>
    block.literals ++ (Pattern.literalsOfOption param ++
      (Stmt.literalsOfOption handler ++ Stmt.literalsOfOption finalizer))
  | .labeled _ _ body => body.literals
  | .withObject _ object body => object.literals ++ body.literals
  | .exportDeclaration _ declared => declared.literals
  | .exportDefault _ value => value.literals
  | .decorated _ decorators _ inner => Expr.literalsOfAll decorators ++ inner.literals

def Stmt.literalsOfAll : List Stmt → List String
  | [] => []
  | s :: rest => s.literals ++ Stmt.literalsOfAll rest

def Stmt.literalsOfOption : Option Stmt → List String
  | none => []
  | some s => s.literals

end

def Program.literals (p : Program) : List String := Stmt.literalsOfAll p.body

end ScopedViews.Script

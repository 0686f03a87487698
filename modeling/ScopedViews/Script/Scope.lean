import ScopedViews.Script.Tree
/-!
# Scopes

Which names a script declares, mentions and writes to, and whether a scope declares one twice.
Names of `var` belong to the whole function, as do function declarations directly in it; other
declarations belong to their block.
-/

namespace ScopedViews.Script

mutual

/-- The names that a pattern binds. -/
def Pattern.boundNames : Pattern → List String
  | .name _ text => [text]
  | .target _ | .hole _ => []
  | .object _ ms => Pattern.allBoundNames ms
  | .array _ es => Pattern.allBoundNames es
  | .default _ p _ => p.boundNames
  | .rest _ p => p.boundNames
  | .keyed _ _ _ p _ | .decorated _ _ p => p.boundNames

def Pattern.allBoundNames : List Pattern → List String
  | [] => []
  | p :: more => p.boundNames ++ Pattern.allBoundNames more

end

def functionName : Function → List String
  | .mk _ _ name _ _ _ _ _ _ _ => (name.map Name.text).toList

def ImportBinding.localName : ImportBinding → String
  | .default n | .all _ n | .named _ _ n => n.text

/-- The names that statements declare for their own block.  At the top of a function, function
declarations are not among them. -/
def lexicalNames (functionTop : Bool) : List Stmt → List String
  | [] => []
  | s :: more =>
    let names :=
      match s with
      | .variable _ kind ds | .exportDeclaration _ (.variable _ kind ds) =>
        if kind == .varDecl then [] else Pattern.allBoundNames ds
      | .classLike _ name _ _ | .exportDeclaration _ (.classLike _ name _ _)
      | .exportDefault _ (.classLike _ name _ _) | .decorated _ _ _ (.classLike _ name _ _)
      | .exportDeclaration _ (.decorated _ _ _ (.classLike _ name _ _))
      | .exportDefault _ (.decorated _ _ _ (.classLike _ name _ _)) => (name.map Name.text).toList
      | .function f | .exportDeclaration _ (.function f) | .exportDefault _ (.function f) =>
        if functionTop then [] else functionName f
      | .importFrom _ bindings _ _ => (bindings.getD []).map ImportBinding.localName
      | _ => []
    names ++ lexicalNames functionTop more

mutual

/-- The names that `var` declares in a statement, outside inner functions. -/
def Stmt.varNames : Stmt → List String
  | .variable _ kind ds => if kind == .varDecl then Pattern.allBoundNames ds else []
  | .block _ body => Stmt.allVarNames body
  | .cond _ _ yes no => yes.varNames ++ Stmt.varNamesOf no
  | .forLoop _ init _ _ body => Stmt.varNamesOf init ++ body.varNames
  | .forOf _ _ declared targets _ body | .forIn _ declared targets _ body =>
    (match declared with
      | some (_, .varDecl) => Pattern.allBoundNames targets
      | _ => []) ++ body.varNames
  | .whileLoop _ _ body | .doWhile _ body _ | .labeled _ _ body | .withObject _ _ body =>
    body.varNames
  | .switch _ _ cases => Case.allVarNames cases
  | .tryCatch _ tried _ handler finalizer =>
    tried.varNames ++ Stmt.varNamesOf handler ++ Stmt.varNamesOf finalizer
  | .exportDeclaration _ s => s.varNames
  | _ => []

def Stmt.varNamesOf : Option Stmt → List String
  | none => []
  | some s => s.varNames

def Stmt.allVarNames : List Stmt → List String
  | [] => []
  | s :: more => s.varNames ++ Stmt.allVarNames more

def Case.allVarNames : List Case → List String
  | [] => []
  | .mk _ _ body :: more => Stmt.allVarNames body ++ Case.allVarNames more

end

/-- The names that the head of a loop declares for the loop. -/
def Stmt.headNames : Option Stmt → List String
  | some s => lexicalNames false [s]
  | none => []

/-- The names that a loop over the items of a value declares for the loop. -/
def loopNames (declared : Option (Span × DeclKind)) (targets : List Pattern) : List String :=
  match declared with
  | none | some (_, .varDecl) => []
  | some _ => Pattern.allBoundNames targets

/-- The functions that are declared directly in a body. -/
def declaredFunctions (body : List Stmt) : List String :=
  body.flatMap fun s =>
    match s with
    | .function f => functionName f
    | _ => []

/-- Whether a block declares a name twice, or one that `var` declares inside it. -/
def blockClashes (lexical vars : List String) : Bool :=
  !decide lexical.Nodup || lexical.any vars.contains

/-- What a script says about names: those that it has, those of other scopes that it writes to, and
whether a scope declares one twice. -/
structure Mentions where
  names : List String := []
  written : List String := []
  clash : Bool := false

namespace Mentions

def none : Mentions := { }
def reading (n : String) : Mentions := { names := [n] }
def writing (n : String) : Mentions := { names := [n], written := [n] }
def declaring (ns : List String) : Mentions := { names := ns }

def and (a b : Mentions) : Mentions where
  names := a.names ++ b.names
  written := a.written ++ b.written
  clash := a.clash || b.clash

/-- Writing to names that are declared here is not seen from outside. -/
def closing (names : List String) (inner : Mentions) : Mentions :=
  { inner with written := inner.written.filter fun n => !names.contains n }

/-- A scope with the given declarations. -/
def scope (lexical vars : List String) (inner : Mentions) : Mentions :=
  closing lexical { inner with clash := inner.clash || blockClashes lexical vars }

end Mentions

open Mentions

mutual

def Expr.mentions : Expr → Mentions
  | .name _ n => reading n
  | .template _ _ parts => Expr.allMentions parts
  | .tagged _ tag _ parts => tag.mentions.and (Expr.allMentions parts)
  | .paren _ e | .spread _ e | .await _ e | .chain _ e | .pure _ e => e.mentions
  | .sequence _ es | .array _ es => Expr.allMentions es
  | .function f => f.mentions
  | .classLike _ name parent ms =>
    let own := (name.map Name.text).toList
    (declaring own).and
      (closing own ((Expr.mentionsOf parent).and (Member.allMentions ms)))
  | .decorated _ ds _ e => (Expr.allMentions ds).and e.mentions
  | .object _ ms => Member.allMentions ms
  | .member _ e _ _ | .privateMember _ e _ _ => e.mentions
  | .index _ e k _ => e.mentions.and k.mentions
  | .call _ e es _ | .construct _ e es => e.mentions.and (Expr.allMentions es)
  | .unary _ _ e => e.mentions
  | .update _ _ _ t => t.mentionsAs true
  | .binary _ _ a b | .logical _ _ a b => a.mentions.and b.mentions
  | .assign _ _ t e => (t.mentionsAs true).and e.mentions
  | .conditional _ a b c => a.mentions.and (b.mentions.and c.mentions)
  | .yield _ _ e => Expr.mentionsOf e
  | .importCall _ _ e o => e.mentions.and (Expr.mentionsOf o)
  | _ => .none

def Expr.mentionsOf : Option Expr → Mentions
  | Option.none => .none
  | some e => e.mentions

def Expr.allMentions : List Expr → Mentions
  | [] => .none
  | e :: more => e.mentions.and (Expr.allMentions more)

/-- What a pattern mentions; its names are written to unless they are being declared. -/
def Pattern.mentionsAs : Pattern → (written : Bool) → Mentions
  | .name _ n, written => if written then writing n else declaring [n]
  | .target (.name _ n), _ => writing n
  | .target e, _ => e.mentions
  | .object _ ms, written => Pattern.allMentionsAs ms written
  | .array _ es, written => Pattern.allMentionsAs es written
  | .default _ p e, written => (p.mentionsAs written).and e.mentions
  | .rest _ p, written => p.mentionsAs written
  | .hole _, _ => .none
  | .keyed _ computed k p _, written =>
    (if computed then k.mentions else Mentions.none).and (p.mentionsAs written)
  | .decorated _ ds p, written => (Expr.allMentions ds).and (p.mentionsAs written)

def Pattern.allMentionsAs : List Pattern → (written : Bool) → Mentions
  | [], _ => .none
  | p :: more, written => (p.mentionsAs written).and (Pattern.allMentionsAs more written)

def Pattern.mentionsCaught : Option Pattern → Mentions
  | Option.none => .none
  | some p => p.mentionsAs false

def Member.mentions : Member → Mentions
  | .keyed _ computed k e _ => (if computed then k.mentions else Mentions.none).and e.mentions
  | .method _ _ computed k _ f => (if computed then k.mentions else Mentions.none).and f.mentions
  | .spread _ e => e.mentions
  | .field _ _ _ computed k e =>
    (if computed then k.mentions else Mentions.none).and (Expr.mentionsOf e)
  | .block _ body =>
    let vars := Stmt.allVarNames body
    closing (vars ++ declaredFunctions body)
      (scope (lexicalNames true body) vars (Stmt.allMentions body))
  | .marked _ ds _ m => (Expr.allMentions ds).and m.mentions

def Member.allMentions : List Member → Mentions
  | [] => .none
  | m :: more => m.mentions.and (Member.allMentions more)

def Function.mentions : Function → Mentions
  | .mk _ form name _ _ params _ _ body _ =>
    let bound := Pattern.allBoundNames params
    let inner := (Pattern.allMentionsAs params false).and (Stmt.allMentions body)
    let vars := bound ++ Stmt.allVarNames body ++ declaredFunctions body
    let named := (name.map Name.text).toList
    let own := if form == .declaration then [] else named
    let outer := (declaring named).and
      (closing (own ++ vars) (scope (lexicalNames true body) vars inner))
    { outer with clash := outer.clash || !decide bound.Nodup }

def Case.allMentions : List Case → Mentions
  | [] => .none
  | .mk _ test body :: more =>
    (Expr.mentionsOf test).and ((Stmt.allMentions body).and (Case.allMentions more))

def Stmt.mentions : Stmt → Mentions
  | .expression _ e | .throwing _ e => e.mentions
  | .variable _ _ ds => Pattern.allMentionsAs ds false
  | .function f => f.mentions
  | .classLike _ name parent ms =>
    (declaring (name.map Name.text).toList).and
      ((Expr.mentionsOf parent).and (Member.allMentions ms))
  | .block _ body => scope (lexicalNames false body) (Stmt.allVarNames body) (Stmt.allMentions body)
  | .cond _ e yes no => e.mentions.and (yes.mentions.and (Stmt.mentionsOf no))
  | .forLoop _ init test update body =>
    scope (Stmt.headNames init) body.varNames
      ((Stmt.mentionsOf init).and
        ((Expr.mentionsOf test).and ((Expr.mentionsOf update).and body.mentions)))
  | .forOf _ _ declared targets e body | .forIn _ declared targets e body =>
    scope (loopNames declared targets) body.varNames
      ((Pattern.allMentionsAs targets declared.isNone).and (e.mentions.and body.mentions))
  | .whileLoop _ e body | .doWhile _ body e | .withObject _ e body => e.mentions.and body.mentions
  | .ret _ e => Expr.mentionsOf e
  | .switch _ e cases =>
    let bodies := cases.flatMap fun | .mk _ _ body => body
    e.mentions.and
      (scope (lexicalNames false bodies) (Case.allVarNames cases) (Case.allMentions cases))
  | .tryCatch _ tried param handler finalizer =>
    let body :=
      match handler with
      | some (.block _ body) => body
      | _ => []
    let caught := (param.map Pattern.boundNames).getD []
    let plain :=
      match param with
      | some (.name _ _) => true
      | _ => false
    let vars := if plain then [] else Stmt.allVarNames body
    tried.mentions.and
      ((scope caught (lexicalNames false body ++ vars)
        ((Pattern.mentionsCaught param).and (Stmt.mentionsOf handler))).and
        (Stmt.mentionsOf finalizer))
  | .labeled _ _ body => body.mentions
  | .importFrom _ bindings _ _ => declaring ((bindings.getD []).map ImportBinding.localName)
  | .exportNamed _ specifiers Option.none => declaring (specifiers.map fun s => s.inner.text)
  | .exportDeclaration _ s | .exportDefault _ s => s.mentions
  | .decorated _ ds _ s => (Expr.allMentions ds).and s.mentions
  | _ => .none

def Stmt.mentionsOf : Option Stmt → Mentions
  | Option.none => .none
  | some s => s.mentions

def Stmt.allMentions : List Stmt → Mentions
  | [] => .none
  | s :: more => s.mentions.and (Stmt.allMentions more)

end

/-- What a module says about names.  Its functions belong to its block. -/
def Program.mentions (p : Program) : Mentions :=
  scope (lexicalNames false p.body) (Stmt.allVarNames p.body) (Stmt.allMentions p.body)

end ScopedViews.Script

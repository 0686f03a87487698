import ScopedViews.Script.Lower.Draft
/-!
# Disposal

Values that are disposed of at the end of their block are handed to an object that keeps them.  The
block is tried, and in the end that object disposes of them, the last one first.
-/

namespace ScopedViews.Script

/-- Whether a statement declares values that are disposed of. -/
def Stmt.disposes (s : Stmt) : Bool :=
  match s with
  | .variable _ kind _ => kind.disposes
  | _ => false

/-- Whether disposing of them is waited for. -/
def Stmt.awaitsDisposal (s : Stmt) : Bool :=
  match s with
  | .variable _ kind _ => kind == .awaitUsingDecl
  | _ => false

namespace Lower

/-- Hands the values of a declaration to their keeper. -/
def keepValues (keeper : String) (kind : DeclKind) (s : Stmt) : Stmt :=
  match s with
  | .variable s used ds =>
    if used.disposes then
      let way := if used == .awaitUsingDecl then "a" else "u"
      .variable s kind (ds.map fun
        | .default t p e => .default t p (Build.method (Build.name keeper) way [e])
        | d => d)
    else .variable s used ds
  | s => s

/-- Tries statements, and disposes of what `keeper` keeps. -/
def tried (keeper : String) (waits : Bool) (body : List Stmt) : Lower Stmt := do
  let value ← help "usingCtx" []
  let error ← fresh ""
  let disposed := Build.method (Build.name keeper) "d" []
  let disposed := if waits then .await nowhere disposed else disposed
  return .tryCatch nowhere
    (Build.block (Build.declare [(keeper, some value)] :: body))
    (some (Build.target error))
    (some (Build.block [Build.statement
      (Build.assign (.target (Build.member (Build.name keeper) "e")) (Build.name error))]))
    (some (Build.block [Build.statement disposed]))

/-- Statements of a block, tried if they declare values that are disposed of. -/
def lowerDisposal (st : Setting) (body : List Stmt) : Lower (List Stmt) := do
  if !st.lacks .disposal || !body.any Stmt.disposes then return body
  let keeper ← fresh "usingCtx"
  let kept := body.map (keepValues keeper .constDecl)
  return [← tried keeper (body.any Stmt.awaitsDisposal) kept]

/-- A part of a statement that has to be a block. -/
def lowerDisposingBlock (st : Setting) (s : Stmt) : Lower Stmt := do
  match s with
  | .block t body => return .block t (← lowerDisposal st body)
  | s => return s

/-- Statements that declare values for themselves; they are tried themselves. -/
def lowerDisposingStmt (st : Setting) (s : Stmt) : Lower Stmt := do
  if !st.lacks .disposal then return s
  let whole (body : List Stmt) : Lower Stmt := do
    match ← lowerDisposal st body with
    | [s] => return s
    | body => return Build.block body
  match s with
  | .block _ body => if body.any Stmt.disposes then whole body else return s
  | .tryCatch t tried param handler finalizer =>
    let tried ← lowerDisposingBlock st tried
    let handler ← handler.mapM (lowerDisposingBlock st)
    return .tryCatch t tried param handler (← finalizer.mapM (lowerDisposingBlock st))
  | .forLoop t (some init) test update body =>
    if init.disposes then whole [init, .forLoop t none test update body] else return s
  | .forOf t isAwait (some (u, kind)) [.name v n] source body =>
    if kind.disposes then
      let held ← fresh n
      let taken : Stmt := .variable nowhere kind [.default nowhere (.name v n) (Build.name held)]
      let body := match body with
        | .block w ss => .block w (taken :: ss)
        | body => Build.block [taken, body]
      return .forOf t isAwait (some (u, .constDecl)) [.name v held] source body
    return s
  | .switch t subject cases =>
    let bodies := cases.flatMap fun | .mk _ _ body => body
    if bodies.any Stmt.disposes then
      let keeper ← fresh "usingCtx"
      let cases := cases.map fun
        | .mk u test body => Case.mk u test (body.map (keepValues keeper .constDecl))
      return ← tried keeper (bodies.any Stmt.awaitsDisposal) [.switch t subject cases]
    return s
  | s => return s

/-- An entry of an export list. -/
def exported (inner outer : String) : ExportSpecifier :=
  ⟨nowhere, .name (Build.nameOf inner), .name (Build.nameOf outer)⟩

/-- The static blocks of a class, tried if they declare values that are disposed of. -/
def lowerDisposingMember (st : Setting) : Member → Lower Member
  | .block s body => do return .block s (← lowerDisposal st body)
  | m => return m

/-- What stays outside where a module is tried, and what goes inside.  Declarations are variables
inside, so that the whole module sees them. -/
def splitModule (keeper : String) : List Stmt → Lower (List Stmt × List Stmt)
  | [] => return ([], [])
  | s :: more => do
    let outside (s : Stmt) : Lower (List Stmt × List Stmt) := do
      let (out, ins) ← splitModule keeper more
      return (s :: out, ins)
    let inside (out ins : List Stmt) : Lower (List Stmt × List Stmt) := do
      let (outs, inns) ← splitModule keeper more
      return (out ++ outs, ins ++ inns)
    let asVariable (s : Stmt) : Stmt :=
      match s with
      | .variable t _ ds => .variable t .varDecl ds
      | .classLike t (some n) parent ms =>
        Build.declare [(n.text, some (.classLike t none parent ms))]
      | s => s
    match s with
    | .function _ | .importFrom _ _ _ _ | .exportAll _ _ _ | .exportNamed _ _ _
    | .exportDeclaration _ (.function _) | .exportDefault _ (.function _) => outside s
    | .exportDeclaration _ declared =>
      let names := lexicalNames true [declared] ++ declared.varNames
      inside [.exportNamed nowhere (names.map fun n => exported n n) none] [asVariable declared]
    | .exportDefault _ (.expression _ e) =>
      let n ← fresh "default"
      inside [.exportNamed nowhere [exported n "default"] none] [Build.declare [(n, some e)]]
    | .exportDefault _ (.classLike t name parent ms) =>
      let n ← match name with
        | some n => pure n.text
        | none => fresh "default"
      inside [.exportNamed nowhere [exported n "default"] none]
        [Build.declare [(n, some (.classLike t none parent ms))]]
    | s => inside [] [asVariable (keepValues keeper .varDecl s)]

/-- A module that declares values which are disposed of at its end. -/
def lowerModuleDisposal (st : Setting) (body : List Stmt) : Lower (List Stmt) := do
  if !st.lacks .disposal || !body.any Stmt.disposes then return body
  let keeper ← fresh "usingCtx"
  let (out, ins) ← splitModule keeper body
  return out ++ [← tried keeper (body.any Stmt.awaitsDisposal) ins]

end Lower

end ScopedViews.Script

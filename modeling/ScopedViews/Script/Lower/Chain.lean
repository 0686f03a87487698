import ScopedViews.Script.Lower.Draft
/-!
# Optional chains

A chain gives up where a value is missing that it asks for.  It becomes a question for all those
values, of which the later ones are read only if the earlier ones are there.
-/

namespace ScopedViews.Script

/-- The links of a chain without the signs that end it early elsewhere. -/
def Expr.hasOptionalLink : Expr → Bool
  | .member _ o _ optional | .privateMember _ o _ optional | .index _ o _ optional
  | .call _ o _ optional => optional || o.hasOptionalLink
  | _ => false

/-- Whether parentheses around an expression say nothing inside a chain. -/
def Expr.isLink : Expr → Bool
  | .member _ _ _ _ | .privateMember _ _ _ _ | .index _ _ _ _ | .call _ _ _ _ | .name _ _ => true
  | _ => false

/-- The links of a chain and of the chains in parentheses that it goes on from. -/
def Expr.links : Expr → Expr
  | .member s o n optional => .member s o.links n optional
  | .privateMember s o n optional => .privateMember s o.links n optional
  | .index s o k optional => .index s o.links k optional
  | .call s o es optional => .call s o.links es optional
  | .chain _ e => e.links
  | .paren s e => if e.links.isLink then e.links else .paren s e
  | e => e

/-- The value behind the links of a chain, and the conditions under which there is none. -/
structure Links where
  value : Expr
  absences : List Expr := []
  /-- A variable that the chain already has. -/
  spare : Option String := none

/-- The whole value; `missing` stands for it where there is none. -/
def Links.toExpr (links : Links) (missing : Expr) (found : Expr → Expr) : Expr :=
  match links.absences with
  | [] => found links.value
  | a :: rest => .conditional nowhere (rest.foldl Build.either a) missing (found links.value)

namespace Lower

/-- Asks whether the value of `links` is there, and goes on from it. -/
def askLinks (st : Setting) (raw : Expr) (links : Links) : Lower Links := do
  let bound ← match links.value with
    | .name _ n => isBound st n
    | _ => pure false
  if bound then
    let asked := Build.isAbsent links.value links.value
    return { links with absences := links.absences ++ asked }
  let n ← match links.spare with
    | some n => pure n
    | none => temporaryFor raw
  let asked := Build.isAbsent (Build.assignName n links.value) (Build.name n)
  return ⟨Build.name n, links.absences ++ asked, some n⟩

/-- What a method is called on: how it is read first and how it is read again. -/
def receiver (st : Setting) (object : Expr) : Lower (Expr × Expr) := do
  match object with
  | .superRef _ => return (object, Build.self)
  | _ => twice st false object

/-- The links of a chain, from the first one on. -/
def linksOf (st : Setting) : Expr → Lower Links
  | .member s o n optional => do
    let links ← linksOf st o
    let links ← if optional then askLinks st o links else pure links
    return { links with value := .member s links.value n false }
  | .privateMember s o n optional => do
    let links ← linksOf st o
    let links ← if optional then askLinks st o links else pure links
    return { links with value := .privateMember s links.value n false }
  | .index s o k optional => do
    let links ← linksOf st o
    let links ← if optional then askLinks st o links else pure links
    return { links with value := .index s links.value k false }
  | .call s (.name t "eval") es true =>
    let indirect := Expr.paren nowhere (.sequence nowhere [.number nowhere 0 "0", .name t "eval"])
    return {
      value := .call s indirect es false
      absences := Build.isAbsent (.name t "eval") (.name t "eval") }
  | .call s (.member t o n asked) es true => do
    let raw := Expr.member t o n asked
    let early ← if raw.hasOptionalLink then pure none else some <$> temporaryFor raw
    let links ← linksOf st o
    let links ← if asked then askLinks st o links else pure links
    let (first, object) ← receiver st links.value
    callLinks s raw es early links (.member t first n false) object
  | .call s (.index t o k asked) es true => do
    let raw := Expr.index t o k asked
    let early ← if raw.hasOptionalLink then pure none else some <$> temporaryFor raw
    let links ← linksOf st o
    let links ← if asked then askLinks st o links else pure links
    let (first, object) ← receiver st links.value
    callLinks s raw es early links (.index t first k false) object
  | .call s callee es optional => do
    let links ← linksOf st callee
    let links ← if optional then askLinks st callee links else pure links
    return { links with value := .call s links.value es false }
  | e => return { value := e }
where
  /-- The call of a method that may be missing. -/
  callLinks (s : Span) (raw : Expr) (es : List Expr) (early : Option String) (links : Links)
      (method object : Expr) : Lower Links := do
    let n ← match early with
      | some n => pure n
      | none => temporaryFor raw
    return {
      links with
      value := .call s (Build.member (Build.name n) "call") (object :: es) false
      absences := links.absences ++ Build.isAbsent (Build.assignName n method) (Build.name n) }

/-- The end of a chain that is called: bound to what it is a member of. -/
def bindLinks (st : Setting) (links : Links) : Lower Links := do
  let bound (method object : Expr) : Expr := Build.method method "bind" [object]
  match links.value with
  | .member s o n _ =>
    let (first, again) ← receiver st o
    return { links with value := bound (.member s first n false) again }
  | .index s o k _ =>
    let (first, again) ← receiver st o
    return { links with value := bound (.index s first k false) again }
  | _ => return links

/-- A chain as a question.  Among parameters it has a function of its own for its variables. -/
def lowerChain (st : Setting) (e : Expr) : Lower Expr := do
  if !st.lacks .optionalChains then return e
  match e with
  | .chain _ links =>
    if (← get).inParams then return Build.callBody [Build.give e]
    let links ← linksOf st links.links
    let links ← if st.place matches .callee then bindLinks st links else pure links
    return links.toExpr Build.voidZero id
  | .unary _ .delete (.chain _ links) =>
    if (← get).inParams then return Build.callBody [Build.give e]
    return (← linksOf st links.links).toExpr Build.truth (.unary nowhere .delete ·)
  | e => return e

end Lower

end ScopedViews.Script

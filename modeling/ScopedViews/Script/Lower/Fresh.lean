import ScopedViews.Script.Tree
import ScopedViews.Text.Classes
/-!
# Fresh names

Names that lowering makes up.  They begin with an underscore, and a number at the end keeps them
apart from one another and from the names of the script.
-/

namespace ScopedViews.Script

/-- The last name of its base that is taken. -/
structure TakenName where
  base : String
  underscores : Nat
  number : Nat
deriving Repr, DecidableEq

/-- The taken names that begin with an underscore, the last one of each base. -/
abbrev TakenNames := List TakenName

namespace TakenName

/-- A name without the underscores in front and the digits behind. -/
def baseOf (name : String) : List Char :=
  let unlined := name.toList.dropWhile (· = '_')
  (unlined.reverse.dropWhile Char.isDigit).reverse

/-- The parts of a name; one without digits is the first of its base. -/
def ofName (name : String) : TakenName :=
  let digits := (name.toList.reverse.takeWhile Char.isDigit).reverse
  { base := String.ofList (baseOf name)
    underscores := (name.toList.takeWhile (· = '_')).length
    number := ((String.ofList digits).toNat?).getD 1 }

def text (t : TakenName) : String :=
  String.ofList (List.replicate t.underscores '_') ++ t.base ++
    (if t.number = 1 then "" else toString t.number)

/-- Whether `t` comes after `u` in the row of names of their base. -/
def isAfter (t u : TakenName) : Bool :=
  u.underscores < t.underscores || (t.underscores = u.underscores && u.number < t.number)

end TakenName

namespace TakenNames

/-- Takes a name, if it begins with an underscore. -/
def meet (ts : TakenNames) (name : String) : TakenNames :=
  if name.toList.head? = some '_' then
    let t := TakenName.ofName name
    match ts.find? (·.base = t.base) with
    | some u => if t.isAfter u then t :: ts.filter (·.base ≠ t.base) else ts
    | none => t :: ts
  else ts

def ofNames (names : List String) : TakenNames := names.foldl meet []

/-- Makes up a name and takes it. -/
def next (ts : TakenNames) (name : String) : String × TakenNames :=
  let base := String.ofList (TakenName.baseOf name)
  let made : TakenName :=
    match ts.find? (·.base = base) with
    | some u => { u with number := u.number + 1 }
    | none => ⟨base, 1, 1⟩
  (made.text, made :: ts.filter (·.base ≠ base))

end TakenNames

/-- A text as an identifier: every run of other characters is left out and the letter behind it is
made a capital. -/
def toIdentifier (name : String) : String :=
  let rec go : List Char → (raised : Bool) → List Char
    | [], _ => []
    | c :: rest, raised =>
      if Text.continuesIdentifier c || c = '$' || c = '_' then
        (if raised then c.toUpper else c) :: go rest false
      else go rest true
  String.ofList (go (name.toList.dropWhile fun c =>
    !(Text.startsIdentifier c || c = '$' || c = '_')) false)

/-- The words by which a value is called in the name of a variable that holds it. -/
def Expr.nameParts : Expr → List String
  | .name _ n | .privateName _ n => [n]
  | .string _ s => [s]
  | .thisRef _ => ["this"]
  | .superRef _ => ["super"]
  | .member _ o n _ | .privateMember _ o n _ => o.nameParts ++ [n.text]
  | .index _ o k _ => o.nameParts ++ k.nameParts
  | .call _ callee _ _ => callee.nameParts
  | .paren _ e | .chain _ e | .unary _ _ e => e.nameParts
  | .await _ e => "await" :: e.nameParts
  | .assign _ _ (.name _ n) _ | .update _ _ _ (.name _ n) => [n]
  | .assign _ _ (.target e) _ | .update _ _ _ (.target e) => e.nameParts
  | .metaProperty _ o property => [o, property]
  | .function (.mk _ _ (some n) _ _ _ _ _ _ _) | .classLike _ (some n) _ _ => [n.text]
  | _ => []

/-- What a variable for a value is called before it is made fresh. -/
def Expr.variableName (e : Expr) : String :=
  match e.nameParts with
  | [] => "ref"
  | first :: rest =>
    let first := String.ofList (first.toList.dropWhile (· = '_'))
    let name := rest.foldl (fun name part => name ++ "$" ++ part) first
    toIdentifier (String.ofList (name.toList.take 20))

end ScopedViews.Script

import ScopedViews.Script.Lower.Draft
/-!
# Classes on their way

The classes around a place, the innermost one first, and what their private names become.
-/

namespace ScopedViews.Script

namespace Lower

/-- The innermost class. -/
def currentClass : Lower ClassRecord := do
  return (← get).classes.headD { isExpression := false, isSplit := false }

def changeClass (change : ClassRecord → ClassRecord) : Lower Unit :=
  modify fun d =>
    match d.classes with
    | c :: cs => { d with classes := change c :: cs }
    | [] => d

/-- Makes up the variable of a class. -/
def freshForClass (c : ClassRecord) : Lower String := fresh (c.name.getD "Class")

/-- The variable of the class that is some classes outwards; it is made when it is needed. -/
def classVariable (outwards : Nat) : Lower String := do
  match (← get).classes[outwards]? with
  | some c =>
    match c.temporary with
    | some n => return n
    | none =>
      let n ← freshForClass c
      modify fun d => { d with classes := d.classes.set outwards { c with temporary := some n } }
      return n
  | none => fresh "Class"

/-- What a class is called where a value is checked against it. -/
def classValue (outwards : Nat) : Lower Expr := do
  match (← get).classes[outwards]? with
  | some { usesTemporary := false, name := some n, .. } => return Build.name n
  | _ => return Build.name (← classVariable outwards)

/-- A private name that is in use: what it becomes, and how many classes outwards it belongs to. -/
structure PrivateUse where
  member : PrivateName
  outwards : Nat
  owner : ClassRecord

/-- Finds what a private name becomes. -/
def privateUse? (name : String) : Lower (Option PrivateUse) := do
  let rec go (outwards : Nat) : List ClassRecord → Option PrivateUse
    | [] => none
    | c :: cs =>
      match c.privateNames.find? (·.name = name) with
      | some p => some ⟨p, outwards, c⟩
      | none => go (outwards + 1) cs
  return go 0 (← get).classes

/-- Whether an expression is the name of a class that is split. -/
def isClassName (st : Setting) (owner : ClassRecord) (e : Expr) : Bool :=
  match e with
  | .name _ n => owner.name = some n && st.levelOf n ≤ owner.level
  | _ => false

end Lower

end ScopedViews.Script

import ScopedViews.Css.Token
/-!
# Style sheet components

Tokens grouped by their brackets.  A closing bracket that closes nothing stands as a token, and the
end of the text closes what is open.
-/

namespace ScopedViews.Css

inductive Component where
  | token (t : Token)
  | block (b : Bracket) (body : List Component)
  | call (name : String) (body : List Component)
deriving Inhabited

namespace Component

/-- A bracket that has been opened, by a function's name or alone, and what it holds so far, the
last first. -/
structure Frame where
  bracket : Bracket
  name : Option String
  held : List Component

def Frame.close (f : Frame) : Component :=
  match f.name with
  | some n => .call n f.held.reverse
  | none => .block f.bracket f.held.reverse

/-- Open brackets, the innermost first, and what stands outside of all, the last first. -/
structure Stack where
  frames : List Frame
  outside : List Component

namespace Stack

def add (s : Stack) (c : Component) : Stack :=
  match s.frames with
  | [] => { s with outside := c :: s.outside }
  | f :: frames => { s with frames := { f with held := c :: f.held } :: frames }

def pop (s : Stack) : Stack :=
  match s.frames with
  | [] => s
  | f :: frames => add { s with frames := frames } f.close

def step (s : Stack) (t : Token) : Stack :=
  match t with
  | .opening b => { s with frames := ⟨b, none, []⟩ :: s.frames }
  | .function n => { s with frames := ⟨.round, some n, []⟩ :: s.frames }
  | .closing b =>
    match s.frames with
    | f :: _ => if f.bracket = b then s.pop else s.add (.token t)
    | [] => s.add (.token t)
  | _ => s.add (.token t)

def finish (s : Stack) : List Component :=
  ((s.frames.foldl (fun s _ => s.pop) s).outside).reverse

end Stack

/-- The components of a style sheet. -/
def ofTokens (ts : List Token) : List Component :=
  (ts.foldl Stack.step ⟨[], []⟩).finish

def read (source : String) : List Component :=
  ofTokens (Token.scan source)

/-- Blanks and comments, which most rules pass over. -/
def isGap : Component → Bool
  | .token .blank | .token .comment => true
  | _ => false

def solid (cs : List Component) : List Component :=
  cs.filter fun c => !c.isGap

mutual

/-- How many tokens a component has, brackets apart. -/
def weight : Component → Nat
  | .token _ => 1
  | .block _ body | .call _ body => 1 + weights body

def weights : List Component → Nat
  | [] => 0
  | c :: cs => c.weight + weights cs

end

/-- The parts between commas. -/
def splitCommas (cs : List Component) : List (List Component) :=
  let (parts, last) := cs.foldl
    (fun (parts, part) c =>
      match c with
      | .token .comma => (part.reverse :: parts, [])
      | c => (parts, c :: part))
    (([], []) : List (List Component) × List Component)
  (last.reverse :: parts).reverse

end Component

end ScopedViews.Css

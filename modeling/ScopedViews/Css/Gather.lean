import ScopedViews.Css.Property
/-!
# Gathered declarations

Longhands that belong together are held while a block is read, each with the marks of makers under
which it goes, and are then turned back into as few declarations as say the same.
-/

namespace ScopedViews.Css

namespace Longhand

/-- The values that are held, by name. -/
def valuesOf (held : List Longhand) : Values := held.map fun l => (l.name, l.values)

def find? (held : List Longhand) (name : String) : Option Longhand :=
  held.find? fun l => l.name = name

def alone (l : Longhand) : Declaration := ⟨l.name, l.fronts, ",".intercalate l.values, [l]⟩

/-- Sets a longhand where it stands if it is there, under the marks that it has and those that are
new. -/
def put (held : List Longhand) (l : Longhand) : List Longhand :=
  if held.any (·.name == l.name) then
    held.map fun m =>
      if m.name = l.name then { l with fronts := Front.union m.fronts l.fronts } else m
  else held ++ [l]

/-- Whether a longhand is held with another value, but not under the mark that is new. -/
def opposes (held : List Longhand) (l : Longhand) : Bool :=
  match find? held l.name with
  | some m => m.values != l.values && !l.fronts.all m.fronts.contains
  | none => false

end Longhand

namespace Gather

/-- The marks that longhands have in common. -/
def commonFronts : List Longhand → List String
  | [] => []
  | l :: ls => ls.foldl (fun fs m => Front.common fs m.fronts) l.fronts

/-- The declarations of a setting: one under the marks that its longhands have in common, and the
longhands by themselves under those that they do not share. -/
def declarations (held : List Longhand) (s : Setting) : List Declaration :=
  let ls := s.values.filterMap fun (n, vs) =>
    (Longhand.find? held n).map fun l => { l with values := vs }
  match ls with
  | [l] => [⟨s.name, l.fronts, s.value, [l]⟩]
  | ls =>
    let common := commonFronts ls
    let meant := ls.map fun l =>
      { l with name := if s.name = "border" then Border.physical l.name else l.name,
               fronts := common }
    let others := ls.filterMap fun l =>
      match Front.without l.fronts common with
      | [] => none
      | fs => some { l with fronts := fs }
    (if common.isEmpty then [] else [⟨s.name, common, s.value, meant⟩]) ++
      others.map Longhand.alone

/-- A background whose cut goes under marks of makers says the cut apart from everything else. -/
def background (held : List Longhand) : List Declaration :=
  let plain (held : List Longhand) : List Declaration :=
    (Group.background.write (Longhand.valuesOf held)).flatMap (declarations held)
  match Longhand.find? held "background-clip" with
  | some clip =>
    let usual := held.map fun l =>
      if l.name = "background-clip" then
        { l with values := l.values.map fun _ => "border-box", fronts := [""] }
      else l
    match Group.background.write (Longhand.valuesOf usual) with
    | [s] =>
      if clip.fronts != [""] && s.name = "background" then
        declarations usual s ++ [clip.alone]
      else plain held
    | _ => plain held
  | none => plain held

/-- The declarations of what a group holds. -/
def write (g : Group) (held : List Longhand) : List Declaration :=
  let base :=
    match g with
    | .background => background held
    | g => (g.write (Longhand.valuesOf held)).flatMap (declarations held)
  let said := base.flatMap fun d => d.longhands.map (·.name)
  let isSaid (n : String) : Bool := said.contains n || said.contains (Border.physical n)
  (held.filter fun l => !isSaid l.name).map Longhand.alone ++ base

end Gather

/-- A block while it is put in order: what is written, and what each group holds. -/
structure Gathering where
  written : List Declaration
  held : List (Group × List Longhand)

namespace Gathering

def of (g : Group) (s : Gathering) : List Longhand := (s.held.lookup g).getD []

def hold (g : Group) (ls : List Longhand) (s : Gathering) : Gathering :=
  { s with held := (g, ls) :: s.held.filter fun (h, _) => h != g }

/-- Writes what a group holds. -/
def flush (g : Group) (s : Gathering) : Gathering :=
  match s.of g with
  | [] => s
  | ls => { hold g [] s with written := s.written ++ Gather.write g ls }

def push (d : Declaration) (s : Gathering) : Gathering := { s with written := s.written ++ [d] }

/-- Puts a declaration where another of its name stands, if there is one. -/
def replace (d : Declaration) (s : Gathering) : Gathering :=
  if s.written.any (·.name == d.name) then
    { s with written := s.written.map fun e => if e.name = d.name then d else e }
  else s.push d

/-- Puts a declaration where the last of its name stands if that says the same or goes under the
same mark. -/
def merge (d : Declaration) (s : Gathering) : Gathering :=
  let (after, found) := s.written.reverse.span fun e =>
    e.name != d.name || e.longhands.isEmpty
  match found with
  | e :: before =>
    if e.value = d.value || d.fronts.all e.fronts.contains then
      let e := { d with fronts := Front.union e.fronts d.fronts }
      { s with written := (after ++ e :: before).reverse }
    else s.push d
  | [] => s.push d

/-! ## What a group holds -/

/-- Whether a longhand speaks of the start or the end of an axis, not of a side. -/
def isLogical (name : String) : Bool :=
  let parts := name.splitOn "-"
  parts.contains "block" || parts.contains "inline" || parts.contains "start" ||
    parts.contains "end"

/-- Names of ways to lay a box out of which one is meant for those who know no other. -/
def flexible (value : String) : Bool :=
  ["flex", "-webkit-flex", "-ms-flexbox", "-webkit-box", "-moz-box"].contains value

def inlineFlexible (value : String) : Bool :=
  ["inline-flex", "-webkit-inline-flex", "-ms-inline-flexbox", "-webkit-inline-box",
    "-moz-inline-box"].contains value

/-- Whether a group has to be written before a declaration is put with what it holds. -/
def clashes (g : Group) (d : Declaration) (held : List Longhand) : Bool :=
  let turns :=
    match d.longhands, held with
    | l :: _, h :: _ => isLogical l.name != isLogical h.name
    | _, _ => false
  match g with
  | .display =>
    match d.longhands, held with
    | [⟨_, [a], _⟩], [⟨_, [b], _⟩] =>
      a != b && (flexible a && flexible b || inlineFlexible a && inlineFlexible b)
    | _, _ => false
  | .background => d.name != "background" && d.longhands.any (Longhand.opposes held)
  | .position => false
  | .border => d.name != "border" && turns
  | g => g.isSided && turns || d.longhands.any (Longhand.opposes held)

/-- The two names for a box that sticks stay side by side. -/
def sticking (v : String) (held : List String) : List String :=
  let sticks (v : String) : Bool := v = "-webkit-sticky" || v = "sticky"
  if sticks v && held.head?.any sticks then
    ["-webkit-sticky", "sticky"].filter (v :: held).contains
  else [v]

/-- A transform takes up those of one kind that follow it. -/
def transforms (ls held : List Longhand) : List Longhand :=
  let single := ["translate", "rotate", "scale"]
  match ls with
  | [l] =>
    if l.name = "transform" then Longhand.put (held.filter fun m => !single.contains m.name) l
    else if held.any (·.name == "transform") then
      held.map fun m =>
        if m.name = "transform" then
          let before := m.values.filter (· != "none")
          { m with values :=
              [String.join before ++ Transform.asFunction l.name (l.values.headD "")] }
        else m
    else Longhand.put held l
  | ls => ls.foldl Longhand.put held

/-- What a group holds once it has taken up a declaration. -/
def joined (g : Group) (d : Declaration) (held : List Longhand) : List Longhand :=
  let all := d.longhands.foldl Longhand.put
  match g with
  | .position =>
    match d.longhands, held with
    | [⟨n, [v], fs⟩], [⟨_, ws, _⟩] => [⟨n, sticking v ws, fs⟩]
    | _, _ => all held
  | .background => if d.name = "background" then d.longhands else all held
  | .border => if d.name = "border" then d.longhands else all held
  | .transform => transforms d.longhands held
  | _ => all held

/-- One declaration more.  A value that is not understood stays where it is, behind all that its
group holds, and behind the sizes. -/
def add (s : Gathering) (d : Declaration) : Gathering :=
  if d.isCustom then s.replace d
  else
    match d.fronts.head?.bind fun f => Property.find? (f ++ d.name.toLower) with
    | none =>
      if d.name.toLower = "all" then
        ⟨s.written.filter (·.isCustom) ++ [d], []⟩
      else s.push d
    | some (_, _, p) =>
      let understood := !d.longhands.isEmpty
      match p.placing with
      | .held g =>
        if understood then
          let s := if clashes g d (s.of g) then s.flush g else s
          let s := if d.name = "border" then s.hold .borderImage [] else s
          s.hold g (joined g d (s.of g))
        else
          let s := if g.isBeforeSize then s else s.flush .size
          (s.flush g).push d
      | .replaced => (if understood then s else s.flush .size).replace d
      | .merged => if understood then s.merge d else (s.flush .size).push d
      | .kept => (if understood then s else s.flush .size).push d

def finish (s : Gathering) : List Declaration :=
  (Group.all.foldl (fun s g => s.flush g) s).written

end Gathering

end ScopedViews.Css

import ScopedViews.Css.Rule
/-!
# Minifying style sheets

A sheet keeps its meaning and loses what it can do without: rules that say nothing, rules that a
later one overrides, and neighbours that can be said as one.
-/

namespace ScopedViews.Css

namespace Rule

/-! ## One rule out of two -/

def sameSelectors (a b : List Selector) : Bool := a.map (·.text) == b.map (·.text)

/-- Whether two lists of selectors say the same apart from makers. -/
def alike (a b : List Selector) : Bool := a.map (·.baseText) == b.map (·.baseText)

def known (ss : List Selector) : Bool := ss.all (·.known)

/-- A rule that says what two neighbours say, if there is one. -/
def join? (a b : Rule) : Option Rule :=
  match a, b with
  | .style h d [], .style k e [] =>
    let s := h.selectors
    let t := k.selectors
    if sameSelectors s t && known s then some (.style h (d.append e).minified [])
    else if d != e then none
    else if !h.fronts.isEmpty && !k.fronts.isEmpty && alike s t then
      some (.style { h with fronts := Front.union h.fronts k.fronts } d [])
    else if known s && known t then some (.style { h with selectors := s ++ t } d [])
    else none
  | _, _ => none

/-- Whether a later rule sets all that an earlier one does, for the same elements. -/
def overrides (later earlier : Rule) : Bool :=
  match later, earlier with
  | .style h d [], .style k e [] => sameSelectors h.selectors k.selectors && d.names == e.names
  | _, _ => false

/-- Joins the last rule with those before it as far as possible. -/
def settle : Nat → Rule → List Rule → List Rule
  | 0, r, acc => r :: acc
  | fuel + 1, r, acc =>
    match acc with
    | prev :: more =>
      match join? prev r with
      | some j => settle fuel j more
      | none => r :: acc
    | [] => [r]

/-- Adds a style rule to those before it, the last first. -/
def addStyle (r : Rule) (acc : List Rule) : List Rule :=
  let joined :=
    match acc with
    | prev :: more => (join? prev r).map fun j => settle acc.length j more
    | [] => none
  match joined with
  | some acc => acc
  | none =>
    match r with
    | .style _ d rules =>
      if d.isEmpty && rules.isEmpty then acc
      else if rules.isEmpty then r :: acc.eraseP fun e => overrides r e
      else r :: acc
    | r => r :: acc

/-! ## Lists of rules -/

/-- The rules of layers of one name together, where the first of them stands. -/
def gatherLayers (rules : List Rule) : List Rule :=
  (rules.foldl step []).reverse
where
  has (n : String) : Rule → Bool
    | .layer m _ => n = m
    | _ => false
  add (n : String) (more : List Rule) : Rule → Rule
    | .layer m rules => if n = m then .layer m (rules ++ more) else .layer m rules
    | r => r
  put (acc : List Rule) (n : String) (more : List Rule) : List Rule :=
    let near := acc.takeWhile fun r =>
      match r with
      | .imported _ _ => false
      | _ => true
    if !n.isEmpty && near.any (has n) then
      near.map (add n more) ++ acc.drop near.length
    else .layer n more :: acc
  step (acc : List Rule) (r : Rule) : List Rule :=
    match r with
    | .layer n rules => put acc n rules
    | .layers names => names.foldl (fun acc n => put acc n []) acc
    | r => r :: acc

/-- Empty layers as statements that name them in order; those named before go. -/
def nameLayers (rules : List Rule) : List Rule :=
  (rules.foldl step ([], [], false)).1.reverse
where
  step (s : List Rule × List String × Bool) (r : Rule) : List Rule × List String × Bool :=
    let (acc, seen, naming) := s
    match r with
    | .layer n [] =>
      if n.isEmpty || seen.contains n then (acc, seen, naming)
      else if naming then (extend n acc, n :: seen, true)
      else (.layers [n] :: acc, n :: seen, true)
    | .layer n rules => (.layer n rules :: acc, seen, false)
    | .imported t (some n) => (.imported t (some n) :: acc, n :: seen, false)
    | r => (r :: acc, seen, naming)
  /-- Adds a name to the last statement. -/
  extend (n : String) : List Rule → List Rule
    | .layers ns :: acc => .layers (ns ++ [n]) :: acc
    | r :: acc => r :: extend n acc
    | [] => []

/-- Rules that have been minified each for itself, put together.  `fuel` bounds how deep rules that
are joined may hold others. -/
def arrange : Nat → List Rule → List Rule
  | 0, rules => rules
  | fuel + 1, rules =>
    let rules := gatherLayers rules
    let step (acc : List Rule) (r : Rule) : List Rule :=
      match r with
      | .style _ _ _ => addStyle r acc
      | .behind d => if d.isEmpty then acc else r :: acc
      | .media q inner =>
        match acc with
        | .media p before :: more =>
          if Query.mediaText p = Query.mediaText q then
            .media p (arrange fuel (before ++ inner)) :: more
          else addMedia q inner acc
        | acc => addMedia q inner acc
      | .under h inner =>
        match acc with
        | .under g before :: more =>
          if g = h && h.startsWith "@supports" || g = h && h.startsWith "@container" then
            .under g (arrange fuel (before ++ inner)) :: more
          else if inner.isEmpty then acc
          else r :: acc
        | acc => if inner.isEmpty then acc else r :: acc
      | .layer n inner => .layer n (arrange fuel inner) :: acc
      | .keyframes h n _ =>
        if acc.any (same h n) then acc.map fun e => if same h n e then r else e
        else r :: acc
      | r => r :: acc
    nameLayers (rules.foldl step []).reverse
where
  addMedia (q : List Query.Medium) (inner acc : List Rule) : List Rule :=
    if inner.isEmpty || (!q.isEmpty && q.all (·.never)) then acc else .media q inner :: acc
  same (h n : String) : Rule → Bool
    | .keyframes g m _ => g = h && m = n
    | _ => false

/-- How deep a sheet's rules are joined. -/
def depth : Nat := 64

mutual

/-- A rule with all that it holds minified. -/
def minified : Rule → Rule
  | .style h d rules =>
    .style { h with fronts := Selector.frontsOf h.selectors } d.minified
      (arrange depth (minifiedAll rules))
  | .behind d => .behind d.minified
  | .media q rules => .media q (arrange depth (minifiedAll rules))
  | .under h rules => .under h (arrange depth (minifiedAll rules))
  | .layer n rules => .layer n (arrange depth (minifiedAll rules))
  | .keyframes h n frames => .keyframes h n (frames.map fun (ms, d) => (ms, d.minified))
  | .layers ns => .layers ns
  | .declared h d boxes => .declared h d boxes
  | .imported t l => .imported t l
  | .plain t => .plain t

def minifiedAll : List Rule → List Rule
  | [] => []
  | r :: rules => minified r :: minifiedAll rules

end

/-! ## Writing -/

def braces (head body : String) : String := head ++ "\x7b" ++ body ++ "\x7d"

/-- The steps of an animation; neighbours that set the same share a step. -/
def framesText (frames : List Frame) : String :=
  String.join (frames.map fun (ms, d) => braces (",".intercalate ms) d.text)

mutual

def text : Rule → String
  | .style h d rules =>
    let inner := d.text ++ (if d.isEmpty || rules.isEmpty then "" else ";") ++ texts rules
    if h.fronts.isEmpty then braces (Selector.textOf none h.selectors) inner
    else String.join (h.fronts.map fun f => braces (Selector.textOf (some f) h.selectors) inner)
  | .behind d => d.text
  | .media q rules =>
    if q.all (·.always) then texts rules
    else braces ("@media " ++ Query.mediaText q) (texts rules)
  | .under h rules => braces h (texts rules)
  | .layer n rules => braces (if n.isEmpty then "@layer" else "@layer " ++ n) (texts rules)
  | .layers ns => "@layer " ++ ",".intercalate ns ++ ";"
  | .keyframes h n frames => braces (h ++ " " ++ n) (framesText frames)
  | .declared h d boxes =>
    let inner := String.join (boxes.map fun (name, e) => braces name e.text)
    braces h (d.text ++ (if d.isEmpty || boxes.isEmpty then "" else ";") ++ inner)
  | .imported t _ => t
  | .plain t => t

/-- Rules one after another; declarations that others follow end in a semicolon. -/
def texts : List Rule → String
  | [] => ""
  | [r] => text r
  | r :: s :: rules => text r ++ (if isBehind r then ";" else "") ++ texts (s :: rules)

def isBehind : Rule → Bool
  | .behind _ => true
  | _ => false

end

end Rule

/-- What stands in front of `*/`, and what follows it; a comment may break off. -/
def splitComment : List Char → List Char × List Char
  | [] => ([], [])
  | '*' :: '/' :: rest => ([], rest)
  | c :: rest => let (inside, rest) := splitComment rest; (c :: inside, rest)

theorem splitComment_length (cs : List Char) :
    (splitComment cs).2.length ≤ cs.length := by
  fun_induction splitComment cs <;> simp_all <;> omega

/-- The comments in front of a sheet that begin with an exclamation mark, each on its line.  They
stay, for they may name its terms of use. -/
def notices : List Char → String
  | '/' :: '*' :: '!' :: rest =>
    "/*!" ++ String.ofList (splitComment rest).1 ++ "*/\n" ++ notices (splitComment rest).2
  | c :: rest => if Token.isBlank c then notices rest else ""
  | [] => ""
termination_by cs => cs.length
decreasing_by
  · have := splitComment_length rest
    simp only [List.length_cons]
    omega
  · simp

/-- The shortest form of a style sheet, if it can be read. -/
def minify? (source : String) : Option String :=
  (Rule.read? source).map fun rules =>
    notices source.toList ++ Rule.texts (Rule.arrange Rule.depth (Rule.minifiedAll rules))

end ScopedViews.Css

import ScopedViews.Proofs.Sandbox.Trace
/-!
# Function declarations

Where a list of statements is run as a block, the functions that it declares are bound first, so
that they can be called in front of their declarations; of several with one name the last one is
bound.  A program is run in this way, and so are blocks and the bodies of functions.  The list of a
case is not: its statements are run one after the other as they stand, and a declaration that is run
does nothing.

* `Machine.declare`, `hoist_eq`: what binding the declarations of a list does to a machine;
* `StatementList`, `Enters`: the lists that are run, and where;
* `StatementList.BindsDeclarations`: the declarations of a list are bound where it is run from;
* `declarations_bound_iff`: the lists whose declarations are bound.
-/

namespace ScopedViews.Sandbox

open Script

/-! ## Bindings of the innermost frame -/

namespace Machine

/-- The frame that names are bound in. -/
def innermost (m : Machine) : Frame :=
  match m.locals with
  | [] => m.global
  | f :: _ => f

def bind (m : Machine) (name : String) (v : Value) : Machine :=
  match m.locals with
  | [] => { m with global := m.global.insert name v }
  | f :: rest => { m with locals := f.insert name v :: rest }

variable (m : Machine) (name : String) (v : Value)

theorem innermost_bind : (m.bind name v).innermost = m.innermost.insert name v := by
  obtain ⟨heap, _ | ⟨f, rest⟩, global, functions, made, steps⟩ := m <;> rfl

@[simp] theorem bind_made : (m.bind name v).made = m.made := by
  obtain ⟨heap, _ | ⟨f, rest⟩, global, functions, made, steps⟩ := m <;> rfl

@[simp] theorem bind_functions : (m.bind name v).functions = m.functions := by
  obtain ⟨heap, _ | ⟨f, rest⟩, global, functions, made, steps⟩ := m <;> rfl

end Machine

theorem Run.define_eq (name : String) (v : Value) (m : Machine) :
    Run.define name v m = .ok () (m.bind name v) := by
  obtain ⟨heap, _ | ⟨f, rest⟩, global, functions, made, steps⟩ := m <;> rfl

/-! ## Declaring functions -/

/-- The function that a statement declares, with its name. -/
def declaration? : Stmt → Option (String × Function)
  | .function f => f.parts.name.map fun name => (name.text, f)
  | _ => none

/-- The functions that are declared by members of a list. -/
def declarations (body : List Stmt) : List (String × Function) := body.filterMap declaration?

/-- Makes a function value of a declaration and binds its name to it. -/
def Machine.declare (source : String) (m : Machine) (d : String × Function) : Machine :=
  let span := d.2.parts.span
  { m with functions := m.functions.insert span.start d.2, made := m.made + 1 }.bind d.1
    (.function ⟨m.made, span.start, slice source span⟩)

theorem functionValue_eq (scene : Scene) (f : Function) (m : Machine) :
    functionValue scene f m =
      .ok (.function ⟨m.made, f.parts.span.start, slice scene.source f.parts.span⟩)
        { m with functions := m.functions.insert f.parts.span.start f, made := m.made + 1 } := by
  cases f
  rfl

theorem hoist_eq (scene : Scene) (body : List Stmt) (m : Machine) :
    hoist scene body m =
      .ok () ((declarations body).foldl (Machine.declare scene.source) m) := by
  induction body generalizing m with
  | nil => rfl
  | cons s body ih =>
      cases s
      case function f =>
        obtain ⟨span, form, name, isAsync, generator, params, bodySpan, directives, inner,
          concise⟩ := f
        cases name with
        | none => exact ih m
        | some name =>
            rw [hoist, Run.bind_of_ok (functionValue_eq _ _ _),
              Run.bind_of_ok (Run.define_eq _ _ _)]
            exact ih _
      all_goals exact ih m

section Declared

variable (source : String) (ds : List (String × Function)) (m : Machine)

theorem made_foldl_declare : (ds.foldl (Machine.declare source) m).made = m.made + ds.length := by
  induction ds generalizing m with
  | nil => rfl
  | cons d ds ih =>
      rw [List.foldl_cons, ih, Machine.declare, Machine.bind_made, List.length_cons]
      exact Nat.succ_add_eq_add_succ m.made ds.length

/-- Names that are not declared are left alone. -/
theorem innermost_foldl_declare {name : String} (h : name ∉ ds.map Prod.fst) :
    (ds.foldl (Machine.declare source) m).innermost.get? name = m.innermost.get? name := by
  induction ds generalizing m with
  | nil => rfl
  | cons d ds ih =>
      rw [List.map_cons, List.mem_cons, not_or] at h
      rw [List.foldl_cons, ih _ h.2, Machine.declare, Machine.innermost_bind,
        OrderedMap.get?_insert_of_ne h.1]
      rfl

theorem functions_foldl_declare {start : Nat} (h : ∀ d ∈ ds, d.2.parts.span.start ≠ start) :
    (ds.foldl (Machine.declare source) m).functions.get? start = m.functions.get? start := by
  induction ds generalizing m with
  | nil => rfl
  | cons d ds ih =>
      rw [List.forall_mem_cons] at h
      rw [List.foldl_cons, ih _ h.2, Machine.declare, Machine.bind_functions,
        OrderedMap.get?_insert_of_ne h.1.symm]

end Declared

/-! ## Lists of statements -/

/-- How the statements of a list are run: as those of a block, or as those of a case. -/
inductive ListForm where
  | block | case
deriving DecidableEq

/-- A list of statements that is run with a number of free frames, and the machine on which it is
come to. -/
structure StatementList where
  source : String
  free : Nat
  form : ListForm
  body : List Stmt
  machine : Machine

namespace StatementList

variable (l : StatementList)

def scene : Scene := ⟨l.source, invoke l.source l.free⟩

/-- The machine on which the first statement is run. -/
def start : Machine :=
  match l.form with
  | .block => Ending.machine (hoist l.scene l.body l.machine)
  | .case => l.machine

/-- The statements, one after the other. -/
def statements : Point where
  run := executeAll l.scene l.body
  plan := @Plan.executeAll l.scene (Plan.invoke l.source l.free) l.body
  machine := l.start

/-- Each function that a member of the list declares is bound to its name in the innermost frame
where the first statement is run, by a function value that has been made for the list.  Of several
with one name the last is bound, and of several that start at one place the last is registered.
Other names of the frame are left alone. -/
structure BindsDeclarations : Prop where
  bound : ∀ front name f back, declarations l.body = front ++ (name, f) :: back →
    name ∉ back.map Prod.fst → ∃ id, l.machine.made ≤ id ∧ id < l.start.made ∧
      l.start.innermost.get? name =
        some (.function ⟨id, f.parts.span.start, slice l.source f.parts.span⟩)
  registered : ∀ front name f back, declarations l.body = front ++ (name, f) :: back →
    (∀ d ∈ back, d.2.parts.span.start ≠ f.parts.span.start) →
      l.start.functions.get? f.parts.span.start = some f
  kept : ∀ name, name ∉ (declarations l.body).map Prod.fst →
    l.start.innermost.get? name = l.machine.innermost.get? name

end StatementList

/-- The points at which lists of statements are run: programs, blocks, among them the blocks of
`try` statements, bodies of functions that are called, and the cases of a switch from the one that
is selected on. -/
inductive Enters : Point → StatementList → Prop
  | program (source : String) (p : Program) :
      Enters (.ofProgram source p) ⟨source, maxCallDepth, .block, p.body, .initial⟩
  | block (source : String) (free : Nat) (span : Span) (body : List Stmt) (m : Machine) :
      Enters ⟨@Plan.execute ⟨source, invoke source free⟩ (Plan.invoke source free)
        (.block span body), m⟩ ⟨source, free, .block, body, m⟩
  | function (source : String) (free : Nat) (body : List Stmt) (m : Machine) :
      Enters ⟨@Plan.runBody ⟨source, invoke source free⟩ (Plan.invoke source free) false body, m⟩
        ⟨source, free, .block, body, m⟩
  | case (source : String) (free : Nat) (span : Span) (test : Option Expr) (body : List Stmt)
      (rest : List Case) (m : Machine) :
      Enters ⟨@Plan.executeCases ⟨source, invoke source free⟩ (Plan.invoke source free) 0
        (.mk span test body :: rest), m⟩ ⟨source, free, .case, body, m⟩

/-! ## Where the declarations are bound -/

section Lists

variable {q : Point} {l : StatementList}

theorem StatementList.start_of_block (h : l.form = .block) :
    l.start = (declarations l.body).foldl (Machine.declare l.source) l.machine := by
  rw [start, h, hoist_eq]
  rfl

theorem StatementList.start_of_case (h : l.form = .case) : l.start = l.machine := by
  rw [start, h]

/-- Where a list is run, its statements are come to on the machine on which the first one is to be
run. -/
theorem reaches_statements (h : Enters q l) : Reaches q l.statements := by
  have hhoist (scene : Scene) (body : List Stmt) (m : Machine) :
      hoist scene body m = .ok () (Ending.machine (hoist scene body m)) := by
    rw [hoist_eq]
    rfl
  cases h with
  | program => exact .single (.next (hhoist _ _ _))
  | block => exact .single (.next (hhoist _ _ _))
  | function => exact .head .map (.single (.next (hhoist _ _ _)))
  | case => exact .single .first

theorem bindsDeclarations_of_block (h : l.form = .block) : l.BindsDeclarations where
  bound front name f back hsplit hname := by
    have hstart := l.start_of_block h
    rw [hsplit, List.foldl_append, List.foldl_cons] at hstart
    refine ⟨l.machine.made + front.length, Nat.le_add_right _ _, ?_, ?_⟩
    · rw [l.start_of_block h, made_foldl_declare, hsplit, List.length_append, List.length_cons]
      omega
    · rw [hstart, innermost_foldl_declare _ _ _ hname, Machine.declare, Machine.innermost_bind,
        OrderedMap.get?_insert_self, made_foldl_declare]
  registered front name f back hsplit hstarts := by
    have hstart := l.start_of_block h
    rw [hsplit, List.foldl_append, List.foldl_cons] at hstart
    rw [hstart, functions_foldl_declare _ _ _ hstarts, Machine.declare, Machine.bind_functions,
      OrderedMap.get?_insert_self]
  kept name hname := by
    rw [l.start_of_block h, innermost_foldl_declare _ _ _ hname]

/-- In the list of a case nothing is bound before the first statement. -/
theorem bindsDeclarations_iff :
    l.BindsDeclarations ↔ (l.form = .case → declarations l.body = []) := by
  cases hform : l.form with
  | block => exact iff_of_true (bindsDeclarations_of_block hform) nofun
  | case =>
      have hstart := l.start_of_case hform
      constructor
      · intro h _
        rcases List.eq_nil_or_concat (declarations l.body) with hnone | ⟨front, ⟨name, f⟩, hlast⟩
        · exact hnone
        · -- no function value has been made that could be bound
          rw [List.concat_eq_append] at hlast
          obtain ⟨id, hle, hlt, -⟩ := h.bound front name f [] hlast List.not_mem_nil
          rw [hstart] at hlt
          exact absurd hlt (Nat.not_lt_of_le hle)
      · intro h
        have hnone := h rfl
        exact ⟨fun front name f back hsplit => by simp [hnone] at hsplit,
          fun front name f back hsplit => by simp [hnone] at hsplit,
          fun name _ => by rw [hstart]⟩

/-- Wherever a list of statements is run, its declarations are bound where its first statement
starts exactly if it is not the list of a case or declares no function. -/
theorem declarations_bound_iff (h : Enters q l) :
    Reaches q l.statements ∧
    (∀ s rest, l.body = s :: rest →
      Reaches q ⟨@Plan.execute l.scene (Plan.invoke l.source l.free) s, l.start⟩) ∧
    (l.BindsDeclarations ↔ (l.form = .case → declarations l.body = [])) := by
  have hstatements := reaches_statements h
  refine ⟨hstatements, fun s rest hbody => ?_, bindsDeclarations_iff⟩
  obtain ⟨source, free, form, body, m⟩ := l
  obtain rfl : body = s :: rest := hbody
  exact hstatements.tail .first

end Lists

/-- Two functions with one name, which is read in front of their declarations. -/
def declaredTwice : String :=
  "exports.init = f; function f(a) { } function f(b) { }"

/-- The name is bound to the second one. -/
theorem declarations_bound_declaredTwice :
    ∃ p l, Program.parse? declaredTwice = some p ∧ Enters (.ofProgram declaredTwice p) l ∧
      (declarations l.body).map Prod.fst = ["f", "f"] ∧ l.BindsDeclarations ∧
      describe declaredTwice = .ok ⟨[], [], some "function f(b) { }", none⟩ := by
  have hnames : (Program.parse? declaredTwice).map
      (fun p => (declarations p.body).map Prod.fst) = some ["f", "f"] := by decide +kernel
  have hresult : (describe declaredTwice).toOption =
      some ⟨[], [], some "function f(b) { }", none⟩ := by decide +kernel
  obtain ⟨p, hparse, hnames⟩ := Option.map_eq_some_iff.1 hnames
  have henters := Enters.program declaredTwice p
  exact ⟨p, _, hparse, henters, hnames, (declarations_bound_iff henters).2.2.2 nofun,
    describe_eq_ok hresult⟩

/-- The list of the only case of a program that is one `switch` on `null`. -/
def onlyCase? (p : Program) : Option (List Stmt) :=
  match p.body with
  | [.switch _ (.null _) [.mk _ (some (.null _)) body]] => some body
  | _ => none

theorem exists_enters_onlyCase {source : String} {p : Program} {body : List Stmt}
    (h : onlyCase? p = some body) : ∃ q, Reaches (.ofProgram source p) q ∧
      Enters q ⟨source, maxCallDepth, .case, body, .initial⟩ := by
  obtain ⟨span, hashbang, directives, statements⟩ := p
  unfold onlyCase? at h
  split at h
  next switchSpan subjectSpan caseSpan testSpan body' hbody =>
      obtain rfl := Option.some.inj h
      obtain rfl := hbody
      -- nothing is bound by the program, and the subject is that of the case
      have hfirst : hoist (Scene.ofSource source) [.switch switchSpan (.null subjectSpan)
          [.mk caseSpan (some (.null testSpan)) body']] .initial = .ok () .initial := rfl
      have hmatch : matchCase (Scene.ofSource source) .null
          [.mk caseSpan (some (.null testSpan)) body'] 0 .initial = .ok (some 0) .initial := rfl
      have hsubject : Link.settle (evaluate (Scene.ofSource source) (.null subjectSpan)) .initial =
          .ok .null .initial := rfl
      exact ⟨_, .head (.next hfirst) (.head .first (.head (.next hsubject)
        (.single (.next hmatch)))), .case ..⟩
  next => cases h

/-- A function that is called in front of its declaration in the list of a case. -/
def declaredInCase : String :=
  "switch (null) { case null: f(); function f() { } }"

/-- The name of the function is not bound where it is called. -/
theorem not_declarations_bound :
    ∃ p q l, Program.parse? declaredInCase = some p ∧ Reaches (.ofProgram declaredInCase p) q ∧
      Enters q l ∧ (declarations l.body).map Prod.fst = ["f"] ∧ ¬ l.BindsDeclarations ∧
      describe declaredInCase = .error (.fault (.exception (.reference "f"))) := by
  have hnames : ((Program.parse? declaredInCase).bind onlyCase?).map
      (fun body => (declarations body).map Prod.fst) = some ["f"] := by decide +kernel
  have hresult : faultOf? (describe declaredInCase) = some (.exception (.reference "f")) := by
    decide +kernel
  obtain ⟨body, hcase, hnames⟩ := Option.map_eq_some_iff.1 hnames
  obtain ⟨p, hparse, hbody⟩ := Option.bind_eq_some_iff.1 hcase
  obtain ⟨q, hq, henters⟩ := exists_enters_onlyCase hbody
  refine ⟨p, q, _, hparse, hq, henters, hnames, fun hbinds => ?_, eq_error_of_faultOf? hresult⟩
  have hnone := bindsDeclarations_iff.1 hbinds rfl
  rw [show declarations body = [] from hnone] at hnames
  cases hnames

end ScopedViews.Sandbox

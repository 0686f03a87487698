import Mathlib.Tactic.Common
import ScopedViews.Proofs.Sandbox.Upkeep.Expressions
/-!
# Laws along the execution of statements

Statements, bodies of functions and whole programs keep a law that allows their literals and
definitions.  On the way no loop uses up its rounds, for each round costs a step and there are more
rounds than steps.

* `Plan.sound_loopWhile`, `Plan.sound_loopUntil`, `Plan.sound_loopOver`: loops;
* `Plan.sound_execute`: statements;
* `Plan.sound_invoke`: calls, by the number of free frames;
* `Point.upholds_of_respects`, `Point.fine_of_respects`: whole programs.
-/

namespace ScopedViews.Sandbox

open Script

namespace Plan

variable {L : Law} {free : Nat} {m : Machine}

/-! ## Loops -/

theorem steps_le_of_ok {α : Type} {x : Run α} (p : Plan x) {a : α} {m' : Machine}
    (h : x m = .ok a m') : m.steps ≤ m'.steps := by
  have hle := p.steps_le m
  rwa [h] at hle

/-- A tick that is let in finds a step left and takes it. -/
theorem tick_ok {u : Unit} {m' : Machine} (h : Run.tick m = .ok u m') :
    m.steps < maxSteps ∧ m'.steps = m.steps + 1 := by
  have htick : Run.tick m = _ := charge_eq 1 m
  rw [h] at htick
  split at htick
  next => cases htick
  next hlet =>
    cases htick
    exact ⟨by omega, rfl⟩

theorem sound_tick : (leaf .tick).Sound L free (fun _ => True) m :=
  sound_leaf .tick fun _ => Law.keeps_charge 1

theorem carries_normal : Carries L .normal := nofun

theorem carries_returned {v : Value} (hv : L.Admits v) : Carries L (.returned v) := by
  intro w hw
  cases hw
  exact hv

theorem sound_afterBody {flow : Flow} {next : Run Flow} {p : Plan next} (hflow : Carries L flow)
    (hp : p.Sound L free (Carries L) m) : (afterBody flow p).Sound L free (Carries L) m := by
  cases flow with
  | normal | continued => exact hp
  | broke => exact sound_value carries_normal
  | returned v => exact sound_value hflow

section Loops

variable {test : Run Bool} {body : Run Flow} {update : Run Unit} {pt : Plan test} {pb : Plan body}
  {pu : Plan update}

/-- As long as a loop has more rounds left than the budget has steps, it does not use them up:
another tick that is let in takes one of each. -/
theorem sound_loopWhile (ht : ∀ m, pt.Sound L free (fun _ => True) m)
    (hb : ∀ m, pb.Sound L free (Carries L) m) (hu : ∀ m, pu.Sound L free (fun _ => True) m)
    {rounds : Nat} (hrounds : 0 < rounds) (hmore : maxSteps < m.steps + rounds) :
    (loopWhile pt pb pu rounds).Sound L free (Carries L) m := by
  induction rounds generalizing m with
  | zero => exact absurd hrounds (Nat.lt_irrefl 0)
  | succ rounds ih =>
      refine sound_bind sound_tick fun _ m₁ htick _ => ?_
      obtain ⟨hlet, hstep⟩ := tick_ok htick
      refine sound_bind (ht m₁) fun go m₂ htest _ => ?_
      have htest := pt.steps_le_of_ok htest
      refine sound_choose (fun _ => ?_) fun _ => sound_value carries_normal
      refine sound_bind (hb m₂) fun flow m₃ hbody hflow => sound_afterBody hflow ?_
      have hbody := pb.steps_le_of_ok hbody
      refine sound_bind (hu m₃) fun _ m₄ hupdate _ => ?_
      have hupdate := pu.steps_le_of_ok hupdate
      exact ih (by omega) (by omega)

theorem sound_loopUntil (hb : ∀ m, pb.Sound L free (Carries L) m)
    (ht : ∀ m, pt.Sound L free (fun _ => True) m) {rounds : Nat} (hrounds : 0 < rounds)
    (hmore : maxSteps < m.steps + rounds) :
    (loopUntil pb pt rounds).Sound L free (Carries L) m := by
  induction rounds generalizing m with
  | zero => exact absurd hrounds (Nat.lt_irrefl 0)
  | succ rounds ih =>
      refine sound_bind sound_tick fun _ m₁ htick _ => ?_
      obtain ⟨hlet, hstep⟩ := tick_ok htick
      refine sound_bind (hb m₁) fun flow m₂ hbody hflow => sound_afterBody hflow ?_
      have hbody := pb.steps_le_of_ok hbody
      refine sound_bind (ht m₂) fun go m₃ htest _ => ?_
      have htest := pt.steps_le_of_ok htest
      exact sound_choose (fun _ => ih (by omega) (by omega)) fun _ => sound_value carries_normal

theorem sound_loopOver {bind : Value → Run Unit} {pi : ∀ item, Plan (bind item)}
    (hi : ∀ item m, L.Admits item → (pi item).Sound L free (fun _ => True) m)
    (hb : ∀ m, pb.Sound L free (Carries L) m) {items : List Value}
    (hitems : ∀ v ∈ items, L.Admits v) :
    (loopOver pi pb items).Sound L free (Carries L) m := by
  induction items generalizing m with
  | nil => exact sound_value carries_normal
  | cons item rest ih =>
      refine sound_bind sound_tick fun _ m₁ _ _ => ?_
      refine sound_bind (hi item m₁ (hitems item List.mem_cons_self)) fun _ m₂ _ _ => ?_
      refine sound_bind (hb m₂) fun flow m₃ _ hflow => sound_afterBody hflow ?_
      exact ih fun v hv => hitems v (List.mem_cons_of_mem item hv)

end Loops

theorem maxSteps_lt_maxRounds (m : Machine) : maxSteps < m.steps + maxRounds := by
  simp only [maxRounds]
  omega

/-! ## Bindings -/

variable {scene : Scene} {calls : Calls scene.invoke}

theorem sound_define (name : String) {v : Value} (hv : L.Admits v) :
    (leaf (.define name v)).Sound L free (fun _ => True) m :=
  sound_leaf (.define name v) fun _ => Law.keeps_define name hv

theorem sound_hoist {scene : Scene} (hreads : L.Reads scene.source) {body : List Stmt}
    (hbody : L.Allows (Stmt.literalsOfAll body) (Stmt.definitionsOfAll body)) :
    (leaf (.hoist scene body)).Sound L free (fun _ => True) m :=
  sound_leaf_of_live (.hoist scene body) fun _ hlive => Law.keeps_hoist hreads hbody hlive

/-- The value of an expression, undefined where its chain was cut short. -/
theorem sound_valueOf (hscene : SoundScene L free calls) (e : Expr)
    (he : L.Allows e.literals e.definitions) (m : Machine) :
    (settle (evaluate calls e)).Sound L free L.Admits m :=
  sound_settle (sound_evaluate hscene e he m)

theorem sound_evaluateOption (hscene : SoundScene L free calls) {default : Value} {e : Option Expr}
    (hdefault : L.Admits default)
    (he : L.Allows (Expr.literalsOfOption e) (Expr.definitionsOfOption e)) (m : Machine) :
    (evaluateOption calls default e).Sound L free L.Admits m := by
  cases e with
  | none => exact sound_value hdefault
  | some e => exact sound_valueOf hscene e he m

theorem sound_bindItem (hscene : SoundScene L free calls) (declared : Option (Span × DeclKind))
    {targets : List Pattern}
    (htargets : L.Allows (Pattern.literalsOfAll targets) (Pattern.definitionsOfAll targets))
    (item : Value) (m : Machine) (hitem : L.Admits item) :
    (bindItem calls declared targets item).Sound L free (fun _ => True) m := by
  cases targets with
  | nil =>
      cases declared with
      | none => exact sound_value trivial
      | some head => exact sound_unsupported _ _
  | cons target rest =>
      rw [Pattern.literalsOfAll, Pattern.definitionsOfAll, Law.allows_append] at htargets
      cases declared with
      | none =>
          have hplace := sound_evaluatePlace hscene .assignmentTarget target htargets.1 m
          exact sound_bind hplace fun place _ _ _ => sound_write place hitem
      | some head =>
          obtain ⟨span, kind⟩ := head
          -- the plan branches on the name together with a proof of it
          unfold bindItem Sandbox.bindItem
          dsimp only
          generalize_proofs
          generalize boundName? target = bound at *
          cases bound with
          | none => exact sound_unsupported _ _
          | some name => exact sound_define name hitem

theorem sound_declare (hscene : SoundScene L free calls) (targets : List Pattern)
    (htargets : L.Allows (Pattern.literalsOfAll targets) (Pattern.definitionsOfAll targets))
    (m : Machine) :
    (declare calls targets).Sound L free (fun _ => True) m := by
  induction targets generalizing m with
  | nil => exact sound_value trivial
  | cons target rest ih =>
      rw [Pattern.literalsOfAll, Pattern.definitionsOfAll, Law.allows_append] at htargets
      obtain ⟨htarget, hrest⟩ := htargets
      cases target with
      | name span name =>
          have hname : (bind (leaf (.view _)) fun _ => choose (value ()) (leaf (.define name _)) :
              Plan (declareName name none)).Sound L free (fun _ => True) m :=
            sound_bind (sound_look _) fun here _ _ _ =>
              sound_choose (fun _ => sound_value trivial) fun _ => sound_define name trivial
          exact sound_bind hname fun _ m' _ _ => ih hrest m'
      | default span target e =>
          rw [Pattern.literals, Pattern.definitions, Law.allows_append] at htarget
          cases target with
          | name span name =>
              have hname : (bind (settle (evaluate calls e)) fun _ => leaf (.define name _) :
                  Plan (declareName name (some _))).Sound L free (fun _ => True) m :=
                sound_bind (sound_valueOf hscene e htarget.2 m) fun v _ _ hv => sound_define name hv
              exact sound_bind hname fun _ m' _ _ => ih hrest m'
          | _ => exact sound_unsupported _ _
      | _ => exact sound_unsupported _ _

/-! ## Statements -/

theorem sound_thrownText {v : Run Value} {p : Plan v} (hp : p.Sound L free L.Admits m) :
    (thrownText p).Sound L free (fun _ => True) m :=
  sound_bind hp fun _ _ _ _ => sound_look _

theorem sound_errorText {name : String} {message : Run String} {p : Plan message}
    (hp : p.Sound L free (fun _ => True) m) :
    (bind p fun _ => value _ : Plan (errorText name message)).Sound L free (fun _ => True) m :=
  sound_bind hp fun _ _ _ _ => sound_value trivial

theorem sound_evaluateThrown (hscene : SoundScene L free calls) (e : Expr)
    (he : L.Allows e.literals e.definitions) (m : Machine) :
    (evaluateThrown calls e).Sound L free (fun _ => True) m := by
  have hvalue := sound_thrownText (sound_valueOf hscene e he m)
  cases e with
  | pure span inner => exact sound_evaluateThrown hscene inner he m
  | construct span callee arguments =>
      cases callee with
      | name calleeSpan name =>
          refine sound_choose (fun _ => sound_errorText ?_) fun _ => hvalue
          cases arguments with
          | nil => exact sound_value trivial
          | cons argument rest =>
              rw [Expr.literals, Expr.definitions, Law.allows_append, Expr.literalsOfAll,
                Expr.definitionsOfAll, Law.allows_append] at he
              have hargument := sound_thrownText (sound_valueOf hscene argument he.2.1 m)
              cases argument with
              | spread => exact sound_value trivial
              | _ => exact hargument
      | _ => exact hvalue
  | _ => exact hvalue

theorem sound_matchCase (hscene : SoundScene L free calls) (subject : Value) (cases : List Case)
    (i : Nat) (hcases : L.Allows (Case.literalsOfAll cases) (Case.definitionsOfAll cases))
    (m : Machine) :
    (matchCase calls subject cases i).Sound L free (fun _ => True) m := by
  induction cases generalizing i m with
  | nil => exact sound_value trivial
  | cons case rest ih =>
      rw [Case.literalsOfAll, Case.definitionsOfAll, Law.allows_append] at hcases
      obtain ⟨hcase, hrest⟩ := hcases
      obtain ⟨span, test, body⟩ := case
      cases test with
      | none => exact ih (i + 1) hrest m
      | some test =>
          rw [Case.literals, Case.definitions, Law.allows_append] at hcase
          refine sound_bind (sound_valueOf hscene test hcase.1 m) fun v m' _ _ => ?_
          exact sound_choose (fun _ => sound_value trivial) fun _ => ih (i + 1) hrest m'

theorem sound_visited (v : Value) :
    (leaf (.view fun m => v.keys m.heap)).Sound L free (fun keys => ∀ key ∈ keys, L.text key) m :=
  sound_leaf (.view _) fun hrespects => Law.keeps_view fun _ key hkey =>
    hrespects.text key (.visited hkey)

mutual

/-- Statements keep a law that allows them. -/
theorem sound_execute (hscene : SoundScene L free calls) (s : Stmt)
    (hs : L.Allows s.literals s.definitions) (m : Machine) :
    (execute calls s).Sound L free (Carries L) m := by
  cases s with
  | empty | function | debugger => exact sound_value carries_normal
  | expression span e =>
      exact sound_bind (sound_valueOf hscene e hs m) fun _ _ _ _ => sound_value carries_normal
  | «variable» span kind declarators =>
      exact sound_bind (sound_declare hscene declarators hs m) fun _ _ _ _ =>
        sound_value carries_normal
  | block span body =>
      exact sound_bind (sound_hoist hscene.reads hs) fun _ m' _ _ =>
        sound_executeAll hscene body hs m'
  | cond span test yes no =>
      rw [Stmt.literals, Stmt.definitions, Law.allows_append, Law.allows_append] at hs
      refine sound_bind (sound_valueOf hscene test hs.1 m) fun _ m' _ _ => ?_
      exact sound_choose (fun _ => sound_execute hscene yes hs.2.1 m') fun _ =>
        sound_executeOption hscene no hs.2.2 m'
  | forLoop span init test update body =>
      rw [Stmt.literals, Stmt.definitions, Law.allows_append, Law.allows_append,
        Law.allows_append] at hs
      obtain ⟨hinit, htest, hupdate, hbody⟩ := hs
      refine sound_bind (sound_executeOption hscene init hinit m) fun _ m' _ _ => ?_
      -- the budget has no more steps left than the loop has rounds
      refine sound_loopWhile (fun m => ?_) (fun m => sound_execute hscene body hbody m)
        (fun m => ?_) (Nat.succ_pos _) (maxSteps_lt_maxRounds m')
      · exact sound_bind (sound_evaluateOption hscene (Law.admits_bool true) htest m)
          fun _ _ _ _ => sound_value trivial
      · exact sound_bind (sound_evaluateOption hscene Law.admits_undefined hupdate m)
          fun _ _ _ _ => sound_value trivial
  | forOf span isAwait declared targets source body =>
      rw [Stmt.literals, Stmt.definitions, Law.allows_append, Law.allows_append] at hs
      obtain ⟨htargets, hsource, hbody⟩ := hs
      refine sound_choose (fun _ => sound_unsupported _ _) fun _ => ?_
      refine sound_bind (sound_valueOf hscene source hsource m) fun v _ _ _ => ?_
      refine sound_bind (sound_iterate v) fun items _ _ hitems => ?_
      refine sound_loopOver (sound_bindItem hscene declared htargets)
        (fun m => sound_execute hscene body hbody m) fun x hx => ?_
      exact hitems x (Array.mem_toList_iff.1 hx)
  | forIn span declared targets source body =>
      rw [Stmt.literals, Stmt.definitions, Law.allows_append, Law.allows_append] at hs
      obtain ⟨htargets, hsource, hbody⟩ := hs
      refine sound_bind (sound_valueOf hscene source hsource m) fun v m' _ _ => ?_
      -- keys become strings here, and nothing looks at their lengths
      refine sound_bind (sound_visited v) fun keys _ _ hkeys => ?_
      refine sound_loopOver (sound_bindItem hscene declared htargets)
        (fun m => sound_execute hscene body hbody m) fun x hx => ?_
      obtain ⟨key, hkey, rfl⟩ := List.mem_map.1 hx
      exact hkeys key hkey
  | whileLoop span test body =>
      rw [Stmt.literals, Stmt.definitions, Law.allows_append] at hs
      refine sound_loopWhile (fun m => ?_) (fun m => sound_execute hscene body hs.2 m)
        (fun m => sound_value trivial) (Nat.succ_pos _) (maxSteps_lt_maxRounds m)
      exact sound_bind (sound_valueOf hscene test hs.1 m) fun _ _ _ _ => sound_value trivial
  | doWhile span body test =>
      rw [Stmt.literals, Stmt.definitions, Law.allows_append] at hs
      refine sound_loopUntil (fun m => sound_execute hscene body hs.1 m) (fun m => ?_)
        (Nat.succ_pos _) (maxSteps_lt_maxRounds m)
      exact sound_bind (sound_valueOf hscene test hs.2 m) fun _ _ _ _ => sound_value trivial
  | breakTo span label =>
      cases label with
      | none => exact sound_value nofun
      | some _ => exact sound_unsupported _ _
  | continueTo span label =>
      cases label with
      | none => exact sound_value nofun
      | some _ => exact sound_unsupported _ _
  | ret span value =>
      exact sound_map (sound_evaluateOption hscene Law.admits_undefined hs m) fun _ =>
        carries_returned
  | switch span subject cases =>
      rw [Stmt.literals, Stmt.definitions, Law.allows_append] at hs
      refine sound_bind (sound_valueOf hscene subject hs.1 m) fun v m' _ _ => ?_
      refine sound_bind (sound_matchCase hscene v cases 0 hs.2 m') fun found m'' _ _ => ?_
      have hrest (i : Nat) := sound_executeCases hscene i cases hs.2 m''
      generalize_proofs
      generalize found.or (defaultCase? cases) = start at *
      cases start with
      | none => exact sound_value carries_normal
      | some i => exact hrest i
  | tryCatch span block param handler finalizer =>
      rw [Stmt.literals, Stmt.definitions, Law.allows_append, Law.allows_append,
        Law.allows_append] at hs
      -- a parameter of the handler binds a text of an exception, not a literal
      obtain ⟨hblock, -, hhandler, hfinalizer⟩ := hs
      exact sound_attempt (fun m => sound_execute hscene block hblock m)
        (fun m => sound_executeOption hscene handler hhandler m)
        fun m => sound_executeOption hscene finalizer hfinalizer m
  | throwing span e =>
      exact sound_bind (sound_evaluateThrown hscene e hs m) fun _ _ _ _ => sound_raise nofun
  | _ => exact sound_unsupported _ _

theorem sound_executeAll (hscene : SoundScene L free calls) (body : List Stmt)
    (hbody : L.Allows (Stmt.literalsOfAll body) (Stmt.definitionsOfAll body)) (m : Machine) :
    (executeAll calls body).Sound L free (Carries L) m := by
  cases body with
  | nil => exact sound_value carries_normal
  | cons s rest =>
      rw [Stmt.literalsOfAll, Stmt.definitionsOfAll, Law.allows_append] at hbody
      refine sound_bind (sound_execute hscene s hbody.1 m) fun flow m' _ hflow => ?_
      cases flow with
      | normal => exact sound_executeAll hscene rest hbody.2 m'
      | returned | broke | continued => exact sound_value hflow

theorem sound_executeOption (hscene : SoundScene L free calls) (s : Option Stmt)
    (hs : L.Allows (Stmt.literalsOfOption s) (Stmt.definitionsOfOption s)) (m : Machine) :
    (executeOption calls s).Sound L free (Carries L) m := by
  cases s with
  | none => exact sound_value carries_normal
  | some s => exact sound_execute hscene s hs m

theorem sound_executeCases (hscene : SoundScene L free calls) (skip : Nat) (cases : List Case)
    (hcases : L.Allows (Case.literalsOfAll cases) (Case.definitionsOfAll cases)) (m : Machine) :
    (executeCases calls skip cases).Sound L free (Carries L) m := by
  cases cases with
  | nil =>
      cases skip with
      | zero => exact sound_value carries_normal
      | succ skip => exact sound_value carries_normal
  | cons case rest =>
      rw [Case.literalsOfAll, Case.definitionsOfAll, Law.allows_append] at hcases
      cases skip with
      | succ skip => exact sound_executeCases hscene skip rest hcases.2 m
      | zero =>
          obtain ⟨span, test, body⟩ := case
          obtain ⟨hcase, hrest⟩ := hcases
          rw [Case.literals, Case.definitions, Law.allows_append] at hcase
          refine sound_bind (sound_executeAll hscene body hcase.2 m) fun flow m' _ hflow => ?_
          cases flow with
          | normal => exact sound_executeCases hscene 0 rest hrest m'
          | broke => exact sound_value carries_normal
          | returned | continued => exact sound_value hflow

end

theorem sound_executeBlock (hscene : SoundScene L free calls) (body : List Stmt)
    (hbody : L.Allows (Stmt.literalsOfAll body) (Stmt.definitionsOfAll body)) (m : Machine) :
    (executeBlock calls body).Sound L free (Carries L) m :=
  sound_bind (sound_hoist hscene.reads hbody) fun _ m' _ _ => sound_executeAll hscene body hbody m'

/-! ## Calls -/

theorem sound_orDefault {default : Run Value} {p : Plan default} {v : Value}
    (hp : p.Sound L free L.Admits m) (hv : L.Admits v) :
    (orDefault p v).Sound L free L.Admits m := by
  cases v with
  | undefined => exact hp
  | null | bool | number | string | array | object | function => exact sound_value hv

theorem sound_bindParams (hscene : SoundScene L free calls) (params : List Pattern)
    (args : List Value)
    (hparams : L.Allows (Pattern.literalsOfAll params) (Pattern.definitionsOfAll params))
    (hargs : ∀ v ∈ args, L.Admits v) (m : Machine) :
    (bindParams calls params args).Sound L free (fun _ => True) m := by
  induction params generalizing args m with
  | nil => exact sound_value trivial
  | cons param rest ih =>
      rw [Pattern.literalsOfAll, Pattern.definitionsOfAll, Law.allows_append] at hparams
      obtain ⟨hparam, hrest⟩ := hparams
      have hfirst : L.Admits (args.headD .undefined) := by
        cases args with
        | nil => trivial
        | cons v _ => exact hargs v List.mem_cons_self
      have htail := fun v hv => hargs v (List.mem_of_mem_tail hv)
      have hnext (m : Machine) := ih args.tail hrest htail m
      cases param with
      | name span name => exact sound_bind (sound_define name hfirst) fun _ m' _ _ => hnext m'
      | default span param e =>
          rw [Pattern.literals, Pattern.definitions, Law.allows_append] at hparam
          cases param with
          | name span name =>
              refine sound_bind (sound_orDefault (sound_valueOf hscene e hparam.2 m) hfirst)
                fun v _ _ hv => ?_
              exact sound_bind (sound_define name hv) fun _ m' _ _ => hnext m'
          | _ => exact sound_unsupported _ _
      | rest span param =>
          cases param with
          | name span name =>
              -- a rest parameter takes all that is left
              have hall : ∀ v ∈ args.toArray, L.Admits v :=
                fun v hv => hargs v (List.mem_toArray.1 hv)
              refine sound_bind (sound_newArray hall) fun list _ _ hlist => ?_
              exact sound_bind (sound_define name hlist) fun _ m' _ _ => ih [] hrest (by simp) m'
          | _ => exact sound_unsupported _ _
      | _ => exact sound_unsupported _ _

theorem admits_returnedValue {flow : Flow} (h : Carries L flow) :
    L.Admits (returnedValue flow) := by
  cases flow with
  | returned v => exact h v rfl
  | normal | broke | continued => trivial

theorem sound_runBody (hscene : SoundScene L free calls) (concise : Bool) (body : List Stmt)
    (hbody : L.Allows (Stmt.literalsOfAll body) (Stmt.definitionsOfAll body)) (m : Machine) :
    (runBody calls concise body).Sound L free L.Admits m := by
  refine sound_choose (fun _ => ?_) fun _ => ?_
  · cases body with
    | nil => exact sound_value trivial
    | cons s rest =>
        rw [Stmt.literalsOfAll, Stmt.definitionsOfAll, Law.allows_append] at hbody
        cases s with
        | expression span e =>
            cases rest with
            | nil => exact sound_valueOf hscene e hbody.1 m
            | cons => exact sound_value Law.admits_undefined
        | _ => exact sound_value Law.admits_undefined
  · exact sound_map (sound_executeBlock hscene body hbody m) fun flow => admits_returnedValue

theorem sound_runFunction (hscene : SoundScene L free calls) {f : Function} {args : Array Value}
    (hf : L.Allows f.literals f.definitions) (hargs : ∀ v ∈ args, L.Admits v) (m : Machine) :
    (runFunction calls f args).Sound L free L.Admits m := by
  obtain ⟨span, form, name, isAsync, generator, params, bodySpan, directives, body, concise⟩ := f
  rw [Function.literals, Function.definitions, Law.allows_append] at hf
  have hlist : ∀ v ∈ args.toList, L.Admits v := fun v hv => hargs v (Array.mem_toList_iff.1 hv)
  have harguments : (choose (value ()) (bind (leaf (.newArray args)) fun list =>
      leaf (.define "arguments" list)) : Plan (bindArguments form args)).Sound L free
        (fun _ => True) m :=
    sound_choose (fun _ => sound_value trivial) fun _ =>
      sound_bind (sound_newArray hargs) fun list _ _ hv => sound_define "arguments" hv
  refine sound_choose (fun _ => sound_unsupported _ _) fun _ => ?_
  refine sound_bind harguments fun _ m' _ _ => ?_
  refine sound_bind (sound_bindParams hscene params _ hf.1 hlist m') fun _ m'' _ _ => ?_
  exact sound_runBody hscene concise body hf.2 m''

/-- Calls keep a law, whatever the number of free frames. -/
theorem sound_invoke {source : String} (hreads : L.Reads source) (free : Nat) :
    SoundCalls L free (invoke source free) := by
  induction free with
  | zero =>
      intro start args hstart hargs m
      refine sound_bind sound_tick fun _ _ _ _ => ?_
      exact sound_bind (sound_definitionAt hstart) fun _ _ _ _ => sound_raise nofun
  | succ free ih =>
      intro start args hstart hargs m
      refine sound_bind sound_tick fun _ _ _ _ => ?_
      refine sound_bind (sound_definitionAt hstart) fun f _ _ hf => sound_frame fun m => ?_
      -- what the function calls has a frame less
      have hscene : @SoundScene L free ⟨source, Sandbox.invoke source free⟩ (invoke source free) :=
        ⟨hreads, ih⟩
      exact sound_runFunction hscene hf hargs m

end Plan

/-! ## Programs -/

theorem Law.admitsAll_ofList {L : Law} {members : List (String × Value)}
    (h : ∀ e ∈ members, L.Admits e.2) : L.AdmitsAll (.ofList members) := by
  have hfold (acc : Properties) (hacc : L.AdmitsAll acc) :
      L.AdmitsAll (members.foldl (fun m e => m.insert e.1 e.2) acc) := by
    induction members generalizing acc with
    | nil => exact hacc
    | cons e rest ih =>
        refine ih (fun e' he' => h e' (List.mem_cons_of_mem e he')) _ (hacc.insert ?_)
        exact h e List.mem_cons_self
  exact hfold .empty admitsAll_empty

/-- Before a program runs there are two empty lists and no strings. -/
theorem Law.holds_initial {L : Law} : L.Holds .initial where
  arrays items hitems := by
    have hitems : items ∈ #[(#[] : Array Value), #[]] := hitems
    have hempty : items = #[] := by simpa using hitems
    rw [hempty]
    exact fits_empty
  objects members hmembers := by
    have hmembers : members ∈ #[_] := hmembers
    rw [Array.mem_singleton.1 hmembers]
    refine admitsAll_ofList fun e he => ?_
    simp only [List.mem_cons, List.not_mem_nil, or_false] at he
    rcases he with rfl | rfl | rfl | rfl <;> trivial
  locals := nofun
  global := admitsAll_empty.insert trivial
  functions e he := by
    have he : e ∈ (#[] : Array (Nat × Script.Function)) := he
    simp at he

/-- If all points of the evaluation of a program respect a law that allows it and as many frames as
there may be, the law is upheld at all of them. -/
theorem Point.upholds_of_respects {L : Law} {source : String} {p : Program}
    (hreads : L.Reads source) (hallows : L.Allows p.literals p.definitions)
    (hframes : ∀ n ≤ maxCallDepth, L.frames (1 + n))
    (hrespects : ∀ q, Reaches (.ofProgram source p) q → L.Respects q) :
    ∀ q, Reaches (.ofProgram source p) q → L.Upholds q := by
  have hscene : @Plan.SoundScene L maxCallDepth (.ofSource source)
      (Plan.invoke source maxCallDepth) :=
    ⟨hreads, Plan.sound_invoke hreads maxCallDepth⟩
  have hall := (Point.ofProgram source p).plan.all_intro hrespects
  have hready : L.Ready maxCallDepth .initial := ⟨fun _ => Law.holds_initial, hframes⟩
  intro q hq
  have hupholds := (Plan.sound_executeBlock hscene p.body hallows .initial hready hall).1
  exact (hupholds.of_reaches hq).self

/-- If all points of the evaluation of a program respect a law that admits its literals and every
function, the law is held to at all of them, and the budget is said to be spent only where it
is. -/
theorem Point.fine_of_respects {L : Law} [hlenient : L.Lenient] {source : String} {p : Program}
    (hliterals : ∀ s ∈ p.literals, L.text s)
    (hrespects : ∀ q, Reaches (.ofProgram source p) q → L.Respects q) :
    ∀ q, Reaches (.ofProgram source p) q → L.Fine q := fun q hq =>
  (Point.upholds_of_respects (Law.reads_of_lenient source)
    (Law.allows_of_lenient hliterals p.definitions) (fun _ _ => hlenient.frames _) hrespects q
    hq).fine

end ScopedViews.Sandbox

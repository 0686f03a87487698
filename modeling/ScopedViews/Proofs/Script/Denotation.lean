import ScopedViews.Proofs.Script.Definitions
import ScopedViews.Proofs.Script.Reading
/-!
# What the text of a function denotes

The text of a function is meant to be an expression: in parentheses it is a module of one statement,
with one function in it.  The text of a method is put together from the word `function` and what is
written from its parameters on, so it begins with a function that is neither async nor a generator,
whatever the method is.

* `denoted?`, `ReadsAs`: the function that a text denotes, and how it is written;
* `Definition.IsDenotedBy`: a text denotes what was written;
* `Reader.params_function`: the parenthesis around a function does not open the parameters of an
  arrow;
* `isPlain_of_denoted?`: what is denoted by the word `function` and parameters behind it;
* `Definition.StandsAlone`: what was written is denoted by itself, with its modifiers in front,
  which is the reader's part;
* `Definition.isDenotedBy_text_iff`: the functions that are denoted by their texts.
-/

namespace ScopedViews.Script

/-- A function that is neither async nor a generator. -/
def Function.IsPlain (f : Function) : Prop := f.parts.isAsync = false ∧ f.parts.generator = false

instance (f : Function) : Decidable f.IsPlain := inferInstanceAs (Decidable (_ ∧ _))

namespace Reader

variable {g : Grammar} {ctx : Context} {s : ReaderState} {rest : List Char}

/-! ## A function in parentheses -/

def functionWord : List Char := ['f', 'u', 'n', 'c', 't', 'i', 'o', 'n']

/-- The word `function` with a parenthesis behind it. -/
def functionChars (rest : List Char) : List Char := functionWord ++ '(' :: rest

theorem lexToken_function {fuel : Nat} (hfuel : functionWord.length < fuel) (offset : Nat)
    (rest : List Char) : lexToken fuel ⟨functionChars rest, offset⟩ =
      some (.word "function" false, ⟨'(' :: rest, offset + String.utf8Len functionWord⟩) := by
  have hname : (functionWord.tail.all fun c => isNamePart c && c ≠ '\\') = true := by
    decide +kernel
  have hcs : ∀ c ∈ functionWord.tail, isNamePart c = true ∧ c ≠ '\\' := by
    intro c hc
    simpa using List.all_eq_true.1 hname c hc
  exact lexToken_word (by decide) (by decide) hcs (by decide +kernel) hfuel offset

/-- Expressions that are such functions. -/
def IsPlain (e : Expr) : Prop := ∃ f : Function, e = .function f ∧ f.IsPlain

/-- Parentheses around what begins with such a function. -/
def HoldsPlain (e : Expr) : Prop := ∃ span inner, e = .paren span inner ∧ inner.Begins IsPlain

section Function

variable {source : String} {width depth fuel : Nat}

theorem width_ofDepth : (Grammar.ofDepth source width depth).width = width := by
  cases depth with
  | zero => rfl
  | succ depth => rfl

theorem advance_paren (hs : s.cursor.rest = '(' :: rest) (hfuel : fuel ≠ 0) :
    Gives (advance fuel) s fun _ s' => At (.punct "(") rest s' :=
  advance_at (by decide) hs hfuel fun offset => ⟨offset + 1, rfl⟩

theorem advance_function (hs : s.cursor.rest = functionChars rest) (hfuel : 10 ≤ fuel) :
    Gives (advance fuel) s fun _ s' => At (.word "function" false) ('(' :: rest) s' := by
  have hlength : functionWord.length < fuel := by
    show 8 < fuel
    omega
  exact advance_at (by decide) hs (by omega) fun offset =>
    ⟨_, lexToken_function hlength offset rest⟩

theorem expectPunct_at {p : String} {Q : ReaderState → Prop}
    (h : Gives (advance fuel) s fun _ s' => Q s') :
    Gives (expectPunct fuel p) s fun _ s' => Q s' :=
  .step (atPunct_eq _ _) (.guard fun _ => h)

theorem expectWord_at {w : String} {Q : ReaderState → Prop}
    (h : Gives (advance fuel) s fun _ s' => Q s') :
    Gives (expectWord fuel w) s fun _ s' => Q s' :=
  .step (atWord_eq _ _) (.guard fun _ => h)

/-- A token that is not at hand is not taken. -/
theorem eatPunct_of_not {p : String} (h : s.token.isPunct p = false) :
    eatPunct fuel p s = .ok false s := by
  have hpunct : atPunct p s = .ok false s := by rw [atPunct_eq, h]
  exact bind_of_ok hpunct

/-- Without a star behind it the word makes a function that is no generator. -/
theorem functionTail_plain {first : Nat} {form : FunctionForm} {needsName : Bool}
    (hs : At (.word "function" false) ('(' :: rest) s) (hwidth : g.width ≠ 0) :
    Gives (functionTail g ctx first form false needsName) s
      fun f _ => f.parts.isAsync = false ∧ f.parts.generator = false := by
  unfold functionTail
  refine .bind ((expectWord_at (advance_paren hs.rest hwidth)).mono fun _ s hs => ?_)
  have hstar : eatPunct g.width "*" s = .ok false s :=
    eatPunct_of_not (by rw [hs.token]; rfl)
  refine .step hstar ?_
  refine .skip fun _ _ => ?_
  split
  · exact .skip fun _ _ => .skip fun _ _ => .skip fun _ _ => .skip fun _ _ => .skip fun _ _ =>
      .pure ⟨rfl, rfl⟩
  · exact .skip fun _ _ => .skip fun _ _ => .skip fun _ _ => .skip fun _ _ => .pure ⟨rfl, rfl⟩

theorem primary_function (hs : At (.word "function" false) ('(' :: rest) s)
    (hwidth : g.width ≠ 0) : Gives (primary g ctx) s fun e _ => IsPlain e := by
  unfold primary
  refine .step rfl (.step rfl ?_)
  rw [hs.token]
  have htail (first : Nat) :
      Gives (.function <$> functionTail g ctx first .expression false false) s
        fun e _ => IsPlain e :=
    .map ((functionTail_plain hs hwidth).mono fun f _ hf => ⟨f, rfl, hf⟩)
  exact .step rfl (htail _)

theorem decorators_of_not (htok : s.token.isPunct "@" = false) (hwidth : g.width ≠ 0) :
    decorators g ctx s = .ok [] s := by
  obtain ⟨n, hn⟩ := Nat.exists_eq_succ_of_ne_zero hwidth
  rw [decorators, hn]
  exact bind_of_ok (eatPunct_of_not htok)

/-- A word that is reserved is no identifier. -/
theorem identifier_of_reserved {w : String} (hs : s.token = .word w false)
    (hw : isReserved w = true) : Gives (identifier g ctx) s fun _ _ => False := by
  refine .step rfl (.step rfl ?_)
  rw [hs]
  refine .guard fun hfree => ?_
  simp [isIdentifier, hw] at hfree

theorem parameter_of_reserved {w : String} (hs : s.token = .word w false)
    (hw : isReserved w = true) (hwidth : g.width ≠ 0) :
    Gives (parameter g ctx) s fun _ _ => False := by
  have hpunct (p : String) : s.token.isPunct p = false := by
    rw [hs]
    rfl
  have htarget : Gives (bindingTarget g ctx) s fun _ _ => False := by
    refine .step rfl (.step (atPunct_eq _ _) ?_)
    rw [hpunct]
    refine .step (atPunct_eq _ _) ?_
    rw [hpunct]
    exact .bind ((identifier_of_reserved hs hw).mono fun _ _ => False.elim)
  refine .step rfl (.step (decorators_of_not (hpunct _) hwidth) ?_)
  refine .bind (.mono ?_ fun _ _ => False.elim)
  exact .step rfl (.bind (htarget.mono fun _ _ => False.elim))

/-- The word is no parameter. -/
theorem params_function (hs : At (.punct "(") (functionChars rest) s) (hwidth : 10 ≤ g.width) :
    Gives (params g ctx) s fun _ _ => False := by
  have hne : g.width ≠ 0 := by omega
  unfold params
  refine .bind ((expectPunct_at (advance_function hs.rest hwidth)).mono fun _ s hs => ?_)
  have hpunct (p : String) : s.token.isPunct p = false := by
    rw [hs.token]
    rfl
  have hparameter : Gives (parameter g (ctx.allowIn true)) s fun _ _ => False :=
    parameter_of_reserved hs.token (by decide) hne
  obtain ⟨n, hn⟩ := Nat.exists_eq_succ_of_ne_zero hne
  rw [hn, paramsTail]
  refine .step rfl (.step (eatPunct_of_not (hpunct _)) (.step (eatPunct_of_not (hpunct _)) ?_))
  exact .bind (hparameter.mono fun _ _ => False.elim)

/-- So the parenthesis in front of it does not open the parameters of an arrow. -/
theorem arrowParams?_function (hs : At (.punct "(") (functionChars rest) s)
    (hwidth : 10 ≤ g.width) :
    ∃ notArrow, arrowParams? g ctx s = .ok none { s with notArrow := notArrow } := by
  unfold arrowParams?
  dsimp only
  split
  next => exact ⟨s.notArrow, rfl⟩
  next =>
    split
    next ps s₁ hattempt =>
      have hnone : Gives (do
          let ps ← params g ctx
          guard (← atPunct "=>")
          guard !(← lineBefore)
          return ps) s fun _ _ => False :=
        .bind ((params_function hs hwidth).mono fun _ _ => False.elim)
      exact (hnone _ _ hattempt).elim
    next => exact ⟨_, rfl⟩

/-- The expression in the parentheses begins with the function. -/
theorem primary_paren (hwidth : 10 ≤ width) (depth : Nat)
    (hs : At (.punct "(") (functionChars rest) s) :
    Gives (primary (Grammar.ofDepth source width depth) ctx) s fun e _ => HoldsPlain e := by
  have hinner (s : ReaderState) (hs : At (.word "function" false) ('(' :: rest) s) :
      Gives (expression (Grammar.ofDepth source width depth) (ctx.allowIn true)) s
        fun e _ => e.Begins IsPlain := by
    refine expression_begins (assignment_begins opens_function ?_ ?_ nofun depth hs)
    · intro depth ctx s hs
      exact primary_function hs (by rw [width_ofDepth]; omega)
    · rintro span text ⟨f, hf, -⟩
      cases hf
  unfold primary
  refine .step rfl (.step rfl ?_)
  rw [hs.token]
  show Gives (parenthesised (Grammar.ofDepth source width depth) ctx) s _
  unfold parenthesised
  rw [width_ofDepth]
  refine .step rfl (.bind ?_)
  refine (expectPunct_at (advance_function hs.rest hwidth)).mono fun _ s hs => ?_
  refine .bind ((hinner s hs).mono fun e s he => ?_)
  exact .skip fun _ _ => .skip fun _ _ => .pure ⟨_, e, rfl, he⟩

/-! ## Statements and modules -/

theorem atEof_of_punct {p : String} (hs : s.token = .punct p) : atEof s = .ok false s := by
  have hget : (get : Reader ReaderState) s = .ok s s := rfl
  refine (bind_of_ok hget).trans ?_
  rw [hs]
  rfl

/-- An expression statement is one of an expression that begins with such parentheses. -/
theorem statement_paren {single : Bool} (hwidth : 10 ≤ width) (depth : Nat)
    (hs : At (.punct "(") (functionChars rest) s) :
    Gives ((Grammar.ofDepth source width depth).statement ctx single) s fun st _ =>
      ∀ span e, st = .expression span e → e.Begins HoldsPlain := by
  cases depth with
  | zero => exact .refuse
  | succ depth =>
      have hexpression :
          Gives (expression (Grammar.ofDepth source width depth) (ctx.allowIn true)) s
            fun e _ => e.Begins HoldsPlain := by
        refine expression_begins (assignment_begins opens_paren ?_ ?_ ?_ depth hs)
        · exact fun depth ctx s hs => primary_paren hwidth depth hs
        · rintro span text ⟨_, _, hparen, -⟩
          cases hparen
        · intro _ depth ctx s hs ps s' h
          have hten : 10 ≤ (Grammar.ofDepth source width depth).width := by rwa [width_ofDepth]
          obtain ⟨notArrow, hnone⟩ := @arrowParams?_function _ ctx _ _ hs hten
          rw [hnone] at h
          cases h
          exact ⟨rfl, hs.token, hs.rest, hs.pureBefore⟩
      show Gives (Reader.statement (Grammar.ofDepth source width depth) ctx single) s _
      unfold Reader.statement
      refine .step rfl (.step rfl ?_)
      rw [hs.token]
      show Gives (expressionStatement (Grammar.ofDepth source width depth) ctx) s _
      unfold expressionStatement
      refine .step rfl (.bind (hexpression.mono fun e s he => ?_))
      have hend (first : Nat) (s : ReaderState) : Gives (do
          semicolon (Grammar.ofDepth source width depth).width
          return Stmt.expression (← spanFrom first) e) s fun st _ =>
            ∀ span e, st = .expression span e → e.Begins HoldsPlain := by
        refine .skip fun _ _ => .skip fun _ _ => .pure ?_
        rintro _ _ ⟨⟩
        exact he
      split
      · refine .skip fun _ _ => ?_
        split
        · exact .skip fun _ _ => .skip fun _ _ => .pure nofun
        · exact hend _ _
      · exact hend _ _

/-- Statements that have been read stay in front of those that are read behind them. -/
theorem untilStop_append {α : Type} {stop : Reader Bool} {item : Reader α} {acc : List α} :
    Gives (untilStop stop item fuel acc) s fun items _ => ∃ more, items = acc.reverse ++ more := by
  induction fuel generalizing acc s with
  | zero => exact .refuse
  | succ fuel ih =>
      rw [untilStop]
      refine .skip fun _ _ => ?_
      split
      · exact .pure ⟨[], by simp⟩
      · refine .skip fun a _ => ih.mono ?_
        rintro _ _ ⟨more, rfl⟩
        exact ⟨a :: more, by simp⟩

theorem untilStop_first {α : Type} {stop : Reader Bool} {item : Reader α} {Q : α → Prop}
    (hstop : stop s = .ok false s) (hitem : Gives item s fun a _ => Q a) :
    Gives (untilStop stop item fuel []) s fun items _ => ∃ a more, items = a :: more ∧ Q a := by
  cases fuel with
  | zero => exact .refuse
  | succ fuel =>
      rw [untilStop]
      refine .step hstop (.bind (hitem.mono fun a s ha => untilStop_append.mono ?_))
      rintro _ _ ⟨more, rfl⟩
      exact ⟨a, more, rfl, ha⟩

/-- A body without directives is one of which nothing was taken for a directive. -/
theorem eq_of_splitDirectives {body rest : List Stmt}
    (h : splitDirectives source body = ([], rest)) : body = rest := by
  unfold splitDirectives at h
  split at h
  · cases h
  · cases h
    rfl

end Function

end Reader

open Reader

/-- Where a module begins with a function in parentheses, its first statement is one of an
expression that begins with them. -/
theorem readModule_paren {source : String} {rest : List Char}
    (hsource : source.toList = '(' :: functionChars rest) (hwidth : 8 ≤ source.utf8ByteSize)
    {parsed : Parsed} (h : readModule source = .ok parsed) :
    ∃ st more,
      splitDirectives source (st :: more) = (parsed.program.directives, parsed.program.body) ∧
      ∀ span e, st = .expression span e → e.Begins HoldsPlain := by
  have hhashbang : hashbang? ⟨source.toList, 0⟩ = none := by
    rw [hsource]
    rfl
  unfold readModule at h
  simp only [hhashbang] at h
  split at h
  next => cases h
  next body s hread =>
    cases h
    suffices hbody : Gives _ _ fun (body : List Stmt) _ => ∃ st more, body = st :: more ∧
        ∀ span e, st = .expression span e → e.Begins HoldsPlain by
      obtain ⟨st, more, rfl, hst⟩ := hbody body s hread
      exact ⟨st, more, rfl, hst⟩
    refine .bind ((advance_paren hsource (Nat.succ_ne_zero _)).mono fun _ s hs => .bind ?_)
    refine (untilStop_first (atEof_of_punct hs.token)
      (statement_paren (Nat.add_le_add_right hwidth 2) _ hs)).mono fun body s hbody => ?_
    -- what is checked of a whole module does not matter
    exact .skip fun _ _ => .skip fun _ _ => .skip fun _ _ => .skip fun _ _ => .pure hbody

/-- The function that a text denotes: in parentheses it is an expression of its own. -/
def denoted? (text : String) : Option Function :=
  match Program.parse? ("(" ++ text ++ ")") with
  | some ⟨_, _, [], [.expression _ (.paren _ (.function f))]⟩ => some f
  | _ => none

/-- How a function is written in a text: its parameters, its body and its modifiers. -/
structure Writing where
  params : List String
  body : String
  isAsync : Bool
  generator : Bool
deriving Repr, DecidableEq

def Function.writing (source : String) (f : Function) : Writing where
  params := f.parts.params.map fun p => slice source p.span
  body := slice source f.parts.bodySpan
  isAsync := f.parts.isAsync
  generator := f.parts.generator

/-- What the reader has to do with it: a text is read as a function that is written so. -/
def ReadsAs (text : String) (w : Writing) : Prop :=
  (denoted? text).map (Function.writing ("(" ++ text ++ ")")) = some w

instance (text : String) (w : Writing) : Decidable (ReadsAs text w) :=
  inferInstanceAs (Decidable (_ = _))

/-- A text denotes the function of a definition if it is read as one that is written alike. -/
def Definition.IsDenotedBy (source text : String) (d : Definition) : Prop :=
  ReadsAs text (d.function.writing source)

instance (source text : String) (d : Definition) : Decidable (d.IsDenotedBy source text) :=
  inferInstanceAs (Decidable (ReadsAs _ _))

/-- What is denoted by a text that begins with the word `function` and a parenthesis is neither
async nor a generator. -/
theorem isPlain_of_denoted? {rest : String} {f : Function}
    (h : denoted? ("function(" ++ rest) = some f) : f.IsPlain := by
  have hsource : ("(" ++ ("function(" ++ rest) ++ ")").toList =
      '(' :: functionChars (rest.toList ++ [')']) := by
    simp [functionChars, functionWord]
  have hwidth : 8 ≤ ("(" ++ ("function(" ++ rest) ++ ")").utf8ByteSize := by
    have hnine : "function(".utf8ByteSize = 9 := by decide
    simp only [String.utf8ByteSize_append]
    omega
  unfold denoted? at h
  split at h
  next span hashbang outer inner g hparse =>
    cases h
    unfold Program.parse? at hparse
    split at hparse
    next parsed hread =>
      obtain ⟨st, more, hsplit, hst⟩ := readModule_paren hsource hwidth hread
      rw [Option.some.inj hparse] at hsplit
      cases eq_of_splitDirectives hsplit
      obtain ⟨_, _, heq, hbegins⟩ | hcomposed := hst _ _ rfl
      · cases heq
        obtain ⟨_, heq, hplain⟩ | hcomposed := hbegins
        · cases heq
          exact hplain
        · cases hcomposed
      · cases hcomposed
    next => cases hparse
  next => cases h

namespace Definition

/-- What is written of a function begins with the parenthesis of its parameters. -/
def AtParams (source : String) (d : Definition) : Prop :=
  (slice source d.function.parts.span).toList.head? = some '('

instance (source : String) (d : Definition) : Decidable (d.AtParams source) :=
  inferInstanceAs (Decidable (_ = _))

/-- What is written of a function, as an expression of its own: a method is a function expression
behind its modifiers. -/
def expression (source : String) (d : Definition) : String :=
  let written := slice source d.function.parts.span
  if d.isMethod then
    (if d.function.parts.isAsync then "async " else "") ++
      (if d.function.parts.generator then "function*" else "function") ++ written
  else written

/-- What is written of a function can be cut out of its surroundings: on its own it denotes the same
function.  Only the reader has a part in this. -/
def StandsAlone (source : String) (d : Definition) : Prop :=
  d.IsDenotedBy source (d.expression source)

instance (source : String) (d : Definition) : Decidable (d.StandsAlone source) :=
  inferInstanceAs (Decidable (d.IsDenotedBy source _))

/-- Only the modifiers of methods are not in the texts. -/
theorem text_eq_expression {source : String} {d : Definition}
    (hplain : d.isMethod = true → d.function.IsPlain) : d.text source = d.expression source := by
  cases hmethod : d.isMethod with
  | false => simp [text, expression, hmethod]
  | true =>
      obtain ⟨hasync, hgenerator⟩ := hplain hmethod
      simp [text, expression, hmethod, hasync, hgenerator]

/-- A method that is denoted by its text is plain. -/
theorem isPlain_of_isDenotedBy {source : String} {d : Definition} (hmethod : d.isMethod = true)
    (hparams : d.AtParams source) (h : d.IsDenotedBy source (d.text source)) :
    d.function.IsPlain := by
  obtain ⟨rest, hrest⟩ := List.head?_eq_some_iff.1 hparams
  have htext : d.text source = "function(" ++ String.ofList rest := by
    refine String.toList_injective ?_
    simp [text, hmethod, hrest]
  rw [htext] at h
  obtain ⟨f, hf, hwriting⟩ := Option.map_eq_some_iff.1 h
  obtain ⟨hasync, hgenerator⟩ := isPlain_of_denoted? hf
  constructor
  · exact (congrArg Writing.isAsync hwriting).symm.trans hasync
  · exact (congrArg Writing.generator hwriting).symm.trans hgenerator

/-- A function is denoted by its text exactly if what is written of it stands alone and no modifiers
of a method are missing. -/
theorem isDenotedBy_text_iff {source : String} {d : Definition}
    (hparams : d.isMethod = true → d.AtParams source) :
    d.IsDenotedBy source (d.text source) ↔
      d.StandsAlone source ∧ (d.isMethod = true → d.function.IsPlain) := by
  constructor
  · intro hdenoted
    have hplain (hmethod : d.isMethod = true) : d.function.IsPlain :=
      isPlain_of_isDenotedBy hmethod (hparams hmethod) hdenoted
    refine ⟨?_, hplain⟩
    rw [StandsAlone, ← text_eq_expression hplain]
    exact hdenoted
  · rintro ⟨halone, hplain⟩
    rw [text_eq_expression hplain]
    exact halone

end Definition

end ScopedViews.Script

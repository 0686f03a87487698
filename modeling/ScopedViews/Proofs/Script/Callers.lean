import ScopedViews.Proofs.Script.Tokens
/-!
# Functions that call names

A function with names as parameters whose body calls names, one after the other, can be cut out of
its surroundings.  The reader goes through its text token by token and refuses none of them, so in
parentheses the text is read as one function with these parameters and this body, however many there
are.

* `Caller`: such functions, and how they are written;
* `Reader.memberExpression_call`, `Reader.statement_call`: a name that is called;
* `Reader.functionBody_reads`, `Reader.params_reads`: bodies and parameters;
* `Caller.readsAs`: what the reader makes of the text;
* `Definition.IsCaller.standsAlone`: functions of a script that are written so.
-/

namespace ScopedViews.Script

/-- A function with names as parameters, in which names are called one after the other. -/
structure Caller where
  params : List String
  calls : List String
  plain_params : ∀ w ∈ params, IsPlainName w
  plain_calls : ∀ w ∈ calls, IsPlainName w

namespace Caller

def body (c : Caller) : String :=
  "\x7b" ++ String.join (c.calls.map fun w => " " ++ w ++ "();") ++ " \x7d"

/-- What is written of a caller from its parameters on. -/
def text (c : Caller) : String := "(" ++ ", ".intercalate c.params ++ ") " ++ c.body

def writing (c : Caller) : Writing := ⟨c.params, c.body, false, false⟩

end Caller

/-! ## Characters -/

/-- Calls of names, each behind a blank, and the brace behind them. -/
def callChars (ws : List String) : List Char :=
  ws.flatMap (fun w => ' ' :: (w.toList ++ ['(', ')', ';'])) ++ [' ', '}']

/-- Names, each behind a comma and a blank, and the parenthesis behind them. -/
def nameChars (ws : List String) : List Char :=
  ws.flatMap (fun w => ',' :: ' ' :: w.toList) ++ [')']

/-- Parameters behind their parenthesis, and the one behind them. -/
def paramChars : List String → List Char
  | [] => [')']
  | w :: ws => w.toList ++ nameChars ws

theorem length_le_callChars (ws : List String) : ws.length ≤ (callChars ws).length := by
  induction ws with
  | nil => exact Nat.zero_le _
  | cons w ws ih =>
      simp only [callChars, List.flatMap_cons, List.length_append, List.length_cons] at ih ⊢
      omega

theorem length_le_nameChars (ws : List String) : ws.length ≤ (nameChars ws).length := by
  induction ws with
  | nil => exact Nat.zero_le _
  | cons w ws ih =>
      simp only [nameChars, List.flatMap_cons, List.length_append, List.length_cons] at ih ⊢
      omega

theorem toList_intercalate (ws : List String) :
    (", ".intercalate ws).toList ++ [')'] = paramChars ws := by
  cases ws with
  | nil => rfl
  | cons w ws =>
      induction ws generalizing w with
      | nil => simp [paramChars, nameChars]
      | cons v ws ih =>
          simpa [String.intercalate_cons_cons, paramChars, nameChars] using ih v

namespace Caller

/-- The characters of a caller behind its first parenthesis. -/
def rest (c : Caller) : List Char := paramChars c.params ++ ' ' :: '{' :: callChars c.calls

theorem toList_body (c : Caller) : c.body.toList = '{' :: callChars c.calls := by
  simp [body, callChars, String.toList_join, List.flatMap_map]

theorem toList_text (c : Caller) : c.text.toList = '(' :: c.rest := by
  simp [text, rest, ← toList_intercalate, toList_body]

end Caller

namespace Reader

variable {source : String} {front gap shown rest : List Char} {tok : Token} {s s' : ReaderState}
  {g : Grammar} {ctx : Context} {width depth fuel : Nat} {P : ReaderState → Prop}

/-! ## Calls of names -/

theorem primary_name {w : String} (hw : IsPlainName w) (htok : s.token = .word w false)
    (h : Reads (advance g.width) s fun _ s' => P s') :
    Reads (primary g ctx) s fun e s' => (∃ span, e = .name span w) ∧ P s' := by
  unfold primary
  refine .step rfl (.step rfl ?_)
  rw [htok]
  show Reads (wordExpression g ctx w false) s _
  have hname : Reads (do
      let n ← identifier g ctx
      return Expr.name n.span n.text) s fun e s' => (∃ span, e = .name span w) ∧ P s' := by
    refine .bind ((identifier_reads hw htok h).mono fun n s' hn => .pure ⟨⟨n.span, ?_⟩, hn.2⟩)
    rw [hn.1]
  have hasync : (w == "async") = false := beq_false_of_ne (hw.free _ (by decide))
  unfold wordExpression
  refine .step rfl ?_
  split
  case h_9 =>
    simp only [hasync]
    exact .step rfl hname
  all_goals exact absurd rfl (hw.free _ (by decide))

theorem arguments_empty (hwidth : source.utf8ByteSize + 2 ≤ g.width)
    (hs : Shows source gap ['('] (')' :: ';' :: rest) (.punct "(") s) :
    Reads (arguments g ctx) s fun es s' =>
      es = [] ∧ Shows source [] [';'] rest (.punct ";") s' := by
  obtain ⟨n, hn⟩ := Nat.exists_eq_succ_of_ne_zero (show g.width ≠ 0 by omega)
  unfold arguments
  refine .bind ((hs.expectPunct (.inl rfl) (IsMark.closeParen.lexes _) hwidth).mono
    fun _ s hs => ?_)
  unfold commaList
  rw [hn, commaList.go, ← hn]
  refine .bind ((eatPunct_reads hs.token
    (hs.advance (.inl rfl) (IsMark.semicolon.lexes _) hwidth)).mono ?_)
  rintro _ s ⟨rfl, hs⟩
  exact .pure ⟨rfl, hs⟩

/-- A name with empty parentheses behind it is a call. -/
theorem memberExpression_call {w : String} (hw : IsPlainName w)
    (hwidth : source.utf8ByteSize + 2 ≤ g.width)
    (hs : Shows source gap w.toList ('(' :: ')' :: ';' :: rest) (.word w false) s) :
    Reads (memberExpression g ctx) s fun r s' => Ends s'.token ∧
      (∃ span callee, r.1 = .call span callee [] false) ∧
      Shows source [] [';'] rest (.punct ";") s' := by
  obtain ⟨n, hn⟩ := Nat.exists_eq_succ_of_ne_zero (show g.width ≠ 0 by omega)
  refine linkedExpression_reads (Q := fun e s' => Ends s'.token ∧
    (∃ span callee, e = .call span callee [] false) ∧ Shows source [] [';'] rest (.punct ";") s')
    (hs.token ▸ opens_name hw) ?_
  have hparen := hs.advance (.inl rfl) (IsMark.openParen.lexes _) hwidth
  refine (primary_name hw hs.token hparen).mono ?_
  rintro e s₁ ⟨-, hs₁⟩
  rw [hn, memberRest]
  refine .step rfl ?_
  rw [hs₁.token]
  refine .bind ((arguments_empty hwidth hs₁).mono ?_)
  rintro _ s₂ ⟨rfl, hs₂⟩
  have hends : Ends s₂.token := hs₂.token ▸ .semicolon
  exact .step rfl ⟨_, s₂, memberRest_ends hends (by omega), rfl, hends, ⟨_, _, rfl⟩, hs₂⟩

/-! ## Statements that are calls -/

theorem atWord_name {w v : String} (htok : s.token = .word w false) (hw : IsPlainName w)
    (hv : v ∈ reservedWords ++ contextualWords) : atWord v s = .ok false s := by
  have hne : (v == w) = false := beq_false_of_ne (hw.free v hv).symm
  rw [atWord_eq, htok]
  exact congrArg (EStateM.Result.ok · s) hne

/-- Looking ahead changes nothing. -/
theorem exists_ahead (m : Reader Bool) (s : ReaderState) : ∃ b, ahead m s = .ok b s := by
  unfold ahead
  split
  · exact ⟨_, rfl⟩
  · exact ⟨_, rfl⟩

/-- A name declares nothing. -/
theorem declKind?_name {w : String} {inHead : Bool} (htok : s.token = .word w false)
    (hw : IsPlainName w) : declKind? g ctx inHead s = .ok none s := by
  have hlet : atLet g s = .ok false s := bind_of_ok (atWord_name htok hw (by decide))
  have husing : atUsing g ctx inHead s = .ok false s := bind_of_ok (atWord_name htok hw (by decide))
  have hawait := atWord_name (v := "await") htok hw (by decide)
  unfold declKind?
  refine (bind_of_ok (atWord_name htok hw (by decide))).trans ?_
  refine (bind_of_ok (atWord_name htok hw (by decide))).trans ?_
  refine (bind_of_ok hlet).trans ?_
  refine (bind_of_ok husing).trans ?_
  refine (bind_of_ok hawait).trans ?_
  obtain ⟨b, hahead⟩ := exists_ahead (do
    advance g.width
    return (← atWord "using") && (← atUsing g ctx inHead)) s
  refine (bind_of_ok hahead).trans ?_
  rfl

theorem statement_call {w : String} {single : Bool} (hw : IsPlainName w)
    (hwidth : source.utf8ByteSize + 2 ≤ width)
    (hs : Shows source gap w.toList ('(' :: ')' :: ';' :: rest) (.word w false) s)
    (hnext : ∀ s, Shows source [] [';'] rest (.punct ";") s →
      Reads (advance width) s fun _ s' => P s') :
    Reads ((Grammar.ofDepth source width (depth + 5)).statement ctx single) s fun _ s' => P s' := by
  have hasync : atAsyncFunction (Grammar.ofDepth source width (depth + 4)) s = .ok false s :=
    bind_of_ok (atWord_name hs.token hw (by decide))
  have hexpression : Reads (expressionStatement (Grammar.ofDepth source width (depth + 4)) ctx) s
      fun _ s' => P s' := by
    obtain ⟨front, hfront⟩ := id hs
    unfold expressionStatement
    refine .step rfl (.bind ?_)
    refine (expression_reads (Q := fun e s' => (∃ span callee, e = .call span callee [] false) ∧
      Shows source [] [';'] rest (.punct ";") s') (hs.token ▸ opens_name hw) hfront.pureBefore
      (by omega) ?_ fun ns => ?_).mono ?_
    · rw [hs.isPunct]
      nofun
    · exact memberExpression_call hw (by rwa [width_ofDepth]) ⟨front, hfront.withNotArrow ns⟩
    · rintro e s₁ ⟨-, ⟨span, callee, rfl⟩, hs₁⟩
      have hsemicolon : Reads (semicolon width) s₁ fun _ s' => P s' :=
        .bind ((eatPunct_reads hs₁.token (hnext s₁ hs₁)).mono fun b s' hs' => by
          obtain ⟨rfl, hs'⟩ := hs'
          exact .pure hs')
      rw [width_ofDepth]
      exact .bind (hsemicolon.mono fun _ s' hs' => .step rfl (.pure hs'))
  show Reads (Reader.statement (Grammar.ofDepth source width (depth + 4)) ctx single) s _
  unfold Reader.statement
  refine .step rfl (.step rfl ?_)
  rw [hs.token]
  dsimp only
  split
  case h_17 => exact .step hasync (.step (declKind?_name hs.token hw) hexpression)
  all_goals exact absurd rfl (hw.free _ (by decide))

/-! ## Bodies -/

/-- The first of some calls is at hand, or the brace. -/
def AtCalls (source : String) (rest : List Char) : List String → ReaderState → Prop
  | [] => Shows source [' '] ['}'] rest (.punct "\x7d")
  | w :: ws =>
    Shows source [' '] w.toList ('(' :: ')' :: ';' :: (callChars ws ++ rest)) (.word w false)

theorem advance_calls {ws : List String} (hws : ∀ w ∈ ws, IsPlainName w)
    (hs : Shows source gap shown (callChars ws ++ rest) tok s)
    (hfuel : source.utf8ByteSize + 2 ≤ fuel) :
    Reads (advance fuel) s fun _ s' => AtCalls source rest ws s' := by
  cases ws with
  | nil => exact hs.advance (.inr rfl) (IsMark.closeBrace.lexes _) hfuel
  | cons w ws =>
      have hname : Lexes (.word w false) w.toList ('(' :: ')' :: ';' :: (callChars ws ++ rest)) :=
        lexes_name (hws w List.mem_cons_self) (by decide +kernel)
      have hfirst : Shows source gap shown
          ([' '] ++ (w.toList ++ '(' :: ')' :: ';' :: (callChars ws ++ rest))) tok s := by
        simpa [callChars] using hs
      exact hfirst.advance (.inr rfl) hname hfuel

theorem untilStop_calls {ws : List String} (hws : ∀ w ∈ ws, IsPlainName w)
    (hwidth : source.utf8ByteSize + 2 ≤ width) {acc : List Stmt} (hfuel : ws.length < fuel)
    (hs : AtCalls source rest ws s) :
    Reads (untilStop (atPunct "\x7d")
      ((Grammar.ofDepth source width (depth + 5)).statement ctx false) fuel acc) s
      fun _ s' => Shows source [' '] ['}'] rest (.punct "\x7d") s' := by
  induction ws generalizing fuel acc s with
  | nil =>
      obtain ⟨n, rfl⟩ := Nat.exists_eq_succ_of_ne_zero (Nat.ne_of_gt hfuel)
      rw [untilStop]
      refine .step (atPunct_eq _ _) ?_
      rw [hs.token]
      exact .pure hs
  | cons w ws ih =>
      obtain ⟨n, rfl⟩ := Nat.exists_eq_succ_of_ne_zero (Nat.ne_of_gt (Nat.zero_lt_of_lt hfuel))
      have hws' : ∀ w ∈ ws, IsPlainName w := fun v hv => hws v (List.mem_cons_of_mem _ hv)
      rw [untilStop]
      refine .step (atPunct_eq _ _) ?_
      rw [Shows.isPunct hs]
      refine .bind ((statement_call (hws w List.mem_cons_self) hwidth hs fun s hs =>
        advance_calls hws' hs hwidth).mono fun _ s' hs' => ?_)
      exact ih hws' (Nat.lt_of_succ_lt_succ hfuel) hs'

theorem slice_of_append (h : source.toList = front ++ (shown ++ rest)) :
    slice source ⟨String.utf8Len front, String.utf8Len (front ++ shown)⟩ = String.ofList shown := by
  have hsource : source = String.ofList (front ++ shown ++ rest) := by
    rw [List.append_assoc, ← h, String.ofList_toList]
  rw [hsource, slice, String.utf8Len_append]
  exact String.extract_of_valid front shown rest

/-- A body of calls, with a parenthesis behind it. -/
theorem functionBody_reads {ws : List String} (hws : ∀ w ∈ ws, IsPlainName w)
    (hwidth : source.utf8ByteSize + 2 ≤ width)
    (hs : AtHand source front gap ['{'] (callChars ws ++ ')' :: rest) (.punct "\x7b") s) :
    Reads (functionBody (Grammar.ofDepth source width (depth + 5)) ctx) s fun r s' =>
      slice source r.1 = String.ofList ('{' :: callChars ws) ∧
        Shows source [] [')'] rest (.punct ")") s' := by
  have hlength : ws.length < width := by
    have hle := hs.length_le
    have hcount := length_le_callChars ws
    rw [List.length_append] at hle
    omega
  unfold functionBody
  refine .step rfl ?_
  rw [hs.start, width_ofDepth]
  refine .bind ((expectPunct_reads hs.token
    (advance_calls hws ⟨front, hs⟩ hwidth)).mono fun _ s hs₁ => .bind ?_)
  unfold statementsToBrace
  rw [width_ofDepth]
  refine .bind ((untilStop_calls hws hwidth hlength hs₁).mono fun _ s hs₂ => ?_)
  refine .bind ((hs₂.expectPunct (.inl rfl) (IsMark.closeParen.lexes rest) hwidth).mono
    fun _ s hs₃ => .pure ?_)
  refine .step rfl (.pure ⟨?_, hs₃⟩)
  obtain ⟨front', hs₃⟩ := hs₃
  -- the body ends where the parenthesis behind it stands
  have hfront : front' = front ++ gap ++ '{' :: callChars ws := by
    have hsource := hs₃.source.symm.trans hs.source
    refine (List.append_left_inj (')' :: rest)).1 ?_
    simpa only [List.append_assoc, List.append_nil, List.nil_append, List.cons_append] using hsource
  rw [hs₃.stop, hfront]
  have hsource : source.toList = (front ++ gap) ++ ('{' :: callChars ws ++ ')' :: rest) := by
    simpa using hs.source
  exact slice_of_append hsource

/-! ## Parameters -/

theorem lexes_nameChars {w : String} (hw : IsPlainName w) (ws : List String) (rest : List Char) :
    Lexes (.word w false) w.toList (nameChars ws ++ rest) := by
  cases ws with
  | nil => exact lexes_name hw (by decide +kernel)
  | cons v ws => exact lexes_name hw (by decide +kernel)

/-- A name with a comma or a parenthesis behind it is a parameter. -/
theorem parameter_reads {w : String} {c : Char} {p : String} (hmark : IsMark c p)
    (hw : IsPlainName w) (hwidth : source.utf8ByteSize + 2 ≤ g.width)
    (hs : AtHand source front gap w.toList (c :: rest) (.word w false) s) :
    Reads (parameter g ctx) s fun a s' =>
      slice source a.span = w ∧ Shows source [] [c] rest (.punct p) s' := by
  have hpunct (q : String) : s.token.isPunct q = false := Shows.isPunct ⟨front, hs⟩ q
  have hname : Reads (bindingTarget g ctx) s fun a s' =>
      slice source a.span = w ∧ Shows source [] [c] rest (.punct p) s' := by
    have hadvance := hs.advance (.inl rfl) (hmark.lexes rest) hwidth
    refine .step rfl (.step (atPunct_eq _ _) ?_)
    rw [hpunct]
    refine .step (atPunct_eq _ _) ?_
    rw [hpunct]
    refine .bind ((identifier_reads hw hs.token hadvance).mono ?_)
    rintro _ s' ⟨rfl, hs'⟩
    refine .pure ⟨?_, _, hs'⟩
    show slice source ⟨s.tokenCursor.offset, s'.prevStop⟩ = w
    have hsource : source.toList = (front ++ gap) ++ (w.toList ++ c :: rest) := by
      simpa using hs.source
    rw [hs.start, hs'.stop, slice_of_append hsource, String.ofList_toList]
  have hdefault : Reads (bindingDefault g ctx) s fun a s' =>
      slice source a.span = w ∧ Shows source [] [c] rest (.punct p) s' := by
    refine .step rfl (.bind (hname.mono fun a s' ha => ?_))
    have heq : s'.token.isPunct "=" = false := by
      rw [ha.2.token]
      cases hmark with
      | openParen | closeParen | openBrace | closeBrace | comma | semicolon => rfl
    exact .step (eatPunct_of_not heq) (.pure ha)
  refine .step rfl (.step (decorators_of_not (hpunct _) (by omega)) ?_)
  exact .bind (hdefault.mono fun a s' ha => .step rfl (.pure ha))

/-- Names up to the parenthesis behind them. -/
theorem paramsTail_reads {w : String} {ws : List String} (hws : ∀ v ∈ w :: ws, IsPlainName v)
    (hwidth : source.utf8ByteSize + 2 ≤ g.width) {acc : List Pattern} (hfuel : ws.length < fuel)
    (hs : Shows source gap w.toList (nameChars ws ++ rest) (.word w false) s)
    (hnext : ∀ s, Shows source [] [')'] rest (.punct ")") s →
      Reads (advance g.width) s fun _ s' => P s') :
    Reads (paramsTail g ctx fuel acc) s fun ps s' =>
      ps.map (fun a => slice source a.span) =
        acc.reverse.map (fun a => slice source a.span) ++ w :: ws ∧ P s' := by
  induction ws generalizing fuel acc s w gap with
  | nil =>
      obtain ⟨n, rfl⟩ := Nat.exists_eq_succ_of_ne_zero (Nat.ne_of_gt hfuel)
      obtain ⟨front, hs⟩ := hs
      have hpunct (q : String) : s.token.isPunct q = false := Shows.isPunct ⟨front, hs⟩ q
      rw [paramsTail]
      refine .step rfl (.step (eatPunct_of_not (hpunct _)) (.step (eatPunct_of_not (hpunct _)) ?_))
      refine .bind ((parameter_reads .closeParen (hws w List.mem_cons_self) hwidth hs).mono ?_)
      rintro a s ⟨ha, hs⟩
      refine .bind ((eatPunct_reads hs.token (hnext s hs)).mono ?_)
      rintro _ s ⟨rfl, hs⟩
      refine .pure ⟨?_, hs⟩
      simp [ha]
  | cons v ws ih =>
      obtain ⟨n, rfl⟩ := Nat.exists_eq_succ_of_ne_zero (Nat.ne_of_gt (Nat.zero_lt_of_lt hfuel))
      obtain ⟨front, hs⟩ := hs
      have hpunct (q : String) : s.token.isPunct q = false := Shows.isPunct ⟨front, hs⟩ q
      have hv := lexes_nameChars (hws v (List.mem_cons_of_mem _ List.mem_cons_self)) ws rest
      rw [paramsTail]
      refine .step rfl (.step (eatPunct_of_not (hpunct _)) (.step (eatPunct_of_not (hpunct _)) ?_))
      have hcomma : AtHand source front gap w.toList
          (',' :: ([' '] ++ (v.toList ++ (nameChars ws ++ rest)))) (.word w false) s := by
        simpa [nameChars] using hs
      refine .bind ((parameter_reads .comma (hws w List.mem_cons_self) hwidth hcomma).mono ?_)
      rintro a s ⟨ha, hs⟩
      refine .step (eatPunct_of_not (hs.isPunct _)) ?_
      refine .bind ((hs.expectPunct (.inr rfl) hv hwidth).mono fun _ s hs => ?_)
      refine (ih (fun u hu => hws u (List.mem_cons_of_mem _ hu)) (Nat.lt_of_succ_lt_succ hfuel)
        hs).mono ?_
      rintro ps s ⟨hps, hs⟩
      refine ⟨?_, hs⟩
      rw [hps]
      simp [ha]

theorem params_reads {ws : List String} (hws : ∀ w ∈ ws, IsPlainName w)
    (hwidth : source.utf8ByteSize + 2 ≤ g.width)
    (hs : Shows source gap ['('] (paramChars ws ++ rest) (.punct "(") s)
    (hnext : ∀ s, Shows source [] [')'] rest (.punct ")") s →
      Reads (advance g.width) s fun _ s' => P s') :
    Reads (params g ctx) s fun ps s' => ps.map (fun a => slice source a.span) = ws ∧ P s' := by
  unfold params
  cases ws with
  | nil =>
      obtain ⟨n, hn⟩ := Nat.exists_eq_succ_of_ne_zero (show g.width ≠ 0 by omega)
      refine .bind ((hs.expectPunct (.inl rfl) (IsMark.closeParen.lexes rest) hwidth).mono
        fun _ s hs => ?_)
      rw [hn, paramsTail]
      refine .step rfl (.bind ((eatPunct_reads hs.token (hnext s hs)).mono ?_))
      rintro _ s ⟨rfl, hs⟩
      exact .pure ⟨rfl, hs⟩
  | cons w ws =>
      have hlength : ws.length < g.width := by
        obtain ⟨front, hs⟩ := hs
        have hle := hs.length_le
        have hcount := length_le_nameChars ws
        simp only [paramChars, List.length_append] at hle
        omega
      have hfirst : Shows source gap ['('] ([] ++ (w.toList ++ (nameChars ws ++ rest)))
          (.punct "(") s := by
        simpa [paramChars] using hs
      have hw := lexes_nameChars (hws w List.mem_cons_self) ws rest
      refine .bind ((hfirst.expectPunct (.inl rfl) hw hwidth).mono fun _ s hs => ?_)
      exact paramsTail_reads hws hwidth hlength hs hnext

/-! ## Functions -/

variable {c : Caller}

theorem lexes_function (rest : List Char) :
    Lexes (.word "function" false) functionWord ('(' :: rest) := by
  refine ⟨fun fuel offset hfuel => lexToken_function hfuel offset rest, ?_⟩
  rintro _ ⟨⟩
  decide

/-- A function that calls names is read as it is written. -/
theorem functionTail_reads (hwidth : source.utf8ByteSize + 2 ≤ width) {first : Nat}
    (hs : Shows source gap functionWord ('(' :: (c.rest ++ ')' :: rest))
      (.word "function" false) s) :
    Reads (functionTail (Grammar.ofDepth source width (depth + 5)) ctx first .expression false
      false) s fun f s' =>
        f.writing source = c.writing ∧ Shows source [] [')'] rest (.punct ")") s' := by
  unfold functionTail
  have hopen := hs.advance (.inl rfl) (IsMark.openParen.lexes _) hwidth
  rw [width_ofDepth]
  refine .bind ((expectWord_reads hs.token hopen).mono fun _ s hs => ?_)
  refine .step (eatPunct_of_not (hs.isPunct _)) (.step (atPunct_eq _ _) ?_)
  rw [hs.token]
  refine .guard rfl (.step rfl ?_)
  have hparams : Shows source [] ['(']
      (paramChars c.params ++ (' ' :: '{' :: callChars c.calls ++ ')' :: rest)) (.punct "(") s := by
    simpa [Caller.rest] using hs
  refine .bind ((params_reads c.plain_params (by rwa [width_ofDepth]) hparams fun s hs => by
    rw [width_ofDepth]
    exact hs.advance (.inr rfl) (IsMark.openBrace.lexes (callChars c.calls ++ ')' :: rest))
      hwidth).mono ?_)
  rintro patterns s₁ ⟨hpatterns, front, hs₁⟩
  refine .bind ((functionBody_reads c.plain_calls hwidth hs₁).mono ?_)
  rintro ⟨bodySpan, directives, body⟩ s₂ ⟨hbody, hs₂⟩
  refine .step rfl (.pure ⟨?_, hs₂⟩)
  rw [← c.toList_body, String.ofList_toList] at hbody
  simp only [Function.writing, Function.parts, hpatterns, hbody, Caller.writing]

theorem primary_reads_function (hwidth : source.utf8ByteSize + 2 ≤ width)
    (hs : Shows source gap functionWord ('(' :: (c.rest ++ ')' :: rest))
      (.word "function" false) s) :
    Reads (primary (Grammar.ofDepth source width (depth + 5)) ctx) s fun e s' => Ends s'.token ∧
      (∃ f : Function, e = .function f ∧ f.writing source = c.writing) ∧
        Shows source [] [')'] rest (.punct ")") s' := by
  unfold primary
  refine .step rfl (.step rfl ?_)
  rw [hs.token]
  refine .step rfl (.map ((functionTail_reads hwidth hs).mono ?_))
  rintro f s' ⟨hf, hs'⟩
  exact ⟨hs'.token ▸ .paren, ⟨f, rfl, hf⟩, hs'⟩

/-- The expression is no more than the function. -/
theorem expression_function (hwidth : source.utf8ByteSize + 2 ≤ width)
    (hs : Shows source gap functionWord ('(' :: (c.rest ++ ')' :: rest))
      (.word "function" false) s) :
    Reads (expression (Grammar.ofDepth source width (depth + 9)) ctx) s fun e s' =>
      (∃ f : Function, e = .function f ∧ f.writing source = c.writing) ∧
        Shows source [] [')'] rest (.punct ")") s' := by
  obtain ⟨front, hfront⟩ := id hs
  have hopens : Opens s.token := hs.token ▸ opens_function
  refine (expression_reads hopens hfront.pureBefore (by omega) ?_ fun ns =>
    memberExpression_of_primary hopens (by rw [width_ofDepth]; omega)
      (primary_reads_function hwidth ⟨front, hfront.withNotArrow ns⟩)).mono fun _ _ he => he.2
  rw [hs.isPunct]
  nofun

/-! ## Functions in parentheses -/

/-- What is written behind the parenthesis in front of a caller. -/
def inParens (c : Caller) : List Char := functionChars (c.rest ++ [')'])

theorem primary_reads_paren (hwidth : source.utf8ByteSize + 2 ≤ width)
    (hs : Shows source gap ['('] (inParens c) (.punct "(") s) :
    Reads (primary (Grammar.ofDepth source width (depth + 9)) ctx) s fun e s' => Ends s'.token ∧
      (∃ span f, e = .paren span (.function f) ∧ f.writing source = c.writing) ∧
        Shows source [] [] [] .eof s' := by
  unfold primary
  refine .step rfl (.step rfl ?_)
  rw [hs.token]
  show Reads (parenthesised (Grammar.ofDepth source width (depth + 9)) ctx) s _
  unfold parenthesised
  rw [width_ofDepth]
  refine .step rfl (.bind ((hs.expectPunct (.inl rfl) (lexes_function _) hwidth).mono
    fun _ s₁ hs₁ => ?_))
  refine .bind ((expression_function hwidth hs₁).mono ?_)
  rintro _ s₂ ⟨⟨f, rfl, hf⟩, hs₂⟩
  refine .bind ((hs₂.expectPunct (.inl rfl) lexes_eof hwidth).mono fun _ s₃ hs₃ => ?_)
  exact .step rfl (.pure ⟨hs₃.token ▸ .eof, ⟨_, f, rfl, hf⟩, hs₃⟩)

/-- The expression is no more than the function in its parentheses, which are not those of an
arrow. -/
theorem expression_paren (hwidth : source.utf8ByteSize + 2 ≤ width)
    (hs : Shows source gap ['('] (inParens c) (.punct "(") s) :
    Reads (expression (Grammar.ofDepth source width (depth + 13)) ctx) s fun e s' =>
      (∃ span f, e = .paren span (.function f) ∧ f.writing source = c.writing) ∧
        Shows source [] [] [] .eof s' := by
  obtain ⟨front, hfront⟩ := id hs
  have hopens : Opens s.token := hs.token ▸ opens_paren
  refine (expression_reads hopens hfront.pureBefore (by omega) (fun _ => ?_) fun ns =>
    memberExpression_of_primary hopens (by rw [width_ofDepth]; omega)
      (primary_reads_paren hwidth ⟨front, hfront.withNotArrow ns⟩)).mono fun _ _ he => he.2
  have hrest : s.cursor.rest = functionChars (c.rest ++ [')']) := by
    rw [hfront.cursor]
    rfl
  have hten : 10 ≤ width := by
    have hle := hfront.length_le
    simp only [inParens, functionChars, functionWord, List.length_append, List.length_cons,
      List.length_nil] at hle
    omega
  exact arrowParams?_function ⟨hs.token, hrest, hfront.pureBefore⟩ (by rwa [width_ofDepth])

/-! ## Modules -/

theorem atEof_eof (hs : Shows source gap [] [] .eof s) : atEof s = .ok true s := by
  have hget : (get : Reader ReaderState) s = .ok s s := rfl
  refine (bind_of_ok hget).trans ?_
  rw [hs.token]
  rfl

/-- No semicolon is missing at the end. -/
theorem semicolon_eof (hs : Shows source gap [] [] .eof s) : semicolon fuel s = .ok () s := by
  have hget : (get : Reader ReaderState) s = .ok s s := rfl
  have hend : mayEnd s = .ok true s := by
    refine (bind_of_ok hget).trans ?_
    rw [hs.token]
    rfl
  exact (bind_of_ok (eatPunct_of_not (hs.isPunct _))).trans (bind_of_ok hend)

theorem statement_function {single : Bool} (hwidth : source.utf8ByteSize + 2 ≤ width)
    (hs : Shows source gap ['('] (inParens c) (.punct "(") s) :
    Reads ((Grammar.ofDepth source width (depth + 14)).statement ctx single) s fun st s' =>
      (∃ outer inner f, st = .expression outer (.paren inner (.function f)) ∧
        f.writing source = c.writing) ∧ Shows source [] [] [] .eof s' := by
  show Reads (Reader.statement (Grammar.ofDepth source width (depth + 13)) ctx single) s _
  unfold Reader.statement
  refine .step rfl (.step rfl ?_)
  rw [hs.token]
  show Reads (expressionStatement (Grammar.ofDepth source width (depth + 13)) ctx) s _
  unfold expressionStatement
  refine .step rfl (.bind ((expression_paren hwidth hs).mono ?_))
  rintro _ s₁ ⟨⟨span, f, rfl, hf⟩, hs₁⟩
  exact .step (semicolon_eof hs₁) (.step rfl (.pure ⟨⟨_, _, f, rfl, hf⟩, hs₁⟩))

/-- A caller in parentheses is one statement. -/
theorem untilStop_function (hwidth : source.utf8ByteSize + 2 ≤ width)
    (hs : Shows source gap ['('] (inParens c) (.punct "(") s) :
    Reads (untilStop atEof ((Grammar.ofDepth source width (depth + 14)).statement ctx false) width
      []) s fun body s' =>
        (∃ outer inner f, body = [.expression outer (.paren inner (.function f))] ∧
          f.writing source = c.writing) ∧ Shows source [] [] [] .eof s' := by
  obtain ⟨n, rfl⟩ : ∃ n, width = n + 2 := ⟨width - 2, by omega⟩
  rw [untilStop]
  refine .step (atEof_of_punct hs.token) (.bind ((statement_function hwidth hs).mono ?_))
  rintro _ s₁ ⟨⟨outer, inner, f, rfl, hf⟩, hs₁⟩
  rw [untilStop]
  exact .step (atEof_eof hs₁) (.pure ⟨⟨outer, inner, f, rfl, hf⟩, hs₁⟩)

end Reader

open Reader

/-- A module that is a caller in parentheses is read as a module of one function. -/
theorem readModule_caller {source : String} {c : Caller}
    (hsource : source.toList = '(' :: inParens c) :
    ∃ parsed, readModule source = .ok parsed ∧ ∃ span hashbang outer inner f,
      parsed.program = ⟨span, hashbang, [], [.expression outer (.paren inner (.function f))]⟩ ∧
        f.writing source = c.writing := by
  have hhashbang : hashbang? ⟨source.toList, 0⟩ = none := by
    rw [hsource]
    rfl
  obtain ⟨k, hk⟩ : ∃ k, 8 * (source.utf8ByteSize + 2) = k + 14 :=
    ⟨8 * (source.utf8ByteSize + 2) - 14, by omega⟩
  have hread : Reads (do
      advance (source.utf8ByteSize + 2)
      let body ← untilStop atEof ((Grammar.ofDepth source (source.utf8ByteSize + 2)
        (k + 14)).statement Context.module false) (source.utf8ByteSize + 2) []
      guard (← get).initials.isEmpty
      guard (decide (← get).exported.Nodup)
      return body)
      ⟨⟨source.toList, 0⟩, ⟨source.toList, 0⟩, .eof, false, 0, #[], [], [], [], [], false⟩
      fun body _ => ∃ outer inner f, body = [.expression outer (.paren inner (.function f))] ∧
        f.writing source = c.writing := by
    have hbefore : Before source [] ([] ++ (['('] ++ inParens c))
        ⟨⟨source.toList, 0⟩, ⟨source.toList, 0⟩, .eof, false, 0, #[], [], [], [], [], false⟩ :=
      ⟨by simpa using hsource, by simp [hsource], rfl, rfl⟩
    refine .bind ((advance_reads hbefore (.inl rfl) (IsMark.openParen.lexes _)
      (Nat.le_refl _)).mono fun _ s hs => ?_)
    refine .bind ((untilStop_function (Nat.le_refl _) ⟨[], hs⟩).mono ?_)
    rintro body s' ⟨hbody, front, hs'⟩
    refine .step rfl (.guard ?_ (.step rfl (.guard ?_ (.pure hbody))))
    · rw [hs'.initials]
      rfl
    · rw [hs'.exported]
      rfl
  obtain ⟨body, s, hread, outer, inner, f, rfl, hf⟩ := hread
  unfold readModule
  simp only [hhashbang, hk]
  split
  next refusal s' hrefused => cases hrefused.symm.trans hread
  next body s' hbody =>
    cases hbody.symm.trans hread
    exact ⟨_, rfl, _, none, outer, inner, f, rfl, hf⟩

/-- The text of a caller is read as it is written. -/
theorem Caller.readsAs (c : Caller) : ReadsAs ("function" ++ c.text) c.writing := by
  have hsource : ("(" ++ ("function" ++ c.text) ++ ")").toList = '(' :: inParens c := by
    simp [inParens, functionChars, functionWord, c.toList_text]
  obtain ⟨parsed, hread, span, hashbang, outer, inner, f, hprogram, hf⟩ := readModule_caller hsource
  have hparse : Program.parse? ("(" ++ ("function" ++ c.text) ++ ")") =
      some ⟨span, hashbang, [], [.expression outer (.paren inner (.function f))]⟩ := by
    rw [Program.parse?, hread, ← hprogram]
  have hdenoted : denoted? ("function" ++ c.text) = some f := by
    rw [denoted?, hparse]
  rw [ReadsAs, hdenoted, Option.map_some, hf]

namespace Definition

/-- A function of a script is written as a caller, and its parts are parts of what is written. -/
structure IsCaller (source : String) (d : Definition) (c : Caller) : Prop where
  written : slice source d.function.parts.span =
    if d.isMethod then c.text else "function" ++ c.text
  writing : d.function.writing source = c.writing

variable {source : String} {d : Definition} {c : Caller}

instance : Decidable (d.IsCaller source c) :=
  decidable_of_iff (_ ∧ _) ⟨fun h => ⟨h.1, h.2⟩, fun h => ⟨h.written, h.writing⟩⟩

theorem IsCaller.isPlain (h : d.IsCaller source c) : d.function.IsPlain :=
  ⟨congrArg Writing.isAsync h.writing, congrArg Writing.generator h.writing⟩

theorem IsCaller.atParams (h : d.IsCaller source c) (hmethod : d.isMethod = true) :
    d.AtParams source := by
  rw [AtParams, h.written, if_pos hmethod, c.toList_text]
  rfl

/-- Callers stand alone. -/
theorem IsCaller.standsAlone (h : d.IsCaller source c) : d.StandsAlone source := by
  have hexpression : d.expression source = "function" ++ c.text := by
    rw [← text_eq_expression fun _ => h.isPlain]
    cases hmethod : d.isMethod with
    | false => simp [text, h.written, hmethod]
    | true => simp [text, h.written, hmethod]
  rw [StandsAlone, hexpression, IsDenotedBy, h.writing]
  exact c.readsAs

/-- A method that calls a name. -/
example : ∃ c : Caller, c.text = "() { go(); }" ∧
    (Program.parse? "exports = { ready() { go(); } };").any fun p =>
      p.definitions.all fun d => d.IsCaller "exports = { ready() { go(); } };" c := by
  refine ⟨⟨[], ["go"], nofun, List.forall_mem_singleton.2 ⟨⟨'g', ['o'], rfl, rfl, ?_⟩, ?_⟩⟩, ?_, ?_⟩
  · exact List.forall_mem_singleton.2 rfl
  · decide +kernel
  · decide
  · decide +kernel

end Definition

end ScopedViews.Script

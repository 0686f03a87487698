import Mathlib.Data.String.Basic
import ScopedViews.Script.Parse
/-!
# What a reader gives

A reader goes through the productions of the grammar, and most of what it reads on the way does not
matter for what an expression begins with.  So a statement about a reader says of its result, and of
the state that it leaves, what is known of them where it does not refuse; what does not matter is
skipped, and what stands at hand is looked at.

Behind a primary expression only links, operators and commas are read, and each of them makes a
composed expression.  What is read from a token on is therefore the primary expression that begins
there, or composed.

* `Reader.Gives`: the results and states of a reader, with a rule for each way to put readers
  together;
* `Reader.advance_eq`: the next token is put at hand;
* `Reader.At`, `Reader.advance_at`: the token at hand and what stands behind it;
* `Expr.Begins`: expressions that begin with such a one;
* `Reader.Opens`: tokens with which a primary expression begins and nothing else;
* `Reader.memberRest_begins`, `Reader.operatorRest_begins`: what is read behind an expression;
* `Reader.assignment_begins`, `Reader.expression_begins`: whole expressions, at all depths.
-/

namespace ScopedViews.Script

/-! ## Words -/

/-- A name goes on up to a character that is no part of one. -/
theorem scanName_append {cs rest : List Char} {stop : Char}
    (hcs : ∀ c ∈ cs, isNamePart c = true ∧ c ≠ '\\')
    (hstop : isNamePart stop = false ∧ stop ≠ '\\') {fuel : Nat} (hfuel : cs.length < fuel)
    (offset : Nat) (acc : List Char) (hacc : acc ≠ []) :
    scanName fuel ⟨cs ++ stop :: rest, offset⟩ acc false =
      some (acc.reverse ++ cs, false, ⟨stop :: rest, offset + String.utf8Len cs⟩) := by
  have hempty : acc.isEmpty = false := by simpa using hacc
  induction cs generalizing fuel offset acc with
  | nil =>
      cases fuel with
      | zero => exact absurd hfuel (Nat.not_lt_zero _)
      | succ fuel =>
          rw [scanName.eq_def]
          simp [hempty, hstop]
  | cons c cs ih =>
      cases fuel with
      | zero => exact absurd hfuel (Nat.not_lt_zero _)
      | succ fuel =>
          obtain ⟨hpart, hback⟩ := hcs c List.mem_cons_self
          have hrest := ih (fun c hc => hcs c (List.mem_cons_of_mem _ hc))
            (Nat.lt_of_succ_lt_succ hfuel) (offset + c.utf8Size) (c :: acc)
            (List.cons_ne_nil _ _) rfl
          rw [scanName.eq_def]
          simp [hempty, hpart, hback, Cursor.skip, hrest, Nat.add_comm, Nat.add_assoc]

/-- Such a name is a token. -/
theorem lexToken_word {c stop : Char} {cs rest : List Char} (hc : isNameStart c = true ∧ c ≠ '\\')
    (hother : c.toNat ≠ 34 ∧ c.toNat ≠ 39 ∧ c.toNat ≠ 96 ∧ c.isDigit = false ∧ c ≠ '.' ∧ c ≠ '#')
    (hcs : ∀ c ∈ cs, isNamePart c = true ∧ c ≠ '\\')
    (hstop : isNamePart stop = false ∧ stop ≠ '\\') {fuel : Nat} (hfuel : cs.length + 1 < fuel)
    (offset : Nat) :
    lexToken fuel ⟨c :: (cs ++ stop :: rest), offset⟩ =
      some (.word (String.ofList (c :: cs)) false,
        ⟨stop :: rest, offset + String.utf8Len (c :: cs)⟩) := by
  cases fuel with
  | zero => exact absurd hfuel (Nat.not_lt_zero _)
  | succ fuel =>
      obtain ⟨hstart, hback⟩ := hc
      obtain ⟨hdouble, hsingle, hback', hdigit, hpoint, hhash⟩ := hother
      have hname := @scanName_append cs rest stop hcs hstop fuel
        (Nat.lt_of_succ_lt_succ hfuel) (offset + c.utf8Size) [c] (List.cons_ne_nil _ _)
      have hscan : scanName (fuel + 1) ⟨c :: (cs ++ stop :: rest), offset⟩ [] false =
          some (c :: cs, false, ⟨stop :: rest, offset + String.utf8Len (c :: cs)⟩) := by
        rw [scanName.eq_def]
        simpa [hstart, hback, Cursor.skip, Nat.add_comm, Nat.add_assoc] using hname
      simp [lexToken, hdouble, hsingle, hback', hdigit, hpoint, hhash, hstart, hscan]

/-! ## Blanks -/

/-- Blanks within a line are passed over up to what is none. -/
theorem scanTrivia_append {gap cs : List Char}
    (hgap : ∀ c ∈ gap, isLineBlank c = true ∧ isLineBreak c = false ∧ c ≠ '/')
    (hcs : ∀ c ∈ cs.head?, isLineBreak c = false ∧ isLineBlank c = false ∧ c ≠ '/')
    {fuel : Nat} (hfuel : gap.length < fuel) (offset : Nat) (lines : Bool) :
    scanTrivia fuel ⟨gap ++ cs, offset⟩ lines [] =
      some ⟨⟨cs, offset + String.utf8Len gap⟩, lines, []⟩ := by
  induction gap generalizing fuel offset with
  | nil =>
      cases fuel with
      | zero => exact absurd hfuel (Nat.not_lt_zero _)
      | succ fuel =>
          rw [scanTrivia.eq_def]
          cases cs with
          | nil => rfl
          | cons c cs =>
              obtain ⟨hbreak, hblank, hslash⟩ := hcs c rfl
              simp [hbreak, hblank, hslash]
  | cons c gap ih =>
      cases fuel with
      | zero => exact absurd hfuel (Nat.not_lt_zero _)
      | succ fuel =>
          obtain ⟨hblank, hbreak, hslash⟩ := hgap c List.mem_cons_self
          have hrest := ih (fun c hc => hgap c (List.mem_cons_of_mem _ hc))
            (Nat.lt_of_succ_lt_succ hfuel) (offset + c.utf8Size)
          rw [scanTrivia.eq_def]
          simp [hbreak, hblank, hslash, Cursor.skip, hrest, Nat.add_comm, Nat.add_assoc]

namespace Reader

variable {α β : Type} {x : Reader α} {s s' : ReaderState}

theorem bind_of_ok {k : α → Reader β} {a : α} (h : x s = .ok a s') : (x >>= k) s = k a s' := by
  show EStateM.bind x k s = _
  simp only [EStateM.bind, h]

/-- Where a reader does not refuse, its result and the state it leaves are such. -/
def Gives (x : Reader α) (s : ReaderState) (P : α → ReaderState → Prop) : Prop :=
  ∀ a s', x s = .ok a s' → P a s'

namespace Gives

variable {P Q : α → ReaderState → Prop} {R : β → ReaderState → Prop} {k : α → Reader β}

theorem pure {a : α} (h : P a s) : Gives (Pure.pure a) s P := by
  intro b s' hb
  cases hb
  exact h

theorem refuse : Gives (Reader.refuse : Reader α) s P := nofun

theorem bind (h : Gives x s fun a s' => Gives (k a) s' R) : Gives (x >>= k) s R := by
  intro b s' hb
  have hb : EStateM.bind x k s = .ok b s' := hb
  simp only [EStateM.bind] at hb
  split at hb
  next a s₁ hx => exact h a s₁ hx b s' hb
  next => cases hb

/-- What is read first is of no interest. -/
theorem skip (h : ∀ a s', Gives (k a) s' R) : Gives (x >>= k) s R :=
  bind fun a s' _ => h a s'

/-- What is read first is known. -/
theorem step {a : α} (hx : x s = .ok a s') (h : Gives (k a) s' R) : Gives (x >>= k) s R := by
  refine bind fun b s₁ hb => ?_
  rw [hx] at hb
  cases hb
  exact h

theorem map {f : α → β} (h : Gives x s fun a s' => R (f a) s') : Gives (f <$> x) s R := by
  rw [map_eq_pure_bind]
  exact bind fun a s' ha => pure (h a s' ha)

theorem guard {b : Bool} {k : Unit → Reader β} (h : b = true → Gives (k ()) s R) :
    Gives (Reader.guard b >>= k) s R := by
  cases b with
  | true => exact step rfl (h rfl)
  | false => exact bind nofun

/-- Two ways of reading that go on alike. -/
theorem join {c : Prop} [Decidable c] {y : Reader α}
    (h : Gives (if c then x else y) s fun a s' => Gives (k a) s' R) :
    Gives (if c then x >>= k else y >>= k) s R := by
  split
  next hc =>
    rw [if_pos hc] at h
    exact bind h
  next hc =>
    rw [if_neg hc] at h
    exact bind h

theorem mono (h : Gives x s P) (hpq : ∀ a s', P a s' → Q a s') : Gives x s Q :=
  fun a s' ha => hpq a s' (h a s' ha)

end Gives

end Reader

/-! ## Tokens at hand -/

/-- Whether a token is a word that is written as it is. -/
def Token.isWord (w : String) : Token → Bool
  | .word v false => w == v
  | _ => false

def Token.isPunct (p : String) : Token → Bool
  | .punct q => p == q
  | _ => false

namespace Reader

theorem atWord_eq (w : String) (s : ReaderState) : atWord w s = .ok (s.token.isWord w) s := by
  obtain ⟨_, _, token, _, _, _, _, _, _, _, _⟩ := s
  cases token with
  | word v escaped => cases escaped <;> rfl
  | _ => rfl

theorem atPunct_eq (p : String) (s : ReaderState) : atPunct p s = .ok (s.token.isPunct p) s := by
  obtain ⟨_, _, token, _, _, _, _, _, _, _, _⟩ := s
  cases token with
  | _ => rfl

/-- The token at hand, what stands behind it, and no comment in front of it. -/
structure At (tok : Token) (rest : List Char) (s : ReaderState) : Prop where
  token : s.token = tok
  rest : s.cursor.rest = rest
  pureBefore : s.pureBefore = false

/-- A token that stands at the cursor, perhaps behind blanks, is put at hand. -/
theorem advance_eq {fuel offset : Nat} {gap cs : List Char} {tok : Token} {after : Cursor}
    (hgap : ∀ c ∈ gap, isLineBlank c = true ∧ isLineBreak c = false ∧ c ≠ '/')
    (hcs : ∀ c ∈ cs.head?, isLineBreak c = false ∧ isLineBlank c = false ∧ c ≠ '/')
    (hcursor : s.cursor = ⟨gap ++ cs, offset⟩) (hfuel : gap.length < fuel)
    (hlex : lexToken fuel ⟨cs, offset + String.utf8Len gap⟩ = some (tok, after)) :
    ∃ lines, advance fuel s = .ok () { s with
      cursor := after
      tokenCursor := ⟨cs, offset + String.utf8Len gap⟩
      token := tok
      lineBefore := lines
      prevStop := offset
      pureBefore := false } := by
  simp only [advance, hcursor, scanTrivia_append hgap hcs hfuel, hlex]
  exact ⟨_, rfl⟩

/-- A token that stands at the cursor is put at hand. -/
theorem advance_at {fuel : Nat} {c : Char} {cs rest : List Char} {tok : Token}
    (hc : isLineBreak c = false ∧ isLineBlank c = false ∧ c ≠ '/')
    (hcursor : s.cursor.rest = c :: cs) (hfuel : fuel ≠ 0)
    (hlex : ∀ offset, ∃ offset', lexToken fuel ⟨c :: cs, offset⟩ = some (tok, ⟨rest, offset'⟩)) :
    Gives (advance fuel) s fun _ s' => At tok rest s' := by
  intro u s' h
  obtain ⟨offset', hlex⟩ := hlex s.cursor.offset
  have hcs : ∀ d ∈ (c :: cs).head?, isLineBreak d = false ∧ isLineBlank d = false ∧ d ≠ '/' := by
    rintro _ ⟨⟩
    exact hc
  have hcursor : s.cursor = ⟨[] ++ c :: cs, s.cursor.offset⟩ := by
    rw [List.nil_append, ← hcursor]
  have hgap : ∀ d ∈ [], isLineBlank d = true ∧ isLineBreak d = false ∧ d ≠ '/' := nofun
  obtain ⟨lines, hadvance⟩ := advance_eq hgap hcs hcursor (Nat.pos_of_ne_zero hfuel) hlex
  rw [hadvance] at h
  cases h
  exact ⟨rfl, rfl, rfl⟩

end Reader

/-! ## Reading on -/

/-- Shapes that links and operators give to an expression. -/
def Expr.isComposed : Expr → Bool
  | .member .. | .index .. | .privateMember .. | .call .. | .tagged .. | .chain .. | .pure ..
  | .update .. | .binary .. | .logical .. | .assign .. | .conditional .. | .sequence .. => true
  | _ => false

/-- An expression that begins with such a one: it is this one still, or composed. -/
def Expr.Begins (P : Expr → Prop) (e : Expr) : Prop := P e ∨ e.isComposed = true

namespace Reader

variable {P : Expr → Prop} {g : Grammar} {ctx : Context} {s : ReaderState} {tok : Token}
  {rest : List Char}

theorem dotMember_composed {first : Nat} {e : Expr} {optional : Bool} :
    Gives (dotMember g first e optional) s fun e _ => e.isComposed = true := by
  unfold dotMember
  refine .skip fun _ _ => .skip fun _ _ => ?_
  split
  · exact .skip fun _ _ => .skip fun _ _ => .pure rfl
  · exact .skip fun _ _ => .pure rfl

/-- Links are read behind an expression. -/
theorem memberRest_begins {first : Nat} {forms : LinkForms} {fuel : Nat} {e : Expr} {chain : Bool}
    (he : e.Begins P) :
    Gives (memberRest g ctx first forms fuel e chain) s fun r _ => r.1.Begins P := by
  induction fuel generalizing e chain s with
  | zero => exact .refuse
  | succ fuel ih =>
      rw [memberRest]
      refine .skip fun _ _ => ?_
      split
      · exact .skip fun _ _ => .bind (dotMember_composed.mono fun _ _ he => ih (.inr he))
      · split
        · exact .skip fun _ _ => .skip fun _ _ => .skip fun _ _ => .skip fun _ _ => ih (.inr rfl)
        · exact .pure he
      · split
        · exact .skip fun _ _ => .skip fun _ _ => ih (.inr rfl)
        · exact .pure he
      · refine .skip fun _ _ => .skip fun _ _ => .skip fun _ _ => ?_
        split
        · exact .skip fun _ _ => .skip fun _ _ => ih (.inr rfl)
        · exact .skip fun _ _ => .skip fun _ _ => .skip fun _ _ => .skip fun _ _ => ih (.inr rfl)
        · exact .bind (dotMember_composed.mono fun _ _ he => ih (.inr he))
      · exact .skip fun _ _ => .skip fun _ _ => .skip fun _ _ => ih (.inr rfl)
      · exact .pure he

/-- Operators are read behind an operand. -/
theorem operatorRest_begins {first level fuel : Nat} {left : Expr} (hleft : left.Begins P) :
    Gives (operatorRest g ctx first level fuel left) s fun e _ => e.Begins P := by
  induction fuel generalizing left s with
  | zero => exact .refuse
  | succ fuel ih =>
      rw [operatorRest]
      refine .skip fun _ _ => ?_
      split
      · exact .pure hleft
      · split
        · exact .pure hleft
        · refine .skip fun _ _ => ?_
          split
          · exact .skip fun _ _ => .skip fun _ _ => .skip fun _ _ => ih (.inr rfl)
          · exact .skip fun _ _ => .skip fun _ _ => ih (.inr rfl)
          · exact .skip fun _ _ => .skip fun _ _ => .skip fun _ _ => ih (.inr rfl)

/-- Tokens that begin a primary expression and nothing else. -/
structure Opens (tok : Token) : Prop where
  word : ∀ w ∈ ["new", "async", "await", "yield"], tok.isWord w = false
  update : updateOp? tok = none
  unary : unaryOp? tok = none
  notPrivate : ∀ w, tok ≠ .privateName w

theorem opens_paren : Opens (.punct "(") := ⟨fun _ _ => rfl, rfl, rfl, nofun⟩

theorem opens_function : Opens (.word "function" false) := ⟨by decide, rfl, rfl, nofun⟩

theorem Opens.atAwait (htok : Opens s.token) : Reader.atAwait g ctx s = .ok false s := by
  have hword : atWord "await" s = .ok false s := by
    rw [atWord_eq, htok.word _ (by decide)]
  exact bind_of_ok hword

theorem Opens.asyncArrow? (htok : Opens s.token) : Reader.asyncArrow? g ctx s = .ok none s := by
  have hword : atWord "async" s = .ok false s := by
    rw [atWord_eq, htok.word _ (by decide)]
  exact bind_of_ok hword

theorem linkedExpression_begins {forms : LinkForms} (htok : Opens tok) (hs : At tok rest s)
    (hprimary : Gives (primary g ctx) s fun e _ => P e) :
    Gives (linkedExpression g ctx forms) s fun r _ => r.1.Begins P := by
  unfold linkedExpression
  refine .step rfl (.step (atWord_eq _ _) ?_)
  rw [hs.token, htok.word _ (by decide)]
  refine .bind (hprimary.mono fun e s he => ?_)
  refine .bind ((memberRest_begins (.inl he)).mono fun r _ hr => .pure ?_)
  obtain ⟨e, chain⟩ := r
  cases chain with
  | true => exact .inr rfl
  | false => exact hr

theorem unaryExpression_begins (htok : Opens tok) (hs : At tok rest s)
    (hmember : Gives (g.member ctx) s fun r _ => r.1.Begins P) :
    Gives (unaryExpression g ctx) s fun e _ => e.Begins P := by
  unfold unaryExpression
  refine .step rfl (.step rfl ?_)
  rw [hs.token, htok.update, htok.unary]
  refine .step (hs.token.symm ▸ htok).atAwait (.bind (hmember.mono fun r s hr => ?_))
  refine .skip fun _ _ => ?_
  split
  · refine .skip fun _ _ => ?_
    split
    · exact .pure hr
    · exact .skip fun _ _ => .skip fun _ _ => .skip fun _ _ => .pure (.inr rfl)
  · exact .pure hr

theorem binaryExpression_begins {level : Nat} (htok : Opens tok) (hs : At tok rest s)
    (hunary : Gives (g.unary ctx) s fun e _ => e.Begins P) :
    Gives (binaryExpression g ctx level) s fun e _ => e.Begins P := by
  unfold binaryExpression
  refine .step rfl (.step rfl (.step rfl ?_))
  rw [hs.token, hs.pureBefore]
  have hrest (first : Nat) :
      Gives (g.unary ctx >>= operatorRest g ctx first level g.width) s fun e _ => e.Begins P :=
    .bind (hunary.mono fun e s he => operatorRest_begins he)
  cases tok with
  | privateName w => exact absurd rfl (htok.notPrivate w)
  | _ => exact hrest _

theorem assignmentExpression_begins (htok : Opens tok) (hs : At tok rest s)
    (hname : ∀ span text, ¬ P (.name span text))
    (harrow : tok.isPunct "(" = true →
      Gives (arrowParams? g ctx) s fun ps s' => ps = none ∧ At tok rest s')
    (hbinary : ∀ s', At tok rest s' → Gives (g.binary ctx 0) s' fun e _ => e.Begins P) :
    Gives (assignmentExpression g ctx) s fun e _ => e.Begins P := by
  have hparams : Gives (if tok.isPunct "(" = true then arrowParams? g ctx else pure none) s
      fun ps s' => ps = none ∧ At tok rest s' := by
    split
    next hopen => exact harrow hopen
    next => exact .pure ⟨rfl, hs⟩
  unfold assignmentExpression
  refine .step rfl (.step (atWord_eq _ _) ?_)
  rw [hs.token, htok.word _ (by decide), Bool.and_false, if_neg Bool.false_ne_true]
  refine .step (hs.token.symm ▸ htok).asyncArrow? (.step (atPunct_eq _ _) (.join ?_))
  rw [hs.token]
  refine hparams.mono ?_
  rintro _ s' ⟨rfl, hs'⟩
  refine .bind ((hbinary s' hs').mono fun left s he => ?_)
  refine .skip fun _ _ => ?_
  split
  · -- a name would be the parameter of an arrow
    split
    next span text =>
      rcases he with he | he
      · exact absurd he (hname _ _)
      · cases he
    next => exact .refuse
  · refine .skip fun _ _ => ?_
    split
    · split
      · exact .skip fun _ _ => .skip fun _ _ => .skip fun _ _ => .skip fun _ _ => .pure (.inr rfl)
      · exact .skip fun _ _ => .skip fun _ _ => .skip fun _ _ => .skip fun _ _ => .pure (.inr rfl)
    · refine .skip fun _ _ => ?_
      split
      · exact .skip fun _ _ => .skip fun _ _ => .skip fun _ _ => .skip fun _ _ => .pure (.inr rfl)
      · exact .pure he

/-- Items that have been read stay in front of those that are read behind them. -/
theorem separated_append {α : Type} {width : Nat} {item : Reader α} {fuel : Nat} {acc : List α}
    {s : ReaderState} : Gives (separated width item fuel acc) s fun items _ =>
      ∃ more, items = acc.reverse ++ more := by
  induction fuel generalizing acc s with
  | zero => exact .refuse
  | succ fuel ih =>
      rw [separated]
      refine .skip fun a _ => .skip fun _ _ => ?_
      split
      · refine ih.mono ?_
        rintro _ _ ⟨more, rfl⟩
        exact ⟨a :: more, by simp⟩
      · exact .pure ⟨[a], by simp⟩

/-- The first of several items is that which is read where they begin. -/
theorem separated_first {α : Type} {width : Nat} {item : Reader α} {Q : α → Prop}
    (hitem : Gives item s fun a _ => Q a) (fuel : Nat) :
    Gives (separated width item fuel []) s fun items _ => ∃ a more, items = a :: more ∧ Q a := by
  cases fuel with
  | zero => exact .refuse
  | succ fuel =>
      rw [separated]
      refine .bind (hitem.mono fun a s ha => .skip fun _ _ => ?_)
      split
      · refine separated_append.mono ?_
        rintro _ _ ⟨more, rfl⟩
        exact ⟨a, more, rfl, ha⟩
      · exact .pure ⟨a, [], rfl, ha⟩

theorem expression_begins (hassignment : Gives (g.assignment ctx) s fun e _ => e.Begins P) :
    Gives (expression g ctx) s fun e _ => e.Begins P := by
  unfold expression
  refine .step rfl (.bind ((separated_first hassignment g.width).mono ?_))
  rintro _ s' ⟨e, more, rfl, he⟩
  cases more with
  | nil => exact .pure he
  | cons => exact .skip fun _ _ => .pure (.inr rfl)

/-! ## Productions of all depths -/

section Depth

variable {source : String} {width : Nat}

/-- What a primary expression of a state is, at every depth of nesting. -/
def PrimaryAt (source : String) (width : Nat) (tok : Token) (rest : List Char) (P : Expr → Prop) :
    Prop :=
  ∀ depth ctx s, At tok rest s →
    Gives (primary (Grammar.ofDepth source width depth) ctx) s fun e _ => P e

theorem member_begins (htok : Opens tok) (hprimary : PrimaryAt source width tok rest P)
    (depth : Nat) (hs : At tok rest s) :
    Gives ((Grammar.ofDepth source width depth).member ctx) s fun r _ => r.1.Begins P := by
  cases depth with
  | zero => exact .refuse
  | succ depth => exact linkedExpression_begins htok hs (hprimary depth ctx s hs)

theorem unary_begins (htok : Opens tok) (hprimary : PrimaryAt source width tok rest P)
    (depth : Nat) (hs : At tok rest s) :
    Gives ((Grammar.ofDepth source width depth).unary ctx) s fun e _ => e.Begins P := by
  cases depth with
  | zero => exact .refuse
  | succ depth => exact unaryExpression_begins htok hs (member_begins htok hprimary depth hs)

theorem binary_begins {level : Nat} (htok : Opens tok)
    (hprimary : PrimaryAt source width tok rest P) (depth : Nat) (hs : At tok rest s) :
    Gives ((Grammar.ofDepth source width depth).binary ctx level) s fun e _ => e.Begins P := by
  cases depth with
  | zero => exact .refuse
  | succ depth => exact binaryExpression_begins htok hs (unary_begins htok hprimary depth hs)

theorem assignment_begins (htok : Opens tok) (hprimary : PrimaryAt source width tok rest P)
    (hname : ∀ span text, ¬ P (.name span text))
    (harrow : tok.isPunct "(" = true → ∀ depth ctx s, At tok rest s →
      Gives (arrowParams? (Grammar.ofDepth source width depth) ctx) s
        fun ps s' => ps = none ∧ At tok rest s')
    (depth : Nat) (hs : At tok rest s) :
    Gives ((Grammar.ofDepth source width depth).assignment ctx) s fun e _ => e.Begins P := by
  cases depth with
  | zero => exact .refuse
  | succ depth =>
      exact assignmentExpression_begins htok hs hname (fun htok => harrow htok depth ctx s hs)
        fun s' hs' => binary_begins htok hprimary depth hs'

end Depth

end Reader

end ScopedViews.Script

import ScopedViews.Proofs.Script.Denotation
import ScopedViews.Proofs.Text.Words
/-!
# Reading what is written

What a reader gives is known where it does not refuse.  That it does not refuse is another matter:
every token of the text has to be there when it is looked for, and the fuel has to last.  Here are
the readers that put tokens at hand and take them, for names of Latin letters and for brackets and
separators, and the productions that an expression goes through which is no more than its first
part.

* `IsPlainName`: names that mean nothing else;
* `Reader.Reads`: readers that do not refuse, with a rule for each way to put readers together;
* `Reader.AtHand`, `Reader.advance_reads`: the token at hand, and where it is written;
* `Reader.Lexes`: what tokens are made from;
* `Reader.expression_reads`: an expression that is no more than its first part.
-/

namespace ScopedViews.Script

/-! ## Names -/

/-- Words that begin something else where a name might stand. -/
def contextualWords : List String := ["async", "await", "let", "using", "yield"]

/-- Letters and signs with which a name may begin. -/
def isPlainStart (c : Char) : Bool := c.isAlpha || c = '$' || c = '_'

/-- A name of Latin letters and digits that means nothing else. -/
structure IsPlainName (w : String) : Prop where
  spelled : ∃ c cs, w.toList = c :: cs ∧ isPlainStart c = true ∧
    ∀ d ∈ cs, (isPlainStart d || d.isDigit) = true
  free : ∀ v ∈ reservedWords ++ contextualWords, w ≠ v

theorem toNat_of_isPlainStart {c : Char} (h : isPlainStart c = true) :
    (65 ≤ c.toNat ∧ c.toNat ≤ 90) ∨ (97 ≤ c.toNat ∧ c.toNat ≤ 122) ∨ c.toNat = 36 ∨
      c.toNat = 95 := by
  unfold isPlainStart Char.isAlpha at h
  rw [Bool.or_eq_true, Bool.or_eq_true, Bool.or_eq_true, Text.isUpper_iff, Text.isLower_iff,
    decide_eq_true_eq, decide_eq_true_eq] at h
  rcases h with ((hupper | hlower) | rfl) | rfl
  · exact .inl hupper
  · exact .inr (.inl hlower)
  · exact .inr (.inr (.inl rfl))
  · exact .inr (.inr (.inr rfl))

theorem isNameStart_of_isPlainStart {c : Char} (h : isPlainStart c = true) :
    isNameStart c = true := by
  rw [isPlainStart, Bool.or_eq_true, Bool.or_eq_true] at h
  rw [isNameStart, Bool.or_eq_true, Bool.or_eq_true]
  refine h.imp_left (Or.imp_left fun halpha => ?_)
  have hcode : c.toNat < 128 := by
    unfold Char.isAlpha at halpha
    rw [Bool.or_eq_true, Text.isUpper_iff, Text.isLower_iff] at halpha
    omega
  have hne : c.toNat ≠ 0x2E2F := by omega
  simp [Text.startsIdentifier, Text.isLetter, hcode, halpha, hne]

theorem isNamePart_of_isPlain {c : Char} (h : (isPlainStart c || c.isDigit) = true) :
    isNamePart c = true ∧ c ≠ '\\' := by
  rw [Bool.or_eq_true] at h
  constructor
  · rcases h with hstart | hdigit
    · have hname := isNameStart_of_isPlainStart hstart
      rw [isNameStart, Bool.or_eq_true, Bool.or_eq_true, decide_eq_true_eq,
        decide_eq_true_eq] at hname
      rcases hname with (hstarts | rfl) | rfl
      · simp [isNamePart, Text.continuesIdentifier, hstarts]
      · decide +kernel
      · decide +kernel
    · have hcode : c.toNat < 128 := by
        have hnine : c.toNat ≤ 57 := (Char.isDigit_iff_toNat.1 hdigit).2
        omega
      simp [isNamePart, Text.continuesIdentifier, Text.isDecimalDigit, hcode, hdigit]
  · rintro rfl
    revert h
    decide

namespace IsPlainName

variable {w : String}

theorem isIdentifier (h : IsPlainName w) (ctx : Context) : isIdentifier ctx w = true := by
  have hreserved : isReserved w = false := by
    rw [isReserved, Bool.eq_false_iff, Ne, List.contains_iff_mem]
    exact fun hmem => h.free w (List.mem_append_left _ hmem) rfl
  have hawait : (w == "await") = false := beq_false_of_ne (h.free _ (by decide))
  have hyield : (w == "yield") = false := beq_false_of_ne (h.free _ (by decide))
  simp [Script.isIdentifier, hreserved, hawait, hyield]

end IsPlainName

namespace Reader

variable {α β : Type} {x : Reader α} {s s' : ReaderState}

/-! ## Readers that do not refuse -/

/-- A reader does not refuse, and its result and the state it leaves are such. -/
def Reads (x : Reader α) (s : ReaderState) (P : α → ReaderState → Prop) : Prop :=
  ∃ a s', x s = .ok a s' ∧ P a s'

namespace Reads

variable {P Q : α → ReaderState → Prop} {R : β → ReaderState → Prop} {k : α → Reader β}

theorem pure {a : α} (h : P a s) : Reads (Pure.pure a) s P := ⟨a, s, rfl, h⟩

theorem bind (h : Reads x s fun a s' => Reads (k a) s' R) : Reads (x >>= k) s R := by
  obtain ⟨a, s', hx, b, s'', hk, hb⟩ := h
  exact ⟨b, s'', (bind_of_ok hx).trans hk, hb⟩

theorem step {a : α} (hx : x s = .ok a s') (h : Reads (k a) s' R) : Reads (x >>= k) s R :=
  bind ⟨a, s', hx, h⟩

theorem map {f : α → β} (h : Reads x s fun a s' => R (f a) s') : Reads (f <$> x) s R := by
  rw [map_eq_pure_bind]
  obtain ⟨a, s', hx, ha⟩ := h
  exact bind ⟨a, s', hx, pure ha⟩

theorem guard {b : Bool} {k : Unit → Reader β} (hb : b = true) (h : Reads (k ()) s R) :
    Reads (Reader.guard b >>= k) s R := by
  subst hb
  exact step rfl h

/-- Two ways of reading that go on alike. -/
theorem join {c : Prop} [Decidable c] {y : Reader α}
    (h : Reads (if c then x else y) s fun a s' => Reads (k a) s' R) :
    Reads (if c then x >>= k else y >>= k) s R := by
  split
  next hc =>
    rw [if_pos hc] at h
    exact bind h
  next hc =>
    rw [if_neg hc] at h
    exact bind h

theorem mono (h : Reads x s P) (hpq : ∀ a s', P a s' → Q a s') : Reads x s Q := by
  obtain ⟨a, s', hx, ha⟩ := h
  exact ⟨a, s', hx, hpq a s' ha⟩

end Reads

/-! ## Tokens and where they are written -/

/-- The cursor stands in the text, and nothing is left to be checked at the end of the module. -/
structure Before (source : String) (front rest : List Char) (s : ReaderState) : Prop where
  source : source.toList = front ++ rest
  cursor : s.cursor = ⟨rest, String.utf8Len front⟩
  initials : s.initials = []
  exported : s.exported = []

/-- The token at hand is written behind a gap, and no comment stands in front of it. -/
structure AtHand (source : String) (front gap shown rest : List Char) (tok : Token)
    (s : ReaderState) : Prop extends Before source (front ++ gap ++ shown) rest s where
  token : s.token = tok
  start : s.tokenCursor.offset = String.utf8Len (front ++ gap)
  stop : s.prevStop = String.utf8Len front
  pureBefore : s.pureBefore = false

/-- What a token is made from, with something behind it. -/
structure Lexes (tok : Token) (shown rest : List Char) : Prop where
  token (fuel offset : Nat) (hfuel : shown.length < fuel) :
    lexToken fuel ⟨shown ++ rest, offset⟩ = some (tok, ⟨rest, offset + String.utf8Len shown⟩)
  begins : ∀ c ∈ (shown ++ rest).head?,
    isLineBreak c = false ∧ isLineBlank c = false ∧ c ≠ '/'

variable {source : String} {front gap shown rest : List Char} {tok : Token}

/-- The fuel is enough for everything that is still to be read. -/
theorem Before.length_le (hs : Before source front rest s) :
    rest.length ≤ source.utf8ByteSize := by
  have hlength (cs : List Char) : cs.length ≤ String.utf8Len cs := by
    induction cs with
    | nil => exact Nat.le_refl 0
    | cons c cs ih =>
        have hpos := c.utf8Size_pos
        rw [List.length_cons, String.utf8Len_cons]
        omega
  have hle := hlength rest
  rw [← String.utf8Len_toList, hs.source, String.utf8Len_append]
  omega

/-- Nothing or a blank stands between two tokens. -/
def IsGap (gap : List Char) : Prop := gap = [] ∨ gap = [' ']

theorem IsGap.blank (h : IsGap gap) :
    ∀ c ∈ gap, isLineBlank c = true ∧ isLineBreak c = false ∧ c ≠ '/' := by
  rcases h with rfl | rfl
  · nofun
  · exact List.forall_mem_singleton.2 (by decide)

/-- The next token of the text is put at hand. -/
theorem advance_reads {fuel : Nat} (hs : Before source front (gap ++ (shown ++ rest)) s)
    (hgap : IsGap gap) (htok : Lexes tok shown rest) (hfuel : source.utf8ByteSize + 2 ≤ fuel) :
    Reads (advance fuel) s fun _ s' => AtHand source front gap shown rest tok s' := by
  have hlength := hs.length_le
  simp only [List.length_append] at hlength
  obtain ⟨lines, hadvance⟩ := advance_eq hgap.blank htok.begins hs.cursor (by omega)
    (htok.token fuel _ (by omega))
  refine ⟨_, _, hadvance, ⟨⟨?_, ?_, hs.initials, hs.exported⟩, rfl, ?_, rfl, rfl⟩⟩
  · simpa using hs.source
  · simp [Nat.add_assoc]
  · simp

theorem lexes_eof : Lexes .eof [] [] := ⟨fun _ _ _ => rfl, nofun⟩

/-- Brackets and separators that are tokens whatever stands behind them. -/
inductive IsMark : Char → String → Prop
  | openParen : IsMark '(' "("
  | closeParen : IsMark ')' ")"
  | openBrace : IsMark '{' "\x7b"
  | closeBrace : IsMark '}' "\x7d"
  | comma : IsMark ',' ","
  | semicolon : IsMark ';' ";"

theorem IsMark.lexes {c : Char} {p : String} (h : IsMark c p) (rest : List Char) :
    Lexes (.punct p) [c] rest := by
  refine ⟨fun fuel offset _ => ?_, ?_⟩
  · cases h with
    | openParen | closeParen | openBrace | closeBrace | comma | semicolon => rfl
  · rintro _ ⟨⟩
    cases h with
    | openParen | closeParen | openBrace | closeBrace | comma | semicolon => decide

/-- A name is a token if something else stands behind it. -/
theorem lexes_name {w : String} {stop : Char} (hw : IsPlainName w)
    (hstop : isNamePart stop = false ∧ stop ≠ '\\') :
    Lexes (.word w false) w.toList (stop :: rest) := by
  obtain ⟨c, cs, htoList, hc, hcs⟩ := hw.spelled
  have hword : w = String.ofList (c :: cs) := by rw [← htoList, String.ofList_toList]
  have hcode := toNat_of_isPlainStart hc
  have hne (d : Char) (hd : isPlainStart d = false) : c ≠ d := by
    rintro rfl
    rw [hc] at hd
    cases hd
  have hbreak : isLineBreak c = false := by
    simp only [isLineBreak, Bool.or_eq_false_iff, decide_eq_false_iff_not]
    exact ⟨⟨⟨hne _ (by decide), hne _ (by decide)⟩, by omega⟩, by omega⟩
  have hblank : isLineBlank c = false := by
    simp only [isLineBlank, Bool.or_eq_false_iff, Bool.and_eq_false_iff, decide_eq_false_iff_not]
    omega
  have hdigit : c.isDigit = false := by
    rw [Bool.eq_false_iff, Ne, Char.isDigit_iff_toNat]
    rintro ⟨hzero, hnine⟩
    have hnine : c.toNat ≤ 57 := hnine
    have hzero : 48 ≤ c.toNat := hzero
    omega
  rw [htoList]
  refine ⟨fun fuel offset hfuel => ?_, ?_⟩
  · rw [hword]
    refine lexToken_word ⟨isNameStart_of_isPlainStart hc, hne _ (by decide)⟩ ?_
      (fun d hd => isNamePart_of_isPlain (hcs d hd)) hstop hfuel offset
    exact ⟨by omega, by omega, by omega, hdigit, hne _ (by decide), hne _ (by decide)⟩
  · rintro _ ⟨⟩
    exact ⟨hbreak, hblank, hne _ (by decide)⟩

/-! ## Tokens that are taken -/

variable {g : Grammar} {ctx : Context} {fuel : Nat} {P : ReaderState → Prop}

theorem AtHand.advance {gap' shown' rest' : List Char} {tok' : Token}
    (hs : AtHand source front gap shown (gap' ++ (shown' ++ rest')) tok s) (hgap : IsGap gap')
    (htok : Lexes tok' shown' rest') (hfuel : source.utf8ByteSize + 2 ≤ fuel) :
    Reads (Reader.advance fuel) s fun _ s' =>
      AtHand source (front ++ gap ++ shown) gap' shown' rest' tok' s' :=
  advance_reads hs.toBefore hgap htok hfuel

/-- The token at hand is written somewhere behind a gap. -/
def Shows (source : String) (gap shown rest : List Char) (tok : Token) (s : ReaderState) : Prop :=
  ∃ front, AtHand source front gap shown rest tok s

namespace Shows

theorem token (hs : Shows source gap shown rest tok s) : s.token = tok := by
  obtain ⟨front, hs⟩ := hs
  exact hs.token

theorem isPunct (hs : Shows source gap shown rest tok s) (p : String) :
    s.token.isPunct p = tok.isPunct p := by
  rw [hs.token]

theorem advance {gap' shown' rest' : List Char} {tok' : Token}
    (hs : Shows source gap shown (gap' ++ (shown' ++ rest')) tok s) (hgap : IsGap gap')
    (htok : Lexes tok' shown' rest') (hfuel : source.utf8ByteSize + 2 ≤ fuel) :
    Reads (Reader.advance fuel) s fun _ s' => Shows source gap' shown' rest' tok' s' := by
  obtain ⟨front, hs⟩ := hs
  exact (hs.advance hgap htok hfuel).mono fun _ _ hs' => ⟨_, hs'⟩

end Shows

theorem AtHand.withNotArrow (hs : AtHand source front gap shown rest tok s) (ns : List Nat) :
    AtHand source front gap shown rest tok { s with notArrow := ns } :=
  ⟨⟨hs.source, hs.cursor, hs.initials, hs.exported⟩, hs.token, hs.start, hs.stop, hs.pureBefore⟩

theorem expectPunct_reads {p : String} (htok : s.token = .punct p)
    (h : Reads (advance fuel) s fun _ s' => P s') :
    Reads (expectPunct fuel p) s fun _ s' => P s' := by
  refine .step (atPunct_eq _ _) (.guard ?_ h)
  rw [htok]
  exact beq_self_eq_true p

/-- A mark that is wanted is taken, and the next token is put at hand. -/
theorem Shows.expectPunct {p : String} {gap' shown' rest' : List Char} {tok' : Token}
    (hs : Shows source gap shown (gap' ++ (shown' ++ rest')) (.punct p) s) (hgap : IsGap gap')
    (htok : Lexes tok' shown' rest') (hfuel : source.utf8ByteSize + 2 ≤ fuel) :
    Reads (Reader.expectPunct fuel p) s fun _ s' => Shows source gap' shown' rest' tok' s' :=
  expectPunct_reads hs.token (hs.advance hgap htok hfuel)

theorem expectWord_reads {w : String} (htok : s.token = .word w false)
    (h : Reads (advance fuel) s fun _ s' => P s') :
    Reads (expectWord fuel w) s fun _ s' => P s' := by
  refine .step (atWord_eq _ _) (.guard ?_ h)
  rw [htok]
  exact beq_self_eq_true w

theorem eatPunct_reads {p : String} (htok : s.token = .punct p)
    (h : Reads (advance fuel) s fun _ s' => P s') :
    Reads (eatPunct fuel p) s fun b s' => b = true ∧ P s' := by
  refine .step (atPunct_eq _ _) ?_
  have hpunct : s.token.isPunct p = true := by
    rw [htok]
    exact beq_self_eq_true p
  rw [hpunct]
  exact .bind (h.mono fun _ s' hs' => .pure ⟨rfl, hs'⟩)

theorem identifier_reads {w : String} (hw : IsPlainName w) (htok : s.token = .word w false)
    (h : Reads (advance g.width) s fun _ s' => P s') :
    Reads (identifier g ctx) s fun n s' =>
      n = ⟨⟨s.tokenCursor.offset, s'.prevStop⟩, w⟩ ∧ P s' := by
  refine .step rfl (.step rfl ?_)
  rw [htok]
  refine .guard (hw.isIdentifier ctx) (.bind (h.mono fun _ s' hs' => ?_))
  exact .step rfl (.pure ⟨rfl, hs'⟩)

/-! ## Expressions that are no more than their first part -/

/-- Tokens that end an expression here. -/
inductive Ends : Token → Prop
  | paren : Ends (.punct ")")
  | semicolon : Ends (.punct ";")
  | eof : Ends .eof

theorem opens_name {w : String} (hw : IsPlainName w) : Opens (.word w false) := by
  have hne {v : String} (hv : v ∈ reservedWords ++ contextualWords) : (v == w) = false :=
    beq_false_of_ne (hw.free v hv).symm
  refine ⟨fun v hv => ?_, rfl, ?_, nofun⟩
  · have hall : ∀ v ∈ ["new", "async", "await", "yield"], v ∈ reservedWords ++ contextualWords := by
      decide
    exact hne (hall v hv)
  · have htypeof := hw.free "typeof" (by decide)
    have hvoid := hw.free "void" (by decide)
    have hdelete := hw.free "delete" (by decide)
    simp [unaryOp?, htypeof, hvoid, hdelete]

theorem memberRest_ends (htok : Ends s.token) {first : Nat} {forms : LinkForms} {e : Expr}
    {chain : Bool} (hfuel : fuel ≠ 0) :
    memberRest g ctx first forms fuel e chain s = .ok (e, chain) s := by
  obtain ⟨n, rfl⟩ := Nat.exists_eq_succ_of_ne_zero hfuel
  have htoken : token s = .ok s.token s := rfl
  rw [memberRest]
  refine (bind_of_ok htoken).trans ?_
  generalize s.token = tok at htok
  cases htok with
  | paren | semicolon | eof => rfl

theorem operatorRest_ends (htok : Ends s.token) {first level : Nat} {e : Expr} (hfuel : fuel ≠ 0) :
    operatorRest g ctx first level fuel e s = .ok e s := by
  obtain ⟨n, rfl⟩ := Nat.exists_eq_succ_of_ne_zero hfuel
  have htoken : token s = .ok s.token s := rfl
  rw [operatorRest]
  refine (bind_of_ok htoken).trans ?_
  generalize s.token = tok at htok
  cases htok with
  | paren | semicolon | eof => rfl

theorem Ends.isPunct (htok : Ends tok) {p : String} (hp : p ∉ [")", ";"]) :
    tok.isPunct p = false := by
  have hne (q : String) (hq : q ∈ [")", ";"]) : p ≠ q := by
    rintro rfl
    exact hp hq
  cases htok with
  | paren => exact beq_false_of_ne (hne _ (by decide))
  | semicolon => exact beq_false_of_ne (hne _ (by decide))
  | eof => rfl

theorem Ends.updateOp? (htok : Ends tok) : Reader.updateOp? tok = none := by
  cases htok with
  | paren | semicolon | eof => rfl

theorem Ends.assignOp? (htok : Ends tok) : Reader.assignOp? tok = none := by
  cases htok with
  | paren | semicolon | eof => rfl

variable {Q : Expr → ReaderState → Prop}

theorem linkedExpression_reads {forms : LinkForms} (htok : Opens s.token)
    (h : Reads (primary g ctx) s fun e s' =>
      Reads (memberRest g ctx s.tokenCursor.offset forms g.width e false) s' fun r s'' =>
        r.2 = false ∧ Q r.1 s'') :
    Reads (linkedExpression g ctx forms) s fun r s' => Q r.1 s' := by
  unfold linkedExpression
  refine .step rfl (.step (atWord_eq _ _) ?_)
  rw [htok.word _ (by decide)]
  refine .bind (h.mono fun e s' hlinks => .bind (hlinks.mono fun r s'' hr => .pure ?_))
  obtain ⟨e, chain⟩ := r
  obtain ⟨rfl, hr⟩ := hr
  exact hr

/-- A primary expression that nothing is linked to. -/
theorem memberExpression_of_primary (htok : Opens s.token) (hwidth : g.width ≠ 0)
    (h : Reads (primary g ctx) s fun e s' => Ends s'.token ∧ Q e s') :
    Reads (memberExpression g ctx) s fun r s' => Ends s'.token ∧ Q r.1 s' :=
  linkedExpression_reads (Q := fun e s' => Ends s'.token ∧ Q e s') htok
    (h.mono fun _ s' he => ⟨_, s', memberRest_ends he.1 hwidth, rfl, he⟩)

theorem unaryExpression_reads (htok : Opens s.token)
    (h : Reads (g.member ctx) s fun r s' => Ends s'.token ∧ Q r.1 s') :
    Reads (unaryExpression g ctx) s fun e s' => Ends s'.token ∧ Q e s' := by
  unfold unaryExpression
  refine .step rfl (.step rfl ?_)
  rw [htok.update, htok.unary]
  refine .step htok.atAwait (.bind (h.mono fun r s' hr => .step rfl ?_))
  rw [hr.1.updateOp?]
  exact .pure hr

theorem binaryExpression_reads {level : Nat} (htok : Opens s.token) (hpure : s.pureBefore = false)
    (hwidth : g.width ≠ 0) (h : Reads (g.unary ctx) s fun e s' => Ends s'.token ∧ Q e s') :
    Reads (binaryExpression g ctx level) s fun e s' => Ends s'.token ∧ Q e s' := by
  unfold binaryExpression
  refine .step rfl (.step rfl (.step rfl ?_))
  rw [hpure]
  have hrest : Reads (g.unary ctx >>= operatorRest g ctx s.tokenCursor.offset level g.width) s
      fun e s' => Ends s'.token ∧ Q e s' :=
    .bind (h.mono fun e s' he => ⟨e, s', operatorRest_ends he.1 hwidth, he⟩)
  generalize s.token = tok at htok
  cases tok with
  | privateName w => exact absurd rfl (htok.notPrivate w)
  | _ => exact hrest

theorem assignmentExpression_reads (htok : Opens s.token)
    (harrow : s.token.isPunct "(" = true →
      ∃ ns, arrowParams? g ctx s = .ok none { s with notArrow := ns })
    (h : ∀ ns, Reads (g.binary ctx 0) { s with notArrow := ns } fun e s' =>
      Ends s'.token ∧ Q e s') :
    Reads (assignmentExpression g ctx) s fun e s' => Ends s'.token ∧ Q e s' := by
  have hparams : ∃ ns, (if s.token.isPunct "(" = true then arrowParams? g ctx else pure none) s =
      .ok none { s with notArrow := ns } := by
    split
    next hopen => exact harrow hopen
    next => exact ⟨s.notArrow, rfl⟩
  obtain ⟨ns, hparams⟩ := hparams
  unfold assignmentExpression
  refine .step rfl (.step (atWord_eq _ _) ?_)
  rw [htok.word _ (by decide), Bool.and_false, if_neg Bool.false_ne_true]
  refine .step htok.asyncArrow? (.step (atPunct_eq _ _) ?_)
  refine .join ⟨none, _, hparams, .bind ((h ns).mono fun e s' he => ?_)⟩
  refine .step (atPunct_eq _ _) ?_
  rw [he.1.isPunct (by decide)]
  refine .step rfl ?_
  rw [he.1.assignOp?]
  refine .step (eatPunct_of_not (he.1.isPunct (by decide))) ?_
  exact .pure he

theorem expression_of_assignment (hwidth : g.width ≠ 0)
    (h : Reads (g.assignment ctx) s fun e s' => Ends s'.token ∧ Q e s') :
    Reads (expression g ctx) s fun e s' => Ends s'.token ∧ Q e s' := by
  obtain ⟨n, hn⟩ := Nat.exists_eq_succ_of_ne_zero hwidth
  unfold expression
  refine .step rfl ?_
  rw [hn, separated]
  refine .bind (.bind (h.mono fun e s' he => ?_))
  refine .step (eatPunct_of_not (he.1.isPunct (by decide))) ?_
  exact .pure (.pure he)

variable {width depth : Nat}

/-- What is read where an expression begins and is not gone on with is the whole expression. -/
theorem expression_reads (htok : Opens s.token) (hpure : s.pureBefore = false) (hwidth : width ≠ 0)
    (harrow : s.token.isPunct "(" = true →
      ∃ ns, arrowParams? (Grammar.ofDepth source width (depth + 3)) ctx s =
        .ok none { s with notArrow := ns })
    (h : ∀ ns, Reads (memberExpression (Grammar.ofDepth source width depth) ctx)
      { s with notArrow := ns } fun r s' => Ends s'.token ∧ Q r.1 s') :
    Reads (expression (Grammar.ofDepth source width (depth + 4)) ctx) s fun e s' =>
      Ends s'.token ∧ Q e s' := by
  refine expression_of_assignment hwidth (assignmentExpression_reads htok harrow fun ns => ?_)
  exact binaryExpression_reads htok hpure hwidth (unaryExpression_reads htok (h ns))

end Reader

end ScopedViews.Script

import ScopedViews.Proofs.Text.Matching
import ScopedViews.Rewrite
/-!
# Which comments a rewrite takes out

`tokens` reads a text from left to right for the comments in it: a comment starts at `<!--` and
ends at the first `-->` behind these four characters.  A conditional comment, one whose inner text
starts with `[`, is to stay, and any other one is to go with a line feed behind it.
`withoutComments` is what a text should be rewritten to by this reading.

The rewrite reads differently in two places.  It wants a character between `<!--` and `-->`, so that
an empty comment is not one, and it looks for comments inside a conditional one.  A text is
`Regular` if it has neither an empty comment nor a comment that starts inside a conditional one.

* `shortens_afterComment?`, `afterComment?_isSome_iff`: what the rewrite takes for a comment;
* `pieces_eq_iff_regular`: it takes out the comments that are to go exactly in regular texts;
* `rewrite_eq_erase`: in a text without marks and pragmas nothing else is taken out.
-/

namespace ScopedViews.Rewrite

open Text (Piece pieces upTo? after? after?_eq_some_iff eq_of_upTo?_eq_some)

/-- How a comment opens. -/
def opening : List Char := ['<', '!', '-', '-']

/-- How a comment closes. -/
def closing : List Char := ['-', '-', '>']

/-! ## Reading comments -/

/-- What a text is read as. -/
inductive Token where
  | char (c : Char)
  | comment (inner : List Char) (lineFeed : Bool)
  | conditional (inner : List Char)
deriving DecidableEq, Repr

/-- The text of a token, with the line feed that belongs to a comment. -/
def Token.written : Token → List Char
  | .char c => [c]
  | .comment inner lineFeed => opening ++ inner ++ closing ++ if lineFeed then ['\n'] else []
  | .conditional inner => opening ++ inner ++ closing

/-- What should become of a token. -/
def Token.pieces : Token → List Piece
  | .char c => [.stays c]
  | .comment inner lineFeed => [.goes (Token.comment inner lineFeed).written]
  | .conditional inner => (Token.conditional inner).written.map .stays

/-- The inner text of the comment at the head of a text, and the text behind the comment. -/
def comment? (cs : List Char) : Option (List Char × List Char) :=
  (after? opening cs).bind (upTo? closing)

theorem eq_of_comment?_eq_some {cs inner rest : List Char}
    (h : comment? cs = some (inner, rest)) : cs = opening ++ inner ++ closing ++ rest := by
  obtain ⟨inside, hinside, hfound⟩ := Option.bind_eq_some_iff.1 h
  rw [after?_eq_some_iff.1 hinside, eq_of_upTo?_eq_some hfound]
  simp

theorem length_dropLineFeed_le (cs : List Char) : (dropLineFeed cs).length ≤ cs.length := by
  unfold dropLineFeed
  split <;> simp

theorem length_lt_of_comment? {c : Char} {cs inner rest : List Char}
    (h : comment? (c :: cs) = some (inner, rest)) : rest.length < cs.length + 1 := by
  have hcs := congrArg List.length (eq_of_comment?_eq_some h)
  simp [opening] at hcs
  omega

/-- A text read from left to right. -/
def tokens : List Char → List Token
  | [] => []
  | c :: cs =>
    match _h : comment? (c :: cs) with
    | none => .char c :: tokens cs
    | some (inner, rest) =>
      if inner.head? = some '[' then .conditional inner :: tokens rest
      else .comment inner (rest.head? = some '\n') :: tokens (dropLineFeed rest)
termination_by cs => cs.length
decreasing_by
  · simp
  · exact length_lt_of_comment? _h
  · exact (length_dropLineFeed_le rest).trans_lt (length_lt_of_comment? _h)

/-- A text without its comments, but with the conditional ones. -/
def withoutComments (body : String) : String :=
  String.ofList (((tokens body.toList).flatMap Token.pieces).flatMap Piece.left)

theorem lineFeed_append_dropLineFeed (cs : List Char) :
    (if cs.head? = some '\n' then ['\n'] else []) ++ dropLineFeed cs = cs := by
  cases cs with
  | nil => rfl
  | cons c cs =>
      by_cases hc : c = '\n'
      · simp [hc, dropLineFeed]
      · simp [hc, dropLineFeed]

/-- The tokens of a text are all of it. -/
theorem written_tokens (cs : List Char) : (tokens cs).flatMap Token.written = cs := by
  fun_induction tokens cs with
  | case1 => rfl
  | case2 c cs hnone ih => simpa [Token.written] using ih
  | case3 c cs inner rest hfound hhead ih =>
      rw [List.flatMap_cons, ih, eq_of_comment?_eq_some hfound]
      rfl
  | case4 c cs inner rest hfound hhead ih =>
      rw [List.flatMap_cons, ih, eq_of_comment?_eq_some hfound]
      simp only [Token.written, decide_eq_true_eq, List.append_assoc, lineFeed_append_dropLineFeed]

/-! ## What the rewrite takes for a comment -/

theorem afterComment?_eq (cs : List Char) :
    afterComment? cs =
      match after? opening cs with
      | none | some [] => none
      | some (c :: inside) =>
        if c = '[' then none
        else (upTo? closing inside).map fun (_, rest) => dropLineFeed rest := by
  have hopen : after? "<!--".toList cs = after? opening cs := rfl
  have hclose : "-->".toList = closing := rfl
  unfold afterComment?
  rw [hopen, hclose]
  match after? opening cs with
  | none => rfl
  | some [] => rfl
  | some (c :: inside) =>
      by_cases hc : c = '['
      · simp [hc]
      · simp only [Option.bind_eq_bind, Option.bind_some, hc, if_false, Text.seek?_after?]
        cases upTo? closing inside with
        | none => rfl
        | some found => rfl

/-- An ordinary comment starts at the head of a text: there is a character that is not `[` between
`<!--` and a later `-->`. -/
def StartsComment (cs : List Char) : Prop :=
  ∃ c inner rest, cs = opening ++ c :: inner ++ closing ++ rest ∧ c ≠ '['

theorem afterComment?_isSome_iff {cs : List Char} :
    (afterComment? cs).isSome = true ↔ StartsComment cs := by
  rw [afterComment?_eq]
  constructor
  · intro h
    split at h
    next => simp at h
    next => simp at h
    next c inside hopen =>
        by_cases hc : c = '['
        · simp [hc] at h
        · simp only [hc, if_false, Option.isSome_map] at h
          obtain ⟨⟨inner, rest⟩, hfound⟩ := Option.isSome_iff_exists.1 h
          refine ⟨c, inner, rest, ?_, hc⟩
          rw [after?_eq_some_iff.1 hopen, eq_of_upTo?_eq_some hfound]
          simp
  · rintro ⟨c, inner, rest, rfl, hc⟩
    have hclosed : (upTo? closing (inner ++ closing ++ rest)).isSome = true :=
      Text.upTo?_isSome_iff.2 ⟨inner, rest, rfl⟩
    simpa [List.append_assoc, hc] using hclosed

theorem dropLineFeed_suffix (cs : List Char) : dropLineFeed cs <:+ cs :=
  ⟨_, lineFeed_append_dropLineFeed cs⟩

theorem shortens_afterComment? : Text.Shortens afterComment? := by
  intro cs rest h
  rw [afterComment?_eq] at h
  split at h
  next => simp at h
  next => simp at h
  next c inside hopen =>
      split at h
      next => simp at h
      next =>
          obtain ⟨⟨inner, behind⟩, hfound, rfl⟩ := Option.map_eq_some_iff.1 h
          obtain ⟨feed, hfeed⟩ := dropLineFeed_suffix behind
          refine ⟨opening ++ c :: inner ++ closing ++ feed, by simp [opening], ?_⟩
          rw [after?_eq_some_iff.1 hopen, eq_of_upTo?_eq_some hfound]
          simp [hfeed]

/-- Where no comment is read, the rewrite sees none either. -/
theorem afterComment?_of_comment?_none {cs : List Char} (h : comment? cs = none) :
    afterComment? cs = none := by
  rw [← Option.not_isSome_iff_eq_none, afterComment?_isSome_iff]
  rintro ⟨c, inner, rest, rfl, -⟩
  have hclosed : (upTo? closing (c :: inner ++ closing ++ rest)).isSome = true :=
    Text.upTo?_isSome_iff.2 ⟨c :: inner, rest, rfl⟩
  have hopen : comment? (opening ++ c :: inner ++ closing ++ rest) =
      upTo? closing (c :: inner ++ closing ++ rest) := by
    simp [comment?, List.append_assoc]
  rw [← hopen, h] at hclosed
  contradiction

/-- An ordinary comment with something in it goes with the line feed behind it. -/
theorem afterComment?_of_comment? {cs rest : List Char} {c : Char} {inner : List Char}
    (h : comment? cs = some (c :: inner, rest)) (hc : c ≠ '[') :
    afterComment? cs = some (dropLineFeed rest) := by
  obtain ⟨inside, hinside, hfound⟩ := Option.bind_eq_some_iff.1 h
  cases inside with
  | nil => simp [upTo?, after?, closing] at hfound
  | cons d inside =>
      rw [upTo?] at hfound
      split at hfound
      next => simp at hfound
      next =>
          obtain ⟨⟨inner', rest'⟩, hfound, hpair⟩ := Option.map_eq_some_iff.1 hfound
          cases hpair
          rw [afterComment?_eq, hinside]
          simp [hc, hfound]

/-- What goes from the opening of an empty comment on is longer than the comment. -/
theorem length_lt_of_afterComment?_empty {behind rest used : List Char}
    (h : afterComment? (opening ++ closing ++ behind) = some rest)
    (hused : opening ++ closing ++ behind = used ++ rest) : 9 ≤ used.length := by
  rw [afterComment?_eq, List.append_assoc, Text.after?_append_self] at h
  simp only [closing, List.cons_append, List.nil_append] at h
  rw [if_neg (by decide)] at h
  obtain ⟨⟨inner, rest'⟩, hfound, rfl⟩ := Option.map_eq_some_iff.1 h
  obtain ⟨feed, hfeed⟩ := dropLineFeed_suffix rest'
  have hinside := eq_of_upTo?_eq_some hfound
  -- the closing that ends the stretch cannot overlap with the one of the empty comment
  have hinner : 2 ≤ inner.length := by
    match inner, hinside with
    | [], hinside => simp at hinside
    | [a], hinside => simp at hinside
    | _ :: _ :: _, _ => simp
  have hlen := congrArg List.length hused
  have hlen' := congrArg List.length hinside
  have hlen'' := congrArg List.length hfeed
  simp only [opening, closing, List.length_append, List.length_cons, List.length_nil]
    at hlen hlen' hlen''
  omega

/-! ## Regular texts -/

/-- No comment is empty, and in no conditional comment does an ordinary one start. -/
def Regular : List Token → Prop
  | [] => True
  | .char _ :: ts => Regular ts
  | .comment inner _ :: ts => inner ≠ [] ∧ Regular ts
  | .conditional inner :: ts =>
    (∀ cs, cs <:+ (Token.conditional inner).written → cs ≠ [] →
      ¬ StartsComment (cs ++ ts.flatMap Token.written)) ∧ Regular ts

theorem not_startsComment_iff {cs : List Char} : ¬ StartsComment cs ↔ afterComment? cs = none := by
  rw [← afterComment?_isSome_iff, Bool.not_eq_true, Option.isSome_eq_false_iff,
    Option.isNone_iff_eq_none]

/-- The rewrite takes out what should go, piece by piece, exactly in regular texts. -/
theorem pieces_eq_iff_regular (cs : List Char) :
    pieces afterComment? cs = (tokens cs).flatMap Token.pieces ↔ Regular (tokens cs) := by
  fun_induction tokens cs with
  | case1 => simp [Regular]
  | case2 c cs hnone ih =>
      rw [Text.pieces_of_none (afterComment?_of_comment?_none hnone), Regular, ← ih]
      simp [Token.pieces]
  | case3 c cs inner rest hfound hhead ih =>
      obtain ⟨inner, rfl⟩ : ∃ more, inner = '[' :: more := by
        cases inner with
        | nil => simp at hhead
        | cons d inner => exact ⟨inner, by simpa using hhead⟩
      -- a conditional comment stays as a whole exactly if no match starts in it
      have hcs : c :: cs = (Token.conditional ('[' :: inner)).written ++ rest :=
        eq_of_comment?_eq_some hfound
      rw [hcs, List.flatMap_cons, Token.pieces,
        Text.pieces_append_eq_iff shortens_afterComment?, Regular, ih, written_tokens]
      simp only [not_startsComment_iff]
  | case4 c cs inner rest hfound hhead ih =>
      have hcs : c :: cs =
          (Token.comment inner (rest.head? = some '\n')).written ++ dropLineFeed rest := by
        simp only [Token.written, decide_eq_true_eq, List.append_assoc,
          lineFeed_append_dropLineFeed]
        simpa [List.append_assoc] using eq_of_comment?_eq_some hfound
      cases inner with
      | nil =>
          -- an empty comment should go, but no match is as short as it
          simp only [Regular, ne_eq, not_true_eq_false, false_and, iff_false]
          intro heq
          cases hafter : afterComment? (c :: cs) with
          | none => simp [Text.pieces_of_none hafter, Token.pieces] at heq
          | some rest' =>
              obtain ⟨used, hused, hsplit⟩ := shortens_afterComment? _ _ hafter
              rw [hsplit, Text.pieces_of_some hused (hsplit ▸ hafter)] at heq
              have hwritten : used = (Token.comment [] (rest.head? = some '\n')).written := by
                simpa [Token.pieces] using (List.cons.inj heq).1
              have hempty : c :: cs = opening ++ closing ++ rest := by
                simpa using eq_of_comment?_eq_some hfound
              have hlong : 9 ≤ used.length :=
                length_lt_of_afterComment?_empty (hempty ▸ hafter) (hempty ▸ hsplit)
              have hshort : used.length ≤ 8 := by
                rw [hwritten, Token.written]
                split <;> simp [opening, closing]
              omega
      | cons d inner =>
          -- any other comment is a match, and ends where it ends
          have hd : d ≠ '[' := by simpa using hhead
          have hafter := afterComment?_of_comment? hfound hd
          rw [hcs] at hafter ⊢
          rw [Text.pieces_of_some (by simp [Token.written, opening]) hafter]
          simp [Token.pieces, Regular, ih]

/-! ## Texts without marks and pragmas -/

theorem afterContinuation?_eq_none {cs : List Char}
    (h : after? "//@".toList cs = none) : afterContinuation? cs = none := by
  unfold afterContinuation?
  split
  next => simp [after?] at h
  next => rfl

theorem afterPragma?_eq_none {cs : List Char}
    (h : after? "\x7b\x7b--".toList cs = none) : afterPragma? cs = none := by
  unfold afterPragma?
  rw [h]
  rfl

/-- Of a text without continuation marks and pragmas only comments are taken out. -/
theorem rewrite_eq_erase {body : String} (hmark : Text.contains body "//@" = false)
    (hpragma : Text.contains body "\x7b\x7b--" = false) :
    rewrite body = String.ofList (Text.erase afterComment? body.toList) := by
  have hcontinuation : Text.erase afterContinuation? body.toList = body.toList :=
    Text.erase_of_none fun cs hcs =>
      afterContinuation?_eq_none (Text.after?_of_not_contains hmark hcs)
  have hpragmas : Text.erase afterPragma? body.toList = body.toList :=
    Text.erase_of_none fun cs hcs =>
      afterPragma?_eq_none (Text.after?_of_not_contains hpragma hcs)
  rw [rewrite, clean, hcontinuation, hpragmas]

/-- In a text without continuation marks and pragmas, the comments that go are those that should go
exactly if the text is regular, and then the rewrite leaves what it should leave. -/
theorem rewrite_takes_out_comments (body : String) (hmark : Text.contains body "//@" = false)
    (hpragma : Text.contains body "\x7b\x7b--" = false) :
    rewrite body = String.ofList ((pieces afterComment? body.toList).flatMap Piece.left) ∧
      (pieces afterComment? body.toList = (tokens body.toList).flatMap Token.pieces ↔
        Regular (tokens body.toList)) ∧
      (Regular (tokens body.toList) → rewrite body = withoutComments body) := by
  have hleft : rewrite body =
      String.ofList ((pieces afterComment? body.toList).flatMap Piece.left) := by
    rw [rewrite_eq_erase hmark hpragma, Text.left_pieces]
  refine ⟨hleft, pieces_eq_iff_regular body.toList, fun hregular => ?_⟩
  rw [hleft, (pieces_eq_iff_regular body.toList).2 hregular, withoutComments]

/-- A comment and a conditional comment, both regular. -/
theorem rewrite_takes_out_comments_beside_conditional :
    Text.contains "<!-- a -->\nb<!--[if IE]>c<![endif]-->" "//@" = false ∧
      Text.contains "<!-- a -->\nb<!--[if IE]>c<![endif]-->" "\x7b\x7b--" = false ∧
      rewrite "<!-- a -->\nb<!--[if IE]>c<![endif]-->" =
        withoutComments "<!-- a -->\nb<!--[if IE]>c<![endif]-->" := by
  refine ⟨by decide, by decide, ?_⟩
  obtain ⟨-, hregular, hsame⟩ := rewrite_takes_out_comments
    "<!-- a -->\nb<!--[if IE]>c<![endif]-->" (by decide) (by decide)
  exact hsame (hregular.1 (by decide +kernel))

/-- An empty comment stays, and what stands between two conditional comments can go with the
comment that is read from the first one into the second. -/
theorem rewrite_irregular_comments :
    (rewrite "<!---->" = "<!---->" ∧ withoutComments "<!---->" = "") ∧
      rewrite "<!--[if !IE]><!--><p></p><!--<![endif]-->" = "<!--[if !IE]>" ∧
      withoutComments "<!--[if !IE]><!--><p></p><!--<![endif]-->" =
        "<!--[if !IE]><!--><p></p>" := by
  refine ⟨⟨by decide, by decide +kernel⟩, by decide +kernel, by decide +kernel⟩

end ScopedViews.Rewrite

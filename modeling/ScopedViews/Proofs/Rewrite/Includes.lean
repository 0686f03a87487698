import Mathlib.Data.List.TakeWhile
import ScopedViews.Proofs.Rewrite.Comments
import ScopedViews.Proofs.Text.Words
/-!
# Directives behind a rewritten text

A directive that starts with `@i` and has neither a slash nor a closing brace nor a closing angle
bracket is no part of anything that a rewrite takes out, whatever stands in front of it.  So the
text in front of it is rewritten as if it ended there.

* `Inert`: texts of this kind;
* `clean_append_inert`: a line and an inert text behind it are rewritten apart from each other.
-/

namespace ScopedViews.Rewrite

open Text (after? afterWord? skipBlanks isBlank upTo? erase)

/-- A text that nothing which is taken out can reach into. -/
structure Inert (cs : List Char) : Prop where
  starts : ∃ rest, cs = '@' :: 'i' :: rest
  no_slash : '/' ∉ cs
  no_brace : '}' ∉ cs
  no_angle : '>' ∉ cs

/-! ## Pragmas are matches that shorten a text -/

theorem suffix_of_afterWord? {word cs rest : List Char} (h : afterWord? word cs = some rest) :
    rest <:+ cs := by
  obtain ⟨spelled, -, rfl⟩ := Text.afterWord?_eq_some_iff.1 h
  exact List.suffix_append spelled rest

theorem suffix_of_after? {part cs rest : List Char} (h : after? part cs = some rest) :
    rest <:+ cs :=
  ⟨part, (Text.after?_eq_some_iff.1 h).symm⟩

theorem suffix_of_afterLastEnd? {rest run behind : List Char}
    (h : afterLastEnd? rest run = some behind) : behind <:+ run ++ rest := by
  induction run with
  | nil => simp [afterLastEnd?] at h
  | cons c run ih =>
      rw [afterLastEnd?] at h
      rcases Option.or_eq_some_iff.1 h with hlast | ⟨-, hend⟩
      · exact (ih hlast).trans (List.suffix_cons c _)
      · obtain ⟨behind', hbehind, rfl⟩ := Option.map_eq_some_iff.1 hend
        obtain ⟨used, hused⟩ := suffix_of_after? hbehind
        exact ⟨c :: used, by rw [← hused]; simp⟩

/-- What follows a pragma, as it is read behind its opening. -/
def afterPragmaOpening? (cs : List Char) : Option (List Char) :=
  (afterWord? "@formatter:".toList (skipBlanks cs)).bind fun cs =>
    if (cs.takeWhile (!isBlank ·)).isEmpty then none
    else
      ((afterCommentEnd? (skipBlanks (cs.dropWhile (!isBlank ·)))).or
        (afterLastEnd? (cs.dropWhile (!isBlank ·)) (cs.takeWhile (!isBlank ·)))).map dropLineFeed

theorem afterPragma?_eq (cs : List Char) :
    afterPragma? cs = (after? "\x7b\x7b--".toList cs).bind afterPragmaOpening? := by
  unfold afterPragma? afterPragmaOpening?
  simp only [Option.bind_eq_bind, List.span_eq_takeWhile_dropWhile]

theorem skipBlanks_suffix (cs : List Char) : skipBlanks cs <:+ cs :=
  List.dropWhile_suffix _

theorem suffix_of_afterPragmaOpening? {cs rest : List Char}
    (h : afterPragmaOpening? cs = some rest) : rest <:+ cs := by
  obtain ⟨inside, hinside, h⟩ := Option.bind_eq_some_iff.1 h
  have hsuffix : inside <:+ cs := (suffix_of_afterWord? hinside).trans (skipBlanks_suffix cs)
  refine List.IsSuffix.trans ?_ hsuffix
  split at h
  next => simp at h
  next =>
      obtain ⟨behind, hbehind, rfl⟩ := Option.map_eq_some_iff.1 h
      refine (dropLineFeed_suffix behind).trans ?_
      rcases Option.or_eq_some_iff.1 hbehind with hend | ⟨-, hlast⟩
      · exact (suffix_of_after? hend).trans
          ((skipBlanks_suffix _).trans (List.dropWhile_suffix _))
      · have hbehind := suffix_of_afterLastEnd? hlast
        rwa [List.takeWhile_append_dropWhile] at hbehind

theorem shortens_afterPragma? : Text.Shortens afterPragma? := by
  intro cs rest h
  rw [afterPragma?_eq] at h
  obtain ⟨inside, hinside, h⟩ := Option.bind_eq_some_iff.1 h
  obtain ⟨used, hused⟩ := suffix_of_afterPragmaOpening? h
  refine ⟨"\x7b\x7b--".toList ++ used, by simp, ?_⟩
  rw [Text.after?_eq_some_iff.1 hinside, ← hused, List.append_assoc]

theorem shortens_afterContinuation? : Text.Shortens afterContinuation? := by
  intro cs rest h
  unfold afterContinuation? at h
  split at h
  next c behind =>
      split at h
      next =>
          cases h
          exact ⟨['/', '/', '@', c], by simp, rfl⟩
      next => simp at h
  next => simp at h

/-! ## Nothing in an inert text is taken out -/

theorem afterCommentEnd?_eq_none {cs : List Char} (h : '}' ∉ cs) : afterCommentEnd? cs = none :=
  Text.after?_of_mem (c := '}') (by decide) h

theorem afterLastEnd?_eq_none {rest run : List Char} (h : '}' ∉ run) :
    afterLastEnd? rest run = none := by
  induction run with
  | nil => rfl
  | cons c run ih =>
      have hrun : '}' ∉ run := fun hmem => h (List.mem_cons_of_mem c hmem)
      rw [afterLastEnd?, ih hrun, afterCommentEnd?_eq_none hrun]
      rfl

theorem afterPragmaOpening?_eq_none {cs : List Char} (h : '}' ∉ cs) :
    afterPragmaOpening? cs = none := by
  rw [Option.eq_none_iff_forall_not_mem]
  intro rest hrest
  obtain ⟨inside, hinside, hrest⟩ := Option.bind_eq_some_iff.1 hrest
  have hsuffix : inside <:+ cs := (suffix_of_afterWord? hinside).trans (skipBlanks_suffix cs)
  have hword : '}' ∉ inside.takeWhile (!isBlank ·) := fun hmem =>
    h (hsuffix.subset ((List.takeWhile_prefix _).subset hmem))
  have hbehind : '}' ∉ skipBlanks (inside.dropWhile (!isBlank ·)) := fun hmem =>
    h (hsuffix.subset ((List.dropWhile_suffix _).subset ((skipBlanks_suffix _).subset hmem)))
  rw [afterCommentEnd?_eq_none hbehind, afterLastEnd?_eq_none hword] at hrest
  simp at hrest

theorem afterPragma?_of_not_mem {cs : List Char} (h : '}' ∉ cs) : afterPragma? cs = none := by
  rw [afterPragma?_eq, Option.bind_eq_none_iff]
  intro inside hinside
  exact afterPragmaOpening?_eq_none fun hmem => h ((suffix_of_after? hinside).subset hmem)

theorem afterComment?_of_not_mem {cs : List Char} (h : '>' ∉ cs) : afterComment? cs = none := by
  rw [← Option.not_isSome_iff_eq_none, afterComment?_isSome_iff]
  rintro ⟨c, inner, rest, rfl, -⟩
  exact h (by simp [closing])

theorem afterContinuation?_of_not_mem {cs : List Char} (h : '/' ∉ cs) :
    afterContinuation? cs = none :=
  afterContinuation?_eq_none (Text.after?_of_mem (c := '/') (by decide) h)

/-! ## Nothing in front of an inert text reaches into it -/

theorem afterLastEnd?_append (rest back run : List Char) :
    afterLastEnd? (rest ++ back) run = (afterLastEnd? rest run).map (· ++ back) := by
  induction run with
  | nil => rfl
  | cons c run ih =>
      rw [afterLastEnd?, afterLastEnd?, ih, Option.map_or, Option.map_map]
      congr 2
      funext behind
      simp

/-- A run of characters that goes on into a text without braces ends a pragma where it did. -/
theorem afterLastEnd?_append_run {more : List Char} (hmore : '}' ∉ more) (rest run : List Char) :
    afterLastEnd? rest (run ++ more) = (afterLastEnd? [] run).map (· ++ (more ++ rest)) := by
  induction run with
  | nil => simpa [afterLastEnd?] using afterLastEnd?_eq_none hmore
  | cons c run ih =>
      have hend : afterCommentEnd? (run ++ more) = (afterCommentEnd? run).map (· ++ more) :=
        Text.after?_append_of_not_mem '}' (by decide) hmore run
      rw [List.cons_append, afterLastEnd?, afterLastEnd?, ih, hend, Option.map_or, Option.map_map,
        Option.map_map]
      congr 2
      funext behind
      simp

namespace Inert

variable {back : List Char}

/-- Lines of inert texts are inert. -/
theorem append_line {front : List Char} (hfront : Inert front) (hback : Inert back) :
    Inert (front ++ '\n' :: back) := by
  obtain ⟨rest, hrest⟩ := hfront.starts
  have hmem {c : Char} (hc : c ≠ '\n') (hfront : c ∉ front) (hback : c ∉ back) :
      c ∉ front ++ '\n' :: back := by
    simp [hc, hfront, hback]
  refine ⟨⟨rest ++ '\n' :: back, by rw [hrest]; rfl⟩, ?_, ?_, ?_⟩
  · exact hmem (by decide) hfront.no_slash hback.no_slash
  · exact hmem (by decide) hfront.no_brace hback.no_brace
  · exact hmem (by decide) hfront.no_angle hback.no_angle

theorem not_mem_of_suffix {cs : List Char} {c : Char} (h : c ∉ back) (hcs : cs <:+ back) : c ∉ cs :=
  fun hmem => h (hcs.subset hmem)

/-- A part without `@` is read the same way in front of an inert text. -/
theorem after?_append (hback : Inert back) {part : List Char} (hpart : '@' ∉ part)
    (cs : List Char) : after? part (cs ++ back) = (after? part cs).map (· ++ back) := by
  obtain ⟨rest, rfl⟩ := hback.starts
  refine Text.after?_append (fun ending hending hne => ?_) cs
  cases ending with
  | nil => contradiction
  | cons p ending =>
      have hp : p ≠ '@' := by
        rintro rfl
        exact hpart (hending.subset List.mem_cons_self)
      simp [after?, hp]

theorem afterCommentEnd?_append (hback : Inert back) (cs : List Char) :
    afterCommentEnd? (cs ++ back) = (afterCommentEnd? cs).map (· ++ back) :=
  Text.after?_append_of_not_mem '}' (by decide) hback.no_brace cs

theorem skipBlanks_append (hback : Inert back) (cs : List Char) :
    skipBlanks (cs ++ back) = skipBlanks cs ++ back := by
  obtain ⟨rest, rfl⟩ := hback.starts
  induction cs with
  | nil => rfl
  | cons c cs ih =>
      by_cases hc : isBlank c = true
      · simpa [skipBlanks, hc] using ih
      · simp [skipBlanks, hc]

theorem dropLineFeed_append (hback : Inert back) (cs : List Char) :
    dropLineFeed (cs ++ back) = dropLineFeed cs ++ back := by
  obtain ⟨rest, rfl⟩ := hback.starts
  cases cs with
  | nil => rfl
  | cons c cs =>
      by_cases hc : c = '\n'
      · simp [hc, dropLineFeed]
      · simp [hc, dropLineFeed]

theorem afterWord?_append (hback : Inert back) (cs : List Char) :
    afterWord? "@formatter:".toList (cs ++ back) =
      (afterWord? "@formatter:".toList cs).map (· ++ back) := by
  obtain ⟨rest, rfl⟩ := hback.starts
  refine Text.afterWord?_append (fun ending hending hne => ?_) cs
  -- only the whole word starts with `@`, and then `f` would have to be `i`
  have hends : ending ∈ "@formatter:".toList.tails := (List.mem_tails _ _).2 hending
  have hread : ∀ word ∈ "@formatter:".toList.tails, word ≠ [] →
      afterWord? word ('@' :: 'i' :: rest) = none := by
    simp [List.tails, afterWord?, Text.foldsTo]
  exact hread ending hends hne

theorem afterPragmaOpening?_append (hback : Inert back) (cs : List Char) :
    afterPragmaOpening? (cs ++ back) = (afterPragmaOpening? cs).map (· ++ back) := by
  unfold afterPragmaOpening?
  rw [hback.skipBlanks_append, hback.afterWord?_append]
  cases afterWord? "@formatter:".toList (skipBlanks cs) with
  | none => rfl
  | some inside =>
      simp only [Option.map_some, Option.bind_some]
      by_cases hall : ∀ c ∈ inside, (!isBlank c) = true
      · -- the word goes on into the inert text, in which nothing ends it
        have hmore : '}' ∉ back.takeWhile (!isBlank ·) := fun hmem =>
          hback.no_brace ((List.takeWhile_prefix _).subset hmem)
        have hrest : '}' ∉ skipBlanks (back.dropWhile (!isBlank ·)) := fun hmem =>
          hback.no_brace ((List.dropWhile_suffix _).subset ((skipBlanks_suffix _).subset hmem))
        rw [List.takeWhile_append_of_pos hall, List.dropWhile_append_of_pos hall,
          List.takeWhile_eq_self_iff.2 hall, List.dropWhile_eq_nil_iff.2 hall,
          afterLastEnd?_append_run hmore, List.takeWhile_append_dropWhile,
          afterCommentEnd?_eq_none hrest, afterCommentEnd?_eq_none (by simp [Text.skipBlanks])]
        cases inside with
        | nil => simp [afterLastEnd?]
        | cons c inside =>
            simp [Function.comp_def, hback.dropLineFeed_append]
      · -- the word ends in front of the inert text
        have hdrop : (inside ++ back).dropWhile (!isBlank ·) =
            inside.dropWhile (!isBlank ·) ++ back := by
          have hne : (inside.dropWhile (!isBlank ·)).isEmpty = false := by
            rw [List.isEmpty_eq_false_iff, ne_eq, List.dropWhile_eq_nil_iff]
            exact hall
          simp [List.dropWhile_append, hne]
        have htake : (inside ++ back).takeWhile (!isBlank ·) = inside.takeWhile (!isBlank ·) := by
          rw [List.takeWhile_append, if_neg]
          intro hlength
          exact hall (List.takeWhile_eq_self_iff.1
            ((List.takeWhile_prefix _).eq_of_length hlength))
        rw [htake, hdrop, hback.skipBlanks_append, hback.afterCommentEnd?_append,
          afterLastEnd?_append]
        split
        next => rfl
        next =>
          rw [← Option.map_or, Option.map_map, Option.map_map]
          congr 1
          funext behind
          exact hback.dropLineFeed_append behind

/-- A pragma in front of an inert text is what it is without it. -/
theorem afterPragma?_append (hback : Inert back) (cs : List Char) :
    afterPragma? (cs ++ back) = (afterPragma? cs).map (· ++ back) := by
  rw [afterPragma?_eq, afterPragma?_eq, hback.after?_append (by decide)]
  cases after? "\x7b\x7b--".toList cs with
  | none => rfl
  | some inside => exact hback.afterPragmaOpening?_append inside

/-- A comment in front of an inert text is what it is without it. -/
theorem afterComment?_append (hback : Inert back) (cs : List Char) :
    afterComment? (cs ++ back) = (afterComment? cs).map (· ++ back) := by
  rw [afterComment?_eq, afterComment?_eq, hback.after?_append (by decide)]
  match after? opening cs with
  | none => rfl
  | some [] =>
      obtain ⟨rest, hrest⟩ := hback.starts
      have hnone : upTo? closing ('i' :: rest) = none := by
        rw [← Option.not_isSome_iff_eq_none, Text.upTo?_isSome_iff]
        intro hin
        exact hback.no_angle (hrest ▸ List.mem_cons_of_mem _ (hin.subset (by simp [closing])))
      simp [hrest, hnone]
  | some (c :: inside) =>
      have hclosing : closing.getLast? = some '>' := by decide
      have hupTo := Text.upTo?_append_of_not_mem '>' hclosing hback.no_angle inside
      by_cases hc : c = '['
      · simp [hc]
      · simp [hc, hupTo, Function.comp_def, hback.dropLineFeed_append]

theorem afterContinuation?_cons (a b c d : Char) (cs : List Char) :
    afterContinuation? (a :: b :: c :: d :: cs) =
      if a = '/' ∧ b = '/' ∧ c = '@' ∧ (d = '$' ∨ d = '\n' ∨ d = '\r') then some cs else none := by
  unfold afterContinuation?
  split
  next hcs =>
      cases hcs
      simp [or_assoc]
  next hne =>
      rw [if_neg]
      rintro ⟨rfl, rfl, rfl, -⟩
      exact hne d cs rfl

/-- A continuation mark in a line does not reach behind it. -/
theorem afterContinuation?_append {cs : List Char} (hcs : cs.getLast? = some '\n') :
    afterContinuation? (cs ++ back) = (afterContinuation? cs).map (· ++ back) := by
  match cs, hcs with
  | [a], hcs => simp_all [afterContinuation?]
  | [a, b], hcs => simp_all [afterContinuation?]
  | [a, b, c], hcs => simp_all [afterContinuation?]
  | a :: b :: c :: d :: cs, _ =>
      rw [List.cons_append, List.cons_append, List.cons_append, List.cons_append,
        afterContinuation?_cons, afterContinuation?_cons]
      split <;> rfl

end Inert

/-- A line is rewritten as if the inert text behind it were not there. -/
theorem clean_append_inert {back : List Char} (hback : Inert back) (line : List Char) :
    clean (line ++ '\n' :: back) = clean (line ++ ['\n']) ++ back := by
  have hmarks : erase afterContinuation? (line ++ ['\n'] ++ back) =
      erase afterContinuation? (line ++ ['\n']) ++ back := by
    rw [Text.erase_append shortens_afterContinuation?]
    · congr 1
      exact Text.erase_of_none fun cs hcs =>
        afterContinuation?_of_not_mem (Inert.not_mem_of_suffix hback.no_slash hcs)
    · -- a mark takes one character, and the line feed is in front of the inert text
      intro cs hcs hne
      refine Inert.afterContinuation?_append ?_
      obtain ⟨front, hfront⟩ := hcs
      have hlast := congrArg List.getLast? hfront
      rwa [List.getLast?_append_of_ne_nil _ hne, List.getLast?_concat] at hlast
  have hpragmas (cs : List Char) :
      erase afterPragma? (cs ++ back) = erase afterPragma? cs ++ back := by
    rw [Text.erase_append shortens_afterPragma? fun cs _ _ => hback.afterPragma?_append cs]
    congr 1
    exact Text.erase_of_none fun cs hcs =>
      afterPragma?_of_not_mem (Inert.not_mem_of_suffix hback.no_brace hcs)
  have hcomments (cs : List Char) :
      erase afterComment? (cs ++ back) = erase afterComment? cs ++ back := by
    rw [Text.erase_append shortens_afterComment? fun cs _ _ => hback.afterComment?_append cs]
    congr 1
    exact Text.erase_of_none fun cs hcs =>
      afterComment?_of_not_mem (Inert.not_mem_of_suffix hback.no_angle hcs)
  have hline : line ++ '\n' :: back = line ++ ['\n'] ++ back := by simp
  rw [clean, clean, hline, hmarks, hpragmas, hcomments]

end ScopedViews.Rewrite

import ScopedViews.Proofs.Rewrite.Includes
/-!
# Texts in front of the first mark

Everything that a rewrite takes out begins with a mark of its own: `//@`, the opening of a comment
of the template language, or that of a comment of the markup.  What stands in front of the first
mark is left alone, and what stands behind it is rewritten as if nothing were in front of it, unless
a mark begins in the one and ends in the other.

* `Pass`: the three kinds of things that are taken out, one kind after another;
* `IsUnmarked`, `EndsOutside`: texts without a mark, and texts that no mark goes on from;
* `clean_append`: such a text is left alone, also after things behind it were taken out;
* `clean_eq_self_iff`: a text stays as it is exactly if nothing in it is to be taken out.

The last theorem puts the two together.
-/

namespace ScopedViews.Rewrite

open Text (after? after?_eq_none_iff contains erase Shortens)

/-- What is taken out, in the order in which a text is gone through. -/
inductive Pass where
  | continuation
  | pragma
  | comment
deriving DecidableEq, Repr

namespace Pass

/-- How that begins which a pass takes out. -/
def mark : Pass → String
  | continuation => "//@"
  | pragma => "\x7b\x7b--"
  | comment => "<!--"

/-- What follows that which a pass takes out. -/
def after? : Pass → List Char → Option (List Char)
  | continuation => afterContinuation?
  | pragma => afterPragma?
  | comment => afterComment?

theorem clean_eq (cs : List Char) :
    clean cs = erase comment.after? (erase pragma.after? (erase continuation.after? cs)) := rfl

instance {p : Pass → Prop} [DecidablePred p] : Decidable (∀ pass, p pass) :=
  decidable_of_iff (p continuation ∧ p pragma ∧ p comment)
    ⟨fun ⟨h, h', h''⟩ pass => by cases pass <;> assumption, fun h => ⟨h _, h _, h _⟩⟩

theorem shortens (pass : Pass) : Shortens pass.after? := by
  cases pass with
  | continuation => exact shortens_afterContinuation?
  | pragma => exact shortens_afterPragma?
  | comment => exact shortens_afterComment?

/-- Nothing is taken out where no mark is. -/
theorem after?_eq_none (pass : Pass) {cs : List Char} (h : ¬ pass.mark.toList <+: cs) :
    pass.after? cs = none := by
  have hread : Text.after? pass.mark.toList cs = none := after?_eq_none_iff.2 h
  cases pass with
  | continuation => exact afterContinuation?_eq_none hread
  | pragma => exact afterPragma?_eq_none hread
  | comment =>
      have hopen : Text.after? opening cs = none := hread
      show afterComment? cs = none
      rw [afterComment?_eq, hopen]

end Pass

/-! ## Texts without marks -/

/-- No mark is in a text. -/
def IsUnmarked (text : String) : Prop :=
  ∀ pass : Pass, contains text pass.mark = false

/-- A text does not end with a part of a mark that the mark could go on from. -/
def EndsOutside (text : String) : Prop :=
  ∀ pass : Pass, ∀ part ∈ pass.mark.toList.inits, part ≠ [] → part ≠ pass.mark.toList →
    ¬ part <:+ text.toList

instance (text : String) : Decidable (IsUnmarked text) :=
  inferInstanceAs (Decidable (∀ pass : Pass, contains text pass.mark = false))

instance (text : String) : Decidable (EndsOutside text) :=
  inferInstanceAs (Decidable (∀ pass : Pass, ∀ part ∈ pass.mark.toList.inits, part ≠ [] →
    part ≠ pass.mark.toList → ¬ part <:+ text.toList))

theorem IsUnmarked.not_isInfix {text : String} (h : IsUnmarked text) (pass : Pass) :
    ¬ pass.mark.toList <:+: text.toList := by
  have hcontains := h pass
  rw [contains, ← Bool.not_eq_true, Text.find?_isSome_iff] at hcontains
  exact hcontains

/-- No mark starts in a text without marks, whatever stands behind the text, unless the text ends
with the beginning of one. -/
theorem not_mark_starts {text : String} (hunmarked : IsUnmarked text) (hends : EndsOutside text)
    (pass : Pass) (back : List Char) {cs : List Char} (hcs : cs <:+ text.toList) (hne : cs ≠ []) :
    ¬ pass.mark.toList <+: cs ++ back := by
  intro hmark
  -- a mark that starts in the text ends in it, or goes on from a part of it at the end
  have hinside : ¬ pass.mark.toList <+: cs := fun hstarts =>
    hunmarked.not_isInfix pass (hstarts.isInfix.trans hcs.isInfix)
  rcases List.prefix_or_prefix_of_prefix hmark (List.prefix_append cs back) with hstarts | hstarts
  · exact hinside hstarts
  · have hpart : cs ≠ pass.mark.toList := fun heq => hinside (heq ▸ List.prefix_rfl)
    exact hends pass cs ((List.mem_inits _ _).2 hstarts) hne hpart hcs

theorem Pass.erase_append (pass : Pass) {text : String} (hunmarked : IsUnmarked text)
    (hends : EndsOutside text) (back : List Char) :
    erase pass.after? (text.toList ++ back) = text.toList ++ erase pass.after? back :=
  Text.erase_append_of_none pass.shortens fun _ hcs hne =>
    pass.after?_eq_none (not_mark_starts hunmarked hends pass back hcs hne)

/-- No pass reaches back into a text in front of the first mark. -/
theorem clean_append {text : String} (hunmarked : IsUnmarked text) (hends : EndsOutside text)
    (back : List Char) : clean (text.toList ++ back) = text.toList ++ clean back := by
  rw [Pass.clean_eq, Pass.clean_eq, Pass.erase_append _ hunmarked hends,
    Pass.erase_append _ hunmarked hends, Pass.erase_append _ hunmarked hends]

/-! ## Texts that stay as they are -/

/-- A text stays as it is exactly if no pass finds anything in it. -/
theorem clean_eq_self_iff {cs : List Char} :
    clean cs = cs ↔ ∀ (pass : Pass) (back : List Char), back <:+ cs → pass.after? back = none := by
  constructor
  · intro h
    -- each pass leaves a part of what it is given, and in the end all of it is left
    have hcontinuation : erase Pass.continuation.after? cs = cs := by
      refine (Text.erase_sublist _ cs).antisymm ?_
      conv_lhs => rw [← h, Pass.clean_eq]
      exact (Text.erase_sublist _ _).trans (Text.erase_sublist _ _)
    have hpragma : erase Pass.pragma.after? cs = cs := by
      refine (Text.erase_sublist _ cs).antisymm ?_
      conv_lhs => rw [← h, Pass.clean_eq, hcontinuation]
      exact Text.erase_sublist _ _
    have hcomment : erase Pass.comment.after? cs = cs := by
      rwa [Pass.clean_eq, hcontinuation, hpragma] at h
    intro pass
    refine (Text.erase_eq_self_iff pass.shortens).1 ?_
    cases pass with
    | continuation => exact hcontinuation
    | pragma => exact hpragma
    | comment => exact hcomment
  · intro h
    rw [Pass.clean_eq, Text.erase_of_none (h .continuation), Text.erase_of_none (h .pragma),
      Text.erase_of_none (h .comment)]

theorem IsUnmarked.clean_eq {text : String} (h : IsUnmarked text) :
    clean text.toList = text.toList :=
  clean_eq_self_iff.2 fun pass _ hback => pass.after?_eq_none fun hstarts =>
    h.not_isInfix pass (hstarts.isInfix.trans hback.isInfix)

/-- There is something to be taken out with each mark, and without the first characters of the mark
nothing is left of any mark. -/
theorem exists_found (pass : Pass) :
    ∃ rest, (pass.after? (pass.mark.toList ++ rest)).isSome = true ∧
      ∀ part, part <:+ pass.mark.toList → part ≠ pass.mark.toList →
        IsUnmarked (String.ofList (part ++ rest)) := by
  have hparts {rest : List Char} (h : ∀ part ∈ pass.mark.toList.tails,
      part ≠ pass.mark.toList → IsUnmarked (String.ofList (part ++ rest))) :
      ∀ part, part <:+ pass.mark.toList → part ≠ pass.mark.toList →
        IsUnmarked (String.ofList (part ++ rest)) :=
    fun part hpart => h part ((List.mem_tails _ _).2 hpart)
  cases pass with
  | continuation => exact ⟨"$".toList, by decide, hparts (by decide)⟩
  | pragma => exact ⟨"@formatter:a--\x7d\x7d".toList, by decide, hparts (by decide)⟩
  | comment => exact ⟨"a-->".toList, by decide, hparts (by decide)⟩

/-- A text without marks stays as it is.  It also stays in front of every other text, and the other
one is rewritten as if it stood alone, exactly if no mark can begin at its end. -/
theorem rewrite_keeps_front (text : String) (hunmarked : IsUnmarked text) :
    rewrite text = text ∧
      ((∀ back, rewrite (text ++ back) = text ++ rewrite back) ↔ EndsOutside text) := by
  refine ⟨by rw [rewrite, hunmarked.clean_eq, String.ofList_toList], fun hkeeps => ?_,
    fun hends back => ?_⟩
  · -- a mark that begins at the end can go on, so that it is taken out
    intro pass part hinits hne hpart hsuffix
    obtain ⟨behind, hmark⟩ := (List.mem_inits _ _).1 hinits
    obtain ⟨front, hfront⟩ := hsuffix
    obtain ⟨rest, hfound, hunmarked'⟩ := exists_found pass
    have hbehind : behind ≠ pass.mark.toList := by
      intro heq
      rw [heq] at hmark
      exact hne (List.append_left_eq_self.1 hmark)
    -- what the mark goes on with has no mark of its own and stays as it is, if it stands alone
    have hback : rewrite (String.ofList (behind ++ rest)) = String.ofList (behind ++ rest) := by
      rw [rewrite, (hunmarked' behind ⟨part, hmark⟩ hbehind).clean_eq, String.ofList_toList]
    have hwhole : (text ++ String.ofList (behind ++ rest)).toList =
        front ++ (pass.mark.toList ++ rest) := by
      rw [String.toList_append, String.toList_ofList, ← hfront, ← hmark]
      simp only [List.append_assoc]
    have hclean := hkeeps (String.ofList (behind ++ rest))
    rw [hback, rewrite, hwhole, ← String.toList_inj, String.toList_ofList, hwhole] at hclean
    rw [clean_eq_self_iff.1 hclean pass _ (List.suffix_append _ _)] at hfound
    cases hfound
  · rw [rewrite, String.toList_append, clean_append hunmarked hends, ← String.toList_inj,
      String.toList_ofList, String.toList_append, rewrite, String.toList_ofList]

/-- A view with braces, slashes and angle brackets that begin no mark. -/
def nearMarks : String := "<a href=\"/b/\">\x7b\x7b $c -- 1 \x7d\x7d</a> <! //\n"

/-- Behind such a view something is found for each pass. -/
theorem rewrite_keeps_front_nearMarks :
    IsUnmarked nearMarks ∧ EndsOutside nearMarks ∧
      rewrite (nearMarks ++ "\x7b\x7b-- @formatter:off --\x7d\x7d\nd<!-- e -->//@\nf") =
        nearMarks ++ "df" := by
  have hunmarked : IsUnmarked nearMarks := by decide +kernel
  have hends : EndsOutside nearMarks := by decide +kernel
  have hback : rewrite "\x7b\x7b-- @formatter:off --\x7d\x7d\nd<!-- e -->//@\nf" = "df" := by
    decide +kernel
  obtain ⟨-, hfront⟩ := rewrite_keeps_front nearMarks hunmarked
  exact ⟨hunmarked, hends, by rw [hfront.2 hends, hback]⟩

end ScopedViews.Rewrite

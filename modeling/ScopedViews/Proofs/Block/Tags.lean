import ScopedViews.Asset
import ScopedViews.Block
import ScopedViews.Proofs.Text.Words
/-!
# Tags

The tags by which blocks are recognized, said without the matchers that look for them.  Where a tag
depends on what stands around it, as words do that have to break off, it is described together with
the text in front of it and behind it.

* `IsOpening`, `IsClosing`: how start tags begin, and closing tags;
* `IsOwnedMarker`, `IsImportMarker`: the attributes that mark blocks;
* `Found.Cuts`: a block that can be cut out;
* `Found.IsFirst`, `find?_eq_some_iff`: the first block of a kind and the text around it.
-/

namespace ScopedViews

/-- The blocks that assets of a kind are compiled from. -/
def AssetKind.ownedBlock : AssetKind → Block.Kind
  | .style => .ownedStyle
  | .script => .ownedScript

/-- The blocks by which assets of a kind are imported. -/
def AssetKind.importedBlock : AssetKind → Block.Kind
  | .style => .importedStyle
  | .script => .importedScript

namespace Block

open Text

variable {element cs rest passed : List Char}

/-! ## Start tags -/

/-- A start tag begins between two texts: there are `<` and the name of an element, which breaks off
there. -/
structure IsOpening (element before opening behind : List Char) : Prop where
  spelled : Spells ('<' :: element) opening
  breaks : IsWordBreak (before ++ opening) behind

/-- The name of an element ends with a letter. -/
def IsElement (element : List Char) : Prop := element.getLast?.any Char.isLower = true

theorem isElement (kind : Kind) : IsElement kind.element := by
  cases kind <;> rfl

theorem IsElement.last {opening : List Char} (h : IsElement element)
    (hspelled : Spells ('<' :: element) opening) (before : List Char) :
    (before ++ opening).getLast?.any isWord = true := by
  refine hspelled.last ?_ before
  cases element with
  | nil => cases h
  | cons c element => rwa [List.getLast?_cons_cons]

theorem afterOpening?_eq_some_iff (helement : IsElement element) (before : List Char) :
    afterOpening? element cs = some rest ↔
      ∃ opening, IsOpening element before opening rest ∧ cs = opening ++ rest := by
  unfold afterOpening?
  constructor
  · intro h
    split at h
    next rest' hword =>
        obtain ⟨hbreaks, heq⟩ := Option.ite_none_right_eq_some.1 h
        obtain rfl := Option.some.inj heq
        obtain ⟨opening, hspelled, rfl⟩ := afterWord?_eq_some_iff.1 hword
        have hlast := helement.last hspelled before
        exact ⟨opening, ⟨hspelled, (isWordBreak_iff_of_last hlast).2 hbreaks⟩, rfl⟩
    next => cases h
  · rintro ⟨opening, hopening, rfl⟩
    have hlast := helement.last hopening.spelled before
    rw [afterWord?_eq_some_iff.2 ⟨opening, hopening.spelled, rfl⟩]
    exact if_pos ((isWordBreak_iff_of_last hlast).1 hopening.breaks)

/-- It makes no difference to a marker what stands in front of the tag, for a name that goes on with
it does not break off. -/
theorem IsOpening.isWordBreak_iff {before opening front mark behind : List Char}
    (h : IsOpening element before opening (front ++ (mark ++ behind)))
    (helement : IsElement element) (hmark : (mark ++ behind).head?.any isWord = true) :
    IsWordBreak (before ++ opening ++ front) (mark ++ behind) ↔
      breaksWord front.reverse = true := by
  rw [isWordBreak_iff_of_head hmark, List.reverse_append, breaksWord_eq, breaksWord_eq]
  cases hfront : front.reverse with
  | cons c more => rfl
  | nil =>
      obtain rfl : front = [] := List.reverse_eq_nil_iff.1 hfront
      have hbreaks := h.breaks
      rw [List.nil_append, IsWordBreak, helement.last h.spelled before, hmark] at hbreaks
      exact absurd rfl hbreaks

/-! ## Markers -/

def IsOwnedMarker (mark : List Char) : Prop :=
  Spells "data-scoped".toList mark ∨ Spells "data-inside".toList mark

def IsImportMarker (mark : List Char) : Prop :=
  Spells "data-import".toList mark ∨ Spells "data-same".toList mark

/-- Of two words neither of which is the beginning of the other one only one starts at a place. -/
theorem afterEither?_eq_some_iff {first second : String}
    (hfirst : first.toList.all (·.toNat < 128) = true)
    (hsecond : second.toList.all (·.toNat < 128) = true)
    (hbegins : ¬ first.toList <+: second.toList) (hbegins' : ¬ second.toList <+: first.toList) :
    afterEither? first second cs = some rest ↔
      ∃ mark, (Spells first.toList mark ∨ Spells second.toList mark) ∧ cs = mark ++ rest := by
  unfold afterEither?
  rw [Option.or_eq_some_iff]
  constructor
  · rintro (h | ⟨-, h⟩)
    · obtain ⟨mark, hmark, hcs⟩ := afterWord?_eq_some_iff.1 h
      exact ⟨mark, .inl hmark, hcs⟩
    · obtain ⟨mark, hmark, hcs⟩ := afterWord?_eq_some_iff.1 h
      exact ⟨mark, .inr hmark, hcs⟩
  · rintro ⟨mark, hmark | hmark, rfl⟩
    · exact .inl (afterWord?_eq_some_iff.2 ⟨mark, hmark, rfl⟩)
    · refine .inr ⟨?_, afterWord?_eq_some_iff.2 ⟨mark, hmark, rfl⟩⟩
      cases hother : afterWord? first.toList (mark ++ rest) with
      | none => rfl
      | some rest' =>
          obtain ⟨other, hspelled, hcs⟩ := afterWord?_eq_some_iff.1 hother
          simp only [List.all_eq_true, decide_eq_true_eq] at hfirst hsecond
          rcases prefix_or_prefix_of_spells hfirst hsecond hspelled hmark
            ⟨rest', hcs.symm⟩ (List.prefix_append mark rest) with h | h
          · exact absurd h hbegins
          · exact absurd h hbegins'

theorem afterOwnedMarker?_eq_some_iff :
    afterOwnedMarker? passed cs = some rest ↔
      breaksWord passed = true ∧ ∃ mark, IsOwnedMarker mark ∧ cs = mark ++ rest := by
  rw [afterOwnedMarker?, Option.ite_none_right_eq_some,
    afterEither?_eq_some_iff (by decide) (by decide) (by decide) (by decide)]
  rfl

theorem afterImportMarker?_eq_some_iff :
    afterImportMarker? passed cs = some rest ↔
      breaksWord passed = true ∧ ∃ mark, IsImportMarker mark ∧ cs = mark ++ rest := by
  rw [afterImportMarker?, Option.ite_none_right_eq_some,
    afterEither?_eq_some_iff (by decide) (by decide) (by decide) (by decide)]
  rfl

theorem IsOwnedMarker.head {mark : List Char} (h : IsOwnedMarker mark) (behind : List Char) :
    (mark ++ behind).head?.any isWord = true := by
  rcases h with h | h
  · exact h.head rfl behind
  · exact h.head rfl behind

theorem IsOwnedMarker.last {mark : List Char} (h : IsOwnedMarker mark) (before : List Char) :
    (before ++ mark).getLast?.any isWord = true := by
  rcases h with h | h
  · exact h.last rfl before
  · exact h.last rfl before

theorem IsImportMarker.head {mark : List Char} (h : IsImportMarker mark) (behind : List Char) :
    (mark ++ behind).head?.any isWord = true := by
  rcases h with h | h
  · exact h.head rfl behind
  · exact h.head rfl behind

/-! ## Closing tags -/

/-- A closing tag, with blanks behind the name of the element. -/
def IsClosing (element closing : List Char) : Prop :=
  ∃ tag blanks, Spells ('<' :: '/' :: element) tag ∧ (∀ b ∈ blanks, isBlank b = true) ∧
    closing = tag ++ blanks ++ ['>']

theorem afterClosing?_eq_some_iff :
    afterClosing? element cs = some rest ↔
      ∃ closing, IsClosing element closing ∧ cs = closing ++ rest := by
  unfold afterClosing?
  constructor
  · intro h
    split at h
    next behind hword =>
        split at h
        next behind' hskip =>
            cases h
            obtain ⟨tag, htag, rfl⟩ := afterWord?_eq_some_iff.1 hword
            obtain ⟨-, blanks, hblanks, rfl⟩ := skipBlanks_eq_cons_iff.1 hskip
            exact ⟨tag ++ blanks ++ ['>'], ⟨tag, blanks, htag, hblanks, rfl⟩, by simp⟩
        next => cases h
    next => cases h
  · rintro ⟨closing, ⟨tag, blanks, htag, hblanks, rfl⟩, rfl⟩
    have hsplit : tag ++ blanks ++ ['>'] ++ rest = tag ++ (blanks ++ '>' :: rest) := by simp
    have hskip : skipBlanks (blanks ++ '>' :: rest) = '>' :: rest :=
      skipBlanks_eq_cons_iff.2 ⟨by decide, blanks, hblanks, rfl⟩
    rw [hsplit, afterWord?_eq_some_iff.2 ⟨tag, htag, rfl⟩]
    simp only [hskip]

/-! ## What is found -/

/-- The range of a block lies between characters of the text, and without it there is left what
stands in front of it and behind it. -/
structure Found.Cuts (found : Found) (text : String) : Prop where
  le : found.range.1 ≤ found.range.2
  start : (String.Pos.Raw.mk found.range.1).IsValid text
  stop : (String.Pos.Raw.mk found.range.2).IsValid text
  cut : splice text found.range.1 found.range.2 "" = String.ofList (found.before ++ found.after)
  remaining : found.remaining = splice text found.range.1 found.range.2 ""

theorem Found.cuts_of_split {text : String} {found : Found}
    (h : text.toList = found.before ++ (found.written ++ found.after)) : found.Cuts text := by
  have htext : text = String.ofList (found.before ++ (found.written ++ found.after)) := by
    rw [← h, String.ofList_toList]
  have hstop : found.range.2 = byteCount (found.before ++ found.written) := by
    rw [byteCount_append]
    rfl
  have hcut : splice text found.range.1 found.range.2 "" =
      String.ofList (found.before ++ found.after) := by
    rw [htext, ← List.append_assoc]
    have hsplice := splice_eq found.before found.written found.after ""
    rwa [String.toList_empty, List.append_nil] at hsplice
  refine ⟨Nat.le_add_right _ _, ?_, ?_, hcut, hcut.symm⟩
  · rw [htext]
    exact isValid_byteCount found.before _
  · rw [htext, hstop, ← List.append_assoc]
    exact isValid_byteCount _ found.after

/-- A block in a text, with the text around it: it stands at the first place where one starts, and
can be cut out. -/
structure Found.IsFirst (found : Found) (starts : List Char → List Char → Prop) (text : String) :
    Prop where
  split : text.toList = found.before ++ (found.written ++ found.after)
  least : ∀ before cs, text.toList = before ++ cs → starts before cs →
    found.before.length ≤ before.length
  cuts : found.Cuts text

section Find

variable {kind : Kind} {starts : List Char → List Char → Prop}

theorem find?_isSome_iff (hstarts : ∀ before cs, (at? kind cs).isSome = true ↔ starts before cs)
    (text : String) : (find? kind text).isSome = true ↔
      ∃ before cs, text.toList = before ++ cs ∧ starts before cs := by
  rw [find?, findIn?, Option.isSome_map, seek?_isSome_iff]
  exact exists₂_congr fun before cs => and_congr_right fun _ => hstarts before cs

/-- What is found is what starts at the first place where something does. -/
theorem find?_eq_some_iff (hstarts : ∀ before cs, (at? kind cs).isSome = true ↔ starts before cs)
    (hsuffix : ∀ cs block rest, at? kind cs = some (block, rest) → rest <:+ cs) {text : String}
    {found : Found} :
    find? kind text = some found ↔ found.IsFirst starts text ∧
      at? kind (found.written ++ found.after) = some (found.block, found.after) := by
  have htake (written rest : List Char) :
      (written ++ rest).take ((written ++ rest).length - rest.length) = written := by
    rw [List.length_append, Nat.add_sub_cancel, List.take_left]
  rw [find?, findIn?, Option.map_eq_some_iff]
  constructor
  · rintro ⟨⟨passed, cs, block, rest⟩, hseek, rfl⟩
    obtain ⟨front, hsplit, rfl, hat, hfirst⟩ := seek?_eq_some_iff.1 hseek
    obtain ⟨written, rfl⟩ := hsuffix cs block rest hat
    simp only [htake, List.append_nil, List.reverse_reverse]
    refine ⟨⟨hsplit, fun before cs hsplit' hbefore => ?_, Found.cuts_of_split hsplit⟩, hat⟩
    by_contra hlt
    have hsome := (hstarts before cs).2 hbefore
    rw [hfirst before cs hsplit' (Nat.lt_of_not_le hlt)] at hsome
    cases hsome
  · rintro ⟨hfirst, hat⟩
    refine ⟨(found.before.reverse, found.written ++ found.after, found.block, found.after),
      seek?_eq_some_iff.2 ⟨found.before, hfirst.split, (List.append_nil _).symm, hat,
        fun before cs hsplit hlt => ?_⟩, ?_⟩
    · rw [← Option.not_isSome_iff_eq_none, hstarts before]
      exact fun hbefore =>
        absurd (hfirst.least before cs hsplit hbefore) (Nat.not_le_of_lt hlt)
    · simp only [htake, List.reverse_reverse]

end Find

end Block

end ScopedViews

import ScopedViews.Proofs.Block.Tags
/-!
# Owned blocks

The text of an owned block: a start tag that holds a marker, and everything from its end up to the
first closing tag.

* `IsOwnedTag`: the start tag, with a marker anywhere in it;
* `IsFirstClosing`: the closing tag that ends the body;
* `OwnedIn`: a block that is found, with the text around it;
* `find?_owned_iff`: when a block is found, and which one.
-/

namespace ScopedViews

/-- The owned block of a kind with the attributes of its tag and a body. -/
def AssetKind.ownedOf (kind : AssetKind) (attributes body : List Char) : Block :=
  match kind with
  | .style => .ownedStyle (Block.dialectOf attributes) (String.ofList body)
  | .script => .ownedScript (String.ofList body)

namespace Block

open Text

variable {element before opening attributes content body cs rest : List Char}

/-! ## Start tags -/

/-- Attributes with a marker among them.  Words have to break off in front of it and behind it. -/
def IsMarked (before attributes behind : List Char) : Prop :=
  ∃ front mark back, attributes = front ++ (mark ++ back) ∧ IsOwnedMarker mark ∧
    IsWordBreak (before ++ front) (mark ++ (back ++ behind)) ∧
    IsWordBreak (before ++ front ++ mark) (back ++ behind)

/-- The start tag of an owned element, which ends with the first `>`. -/
structure IsOwnedTag (element before opening attributes behind : List Char) : Prop where
  opens : IsOpening element before opening (attributes ++ '>' :: behind)
  ends : '>' ∉ attributes
  marked : IsMarked (before ++ opening) attributes ('>' :: behind)

theorem isMarked_iff (helement : IsElement element)
    (hopening : IsOpening element before opening (attributes ++ '>' :: content)) :
    IsMarked (before ++ opening) attributes ('>' :: content) ↔
      (seek? (fun passed cs => (afterOwnedMarker? passed cs).filter breaksWord) []
        attributes).isSome = true := by
  have hbehind {front mark back : List Char} (hmark : IsOwnedMarker mark) :
      IsWordBreak (before ++ opening ++ front ++ mark) (back ++ '>' :: content) ↔
        breaksWord back = true := by
    rw [isWordBreak_iff_of_last (hmark.last _), breaksWord_append_cons (by decide +kernel)]
  have hfront {front mark back : List Char} (hmark : IsOwnedMarker mark)
      (hsplit : attributes = front ++ (mark ++ back)) :
      IsWordBreak (before ++ opening ++ front) (mark ++ (back ++ '>' :: content)) ↔
        breaksWord front.reverse = true := by
    rw [hsplit, List.append_assoc, List.append_assoc] at hopening
    exact hopening.isWordBreak_iff helement (hmark.head _)
  rw [seek?_isSome_iff]
  constructor
  · rintro ⟨front, mark, back, hsplit, hmark, hleft, hright⟩
    refine ⟨front, mark ++ back, hsplit, Option.isSome_iff_exists.2 ⟨back, ?_⟩⟩
    rw [Option.filter_eq_some_iff, afterOwnedMarker?_eq_some_iff, List.append_nil]
    exact ⟨⟨(hfront hmark hsplit).1 hleft, mark, hmark, rfl⟩, (hbehind hmark).1 hright⟩
  · rintro ⟨front, inner, hsplit, hfound⟩
    obtain ⟨back, hback⟩ := Option.isSome_iff_exists.1 hfound
    rw [Option.filter_eq_some_iff, afterOwnedMarker?_eq_some_iff, List.append_nil] at hback
    obtain ⟨⟨hleft, mark, hmark, rfl⟩, hright⟩ := hback
    exact ⟨front, mark, back, hsplit, hmark, (hfront hmark hsplit).2 hleft,
      (hbehind hmark).2 hright⟩

/-- Behind the start tag of an owned element the first closing tag is looked for. -/
theorem IsOwnedTag.owned?_eq (h : IsOwnedTag element before opening attributes content)
    (helement : IsElement element) :
    owned? element (opening ++ (attributes ++ '>' :: content)) =
      (seek? (fun _ cs => afterClosing? element cs) [] content).map
        fun (body, _, rest) => (attributes, body.reverse, rest) := by
  have hopening := (afterOpening?_eq_some_iff helement before).2 ⟨opening, h.opens, rfl⟩
  have hspan : (attributes ++ '>' :: content).span (· != '>') = (attributes, '>' :: content) :=
    span_eq_cons_iff.2 ⟨rfl, forall_bne_iff.2 h.ends, rfl⟩
  have hmarked := (isMarked_iff helement h.opens).1 h.marked
  rw [owned?, hopening]
  simp only [hspan]
  rw [if_neg (by rw [Option.isNone_eq_false_iff.2 hmarked]; exact Bool.false_ne_true)]

/-- An owned element starts with its tag. -/
theorem exists_isOwnedTag {result : List Char × List Char × List Char}
    (h : owned? element cs = some result) (helement : IsElement element) (before : List Char) :
    ∃ opening attributes content, cs = opening ++ (attributes ++ '>' :: content) ∧
      IsOwnedTag element before opening attributes content := by
  unfold owned? at h
  split at h
  next => cases h
  next inner hinner =>
      obtain ⟨opening, hopening, rfl⟩ := (afterOpening?_eq_some_iff helement before).1 hinner
      split at h
      next => cases h
      next attributes c content hspan =>
          obtain ⟨hc, hends, rfl⟩ := span_eq_cons_iff.1 hspan
          obtain rfl : c = '>' := by simpa using hc
          obtain ⟨hmarked, -⟩ := Option.ite_none_left_eq_some.1 h
          refine ⟨opening, attributes, content, rfl, hopening, forall_bne_iff.1 hends, ?_⟩
          rw [isMarked_iff helement hopening]
          simpa [Option.isSome_iff_ne_none] using hmarked

/-! ## Bodies -/

/-- A body and the first closing tag behind the start tag. -/
structure IsFirstClosing (element body closing rest : List Char) : Prop where
  closes : IsClosing element closing
  first : ∀ front closing' back, body ++ (closing ++ rest) = front ++ (closing' ++ back) →
    IsClosing element closing' → body.length ≤ front.length

theorem seek?_closing_eq_some_iff {body' inner : List Char} :
    seek? (fun _ cs => afterClosing? element cs) [] content = some (body', inner, rest) ↔
      ∃ closing, content = body'.reverse ++ inner ∧ inner = closing ++ rest ∧
        IsFirstClosing element body'.reverse closing rest := by
  rw [seek?_eq_some_iff]
  constructor
  · rintro ⟨front, rfl, rfl, hinner, hleast⟩
    obtain ⟨closing, hclosing, rfl⟩ := afterClosing?_eq_some_iff.1 hinner
    rw [List.append_nil, List.reverse_reverse]
    refine ⟨closing, rfl, rfl, hclosing, fun front' closing' back hsplit hclosing' => ?_⟩
    by_contra hlt
    have hnone := hleast front' (closing' ++ back) hsplit (Nat.lt_of_not_le hlt)
    rw [afterClosing?_eq_some_iff.2 ⟨closing', hclosing', rfl⟩] at hnone
    cases hnone
  · rintro ⟨closing, rfl, rfl, hclosing, hfirst⟩
    refine ⟨body'.reverse, rfl, by simp, afterClosing?_eq_some_iff.2 ⟨closing, hclosing, rfl⟩,
      fun front' inner' hsplit hlt => ?_⟩
    rw [Option.eq_none_iff_forall_ne_some]
    intro rest' hrest'
    obtain ⟨closing', hclosing', rfl⟩ := afterClosing?_eq_some_iff.1 hrest'
    exact absurd (hfirst front' closing' rest' hsplit hclosing') (Nat.not_le_of_lt hlt)

/-- There is no closing tag in the body. -/
theorem IsFirstClosing.not_infix {closing closing' : List Char}
    (h : IsFirstClosing element body closing rest) (hclosing : IsClosing element closing') :
    ¬ closing' <:+: body := by
  rintro ⟨front, back, rfl⟩
  have hle := h.first front closing' (back ++ (closing ++ rest)) (by simp) hclosing
  obtain ⟨tag, blanks, -, -, rfl⟩ := hclosing
  simp only [List.length_append, List.length_cons, List.length_nil] at hle
  omega

/-! ## Blocks -/

/-- An owned element starts at a place: there are its start tag and, somewhere behind it, a closing
tag. -/
def StartsOwned (element before cs : List Char) : Prop :=
  ∃ opening attributes content, cs = opening ++ (attributes ++ '>' :: content) ∧
    IsOwnedTag element before opening attributes content ∧
    ∃ front closing back, content = front ++ (closing ++ back) ∧ IsClosing element closing

theorem owned?_isSome_iff (helement : IsElement element) (before : List Char) :
    (owned? element cs).isSome = true ↔ StartsOwned element before cs := by
  have hcloses {content : List Char} :
      (seek? (fun _ cs => afterClosing? element cs) [] content).isSome = true ↔
        ∃ front closing back, content = front ++ (closing ++ back) ∧
          IsClosing element closing := by
    rw [seek?_isSome_iff]
    constructor
    · rintro ⟨front, inner, rfl, hinner⟩
      obtain ⟨back, hback⟩ := Option.isSome_iff_exists.1 hinner
      obtain ⟨closing, hclosing, rfl⟩ := afterClosing?_eq_some_iff.1 hback
      exact ⟨front, closing, back, rfl, hclosing⟩
    · rintro ⟨front, closing, back, rfl, hclosing⟩
      exact ⟨front, closing ++ back, rfl, Option.isSome_iff_exists.2
        ⟨back, afterClosing?_eq_some_iff.2 ⟨closing, hclosing, rfl⟩⟩⟩
  constructor
  · intro h
    obtain ⟨result, hresult⟩ := Option.isSome_iff_exists.1 h
    obtain ⟨opening, attributes, content, rfl, htag⟩ := exists_isOwnedTag hresult helement before
    rw [htag.owned?_eq helement, Option.isSome_map] at h
    exact ⟨opening, attributes, content, rfl, htag, hcloses.1 h⟩
  · rintro ⟨opening, attributes, content, rfl, htag, hclosing⟩
    rw [htag.owned?_eq helement, Option.isSome_map]
    exact hcloses.2 hclosing

theorem owned?_eq_some_iff (helement : IsElement element) (before : List Char) :
    owned? element cs = some (attributes, body, rest) ↔
      ∃ opening closing, cs = opening ++ (attributes ++ '>' :: (body ++ (closing ++ rest))) ∧
        IsOwnedTag element before opening attributes (body ++ (closing ++ rest)) ∧
        IsFirstClosing element body closing rest := by
  constructor
  · intro h
    obtain ⟨opening, attributes', content, rfl, htag⟩ := exists_isOwnedTag h helement before
    rw [htag.owned?_eq helement] at h
    obtain ⟨⟨body', inner, rest'⟩, hseek, heq⟩ := Option.map_eq_some_iff.1 h
    cases heq
    obtain ⟨closing, rfl, rfl, hfirst⟩ := seek?_closing_eq_some_iff.1 hseek
    exact ⟨opening, closing, rfl, htag, hfirst⟩
  · rintro ⟨opening, closing, rfl, htag, hfirst⟩
    rw [htag.owned?_eq helement, Option.map_eq_some_iff]
    refine ⟨(body.reverse, closing ++ rest, rest), seek?_closing_eq_some_iff.2 ⟨closing, ?_⟩, ?_⟩
    · rw [List.reverse_reverse]
      exact ⟨rfl, rfl, hfirst⟩
    · simp only [List.reverse_reverse]

theorem at?_ownedBlock (kind : AssetKind) (cs : List Char) :
    at? kind.ownedBlock cs = (owned? kind.ownedBlock.element cs).map
      fun (attributes, body, rest) => (kind.ownedOf attributes body, rest) := by
  cases kind <;> rfl

theorem at?_ownedBlock_isSome_iff {kind : AssetKind} (before : List Char) :
    (at? kind.ownedBlock cs).isSome = true ↔ StartsOwned kind.ownedBlock.element before cs := by
  rw [at?_ownedBlock, Option.isSome_map, owned?_isSome_iff (isElement kind.ownedBlock)]

theorem at?_ownedBlock_eq_some_iff {kind : AssetKind} {block : Block} (before : List Char) :
    at? kind.ownedBlock cs = some (block, rest) ↔ ∃ opening attributes body closing,
      cs = opening ++ (attributes ++ '>' :: (body ++ (closing ++ rest))) ∧
      IsOwnedTag kind.ownedBlock.element before opening attributes (body ++ (closing ++ rest)) ∧
      IsFirstClosing kind.ownedBlock.element body closing rest ∧
      block = kind.ownedOf attributes body := by
  have helement := isElement kind.ownedBlock
  rw [at?_ownedBlock, Option.map_eq_some_iff]
  constructor
  · rintro ⟨⟨attributes, body, rest⟩, howned, heq⟩
    cases heq
    obtain ⟨opening, closing, hcs, htag, hfirst⟩ := (owned?_eq_some_iff helement before).1 howned
    exact ⟨opening, attributes, body, closing, hcs, htag, hfirst, rfl⟩
  · rintro ⟨opening, attributes, body, closing, hcs, htag, hfirst, rfl⟩
    exact ⟨(attributes, body, rest),
      (owned?_eq_some_iff helement before).2 ⟨opening, closing, hcs, htag, hfirst⟩, rfl⟩

/-- An owned block in a text, with the text around it.  It starts at the first place where one can
start, and its body ends with the first closing tag. -/
structure OwnedIn (kind : AssetKind) (text : String) (found : Found) : Prop extends
    found.IsFirst (StartsOwned kind.ownedBlock.element) text where
  shape : ∃ opening attributes body closing,
    found.written = opening ++ (attributes ++ '>' :: (body ++ closing)) ∧
    IsOwnedTag kind.ownedBlock.element found.before opening attributes
      (body ++ (closing ++ found.after)) ∧
    IsFirstClosing kind.ownedBlock.element body closing found.after ∧
    (∀ inner, IsClosing kind.ownedBlock.element inner → ¬ inner <:+: body) ∧
    found.block = kind.ownedOf attributes body

/-- An owned block is found exactly if one starts somewhere in the text, and it is the first one
that is found. -/
theorem find?_owned_iff (kind : AssetKind) (text : String) :
    ((find? kind.ownedBlock text).isSome = true ↔ ∃ before cs, text.toList = before ++ cs ∧
      StartsOwned kind.ownedBlock.element before cs) ∧
    ∀ found, find? kind.ownedBlock text = some found ↔ OwnedIn kind text found := by
  have hstarts (before cs : List Char) := @at?_ownedBlock_isSome_iff cs kind before
  refine ⟨find?_isSome_iff hstarts text, fun found => ?_⟩
  rw [find?_eq_some_iff hstarts, at?_ownedBlock_eq_some_iff found.before]
  · constructor
    · rintro ⟨hfirst, opening, attributes, body, closing, hcs, htag, hclosing, hblock⟩
      have hwritten : found.written ++ found.after =
          opening ++ (attributes ++ '>' :: (body ++ closing)) ++ found.after := by
        rw [hcs]
        simp
      exact ⟨hfirst, opening, attributes, body, closing, List.append_cancel_right hwritten, htag,
        hclosing, fun inner hinner => hclosing.not_infix hinner, hblock⟩
    · rintro ⟨hfirst, opening, attributes, body, closing, hwritten, htag, hclosing, -, hblock⟩
      exact ⟨hfirst, opening, attributes, body, closing, by rw [hwritten]; simp, htag, hclosing,
        hblock⟩
  · intro cs block rest hat
    obtain ⟨opening, attributes, body, closing, rfl, -⟩ :=
      (at?_ownedBlock_eq_some_iff []).1 hat
    exact ⟨opening ++ (attributes ++ '>' :: (body ++ closing)), by simp⟩

/-- A marker that belongs to a later tag does not make an element owned. -/
example :
    (find? .ownedStyle "<style>a</style><Style data-inside>é</style\n>").map
      (fun found => (found.block, found.range)) = some (.ownedStyle "css" "é", (16, 46)) := by
  decide +kernel

end Block

end ScopedViews

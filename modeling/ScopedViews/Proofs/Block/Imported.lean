import ScopedViews.Proofs.Block.Tags
/-!
# Imported blocks

The text of an imported block: a start tag with a marker that has a quoted value, and nothing but
blanks up to the closing tag.  The value may hold a `>`, so that the tag need not end with the
first one.

* `IsValue`, `IsEmptied`: the value of a marker, and what follows it;
* `ImportText`: the parts that an imported block is written of;
* `lastImport?_eq_some_iff`: of several markers in a tag the last one counts;
* `ImportedIn`: a block that is found, with the text around it;
* `find?_imported_iff`: when a block is found, and which one.
-/

namespace ScopedViews

/-- The block by which a view imports another one. -/
def AssetKind.importOf (kind : AssetKind) (written : String) : Block :=
  match kind with
  | .style => .importedStyle written
  | .script => .importedScript written

namespace Block

open Text

variable {element before passed target cs rest : List Char}

/-! ## Values -/

/-- A value in quotes behind an equals sign. -/
def IsValue (value target : List Char) : Prop :=
  ∃ blanks blanks' opening closing, (∀ b ∈ blanks, isBlank b = true) ∧
    (∀ b ∈ blanks', isBlank b = true) ∧ isQuote opening = true ∧ isQuote closing = true ∧
    (∀ c ∈ target, isQuote c = false) ∧
    value = blanks ++ '=' :: (blanks' ++ opening :: (target ++ [closing]))

theorem isBlank_of_isQuote {c : Char} (h : isQuote c = true) : isBlank c = false := by
  rw [isQuote, Bool.or_eq_true, decide_eq_true_eq, decide_eq_true_eq] at h
  rcases h with h | h <;> rw [isBlank, h] <;> rfl

theorem attributeValue?_eq_some_iff :
    attributeValue? cs = some (target, rest) ↔
      ∃ value, IsValue value target ∧ cs = value ++ rest := by
  unfold attributeValue?
  constructor
  · intro h
    split at h
    next cs' hequals =>
        split at h
        next => cases h
        next opening cs'' hopening =>
            obtain ⟨hquote, h⟩ := Option.ite_none_right_eq_some.1 h
            split at h
            next => cases h
            next target' closing rest' hspan =>
                cases h
                obtain ⟨-, blanks, hblanks, rfl⟩ := skipBlanks_eq_cons_iff.1 hequals
                obtain ⟨-, blanks', hblanks', rfl⟩ := skipBlanks_eq_cons_iff.1 hopening
                obtain ⟨hclosing, htarget, rfl⟩ := span_eq_cons_iff.1 hspan
                exact ⟨_, ⟨blanks, blanks', opening, closing, hblanks, hblanks', hquote,
                  by simpa using hclosing, by simpa using htarget, rfl⟩, by simp⟩
    next => cases h
  · rintro ⟨value, ⟨blanks, blanks', opening, closing, hblanks, hblanks', hquote, hclosing,
      htarget, rfl⟩, rfl⟩
    have hequals : skipBlanks
        (blanks ++ '=' :: (blanks' ++ opening :: (target ++ [closing])) ++ rest) =
          '=' :: (blanks' ++ opening :: (target ++ closing :: rest)) :=
      skipBlanks_eq_cons_iff.2 ⟨by decide, blanks, hblanks, by simp⟩
    have hopening : skipBlanks (blanks' ++ opening :: (target ++ closing :: rest)) =
        opening :: (target ++ closing :: rest) :=
      skipBlanks_eq_cons_iff.2 ⟨isBlank_of_isQuote hquote, blanks', hblanks', rfl⟩
    have hspan : (target ++ closing :: rest).span (!isQuote ·) = (target, closing :: rest) :=
      span_eq_cons_iff.2 ⟨by simpa using hclosing, by simpa using htarget, rfl⟩
    simp only [hequals, hopening, hquote, hspan, if_true]

/-! ## Behind the value -/

/-- The end of a start tag, blanks and the closing tag. -/
def IsEmptied (element tail : List Char) : Prop :=
  ∃ attributes blanks closing, '>' ∉ attributes ∧ (∀ b ∈ blanks, isBlank b = true) ∧
    IsClosing element closing ∧ tail = attributes ++ '>' :: (blanks ++ closing)

theorem IsClosing.exists_cons {closing : List Char} (h : IsClosing element closing) :
    ∃ more, closing = '<' :: more := by
  obtain ⟨tag, blanks, htag, -, rfl⟩ := h
  cases htag with
  | cons hfolds _ =>
      obtain rfl := eq_of_foldsTo rfl hfolds
      exact ⟨_, rfl⟩

/-- A closing tag is not blank, so that all blanks in front of it are skipped. -/
theorem skipBlanks_eq_closing_iff {closing : List Char} (h : IsClosing element closing) :
    skipBlanks cs = closing ++ rest ↔
      ∃ blanks, (∀ b ∈ blanks, isBlank b = true) ∧ cs = blanks ++ (closing ++ rest) := by
  obtain ⟨more, rfl⟩ := h.exists_cons
  rw [List.cons_append, skipBlanks_eq_cons_iff, and_iff_right (by decide)]

/-! ## One marker -/

theorem importAt?_eq_some_iff :
    importAt? element passed cs = some (target, rest) ↔
      breaksWord passed = true ∧ ∃ mark value tail, IsImportMarker mark ∧ IsValue value target ∧
        IsEmptied element tail ∧ cs = mark ++ (value ++ (tail ++ rest)) := by
  rw [importAt?, Option.bind_eq_bind, Option.bind_eq_some_iff]
  constructor
  · rintro ⟨behind, hmarker, h⟩
    obtain ⟨hbreaks, mark, hmark, rfl⟩ := afterImportMarker?_eq_some_iff.1 hmarker
    rw [Option.bind_eq_bind, Option.bind_eq_some_iff] at h
    obtain ⟨⟨target', behind'⟩, hattribute, h⟩ := h
    obtain ⟨value, hvalue, rfl⟩ := attributeValue?_eq_some_iff.1 hattribute
    dsimp only at h
    split at h
    next => cases h
    next c content hends =>
        obtain ⟨rest', hrest, heq⟩ := Option.map_eq_some_iff.1 h
        cases heq
        obtain ⟨hc, attributes, hattributes, rfl⟩ := dropWhile_eq_cons_iff.1 hends
        obtain rfl : c = '>' := by simpa using hc
        obtain ⟨closing, hclosing, hskip⟩ := afterClosing?_eq_some_iff.1 hrest
        obtain ⟨blanks, hblanks, rfl⟩ := (skipBlanks_eq_closing_iff hclosing).1 hskip
        exact ⟨hbreaks, mark, value, _, hmark, hvalue, ⟨attributes, blanks, closing,
          forall_bne_iff.1 hattributes, hblanks, hclosing, rfl⟩, by simp⟩
  · rintro ⟨hbreaks, mark, value, tail, hmark, hvalue,
      ⟨attributes, blanks, closing, hattributes, hblanks, hclosing, rfl⟩, rfl⟩
    refine ⟨_, afterImportMarker?_eq_some_iff.2 ⟨hbreaks, mark, hmark, rfl⟩, ?_⟩
    rw [Option.bind_eq_bind, attributeValue?_eq_some_iff.2 ⟨value, hvalue, rfl⟩, Option.bind_some]
    have hends : (attributes ++ '>' :: (blanks ++ closing) ++ rest).dropWhile (· != '>') =
        '>' :: (blanks ++ (closing ++ rest)) :=
      dropWhile_eq_cons_iff.2 ⟨rfl, attributes, forall_bne_iff.2 hattributes, by simp⟩
    have hskip : skipBlanks (blanks ++ (closing ++ rest)) = closing ++ rest :=
      (skipBlanks_eq_closing_iff hclosing).2 ⟨blanks, hblanks, rfl⟩
    simp only [hends, hskip, afterClosing?_eq_some_iff.2 ⟨closing, hclosing, rfl⟩,
      Option.map_some]

theorem head?_of_importAt? (h : (importAt? element passed cs).isSome = true) :
    cs.head?.any isWord = true := by
  obtain ⟨⟨target, rest⟩, hresult⟩ := Option.isSome_iff_exists.1 h
  obtain ⟨-, mark, value, tail, hmark, -, -, rfl⟩ := importAt?_eq_some_iff.1 hresult
  exact hmark.head _

theorem importAt?_nil : importAt? element passed [] = none := by
  rw [← Option.not_isSome_iff_eq_none]
  intro h
  cases head?_of_importAt? h

theorem importAt?_angle : importAt? element passed ('>' :: cs) = none := by
  rw [← Option.not_isSome_iff_eq_none]
  intro h
  have hword : isWord '>' = true := head?_of_importAt? h
  exact absurd hword (by decide +kernel)

/-! ## The last marker -/

/-- In front of the first `>`, no marker gives an import, or there is a last one that does. -/
theorem lastImport?_spec (element passed cs : List Char) :
    (lastImport? element passed cs = none ∧ ∀ front inner, cs = front ++ inner → '>' ∉ front →
      importAt? element (front.reverse ++ passed) inner = none) ∨
    ∃ front inner, cs = front ++ inner ∧ '>' ∉ front ∧
      lastImport? element passed cs = importAt? element (front.reverse ++ passed) inner ∧
      (importAt? element (front.reverse ++ passed) inner).isSome = true ∧
      ∀ front' inner', cs = front' ++ inner' → '>' ∉ front' →
        (importAt? element (front'.reverse ++ passed) inner').isSome = true →
        front'.length ≤ front.length := by
  induction cs generalizing passed with
  | nil =>
      refine .inl ⟨rfl, fun front inner hsplit _ => ?_⟩
      obtain ⟨-, rfl⟩ := List.append_eq_nil_iff.1 hsplit.symm
      exact importAt?_nil
  | cons c cs ih =>
      have hpassed (front : List Char) :
          (c :: front).reverse ++ passed = front.reverse ++ (c :: passed) := by simp
      by_cases hc : c = '>'
      · refine .inl ⟨if_pos hc, fun front inner hsplit hfront => ?_⟩
        rcases List.cons_eq_append_iff.1 hsplit with ⟨rfl, rfl⟩ | ⟨front, rfl, -⟩
        · rw [hc]
          exact importAt?_angle
        · exact absurd (hc ▸ List.mem_cons_self) hfront
      · have hlast : lastImport? element passed (c :: cs) =
            (lastImport? element (c :: passed) cs).or (importAt? element passed (c :: cs)) :=
          if_neg hc
        rcases ih (c :: passed) with ⟨hnone, hall⟩ | ⟨front, inner, rfl, hfront, heq, hsome, hmost⟩
        · -- behind this place no marker gives an import, so that here is the last one, if any
          have hbehind {front inner : List Char} (hrest : cs = front ++ inner)
              (hfront : '>' ∉ c :: front) :
              importAt? element ((c :: front).reverse ++ passed) inner = none := by
            rw [hpassed]
            exact hall front inner hrest (List.not_mem_of_not_mem_cons hfront)
          rw [hlast, hnone, Option.none_or]
          cases hhere : importAt? element passed (c :: cs) with
          | none =>
              refine .inl ⟨rfl, fun front inner hsplit hfront => ?_⟩
              rcases List.cons_eq_append_iff.1 hsplit with ⟨rfl, rfl⟩ | ⟨front, rfl, hrest⟩
              · exact hhere
              · exact hbehind hrest hfront
          | some result =>
              refine .inr ⟨[], c :: cs, rfl, List.not_mem_nil, hhere.symm, ?_,
                fun front inner hsplit hfront hat => ?_⟩
              · rw [List.reverse_nil, List.nil_append, hhere, Option.isSome_some]
              · rcases List.cons_eq_append_iff.1 hsplit with ⟨rfl, rfl⟩ | ⟨front, rfl, hrest⟩
                · exact Nat.le_refl _
                · rw [hbehind hrest hfront] at hat
                  cases hat
        · rw [← hpassed] at heq hsome
          refine .inr ⟨c :: front, inner, rfl,
            List.not_mem_cons_of_ne_of_not_mem (Ne.symm hc) hfront, ?_, hsome,
            fun front' inner' hsplit hfront' hat => ?_⟩
          · rw [hlast, heq, Option.or_of_isSome hsome]
          · rcases List.cons_eq_append_iff.1 hsplit with ⟨rfl, rfl⟩ | ⟨front', rfl, hrest⟩
            · exact Nat.zero_le _
            · rw [hpassed] at hat
              exact Nat.succ_le_succ
                (hmost front' inner' hrest (List.not_mem_of_not_mem_cons hfront') hat)

theorem lastImport?_isSome_iff :
    (lastImport? element passed cs).isSome = true ↔ ∃ front inner, cs = front ++ inner ∧
      '>' ∉ front ∧ (importAt? element (front.reverse ++ passed) inner).isSome = true := by
  rcases lastImport?_spec element passed cs with ⟨hnone, hall⟩ | ⟨front, inner, hsplit, hfront,
    heq, hsome, -⟩
  · rw [hnone]
    refine iff_of_false Bool.false_ne_true ?_
    rintro ⟨front, inner, hsplit, hfront, hat⟩
    rw [hall front inner hsplit hfront] at hat
    cases hat
  · rw [heq]
    exact iff_of_true hsome ⟨front, inner, hsplit, hfront, hsome⟩

/-- The import of a tag is given by the last marker in it that gives one. -/
theorem lastImport?_eq_some_iff :
    lastImport? element passed cs = some (target, rest) ↔ ∃ front inner, cs = front ++ inner ∧
      '>' ∉ front ∧ importAt? element (front.reverse ++ passed) inner = some (target, rest) ∧
      ∀ front' inner', cs = front' ++ inner' → '>' ∉ front' →
        (importAt? element (front'.reverse ++ passed) inner').isSome = true →
        front'.length ≤ front.length := by
  rcases lastImport?_spec element passed cs with ⟨hnone, hall⟩ | ⟨front, inner, rfl, hfront, heq,
    hsome, hmost⟩
  · rw [hnone]
    refine iff_of_false nofun ?_
    rintro ⟨front, inner, hsplit, hfront, hat, -⟩
    rw [hall front inner hsplit hfront] at hat
    cases hat
  · rw [heq]
    constructor
    · exact fun hat => ⟨front, inner, rfl, hfront, hat, hmost⟩
    · rintro ⟨front', inner', hsplit, hfront', hat, hmost'⟩
      have hsome' := Option.isSome_iff_exists.2 ⟨_, hat⟩
      have hlength : front.length = front'.length :=
        Nat.le_antisymm (hmost' front inner rfl hfront hsome)
          (hmost front' inner' hsplit hfront' hsome')
      obtain ⟨rfl, rfl⟩ := List.append_inj hsplit hlength
      exact hat

/-! ## Blocks -/

/-- What an imported block is written of: how its tag begins, the attributes up to a marker, the
marker, its value with the target in quotes, and everything up to the end of the closing tag. -/
structure ImportText where
  opening : List Char
  front : List Char
  mark : List Char
  value : List Char
  target : List Char
  tail : List Char

def ImportText.text (w : ImportText) : List Char :=
  w.opening ++ (w.front ++ (w.mark ++ (w.value ++ w.tail)))

/-- The parts are those of an imported block between two texts. -/
structure ImportText.IsIn (w : ImportText) (element before behind : List Char) : Prop where
  opens : IsOpening element before w.opening
    (w.front ++ (w.mark ++ (w.value ++ (w.tail ++ behind))))
  inside : '>' ∉ w.front
  marks : IsImportMarker w.mark
  breaks : IsWordBreak (before ++ w.opening ++ w.front)
    (w.mark ++ (w.value ++ (w.tail ++ behind)))
  isValue : IsValue w.value w.target
  isEmptied : IsEmptied element w.tail

/-- An imported block starts at a place. -/
def StartsImport (element before cs : List Char) : Prop :=
  ∃ w behind, cs = ImportText.text w ++ behind ∧ w.IsIn element before behind

theorem importAt?_iff_isIn {opening front inner : List Char} (helement : IsElement element)
    (hopening : IsOpening element before opening (front ++ inner)) :
    ('>' ∉ front ∧ importAt? element (front.reverse ++ []) inner = some (target, rest)) ↔
      ∃ mark value tail, inner = mark ++ (value ++ (tail ++ rest)) ∧
        ImportText.IsIn ⟨opening, front, mark, value, target, tail⟩ element before rest := by
  rw [List.append_nil, importAt?_eq_some_iff]
  constructor
  · rintro ⟨hfront, hbreaks, mark, value, tail, hmark, hvalue, htail, rfl⟩
    exact ⟨mark, value, tail, rfl, hopening, hfront, hmark,
      (hopening.isWordBreak_iff helement (hmark.head _)).2 hbreaks, hvalue, htail⟩
  · rintro ⟨mark, value, tail, rfl, h⟩
    exact ⟨h.inside, (hopening.isWordBreak_iff helement (h.marks.head _)).1 h.breaks, mark, value,
      tail, h.marks, h.isValue, h.isEmptied, rfl⟩

/-- A start tag begins in one way only. -/
theorem IsOpening.eq {opening opening' behind behind' : List Char}
    (h : IsOpening element before opening behind) (h' : IsOpening element before opening' behind')
    (heq : opening ++ behind = opening' ++ behind') : opening = opening' ∧ behind = behind' :=
  List.append_inj heq (h.spelled.length_eq.trans h'.spelled.length_eq.symm)

theorem ImportText.text_append (w : ImportText) (behind : List Char) :
    w.text ++ behind =
      w.opening ++ (w.front ++ (w.mark ++ (w.value ++ (w.tail ++ behind)))) := by
  simp [text]

theorem imported?_eq_some_iff (helement : IsElement element) (before : List Char) :
    imported? element cs = some (target, rest) ↔ ∃ w : ImportText,
      cs = w.text ++ rest ∧ w.IsIn element before rest ∧ w.target = target ∧
      ∀ (w' : ImportText) (behind : List Char), cs = w'.text ++ behind →
        w'.IsIn element before behind → w'.front.length ≤ w.front.length := by
  rw [imported?, Option.bind_eq_some_iff]
  constructor
  · rintro ⟨attributes, hattributes, hlast⟩
    obtain ⟨opening, hopening, rfl⟩ := (afterOpening?_eq_some_iff helement before).1 hattributes
    obtain ⟨front, inner, rfl, hfront, hat, hmost⟩ := lastImport?_eq_some_iff.1 hlast
    obtain ⟨mark, value, tail, rfl, hin⟩ := (importAt?_iff_isIn helement hopening).1 ⟨hfront, hat⟩
    refine ⟨⟨opening, front, mark, value, target, tail⟩, ?_, hin, rfl,
      fun w' behind hsplit hin' => ?_⟩
    · rw [ImportText.text_append]
    · rw [ImportText.text_append] at hsplit
      obtain ⟨rfl, hrest⟩ := hopening.eq hin'.opens hsplit
      obtain ⟨hfront', hat'⟩ := (importAt?_iff_isIn helement hin'.opens).2
        ⟨w'.mark, w'.value, w'.tail, rfl, hin'⟩
      exact hmost w'.front _ hrest hfront' (Option.isSome_iff_exists.2 ⟨_, hat'⟩)
  · rintro ⟨⟨opening, front, mark, value, target, tail⟩, rfl, hin, rfl, hmost⟩
    simp only [ImportText.text_append] at hmost ⊢
    obtain ⟨hfront, hat⟩ := (importAt?_iff_isIn helement hin.opens).2 ⟨mark, value, tail, rfl, hin⟩
    refine ⟨_, (afterOpening?_eq_some_iff helement before).2 ⟨opening, hin.opens, rfl⟩,
      lastImport?_eq_some_iff.2 ⟨front, _, rfl, hfront, hat, fun front' inner' hsplit hfront'
        hat' => ?_⟩⟩
    obtain ⟨⟨target', rest'⟩, hat'⟩ := Option.isSome_iff_exists.1 hat'
    have hopening := hin.opens
    dsimp only at hopening
    rw [hsplit] at hopening
    obtain ⟨mark', value', tail', rfl, hin'⟩ :=
      (importAt?_iff_isIn helement hopening).1 ⟨hfront', hat'⟩
    exact hmost ⟨opening, front', mark', value', target', tail'⟩ rest'
      (congrArg (opening ++ ·) hsplit) hin'

theorem imported?_isSome_iff (helement : IsElement element) (before : List Char) :
    (imported? element cs).isSome = true ↔ StartsImport element before cs := by
  constructor
  · intro h
    obtain ⟨⟨target, rest⟩, hresult⟩ := Option.isSome_iff_exists.1 h
    obtain ⟨w, hcs, hin, -⟩ := (imported?_eq_some_iff helement before).1 hresult
    exact ⟨w, rest, hcs, hin⟩
  · rintro ⟨w, behind, rfl, hin⟩
    obtain ⟨hfront, hat⟩ := (importAt?_iff_isIn helement hin.opens).2
      ⟨w.mark, w.value, w.tail, rfl, hin⟩
    rw [imported?, w.text_append,
      (afterOpening?_eq_some_iff helement before).2 ⟨w.opening, hin.opens, rfl⟩, Option.bind_some]
    exact lastImport?_isSome_iff.2 ⟨w.front, _, rfl, hfront, Option.isSome_iff_exists.2 ⟨_, hat⟩⟩

theorem at?_importedBlock (kind : AssetKind) (cs : List Char) :
    at? kind.importedBlock cs = (imported? kind.importedBlock.element cs).map
      fun (target, rest) => (kind.importOf (String.ofList (trimChars target)), rest) := by
  cases kind <;> rfl

theorem at?_importedBlock_isSome_iff {kind : AssetKind} (before : List Char) :
    (at? kind.importedBlock cs).isSome = true ↔
      StartsImport kind.importedBlock.element before cs := by
  rw [at?_importedBlock, Option.isSome_map, imported?_isSome_iff (isElement kind.importedBlock)]

theorem at?_importedBlock_eq_some_iff {kind : AssetKind} {block : Block} (before : List Char) :
    at? kind.importedBlock cs = some (block, rest) ↔ ∃ w : ImportText, cs = w.text ++ rest ∧
      w.IsIn kind.importedBlock.element before rest ∧
      (∀ (w' : ImportText) (behind : List Char), cs = w'.text ++ behind →
        w'.IsIn kind.importedBlock.element before behind → w'.front.length ≤ w.front.length) ∧
      ∃ target, IsTrimmed w.target target ∧ block = kind.importOf (String.ofList target) := by
  have helement := isElement kind.importedBlock
  rw [at?_importedBlock, Option.map_eq_some_iff]
  constructor
  · rintro ⟨⟨target, rest⟩, himported, heq⟩
    cases heq
    obtain ⟨w, hcs, hin, rfl, hmost⟩ := (imported?_eq_some_iff helement before).1 himported
    exact ⟨w, hcs, hin, hmost, trimChars w.target, isTrimmed_trimChars w.target, rfl⟩
  · rintro ⟨w, hcs, hin, hmost, target, htrimmed, rfl⟩
    rw [← isTrimmed_iff.1 htrimmed]
    exact ⟨(w.target, rest),
      (imported?_eq_some_iff helement before).2 ⟨w, hcs, hin, rfl, hmost⟩, rfl⟩

theorem ImportText.IsIn.not_isQuote {w : ImportText} {behind trimmed : List Char}
    (h : w.IsIn element before behind) (htrimmed : IsTrimmed w.target trimmed) :
    ∀ c ∈ trimmed, isQuote c = false := by
  obtain ⟨_, _, _, _, -, -, -, -, htarget, -⟩ := h.isValue
  obtain ⟨left, right, -, -, hsplit⟩ := htrimmed.around
  intro c hc
  refine htarget c ?_
  rw [hsplit]
  exact List.mem_append_right left (List.mem_append_left right hc)

/-- An imported block in a text, with the text around it.  It starts at the first place where one
can start, and of several markers that one can be read with there, the last one counts. -/
structure ImportedIn (kind : AssetKind) (text : String) (found : Found) : Prop extends
    found.IsFirst (StartsImport kind.importedBlock.element) text where
  shape : ∃ w : ImportText, found.written = w.text ∧
    w.IsIn kind.importedBlock.element found.before found.after ∧
    (∀ (w' : ImportText) (behind : List Char),
      found.written ++ found.after = w'.text ++ behind →
      w'.IsIn kind.importedBlock.element found.before behind →
      w'.front.length ≤ w.front.length) ∧
    ∃ target, IsTrimmed w.target target ∧ (∀ c ∈ target, isQuote c = false) ∧
      found.block = kind.importOf (String.ofList target)

/-- An imported block is found exactly if one starts somewhere in the text, and it is the first
one that is found. -/
theorem find?_imported_iff (kind : AssetKind) (text : String) :
    ((find? kind.importedBlock text).isSome = true ↔ ∃ before cs, text.toList = before ++ cs ∧
      StartsImport kind.importedBlock.element before cs) ∧
    ∀ found, find? kind.importedBlock text = some found ↔ ImportedIn kind text found := by
  have hstarts (before cs : List Char) := @at?_importedBlock_isSome_iff cs kind before
  refine ⟨find?_isSome_iff hstarts text, fun found => ?_⟩
  rw [find?_eq_some_iff hstarts, at?_importedBlock_eq_some_iff found.before]
  · constructor
    · rintro ⟨hfirst, w, hcs, hin, hmost, target, htrimmed, hblock⟩
      exact ⟨hfirst, w, List.append_cancel_right hcs, hin, hmost, target, htrimmed,
        hin.not_isQuote htrimmed, hblock⟩
    · rintro ⟨hfirst, w, hwritten, hin, hmost, target, htrimmed, -, hblock⟩
      exact ⟨hfirst, w, by rw [hwritten], hin, hmost, target, htrimmed, hblock⟩
  · intro cs block rest hat
    obtain ⟨w, rfl, -⟩ := (at?_importedBlock_eq_some_iff []).1 hat
    exact List.suffix_append w.text rest

/-- The second marker counts, whose value holds a `>`. -/
example :
    (find? .importedStyle "<style data-same='a' DATA-IMPORT = \" b> \"></style\n>!").map
      (fun found => (found.block, found.after)) = some (.importedStyle "b>", ['!']) := by
  decide +kernel

end Block

end ScopedViews

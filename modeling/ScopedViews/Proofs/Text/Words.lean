import Mathlib.Data.List.Forall2
import Mathlib.Data.List.TakeDrop
import Mathlib.Data.List.TakeWhile
import ScopedViews.Text.Pattern
/-!
# Words in a text

What the matchers for words look for, said without them: a word is spelled in any case, a word
breaks off between two texts, and a search stops at the first place where there is something to be
found.

* `Spells`, `afterWord?_eq_some_iff`: a word, in any case;
* `IsWordBreak`: the places where words start or end;
* `dropWhile_eq_cons_iff`, `IsTrimmed`: stretches of characters of a class, and texts without the
  blanks around them;
* `seek?_eq_some_iff`, `seek?_isSome_iff`: the first place where something is found;
* `splice_eq`: a text with a stretch cut out, by its bytes.
-/

namespace ScopedViews.Text

/-! ## Words -/

/-- A text is a word that is given in lower case, in any case. -/
def Spells (word cs : List Char) : Prop :=
  List.Forall₂ (fun p c => foldsTo p c = true) word cs

theorem Spells.length_eq {word cs : List Char} (h : Spells word cs) : cs.length = word.length :=
  (List.Forall₂.length_eq h).symm

theorem afterWord?_eq_some_iff {word cs rest : List Char} :
    afterWord? word cs = some rest ↔ ∃ spelled, Spells word spelled ∧ cs = spelled ++ rest := by
  induction word generalizing cs with
  | nil =>
      constructor
      · intro h
        exact ⟨[], .nil, Option.some.inj h⟩
      · rintro ⟨spelled, hspelled, rfl⟩
        cases hspelled
        rfl
  | cons p word ih =>
      constructor
      · intro h
        cases cs with
        | nil => cases h
        | cons c cs =>
            rw [afterWord?] at h
            split at h
            next hfolds =>
                obtain ⟨spelled, hspelled, rfl⟩ := ih.1 h
                exact ⟨c :: spelled, .cons hfolds hspelled, rfl⟩
            next => cases h
      · rintro ⟨spelled, hspelled, rfl⟩
        cases hspelled with
        | cons hfolds hspelled =>
            rw [List.cons_append, afterWord?, if_pos hfolds]
            exact ih.2 ⟨_, hspelled, rfl⟩

theorem isUpper_iff {c : Char} : c.isUpper = true ↔ 65 ≤ c.toNat ∧ c.toNat ≤ 90 := by
  show decide ('A'.val ≤ c.val ∧ c.val ≤ 'Z'.val) = true ↔ _
  rw [decide_eq_true_eq, UInt32.le_iff_toNat_le, UInt32.le_iff_toNat_le]
  rfl

theorem isLower_iff {c : Char} : c.isLower = true ↔ 97 ≤ c.toNat ∧ c.toNat ≤ 122 := by
  show (decide ('a'.val ≤ c.val) && decide (c.val ≤ 'z'.val)) = true ↔ _
  rw [Bool.and_eq_true, decide_eq_true_eq, decide_eq_true_eq, UInt32.le_iff_toNat_le,
    UInt32.le_iff_toNat_le]
  rfl

/-- A character in lower case is told by what it is the lower case of. -/
theorem eq_or_of_toLower_eq {p c : Char} (h : c.toLower = p) :
    c = p ∨ c.isUpper = true ∧ c.toNat + 32 = p.toNat := by
  unfold Char.toLower at h
  split at h
  next hupper =>
      have hrange : 65 ≤ c.toNat ∧ c.toNat ≤ 90 :=
        ⟨UInt32.le_iff_toNat_le.1 hupper.1, UInt32.le_iff_toNat_le.1 hupper.2⟩
      have hshift : ('a'.val - 'A'.val).toNat = 32 := rfl
      have hval : (c.val + ('a'.val - 'A'.val)).toNat = p.toNat :=
        congrArg (fun c : Char => c.val.toNat) h
      rw [UInt32.toNat_add, hshift] at hval
      refine .inr ⟨isUpper_iff.2 hrange, ?_⟩
      have hcode : (c.toNat + 32) % 2 ^ 32 = p.toNat := hval
      omega
  next => exact .inl h

theorem isWord_of_isUpper_or_isLower {c : Char} (h : (c.isUpper || c.isLower) = true) :
    isWord c = true := by
  have hascii : c.toNat < 128 := by
    rw [Bool.or_eq_true, isUpper_iff, isLower_iff] at h
    omega
  have halpha : c.isAlpha = true := h
  rw [isWord, if_pos hascii, Char.isAlphanum, halpha, Bool.true_or, Bool.true_or]

/-- What a letter of a word is spelled with is a letter as well. -/
theorem isWord_of_foldsTo {p c : Char} (hp : p.isLower = true) (h : foldsTo p c = true) :
    isWord c = true := by
  rw [foldsTo, Bool.or_eq_true, beq_iff_eq, Bool.and_eq_true, decide_eq_true_eq] at h
  rcases h with hlower | ⟨-, hlong⟩
  · refine isWord_of_isUpper_or_isLower ?_
    rcases eq_or_of_toLower_eq hlower with rfl | ⟨hupper, -⟩
    · rw [hp, Bool.or_true]
    · rw [hupper, Bool.true_or]
  · -- the long s is a letter that stands for no other one
    obtain rfl : c = Char.ofNat 0x17F := Char.toNat_inj.1 hlong
    decide +kernel

/-- A character that is no letter is read as it is written. -/
theorem eq_of_foldsTo {p c : Char} (hp : p.isLower = false) (h : foldsTo p c = true) : c = p := by
  rw [foldsTo, Bool.or_eq_true, beq_iff_eq, Bool.and_eq_true, beq_iff_eq] at h
  rcases h with hlower | ⟨rfl, -⟩
  · rcases eq_or_of_toLower_eq hlower with rfl | ⟨hupper, hcode⟩
    · rfl
    · rw [isUpper_iff] at hupper
      rw [← Bool.not_eq_true, isLower_iff] at hp
      omega
  · cases hp

/-- Only the long s, which is no lower case of another character, folds to two characters. -/
theorem foldsTo_inj {p q c : Char} (hp : p.toNat < 128) (hq : q.toNat < 128)
    (h : foldsTo p c = true) (h' : foldsTo q c = true) : p = q := by
  have hlong {p : Char} (hp : p.toNat < 128) (hc : c.toNat = 0x17F) (h : c.toLower = p) :
      False := by
    rcases eq_or_of_toLower_eq h with rfl | ⟨-, hcode⟩ <;> omega
  rw [foldsTo, Bool.or_eq_true, beq_iff_eq, Bool.and_eq_true, decide_eq_true_eq, beq_iff_eq]
    at h h'
  rcases h with h | ⟨rfl, hc⟩ <;> rcases h' with h' | ⟨rfl, hc'⟩
  · exact h.symm.trans h'
  · exact (hlong hp hc' h).elim
  · exact (hlong hq hc h').elim
  · rfl

/-- Of two words that start at one place, one is the beginning of the other. -/
theorem prefix_or_prefix_of_spells {word word' spelled spelled' cs : List Char}
    (hword : ∀ p ∈ word, p.toNat < 128) (hword' : ∀ p ∈ word', p.toNat < 128)
    (h : Spells word spelled) (h' : Spells word' spelled') (hcs : spelled <+: cs)
    (hcs' : spelled' <+: cs) : word <+: word' ∨ word' <+: word := by
  induction h generalizing word' spelled' cs with
  | nil => exact .inl List.nil_prefix
  | @cons p c word spelled hfolds _ ih =>
      cases h' with
      | nil => exact .inr List.nil_prefix
      | @cons q d word' spelled' hfolds' hspelled' =>
          obtain ⟨rest, rfl⟩ := hcs
          rw [List.cons_append, List.cons_prefix_cons] at hcs'
          obtain ⟨rfl, hcs'⟩ := hcs'
          obtain rfl : p = q := foldsTo_inj (hword p List.mem_cons_self)
            (hword' q List.mem_cons_self) hfolds hfolds'
          rw [List.cons_prefix_cons, List.cons_prefix_cons]
          exact (ih (fun r hr => hword r (List.mem_cons_of_mem p hr))
            (fun r hr => hword' r (List.mem_cons_of_mem p hr)) hspelled'
            (List.prefix_append spelled rest) hcs').imp (⟨rfl, ·⟩) (⟨rfl, ·⟩)

/-! ## Word breaks -/

/-- Between two texts there is a character of a word on one side and none on the other. -/
def IsWordBreak (before after : List Char) : Prop :=
  before.getLast?.any isWord ≠ after.head?.any isWord

theorem breaksWord_eq (cs : List Char) : breaksWord cs = !cs.head?.any isWord := by
  cases cs <;> rfl

/-- Behind a character of a word, words break where no other one follows. -/
theorem isWordBreak_iff_of_last {before after : List Char} (h : before.getLast?.any isWord = true) :
    IsWordBreak before after ↔ breaksWord after = true := by
  rw [IsWordBreak, h, breaksWord_eq]
  cases after.head?.any isWord <;> decide

/-- In front of a character of a word, words break where no other one precedes. -/
theorem isWordBreak_iff_of_head {before after : List Char} (h : after.head?.any isWord = true) :
    IsWordBreak before after ↔ breaksWord before.reverse = true := by
  rw [IsWordBreak, h, breaksWord_eq, List.head?_reverse]
  cases before.getLast?.any isWord <;> decide

theorem Spells.head {word spelled : List Char} (h : Spells word spelled)
    (hfirst : word.head?.any Char.isLower = true) (rest : List Char) :
    (spelled ++ rest).head?.any isWord = true := by
  cases h with
  | nil => cases hfirst
  | cons hfolds _ => exact isWord_of_foldsTo hfirst hfolds

theorem Spells.last {word spelled : List Char} (h : Spells word spelled)
    (hlast : word.getLast?.any Char.isLower = true) (front : List Char) :
    (front ++ spelled).getLast?.any isWord = true := by
  have hreverse : Spells word.reverse spelled.reverse := List.forall₂_reverse_iff.2 h
  rw [← List.head?_reverse] at hlast ⊢
  rw [List.reverse_append]
  exact hreverse.head hlast front.reverse

theorem breaksWord_append_cons {c : Char} (h : isWord c = false) (cs rest : List Char) :
    breaksWord (cs ++ c :: rest) = breaksWord cs := by
  cases cs with
  | nil => rw [List.nil_append, breaksWord_eq, List.head?_cons, Option.any_some, h]; rfl
  | cons d cs => rfl

/-! ## Stretches -/

/-- A stretch of characters of a class ends where one of another class follows. -/
theorem dropWhile_eq_cons_iff {p : Char → Bool} {cs rest : List Char} {c : Char} :
    cs.dropWhile p = c :: rest ↔
      p c = false ∧ ∃ front, (∀ b ∈ front, p b = true) ∧ cs = front ++ c :: rest := by
  constructor
  · intro h
    refine ⟨?_, cs.takeWhile p, fun b hb => List.mem_takeWhile_imp hb, ?_⟩
    · have hhead := List.head?_dropWhile_not p cs
      rw [h] at hhead
      simpa using hhead
    · rw [← h, List.takeWhile_append_dropWhile]
  · rintro ⟨hc, front, hfront, rfl⟩
    rw [List.dropWhile_append_of_pos hfront, List.dropWhile_cons_of_neg (by simp [hc])]

theorem span_eq_cons_iff {p : Char → Bool} {cs front rest : List Char} {c : Char} :
    cs.span p = (front, c :: rest) ↔
      p c = false ∧ (∀ b ∈ front, p b = true) ∧ cs = front ++ c :: rest := by
  rw [List.span_eq_takeWhile_dropWhile, Prod.mk.injEq, dropWhile_eq_cons_iff]
  constructor
  · rintro ⟨rfl, hc, front, hfront, rfl⟩
    rw [List.takeWhile_append_of_pos hfront, List.takeWhile_cons_of_neg (by simp [hc]),
      List.append_nil]
    exact ⟨hc, hfront, rfl⟩
  · rintro ⟨hc, hfront, rfl⟩
    refine ⟨?_, hc, front, hfront, rfl⟩
    rw [List.takeWhile_append_of_pos hfront, List.takeWhile_cons_of_neg (by simp [hc]),
      List.append_nil]

theorem forall_bne_iff {c : Char} {cs : List Char} : (∀ b ∈ cs, (b != c) = true) ↔ c ∉ cs := by
  constructor
  · intro h hc
    exact absurd (h c hc) (by simp)
  · intro h b hb
    exact bne_iff_ne.2 fun heq => h (heq ▸ hb)

theorem skipBlanks_eq_cons_iff {cs rest : List Char} {c : Char} :
    skipBlanks cs = c :: rest ↔
      isBlank c = false ∧ ∃ blanks, (∀ b ∈ blanks, isBlank b = true) ∧ cs = blanks ++ c :: rest :=
  dropWhile_eq_cons_iff

theorem dropWhile_of_head? {p : Char → Bool} {cs : List Char} (h : ∀ c ∈ cs.head?, p c = false) :
    cs.dropWhile p = cs := by
  cases cs with
  | nil => rfl
  | cons c cs => rw [List.dropWhile_cons, h c rfl, if_neg Bool.false_ne_true]

/-- What is left of a text without the blanks at its ends. -/
structure IsTrimmed (cs trimmed : List Char) : Prop where
  around : ∃ left right, (∀ b ∈ left, isBlank b = true) ∧ (∀ b ∈ right, isBlank b = true) ∧
    cs = left ++ (trimmed ++ right)
  head : ∀ c ∈ trimmed.head?, isBlank c = false
  last : ∀ c ∈ trimmed.getLast?, isBlank c = false

theorem isTrimmed_trimChars (cs : List Char) : IsTrimmed cs (trimChars cs) := by
  have hnot (cs : List Char) : ∀ c ∈ (cs.dropWhile isBlank).head?, isBlank c = false := by
    intro c hc
    have hhead := List.head?_dropWhile_not isBlank cs
    rw [Option.mem_def.1 hc] at hhead
    simpa using hhead
  obtain ⟨right, hblanks, hright⟩ : ∃ right, (∀ b ∈ right, isBlank b = true) ∧
      cs.dropWhile isBlank = trimChars cs ++ right := by
    refine ⟨((cs.dropWhile isBlank).reverse.takeWhile isBlank).reverse,
      fun b hb => List.mem_takeWhile_imp (List.mem_reverse.1 hb), ?_⟩
    rw [trimChars, trimRight, ← List.reverse_append, List.takeWhile_append_dropWhile,
      List.reverse_reverse]
  refine ⟨⟨cs.takeWhile isBlank, right, fun b hb => List.mem_takeWhile_imp hb, hblanks, ?_⟩,
    fun c hc => ?_, ?_⟩
  · rw [← hright, List.takeWhile_append_dropWhile]
  · refine hnot cs c ?_
    rw [hright, List.head?_append, Option.mem_def.1 hc]
    rfl
  · rw [trimChars, trimRight, List.getLast?_reverse]
    exact hnot _

theorem isTrimmed_iff {cs trimmed : List Char} : IsTrimmed cs trimmed ↔ trimChars cs = trimmed := by
  constructor
  · rintro ⟨⟨left, right, hleft, hright, rfl⟩, hhead, hlast⟩
    have hdrop : (left ++ (trimmed ++ right)).dropWhile isBlank =
        trimmed ++ (if trimmed = [] then [] else right) := by
      rw [List.dropWhile_append_of_pos hleft]
      cases trimmed with
      | nil => simpa [List.dropWhile_eq_nil_iff] using hright
      | cons c trimmed => exact dropWhile_of_head? hhead
    have hback : ∀ b ∈ (if trimmed = [] then [] else right).reverse, isBlank b = true := by
      intro b hb
      split at hb
      · cases hb
      · exact hright b (List.mem_reverse.1 hb)
    rw [trimChars, trimRight, hdrop, List.reverse_append, List.dropWhile_append_of_pos hback,
      dropWhile_of_head? (by rwa [List.head?_reverse]), List.reverse_reverse]
  · rintro rfl
    exact isTrimmed_trimChars cs

/-! ## Searches -/

variable {α : Type} {found : List Char → List Char → Option α}

/-- A search stops at the first place where something is found. -/
theorem seek?_eq_some_iff {passed cs passed' rest : List Char} {a : α} :
    seek? found passed cs = some (passed', rest, a) ↔
      ∃ front, cs = front ++ rest ∧ passed' = front.reverse ++ passed ∧
        found passed' rest = some a ∧
        ∀ front' rest', cs = front' ++ rest' → front'.length < front.length →
          found (front'.reverse ++ passed) rest' = none := by
  induction cs generalizing passed with
  | nil =>
      constructor
      · intro h
        obtain ⟨a, ha, heq⟩ := Option.map_eq_some_iff.1 h
        cases heq
        exact ⟨[], rfl, rfl, ha, fun _ _ _ hlt => absurd hlt (Nat.not_lt_zero _)⟩
      · rintro ⟨front, hfront, rfl, ha, -⟩
        obtain ⟨rfl, rfl⟩ := List.append_eq_nil_iff.1 hfront.symm
        exact Option.map_eq_some_iff.2 ⟨a, ha, rfl⟩
  | cons c cs ih =>
      rw [seek?]
      cases hhere : found passed (c :: cs) with
      | some b =>
          constructor
          · intro h
            cases h
            exact ⟨[], rfl, rfl, hhere, fun _ _ _ hlt => absurd hlt (Nat.not_lt_zero _)⟩
          · rintro ⟨front, hfront, rfl, ha, hleast⟩
            cases front with
            | nil =>
                obtain rfl : c :: cs = rest := hfront
                rw [List.reverse_nil, List.nil_append, hhere] at ha
                rw [← Option.some.inj ha]
                rfl
            | cons d front =>
                have hnone := hleast [] (c :: cs) rfl (Nat.succ_pos _)
                rw [List.reverse_nil, List.nil_append, hhere] at hnone
                cases hnone
      | none =>
          show seek? found (c :: passed) cs = _ ↔ _
          rw [ih]
          constructor
          · rintro ⟨front, rfl, rfl, ha, hleast⟩
            refine ⟨c :: front, rfl, by simp, ha, fun front' rest' hsplit hlt => ?_⟩
            cases front' with
            | nil =>
                obtain rfl : c :: (front ++ rest) = rest' := hsplit
                exact hhere
            | cons d front' =>
                obtain ⟨rfl, hrest⟩ := List.cons.inj hsplit
                have hnone := hleast front' rest' hrest (Nat.lt_of_succ_lt_succ hlt)
                rwa [List.reverse_cons, List.append_assoc]
          · rintro ⟨front, hfront, rfl, ha, hleast⟩
            cases front with
            | nil =>
                obtain rfl : c :: cs = rest := hfront
                rw [List.reverse_nil, List.nil_append, hhere] at ha
                cases ha
            | cons d front =>
                obtain ⟨rfl, rfl⟩ := List.cons.inj hfront
                refine ⟨front, rfl, by simp, ha, fun front' rest' hsplit hlt => ?_⟩
                have hnone := hleast (c :: front') rest' (congrArg (c :: ·) hsplit)
                  (Nat.succ_lt_succ hlt)
                rwa [List.reverse_cons, List.append_assoc] at hnone

theorem seek?_of_eq_some {passed cs : List Char} {a : α} (h : found passed cs = some a) :
    seek? found passed cs = some (passed, cs, a) := by
  cases cs with
  | nil => exact Option.map_eq_some_iff.2 ⟨a, h, rfl⟩
  | cons c cs => simp only [seek?, h]

/-- A search finds something exactly if there is a place where something is found. -/
theorem seek?_isSome_iff {passed cs : List Char} :
    (seek? found passed cs).isSome = true ↔
      ∃ front rest, cs = front ++ rest ∧ (found (front.reverse ++ passed) rest).isSome = true := by
  constructor
  · intro h
    obtain ⟨⟨passed', rest, a⟩, hseek⟩ := Option.isSome_iff_exists.1 h
    obtain ⟨front, hfront, rfl, ha, -⟩ := seek?_eq_some_iff.1 hseek
    exact ⟨front, rest, hfront, Option.isSome_iff_exists.2 ⟨a, ha⟩⟩
  · rintro ⟨front, rest, rfl, hfound⟩
    induction front generalizing passed with
    | nil =>
        obtain ⟨a, ha⟩ := Option.isSome_iff_exists.1 hfound
        exact Option.isSome_iff_exists.2 ⟨_, seek?_of_eq_some ha⟩
    | cons c front ih =>
        rw [List.cons_append, seek?]
        split
        next => rfl
        next =>
            refine ih ?_
            rwa [List.reverse_cons, List.append_assoc] at hfound

/-! ## Bytes -/

theorem byteCount_eq (cs : List Char) : byteCount cs = (String.ofList cs).utf8ByteSize := by
  induction cs with
  | nil => rfl
  | cons c cs ih =>
      rw [byteCount, ih, String.ofList_cons, String.utf8ByteSize_append,
        String.utf8ByteSize_singleton]

theorem byteCount_append (front back : List Char) :
    byteCount (front ++ back) = byteCount front + byteCount back := by
  rw [byteCount_eq, String.ofList_append, String.utf8ByteSize_append, ← byteCount_eq,
    ← byteCount_eq]

theorem cutAt_byteCount (front back : List Char) :
    cutAt (byteCount front) (front ++ back) = (front, back) := by
  induction front with
  | nil =>
      cases back with
      | nil => rfl
      | cons c back =>
          have hpos : ¬ c.utf8Size ≤ 0 := Nat.not_le.2 c.utf8Size_pos
          rw [List.nil_append, byteCount, cutAt, if_neg hpos]
  | cons c front ih =>
      rw [List.cons_append, byteCount, cutAt, if_pos (Nat.le_add_right _ _),
        Nat.add_sub_cancel_left, ih]

/-- Where a stretch of a text starts and ends are places between its characters, and the text with
the stretch replaced is made of what stands in front of it and behind it. -/
theorem splice_eq (front stretch back : List Char) (replacement : String) :
    splice (String.ofList (front ++ stretch ++ back)) (byteCount front)
        (byteCount front + byteCount stretch) replacement =
      String.ofList (front ++ replacement.toList ++ back) := by
  rw [splice, String.toList_ofList, ← byteCount_append, cutAt_byteCount (front ++ stretch),
    List.append_assoc front, cutAt_byteCount front]

theorem isValid_byteCount (front back : List Char) :
    (String.Pos.Raw.mk (byteCount front)).IsValid (String.ofList (front ++ back)) := by
  rw [String.Pos.Raw.isValid_iff_exists_append]
  refine ⟨String.ofList front, String.ofList back, String.ofList_append, ?_⟩
  rw [byteCount_eq]
  rfl

end ScopedViews.Text

import Mathlib.Data.List.Infix
import ScopedViews.Text.Utf8
/-!
# Bytes shown as a text

Bytes are shown character by character, and what is malformed among them is shown as a replacement.
What is written in UTF-8 is shown as it is.  Bytes that are put together are shown one after the
other wherever the second ones do not begin in the middle of a character.

* `character?_eq_some_iff`: a character is read exactly where it is written;
* `lossy_encodeChar_append`, `lossy_malformed`: the two steps of showing;
* `lossy_append`: bytes that are put together;
* `lossy_encode`, `isText_iff`: bytes that are a text;
* `eq_of_lossy_eq_cons`: a character that is shown was written, unless it is the replacement.
-/

namespace ScopedViews.Text

open String (utf8EncodeChar)

variable {bytes front back : Bytes} {c : Char}

/-! ## Writing -/

theorem encode_cons (c : Char) (cs : List Char) :
    encode (c :: cs) = utf8EncodeChar c ++ encode cs := rfl

theorem encode_append (xs ys : List Char) : encode (xs ++ ys) = encode xs ++ encode ys :=
  List.flatMap_append

theorem utf8_append (s t : String) : utf8 (s ++ t) = utf8 s ++ utf8 t := by
  rw [utf8, String.toList_append, encode_append]
  rfl

theorem utf8_ofList (cs : List Char) : utf8 (String.ofList cs) = encode cs := by
  rw [utf8, String.toList_ofList]

theorem encodeChar_ne_nil (c : Char) : utf8EncodeChar c ≠ [] := by
  rw [← List.length_pos_iff, String.length_utf8EncodeChar]
  exact c.utf8Size_pos

theorem isFurther_add {n : Nat} (h : n < 64) : isFurther (UInt8.ofNat (n + 128)) = true := by
  rw [isFurther, Bool.and_eq_true, decide_eq_true_iff, decide_eq_true_iff, UInt8.le_iff_toNat_le,
    UInt8.le_iff_toNat_le, UInt8.toNat_ofNat']
  have hbounds : 128 ≤ (n + 128) % 2 ^ 8 ∧ (n + 128) % 2 ^ 8 ≤ 191 := by omega
  exact hbounds

/-- A character of seven bits is written as one byte of them.  Any other has a first byte that tells
how many follow it, and these say that they do. -/
theorem encodeChar_cases (c : Char) : (∃ b < 0x80, utf8EncodeChar c = [b]) ∨
    ∃ first rest, utf8EncodeChar c = first :: rest ∧ 0xC0 ≤ first ∧
      ∀ b ∈ rest, isFurther b = true := by
  have hfirst {n : Nat} (hn : 192 ≤ n) (hn' : n < 256) : 0xC0 ≤ UInt8.ofNat n := by
    rw [UInt8.le_iff_toNat_le, UInt8.toNat_ofNat', Nat.mod_eq_of_lt hn']
    exact hn
  have hrest (n : Nat) : isFurther (UInt8.ofNat (n % 64 + 128)) = true :=
    isFurther_add (Nat.mod_lt n (by decide))
  rw [utf8EncodeChar]
  generalize c.val.toNat = v
  by_cases hone : v ≤ 127
  · refine Or.inl ⟨UInt8.ofNat v, ?_, if_pos hone⟩
    rw [UInt8.lt_iff_toNat_lt, UInt8.toNat_ofNat', Nat.mod_eq_of_lt (by omega)]
    exact Nat.lt_succ_of_le hone
  · refine Or.inr ?_
    rw [if_neg hone]
    by_cases htwo : v ≤ 2047
    · refine ⟨_, _, if_pos htwo, hfirst (by omega) (by omega), ?_⟩
      exact List.forall_mem_singleton.2 (hrest _)
    · rw [if_neg htwo]
      by_cases hthree : v ≤ 65535
      · refine ⟨_, _, if_pos hthree, hfirst (by omega) (by omega), ?_⟩
        exact List.forall_mem_cons.2 ⟨hrest _, List.forall_mem_singleton.2 (hrest _)⟩
      · refine ⟨_, _, if_neg hthree, hfirst (by omega) (by omega), ?_⟩
        exact List.forall_mem_cons.2
          ⟨hrest _, List.forall_mem_cons.2 ⟨hrest _, List.forall_mem_singleton.2 (hrest _)⟩⟩

/-- A byte of seven bits is written for no other character than the one that it is. -/
theorem encodeChar_eq_of_mem {b : UInt8} (hb : b ∈ utf8EncodeChar c) (hsmall : b < 0x80) :
    utf8EncodeChar c = [b] := by
  rcases encodeChar_cases c with ⟨d, -, hd⟩ | ⟨first, rest, hshape, hfirst, hrest⟩
  · rw [hd, List.mem_singleton] at hb
    rw [hd, hb]
  · rw [hshape] at hb
    have hlarge : 0x80 ≤ b := by
      rcases List.mem_cons.1 hb with rfl | hb
      · exact UInt8.le_trans (by decide) hfirst
      · have hb := hrest b hb
        rw [isFurther, Bool.and_eq_true, decide_eq_true_iff] at hb
        exact hb.1
    exact absurd hsmall (UInt8.not_lt.2 hlarge)

/-- What stands behind the first byte of a character says that it does, and the first one does
not. -/
theorem encodeChar_shape (c : Char) : ∃ first rest, utf8EncodeChar c = first :: rest ∧
    isFurther first = false ∧ ∀ b ∈ rest, isFurther b = true := by
  have hnot {b : UInt8} (hb : b < 0x80 ∨ 0xC0 ≤ b) : isFurther b = false := by
    rw [isFurther, Bool.and_eq_false_iff, decide_eq_false_iff_not, decide_eq_false_iff_not,
      UInt8.not_le, UInt8.not_le]
    exact hb.imp_right fun hb => UInt8.lt_of_lt_of_le (by decide) hb
  rcases encodeChar_cases c with ⟨b, hb, heq⟩ | ⟨first, rest, heq, hfirst, hrest⟩
  · exact ⟨b, [], heq, hnot (Or.inl hb), by simp⟩
  · exact ⟨first, rest, heq, hnot (Or.inr hfirst), hrest⟩

/-! ## Reading a character -/

/-- A character is read exactly where it is written. -/
theorem character?_eq_some_iff : character? bytes = some c ↔ utf8EncodeChar c <+: bytes := by
  constructor
  · intro h
    have hdata := congrArg (·.data.toList) (ByteArray.eq_of_utf8DecodeChar?_eq_some h)
    simp only [ByteArray.toList_data_append, List.data_toByteArray] at hdata
    exact (List.prefix_append _ _).trans (hdata ▸ List.take_prefix 4 bytes)
  · rintro ⟨rest, rfl⟩
    have hsize : (utf8EncodeChar c).length ≤ 4 := by
      rw [String.length_utf8EncodeChar]
      exact c.utf8Size_le_four
    rw [character?, List.take_append, List.take_of_length_le hsize, List.toByteArray_append]
    exact ByteArray.utf8DecodeChar?_utf8EncodeChar_append

theorem encodeChar_injective : Function.Injective utf8EncodeChar := by
  intro c d h
  have hc : character? (utf8EncodeChar c) = some c :=
    character?_eq_some_iff.2 (List.prefix_refl _)
  have hd : character? (utf8EncodeChar c) = some d :=
    character?_eq_some_iff.2 (h ▸ List.prefix_refl _)
  exact Option.some.inj (hc.symm.trans hd)

/-! ## Sizes -/

/-- The second byte of a character is one of those that stand behind a first one. -/
theorem second_bounds {first low high : UInt8} {more : Nat}
    (h : followers? first = some (some (low, high, more))) : 0x80 ≤ low ∧ high ≤ 0xBF := by
  unfold followers? at h
  repeat' split at h
  all_goals cases h
  all_goals decide

/-- Bytes that do not begin in the middle of a character. -/
def StartsAnew (bytes : Bytes) : Prop := ∀ b ∈ bytes.head?, isFurther b = false

theorem startsAnew_cons {b : UInt8} (h : isFurther b = false) (bytes : Bytes) :
    StartsAnew (b :: bytes) := by
  intro d hd
  rw [← Option.some.inj hd]
  exact h

theorem startsAnew_encode (cs : List Char) : StartsAnew (encode cs) := by
  cases cs with
  | nil => nofun
  | cons c cs =>
      obtain ⟨first, rest, hshape, hfirst, -⟩ := encodeChar_shape c
      rw [encode_cons, hshape]
      exact startsAnew_cons hfirst _

theorem readCount_further_le (n size : Nat) (bytes : Bytes) :
    size ≤ readCount (size + bytes.length) (further n size bytes) ∧
      readCount (size + bytes.length) (further n size bytes) ≤ size + bytes.length := by
  induction n generalizing size bytes with
  | zero => exact ⟨Nat.le_refl size, Nat.le_add_right size _⟩
  | succ n ih =>
      cases bytes with
      | nil => exact ⟨Nat.le_refl size, Nat.le_refl size⟩
      | cons b rest =>
          rw [further, List.length_cons, ← Nat.add_assoc, Nat.add_right_comm]
          by_cases hb : isFurther b = true
          · rw [if_pos hb]
            exact (ih (size + 1) rest).imp_left Nat.le_of_succ_le
          · rw [if_neg hb]
            exact ⟨Nat.le_refl size, Nat.le_add_right_of_le (Nat.le_succ size)⟩

theorem readCount_further_append (hback : StartsAnew back) (n size : Nat) (front : Bytes) :
    readCount (size + (front ++ back).length) (further n size (front ++ back)) =
      readCount (size + front.length) (further n size front) := by
  induction n generalizing size front with
  | zero => rfl
  | succ n ih =>
      cases front with
      | nil =>
          -- the character is cut short, by the end or by the byte that comes next
          cases back with
          | nil => rfl
          | cons b back =>
              rw [List.nil_append, further.eq_3, hback b rfl]
              rfl
      | cons b rest =>
          rw [List.cons_append, further, further, List.length_cons, List.length_cons,
            ← Nat.add_assoc, ← Nat.add_assoc, Nat.add_right_comm size (rest ++ back).length,
            Nat.add_right_comm size rest.length]
          by_cases hb : isFurther b = true
          · rw [if_pos hb, if_pos hb, ih]
          · rw [if_neg hb, if_neg hb]
            rfl

theorem headSize_singleton (b : UInt8) : headSize [b] = 1 := by
  rw [headSize, characterSize]
  match followers? b with
  | none => rfl
  | some none => rfl
  | some (some _) => rfl

/-- Behind a first byte that wants others, either the second one is none of them or all are counted
that can be. -/
theorem headSize_cons_cons (b second : UInt8) : (∀ rest, headSize (b :: second :: rest) = 1) ∨
    isFurther second = true ∧ ∃ more, ∀ rest,
      headSize (b :: second :: rest) = readCount (2 + rest.length) (further more 2 rest) := by
  have heq (rest : Bytes) : headSize (b :: second :: rest) =
      readCount (2 + rest.length) (characterSize (b :: second :: rest)) := by
    rw [headSize, List.length_cons, List.length_cons, Nat.add_comm 2]
  simp only [heq, characterSize]
  match hfollowers : followers? b with
  | none => exact Or.inl fun _ => rfl
  | some none => exact Or.inl fun _ => rfl
  | some (some (low, high, more)) =>
      dsimp only
      by_cases hsecond : (low ≤ second && second ≤ high) = true
      · simp only [if_pos hsecond]
        refine Or.inr ⟨?_, more, fun _ => rfl⟩
        obtain ⟨hlow, hhigh⟩ := second_bounds hfollowers
        simp only [Bool.and_eq_true, decide_eq_true_iff] at hsecond
        simp only [isFurther, Bool.and_eq_true, decide_eq_true_iff]
        exact ⟨UInt8.le_trans hlow hsecond.1, UInt8.le_trans hsecond.2 hhigh⟩
      · simp only [if_neg hsecond]
        exact Or.inl fun _ => rfl

theorem headSize_bounds (b : UInt8) (bytes : Bytes) :
    1 ≤ headSize (b :: bytes) ∧ headSize (b :: bytes) ≤ (b :: bytes).length := by
  cases bytes with
  | nil =>
      rw [headSize_singleton]
      exact ⟨Nat.le_refl 1, Nat.le_refl 1⟩
  | cons second rest =>
      rw [List.length_cons, List.length_cons]
      rcases headSize_cons_cons b second with hone | ⟨-, more, hmore⟩
      · rw [hone]
        omega
      · have hfurther := readCount_further_le more 2 rest
        rw [hmore]
        omega

/-- What is read at once is not told by bytes behind it that begin a character. -/
theorem headSize_append (hback : StartsAnew back) (hfront : front ≠ []) :
    headSize (front ++ back) = headSize front := by
  obtain ⟨b, rest, rfl⟩ := List.exists_cons_of_ne_nil hfront
  rw [List.cons_append]
  cases rest with
  | nil =>
      rw [headSize_singleton]
      cases back with
      | nil => exact headSize_singleton b
      | cons second rest =>
          rcases headSize_cons_cons b second with hone | ⟨hfurther, -⟩
          · exact hone rest
          · rw [hback second rfl] at hfurther
            cases hfurther
  | cons second rest =>
      rw [List.cons_append]
      rcases headSize_cons_cons b second with hone | ⟨-, more, hmore⟩
      · rw [hone, hone]
      · rw [hmore, hmore, readCount_further_append hback]

/-! ## Showing -/

theorem charactersAfter_eq (n : Nat) (bytes : Bytes) :
    charactersAfter n bytes = lossy (bytes.drop n) := by
  induction bytes generalizing n with
  | nil => cases n <;> rfl
  | cons b rest ih =>
      cases n with
      | zero => rfl
      | succ n => exact ih n

/-- What is written in front is shown in front. -/
theorem lossy_encodeChar_append (c : Char) (rest : Bytes) :
    lossy (utf8EncodeChar c ++ rest) = c :: lossy rest := by
  obtain ⟨b, more, hcons⟩ := List.exists_cons_of_ne_nil
    (List.append_ne_nil_of_left_ne_nil (encodeChar_ne_nil c) rest)
  have hread : character? (b :: more) = some c :=
    character?_eq_some_iff.2 (hcons ▸ List.prefix_append _ rest)
  have hdrop : more.drop (c.utf8Size - 1) = rest := by
    have hdrop : (b :: more).drop c.utf8Size = rest := by
      rw [← hcons, ← String.length_utf8EncodeChar, List.drop_left]
    rwa [← Nat.sub_add_cancel c.utf8Size_pos, List.drop_succ_cons] at hdrop
  rw [hcons, lossy, charactersAfter, hread]
  exact congrArg (c :: ·) ((charactersAfter_eq _ _).trans (congrArg lossy hdrop))

/-- Bytes that begin with no character are shown as a replacement and what is not read with them. -/
theorem lossy_malformed (hne : bytes ≠ []) (hnone : character? bytes = none) :
    lossy bytes = replacement :: lossy (bytes.drop (headSize bytes)) := by
  obtain ⟨b, rest, rfl⟩ := List.exists_cons_of_ne_nil hne
  have hdrop : (b :: rest).drop (headSize (b :: rest)) = rest.drop (headSize (b :: rest) - 1) := by
    rw [← Nat.sub_add_cancel (headSize_bounds b rest).1, List.drop_succ_cons, Nat.add_sub_cancel]
  rw [lossy, charactersAfter, hnone, hdrop]
  exact congrArg (replacement :: ·) (charactersAfter_eq _ _)

/-- How bytes are shown, step by step: nothing is left, a character is written in front, or
something else is. -/
@[elab_as_elim]
theorem shown_induction {motive : Bytes → Prop} (nil : motive [])
    (character : ∀ c rest, motive rest → motive (utf8EncodeChar c ++ rest))
    (malformed : ∀ bytes, bytes ≠ [] → character? bytes = none →
      motive (bytes.drop (headSize bytes)) → motive bytes) (bytes : Bytes) : motive bytes := by
  induction hlength : bytes.length using Nat.strongRecOn generalizing bytes with
  | ind length ih =>
      subst hlength
      by_cases hne : bytes = []
      · exact hne ▸ nil
      · cases hread : character? bytes with
        | some c =>
            obtain ⟨rest, rfl⟩ := character?_eq_some_iff.1 hread
            refine character c rest (ih _ ?_ rest rfl)
            have hpos := List.length_pos_of_ne_nil (encodeChar_ne_nil c)
            rw [List.length_append]
            omega
        | none =>
            refine malformed bytes hne hread (ih _ ?_ _ rfl)
            obtain ⟨b, rest, rfl⟩ := List.exists_cons_of_ne_nil hne
            have hbounds := headSize_bounds b rest
            rw [List.length_drop]
            omega

/-- No character begins in the first bytes and ends in the second ones. -/
theorem character?_append (hback : StartsAnew back) (hfront : front ≠ [])
    (hnone : character? front = none) : character? (front ++ back) = none := by
  rw [← Option.not_isSome_iff_eq_none, Option.isSome_iff_exists]
  rintro ⟨c, hread⟩
  have hc := character?_eq_some_iff.1 hread
  have hnot : ¬ utf8EncodeChar c <+: front := fun h => by
    rw [character?_eq_some_iff.2 h] at hnone
    cases hnone
  -- otherwise a byte inside the character would be one that begins a character
  rcases List.prefix_or_prefix_of_prefix hc (List.prefix_append front back) with h | ⟨inside, h⟩
  · exact hnot h
  · obtain ⟨b, rest, rfl⟩ := List.exists_cons_of_ne_nil hfront
    obtain ⟨first, more, hshape, -, hmore⟩ := encodeChar_shape c
    cases inside with
    | nil => exact hnot (by rw [← h, List.append_nil])
    | cons d inside =>
        rw [← h, List.cons_append, List.cons_append, List.cons_prefix_cons,
          List.prefix_append_right_inj] at hc
        obtain ⟨tail, rfl⟩ := hc.2
        have hd : isFurther d = true := by
          rw [hshape, List.cons_append, List.cons.injEq] at h
          exact hmore d (h.2 ▸ List.mem_append_right rest List.mem_cons_self)
        rw [hback d rfl] at hd
        cases hd

/-- Bytes that are put together are shown one after the other, if the second ones do not begin in
the middle of a character. -/
theorem lossy_append (hback : StartsAnew back) (front : Bytes) :
    lossy (front ++ back) = lossy front ++ lossy back := by
  induction front using shown_induction with
  | nil => rfl
  | character c rest ih =>
      rw [List.append_assoc, lossy_encodeChar_append, lossy_encodeChar_append, ih, List.cons_append]
  | malformed front hne hnone ih =>
      have hbounds : headSize front ≤ front.length := by
        obtain ⟨b, rest, rfl⟩ := List.exists_cons_of_ne_nil hne
        exact (headSize_bounds b rest).2
      rw [lossy_malformed hne hnone,
        lossy_malformed (List.append_ne_nil_of_left_ne_nil hne back)
          (character?_append hback hne hnone),
        headSize_append hback hne, List.drop_append_of_le_length hbounds, ih, List.cons_append]

/-! ## Texts -/

/-- What is written is shown. -/
theorem lossy_encode (cs : List Char) : lossy (encode cs) = cs := by
  induction cs with
  | nil => rfl
  | cons c cs ih => rw [encode_cons, lossy_encodeChar_append, ih]

theorem lossy_utf8 (s : String) : lossy (utf8 s) = s.toList := lossy_encode s.toList

/-- A text is shown behind whatever is shown in front of it. -/
theorem lossy_append_utf8 (front : Bytes) (s : String) :
    lossy (front ++ utf8 s) = lossy front ++ s.toList := by
  have hback : StartsAnew (utf8 s) := startsAnew_encode s.toList
  rw [lossy_append hback, lossy_utf8]

theorem decodeLossy_utf8 (s : String) : decodeLossy (utf8 s) = s := by
  rw [decodeLossy, lossy_utf8, String.ofList_toList]

theorem encode_injective : Function.Injective encode :=
  Function.LeftInverse.injective lossy_encode

theorem utf8_injective : Function.Injective utf8 :=
  Function.LeftInverse.injective decodeLossy_utf8

/-- Bytes that are a text as it is written. -/
def IsText (bytes : Bytes) : Prop := ∃ s, utf8 s = bytes

/-- Bytes are a text exactly if nothing is replaced when they are shown. -/
theorem isText_iff : IsText bytes ↔ encode (lossy bytes) = bytes := by
  constructor
  · rintro ⟨s, rfl⟩
    rw [lossy_utf8, utf8]
  · intro h
    exact ⟨decodeLossy bytes, by rw [decodeLossy, utf8_ofList, h]⟩

/-! ## What was written -/

theorem lossy_eq_nil_iff : lossy bytes = [] ↔ bytes = [] := by
  induction bytes using shown_induction with
  | nil => simp [lossy, charactersAfter]
  | character c rest => simp [lossy_encodeChar_append]
  | malformed bytes hne hnone => simp [lossy_malformed hne hnone, hne]

/-- A character that is shown was written there, unless it is the replacement. -/
theorem eq_of_lossy_eq_cons {cs : List Char} (h : lossy bytes = c :: cs) (hc : c ≠ replacement) :
    ∃ rest, bytes = utf8EncodeChar c ++ rest ∧ lossy rest = cs := by
  cases bytes using shown_induction with
  | nil => cases h
  | character d rest =>
      rw [lossy_encodeChar_append, List.cons.injEq] at h
      exact ⟨rest, by rw [h.1], h.2⟩
  | malformed bytes hne hnone =>
      rw [lossy_malformed hne hnone, List.cons.injEq] at h
      exact absurd h.1.symm hc

theorem subset_of_mem_lossy (h : c ∈ lossy bytes) (hc : c ≠ replacement) :
    utf8EncodeChar c ⊆ bytes := by
  induction bytes using shown_induction with
  | nil => cases h
  | character d rest ih =>
      rw [lossy_encodeChar_append] at h
      rcases List.mem_cons.1 h with rfl | h
      · exact List.subset_append_left _ rest
      · exact List.subset_append_of_subset_right _ (ih h)
  | malformed bytes hne hnone ih =>
      rw [lossy_malformed hne hnone] at h
      rcases List.mem_cons.1 h with rfl | h
      · exact absurd rfl hc
      · exact List.Subset.trans (ih h) (List.drop_subset _ bytes)

/-- A byte of seven bits is written for its character alone. -/
theorem mem_encode_iff {b : UInt8} {cs : List Char} (hc : utf8EncodeChar c = [b]) (hb : b < 0x80) :
    b ∈ encode cs ↔ c ∈ cs := by
  rw [encode, List.mem_flatMap]
  constructor
  · rintro ⟨d, hd, hmem⟩
    have hsame : c = d := encodeChar_injective (hc.trans (encodeChar_eq_of_mem hmem hb).symm)
    exact hsame ▸ hd
  · intro h
    exact ⟨c, h, hc ▸ List.mem_singleton_self b⟩

end ScopedViews.Text

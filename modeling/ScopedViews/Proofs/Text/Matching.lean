import Mathlib.Data.List.Infix
import ScopedViews.Text.Find
import ScopedViews.Text.Pattern
/-!
# Matches in a text

Facts about the matchers that read a text from left to right:

* `after?` reads exactly what it is told to, and `contains` asks for it anywhere;
* `seek?` for a fixed part stops at its first occurrence, which `upTo?` describes;
* `erase` is described by the pieces of a text, `pieces`: characters that stay and stretches that
  go.

The last section says when a text that is appended changes nothing in front of it.
-/

namespace ScopedViews.Text

/-! ## Reading a fixed part -/

theorem after?_eq_some_iff {part cs rest : List Char} :
    after? part cs = some rest ↔ cs = part ++ rest := by
  induction part generalizing cs with
  | nil => simp [after?]
  | cons p part ih =>
      cases cs with
      | nil => simp [after?]
      | cons c cs =>
          by_cases hpc : p = c
          · simp [after?, hpc, ih]
          · simp [after?, hpc, Ne.symm hpc]

theorem after?_eq_none_iff {part cs : List Char} :
    after? part cs = none ↔ ¬ part <+: cs := by
  rw [Option.eq_none_iff_forall_not_mem]
  constructor
  · rintro hnone ⟨rest, hrest⟩
    exact hnone rest (after?_eq_some_iff.2 hrest.symm)
  · intro hpre rest hrest
    exact hpre ⟨rest, (after?_eq_some_iff.1 hrest).symm⟩

@[simp] theorem after?_append_self (part rest : List Char) :
    after? part (part ++ rest) = some rest :=
  after?_eq_some_iff.2 rfl

theorem find?_isSome_iff {needle hay : List Char} :
    (find? needle hay).isSome = true ↔ needle <:+: hay := by
  induction hay with
  | nil =>
      cases needle with
      | nil => simp [find?]
      | cons n needle => simp [find?]
  | cons c rest ih =>
      rw [find?]
      by_cases hpre : needle.isPrefixOf (c :: rest) = true
      · simp only [hpre, if_true, Option.isSome_some, true_iff]
        exact (List.isPrefixOf_iff_prefix.1 hpre).isInfix
      · have hpre' : ¬ needle <+: c :: rest := fun h => hpre (List.isPrefixOf_iff_prefix.2 h)
        simp only [hpre, if_false, Bool.false_eq_true, Option.isSome_map, ih]
        rw [List.infix_cons_iff]
        simp [hpre']

/-- What a text does not contain starts nowhere in it. -/
theorem after?_of_not_contains {hay needle : String} (h : contains hay needle = false)
    {cs : List Char} (hcs : cs <:+ hay.toList) : after? needle.toList cs = none := by
  rw [after?_eq_none_iff]
  intro hpre
  have hin : (find? needle.toList hay.toList).isSome = true :=
    find?_isSome_iff.2 (hpre.isInfix.trans hcs.isInfix)
  rw [contains, hin] at h
  contradiction

/-! ## The first occurrence of a part -/

/-- The text in front of the first occurrence of `part`, and the text behind it. -/
def upTo? (part : List Char) : List Char → Option (List Char × List Char)
  | [] => (after? part []).map ([], ·)
  | c :: cs =>
    match after? part (c :: cs) with
    | some rest => some ([], rest)
    | none => (upTo? part cs).map fun (inner, rest) => (c :: inner, rest)

theorem seek?_after? (part passed cs : List Char) :
    seek? (fun _ cs => after? part cs) passed cs =
      (upTo? part cs).map fun (inner, rest) =>
        (inner.reverse ++ passed, part ++ rest, rest) := by
  induction cs generalizing passed with
  | nil =>
      cases hpart : after? part [] with
      | none => simp [seek?, upTo?, hpart]
      | some rest =>
          have hnil := after?_eq_some_iff.1 hpart
          simp [seek?, upTo?, hpart, ← hnil]
  | cons c cs ih =>
      cases hpart : after? part (c :: cs) with
      | none =>
          simp only [seek?, upTo?, hpart, ih, Option.map_map]
          congr 1
          funext found
          simp
      | some rest =>
          simp [seek?, upTo?, after?_eq_some_iff.1 hpart]

theorem eq_of_upTo?_eq_some {part cs inner rest : List Char}
    (h : upTo? part cs = some (inner, rest)) : cs = inner ++ part ++ rest := by
  induction cs generalizing inner with
  | nil =>
      obtain ⟨rest', hrest, hpair⟩ := Option.map_eq_some_iff.1 h
      cases hpair
      simpa using after?_eq_some_iff.1 hrest
  | cons c cs ih =>
      rw [upTo?] at h
      split at h
      next rest' hrest =>
          cases h
          simpa using after?_eq_some_iff.1 hrest
      next =>
          obtain ⟨⟨inner', rest'⟩, hfound, hpair⟩ := Option.map_eq_some_iff.1 h
          cases hpair
          simp [ih hfound]

theorem upTo?_isSome_iff {part cs : List Char} :
    (upTo? part cs).isSome = true ↔ part <:+: cs := by
  induction cs with
  | nil =>
      cases part with
      | nil => simp [upTo?, after?]
      | cons p part => simp [upTo?, after?]
  | cons c cs ih =>
      rw [upTo?, List.infix_cons_iff]
      cases hpart : after? part (c :: cs) with
      | none => simp [ih, after?_eq_none_iff.1 hpart]
      | some rest => simp [after?_eq_some_iff.1 hpart]

/-! ## What goes and what stays -/

/-- A character that stays, or a stretch of text that goes. -/
inductive Piece where
  | stays (c : Char)
  | goes (cs : List Char)
deriving DecidableEq, Repr

/-- What is left of a piece. -/
def Piece.left : Piece → List Char
  | .stays c => [c]
  | .goes _ => []

/-- The pieces of a text, cut the way `eraseFrom` goes through it. -/
def piecesFrom (size? : List Char → Option Nat) : Nat → List Char → List Piece
  | _, [] => []
  | skip + 1, _ :: cs => piecesFrom size? skip cs
  | 0, c :: cs =>
    match size? (c :: cs) with
    | some more => .goes (c :: cs.take more) :: piecesFrom size? more cs
    | none => .stays c :: piecesFrom size? 0 cs

/-- The pieces of a text: the matches in it go, taken from the left without overlap. -/
def pieces (rest? : List Char → Option (List Char)) (cs : List Char) : List Piece :=
  piecesFrom (fun cs => (rest? cs).map fun rest => cs.length - rest.length - 1) 0 cs

theorem left_piecesFrom (size? : List Char → Option Nat) (skip : Nat) (cs : List Char) :
    (piecesFrom size? skip cs).flatMap Piece.left = eraseFrom size? skip cs := by
  fun_induction eraseFrom size? skip cs with
  | case1 => simp [piecesFrom]
  | case2 skip c cs ih => simpa [piecesFrom] using ih
  | case3 c cs more hmore ih => simpa [piecesFrom, hmore, Piece.left] using ih
  | case4 c cs hnone ih => simpa [piecesFrom, hnone, Piece.left] using ih

/-- A text without its matches is what is left of its pieces. -/
theorem left_pieces (rest? : List Char → Option (List Char)) (cs : List Char) :
    (pieces rest? cs).flatMap Piece.left = erase rest? cs :=
  left_piecesFrom _ 0 cs

theorem piecesFrom_drop (size? : List Char → Option Nat) (skip : Nat) (cs : List Char) :
    piecesFrom size? skip cs = piecesFrom size? 0 (cs.drop skip) := by
  induction skip generalizing cs with
  | zero => simp
  | succ skip ih =>
      cases cs with
      | nil => simp [piecesFrom]
      | cons c cs => simpa [piecesFrom] using ih cs

@[simp] theorem pieces_nil (rest? : List Char → Option (List Char)) : pieces rest? [] = [] := by
  simp [pieces, piecesFrom]

theorem pieces_of_none {rest? : List Char → Option (List Char)} {c : Char} {cs : List Char}
    (h : rest? (c :: cs) = none) : pieces rest? (c :: cs) = .stays c :: pieces rest? cs := by
  simp [pieces, piecesFrom, h]

/-- A match that is not empty goes as a whole. -/
theorem pieces_of_some {rest? : List Char → Option (List Char)} {front rest : List Char}
    (hfront : front ≠ []) (h : rest? (front ++ rest) = some rest) :
    pieces rest? (front ++ rest) = .goes front :: pieces rest? rest := by
  obtain ⟨c, front, rfl⟩ := List.exists_cons_of_ne_nil hfront
  have hsize : (c :: (front ++ rest)).length - rest.length - 1 = front.length := by
    simp only [List.length_cons, List.length_append]
    omega
  rw [List.cons_append] at h ⊢
  simp only [pieces, piecesFrom, h, Option.map_some, hsize]
  rw [piecesFrom_drop]
  simp

/-- A matcher whose matches are not empty. -/
def Shortens (rest? : List Char → Option (List Char)) : Prop :=
  ∀ cs rest, rest? cs = some rest → ∃ used, used ≠ [] ∧ cs = used ++ rest

/-- A front part stays whole exactly if no match starts in it. -/
theorem pieces_append_eq_iff {rest? : List Char → Option (List Char)} (hshortens : Shortens rest?)
    {front back : List Char} {ps : List Piece} :
    pieces rest? (front ++ back) = front.map .stays ++ ps ↔
      (∀ cs, cs <:+ front → cs ≠ [] → rest? (cs ++ back) = none) ∧ pieces rest? back = ps := by
  induction front with
  | nil =>
      constructor
      · intro h
        refine ⟨fun cs hcs hne => absurd (List.suffix_nil.1 hcs) hne, by simpa using h⟩
      · rintro ⟨-, h⟩
        simpa using h
  | cons c front ih =>
      cases hc : rest? (c :: (front ++ back)) with
      | none =>
          rw [List.cons_append, pieces_of_none hc, List.map_cons, List.cons_append,
            List.cons.injEq, ih]
          constructor
          · rintro ⟨-, hnone, hback⟩
            refine ⟨fun cs hcs hne => ?_, hback⟩
            rcases List.suffix_cons_iff.1 hcs with rfl | hcs
            · simpa using hc
            · exact hnone cs hcs hne
          · rintro ⟨hnone, hback⟩
            refine ⟨rfl, fun cs hcs hne => ?_, hback⟩
            exact hnone cs (hcs.trans (List.suffix_cons c front)) hne
      | some rest =>
          obtain ⟨used, hused, hcs⟩ := hshortens _ _ hc
          rw [List.cons_append, hcs, pieces_of_some hused (hcs ▸ hc)]
          constructor
          · intro h
            simp at h
          · rintro ⟨hnone, -⟩
            have := hnone (c :: front) List.suffix_rfl (by simp)
            rw [List.cons_append, hc] at this
            contradiction

/-- A text in which nothing matches stays as it is. -/
theorem erase_of_none {rest? : List Char → Option (List Char)} {cs : List Char}
    (h : ∀ back, back <:+ cs → rest? back = none) : erase rest? cs = cs := by
  rw [← left_pieces]
  induction cs with
  | nil => simp
  | cons c cs ih =>
      rw [pieces_of_none (h _ List.suffix_rfl)]
      have htail := ih fun back hback => h back (hback.trans (List.suffix_cons c cs))
      simpa [Piece.left] using htail

/-- What is left of a text is in the order in which it was. -/
theorem erase_sublist (rest? : List Char → Option (List Char)) (cs : List Char) :
    (erase rest? cs).Sublist cs := by
  have hfrom (size? : List Char → Option Nat) (skip : Nat) (cs : List Char) :
      (eraseFrom size? skip cs).Sublist cs := by
    fun_induction eraseFrom size? skip cs with
    | case1 => exact List.nil_sublist _
    | case2 skip c cs ih => exact ih.cons c
    | case3 c cs more hmore ih => exact ih.cons c
    | case4 c cs hnone ih => exact ih.cons_cons c
  exact hfrom _ 0 cs

/-- A text stays as it is exactly if nothing in it matches. -/
theorem erase_eq_self_iff {rest? : List Char → Option (List Char)} (hshortens : Shortens rest?)
    {cs : List Char} : erase rest? cs = cs ↔ ∀ back, back <:+ cs → rest? back = none := by
  refine ⟨fun h => ?_, erase_of_none⟩
  have hempty : rest? [] = none := by
    rw [Option.eq_none_iff_forall_not_mem]
    intro rest hrest
    obtain ⟨used, hused, hsplit⟩ := hshortens [] rest hrest
    exact hused (List.append_eq_nil_iff.1 hsplit.symm).1
  induction cs with
  | nil =>
      intro back hback
      rw [List.suffix_nil.1 hback]
      exact hempty
  | cons c cs ih =>
      cases hc : rest? (c :: cs) with
      | none =>
          have htail : erase rest? cs = cs := by
            rw [← left_pieces, pieces_of_none hc, List.flatMap_cons, left_pieces] at h
            exact (List.cons.inj h).2
          intro back hback
          rcases List.suffix_cons_iff.1 hback with rfl | hback
          · exact hc
          · exact ih htail back hback
      | some rest =>
          -- something goes, so that what is left is shorter
          obtain ⟨used, hused, hsplit⟩ := hshortens _ _ hc
          have hshorter : erase rest? (used ++ rest) = erase rest? rest := by
            rw [← left_pieces, pieces_of_some hused (hsplit ▸ hc), List.flatMap_cons, left_pieces]
            rfl
          have hle := (erase_sublist rest? rest).length_le
          have hpos := List.length_pos_iff.2 hused
          rw [← hshorter, ← hsplit, h, hsplit, List.length_append] at hle
          omega

/-! ## Appended texts -/

/-- A part is read the same way in front of a text that none of its ends begins. -/
theorem after?_append {part back : List Char}
    (h : ∀ ending, ending <:+ part → ending ≠ [] → after? ending back = none) (cs : List Char) :
    after? part (cs ++ back) = (after? part cs).map (· ++ back) := by
  induction part generalizing cs with
  | nil => simp [after?]
  | cons p part ih =>
      cases cs with
      | nil => simpa [after?] using h (p :: part) List.suffix_rfl (by simp)
      | cons c cs =>
          by_cases hpc : p = c
          · have htail := ih fun ending hending =>
              h ending (hending.trans (List.suffix_cons p part))
            simpa [after?, hpc] using htail cs
          · simp [after?, hpc]

theorem afterWord?_append {word back : List Char}
    (h : ∀ ending, ending <:+ word → ending ≠ [] → afterWord? ending back = none)
    (cs : List Char) :
    afterWord? word (cs ++ back) = (afterWord? word cs).map (· ++ back) := by
  induction word generalizing cs with
  | nil => simp [afterWord?]
  | cons p word ih =>
      cases cs with
      | nil => simpa [afterWord?] using h (p :: word) List.suffix_rfl (by simp)
      | cons c cs =>
          by_cases hpc : foldsTo p c = true
          · have htail := ih fun ending hending =>
              h ending (hending.trans (List.suffix_cons p word))
            simpa [afterWord?, hpc] using htail cs
          · simp [afterWord?, hpc]

/-- A part with a character that a text lacks starts nowhere in it. -/
theorem after?_of_mem {part cs : List Char} {c : Char} (hpart : c ∈ part) (hcs : c ∉ cs) :
    after? part cs = none := by
  rw [after?_eq_none_iff]
  rintro ⟨rest, rfl⟩
  exact hcs (List.mem_append_left rest hpart)

/-- A part whose last character a text lacks is read the same way in front of it. -/
theorem after?_append_of_not_mem {part back : List Char} (last : Char)
    (hlast : part.getLast? = some last) (hback : last ∉ back) (cs : List Char) :
    after? part (cs ++ back) = (after? part cs).map (· ++ back) := by
  refine after?_append (fun ending hending hne => ?_) cs
  have hmem : last ∈ ending := by
    obtain ⟨front, rfl⟩ := hending
    rw [List.getLast?_append_of_ne_nil _ hne] at hlast
    exact List.mem_of_getLast? hlast
  exact after?_of_mem hmem hback

theorem upTo?_append_of_not_mem {part back : List Char} (last : Char)
    (hlast : part.getLast? = some last) (hback : last ∉ back) (cs : List Char) :
    upTo? part (cs ++ back) = (upTo? part cs).map fun (inner, rest) => (inner, rest ++ back) := by
  have hread := after?_append_of_not_mem last hlast hback
  induction cs with
  | nil =>
      have hne : after? part [] = none := by
        cases part with
        | nil => simp at hlast
        | cons p part => rfl
      have hnone : upTo? part back = none := by
        rw [← Option.not_isSome_iff_eq_none, upTo?_isSome_iff]
        intro hin
        exact hback (hin.subset (List.mem_of_getLast? hlast))
      simp [upTo?, hne, hnone]
  | cons c cs ih =>
      rw [List.cons_append, upTo?, ← List.cons_append, hread, upTo?]
      cases after? part (c :: cs) with
      | none => simp [ih, Function.comp_def]
      | some rest => simp

/-- A text falls into the pieces of its two parts if matches in the first part are the same with
and without the second one behind it. -/
theorem pieces_append {rest? : List Char → Option (List Char)} (hshortens : Shortens rest?)
    {front back : List Char}
    (hlocal : ∀ cs, cs <:+ front → cs ≠ [] → rest? (cs ++ back) = (rest? cs).map (· ++ back)) :
    pieces rest? (front ++ back) = pieces rest? front ++ pieces rest? back := by
  -- a match can be of any length, so that the induction is on the length of the text
  induction hlen : front.length using Nat.strong_induction_on generalizing front with
  | _ n ih =>
      subst hlen
      cases front with
      | nil => simp
      | cons c front =>
          have hhead := hlocal (c :: front) List.suffix_rfl (by simp)
          cases hc : rest? (c :: front) with
          | none =>
              have hnone : rest? (c :: (front ++ back)) = none := by simpa [hc] using hhead
              have htail : pieces rest? (front ++ back) = pieces rest? front ++ pieces rest? back :=
                ih front.length (by simp)
                  (fun cs hcs hne => hlocal cs (hcs.trans (List.suffix_cons c front)) hne) rfl
              rw [List.cons_append, pieces_of_none hnone, pieces_of_none hc, htail]
              rfl
          | some rest =>
              obtain ⟨used, hused, hsplit⟩ := hshortens _ _ hc
              rw [hsplit] at hc hhead
              have hsome : rest? (used ++ (rest ++ back)) = some (rest ++ back) := by
                simpa [hc] using hhead
              have hshort : rest.length < (c :: front).length := by
                rw [hsplit, List.length_append]
                have := List.length_pos_iff.2 hused
                omega
              have hrest : rest <:+ c :: front := hsplit ▸ List.suffix_append used rest
              have htail : pieces rest? (rest ++ back) = pieces rest? rest ++ pieces rest? back :=
                ih rest.length hshort (fun cs hcs hne => hlocal cs (hcs.trans hrest) hne) rfl
              rw [hsplit, List.append_assoc, pieces_of_some hused hsome,
                pieces_of_some hused hc, htail]
              rfl

/-- A front part in which no match starts stays as it is. -/
theorem erase_append_of_none {rest? : List Char → Option (List Char)} (hshortens : Shortens rest?)
    {front back : List Char}
    (hnone : ∀ cs, cs <:+ front → cs ≠ [] → rest? (cs ++ back) = none) :
    erase rest? (front ++ back) = front ++ erase rest? back := by
  have hpieces := (pieces_append_eq_iff hshortens).2 ⟨hnone, rfl⟩
  have hfront : (front.map Piece.stays).flatMap Piece.left = front := by
    rw [List.flatMap_map]
    exact List.flatMap_singleton' front
  rw [← left_pieces, hpieces, List.flatMap_append, hfront, left_pieces]

theorem erase_append {rest? : List Char → Option (List Char)} (hshortens : Shortens rest?)
    {front back : List Char}
    (hlocal : ∀ cs, cs <:+ front → cs ≠ [] → rest? (cs ++ back) = (rest? cs).map (· ++ back)) :
    erase rest? (front ++ back) = erase rest? front ++ erase rest? back := by
  simp only [← left_pieces, pieces_append hshortens hlocal, List.flatMap_append]

end ScopedViews.Text

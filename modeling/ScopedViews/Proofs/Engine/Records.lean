import Mathlib.Algebra.Group.Nat.Defs
import ScopedViews.Proofs.Engine.Assembly
import ScopedViews.Proofs.Text.Words
/-!
# Which texts record a fingerprint

A fingerprint is written with 32 lower-case hexadecimal digits.  A record is read without the blanks
around it and in any case, so that a record with any other character in it records nothing, and an
empty one records nothing either.  With valid options no loader is taken for a record: it is empty,
or it holds the name of a loader or the place of an asset.

* `isRecordedIn_of_iff`: a fingerprint records itself alone;
* `not_isRecordedIn_of_mem`, `not_isRecordedIn_empty`: texts that record nothing;
* `IsLoaderOf.not_isRecordedIn`: loaders record nothing.
-/

namespace ScopedViews

/-! ## Digits -/

namespace Digest

/-- The characters that a digest is written with. -/
def digits : List Char :=
  ['0', '1', '2', '3', '4', '5', '6', '7', '8', '9', 'a', 'b', 'c', 'd', 'e', 'f']

theorem length_hexDigits (n count : Nat) : (hexDigits n count).length = count := by
  induction count generalizing n with
  | zero => rfl
  | succ count ih => rw [hexDigits, List.length_append, ih, List.length_singleton]

theorem mem_digits_of_mem_hexDigits {n count : Nat} {c : Char} (h : c ∈ hexDigits n count) :
    c ∈ digits := by
  induction count generalizing n with
  | zero => simp [hexDigits] at h
  | succ count ih =>
      rw [hexDigits] at h
      rcases List.mem_append.1 h with h | h
      · exact ih h
      · have hdigit : ∀ k < 16, Nat.digitChar k ∈ digits := by decide
        rw [List.mem_singleton.1 h]
        exact hdigit (n % 16) (Nat.mod_lt n (by decide))

theorem length_ofText (s : String) : (ofText s).toList.length = 32 := by
  rw [ofText, hex, String.toList_ofList, length_hexDigits]

theorem mem_digits {s : String} {c : Char} (h : c ∈ (ofText s).toList) : c ∈ digits := by
  rw [ofText, hex, String.toList_ofList] at h
  exact mem_digits_of_mem_hexDigits h

/-- Digits tell numbers apart up to the power of sixteen that they reach. -/
theorem mod_eq_of_hexDigits_eq {n m count : Nat} (h : hexDigits n count = hexDigits m count) :
    n % 16 ^ count = m % 16 ^ count := by
  induction count generalizing n m with
  | zero => rw [Nat.pow_zero, Nat.mod_one, Nat.mod_one]
  | succ count ih =>
      rw [hexDigits, hexDigits] at h
      obtain ⟨hfront, hlast⟩ := List.append_inj' h rfl
      have hdigit : ∀ i < 16, ∀ j < 16, Nat.digitChar i = Nat.digitChar j → i = j := by decide
      have hlow : n % 16 = m % 16 :=
        hdigit _ (Nat.mod_lt n (by decide)) _ (Nat.mod_lt m (by decide)) (List.cons.inj hlast).1
      rw [Nat.pow_succ', Nat.mod_mul, Nat.mod_mul, hlow, ih hfront]

/-- Digests with the same digits are the same. -/
theorem hex_inj {d d' : Digest} : d.hex = d'.hex ↔ d = d' := by
  refine ⟨fun h => ?_, congrArg hex⟩
  have hmod := mod_eq_of_hexDigits_eq (String.ofList_injective h)
  obtain ⟨high, low⟩ := d
  obtain ⟨high', low'⟩ := d'
  have hpow : Nat.pow 2 64 = 18446744073709551616 := rfl
  simp only [toNat, hpow] at hmod
  have hbounds := And.intro (And.intro high.toNat_lt low.toNat_lt)
    (And.intro high'.toNat_lt low'.toNat_lt)
  have hwords : high.toNat = high'.toNat ∧ low.toNat = low'.toNat := by omega
  rw [UInt64.toNat_inj.1 hwords.1, UInt64.toNat_inj.1 hwords.2]

end Digest

/-! ## Trimming -/

namespace Text

/-- Trimming keeps what is not blank. -/
theorem mem_trim {s : String} {c : Char} (h : c ∈ s.toList) (hc : isBlank c = false) :
    c ∈ (trim s).toList := by
  obtain ⟨left, right, hleft, hright, hsplit⟩ := (isTrimmed_trimChars s.toList).around
  have hkept {blanks : List Char} (hblanks : ∀ b ∈ blanks, isBlank b = true) : c ∉ blanks := by
    intro hmem
    rw [hblanks c hmem] at hc
    cases hc
  rw [hsplit, List.mem_append, List.mem_append] at h
  rw [trim, String.toList_ofList]
  exact (h.resolve_left (hkept hleft)).resolve_right (hkept hright)

/-- A text without blanks is trimmed already. -/
theorem trim_of_forall {s : String} (h : ∀ c ∈ s.toList, isBlank c = false) : trim s = s := by
  have htrimmed : IsTrimmed s.toList s.toList :=
    ⟨⟨[], [], nofun, nofun, by simp⟩, fun c hc => h c (List.mem_of_mem_head? hc),
      fun c hc => h c (List.mem_of_mem_getLast? hc)⟩
  rw [trim, isTrimmed_iff.1 htrimmed, String.ofList_toList]

end Text

/-! ## Records -/

namespace Fingerprint

variable {text version : String}

theorem mem_digits {c : Char} (h : c ∈ (Fingerprint.of text version).text.toList) :
    c ∈ Digest.digits :=
  Digest.mem_digits h

theorem isBlank_of_mem_digits {c : Char} (h : c ∈ Digest.digits) : Text.isBlank c = false := by
  have hall : Digest.digits.all (fun c => !Text.isBlank c) = true := by decide
  simpa using List.all_eq_true.1 hall c h

theorem toLower_of_mem_digits {c : Char} (h : c ∈ Digest.digits) : c.toLower = c := by
  have hall : Digest.digits.all (fun c => c.toLower == c) = true := by decide
  simpa using List.all_eq_true.1 hall c h

/-- A fingerprint is in lower case. -/
theorem asciiLower_text (text version : String) :
    Text.asciiLower (Fingerprint.of text version).text = (Fingerprint.of text version).text := by
  rw [Text.asciiLower, ← String.toList_inj, String.toList_map]
  exact List.map_congr_left (fun c hc => toLower_of_mem_digits (mem_digits hc)) |>.trans
    (List.map_id _)

/-- The text of a fingerprint records this fingerprint and no other. -/
theorem isRecordedIn_of_iff {other otherVersion : String} :
    (Fingerprint.of text version).isRecordedIn (Fingerprint.of other otherVersion).text = true ↔
      Fingerprint.of text version = Fingerprint.of other otherVersion := by
  have htrim : Text.trim (Fingerprint.of other otherVersion).text =
      (Fingerprint.of other otherVersion).text :=
    Text.trim_of_forall fun c hc => isBlank_of_mem_digits (mem_digits hc)
  rw [isRecordedIn, htrim, asciiLower_text, asciiLower_text, beq_iff_eq]
  constructor
  · intro h
    show Fingerprint.mk _ = Fingerprint.mk _
    exact congrArg Fingerprint.mk h.symm
  · intro h
    rw [h]

/-- A text with a character that is neither blank nor a digit, in any case, is no record. -/
theorem not_isRecordedIn_of_mem {record : String} {c : Char} (hc : c ∈ record.toList)
    (hblank : Text.isBlank c = false) (hdigit : c.toLower ∉ Digest.digits) :
    (Fingerprint.of text version).isRecordedIn record = false := by
  rw [isRecordedIn, asciiLower_text, beq_eq_false_iff_ne]
  intro heq
  have hmem : c.toLower ∈ (Text.asciiLower (Text.trim record)).toList := by
    rw [Text.asciiLower, String.toList_map]
    exact List.mem_map_of_mem (Text.mem_trim hc hblank)
  rw [heq] at hmem
  exact hdigit (mem_digits hmem)

theorem not_isRecordedIn_empty : (Fingerprint.of text version).isRecordedIn "" = false := by
  rw [isRecordedIn, asciiLower_text, beq_eq_false_iff_ne]
  intro heq
  have hlength : ("" : String).toList.length = 32 := by
    have hempty : (Text.asciiLower (Text.trim "")).toList = [] := by
      rw [Text.trim_of_forall (by simp), Text.asciiLower, String.toList_map]
      rfl
    rw [String.toList_empty, ← hempty, heq]
    exact Digest.length_ofText _
  simp at hlength

/-- A fingerprint is not stale exactly if it is recorded. -/
theorem isStale_eq_false_iff {σ : Type} [Store σ] {f : Fingerprint} {s : σ} {dist view : Path} :
    f.isStale s dist view = .ok false ↔
      ∃ record, Store.read s (recordOf dist view) = .ok (some record) ∧
        f.isRecordedIn record = true := by
  unfold isStale
  cases hread : Store.read s (recordOf dist view) with
  | error cause => simp [bind, Except.bind]
  | ok found =>
      cases found with
      | none => simp [bind, Except.bind, pure, Except.pure]
      | some record => simp [bind, Except.bind, pure, Except.pure]

end Fingerprint

/-! ## Loaders record nothing -/

theorem contains_of_isValid {o : Options} (h : o.isValid = true) :
    ∀ p ∈ o.placeholders, Text.contains p.2.1 p.2.2 = true := by
  have hlacking : o.lacking? = none := by
    rw [Options.isValid, Option.isNone_iff_eq_none, Options.fault?] at h
    split at h
    next => simp at h
    next =>
        split at h
        next => simp at h
        next =>
            split at h
            next => simp at h
            next hnone => exact hnone
  rw [Options.lacking?, Option.map_eq_none_iff, List.find?_eq_none] at hlacking
  intro p hp
  simpa using hlacking p hp

/-- What a placeholder is filled with stands in the directive. -/
theorem mem_fillIn {directive placeholder value : String} {c : Char}
    (h : Text.contains directive placeholder = true) (hc : c ∈ value.toList) :
    c ∈ (fillIn directive placeholder value).toList := by
  obtain ⟨i, hi⟩ := Option.isSome_iff_exists.1 h
  rw [fillIn, Text.replaceFirst, hi]
  simp [hc]

theorem mem_intercalate {sep d : String} {ds : List String} {c : Char} (hd : d ∈ ds)
    (hc : c ∈ d.toList) : c ∈ (sep.intercalate ds).toList := by
  induction ds with
  | nil => simp at hd
  | cons first ds ih =>
      by_cases hds : ds = []
      · subst hds
        rw [String.intercalate_singleton, ← List.mem_singleton.1 hd]
        exact hc
      · rw [String.intercalate_cons_of_ne_nil hds, String.toList_append, String.toList_append]
        rcases List.mem_cons.1 hd with rfl | hd
        · exact List.mem_append_left _ (List.mem_append_left _ hc)
        · exact List.mem_append_right _ (ih hd)

namespace Engine

variable {view : Path} {kind : AssetKind} {o : Options} {l : Loader}

theorem contains_loaderInclude (hvalid : o.isValid = true) :
    Text.contains o.loaderInclude pathPlaceholder = true :=
  contains_of_isValid hvalid ("loaderInclude", o.loaderInclude, pathPlaceholder)
    (by simp [Options.placeholders])

theorem contains_directive (hvalid : o.isValid = true) (kind : AssetKind) :
    Text.contains (kind.directive o) pathPlaceholder = true := by
  cases kind with
  | style =>
      exact contains_of_isValid hvalid ("styleInclude", o.styleInclude, pathPlaceholder)
        (by simp [Options.placeholders])
  | script =>
      exact contains_of_isValid hvalid ("scriptInclude", o.scriptInclude, pathPlaceholder)
        (by simp [Options.placeholders])

/-- A loader includes other loaders by names with `_`, and own assets with `?` in their places. -/
theorem IsLoaderOf.exists_mem_render (hl : IsLoaderOf view kind o l) (hvalid : o.isValid = true)
    (hused : l.directives ≠ []) : '_' ∈ l.render.toList ∨ '?' ∈ l.render.toList := by
  by_cases hnested : l.nested = []
  · -- nothing is required without an asset of the view's own
    have howned : l.owned ≠ [] := by
      intro howned
      refine hl.owned_ne_nil (fun hrequired => hused ?_) howned
      rw [Loader.directives, hnested, hrequired, howned]
      rfl
    obtain ⟨d, hd⟩ := List.exists_mem_of_ne_nil _ howned
    obtain ⟨front, back, hfill⟩ := hl.owned_eq d hd
    refine Or.inr (mem_intercalate (List.mem_append_right _ hd) ?_)
    rw [hfill]
    refine mem_fillIn (contains_directive hvalid kind) ?_
    simp
  · obtain ⟨d, hd⟩ := List.exists_mem_of_ne_nil _ hnested
    obtain ⟨target, hfill⟩ := hl.nested_eq d hd
    refine Or.inl (mem_intercalate (List.mem_append_left _ (List.mem_append_left _ hd)) ?_)
    rw [hfill]
    refine mem_fillIn (contains_loaderInclude hvalid) ?_
    rw [Loader.identifierOf, String.toList_append]
    refine List.mem_append_right _ ?_
    cases kind <;> decide

/-- With valid options, a loader is no record of a fingerprint. -/
theorem IsLoaderOf.not_isRecordedIn (hl : IsLoaderOf view kind o l) (hvalid : o.isValid = true)
    (text version : String) : (Fingerprint.of text version).isRecordedIn l.render = false := by
  by_cases hused : l.directives = []
  · rw [Loader.render, hused, String.intercalate_nil]
    exact Fingerprint.not_isRecordedIn_empty
  · rcases hl.exists_mem_render hvalid hused with hc | hc
    · exact Fingerprint.not_isRecordedIn_of_mem hc (by decide) (by decide)
    · exact Fingerprint.not_isRecordedIn_of_mem hc (by decide) (by decide)

end Engine

end ScopedViews

import Mathlib.Data.Finset.Card
import Mathlib.Data.List.Induction
import ScopedViews.Proofs.Path.Join
import ScopedViews.Proofs.Store.Writes
/-!
# A store in memory as a finite map

A store in memory is a map from keys to texts, and a key is the rendering of a path's normal form.
After any changes, a path finds the text of the last change under its key, the store is as large as
there are keys with a text, and its names are these keys in order.  Normal forms that are shown
alike share a key.  Those of texts do not, so that a store with texts for paths is a map from normal
forms.

* `Change`, `after`: changes of a store, and the store after a sequence of them;
* `lastText?`, `present`: what the changes alone say of a key;
* `lastTextAt?`, `normalForms`: what they say of a normal form;
* `get?_after`, `mem_names_after`: the store holds what the last change of a key says;
* `answers_after`: all that a store answers after any changes.
-/

namespace ScopedViews.MemoryStore

/-- A call that changes a store. -/
inductive Change where
  | insert (p : Path) (text : String)
  | write (p : Path) (text : String)
  | remove (p : Path)

namespace Change

/-- The path that a change is about. -/
def path : Change → Path
  | insert p _ | write p _ | remove p => p

/-- The text that a change leaves at its path. -/
def text? : Change → Option String
  | insert _ text | write _ text => some text
  | remove _ => none

/-- Carries out a change. -/
def apply (s : MemoryStore) : Change → MemoryStore
  | insert p text => s.insert p text
  | write p text => (Store.write s p text).1
  | remove p => (s.take p).1

end Change

/-- The store that changes make of an empty one. -/
def after (changes : List Change) : MemoryStore := changes.foldl Change.apply empty

/-- What the last change under a key leaves there. -/
def lastText? (changes : List Change) (name : String) : Option String :=
  (changes.filter (key ·.path = name)).getLast?.bind Change.text?

/-- The keys whose last change leaves a text. -/
def present (changes : List Change) : Finset String :=
  (changes.map (key ·.path)).toFinset.filter fun name => (lastText? changes name).isSome

/-- What the last change of a normal form leaves there. -/
def lastTextAt? (changes : List Change) (normal : Path) : Option String :=
  (changes.filter (·.path.normalize = normal)).getLast?.bind Change.text?

/-- The normal forms whose last change leaves a text. -/
def normalForms (changes : List Change) : Finset Path :=
  (changes.map (·.path.normalize)).toFinset.filter fun normal => (lastTextAt? changes normal).isSome

/-- The names that texts are kept under. -/
def names (s : MemoryStore) : List String := s.texts.map Prod.fst

/-! ## Single changes -/

variable {s : MemoryStore} {p q : Path} {text name : String} {changes : List Change} {c : Change}

/-- A text that is taken out is the one that has been found. -/
theorem take_eq (s : MemoryStore) (p : Path) : s.take p = (s.remove p, s.get? p) := by
  have hfound (texts : List (String × String)) :
      (texts.filter (·.1 = key p)).head?.map Prod.snd = texts.lookup (key p) := by
    induction texts with
    | nil => rfl
    | cons entry texts ih =>
        rw [List.lookup_cons]
        by_cases hentry : entry.1 = key p
        · rw [List.filter_cons_of_pos (by simpa using hentry), hentry, beq_self_eq_true]
          rfl
        · have hentry' : (key p == entry.1) = false :=
            beq_eq_false_iff_ne.2 fun h => hentry h.symm
          rw [List.filter_cons_of_neg (by simpa using hentry), ih, hentry']
  simp only [take, List.partition_eq_filter_filter, hfound]
  simp [remove, get?, Function.comp_def]

theorem get?_remove (s : MemoryStore) (p q : Path) :
    (s.remove p).get? q = if key p = key q then none else s.get? q := by
  by_cases hkey : key p = key q
  · rw [if_pos hkey, get?, List.lookup_eq_none_iff]
    intro entry hentry
    have hne : entry.1 ≠ key p := by simpa using (List.mem_filter.1 hentry).2
    rw [hkey] at hne
    simpa using fun h => hne h.symm
  · rw [if_neg hkey]
    exact lookup_filter_ne fun h => hkey h.symm

/-- A change decides what the paths under its key find, and leaves the others alone. -/
theorem get?_apply (s : MemoryStore) (c : Change) (q : Path) :
    (c.apply s).get? q = if key c.path = key q then c.text? else s.get? q := by
  cases c with
  | insert p text => exact get?_insert s p q text
  | write p text => exact get?_insert s p q text
  | remove p =>
      rw [Change.apply, take_eq]
      exact get?_remove s p q

theorem names_remove (s : MemoryStore) (p : Path) :
    (s.remove p).names = s.names.filter (· ≠ key p) := by
  simp only [names, remove, List.filter_map, Function.comp_def]

theorem names_insert (s : MemoryStore) (p : Path) (text : String) :
    (s.insert p text).names = key p :: s.names.filter (· ≠ key p) := by
  rw [← names_remove]
  rfl

/-- No name occurs twice, whatever is changed. -/
theorem nodup_names_apply (h : s.names.Nodup) (c : Change) : (c.apply s).names.Nodup := by
  have hinsert (p : Path) (text : String) : (s.insert p text).names.Nodup := by
    rw [names_insert, List.nodup_cons]
    exact ⟨fun hmem => by simpa using (List.mem_filter.1 hmem).2, h.filter _⟩
  cases c with
  | insert p text => exact hinsert p text
  | write p text => exact hinsert p text
  | remove p =>
      rw [Change.apply, take_eq, names_remove]
      exact h.filter _

/-- A name that a change leaves has been there, or is the key of its path. -/
theorem mem_names_apply (h : name ∈ (c.apply s).names) : name ∈ s.names ∨ name = key c.path := by
  have hinsert {p : Path} {text : String} (h : name ∈ (s.insert p text).names) :
      name ∈ s.names ∨ name = key p := by
    rw [names_insert, List.mem_cons] at h
    exact h.symm.imp_left fun hmem => (List.mem_filter.1 hmem).1
  cases c with
  | insert p text => exact hinsert h
  | write p text => exact hinsert h
  | remove p =>
      rw [Change.apply, take_eq, names_remove] at h
      exact Or.inl (List.mem_filter.1 h).1

theorem mem_names_iff : name ∈ s.names ↔ (s.texts.lookup name).isSome = true := by
  rw [names, List.mem_map, List.lookup_isSome_iff]
  refine exists_congr fun entry => and_congr_right fun _ => ?_
  rw [beq_iff_eq, eq_comm]

/-! ## Sequences of changes -/

theorem after_concat (changes : List Change) (c : Change) :
    after (changes ++ [c]) = c.apply (after changes) := by
  rw [after, List.foldl_append]
  rfl

/-- The last member of a kind, when one more member comes behind. -/
theorem getLast?_filter_concat {α : Type} (p : α → Prop) [DecidablePred p] (xs : List α) (x : α) :
    ((xs ++ [x]).filter p).getLast? = if p x then some x else (xs.filter p).getLast? := by
  by_cases hx : p x
  · simp [List.filter_append, hx]
  · simp [List.filter_append, hx]

theorem lastText?_concat (changes : List Change) (c : Change) (name : String) :
    lastText? (changes ++ [c]) name =
      if key c.path = name then c.text? else lastText? changes name := by
  rw [lastText?, getLast?_filter_concat, lastText?, apply_ite (Option.bind · Change.text?)]
  rfl

/-- After any changes, a path finds what the last change under its key leaves. -/
theorem get?_after (changes : List Change) (q : Path) :
    (after changes).get? q = lastText? changes (key q) := by
  induction changes using List.reverseRecOn with
  | nil => rfl
  | append_singleton changes c ih => rw [after_concat, get?_apply, lastText?_concat, ih]

theorem nodup_names_after (changes : List Change) : (after changes).names.Nodup := by
  induction changes using List.reverseRecOn with
  | nil => exact List.nodup_nil
  | append_singleton changes c ih =>
      rw [after_concat]
      exact nodup_names_apply ih c

theorem exists_change_of_mem_names (h : name ∈ (after changes).names) :
    ∃ c ∈ changes, name = key c.path := by
  induction changes using List.reverseRecOn with
  | nil => cases h
  | append_singleton changes c ih =>
      rw [after_concat] at h
      rcases mem_names_apply h with h | rfl
      · obtain ⟨c', hc', hname⟩ := ih h
        exact ⟨c', List.mem_append_left _ hc', hname⟩
      · exact ⟨c, by simp, rfl⟩

theorem mem_present : name ∈ present changes ↔
    (∃ c ∈ changes, key c.path = name) ∧ (lastText? changes name).isSome = true := by
  simp [present]

/-- The names are the keys whose last change leaves a text. -/
theorem mem_names_after : name ∈ (after changes).names ↔ name ∈ present changes := by
  constructor
  · intro h
    obtain ⟨c, hc, rfl⟩ := exists_change_of_mem_names h
    refine mem_present.2 ⟨⟨c, hc, rfl⟩, ?_⟩
    rw [← get?_after]
    exact mem_names_iff.1 h
  · intro h
    obtain ⟨⟨c, hc, rfl⟩, htext⟩ := mem_present.1 h
    rw [← get?_after] at htext
    exact mem_names_iff.2 htext

theorem toFinset_names_after (changes : List Change) :
    (after changes).names.toFinset = present changes := by
  ext name
  rw [List.mem_toFinset, mem_names_after]

theorem size_after (changes : List Change) : (after changes).size = (present changes).card := by
  calc (after changes).size
      = (after changes).names.length := (List.length_map ..).symm
    _ = (after changes).names.toFinset.card :=
        (List.toFinset_card_of_nodup (nodup_names_after changes)).symm
    _ = (present changes).card := by rw [toFinset_names_after]

theorem isEmpty_eq (s : MemoryStore) : s.isEmpty = decide (s.size = 0) := by
  rw [isEmpty, size, Bool.eq_iff_iff, List.isEmpty_iff, decide_eq_true_iff, List.length_eq_zero_iff]

/-- The names in order, with none of them twice. -/
theorem pairwise_paths (h : s.names.Nodup) : s.paths.Pairwise (· < ·) := by
  have hsorted : s.paths.Pairwise (· ≤ ·) := by
    have htrans : ∀ a b c : String, decide (a ≤ b) = true → decide (b ≤ c) = true →
        decide (a ≤ c) = true := fun _ _ _ hab hbc =>
      decide_eq_true (String.le_trans (of_decide_eq_true hab) (of_decide_eq_true hbc))
    have htotal : ∀ a b : String, (decide (a ≤ b) || decide (b ≤ a)) = true := fun a b => by
      simpa using String.le_total a b
    exact (List.pairwise_mergeSort htrans htotal s.names).imp of_decide_eq_true
  -- sorted names with none twice ascend strictly
  have hnodup : s.paths.Nodup := (List.mergeSort_perm _ _).nodup_iff.2 h
  refine (hsorted.and hnodup).imp fun ⟨hle, hne⟩ => ?_
  by_contra hlt
  exact hne (String.le_antisymm hle hlt)

/-! ## Keys and normal forms -/

/-- Paths have one key exactly if their normal forms are shown alike. -/
theorem key_eq_iff_shown : key p = key q ↔
    p.normalize.components.map Path.Component.shown =
      q.normalize.components.map Path.Component.shown := by
  rw [Path.key_eq_iff, Path.components_normalize, Path.components_normalize]

/-- Texts have one key exactly if they have one normal form. -/
theorem key_eq_iff_normalize_eq (hp : p.IsText) (hq : q.IsText) :
    key p = key q ↔ p.normalize = q.normalize := by
  rw [key_eq_iff_shown, hp.map_shown_normalize, hq.map_shown_normalize, Path.components_normalize,
    Path.components_normalize, Path.normalize_eq_iff]

theorem lastText?_key (htexts : ∀ c ∈ changes, c.path.IsText) (hq : q.IsText) :
    lastText? changes (key q) = lastTextAt? changes q.normalize := by
  have hfilter : changes.filter (key ·.path = key q) =
      changes.filter (·.path.normalize = q.normalize) :=
    List.filter_congr fun c hc => decide_eq_decide.2 (key_eq_iff_normalize_eq (htexts c hc) hq)
  rw [lastText?, hfilter, lastTextAt?]

theorem mem_normalForms {normal : Path} : normal ∈ normalForms changes ↔
    (∃ c ∈ changes, c.path.normalize = normal) ∧ (lastTextAt? changes normal).isSome = true := by
  simp [normalForms]

/-- Where all paths are texts, the keys with a text are the normal forms with one. -/
theorem present_eq_image (htexts : ∀ c ∈ changes, c.path.IsText) :
    present changes = (normalForms changes).image Path.slashed := by
  ext name
  rw [mem_present, Finset.mem_image]
  constructor
  · rintro ⟨⟨c, hc, rfl⟩, htext⟩
    rw [lastText?_key htexts (htexts c hc)] at htext
    exact ⟨c.path.normalize, mem_normalForms.2 ⟨⟨c, hc, rfl⟩, htext⟩, rfl⟩
  · rintro ⟨normal, hnormal, rfl⟩
    obtain ⟨⟨c, hc, rfl⟩, htext⟩ := mem_normalForms.1 hnormal
    rw [← lastText?_key htexts (htexts c hc)] at htext
    exact ⟨⟨c, hc, rfl⟩, htext⟩

theorem slashed_injOn_normalForms (htexts : ∀ c ∈ changes, c.path.IsText) :
    Set.InjOn Path.slashed (normalForms changes : Set Path) := by
  intro normal hnormal normal' hnormal' heq
  obtain ⟨⟨c, hc, rfl⟩, -⟩ := mem_normalForms.1 hnormal
  obtain ⟨⟨c', hc', rfl⟩, -⟩ := mem_normalForms.1 hnormal'
  exact (key_eq_iff_normalize_eq (htexts c hc) (htexts c' hc')).1 heq

/-- Where all paths are texts, a store is a map from normal forms. -/
theorem answers_after_of_isText (htexts : ∀ c ∈ changes, c.path.IsText) :
    (∀ q : Path, q.IsText → (after changes).get? q = lastTextAt? changes q.normalize) ∧
      (after changes).size = (normalForms changes).card ∧
      present changes = (normalForms changes).image Path.slashed := by
  have himage := present_eq_image htexts
  refine ⟨fun q hq => ?_, ?_, himage⟩
  · rw [get?_after, lastText?_key htexts hq]
  · rw [size_after, himage, Finset.card_image_of_injOn (slashed_injOn_normalForms htexts)]

/-- After any changes of an empty store, a path finds the text of the last change under its key,
unless that took the text out; taking it out answers what the path found; the size counts the keys
with a text, and the paths are these keys, strictly ascending.  Two paths have one key exactly if
their normal forms are shown alike.  So where all paths are texts, a path finds the text of the last
change of its normal form, the size counts the normal forms with a text, and the paths are how these
are rendered. -/
theorem answers_after (changes : List Change) (p q : Path) :
    (after changes).get? q = lastText? changes (key q) ∧
      Store.read (after changes) q = .ok (lastText? changes (key q)) ∧
      (after changes).contains q = (lastText? changes (key q)).isSome ∧
      ((after changes).take q).2 = (after changes).get? q ∧
      (after changes).size = (present changes).card ∧
      (after changes).isEmpty = decide ((present changes).card = 0) ∧
      (after changes).paths.Pairwise (· < ·) ∧
      (after changes).paths.toFinset = present changes ∧
      (key p = key q ↔ p.normalize.components.map Path.Component.shown =
        q.normalize.components.map Path.Component.shown) ∧
      (p.IsText → q.IsText → (key p = key q ↔ p.normalize = q.normalize)) ∧
      ((∀ c ∈ changes, c.path.IsText) →
        (∀ q : Path, q.IsText → (after changes).get? q = lastTextAt? changes q.normalize) ∧
          (after changes).size = (normalForms changes).card ∧
          present changes = (normalForms changes).image Path.slashed) := by
  have hget := get?_after changes q
  have hsize := size_after changes
  have hpaths : (after changes).paths.toFinset = present changes := by
    have hperm : (after changes).paths.Perm (after changes).names := List.mergeSort_perm _ _
    rw [List.toFinset_eq_of_perm _ _ hperm, toFinset_names_after]
  refine ⟨hget, congrArg Except.ok hget, congrArg Option.isSome hget, ?_, hsize, ?_,
    pairwise_paths (nodup_names_after changes), hpaths, key_eq_iff_shown, key_eq_iff_normalize_eq,
    answers_after_of_isText⟩
  · rw [take_eq]
  · rw [isEmpty_eq, hsize]

/-- Two names of which the second byte is no text: a text that is inserted under one of them is
found under the other one, and they count as one. -/
theorem shared_key_malformed :
    (Path.mk [0x61, 0xFF]).normalize ≠ (Path.mk [0x61, 0xFE]).normalize ∧
      key ⟨[0x61, 0xFF]⟩ = key ⟨[0x61, 0xFE]⟩ ∧
      (after [.insert ⟨[0x61, 0xFF]⟩ "x", .insert ⟨[0x61, 0xFE]⟩ "y"]).get? ⟨[0x61, 0xFF]⟩ =
        some "y" ∧
      lastTextAt? [.insert ⟨[0x61, 0xFF]⟩ "x", .insert ⟨[0x61, 0xFE]⟩ "y"]
        (Path.mk [0x61, 0xFF]).normalize = some "x" ∧
      (after [.insert ⟨[0x61, 0xFF]⟩ "x", .insert ⟨[0x61, 0xFE]⟩ "y"]).size = 1 ∧
      (normalForms [.insert ⟨[0x61, 0xFF]⟩ "x", .insert ⟨[0x61, 0xFE]⟩ "y"]).card = 2 := by
  decide +kernel

end ScopedViews.MemoryStore

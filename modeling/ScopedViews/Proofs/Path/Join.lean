import Mathlib.Data.List.Basic
import ScopedViews.Proofs.Path.Shown
import ScopedViews.Store
/-!
# Paths below a directory

A path made of names, seen from a directory, has the directory's components and its own names.  So
texts below one directory are kept under different keys exactly if their paths are shown
differently.

* `inner`, `components_join_of_ne_nil`, `components_join`: the components of such a path;
* `key_join_inj`: keys below one directory;
* `getLast?_of_key_join_eq`: the last name of a path can be read off its key, as it is shown.
-/

namespace ScopedViews.Path

/-- Pieces are read one after another; a single empty piece in front is the root. -/
theorem readPieces_append {ps qs : List Bytes} (hps : ps ≠ []) (hqs : qs ≠ []) :
    readPieces (ps ++ qs) =
      (if ps = [[]] then [.root] else readPieces ps) ++ qs.filterMap innerComponent? := by
  match ps, qs, hps, hqs with
  | [[]], _ :: _, _, _ => rfl
  | [] :: second :: more, qs, _, _ =>
      rw [if_neg (by simp)]
      show Component.root :: (second :: (more ++ qs)).filterMap innerComponent? =
        .root :: (second :: more).filterMap innerComponent? ++ _
      rw [List.cons_append, ← List.filterMap_append, List.cons_append]
  | (d :: first) :: more, qs, _, _ =>
      rw [if_neg (by simp)]
      show (firstComponent? (d :: first)).toList ++ (more ++ qs).filterMap innerComponent? =
        (firstComponent? (d :: first)).toList ++ more.filterMap innerComponent? ++ _
      rw [List.append_assoc, ← List.filterMap_append]

theorem pieces_ne_singleton_nil {bs : Bytes} (h : bs ≠ []) : pieces bs ≠ [[]] := by
  cases bs with
  | nil => contradiction
  | cons b bs =>
      rw [pieces]
      by_cases hb : b = slash
      · rw [if_pos hb]
        simp [pieces_ne_nil bs]
      · rw [if_neg hb]
        split <;> simp

theorem Inside.isAbsolute {q : Path} (hq : Inside q) : q.isAbsolute = false := by
  obtain ⟨names, hne, hnames, hbytes, -⟩ := hq
  rw [Path.isAbsolute, hbytes, beq_eq_false_iff_ne]
  intro hhead
  obtain ⟨bytes, more, rfl⟩ := List.exists_cons_of_ne_nil hne
  have hname := hnames bytes List.mem_cons_self
  obtain ⟨b, bytes, rfl⟩ := List.exists_cons_of_ne_nil hname.ne_nil
  have hb : b = slash := by
    cases more with
    | nil => simpa [joinParts] using hhead
    | cons => simpa [joinParts] using hhead
  exact hname.no_slash (hb ▸ List.mem_cons_self)

/-- The components of a path as they are read behind another component. -/
def inner (p : Path) : List Component := (pieces p.bytes).filterMap innerComponent?

/-- Behind something that is written down, a separator ends its last component. -/
theorem components_slash {p : Path} (hp : p.bytes ≠ []) (q : Path) :
    (Path.mk (p.bytes ++ slash :: q.bytes)).components = p.components ++ q.inner := by
  rw [components, components, componentsOf_eq, componentsOf_eq, pieces_append_slash,
    readPieces_append (pieces_ne_nil _) (pieces_ne_nil _), if_neg (pieces_ne_singleton_nil hp),
    inner]

/-- Seen from a directory that is written down, a relative path is read behind its components. -/
theorem components_join_of_ne_nil {p q : Path} (hp : p.bytes ≠ []) (hq : q.isAbsolute = false) :
    (p.join q).components = p.components ++ q.inner := by
  rw [join, hq, Bool.false_or, if_neg (by simpa using hp)]
  -- a separator is written between the two unless the first ends with one
  by_cases hlast : p.bytes.getLast? = some slash
  · obtain ⟨front, hfront⟩ := List.getLast?_eq_some_iff.1 hlast
    rw [if_pos hlast, inner, components, components, componentsOf_eq, componentsOf_eq, hfront,
      List.append_assoc, List.singleton_append, pieces_append_slash, pieces_append_slash,
      readPieces_append (pieces_ne_nil front) (pieces_ne_nil _),
      readPieces_append (pieces_ne_nil front) (pieces_ne_nil [])]
    simp [pieces, innerComponent?]
  · rw [if_neg hlast, components_slash hp]

theorem Inside.inner_eq {q : Path} (hq : Inside q) : q.inner = q.components := by
  obtain ⟨names, hne, hnames, hbytes, hcomponents⟩ := hq
  rw [inner, hbytes, pieces_joinParts hne fun bytes hmem => (hnames bytes hmem).no_slash,
    filterMap_innerComponent?_names hnames, hcomponents]

/-- A path made of names, seen from a directory. -/
theorem components_join (p : Path) {q : Path} (hq : Inside q) :
    (p.join q).components = p.components ++ q.components := by
  by_cases hempty : p.bytes = []
  · rw [join, if_pos (by simp [hempty]), components, components, hempty]
    rfl
  · rw [components_join_of_ne_nil hempty hq.isAbsolute, hq.inner_eq]

theorem resolveAll_join (p : Path) {q : Path} (hq : Inside q) :
    resolveAll (p.join q).components = resolveAll p.components ++ q.components := by
  have hjoin := components_join p hq
  obtain ⟨names, -, -, -, hcomponents⟩ := hq
  rw [hjoin, hcomponents, resolveAll_append_names]

/-! ## Keys -/

theorem key_eq_iff {p q : Path} : MemoryStore.key p = MemoryStore.key q ↔
    (resolveAll p.components).map Component.shown =
      (resolveAll q.components).map Component.shown := by
  rw [MemoryStore.key, MemoryStore.key, slashed_eq_iff, components_normalize, components_normalize]

/-- Below one directory, paths made of names have different keys if they are shown differently. -/
theorem key_join_inj (d : Path) {p q : Path} (hp : Inside p) (hq : Inside q) :
    MemoryStore.key (d.join p) = MemoryStore.key (d.join q) ↔ p.text = q.text := by
  rw [key_eq_iff, resolveAll_join d hp, resolveAll_join d hq, List.map_append, List.map_append,
    List.append_cancel_left_eq, hp.text_eq_iff hq]

theorem Inside.components_ne_nil {p : Path} (hp : Inside p) : p.components ≠ [] := by
  obtain ⟨names, hne, -, -, hcomponents⟩ := hp
  simpa [hcomponents] using hne

/-- Paths under one key have the same last name, whatever directories they are seen from. -/
theorem getLast?_of_key_join_eq {d d' p q : Path} (hp : Inside p) (hq : Inside q)
    (h : MemoryStore.key (d.join p) = MemoryStore.key (d'.join q)) :
    p.components.getLast?.map Component.shown = q.components.getLast?.map Component.shown := by
  rw [key_eq_iff, resolveAll_join d hp, resolveAll_join d' hq] at h
  have hlast := congrArg List.getLast? h
  rwa [List.getLast?_map, List.getLast?_map,
    List.getLast?_append_of_ne_nil _ hp.components_ne_nil,
    List.getLast?_append_of_ne_nil _ hq.components_ne_nil] at hlast

end ScopedViews.Path

import ScopedViews.Engine
/-!
# What a store keeps of what was written

`kept?` looks a path up among texts that were written, the last one in front.  A store in memory
keeps what was written last under each key.  A store that remembers all that was written and of
which some writes fail, leaving it as it was, keeps the texts up to the first failure.

* `MemoryStore.writeAll_memory`, `MemoryStore.get?_insertAll`: all texts are written;
* `JournalStore`, `JournalStore.writeAll_journal`: texts are written until one is not.
-/

namespace ScopedViews

open MemoryStore (key)

/-- What is kept at a path, where the last text that was written stands in front. -/
def kept? (written : List (Path × String)) (p : Path) : Option String :=
  (written.find? fun out => key out.1 = key p).map Prod.snd

theorem kept?_nil (p : Path) : kept? [] p = none := rfl

theorem kept?_cons (out : Path × String) (written : List (Path × String)) (p : Path) :
    kept? (out :: written) p = if key out.1 = key p then some out.2 else kept? written p := by
  by_cases hkey : key out.1 = key p
  · simp [kept?, hkey]
  · simp [kept?, hkey]

theorem kept?_append (later earlier : List (Path × String)) (p : Path) :
    kept? (later ++ earlier) p = (kept? later p).or (kept? earlier p) := by
  induction later with
  | nil => simp [kept?_nil]
  | cons out later ih =>
      rw [List.cons_append, kept?_cons, kept?_cons, ih]
      by_cases hkey : key out.1 = key p
      · rw [if_pos hkey, if_pos hkey, Option.some_or]
      · rw [if_neg hkey, if_neg hkey]

/-- What is kept was written, under the same key. -/
theorem exists_of_kept? {written : List (Path × String)} {p : Path} {text : String}
    (h : kept? written p = some text) : ∃ out ∈ written, key out.1 = key p ∧ out.2 = text := by
  obtain ⟨out, hfind, rfl⟩ := Option.map_eq_some_iff.1 h
  exact ⟨out, List.mem_of_find?_eq_some hfind, by simpa using List.find?_some hfind, rfl⟩

theorem kept?_eq_none_iff {written : List (Path × String)} {p : Path} :
    kept? written p = none ↔ ∀ out ∈ written, key out.1 ≠ key p := by
  rw [kept?, Option.map_eq_none_iff, List.find?_eq_none]
  simp only [decide_eq_true_eq, ne_eq]

/-! ## A store in memory -/

namespace MemoryStore

theorem lookup_filter_ne {texts : List (String × String)} {k k' : String} (h : k ≠ k') :
    (texts.filter (·.1 ≠ k')).lookup k = texts.lookup k := by
  induction texts with
  | nil => rfl
  | cons entry texts ih =>
      by_cases hentry : entry.1 = k'
      · have hk : (k == entry.1) = false := by
          rw [beq_eq_false_iff_ne, hentry]
          exact h
        rw [List.filter_cons_of_neg (by simpa using hentry), ih, List.lookup_cons, hk]
      · rw [List.filter_cons_of_pos (by simpa using hentry), List.lookup_cons, List.lookup_cons, ih]

theorem lookup_insert (s : MemoryStore) (p : Path) (text name : String) :
    (s.insert p text).texts.lookup name =
      if key p = name then some text else s.texts.lookup name := by
  rw [insert, List.lookup_cons]
  by_cases hkey : key p = name
  · rw [if_pos hkey, hkey, beq_self_eq_true]
  · have hkey' : (name == key p) = false := by
      rw [beq_eq_false_iff_ne]
      exact fun h => hkey h.symm
    rw [if_neg hkey, hkey']
    exact lookup_filter_ne fun h => hkey h.symm

theorem get?_insert (s : MemoryStore) (p q : Path) (text : String) :
    (s.insert p text).get? q = if key p = key q then some text else s.get? q :=
  lookup_insert s p text (key q)

/-- A store in memory with texts written to it. -/
def insertAll (s : MemoryStore) (outs : List (Path × String)) : MemoryStore :=
  outs.foldl (fun s out => s.insert out.1 out.2) s

theorem insertAll_cons (s : MemoryStore) (out : Path × String) (outs : List (Path × String)) :
    s.insertAll (out :: outs) = (s.insert out.1 out.2).insertAll outs := rfl

/-- In memory no write fails. -/
theorem writeAll_memory (s : MemoryStore) (outs : List (Path × String)) :
    Engine.writeAll s outs = (s.insertAll outs, .ok ()) := by
  induction outs generalizing s with
  | nil => rfl
  | cons out outs ih => exact ih (s.insert out.1 out.2)

theorem get?_insertAll (s : MemoryStore) (outs : List (Path × String)) (p : Path) :
    (s.insertAll outs).get? p = (kept? outs.reverse p).or (s.get? p) := by
  induction outs generalizing s with
  | nil => rfl
  | cons out outs ih =>
      rw [insertAll_cons, ih, get?_insert, List.reverse_cons, kept?_append, kept?_cons, kept?_nil,
        Option.or_assoc]
      by_cases hkey : key out.1 = key p
      · rw [if_pos hkey, if_pos hkey, Option.some_or]
      · rw [if_neg hkey, if_neg hkey, Option.none_or]

end MemoryStore

/-! ## A store with failing writes -/

/-- A store that remembers all that was written, the last text in front. -/
structure JournalStore where
  written : List (Path × String)
  /-- For each of the next writes whether it fails; none fails behind them. -/
  failing : List Bool

namespace JournalStore

/-- Reading never fails, and a write that fails writes nothing. -/
instance : Store JournalStore where
  read s p := .ok (kept? s.written p)
  write s p text :=
    match s.failing with
    | true :: failing => ({ s with failing }, .error (.write p .isDirectory))
    | false :: failing => (⟨(p, text) :: s.written, failing⟩, .ok ())
    | [] => (⟨(p, text) :: s.written, []⟩, .ok ())

theorem read_journal (s : JournalStore) (p : Path) : Store.read s p = .ok (kept? s.written p) :=
  rfl

theorem write_journal (s : JournalStore) (p : Path) (text : String) :
    ∃ failing, Store.write s p text = (⟨(p, text) :: s.written, failing⟩, .ok ()) ∨
      Store.write s p text = (⟨s.written, failing⟩, .error (.write p .isDirectory)) := by
  obtain ⟨written, failing⟩ := s
  match failing with
  | [] => exact ⟨[], Or.inl rfl⟩
  | false :: failing => exact ⟨failing, Or.inl rfl⟩
  | true :: failing => exact ⟨failing, Or.inr rfl⟩

/-- Either all texts are written, or some of them in front and not all. -/
theorem writeAll_journal {s s' : JournalStore} {outs : List (Path × String)}
    {result : Except StoreError Unit} (h : Engine.writeAll s outs = (s', result)) :
    (result = .ok () ∧ s'.written = outs.reverse ++ s.written) ∨
      ∃ cause done rest, result = .error cause ∧ outs = done ++ rest ∧ rest ≠ [] ∧
        s'.written = done.reverse ++ s.written := by
  induction outs generalizing s with
  | nil =>
      cases h
      exact Or.inl ⟨rfl, rfl⟩
  | cons out outs ih =>
      obtain ⟨p, text⟩ := out
      rw [Engine.writeAll] at h
      -- a failure ends the writing here, and otherwise the rest decides
      obtain ⟨failing, hwrite | hwrite⟩ := write_journal s p text
      · rw [hwrite] at h
        rcases ih h with ⟨hresult, hwritten⟩ | ⟨cause, done, rest, hresult, houts, hrest, hwritten⟩
        · refine Or.inl ⟨hresult, ?_⟩
          rw [hwritten, List.reverse_cons, List.append_assoc, List.singleton_append]
        · refine Or.inr ⟨cause, (p, text) :: done, rest, hresult, ?_, hrest, ?_⟩
          · rw [houts, List.cons_append]
          · rw [hwritten, List.reverse_cons, List.append_assoc, List.singleton_append]
      · rw [hwrite] at h
        cases h
        exact Or.inr ⟨_, [], (p, text) :: outs, rfl, rfl, by simp, rfl⟩

end JournalStore

end ScopedViews

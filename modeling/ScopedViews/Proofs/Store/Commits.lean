import ScopedViews.Proofs.Engine.Places
import ScopedViews.Proofs.Store.Changes
/-!
# Records as a map from views to fingerprints

What is stale is decided by the fingerprint that was committed last for a view, or for one that is
shown like it.  Records of views that are shown differently, as different texts are, are kept apart
below any directory.  A record is read in any case and without the blanks around it, and a
fingerprint is written in lower case and without blanks, so that no text records two of them.

* `Text.SpelledAlike`: texts that differ at most in ASCII case and in the blanks around them;
* `isRecordedIn_congr`, `eq_of_isRecordedIn`: what a text records;
* `commitAll`, `lastCommit?`, `lastCommitAt?`: records after a sequence of commits;
* `isStale_commitAll`: a view is stale unless its fingerprint was committed last.
-/

namespace ScopedViews

/-! ## Texts that are read alike -/

namespace Text

/-- Equal up to ASCII case and the blanks around. -/
def SpelledAlike (s t : String) : Prop :=
  ∃ left core right left' core' right' : List Char,
    s.toList = left ++ (core ++ right) ∧ t.toList = left' ++ (core' ++ right') ∧
      (∀ c ∈ left ++ right, isBlank c = true) ∧ (∀ c ∈ left' ++ right', isBlank c = true) ∧
        core.map Char.toLower = core'.map Char.toLower

/-- A letter in lower case is the lower case of its capital. -/
theorem toLower_toUpper (c : Char) : c.toUpper.toLower = c.toLower := by
  have hshift : 'A'.val - 'a'.val = 4294967264 := rfl
  by_cases hlower : 'a'.val ≤ c.val ∧ c.val ≤ 'z'.val
  · have hnot : ¬ (c.val ≥ 'A'.val ∧ c.val ≤ 'Z'.val) := by
      simp only [ge_iff_le, UInt32.le_iff_toNat_le, Char.reduceVal, UInt32.reduceToNat] at hlower ⊢
      omega
    have hcapital : c.val + ('A'.val - 'a'.val) ≥ 'A'.val ∧
        c.val + ('A'.val - 'a'.val) ≤ 'Z'.val := by
      rw [hshift]
      simp only [ge_iff_le, UInt32.le_iff_toNat_le, UInt32.toNat_add, Char.reduceVal,
        UInt32.reduceToNat] at hlower ⊢
      omega
    have hback : 'A'.val - 'a'.val + ('a'.val - 'A'.val) = 0 := rfl
    unfold Char.toUpper Char.toLower
    rw [dif_pos hlower, dif_pos hcapital, dif_neg hnot]
    refine Char.ext ?_
    show c.val + ('A'.val - 'a'.val) + ('a'.val - 'A'.val) = c.val
    rw [UInt32.add_assoc, hback, UInt32.add_zero]
  · unfold Char.toUpper
    rw [dif_neg hlower]

/-- A text is spelled like its capitals. -/
theorem spelledAlike_asciiUpper (s : String) : SpelledAlike s (asciiUpper s) := by
  refine ⟨[], s.toList, [], [], (asciiUpper s).toList, [], by simp, by simp, nofun, nofun, ?_⟩
  rw [asciiUpper, String.toList_map, List.map_map]
  exact List.map_congr_left fun c _ => (toLower_toUpper c).symm

/-- No letter is blank. -/
theorem isBlank_toLower (c : Char) : isBlank c.toLower = isBlank c := by
  rcases eq_or_of_toLower_eq (p := c.toLower) rfl with heq | ⟨hupper, hcode⟩
  · rw [← heq]
  · rw [isUpper_iff] at hupper
    have hnot {d : Char} (h : 65 ≤ d.toNat ∧ d.toNat ≤ 122) : isBlank d = false := by
      simp only [isBlank, Bool.or_eq_false_iff, Bool.and_eq_false_iff, decide_eq_false_iff_not]
      omega
    rw [hnot ⟨by omega, by omega⟩, hnot ⟨by omega, by omega⟩]

/-- Trimming does not ask for the case of letters. -/
theorem trimChars_map_toLower (cs : List Char) :
    trimChars (cs.map Char.toLower) = (trimChars cs).map Char.toLower := by
  have hblank : isBlank ∘ Char.toLower = isBlank := funext isBlank_toLower
  rw [trimChars, trimRight, List.dropWhile_map, hblank, ← List.map_reverse, List.dropWhile_map,
    hblank, ← List.map_reverse]
  rfl

/-- Blanks around a text are trimmed away. -/
theorem trimChars_around {left core right : List Char}
    (hblank : ∀ c ∈ left ++ right, isBlank c = true) :
    trimChars (left ++ (core ++ right)) = trimChars core := by
  obtain ⟨⟨left', right', hleft', hright', hcore⟩, hhead, hlast⟩ := isTrimmed_trimChars core
  refine isTrimmed_iff.1 ⟨⟨left ++ left', right' ++ right, fun c hc => ?_, fun c hc => ?_, ?_⟩,
    hhead, hlast⟩
  · rcases List.mem_append.1 hc with hc | hc
    · exact hblank c (List.mem_append_left _ hc)
    · exact hleft' c hc
  · rcases List.mem_append.1 hc with hc | hc
    · exact hright' c hc
    · exact hblank c (List.mem_append_right _ hc)
  · conv_lhs => rw [hcore]
    simp only [List.append_assoc]

theorem SpelledAlike.asciiLower_trim {s t : String} (h : SpelledAlike s t) :
    asciiLower (trim s) = asciiLower (trim t) := by
  obtain ⟨left, core, right, left', core', right', hs, ht, hblank, hblank', hcore⟩ := h
  rw [← String.toList_inj, asciiLower, asciiLower, String.toList_map, String.toList_map, trim, trim,
    String.toList_ofList, String.toList_ofList, hs, ht, trimChars_around hblank,
    trimChars_around hblank', ← trimChars_map_toLower, ← trimChars_map_toLower, hcore]

end Text

namespace Fingerprint

open MemoryStore (key)
open ScopedViews.Path (Inside)

/-! ## What a text records -/

/-- A fingerprint that was computed of some text for some version. -/
def IsComputed (f : Fingerprint) : Prop := ∃ text version, f = Fingerprint.of text version

variable {f g : Fingerprint} {record other : String}

theorem IsComputed.asciiLower_eq (hf : f.IsComputed) : Text.asciiLower f.text = f.text := by
  obtain ⟨text, version, rfl⟩ := hf
  exact asciiLower_text text version

theorem IsComputed.isRecordedIn_iff (hf : f.IsComputed) (hg : g.IsComputed) :
    f.isRecordedIn g.text = true ↔ f = g := by
  obtain ⟨text, version, rfl⟩ := hf
  obtain ⟨text', version', rfl⟩ := hg
  exact isRecordedIn_of_iff

theorem isRecordedIn_congr (h : Text.SpelledAlike record other) (f : Fingerprint) :
    f.isRecordedIn record = f.isRecordedIn other := by
  rw [isRecordedIn, isRecordedIn, h.asciiLower_trim]

/-- No text records two fingerprints. -/
theorem eq_of_isRecordedIn (hf : f.IsComputed) (hg : g.IsComputed)
    (hrecord : f.isRecordedIn record = true) (hrecord' : g.isRecordedIn record = true) : f = g := by
  rw [isRecordedIn, beq_iff_eq] at hrecord hrecord'
  have htext : f.text = g.text := by
    rw [← hf.asciiLower_eq, ← hrecord, hrecord', hg.asciiLower_eq]
  cases f
  cases g
  exact congrArg Fingerprint.mk htext

/-! ## Commits -/

variable {s : MemoryStore} {dist view view' : Path} {commits : List (Path × Fingerprint)}

/-- A path to a view: a normal form that leads inside. -/
structure IsView (p : Path) : Prop where
  normal : p.normalize = p
  inside : p.startsInside = true

theorem IsView.names (h : IsView view) : Inside view := Path.inside_of_normal h.normal h.inside

/-- Records fingerprints one after the other. -/
def commitAll (dist : Path) (s : MemoryStore) (commits : List (Path × Fingerprint)) : MemoryStore :=
  commits.foldl (fun s c => (c.2.commit s dist c.1).1) s

/-- The fingerprint that is committed last for a view that is shown so. -/
def lastCommit? (commits : List (Path × Fingerprint)) (shown : String) : Option Fingerprint :=
  (commits.filter (·.1.text = shown)).getLast?.map Prod.snd

/-- The fingerprint that is committed last for a view. -/
def lastCommitAt? (commits : List (Path × Fingerprint)) (view : Path) : Option Fingerprint :=
  (commits.filter (·.1 = view)).getLast?.map Prod.snd

/-- Whether a view is stale is read off its record. -/
theorem isStale_eq (f : Fingerprint) (s : MemoryStore) (dist view : Path) :
    f.isStale s dist view = .ok (!(s.get? (recordOf dist view)).any f.isRecordedIn) := by
  have hread : Store.read s (recordOf dist view) = .ok (s.get? (recordOf dist view)) := rfl
  unfold isStale
  rw [hread]
  cases s.get? (recordOf dist view) <;> rfl

/-- In memory a commit writes the record. -/
theorem commit_memory (g : Fingerprint) (s : MemoryStore) (dist view : Path) :
    (g.commit s dist view).1 = s.insert (recordOf dist view) g.text := rfl

/-- Writing the record of one view leaves the records of views that are shown differently. -/
theorem get?_insert_record (hview : Inside view) (hview' : Inside view') (s : MemoryStore)
    (record : String) : (s.insert (recordOf dist view') record).get? (recordOf dist view) =
      if view'.text = view.text then some record else s.get? (recordOf dist view) := by
  rw [MemoryStore.get?_insert]
  simp only [Engine.key_record_inj dist hview' hview]

theorem commitAll_concat (s : MemoryStore) (commits : List (Path × Fingerprint))
    (c : Path × Fingerprint) :
    commitAll dist s (commits ++ [c]) = (c.2.commit (commitAll dist s commits) dist c.1).1 := by
  rw [commitAll, List.foldl_append]
  rfl

theorem lastCommit?_concat (commits : List (Path × Fingerprint)) (c : Path × Fingerprint)
    (shown : String) : lastCommit? (commits ++ [c]) shown =
      if c.1.text = shown then some c.2 else lastCommit? commits shown := by
  rw [lastCommit?, MemoryStore.getLast?_filter_concat, lastCommit?, apply_ite (Option.map Prod.snd)]
  rfl

/-- The record of a view is that of the last commit for a view that is shown like it. -/
theorem get?_commitAll (hview : Inside view) (hcommits : ∀ c ∈ commits, Inside c.1)
    (s : MemoryStore) : (commitAll dist s commits).get? (recordOf dist view) =
      ((lastCommit? commits view.text).map Fingerprint.text).or (s.get? (recordOf dist view)) := by
  induction commits using List.reverseRecOn with
  | nil => rfl
  | append_singleton commits c ih =>
      rw [commitAll_concat, commit_memory, get?_insert_record hview (hcommits c (by simp)),
        lastCommit?_concat, ih fun c' hc' => hcommits c' (List.mem_append_left _ hc')]
      split <;> rfl

theorem exists_of_lastCommit? {shown : String} (h : lastCommit? commits shown = some g) :
    ∃ c ∈ commits, c.2 = g := by
  obtain ⟨c, hc, rfl⟩ := Option.map_eq_some_iff.1 h
  exact ⟨c, (List.mem_filter.1 (List.mem_of_getLast? hc)).1, rfl⟩

/-- Where all views are texts, a view is shown like itself alone. -/
theorem lastCommit?_text (htexts : ∀ c ∈ commits, c.1.IsText) (hview : view.IsText) :
    lastCommit? commits view.text = lastCommitAt? commits view := by
  have hfilter : commits.filter (·.1.text = view.text) = commits.filter (·.1 = view) :=
    List.filter_congr fun c hc => decide_eq_decide.2 ((htexts c hc).text_eq_iff hview)
  rw [lastCommit?, hfilter, lastCommitAt?]

/-- A view is stale for a fingerprint unless this was committed last for one that is shown like
it. -/
theorem isStale_commitAll_eq (hempty : ∀ p, IsView p → s.get? (recordOf dist p) = none)
    (hcommits : ∀ c ∈ commits, IsView c.1 ∧ c.2.IsComputed) (hview : IsView view)
    (hf : f.IsComputed) : f.isStale (commitAll dist s commits) dist view =
      .ok (decide (lastCommit? commits view.text ≠ some f)) := by
  rw [isStale_eq, get?_commitAll hview.names fun c hc => (hcommits c hc).1.names,
    hempty view hview, Option.or_none, Option.any_map]
  cases hlast : lastCommit? commits view.text with
  | none => rfl
  | some g =>
      -- a fingerprint is recorded in no other's text
      obtain ⟨c, hc, rfl⟩ := exists_of_lastCommit? hlast
      have hrecorded : f.isRecordedIn c.2.text = decide (c.2 = f) := by
        rw [Bool.eq_iff_iff, hf.isRecordedIn_iff (hcommits c hc).2, decide_eq_true_iff, eq_comm]
      simp [hrecorded]

/-- The record of a view that is shown differently does not matter. -/
theorem isStale_insert_record (hview : IsView view) (hview' : IsView view')
    (hne : view'.text ≠ view.text) (f : Fingerprint) (s : MemoryStore) (record : String) :
    f.isStale (s.insert (recordOf dist view') record) dist view = f.isStale s dist view := by
  rw [isStale_eq, isStale_eq, get?_insert_record hview.names hview'.names, if_neg hne]

/-- Let fingerprints be committed for views on a store without records.  Then a view is stale for a
fingerprint unless this was committed last for a view that is shown like it.  A commit for a view
that is shown differently changes nothing for it, and neither does another spelling of a record, in
case or in the blanks around it.  No text records two fingerprints.  So if the views are texts, a
view is stale unless the fingerprint was committed last for this view, and no commit for another one
changes that. -/
theorem isStale_commitAll (hempty : ∀ p, IsView p → s.get? (recordOf dist p) = none)
    (hcommits : ∀ c ∈ commits, IsView c.1 ∧ c.2.IsComputed) (hview : IsView view)
    (hf : f.IsComputed) :
    f.isStale (commitAll dist s commits) dist view =
        .ok (decide (lastCommit? commits view.text ≠ some f)) ∧
      (∀ (other : Path) (g : Fingerprint), IsView other → other.text ≠ view.text →
        f.isStale (g.commit (commitAll dist s commits) dist other).1 dist view =
          f.isStale (commitAll dist s commits) dist view) ∧
      (∀ other record spelled, IsView other →
        (commitAll dist s commits).get? (recordOf dist other) = some record →
          Text.SpelledAlike record spelled →
            f.isStale ((commitAll dist s commits).insert (recordOf dist other) spelled) dist view =
              f.isStale (commitAll dist s commits) dist view) ∧
      (∀ record g, g.IsComputed → f.isRecordedIn record = true → g.isRecordedIn record = true →
        f = g) ∧
      (view.IsText → (∀ c ∈ commits, c.1.IsText) →
        f.isStale (commitAll dist s commits) dist view =
            .ok (decide (lastCommitAt? commits view ≠ some f)) ∧
          ∀ (other : Path) (g : Fingerprint), IsView other → other.IsText → other ≠ view →
            f.isStale (g.commit (commitAll dist s commits) dist other).1 dist view =
              f.isStale (commitAll dist s commits) dist view) := by
  have hstale := isStale_commitAll_eq hempty hcommits hview hf
  refine ⟨hstale, fun other g hother hne => isStale_insert_record hview hother hne f _ _,
    fun other record spelled hother hrecord hsame => ?_,
    fun record g hg hrecord hrecord' => eq_of_isRecordedIn hf hg hrecord hrecord',
    fun htext htexts => ⟨?_, fun other g hother htext' hne => ?_⟩⟩
  · by_cases hshown : other.text = view.text
    · have hkey := (Engine.key_record_inj dist hother.names hview.names).2 hshown
      have hrecord' : (commitAll dist s commits).get? (recordOf dist view) = some record := by
        rw [← hrecord, MemoryStore.get?, MemoryStore.get?, hkey]
      rw [isStale_eq, isStale_eq, get?_insert_record hview.names hother.names, if_pos hshown,
        hrecord', Option.any_some, Option.any_some, isRecordedIn_congr hsame]
    · exact isStale_insert_record hview hother hshown f _ _
  · rw [hstale, lastCommit?_text htexts htext]
  · exact isStale_insert_record hview hother (fun h => hne ((htext'.text_eq_iff htext).1 h)) f _ _

/-- Two views, of which the first is committed twice: its first fingerprint is stale, its second one
is not, and not in capitals either. -/
theorem isStale_commitAll_twoViews :
    let dist : Path := ⟨"../storage/"⟩
    let home : Path := ⟨"home.blade.php"⟩
    let about : Path := ⟨"pages/about.blade.php"⟩
    let commits := [(home, Fingerprint.of "x" ""), (about, Fingerprint.of "y" ""),
      (home, Fingerprint.of "z" "1")]
    IsView home ∧ IsView about ∧
      (Fingerprint.of "x" "").isStale (commitAll dist .empty commits) dist home = .ok true ∧
      (Fingerprint.of "z" "1").isStale (commitAll dist .empty commits) dist home = .ok false ∧
      (Fingerprint.of "z" "1").isStale ((commitAll dist .empty commits).insert (recordOf dist home)
        (Text.asciiUpper (Fingerprint.of "z" "1").text)) dist home = .ok false := by
  intro dist home about commits
  have hhome : IsView home := ⟨by decide, by decide⟩
  have habout : IsView about := ⟨by decide, by decide⟩
  have hcommits : ∀ c ∈ commits, IsView c.1 ∧ c.2.IsComputed := by
    intro c hc
    simp only [commits, List.mem_cons, List.not_mem_nil, or_false] at hc
    rcases hc with rfl | rfl | rfl
    · exact ⟨hhome, _, _, rfl⟩
    · exact ⟨habout, _, _, rfl⟩
    · exact ⟨hhome, _, _, rfl⟩
  have hlast : lastCommit? commits home.text = some (Fingerprint.of "z" "1") := by
    simp [commits, lastCommit?, home, about, Path.text_mk]
  have hother : Fingerprint.of "z" "1" ≠ Fingerprint.of "x" "" := by
    decide +kernel
  have hempty : ∀ p, IsView p → MemoryStore.get? .empty (recordOf dist p) = none :=
    fun _ _ => rfl
  obtain ⟨hfirst, -⟩ := isStale_commitAll hempty hcommits hhome ⟨"x", "", rfl⟩
  obtain ⟨hsecond, -, hspelled, -⟩ := isStale_commitAll hempty hcommits hhome ⟨"z", "1", rfl⟩
  have hrecord : (commitAll dist .empty commits).get? (recordOf dist home) =
      some (Fingerprint.of "z" "1").text := by
    rw [get?_commitAll hhome.names fun c hc => (hcommits c hc).1.names, hlast]
    rfl
  have hcapitals := hspelled home _ _ hhome hrecord (Text.spelledAlike_asciiUpper _)
  rw [hlast] at hfirst hsecond
  have hfresh : (Fingerprint.of "z" "1").isStale (commitAll dist .empty commits) dist home =
      .ok false := by
    simpa using hsecond
  exact ⟨hhome, habout, by simpa [hother] using hfirst, hfresh, hcapitals.trans hfresh⟩

/-- Two views in directories whose names are no text: a commit for one of them makes the other one
stale. -/
theorem isStale_of_shared_record :
    let dist : Path := ⟨"storage"⟩
    let first : Path := ⟨[0x64, 0xFF, 0x2F, 0x61]⟩
    let second : Path := ⟨[0x64, 0xFE, 0x2F, 0x61]⟩
    let commits := [(first, Fingerprint.of "x" ""), (second, Fingerprint.of "y" "")]
    IsView first ∧ IsView second ∧ first ≠ second ∧
      lastCommitAt? commits first = some (Fingerprint.of "x" "") ∧
      (Fingerprint.of "x" "").isStale (commitAll dist .empty commits) dist first ≠ .ok false := by
  intro dist first second commits
  have hfirst : IsView first := ⟨by decide, by decide⟩
  have hsecond : IsView second := ⟨by decide, by decide⟩
  refine ⟨hfirst, hsecond, by decide, by decide +kernel, ?_⟩
  have hshown : second.text = first.text := by decide +kernel
  have hother : ¬ (Fingerprint.of "x" "").isRecordedIn (Fingerprint.of "y" "").text = true := by
    decide +kernel
  have hkept : (commitAll dist .empty commits).get? (recordOf dist first) =
      some (Fingerprint.of "y" "").text :=
    (get?_insert_record hfirst.names hsecond.names _ _).trans (if_pos hshown)
  rw [isStale_eq, hkept]
  simpa using hother

end Fingerprint

end ScopedViews

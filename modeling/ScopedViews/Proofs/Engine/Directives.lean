import ScopedViews.Proofs.Engine.Assembly
import ScopedViews.Proofs.Engine.Outcomes
import ScopedViews.Proofs.Path.Shown
import ScopedViews.Proofs.Rewrite.Includes
/-!
# Where the loaders of a view are included

Behind what remains of a view, each loader that is used is included on a line of its own, the style
loader first.  The rewrite comes after that.  It leaves the directives alone, for they are inert,
but the line break in front of the first one is behind what remains of the view: a continuation
mark, a pragma or a comment at its end takes the line break away.

* `Block.remainder`, `StagedAll.body_eq`: what remains of a view;
* `Loader.includeLines`: the lines by which loaders are included;
* `IsLoaderOf.inert`, `includeLines_inert`: such lines are inert.

The last theorem tells when the compiled text ends with these lines.
-/

namespace ScopedViews

/-- What remains of a text without the first block of each kind. -/
def Block.remainder (kinds : List Block.Kind) (text : String) : String :=
  kinds.foldl (fun body kind => ((Block.find? kind body).map Block.Found.remaining).getD body) text

/-- The lines by which those of the loaders that are used are included, each with the line break in
front of it. -/
def Loader.includeLines (ls : List Loader) (o : Options) : List Char :=
  (ls.filter Loader.isUsed).flatMap fun l => '\n' :: (l.includeDirective o).toList

namespace Engine

open Rewrite (Inert clean)

variable {σ : Type} [Store σ] {e : Engine} {s : σ} {view : Path} {f : Fingerprint} {o : Options}

/-- A stage takes the first block of its kind out of the text and leaves the rest of it alone. -/
theorem StagedAll.body_eq {kinds : List Block.Kind} {a b : Assembly}
    (h : StagedAll e s view f kinds a b) : b.body = Block.remainder kinds a.body := by
  induction h with
  | nil => rfl
  | @cons kind kinds a b c hstaged _ ih =>
      rw [ih]
      show _ = Block.remainder kinds (((Block.find? kind a.body).map _).getD a.body)
      cases hstaged with
      | absent hfind => rw [hfind, Option.map_none, Option.getD_none]
      | found hfind => rw [hfind, Option.map_some, Option.getD_some]

/-! ## Directives are inert -/

/-- The directive that includes a loader by default. -/
theorem fillIn_loaderInclude (identifier : String) :
    (fillIn "@include('$path')" pathPlaceholder identifier).toList =
      "@include('".toList ++ identifier.toList ++ "')".toList := by
  have hfind : Text.find? pathPlaceholder.toList "@include('$path')".toList = some 10 := by decide
  have hlength : pathPlaceholder.length = 5 := by decide
  rw [fillIn, Text.replaceFirst, hfind]
  simp [hlength]

theorem mem_dotted {stem : String} {c : Char} (h : c ∈ (Path.dotted stem).toList) :
    c ≠ '/' ∧ (c = '.' ∨ c ∈ stem.toList) := by
  rw [Path.dotted, String.toList_ofList] at h
  obtain ⟨d, hd, rfl⟩ := List.mem_map.1 h
  have hd : d ∈ stem.toList := (List.dropWhile_suffix _).subset hd
  by_cases hslash : d = '/'
  · simp [hslash]
  · simp [hslash, hd]

theorem mem_stripSuffix {text suffix : String} {c : Char}
    (h : c ∈ (Path.stripSuffix text suffix).toList) : c ∈ text.toList := by
  rw [Path.stripSuffix] at h
  split at h
  next =>
      rw [String.toList_ofList] at h
      exact List.mem_of_mem_take h
  next => exact h

/-- The name of a loader consists of characters of the path, dots and the name of its kind. -/
theorem mem_identifierOf {path : Path} {kind : AssetKind} {suffix : String} {c : Char}
    (h : c ∈ (Loader.identifierOf path.normalize kind suffix).toList) :
    c ≠ '/' ∧ (c = '.' ∨ c ∈ path.text.toList ∨ c ∈ kind.loaderSuffix.toList) := by
  rw [Loader.identifierOf, String.toList_append] at h
  rcases List.mem_append.1 h with h | h
  · obtain ⟨hslash, hc⟩ := mem_dotted h
    rcases hc with hc | hc
    · exact ⟨hslash, Or.inl hc⟩
    · rcases Path.mem_slashed_normalize (mem_stripSuffix hc) with hc | hc | hc
      · exact absurd hc hslash
      · exact ⟨hslash, Or.inl hc⟩
      · exact ⟨hslash, Or.inr (Or.inl hc)⟩
  · have hslash : '/' ∉ kind.loaderSuffix.toList := by cases kind <;> decide
    exact ⟨fun hc => hslash (hc ▸ h), Or.inr (Or.inr h)⟩

/-- The directive of a loader is inert if the path of its view has no closing brace and no closing
angle bracket. -/
theorem IsLoaderOf.inert {path : Path} {kind : AssetKind} {l : Loader}
    (hl : IsLoaderOf path.normalize kind o l) (hinclude : o.loaderInclude = "@include('$path')")
    (hbrace : '}' ∉ path.text.toList) (hangle : '>' ∉ path.text.toList) :
    Inert (l.includeDirective o).toList := by
  have hdirective : (l.includeDirective o).toList =
      "@include('".toList ++ l.identifier.toList ++ "')".toList := by
    rw [Loader.includeDirective, hinclude, fillIn_loaderInclude]
  have hmem {c : Char} (hc : c ∈ (l.includeDirective o).toList) :
      c ∈ "@include('')".toList ∨
        (c ≠ '/' ∧ (c = '.' ∨ c ∈ path.text.toList ∨ c ∈ kind.loaderSuffix.toList)) := by
    rw [hdirective, hl.identifier_eq] at hc
    rcases List.mem_append.1 hc with hc | hc
    · rcases List.mem_append.1 hc with hc | hc
      · exact Or.inl (List.mem_append_left "')".toList hc)
      · exact Or.inr (mem_identifierOf hc)
    · exact Or.inl (List.mem_append_right "@include('".toList hc)
  -- no character of the directive itself, of a name or of a path is one that is looked for
  refine ⟨⟨_, by rw [hdirective]; rfl⟩, fun hc => ?_, fun hc => ?_, fun hc => ?_⟩
  · rcases hmem hc with hc | ⟨hslash, -⟩
    · exact absurd hc (by decide)
    · exact hslash rfl
  · rcases hmem hc with hc | ⟨-, hc | hc | hc⟩
    · exact absurd hc (by decide)
    · exact absurd hc (by decide)
    · exact hbrace hc
    · exact absurd hc (by cases kind <;> decide)
  · rcases hmem hc with hc | ⟨-, hc | hc | hc⟩
    · exact absurd hc (by decide)
    · exact absurd hc (by decide)
    · exact hangle hc
    · exact absurd hc (by cases kind <;> decide)

/-! ## The compiled text -/

theorem includeLines_cons (l : Loader) (ls : List Loader) (o : Options) :
    Loader.includeLines (l :: ls) o =
      (if l.isUsed then '\n' :: (l.includeDirective o).toList else []) ++
        Loader.includeLines ls o := by
  by_cases hl : l.isUsed = true
  · simp [Loader.includeLines, hl]
  · simp [Loader.includeLines, hl]

/-- The loaders are included behind what remains of the view. -/
theorem toList_included (a : Assembly) (o : Options) :
    (a.included o).toList = a.body.toList ++ Loader.includeLines a.loaders o := by
  have hfold (ls : List Loader) (body : String) :
      (ls.foldl (fun body l => if l.isUsed then body ++ "\n" ++ l.includeDirective o else body)
          body).toList = body.toList ++ Loader.includeLines ls o := by
    induction ls generalizing body with
    | nil => simp [Loader.includeLines]
    | cons l ls ih =>
        rw [List.foldl_cons, ih, includeLines_cons]
        by_cases hl : l.isUsed = true
        · simp [hl]
        · simp [hl]
  exact hfold a.loaders a.body

/-- The lines of loaders with inert directives are a line break and an inert text, if there are
any. -/
theorem includeLines_inert {ls : List Loader}
    (hls : ∀ l ∈ ls, Inert (l.includeDirective o).toList) (hne : Loader.includeLines ls o ≠ []) :
    ∃ back, Loader.includeLines ls o = '\n' :: back ∧ Inert back := by
  induction ls with
  | nil => exact absurd rfl hne
  | cons l ls ih =>
      have hl := hls l List.mem_cons_self
      have hrest := ih fun other hmem => hls other (List.mem_cons_of_mem l hmem)
      rw [includeLines_cons] at hne ⊢
      by_cases hused : l.isUsed = true
      · rw [if_pos hused]
        by_cases hlines : Loader.includeLines ls o = []
        · exact ⟨_, by rw [hlines, List.append_nil], hl⟩
        · obtain ⟨back, hback, hinert⟩ := hrest hlines
          exact ⟨_, by rw [hback, List.cons_append], hl.append_line hinert⟩
      · rw [if_neg hused, List.nil_append] at hne ⊢
        exact hrest hne

/-- A list ends with a text and a line break in front of it. -/
theorem lineFeed_cons_suffix_iff {front back : List Char} :
    '\n' :: back <:+ front ++ back ↔ front.getLast? = some '\n' := by
  constructor
  · rintro ⟨more, hmore⟩
    have hfront : more ++ ['\n'] = front := by
      have hcancel : more ++ ['\n'] ++ back = front ++ back := by
        rw [← hmore, List.append_assoc]
        rfl
      exact List.append_cancel_right hcancel
    rw [← hfront, List.getLast?_concat]
  · intro hlast
    obtain ⟨more, rfl⟩ := List.getLast?_eq_some_iff.1 hlast
    exact ⟨more, by simp⟩

/-- Let a view be compiled with the default directive for loaders, and let its path have no closing
brace and no closing angle bracket.  If no loader is used, the compiled text is the rewritten rest
of the view.  If some are, it is the rewritten rest with a line break, and their lines behind it
without the line break in front.  So it ends with the lines of the loaders exactly if none is used
or the rewrite leaves the line break behind the rest of the view alone. -/
theorem includeLines_suffix_code (e : Engine) (s : σ) (file : SourceFile) (view : CompiledView)
    (hinclude : e.options.loaderInclude = "@include('$path')")
    (hbrace : '}' ∉ file.path.text.toList) (hangle : '>' ∉ file.path.text.toList)
    (hfresh : (e.compile file s).result = .ok (.fresh view)) :
    ∃ text, file.contents = some text ∧
      (Loader.includeLines view.loaders e.options = [] →
        view.code = rewrite (Block.remainder Block.kinds text)) ∧
      (∀ back, Loader.includeLines view.loaders e.options = '\n' :: back →
        view.code.toList =
          clean ((Block.remainder Block.kinds text).toList ++ ['\n']) ++ back) ∧
      (Loader.includeLines view.loaders e.options <:+ view.code.toList ↔
        Loader.includeLines view.loaders e.options = [] ∨
          (clean ((Block.remainder Block.kinds text).toList ++ ['\n'])).getLast? =
            some '\n') := by
  obtain ⟨text, a, hcontents, hassembled, -, rfl⟩ := fresh_of_compile hfresh
  have hbody : a.body = Block.remainder Block.kinds text := hassembled.body_eq
  have hloaders := hassembled.assembled (assembled_start file.path.normalize text e.options)
  have hinert : ∀ l ∈ a.loaders, Inert (l.includeDirective e.options).toList := by
    intro l hl
    rcases List.mem_cons.1 hl with rfl | hl
    · exact hloaders.style.inert hinclude hbrace hangle
    · rw [List.mem_singleton.1 hl]
      exact hloaders.script.inert hinclude hbrace hangle
  have hcode : (a.code e.options).toList =
      clean ((Block.remainder Block.kinds text).toList ++
        Loader.includeLines a.loaders e.options) := by
    rw [Assembly.code, rewrite, String.toList_ofList, toList_included, hbody]
  have hused : ∀ back, Loader.includeLines a.loaders e.options = '\n' :: back →
      (a.code e.options).toList =
        clean ((Block.remainder Block.kinds text).toList ++ ['\n']) ++ back := by
    intro back hback
    obtain ⟨back', hback', hinert'⟩ := includeLines_inert hinert (by simp [hback])
    obtain rfl : back = back' := by simpa [hback] using hback'
    rw [hcode, hback, Rewrite.clean_append_inert hinert']
  refine ⟨text, hcontents, fun hnone => ?_, hused, ?_⟩
  · rw [Assembly.code, rewrite, rewrite, toList_included, hbody]
    show String.ofList (clean (_ ++ Loader.includeLines a.loaders e.options)) = _
    rw [hnone, List.append_nil]
  · cases hlines : Loader.includeLines a.loaders e.options with
    | nil => simp
    | cons c back =>
        obtain ⟨back', hback', -⟩ := includeLines_inert hinert (by simp [hlines])
        obtain ⟨rfl, rfl⟩ : c = '\n' ∧ back = back' := by simpa [hlines] using hback'
        show '\n' :: back <:+ (a.code e.options).toList ↔ _
        rw [hused back hlines, lineFeed_cons_suffix_iff]
        simp

/-- A text without marks, pragmas and comments keeps the line break. -/
theorem includeLines_suffix_code_of_plain_text :
    ∃ view,
      (asWritten.compile ⟨⟨"a.blade.php"⟩, some "hello<style data-scoped></style>"⟩
        MemoryStore.empty).result = .ok (.fresh view) ∧
      Loader.includeLines view.loaders asWritten.options = "\n@include('a__style')".toList ∧
      Loader.includeLines view.loaders asWritten.options <:+ view.code.toList := by
  have hrun : (freshView? (asWritten.compile
      ⟨⟨"a.blade.php"⟩, some "hello<style data-scoped></style>"⟩ MemoryStore.empty)).map
        (fun view => Loader.includeLines view.loaders asWritten.options) =
      some "\n@include('a__style')".toList := by
    decide +kernel
  obtain ⟨view, hview, hlines⟩ := Option.map_eq_some_iff.1 hrun
  obtain ⟨text, htext, -, -, hsuffix⟩ := includeLines_suffix_code asWritten MemoryStore.empty
    ⟨⟨"a.blade.php"⟩, some "hello<style data-scoped></style>"⟩ view rfl (by decide) (by decide)
    (result_of_freshView? hview)
  obtain rfl : "hello<style data-scoped></style>" = text := Option.some.inj htext
  exact ⟨view, result_of_freshView? hview, hlines, hsuffix.2 (Or.inr (by decide +kernel))⟩

/-- A continuation mark at the end of what remains takes the line break away. -/
theorem includeLines_not_suffix_code :
    asWritten.options.isValid = true ∧ ∃ view,
      (asWritten.compile ⟨⟨"a.blade.php"⟩, some "hello<style data-scoped></style>//@"⟩
        MemoryStore.empty).result = .ok (.fresh view) ∧
      Loader.includeLines view.loaders asWritten.options = "\n@include('a__style')".toList ∧
      view.code = "hello@include('a__style')" ∧
      ¬ Loader.includeLines view.loaders asWritten.options <:+ view.code.toList := by
  have hrun : (freshView? (asWritten.compile
      ⟨⟨"a.blade.php"⟩, some "hello<style data-scoped></style>//@"⟩ MemoryStore.empty)).map
        (fun view => (Loader.includeLines view.loaders asWritten.options, view.code)) =
      some ("\n@include('a__style')".toList, "hello@include('a__style')") := by
    decide +kernel
  obtain ⟨view, hview, hboth⟩ := Option.map_eq_some_iff.1 hrun
  obtain ⟨hlines, hcode⟩ := Prod.mk.inj hboth
  refine ⟨isValid_asWritten, view, result_of_freshView? hview, hlines, hcode, ?_⟩
  rw [hlines, hcode]
  decide

end Engine

end ScopedViews

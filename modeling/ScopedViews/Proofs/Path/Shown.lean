import ScopedViews.Proofs.Path.Normal
import ScopedViews.Proofs.Text.Utf8
/-!
# How paths are shown

A path is shown name by name, so that it is read back with the names that are shown: the others stay
as they are.  A path that is a text is read back as it is, and paths with different names may be
shown alike.

* `Component.shown`, `components_slashed`: what is read back;
* `resolveAll_map_shown`: names are resolved the same way as they are shown;
* `map_shown_eq_self_iff`, `IsText`: when nothing is lost;
* `Inside.shown`: paths that are made of names.
-/

namespace ScopedViews.Path

open Text (lossy encode)

variable {bytes : Bytes} {c : Component} {cs : List Component} {p q : Path}

/-! ## Parts -/

theorem encode_joinParts (parts : List (List Char)) :
    encode (joinParts '/' parts) = joinParts slash (parts.map encode) := by
  induction parts with
  | nil => rfl
  | cons part parts ih =>
      cases parts with
      | nil => rfl
      | cons next parts =>
          show encode (part ++ '/' :: joinParts '/' (next :: parts)) = _
          rw [Text.encode_append, Text.encode_cons, ih]
          rfl

/-- No character reaches over a separator. -/
theorem lossy_joinParts (parts : List Bytes) :
    lossy (joinParts slash parts) = joinParts '/' (parts.map lossy) := by
  induction parts with
  | nil => rfl
  | cons part parts ih =>
      cases parts with
      | nil => rfl
      | cons next parts =>
          have hslash (rest : Bytes) : lossy (slash :: rest) = '/' :: lossy rest :=
            Text.lossy_encodeChar_append '/' rest
          show lossy (part ++ slash :: joinParts slash (next :: parts)) = _
          rw [Text.lossy_append (Text.startsAnew_cons (by decide) _), hslash, ih]
          rfl

/-- The pieces of a path are those parts that it is put together from. -/
theorem joinParts_pieces (bytes : Bytes) : joinParts slash (pieces bytes) = bytes := by
  induction bytes with
  | nil => rfl
  | cons b bytes ih =>
      obtain ⟨piece, more, hpieces⟩ := List.exists_cons_of_ne_nil (pieces_ne_nil bytes)
      rw [hpieces] at ih
      rw [pieces, hpieces]
      by_cases hb : b = slash
      · rw [if_pos hb, hb]
        exact congrArg (slash :: ·) ih
      · rw [if_neg hb]
        cases more with
        | nil => exact congrArg (b :: ·) ih
        | cons next more => exact congrArg (b :: ·) ih

theorem no_slash_utf8 {text : String} : slash ∉ Text.utf8 text ↔ '/' ∉ text.toList :=
  not_congr (Text.mem_encode_iff rfl (by decide))

/-- No separator is shown where none is. -/
theorem no_slash_encode_lossy (h : slash ∉ bytes) : slash ∉ encode (lossy bytes) := by
  have hslash : String.utf8EncodeChar '/' = [slash] := rfl
  rw [Text.mem_encode_iff hslash (by decide)]
  intro hmem
  have hsubset := Text.subset_of_mem_lossy hmem (by decide)
  exact h (hsubset (hslash ▸ List.mem_singleton_self slash))

/-- The pieces of a text are texts. -/
theorem isText_of_mem_pieces (h : Text.IsText bytes) {piece : Bytes}
    (hpiece : piece ∈ pieces bytes) : Text.IsText piece := by
  have hslash : ∀ part ∈ (pieces bytes).map (encode ∘ lossy), slash ∉ part := by
    intro part hpart
    obtain ⟨piece, hpiece, rfl⟩ := List.mem_map.1 hpart
    exact no_slash_encode_lossy fun hmem => (mem_of_mem_pieces hpiece hmem).2 rfl
  -- put together again, the pieces that are shown make the same text
  have hjoined : joinParts slash ((pieces bytes).map (encode ∘ lossy)) = bytes := by
    rw [← List.map_map, ← encode_joinParts, ← lossy_joinParts, joinParts_pieces]
    exact Text.isText_iff.1 h
  have hpieces := pieces_joinParts (by simp [pieces_ne_nil]) hslash
  rw [hjoined] at hpieces
  have hsame := List.map_inj_left.1 (hpieces.symm.trans (List.map_id _).symm)
  exact Text.isText_iff.2 (hsame piece hpiece)

/-! ## Components -/

namespace Component

/-- A component as it is read back where it is shown. -/
def shown : Component → Component
  | name bytes => name (encode (lossy bytes))
  | c => c

theorem chars_current : current.chars = ['.'] := Text.lossy_encode ['.']

theorem chars_parent : parent.chars = ['.', '.'] := Text.lossy_encode ['.', '.']

theorem bytes_shown (c : Component) : c.shown.bytes = encode c.chars := by
  cases c with
  | name bytes => rfl
  | root => rfl
  | current =>
      rw [chars_current]
      rfl
  | parent =>
      rw [chars_parent]
      rfl

theorem shown_eq_self_iff : c.shown = c ↔ ∀ bytes, c = .name bytes → Text.IsText bytes := by
  cases c with
  | name bytes =>
      rw [shown, name.injEq, ← Text.isText_iff]
      exact ⟨fun h other heq => name.inj heq ▸ h, fun h => h bytes rfl⟩
  | root => exact iff_of_true rfl nofun
  | current => exact iff_of_true rfl nofun
  | parent => exact iff_of_true rfl nofun

end Component

/-- What is shown for a name is read as a name. -/
theorem IsName.shown (h : IsName bytes) : IsName (encode (lossy bytes)) := by
  -- a dot that is shown is a dot, so that nothing else is shown like `.` and `..`
  have hdots (cs : List Char) (heq : encode (lossy bytes) = encode ('.' :: cs)) :
      ∃ rest, bytes = dot :: rest ∧ lossy rest = cs :=
    Text.eq_of_lossy_eq_cons (Text.encode_injective heq) (by decide)
  refine ⟨fun heq => ?_, fun heq => ?_, fun heq => ?_, no_slash_encode_lossy h.no_slash⟩
  · exact h.ne_nil (Text.lossy_eq_nil_iff.1 (Text.encode_injective heq))
  · obtain ⟨rest, rfl, hrest⟩ := hdots [] heq
    rw [Text.lossy_eq_nil_iff] at hrest
    exact h.ne_current (congrArg (dot :: ·) hrest)
  · obtain ⟨rest, rfl, hrest⟩ := hdots ['.'] heq
    obtain ⟨last, rfl, hlast⟩ := Text.eq_of_lossy_eq_cons hrest (by decide)
    rw [Text.lossy_eq_nil_iff] at hlast
    exact h.ne_parent (congrArg (fun last => dot :: dot :: last) hlast)

theorem Component.IsInner.shown (h : c.IsInner) : c.shown.IsInner := by
  rcases h with rfl | ⟨bytes, rfl, hname⟩
  · exact Or.inl rfl
  · exact Or.inr ⟨_, rfl, hname.shown⟩

theorem Placed.map_shown (h : Placed cs) : Placed (cs.map Component.shown) := by
  obtain ⟨head, tail, rfl, hhead, htail⟩ := h
  refine ⟨head, tail.map Component.shown, ?_, hhead, fun c hc => ?_⟩
  · rcases hhead with rfl | rfl | rfl <;> rfl
  · obtain ⟨d, hd, rfl⟩ := List.mem_map.1 hc
    exact (htail d hd).shown

/-! ## Whole paths -/

theorem lossy_render (cs : List Component) :
    lossy (render cs) = renderAs '/' Component.chars cs := by
  have hparts (cs : List Component) : lossy (joinParts slash (cs.map Component.bytes)) =
      joinParts '/' (cs.map Component.chars) := by
    rw [lossy_joinParts, List.map_map]
    rfl
  cases cs with
  | nil => rfl
  | cons c cs =>
      cases c with
      | root =>
          show lossy (String.utf8EncodeChar '/' ++ joinParts slash (cs.map Component.bytes)) = _
          rw [Text.lossy_encodeChar_append, hparts]
          rfl
      | _ => exact hparts _

theorem encode_renderAs (cs : List Component) :
    encode (renderAs '/' Component.chars cs) = render (cs.map Component.shown) := by
  have hparts (cs : List Component) : encode (joinParts '/' (cs.map Component.chars)) =
      joinParts slash ((cs.map Component.shown).map Component.bytes) := by
    rw [encode_joinParts, List.map_map, List.map_map]
    exact congrArg (joinParts slash) (List.map_congr_left fun c _ => (c.bytes_shown).symm)
  cases cs with
  | nil => rfl
  | cons c cs =>
      cases c with
      | root => exact congrArg (slash :: ·) (hparts cs)
      | _ => exact hparts _

/-- A path that is read back from how it is shown has the components that are shown. -/
theorem components_slashed (p : Path) :
    (Path.mk p.slashed).components = p.components.map Component.shown := by
  rw [components, slashed, Text.utf8_ofList, encode_renderAs]
  exact componentsOf_render (placed_components p).map_shown

/-- Names are resolved the same way as they are shown. -/
theorem resolveAll_map_shown (cs : List Component) :
    resolveAll (cs.map Component.shown) = (resolveAll cs).map Component.shown := by
  have hresolve (stack : List Component) (c : Component) :
      resolve (stack.map Component.shown) c.shown = (resolve stack c).map Component.shown := by
    cases c with
    | parent =>
        cases stack with
        | nil => rfl
        | cons top below => cases top <;> rfl
    | _ => rfl
  have hfold (stack : List Component) :
      (cs.map Component.shown).foldl resolve (stack.map Component.shown) =
        (cs.foldl resolve stack).map Component.shown := by
    induction cs generalizing stack with
    | nil => rfl
    | cons c cs ih =>
        rw [List.map_cons, List.foldl_cons, hresolve, ih]
        rfl
  rw [resolveAll, resolveAll, List.map_reverse]
  exact congrArg List.reverse (hfold [])

/-- Two paths are rendered alike exactly if their components are shown alike. -/
theorem slashed_eq_iff : p.slashed = q.slashed ↔
    p.components.map Component.shown = q.components.map Component.shown := by
  constructor
  · intro h
    rw [← components_slashed, h, components_slashed]
  · intro h
    have hencode := encode_renderAs p.components
    rw [h, ← encode_renderAs] at hencode
    exact congrArg String.ofList (Text.encode_injective hencode)

/-- A path made of names is shown as it is written. -/
theorem Inside.slashed_eq (hp : Inside p) : p.slashed = p.text := by
  obtain ⟨names, -, -, hbytes, hcomponents⟩ := hp
  rw [slashed, hcomponents, ← lossy_render, render_names, ← hbytes]
  rfl

/-- A path made of names is shown as one. -/
theorem Inside.mk_text (hp : Inside p) :
    Inside ⟨p.text⟩ ∧ (Path.mk p.text).components = p.components.map Component.shown := by
  have hcomponents := components_slashed p
  rw [hp.slashed_eq] at hcomponents
  refine ⟨?_, hcomponents⟩
  have hbytes : Text.utf8 p.text = render (p.components.map Component.shown) := by
    rw [← hp.slashed_eq, slashed, Text.utf8_ofList, encode_renderAs]
  obtain ⟨names, hne, hnames, -, hp⟩ := hp
  have hshown : p.components.map Component.shown =
      (names.map (encode ∘ lossy)).map .name := by
    rw [hp, List.map_map, List.map_map]
    rfl
  rw [hshown, render_names] at hbytes
  refine ⟨names.map (encode ∘ lossy), by simpa using hne, fun bytes hmem => ?_, hbytes,
    hcomponents.trans hshown⟩
  obtain ⟨name, hname, rfl⟩ := List.mem_map.1 hmem
  exact (hnames name hname).shown

theorem Inside.text_eq_iff (hp : Inside p) (hq : Inside q) : p.text = q.text ↔
    p.components.map Component.shown = q.components.map Component.shown := by
  rw [← hp.slashed_eq, ← hq.slashed_eq, slashed_eq_iff]

theorem text_addSuffix (p : Path) (suffix : String) :
    (p.addSuffix suffix).text = p.text ++ suffix := by
  rw [text, addSuffix, Text.decodeLossy, Text.lossy_append_utf8, String.ofList_append,
    String.ofList_toList]
  rfl

/-! ## Paths that are texts -/

/-- A path that is a text. -/
def IsText (p : Path) : Prop := Text.IsText p.bytes

theorem text_mk (s : String) : (Path.mk s).text = s := Text.decodeLossy_utf8 s

/-- A text is an absolute path exactly if it starts with a separator. -/
theorem isAbsolute_mk_iff {s : String} :
    (Path.mk s).isAbsolute = true ↔ s.toList.head? = some '/' := by
  rw [isAbsolute, beq_iff_eq]
  show (encode s.toList).head? = _ ↔ _
  cases s.toList with
  | nil => exact iff_of_false nofun nofun
  | cons c cs =>
      obtain ⟨b, rest, hc⟩ := List.exists_cons_of_ne_nil (Text.encodeChar_ne_nil c)
      rw [Text.encode_cons, hc, List.cons_append, List.head?_cons, List.head?_cons,
        Option.some.injEq, Option.some.injEq]
      constructor
      · rintro rfl
        have hmem : slash ∈ String.utf8EncodeChar c := hc ▸ List.mem_cons_self
        exact Text.encodeChar_injective (Text.encodeChar_eq_of_mem hmem (by decide))
      · rintro rfl
        exact (List.cons.inj hc).1.symm

theorem IsText.mk_text (h : p.IsText) : Path.mk p.text = p := by
  obtain ⟨s, hs⟩ := h
  rw [text, ← hs, Text.decodeLossy_utf8, hs]

/-- Texts are told apart as they are shown. -/
theorem IsText.text_eq_iff (hp : p.IsText) (hq : q.IsText) : p.text = q.text ↔ p = q := by
  refine ⟨fun h => ?_, congrArg text⟩
  rw [← hp.mk_text, h, hq.mk_text]

theorem map_shown_eq_self_iff : cs.map Component.shown = cs ↔
    ∀ bytes, .name bytes ∈ cs → Text.IsText bytes := by
  have hmem : cs.map Component.shown = cs ↔ ∀ c ∈ cs, c.shown = c := by
    conv_lhs => rhs; rw [← List.map_id cs]
    exact List.map_inj_left
  rw [hmem]
  constructor
  · exact fun h bytes hbytes => Component.shown_eq_self_iff.1 (h _ hbytes) bytes rfl
  · exact fun h c hc => Component.shown_eq_self_iff.2 fun bytes heq => h bytes (heq ▸ hc)

/-- The names of a text are texts. -/
theorem IsText.isText_of_mem (h : p.IsText) (hmem : .name bytes ∈ p.components) :
    Text.IsText bytes :=
  isText_of_mem_pieces h (mem_of_name_mem_readPieces hmem)

theorem IsText.map_shown (h : p.IsText) : p.components.map Component.shown = p.components :=
  map_shown_eq_self_iff.2 fun _ hmem => h.isText_of_mem hmem

theorem IsText.map_shown_normalize (h : p.IsText) :
    p.normalize.components.map Component.shown = p.normalize.components := by
  rw [components_normalize, ← resolveAll_map_shown, h.map_shown]

/-! ## Characters of a normal form -/

theorem mem_renderAs {x : Char} (h : x ∈ renderAs '/' Component.chars cs) :
    x = '/' ∨ ∃ c ∈ cs, x ∈ c.chars := by
  have hparts (cs : List Component) (h : x ∈ joinParts '/' (cs.map Component.chars)) :
      x = '/' ∨ ∃ c ∈ cs, x ∈ c.chars := by
    rcases mem_joinParts h with hslash | ⟨part, hpart, hx⟩
    · exact Or.inl hslash
    · obtain ⟨c, hc, rfl⟩ := List.mem_map.1 hpart
      exact Or.inr ⟨c, hc, hx⟩
  cases cs with
  | nil => exact hparts _ h
  | cons c cs =>
      cases c with
      | root =>
          rcases List.mem_cons.1 h with hslash | h
          · exact Or.inl hslash
          · exact (hparts cs h).imp_right fun ⟨c, hc, hx⟩ => ⟨c, List.mem_cons_of_mem _ hc, hx⟩
      | _ => exact hparts _ h

theorem mem_joinParts_of_mem {α : Type} {separator x : α} {parts : List (List α)} {part : List α}
    (hpart : part ∈ parts) (hx : x ∈ part) : x ∈ joinParts separator parts := by
  induction parts with
  | nil => cases hpart
  | cons first parts ih =>
      cases parts with
      | nil => exact List.mem_singleton.1 hpart ▸ hx
      | cons next parts =>
          show x ∈ first ++ separator :: joinParts separator (next :: parts)
          rcases List.mem_cons.1 hpart with rfl | hpart
          · exact List.mem_append_left _ hx
          · exact List.mem_append_right _ (List.mem_cons_of_mem _ (ih hpart))

/-- The characters of a normal form are those of the path, separators and dots. -/
theorem mem_slashed_normalize {x : Char} (h : x ∈ p.normalize.slashed.toList) :
    x = '/' ∨ x = '.' ∨ x ∈ p.text.toList := by
  rw [slashed, String.toList_ofList, components_normalize] at h
  rcases mem_renderAs h with hslash | ⟨c, hc, hx⟩
  · exact Or.inl hslash
  · cases c with
    | root => cases hx
    | current => exact Or.inr (Or.inl (by simpa [Component.chars_current] using hx))
    | parent => exact Or.inr (Or.inl (by simpa [Component.chars_parent] using hx))
    | name bytes =>
        have hpiece : bytes ∈ pieces p.bytes := mem_of_name_mem_readPieces (mem_resolveAll hc)
        have hshown : x ∈ joinParts '/' ((pieces p.bytes).map lossy) :=
          mem_joinParts_of_mem (List.mem_map_of_mem hpiece) hx
        rw [← lossy_joinParts, joinParts_pieces] at hshown
        exact Or.inr (Or.inr (by rwa [text, Text.decodeLossy, String.toList_ofList]))

end ScopedViews.Path

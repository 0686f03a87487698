import Mathlib.Data.Finset.Card
import Mathlib.Data.Finset.SDiff
import ScopedViews.Sandbox.Value
/-!
# The text of arrays

Arrays may contain themselves, so that printing one follows a graph.  It ends because an array that
is being printed is left out, and there are only so many arrays.  What is printed is the beginning
of the full rendering, and all of it up to the limit.  Past the limit no element is begun, so that
the text exceeds the limit by one separator and one value that is no array.

* `rendering`: the full text of a value, of any length;
* `Prints`, `Prints.unique`: what printing does, step by step and without a bound on its depth;
* `Written`: what one part of the printing leaves behind the text in front of it;
* `prints_writeText`: printing ends, and leaves the beginning of the rendering;
* `toText_exact`: the text of a value.
-/

namespace ScopedViews.Sandbox

namespace Value

/-- The text of a value that is no array. -/
def ownText : Value → String
  | .undefined => "undefined"
  | .null => "null"
  | .bool b => if b then "true" else "false"
  | .number x => Number.text x
  | .string s => s
  | .array _ => ""
  | .object _ => "[object Object]"
  | .function f => f.source

end Value

/-- How many arrays are not being printed. -/
def Heap.unseen (h : Heap) (path : List Nat) : Nat :=
  (Finset.range h.arrays.size \ path.toFinset).card

theorem Heap.unseen_cons_lt {h : Heap} {path : List Nat} {address : Nat}
    (hbound : address < h.arrays.size) (hpath : address ∉ path) :
    h.unseen (address :: path) < h.unseen path := by
  refine Finset.card_lt_card (Finset.ssubset_iff_of_subset ?_ |>.2 ⟨address, ?_, ?_⟩)
  · refine Finset.sdiff_subset_sdiff (Finset.Subset.refl _) fun other hother => ?_
    rw [List.mem_toFinset] at hother ⊢
    exact List.mem_cons_of_mem address hother
  · simp [hbound, hpath]
  · simp

/-- Only an array of the heap has elements. -/
theorem Heap.lt_of_mem_elements {h : Heap} {address : Nat} {item : Value}
    (hitem : item ∈ (h.elements address).toList) : address < h.arrays.size := by
  by_contra hbound
  have hempty : h.elements address = #[] := by
    simp [elements, Array.getD, hbound]
  simp [hempty] at hitem

/-- The full text of a value inside the arrays of `path`.  An array is its elements between commas;
undefined and null elements are empty, and so are the arrays of the path. -/
def rendering (h : Heap) (path : List Nat) : Value → String
  | .array address =>
    if _ : address ∈ path then ""
    else
      ",".intercalate ((h.elements address).toList.attach.map fun ⟨item, _⟩ =>
        if item.isNullish then "" else rendering h (address :: path) item)
  | v => v.ownText
termination_by h.unseen path
decreasing_by exact Heap.unseen_cons_lt (Heap.lt_of_mem_elements ‹_›) ‹_›

/-- The full text of an element. -/
def renderedItem (h : Heap) (path : List Nat) (item : Value) : String :=
  if item.isNullish then "" else rendering h path item

section Rendering

variable {h : Heap} {path : List Nat} {address : Nat} {v : Value}

theorem rendering_of_mem (hpath : address ∈ path) : rendering h path (.array address) = "" := by
  rw [rendering, dif_pos hpath]

theorem rendering_array (hpath : address ∉ path) : rendering h path (.array address) =
    ",".intercalate ((h.elements address).toList.map (renderedItem h (address :: path))) := by
  rw [rendering, dif_neg hpath]
  congr 1
  exact List.attach_map_val (f := renderedItem h (address :: path))

theorem rendering_of_not_isArray (hv : v.isArray = false) : rendering h path v = v.ownText := by
  cases v with
  | array address => cases hv
  | _ => rw [rendering]; simp

end Rendering

/-! ## Printing step by step -/

/-- The text in front of an element: there is a comma unless the element is the first. -/
def separated (first : Bool) (out : String) : String := if first then out else out.push ','

mutual

/-- Printing a value inside the arrays of a path makes `out'` of the text `out`, and prints the
values `printed`, which are no arrays. -/
inductive Prints (h : Heap) : List Nat → Value → String → List Value → String → Prop
  | own {path v out} (hv : v.isArray = false) : Prints h path v out [v] (out ++ v.ownText)
  | again {path address out} (hpath : address ∈ path) :
    Prints h path (.array address) out [] out
  | array {path address out printed out'} (hpath : address ∉ path)
    (hitems : PrintsItems h (address :: path) (h.elements address).toList true out printed out') :
    Prints h path (.array address) out printed out'

/-- The same of the elements of an array that are left. -/
inductive PrintsItems (h : Heap) :
    List Nat → List Value → Bool → String → List Value → String → Prop
  | done {path first out} : PrintsItems h path [] first out [] out
  | full {path item rest first out} (hfull : maxStringLength < out.utf8ByteSize) :
    PrintsItems h path (item :: rest) first out [] out
  | blank {path item rest first out printed out'} (hroom : out.utf8ByteSize ≤ maxStringLength)
    (hitem : item.isNullish = true)
    (hrest : PrintsItems h path rest false (separated first out) printed out') :
    PrintsItems h path (item :: rest) first out printed out'
  | item {path item rest first out printed out₁ printed' out'}
    (hroom : out.utf8ByteSize ≤ maxStringLength) (hitem : item.isNullish = false)
    (hvalue : Prints h path item (separated first out) printed out₁)
    (hrest : PrintsItems h path rest false out₁ printed' out') :
    PrintsItems h path (item :: rest) first out (printed ++ printed') out'

end

mutual

/-- Printing does one thing only. -/
theorem Prints.unique {h : Heap} {path : List Nat} {v : Value} {out out₁ out₂ : String}
    {printed₁ printed₂ : List Value} :
    Prints h path v out printed₁ out₁ → Prints h path v out printed₂ out₂ →
      printed₁ = printed₂ ∧ out₁ = out₂
  | .own hv, hp => by
    cases hp with
    | own => exact ⟨rfl, rfl⟩
    | again => cases hv
    | array => cases hv
  | .again hpath, hp => by
    cases hp with
    | own hv => cases hv
    | again => exact ⟨rfl, rfl⟩
    | array hpath' => exact absurd hpath hpath'
  | .array hpath hitems, hp => by
    cases hp with
    | own hv => cases hv
    | again hpath' => exact absurd hpath' hpath
    | array _ hitems' => exact PrintsItems.unique hitems hitems'

theorem PrintsItems.unique {h : Heap} {path : List Nat} {items : List Value} {first : Bool}
    {out out₁ out₂ : String} {printed₁ printed₂ : List Value} :
    PrintsItems h path items first out printed₁ out₁ →
      PrintsItems h path items first out printed₂ out₂ → printed₁ = printed₂ ∧ out₁ = out₂
  | .done, hp => by
    cases hp
    exact ⟨rfl, rfl⟩
  | .full hfull, hp => by
    cases hp with
    | full => exact ⟨rfl, rfl⟩
    | blank hroom => exact absurd hfull (Nat.not_lt.2 hroom)
    | item hroom => exact absurd hfull (Nat.not_lt.2 hroom)
  | .blank hroom hitem hrest, hp => by
    cases hp with
    | full hfull => exact absurd hfull (Nat.not_lt.2 hroom)
    | blank _ _ hrest' => exact PrintsItems.unique hrest hrest'
    | item _ hitem' => simp [hitem] at hitem'
  | .item hroom hitem hvalue hrest, hp => by
    cases hp with
    | full hfull => exact absurd hfull (Nat.not_lt.2 hroom)
    | blank _ hitem' => simp [hitem] at hitem'
    | item _ _ hvalue' hrest' =>
        obtain ⟨rfl, rfl⟩ := Prints.unique hvalue hvalue'
        obtain ⟨rfl, rfl⟩ := PrintsItems.unique hrest hrest'
        exact ⟨rfl, rfl⟩

end

/-! ## What a part of the printing leaves -/

/-- Behind `out` stands the beginning of `full`, and all of it unless the limit is passed.  The
limit is passed by a separator and a value that is printed, if it has not been passed before. -/
structure Written (full out out' : String) (printed : List Value) : Prop where
  begins : ∃ text rest, out' = out ++ text ∧ full = text ++ rest ∧
    (rest = "" ∨ maxStringLength < out'.utf8ByteSize)
  size : ∀ longest, (∀ w ∈ printed, w.ownText.utf8ByteSize ≤ longest) →
    out'.utf8ByteSize ≤ max out.utf8ByteSize (maxStringLength + 1 + longest)

namespace Written

variable {full full' out out₁ out₂ : String} {printed printed' : List Value}

theorem nothing (out : String) : Written "" out out [] where
  begins := ⟨"", "", by simp, by simp, .inl rfl⟩
  size _ _ := Nat.le_max_left _ _

theorem own {out : String} (hout : out.utf8ByteSize ≤ maxStringLength + 1) (v : Value) :
    Written v.ownText out (out ++ v.ownText) [v] where
  begins := ⟨v.ownText, "", rfl, by simp, .inl rfl⟩
  size longest hlongest := by
    have hv := hlongest v List.mem_cons_self
    rw [String.utf8ByteSize_append]
    omega

/-- Nothing is written past the limit. -/
theorem full_of_lt (full : String) (hfull : maxStringLength < out.utf8ByteSize) :
    Written full out out [] where
  begins := ⟨"", full, by simp, by simp, .inr hfull⟩
  size _ _ := Nat.le_max_left _ _

theorem utf8ByteSize_separated (first : Bool) (out : String) :
    (separated first out).utf8ByteSize ≤ out.utf8ByteSize + 1 := by
  cases first with
  | true => exact Nat.le_succ _
  | false =>
      show (out.push ',').utf8ByteSize ≤ _
      rw [String.utf8ByteSize_push]
      exact Nat.le_refl _

/-- An element behind its separator, and the elements behind it. -/
theorem cons {first : Bool} (hroom : out.utf8ByteSize ≤ maxStringLength)
    (hitem : Written full (separated first out) out₁ printed)
    (hrest : Written full' out₁ out₂ printed')
    (hstop : maxStringLength < out₁.utf8ByteSize → out₂ = out₁) :
    Written ((if first then "" else ",") ++ full ++ full') out out₂ (printed ++ printed') where
  begins := by
    have hseparated : separated first out = out ++ (if first then "" else ",") := by
      cases first with
      | true => simp [separated]
      | false => exact String.push_eq_append ','
    obtain ⟨text, rest, rfl, rfl, hend⟩ := hitem.begins
    obtain ⟨text', rest', hout, rfl, hend'⟩ := hrest.begins
    rw [hseparated] at hout hstop hend
    rcases hend with rfl | hfull
    · -- the element is complete, and what follows decides
      refine ⟨(if first then "" else ",") ++ text ++ text', rest', ?_, ?_, hend'⟩
      · rw [hout]
        simp only [String.append_assoc]
      · simp only [String.append_assoc, String.append_empty]
    · -- the element has passed the limit, and nothing follows
      have hout₂ := hstop hfull
      refine ⟨(if first then "" else ",") ++ text, rest ++ (text' ++ rest'), ?_, ?_, .inr ?_⟩
      · rw [hout₂]
        simp only [String.append_assoc]
      · simp only [String.append_assoc]
      · rwa [hout₂]
  size longest hlongest := by
    have hfirst := hitem.size longest fun w hw => hlongest w (List.mem_append_left _ hw)
    have hsecond := hrest.size longest fun w hw => hlongest w (List.mem_append_right _ hw)
    have hseparated := utf8ByteSize_separated first out
    omega

end Written

/-! ## The elements of an array -/

/-- Prints the elements that are left. -/
def writeItems (h : Heap) (depth : Nat) (path : List Nat) : List Value → Bool → String → String
  | [], _, out => out
  | item :: rest, first, out =>
    if maxStringLength < out.utf8ByteSize then out
    else
      writeItems h depth path rest false
        (if item.isNullish then separated first out
          else item.writeText h depth path (separated first out))

/-- The full text of the elements that are left. -/
def renderedItems (h : Heap) (path : List Nat) : List Value → Bool → String
  | [], _ => ""
  | item :: rest, first =>
    (if first then "" else ",") ++ renderedItem h path item ++ renderedItems h path rest false

section Items

variable {h : Heap} {depth : Nat} {path : List Nat} {address : Nat} {out : String}

theorem writeItems_of_full (items : List Value) (first : Bool)
    (hfull : maxStringLength < out.utf8ByteSize) :
    writeItems h depth path items first out = out := by
  cases items with
  | nil => rfl
  | cons item rest => rw [writeItems, if_pos hfull]

theorem intercalate_renderedItem (h : Heap) (path : List Nat) (items : List Value) :
    ",".intercalate (items.map (renderedItem h path)) = renderedItems h path items true := by
  have hbehind (item : Value) (rest : List Value) :
      ",".intercalate ((item :: rest).map (renderedItem h path)) =
        renderedItem h path item ++ renderedItems h path rest false := by
    induction rest generalizing item with
    | nil => simp [renderedItems]
    | cons next rest ih =>
        rw [List.map_cons, String.intercalate_cons_of_ne_nil (by simp), ih next, renderedItems]
        simp [String.append_assoc]
  cases items with
  | nil => rfl
  | cons item rest =>
      rw [hbehind, renderedItems]
      simp

theorem writeText_of_not_isArray {v : Value} (hv : v.isArray = false) (depth : Nat)
    (path : List Nat) (out : String) : v.writeText h depth path out = out ++ v.ownText := by
  cases v with
  | array address => cases hv
  | _ => simp only [Value.writeText, Value.ownText]

/-- An array is printed element by element. -/
theorem writeText_array (h : Heap) (depth : Nat) (path : List Nat) (address : Nat) (out : String) :
    Value.writeText h (depth + 1) path (.array address) out =
      if address ∈ path then out
      else writeItems h depth (address :: path) (h.elements address).toList true out := by
  have hfold (items : List Value) (first : Bool) (out : String) :
      (items.foldl (fun (state : String × Bool) item =>
        if maxStringLength < state.1.utf8ByteSize then (state.1, false)
        else
          let out := separated state.2 state.1
          (if item.isNullish then out else item.writeText h depth (address :: path) out, false))
        (out, first)).1 = writeItems h depth (address :: path) items first out := by
    induction items generalizing first out with
    | nil => rfl
    | cons item rest ih =>
        rw [List.foldl_cons, writeItems]
        by_cases hfull : maxStringLength < out.utf8ByteSize
        · simp only [if_pos hfull]
          rw [ih, writeItems_of_full rest false hfull]
        · simp only [if_neg hfull]
          exact ih false _
  rw [Value.writeText]
  by_cases hpath : address ∈ path
  · rw [if_pos (List.contains_iff_mem.2 hpath), if_pos hpath]
  · rw [if_neg fun h => hpath (List.contains_iff_mem.1 h), if_neg hpath, ← Array.foldl_toList]
    exact hfold _ true out

/-- If every element is printed as it should be, then so are all of them. -/
theorem printsItems_writeItems {items : List Value}
    (hitems : ∀ item ∈ items, ∀ out : String, out.utf8ByteSize ≤ maxStringLength + 1 →
      ∃ printed, Prints h path item out printed (item.writeText h depth path out) ∧
        Written (rendering h path item) out (item.writeText h depth path out) printed)
    (first : Bool) (out : String) :
    ∃ printed, PrintsItems h path items first out printed
        (writeItems h depth path items first out) ∧
      Written (renderedItems h path items first) out
        (writeItems h depth path items first out) printed := by
  induction items generalizing first out with
  | nil => exact ⟨[], .done, .nothing out⟩
  | cons item rest ih =>
      have hrest := ih fun other hother => hitems other (List.mem_cons_of_mem item hother)
      rw [writeItems, renderedItems]
      by_cases hfull : maxStringLength < out.utf8ByteSize
      · rw [if_pos hfull]
        exact ⟨[], .full hfull, .full_of_lt _ hfull⟩
      · have hroom := Nat.not_lt.1 hfull
        rw [if_neg hfull]
        by_cases hnullish : item.isNullish = true
        · rw [if_pos hnullish, renderedItem, if_pos hnullish]
          obtain ⟨printed, hprints, hwritten⟩ := hrest false (separated first out)
          exact ⟨printed, .blank hroom hnullish hprints,
            .cons hroom (.nothing _) hwritten (writeItems_of_full rest false)⟩
        · rw [if_neg hnullish, renderedItem, if_neg hnullish]
          have hsize := Written.utf8ByteSize_separated first out
          obtain ⟨printed, hprints, hwritten⟩ :=
            hitems item List.mem_cons_self (separated first out) (by omega)
          obtain ⟨printed', hprints', hwritten'⟩ := hrest false _
          exact ⟨printed ++ printed', .item hroom (by simpa using hnullish) hprints hprints',
            .cons hroom hwritten hwritten' (writeItems_of_full rest false)⟩

end Items

/-! ## Values -/

/-- With a greater depth than there are arrays left, printing ends as it does without any bound. -/
theorem prints_writeText {h : Heap} {depth : Nat} {path : List Nat} {v : Value} {out : String}
    (hdepth : v.isArray = true → h.unseen path < depth)
    (hout : out.utf8ByteSize ≤ maxStringLength + 1) :
    ∃ printed, Prints h path v out printed (v.writeText h depth path out) ∧
      Written (rendering h path v) out (v.writeText h depth path out) printed := by
  induction depth generalizing path v out with
  | zero =>
      have hv : v.isArray = false := by
        by_contra harray
        exact absurd (hdepth (by simpa using harray)) (Nat.not_lt_zero _)
      rw [writeText_of_not_isArray hv, rendering_of_not_isArray hv]
      exact ⟨[v], .own hv, .own hout v⟩
  | succ depth ih =>
      cases v with
      | array address =>
          rw [writeText_array]
          by_cases hpath : address ∈ path
          · rw [if_pos hpath, rendering_of_mem hpath]
            exact ⟨[], .again hpath, .nothing out⟩
          · -- inside the array there is one array less that is not being printed
            have hitems : ∀ item ∈ (h.elements address).toList, ∀ out : String,
                out.utf8ByteSize ≤ maxStringLength + 1 →
                  ∃ printed, Prints h (address :: path) item out printed
                      (item.writeText h depth (address :: path) out) ∧
                    Written (rendering h (address :: path) item) out
                      (item.writeText h depth (address :: path) out) printed := by
              intro item hitem out hout
              have hless := Heap.unseen_cons_lt (Heap.lt_of_mem_elements hitem) hpath
              have hbound := hdepth rfl
              exact ih (fun _ => by omega) hout
            obtain ⟨printed, hprints, hwritten⟩ := printsItems_writeItems hitems true out
            rw [if_neg hpath, rendering_array hpath, intercalate_renderedItem]
            exact ⟨printed, .array hpath hprints, hwritten⟩
      | _ =>
          rw [writeText_of_not_isArray rfl, rendering_of_not_isArray rfl]
          exact ⟨_, .own rfl, .own hout _⟩

theorem toText_eq_writeText (h : Heap) (v : Value) :
    v.toText h = v.writeText h (h.arrays.size + 1) [] "" := by
  cases v with
  | array address => rfl
  | string s => simp [Value.toText, Value.writeText]
  | _ => simp only [Value.toText, Value.writeText]

/-- Printing a value ends, whatever arrays contain each other, and in one way only.  Its text is the
beginning of the full rendering, and all of it if the rendering is not longer than the limit.  The
text is not longer than the limit, one separator and the longest value that is no array and has been
printed. -/
theorem toText_exact (h : Heap) (v : Value) :
    (∃ printed, (∀ printed' text, Prints h [] v "" printed' text ↔
          printed' = printed ∧ text = v.toText h) ∧
      ∀ longest, (∀ w ∈ printed, w.ownText.utf8ByteSize ≤ longest) →
        (v.toText h).utf8ByteSize ≤ maxStringLength + 1 + longest) ∧
      (∃ rest, rendering h [] v = v.toText h ++ rest) ∧
      ((rendering h [] v).utf8ByteSize ≤ maxStringLength → v.toText h = rendering h [] v) := by
  have hdepth : h.unseen [] < h.arrays.size + 1 := by
    simp [Heap.unseen]
  have hout : "".utf8ByteSize ≤ maxStringLength + 1 := by simp
  obtain ⟨printed, hprints, hwritten⟩ := prints_writeText (v := v) (fun _ => hdepth) hout
  rw [← toText_eq_writeText] at hprints hwritten
  obtain ⟨text, rest, htext, hrendering, hend⟩ := hwritten.begins
  rw [String.empty_append] at htext
  subst htext
  refine ⟨⟨printed, fun printed' text' => ⟨fun h => h.unique hprints, ?_⟩,
    fun longest hlongest => ?_⟩, ⟨rest, hrendering⟩, fun hshort => ?_⟩
  · rintro ⟨rfl, rfl⟩
    exact hprints
  · have hsize := hwritten.size longest hlongest
    simpa using hsize
  · -- a text past the limit would not be the beginning of so short a rendering
    rcases hend with rfl | hlong
    · rw [hrendering, String.append_empty]
    · rw [hrendering, String.utf8ByteSize_append] at hshort
      omega

/-- An array with itself and an undefined value between two texts. -/
example : Value.toText ⟨#[#[.string "a", .array 0, .undefined, .string "b"]], #[]⟩ (.array 0) =
    "a,,,b" := by
  decide +kernel

end ScopedViews.Sandbox

import Mathlib.Tactic.Common
import ScopedViews.Proofs.Sandbox.Upkeep.Rules
/-!
# Laws along the evaluation of expressions

Every plan of an expression keeps a law, given that calls do and that the law allows its literals
and definitions.
-/

namespace ScopedViews.Sandbox

open Script

namespace Plan

variable {L : Law} {free : Nat} {m : Machine}

/-! ## Small steps -/

section Leaves

variable {α : Type} {good : α → Prop}

theorem sound_value {a : α} (ha : good a) : (value a).Sound L free good m :=
  sound_leaf (.pure a) fun _ => Law.keeps_pure ha

theorem sound_look (f : Machine → α) : (leaf (.view f)).Sound L free (fun _ => True) m :=
  sound_leaf (.view f) fun _ => Law.keeps_look f

theorem sound_raise {e : Exception} (h : e ≠ .type .unknownFunction) :
    (leaf (.raise e) : Plan (Run.raise e : Run α)).Sound L free good m :=
  sound_leaf (.raise h) fun _ => Law.keeps_raise e

theorem sound_unsupported (c : Construct) (s : Span) :
    (leaf (.halt _) : Plan (Run.unsupported c s : Run α)).Sound L free good m :=
  sound_leaf (.unsupported c s) fun _ => Law.keeps_halt _

end Leaves

/-- An array is built where its elements are admitted, and its size is looked at or respects the
law. -/
theorem sound_newArray {items : Array Value} (hitems : ∀ v ∈ items, L.Admits v) :
    (leaf (.newArray items)).Sound L free L.Admits m :=
  sound_leaf (.newArray items) fun hrespects =>
    Law.keeps_newArray ⟨hrespects.size _ .array, hitems⟩

/-- The value of a link, unless its chain was cut short. -/
def Links (L : Law) (link : Link) : Prop := ∀ v, link = some v → L.Admits v

theorem links_some {v : Value} (hv : L.Admits v) : Links L (some v) := by
  intro w hw
  cases hw
  exact hv

theorem links_none : Links L none := nofun

/-- Calls keep a law if the function may be called and the arguments are admitted. -/
def SoundCalls (L : Law) (free : Nat) {invoke : Invoke} (calls : Calls invoke) : Prop :=
  ∀ start args, L.start start → (∀ v ∈ args, L.Admits v) →
    ∀ m, (calls start args).Sound L free L.Admits m

/-- A scene in which calls keep a law, and whose functions may be held. -/
structure SoundScene (L : Law) (free : Nat) {scene : Scene} (calls : Calls scene.invoke) :
    Prop where
  reads : L.Reads scene.source
  calls : SoundCalls L free calls

/-! ## Methods -/

section Methods

variable {invoke : Invoke} {calls : Calls invoke}

theorem sound_callback (hcalls : SoundCalls L free calls) {f : Value} (hf : L.Admits f)
    {args : Array Value} (hargs : ∀ v ∈ args, L.Admits v) :
    (callback calls f args).Sound L free L.Admits m := by
  cases f with
  | function f => exact hcalls _ _ hf.1 hargs m
  | undefined | null | bool | number | string | array | object =>
      exact sound_bind (sound_look _) fun _ _ _ _ => sound_raise nofun

theorem sound_visitFrom (hcalls : SoundCalls L free calls) (visit : Builtin.Visit) {f : Value}
    (hf : L.Admits f) {receiver : Value} (hreceiver : L.Admits receiver) {items : List Value}
    {i : Nat} {out : Array Value} (hitems : ∀ v ∈ items, L.Admits v) (hout : ∀ v ∈ out, L.Admits v)
    (hsize : L.size (items.length + out.size)) :
    (visitFrom calls visit f receiver items i out).Sound L free L.Admits m := by
  induction items generalizing i out m with
  | nil =>
      refine sound_leaf (.finish visit out) fun _ => Law.keeps_finish visit ⟨?_, hout⟩
      exact L.size_mono (Nat.le_add_left _ _) hsize
  | cons item rest ih =>
      have hitem := hitems item List.mem_cons_self
      have hrest := fun v hv => hitems v (List.mem_cons_of_mem item hv)
      have hargs : ∀ v ∈ #[item, .number (Float.ofNat i), receiver], L.Admits v := by
        simp [hitem, hreceiver]
      -- an element that is added takes the place of the one that has been visited
      have hpush {v : Value} (hv : L.Admits v) :
          (∀ w ∈ out.push v, L.Admits w) ∧ L.size (rest.length + (out.push v).size) := by
        refine ⟨fun w hw => ?_, ?_⟩
        · rcases Array.mem_push.1 hw with hw | rfl
          · exact hout w hw
          · exact hv
        · rw [Array.size_push]
          rw [List.length_cons] at hsize
          exact L.size_mono (by omega) hsize
      have hskip : L.size (rest.length + out.size) := by
        rw [List.length_cons] at hsize
        exact L.size_mono (by omega) hsize
      refine sound_bind (sound_callback hcalls hf hargs) fun result m' _ hresult => ?_
      generalize_proofs
      generalize result.isTruthy = truthy at *
      cases visit with
      | map => exact ih hrest (hpush hresult).1 (hpush hresult).2
      | forEach => exact ih hrest hout hskip
      | filter =>
          cases truthy with
          | true => exact ih hrest (hpush hitem).1 (hpush hitem).2
          | false => exact ih hrest hout hskip
      | some =>
          cases truthy with
          | true => exact sound_value trivial
          | false => exact ih hrest hout hskip
      | every =>
          cases truthy with
          | true => exact ih hrest hout hskip
          | false => exact sound_value trivial
      | find =>
          cases truthy with
          | true => exact sound_value hitem
          | false => exact ih hrest hout hskip

theorem sound_reduceFrom (hcalls : SoundCalls L free calls) {f : Value} (hf : L.Admits f)
    {receiver : Value} (hreceiver : L.Admits receiver) {items : List Value} {i : Nat} {acc : Value}
    (hitems : ∀ v ∈ items, L.Admits v) (hacc : L.Admits acc) :
    (reduceFrom calls f receiver items i acc).Sound L free L.Admits m := by
  induction items generalizing i acc m with
  | nil => exact sound_value hacc
  | cons item rest ih =>
      have hitem := hitems item List.mem_cons_self
      have hrest := fun v hv => hitems v (List.mem_cons_of_mem item hv)
      have hargs : ∀ v ∈ #[acc, item, .number (Float.ofNat i), receiver], L.Admits v := by
        simp [hacc, hitem, hreceiver]
      exact sound_bind (sound_callback hcalls hf hargs) fun result _ _ hresult => ih hrest hresult

theorem sound_elements (address : Nat) :
    (leaf (.view fun m => m.heap.elements address)).Sound L free L.Fits m :=
  sound_leaf (.view _) fun _ => Law.keeps_elements address

theorem sound_checkString (s : String) :
    (leaf (.checkString s)).Sound L free (fun _ => s.utf8ByteSize ≤ maxStringLength) m :=
  sound_leaf (.checkString s) fun _ => Law.keeps_checkString s

/-- Methods that call nothing back build what they build at one point. -/
theorem sound_method {receiver : Value} {method : String} {args : Array Value}
    (hreceiver : L.Admits receiver) (hargs : ∀ v ∈ args, L.Admits v)
    (h : Builtin.callsBack receiver method = false) :
    (leaf (@Leaf.callMethod invoke _ _ args h)).Sound L free L.Admits m := by
  refine sound_leaf (.callMethod args h) fun hrespects => ?_
  refine Law.keeps_callMethod hreceiver hargs h ?_ ?_
  · intro t m' hmethod hx
    exact hrespects.text t (.answered h hmethod hx)
  · rintro s a m' rfl rfl hx t ht
    exact hrespects.text t (.part h hx ht)

theorem sound_callArray (hcalls : SoundCalls L free calls) (address : Nat) (method : String)
    {args : Array Value} (hargs : ∀ v ∈ args, L.Admits v) :
    (callArray calls address method args).Sound L free L.Admits m := by
  have hf := Law.admits_argument hargs 0
  unfold callArray
  split
  next visit hvisit =>
    refine sound_ofEq (sound_bind (sound_elements address) fun items _ _ hitems => ?_)
    refine sound_visitFrom hcalls visit hf (Law.admits_array address) ?_ (by simp) ?_
    · exact fun v hv => hitems.all v (Array.mem_toList_iff.1 hv)
    · simpa using hitems.size
  next hvisit =>
    split
    next hreduce =>
      subst hreduce
      refine sound_bind (sound_elements address) fun items _ _ hitems => ?_
      have hall : ∀ v ∈ items.toList, L.Admits v :=
        fun v hv => hitems.all v (Array.mem_toList_iff.1 hv)
      have hinitial : ∀ v, args[1]? = some v → L.Admits v :=
        fun v hv => hargs v (Array.mem_of_getElem? hv)
      generalize_proofs
      generalize items.toList = list at *
      generalize args[1]? = initial at *
      cases initial with
      | some v =>
          exact sound_reduceFrom hcalls hf (Law.admits_array address) hall (hinitial v rfl)
      | none =>
          cases list with
          | nil => exact sound_raise (by simp)
          | cons first rest =>
              exact sound_reduceFrom hcalls hf (Law.admits_array address)
                (fun v hv => hall v (List.mem_cons_of_mem first hv)) (hall first List.mem_cons_self)
    next hreduce =>
      exact sound_method (Law.admits_array address) hargs
        (Builtin.callsBack_array hvisit hreduce)

/-- A function that makes up a replacement is asked for what is replaced, too. -/
theorem sound_replacementText (hcalls : SoundCalls L free calls) {s pattern : String} (i : Nat)
    {v : Value} (hv : L.Admits v) (hs : L.text s)
    (hpattern : ∀ f, v = .function f → L.text pattern) :
    (replacementText calls s pattern i v).Sound L free (fun _ => True) m := by
  cases v with
  | function f =>
      have hargs : ∀ v ∈ #[.string pattern, .number (Float.ofNat i), .string s], L.Admits v := by
        simp [hs, hpattern f rfl]
      exact sound_bind (hcalls _ _ hv.1 hargs m) fun _ _ _ _ => sound_look _
  | undefined | null | bool | number | string | array | object => exact sound_look _

theorem sound_callString (hcalls : SoundCalls L free calls) {s : String} (method : String)
    {args : Array Value} (hs : L.text s) (hargs : ∀ v ∈ args, L.Admits v) :
    (callString calls s method args).Sound L free L.Admits m := by
  refine sound_self fun hrespects => ?_
  unfold callString
  split
  next hreplace =>
    subst hreplace
    have hsought : (leaf (.text (Builtin.argument args 0))).Sound L free
        (fun pattern => pattern = (Builtin.argument args 0).toText m.heap) m :=
      sound_leaf (.view _) fun _ => Law.keeps_view fun _ => rfl
    refine sound_bind hsought fun pattern _ _ hpattern => ?_
    have hanswer (i : Nat) (hi : Text.find? pattern.toList s.toList = some i) (f : FunctionRef)
        (hf : Builtin.argument args 1 = .function f) : L.text pattern := by
      subst hpattern
      exact hrespects.text _ (.sought hf hi)
    generalize_proofs
    generalize Text.find? pattern.toList s.toList = found at *
    cases found with
    | none => exact sound_value hs
    | some i =>
        have hreplacement := Law.admits_argument hargs 1
        refine sound_bind (sound_replacementText hcalls i hreplacement hs (hanswer i rfl))
          fun text _ _ _ => ?_
        refine sound_bind (sound_checkString _) fun _ _ _ hshort => ?_
        exact sound_value (L.text_of_short hshort)
  next hreplace =>
    exact sound_method (Law.admits_string.2 hs) hargs (by simp [Builtin.callsBack, hreplace])

theorem sound_argumentList (v : Value) :
    (leaf (.argumentList v)).Sound L free (fun items => ∀ x ∈ items, L.Admits x) m :=
  sound_leaf (.argumentList v) fun _ => Law.keeps_argumentList v

theorem sound_callFunction (hcalls : SoundCalls L free calls) {f : FunctionRef}
    (hf : L.Admits (.function f)) (method : String) {args : Array Value}
    (hargs : ∀ v ∈ args, L.Admits v) :
    (callFunction calls f method args).Sound L free L.Admits m := by
  unfold callFunction
  split
  next hcall =>
    subst hcall
    exact hcalls _ _ hf.1 (fun v hv => hargs v (mem_of_mem_extract hv)) m
  next hcall =>
    split
    next happly =>
      subst happly
      exact sound_bind (sound_argumentList _) fun list _ _ hlist => hcalls _ _ hf.1 hlist _
    next happly =>
      exact sound_method hf hargs
        (by simp [Builtin.callsBack, hcall, happly])

theorem sound_callMethod (hcalls : SoundCalls L free calls) {receiver : Value} (method : String)
    {args : Array Value} (hreceiver : L.Admits receiver) (hargs : ∀ v ∈ args, L.Admits v) :
    (callMethod calls receiver method args).Sound L free L.Admits m := by
  cases receiver with
  | array address => exact sound_callArray hcalls address method hargs
  | string s => exact sound_callString hcalls method hreceiver hargs
  | function f => exact sound_callFunction hcalls hreceiver method hargs
  | undefined | null | bool | number | object => exact sound_method hreceiver hargs rfl

end Methods

/-! ## Parts of expressions -/

theorem links_getD {link : Link} (h : Links L link) : L.Admits (link.getD .undefined) := by
  cases link with
  | none => trivial
  | some v => exact h v rfl

theorem sound_settle {x : Run Link} {p : Plan x} (hp : p.Sound L free (Links L) m) :
    (settle p).Sound L free L.Admits m :=
  sound_bind hp fun _ _ _ hlink => sound_value (links_getD hlink)

/-- A value is a link that was not cut short. -/
theorem sound_some {x : Run Value} {p : Plan x} (hp : p.Sound L free L.Admits m) :
    (map some p).Sound L free (Links L) m :=
  sound_map hp fun _ => links_some

theorem sound_follow {object : Run Link} {optional : Bool} {k : Value → Run Link}
    {p : Plan object} {next : ∀ v, Plan (k v)} (hp : p.Sound L free (Links L) m)
    (hnext : ∀ v m, L.Admits v → (next v).Sound L free (Links L) m) :
    (follow p next : Plan (Link.follow object optional k)).Sound L free (Links L) m := by
  refine sound_bind hp fun link m' _ hlink => ?_
  cases link with
  | none => exact sound_value links_none
  | some v =>
      exact sound_choose (fun _ => sound_value links_none) fun _ => hnext v m' (hlink v rfl)

theorem sound_readProperty {object : Run Link} {optional : Bool} {key : Run String}
    {p : Plan object} {pk : Plan key} (hp : p.Sound L free (Links L) m)
    (hkey : ∀ m, pk.Sound L free (fun _ => True) m) :
    (readProperty p pk : Plan (Link.readProperty object optional key)).Sound L free
      (Links L) m := by
  refine sound_follow hp fun v m _ => sound_bind (hkey m) fun key m' _ _ => sound_some ?_
  exact sound_leaf (.readProperty v key) fun _ => Law.keeps_readProperty v key

section Calls

variable {scene : Scene} {calls : Calls scene.invoke} {args : Run (Array Value)} {p : Plan args}

theorem sound_callValue (hcalls : SoundCalls L free calls) {callee : Value}
    (hcallee : L.Admits callee) (hp : ∀ m, p.Sound L free (fun args => ∀ v ∈ args, L.Admits v) m) :
    (callValue calls callee p).Sound L free (Links L) m := by
  refine sound_bind (hp m) fun args m' _ hargs => ?_
  cases callee with
  | function f => exact sound_some (hcalls f.start args hcallee.1 hargs m')
  | undefined | null | bool | number | string | array | object => exact sound_raise nofun

theorem sound_heldMember (receiver : Value) (name : String) :
    (heldMember receiver name).Sound L free (Links L) m := by
  cases receiver with
  | object address =>
      exact sound_leaf (.view _) fun _ => Law.keeps_view fun hm =>
        links_some (hm.get (.object address) name)
  | undefined | null | bool | number | string | array | function => exact sound_value links_none

theorem sound_callHeld (hcalls : SoundCalls L free calls) {receiver : Value} (method : String)
    (optional : Bool) {held : Option Value} (hheld : Links L held) (hreceiver : L.Admits receiver)
    (hp : ∀ m, p.Sound L free (fun args => ∀ v ∈ args, L.Admits v) m) :
    (callHeld calls receiver method optional p held).Sound L free (Links L) m := by
  have hmethod : (bind p fun args => map some (callMethod calls receiver method args)).Sound L free
      (Links L) m :=
    sound_bind (hp m) fun args _ _ hargs =>
      sound_some (sound_callMethod hcalls method hreceiver hargs)
  cases held with
  | none => exact hmethod
  | some v =>
      have hchosen : (choose (value none) (bind p fun args => map some _) :
          Plan (if (v.isNullish && optional) = true then _ else _)).Sound L free (Links L) m :=
        sound_choose (fun _ => sound_value links_none) fun _ => hmethod
      cases v with
      | function f =>
          have hstart := (hheld _ rfl).1
          exact sound_bind (hp m) fun args m' _ hargs =>
            sound_some (hcalls f.start args hstart hargs m')
      | undefined | null | bool | number | string | array | object => exact hchosen

theorem sound_callMember (hcalls : SoundCalls L free calls) {receiver : Value} (method : String)
    (optional : Bool) (hreceiver : L.Admits receiver)
    (hp : ∀ m, p.Sound L free (fun args => ∀ v ∈ args, L.Admits v) m) :
    (callMember calls receiver method optional p).Sound L free (Links L) m :=
  sound_choose (fun _ => sound_raise nofun) fun _ =>
    sound_bind (sound_heldMember receiver method) fun _ _ _ hheld =>
      sound_callHeld hcalls method optional hheld hreceiver hp

/-- What `Object.keys` and `Object.values` list is built at the call. -/
theorem sound_callOwned (owner method : String)
    (hp : ∀ m, p.Sound L free (fun args => ∀ v ∈ args, L.Admits v) m) :
    (callOwned owner method p).Sound L free (Links L) m := by
  refine sound_bind (hp m) fun args m' _ hargs => sound_some ?_
  refine sound_leaf (.callStatic owner method args) fun hrespects => ?_
  refine Law.keeps_callStatic hargs ?_ ?_
  · rintro rfl rfl key hkey
    exact hrespects.text key (.listed hkey)
  · rintro rfl hmethod
    exact hrespects.size _ (.listed hmethod)

theorem sound_lookup (name : String) : (leaf (.lookup name)).Sound L free L.Admits m :=
  sound_leaf (.lookup name) fun _ => Law.keeps_lookup name

theorem sound_convert {name : String} {args : Array Value} {x : Run Value}
    (hconvert : Builtin.convert? name args = some x) (h : Leaf x) :
    (leaf h).Sound L free L.Admits m :=
  sound_leaf (.convert hconvert) fun hrespects => Law.keeps_convert hconvert fun t _ hx =>
    hrespects.text t (.converted hconvert hx)

theorem sound_callName (hcalls : SoundCalls L free calls) (name : String) (optional : Bool)
    (hp : ∀ m, p.Sound L free (fun args => ∀ v ∈ args, L.Admits v) m) :
    (callName calls name optional p).Sound L free (Links L) m := by
  refine sound_bind (sound_look _) fun bound m₁ _ _ => sound_choose (fun _ => ?_) fun _ => ?_
  · exact sound_follow (sound_some (sound_lookup name)) fun v _ hv => sound_callValue hcalls hv hp
  · refine sound_bind (hp m₁) fun args m₂ _ hargs => ?_
    have hconverts (x : Run Value) (hconvert : Builtin.convert? name args = some x) (h : Leaf x) :
        (leaf h).Sound L free L.Admits m₂ := sound_convert hconvert h
    generalize_proofs
    generalize Builtin.convert? name args = converted at *
    cases converted with
    | some x => exact sound_some (hconverts x rfl _)
    | none => exact sound_raise nofun

theorem sound_callOwner (owner : Option String) (method : String) {ordinary : Run Link}
    {po : Plan ordinary} (hp : ∀ m, p.Sound L free (fun args => ∀ v ∈ args, L.Admits v) m)
    (hordinary : ∀ m, po.Sound L free (Links L) m) :
    (callOwner owner method p po).Sound L free (Links L) m := by
  cases owner with
  | none => exact hordinary m
  | some name =>
      refine sound_bind (sound_look _) fun bound m' _ _ => ?_
      exact sound_choose (fun _ => hordinary m') fun _ => sound_callOwned name method hp

end Calls

/-- What a function value is made of is registered behind it. -/
theorem sound_functionValue {scene : Scene} (hreads : L.Reads scene.source) {f : Function}
    (hf : L.Allows f.literals (⟨false, f⟩ :: f.definitions)) :
    (functionValue scene f).Sound L free L.Admits m := by
  cases f
  exact sound_leaf_of_live (.makeFunction _ _ _) fun _ hlive =>
    Law.keeps_functionValue hreads hf (hlive _ (OrderedMap.mem_keys_insert.2 (.inr rfl)))

theorem sound_methodValue {scene : Scene} (hreads : L.Reads scene.source) {f : Function}
    (hf : L.Allows f.literals (⟨true, f⟩ :: f.definitions)) :
    (methodValue scene f).Sound L free L.Admits m := by
  cases f
  exact sound_leaf_of_live (.makeFunction _ _ _) fun _ hlive =>
    Law.keeps_methodValue hreads hf (hlive _ (OrderedMap.mem_keys_insert.2 (.inr rfl)))

theorem sound_keyText {computed : Bool} {key : Expr} {value : Run Value} {p : Plan value}
    (hp : p.Sound L free L.Admits m) :
    (keyText p : Plan (Sandbox.keyText computed key value)).Sound L free (fun _ => True) m := by
  have hcomputed : (bind p fun v => leaf (.text v)).Sound L free (fun _ => True) m :=
    sound_bind hp fun _ _ _ _ => sound_look _
  unfold keyText Sandbox.keyText
  generalize_proofs
  generalize staticKey? key = fixed at *
  cases computed with
  | true => exact hcomputed
  | false =>
      cases fixed with
      | none => exact hcomputed
      | some text => exact sound_value trivial

/-! ## Assignments -/

section Assignments

variable {place : Run Place} {right : Run Value} {pp : Plan place} {pr : Plan right}

theorem sound_read (p : Place) : (leaf (.read p)).Sound L free L.Admits m :=
  sound_leaf (.read p) fun _ => Law.keeps_read p

theorem sound_write (p : Place) {v : Value} (hv : L.Admits v) :
    (leaf (.write p v)).Sound L free (fun _ => True) m :=
  sound_leaf (.write p v) fun _ => Law.keeps_write p hv

theorem sound_applyBinary (op : BinaryOp) (left right : Value) (span : Span) :
    (leaf (.applyBinary op left right span)).Sound L free L.Admits m :=
  sound_leaf (.applyBinary op left right span) fun _ => Law.keeps_applyBinary op left right span

theorem sound_applyUnary (op : UnaryOp) (v : Value) :
    (leaf (.applyUnary op v)).Sound L free L.Admits m :=
  sound_leaf (.applyUnary op v) fun _ => Law.keeps_applyUnary op v

theorem sound_assignTo (op : AssignOp) (span : Span) (hplace : pp.Sound L free (fun _ => True) m)
    (hright : ∀ m, pr.Sound L free L.Admits m) :
    (assignTo op span pp pr).Sound L free L.Admits m := by
  refine sound_bind hplace fun place m₁ _ _ => ?_
  cases op with
  | plain =>
      refine sound_bind (hright m₁) fun v _ _ hv => ?_
      exact sound_bind (sound_write place hv) fun _ _ _ _ => sound_value hv
  | combined op =>
      refine sound_bind (sound_read place) fun current m₂ _ _ => ?_
      refine sound_bind (hright m₂) fun r _ _ _ => ?_
      refine sound_bind (sound_applyBinary op current r span) fun v _ _ hv => ?_
      exact sound_bind (sound_write place hv) fun _ _ _ _ => sound_value hv
  | logical op =>
      refine sound_bind (sound_read place) fun current m₂ _ hcurrent => ?_
      refine sound_choose (fun _ => sound_value hcurrent) fun _ => ?_
      refine sound_bind (hright m₂) fun v _ _ hv => ?_
      exact sound_bind (sound_write place hv) fun _ _ _ _ => sound_value hv

theorem sound_updateAt (op : UpdateOp) (before : Bool)
    (hplace : pp.Sound L free (fun _ => True) m) :
    (updateAt op before pp).Sound L free L.Admits m := by
  refine sound_bind hplace fun place _ _ _ => ?_
  refine sound_bind (sound_read place) fun current _ _ _ => ?_
  refine sound_bind (sound_look _) fun old _ _ _ => ?_
  exact sound_bind (sound_write place trivial) fun _ _ _ _ => sound_value trivial

end Assignments

/-! ## Expressions -/

theorem text_unboundType (name : String) : L.text (unboundType name) := by
  refine L.text_of_short ?_
  unfold unboundType
  split
  · decide
  · decide

theorem sound_spreadInto {props : Properties} (source : Value) (hprops : L.AdmitsAll props) :
    (leaf (.view _) : Plan (spreadInto props source)).Sound L free L.AdmitsAll m := by
  refine sound_leaf (.view _) fun _ => Law.keeps_view fun hm => ?_
  clear * - hprops hm
  -- key by key, each with what the source has under it
  generalize source.keys m.heap = keys
  induction keys generalizing props with
  | nil => exact hprops
  | cons key rest ih => exact ih (hprops.insert (hm.get source key))

theorem sound_checkLength (s : String) :
    (leaf (.checkLength s)).Sound L free (fun _ => s.utf8ByteSize ≤ maxStringLength) m :=
  sound_leaf (.checkLength s) fun _ => Law.keeps_checkLength s

theorem sound_iterate (v : Value) :
    (leaf (.iterate v)).Sound L free (fun items => ∀ x ∈ items, L.Admits x) m :=
  sound_leaf (.iterate v) fun _ => Law.keeps_iterate v

theorem sound_reserve (present extra : Nat) :
    (leaf (.reserve present extra)).Sound L free (fun _ => True) m :=
  sound_leaf (.reserve present extra) fun _ =>
    (Law.keeps_reserve present extra).imp fun _ _ => trivial

section Expressions

variable {scene : Scene} {calls : Calls scene.invoke}

mutual

/-- Expressions keep a law that allows them. -/
theorem sound_evaluate (hscene : SoundScene L free calls) (e : Expr)
    (he : L.Allows e.literals e.definitions) (m : Machine) :
    (evaluate calls e).Sound L free (Links L) m := by
  cases e with
  | null | boolean | number | thisRef => exact sound_value (links_some trivial)
  | string span s => exact sound_value (links_some (he.texts s (List.mem_singleton_self s)))
  | template span quasis parts =>
      refine sound_bind (sound_evaluateTemplate hscene parts quasis "" he m) fun text _ _ _ => ?_
      refine sound_bind (sound_checkString text) fun _ _ _ hshort => ?_
      exact sound_value (links_some (L.text_of_short hshort))
  | name span name => exact sound_some (sound_lookup name)
  | paren span inner =>
      exact sound_bind (sound_settle (sound_evaluate hscene inner he m)) fun v _ _ hv =>
        sound_value (links_some hv)
  | sequence span items =>
      exact sound_some (sound_evaluateLast hscene items .undefined he trivial m)
  | function f => exact sound_some (sound_functionValue hscene.reads he)
  | array span elements =>
      refine sound_bind (sound_evaluateItems hscene elements #[] he (by simp) m)
        fun items _ _ hitems => ?_
      exact sound_some (sound_newArray hitems)
  | object span members =>
      refine sound_bind (sound_evaluateMembers hscene members .empty he Law.admitsAll_empty m)
        fun props _ _ hprops => sound_some ?_
      exact sound_leaf (.newObject props) fun _ => Law.keeps_newObject hprops
  | member span object name optional =>
      exact sound_readProperty (sound_evaluate hscene object he m) fun _ => sound_value trivial
  | index span object key optional =>
      rw [Expr.literals, Expr.definitions, Law.allows_append] at he
      refine sound_readProperty (sound_evaluate hscene object he.1 m) fun m => ?_
      exact sound_bind (sound_settle (sound_evaluate hscene key he.2 m)) fun _ _ _ _ => sound_look _
  | call span callee arguments optional =>
      rw [Expr.literals, Expr.definitions, Law.allows_append] at he
      have harguments (m : Machine) :=
        sound_evaluateItems hscene arguments #[] he.2 (by simp) m
      cases callee with
      | member span object name link =>
          refine sound_callOwner _ name.text harguments fun m => ?_
          refine sound_follow (sound_evaluate hscene object he.1 m) fun receiver m hv => ?_
          exact sound_callMember hscene.calls name.text optional hv harguments
      | index span object key link =>
          obtain ⟨hcallee, -⟩ := he
          rw [Expr.literals, Expr.definitions, Law.allows_append] at hcallee
          refine sound_follow (sound_evaluate hscene object hcallee.1 m) fun receiver m hv => ?_
          refine sound_bind (sound_settle (sound_evaluate hscene key hcallee.2 m)) fun _ _ _ _ => ?_
          refine sound_bind (sound_look _) fun method _ _ _ => ?_
          exact sound_callMember hscene.calls method optional hv harguments
      | name span name => exact sound_callName hscene.calls name optional harguments
      | _ =>
          exact sound_follow (sound_evaluate hscene _ he.1 m) fun v _ hv =>
            sound_callValue hscene.calls hv harguments
  | pure span inner => exact sound_evaluate hscene inner he m
  | chain span inner =>
      refine sound_choose (fun _ => ?_) fun _ => sound_unsupported _ _
      exact sound_bind (sound_settle (sound_evaluate hscene inner he m)) fun v _ _ hv =>
        sound_value (links_some hv)
  | assign span op target value =>
      rw [Expr.literals, Expr.definitions, Law.allows_append] at he
      refine sound_some (sound_assignTo op span ?_ fun m => ?_)
      · exact sound_evaluatePlace hscene .assignmentTarget target he.1 m
      · exact sound_settle (sound_evaluate hscene value he.2 m)
  | update span op before target =>
      exact sound_some (sound_updateAt op before
        (sound_evaluatePlace hscene .updateTarget target he m))
  | logical span op left right =>
      rw [Expr.literals, Expr.definitions, Law.allows_append] at he
      refine sound_bind (sound_settle (sound_evaluate hscene left he.1 m)) fun l m' _ hl => ?_
      refine sound_choose (fun _ => sound_value (links_some hl)) fun _ => ?_
      exact sound_bind (sound_settle (sound_evaluate hscene right he.2 m')) fun r _ _ hr =>
        sound_value (links_some hr)
  | conditional span test yes no =>
      rw [Expr.literals, Expr.definitions, Law.allows_append, Law.allows_append] at he
      refine sound_bind (sound_settle (sound_evaluate hscene test he.1 m)) fun _ m' _ _ => ?_
      refine sound_choose (fun _ => ?_) fun _ => ?_
      · exact sound_bind (sound_settle (sound_evaluate hscene yes he.2.1 m')) fun v _ _ hv =>
          sound_value (links_some hv)
      · exact sound_bind (sound_settle (sound_evaluate hscene no he.2.2 m')) fun v _ _ hv =>
          sound_value (links_some hv)
  | binary span op left right =>
      rw [Expr.literals, Expr.definitions, Law.allows_append] at he
      refine sound_bind (sound_settle (sound_evaluate hscene left he.1 m)) fun l m' _ _ => ?_
      refine sound_bind (sound_settle (sound_evaluate hscene right he.2 m')) fun r _ _ _ => ?_
      exact sound_some (sound_applyBinary op l r span)
  | unary span op operand =>
      have hoperand (m : Machine) := sound_evaluate hscene operand he m
      cases op with
      | delete => exact sound_unsupported _ _
      | typeof =>
          cases operand with
          | name span name =>
              refine sound_bind (sound_look _) fun bound _ _ _ => ?_
              refine sound_choose (fun _ => ?_) fun _ => ?_
              · exact sound_bind (sound_lookup name) fun v _ _ _ =>
                  sound_value (links_some (Law.text_typeOf v))
              · exact sound_value (links_some (text_unboundType name))
          | _ =>
              exact sound_bind (sound_settle (hoperand m)) fun v _ _ _ =>
                sound_some (sound_applyUnary .typeof v)
      | _ =>
          exact sound_bind (sound_settle (hoperand m)) fun v _ _ _ =>
            sound_some (sound_applyUnary _ v)
  | _ => exact sound_unsupported _ _

theorem sound_evaluateTemplate (hscene : SoundScene L free calls) (es : List Expr)
    (quasis : List Quasi) (text : String)
    (hes : L.Allows (Expr.literalsOfAll es) (Expr.definitionsOfAll es)) (m : Machine) :
    (evaluateTemplate calls es quasis text).Sound L free (fun _ => True) m := by
  cases es with
  | nil =>
      exact sound_leaf (.appendQuasis quasis text) fun _ => Law.keeps_appendQuasis quasis text
  | cons e rest =>
      rw [Expr.literalsOfAll, Expr.definitionsOfAll, Law.allows_append] at hes
      cases quasis with
      | nil => exact sound_value trivial
      | cons quasi quasis =>
          refine sound_bind (sound_settle (sound_evaluate hscene e hes.1 m)) fun v _ _ _ => ?_
          refine sound_bind (sound_look _) fun piece _ _ _ => ?_
          refine sound_bind (sound_checkLength _) fun _ m' _ _ => ?_
          exact sound_evaluateTemplate hscene rest quasis _ hes.2 m'

theorem sound_evaluateLast (hscene : SoundScene L free calls) (es : List Expr) (last : Value)
    (hes : L.Allows (Expr.literalsOfAll es) (Expr.definitionsOfAll es)) (hlast : L.Admits last)
    (m : Machine) :
    (evaluateLast calls es last).Sound L free L.Admits m := by
  cases es with
  | nil => exact sound_value hlast
  | cons e rest =>
      rw [Expr.literalsOfAll, Expr.definitionsOfAll, Law.allows_append] at hes
      exact sound_bind (sound_settle (sound_evaluate hscene e hes.1 m)) fun v m' _ hv =>
        sound_evaluateLast hscene rest v hes.2 hv m'

theorem sound_evaluateItems (hscene : SoundScene L free calls) (es : List Expr)
    (items : Array Value) (hes : L.Allows (Expr.literalsOfAll es) (Expr.definitionsOfAll es))
    (hitems : ∀ v ∈ items, L.Admits v) (m : Machine) :
    (evaluateItems calls es items).Sound L free (fun items => ∀ v ∈ items, L.Admits v) m := by
  have hpush {v : Value} (hv : L.Admits v) : ∀ w ∈ items.push v, L.Admits w := by
    intro w hw
    rcases Array.mem_push.1 hw with hw | rfl
    · exact hitems w hw
    · exact hv
  cases es with
  | nil => exact sound_value hitems
  | cons e rest =>
      rw [Expr.literalsOfAll, Expr.definitionsOfAll, Law.allows_append] at hes
      have hrest (items : Array Value) (hitems : ∀ v ∈ items, L.Admits v) (m : Machine) :=
        sound_evaluateItems hscene rest items hes.2 hitems m
      cases e with
      | spread span inner =>
          refine sound_bind (sound_settle (sound_evaluate hscene inner hes.1 m)) fun v _ _ _ => ?_
          refine sound_bind (sound_iterate v) fun extra _ _ hextra => ?_
          refine sound_bind (sound_reserve _ _) fun _ m' _ _ => hrest _ (fun w hw => ?_) m'
          rcases Array.mem_append.1 hw with hw | hw
          · exact hitems w hw
          · exact hextra w hw
      | hole span => exact hrest _ (hpush Law.admits_undefined) m
      | _ =>
          exact sound_bind (sound_settle (sound_evaluate hscene _ hes.1 m)) fun v m' _ hv =>
            hrest _ (hpush hv) m'

theorem sound_evaluateMembers (hscene : SoundScene L free calls) (members : List Member)
    (props : Properties)
    (hmembers : L.Allows (Member.literalsOfAll members) (Member.definitionsOfAll members))
    (hprops : L.AdmitsAll props) (m : Machine) :
    (evaluateMembers calls members props).Sound L free L.AdmitsAll m := by
  cases members with
  | nil => exact sound_value hprops
  | cons member rest =>
      rw [Member.literalsOfAll, Member.definitionsOfAll, Law.allows_append] at hmembers
      obtain ⟨hmember, hmembers⟩ := hmembers
      have hrest (props : Properties) (hprops : L.AdmitsAll props) (m : Machine) :=
        sound_evaluateMembers hscene rest props hmembers hprops m
      cases member with
      | keyed span computed key value shorthand =>
          rw [Member.literals, Member.definitions, Law.allows_append] at hmember
          have hkey := sound_settle (sound_evaluate hscene key hmember.1 m)
          refine sound_bind (sound_keyText hkey) fun name m' _ _ => ?_
          have hvalue := sound_settle (sound_evaluate hscene value hmember.2 m')
          exact sound_bind hvalue fun v m' _ hv => hrest _ (hprops.insert hv) m'
      | method span isStatic computed key kind f =>
          rw [Member.literals, Member.definitions, Law.allows_append] at hmember
          cases kind with
          | method =>
              have hkey := sound_settle (sound_evaluate hscene key hmember.1 m)
              refine sound_bind (sound_keyText hkey) fun name m' _ _ => ?_
              exact sound_bind (sound_methodValue hscene.reads hmember.2) fun v m' _ hv =>
                hrest _ (hprops.insert hv) m'
          | getter | setter | constructor => exact sound_unsupported _ _
      | spread span value =>
          refine sound_bind (sound_settle (sound_evaluate hscene value hmember m)) fun v _ _ _ => ?_
          exact sound_bind (sound_spreadInto v hprops) fun props m' _ hprops => hrest _ hprops m'
      | field | block | marked => exact sound_unsupported _ _

theorem sound_evaluatePlace (hscene : SoundScene L free calls) (other : Construct) (p : Pattern)
    (hp : L.Allows p.literals p.definitions) (m : Machine) :
    (evaluatePlace calls other p).Sound L free (fun _ => True) m := by
  cases p with
  | name span name => exact sound_value trivial
  | target e =>
      cases e with
      | member span object name optional =>
          exact sound_bind (sound_settle (sound_evaluate hscene object hp m)) fun _ _ _ _ =>
            sound_value trivial
      | index span object key optional =>
          have hparts : L.Allows (object.literals ++ key.literals)
              (object.definitions ++ key.definitions) := hp
          rw [Law.allows_append] at hparts
          have hobject := sound_settle (sound_evaluate hscene object hparts.1 m)
          refine sound_bind hobject fun _ m' _ _ => ?_
          refine sound_bind (sound_settle (sound_evaluate hscene key hparts.2 m')) fun _ _ _ _ => ?_
          exact sound_bind (sound_look _) fun _ _ _ _ => sound_value trivial
      | _ => exact sound_unsupported _ _
  | object | array | default | rest | hole | keyed | decorated => exact sound_unsupported _ _

end

end Expressions

end Plan

end ScopedViews.Sandbox

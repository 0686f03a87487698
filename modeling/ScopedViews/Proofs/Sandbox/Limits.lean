import Mathlib.Tactic.Common
import ScopedViews.Proofs.Sandbox.Upkeep.Statements
/-!
# The limits of strings and arrays

Operators look at the length of what they build, and so do the methods that grow an array.  Some
methods and conversions do not, and nor do the places that list an object or catch an exception.
Every string and every array of an evaluation is within its limit if those are that come from there.

* `InPlay`: the strings of an evaluation;
* `strings_limited_iff`, `arrays_limited_iff`: the limits hold exactly if they do in those places;
* `string_past_limit`, `array_past_limit`: programs that are past a limit.
-/

namespace ScopedViews

theorem OrderedMap.entries_insert_empty {κ α : Type} [DecidableEq κ] (k : κ) (v : α) :
    (OrderedMap.empty.insert k v).entries = #[(k, v)] := by
  simp only [insert, empty]
  split
  next i h => simp at h
  next => rfl

namespace Sandbox

open Script

/-! ## Strings -/

/-- The values that a machine holds: in arrays, in objects and in the frames of calls. -/
inductive Machine.Contains (m : Machine) : Value → Prop
  | element {items : Array Value} {v : Value} (hitems : items ∈ m.heap.arrays) (hv : v ∈ items) :
      m.Contains v
  | member {members : Properties} {e : String × Value} (hmembers : members ∈ m.heap.objects)
      (he : e ∈ members.entries) : m.Contains e.2
  | local {frame : Frame} {e : String × Value} (hframe : frame ∈ m.locals)
      (he : e ∈ frame.entries) : m.Contains e.2
  | global {e : String × Value} (he : e ∈ m.global.entries) : m.Contains e.2

theorem Law.Holds.admits {L : Law} {m : Machine} (h : L.Holds m) {v : Value}
    (hv : m.Contains v) : L.Admits v := by
  cases hv with
  | element hitems hv => exact (h.arrays _ hitems).all v hv
  | member hmembers he => exact h.objects _ hmembers _ he
  | «local» hframe he => exact h.locals _ hframe _ he
  | global he => exact h.global _ he

/-- The point at which an expression is evaluated with a number of free frames. -/
def Point.ofExpr (source : String) (free : Nat) (e : Expr) (m : Machine) : Point where
  run := evaluate ⟨source, invoke source free⟩ e
  plan := Plan.evaluate (Plan.invoke source free) e
  machine := m

/-- The strings that play a part at a point: those that the machine holds before and behind it, the
value of an expression that does not spell it out, and what is built and not looked at. -/
inductive InPlay : Point → String → Prop
  | before {q : Point} {s : String} (h : q.machine.Contains (.string s)) : InPlay q s
  | after {q : Point} {s : String} (h : q.after.Contains (.string s)) : InPlay q s
  | value {source : String} {free : Nat} {e : Expr} {m m' : Machine} {s : String}
      (h : evaluate ⟨source, invoke source free⟩ e m = .ok (some (.string s)) m')
      (hspelled : s ∉ e.literals) : InPlay (.ofExpr source free e m) s
  | built {q : Point} {s : String} (h : Unchecked q s) : InPlay q s

/-- Strings are short or spelled out. -/
def Law.spelled (literals : List String) : Law where
  text s := s.utf8ByteSize ≤ maxStringLength ∨ s ∈ literals
  size _ := True
  text_of_short := .inl
  size_of_small _ := trivial
  size_mono _ _ := trivial

instance {literals : List String} : (Law.spelled literals).Lenient :=
  ⟨fun _ => trivial, fun _ => trivial, fun _ => trivial, fun _ => trivial⟩

/-- A value of an expression is short, spelled out in it or spelled out elsewhere. -/
theorem text_of_evaluate {literals : List String} {source : String} {free : Nat} {e : Expr}
    {m m' : Machine} {s : String} (hm : (Law.spelled literals).Holds m)
    (hall : (Point.ofExpr source free e m).plan.All (Law.spelled literals).Respects m)
    (h : evaluate ⟨source, invoke source free⟩ e m = .ok (some (.string s)) m') :
    s.utf8ByteSize ≤ maxStringLength ∨ s ∈ literals ++ e.literals := by
  have hmore (t : String) (ht : (Law.spelled literals).text t) :
      (Law.spelled (literals ++ e.literals)).text t :=
    ht.imp_right (List.mem_append_left _)
  have hreads : (Law.spelled (literals ++ e.literals)).Reads source := Law.reads_of_lenient source
  have hscene : @Plan.SoundScene (.spelled (literals ++ e.literals)) free
      ⟨source, invoke source free⟩ (Plan.invoke source free) :=
    ⟨hreads, Plan.sound_invoke hreads free⟩
  have hspells : ∀ t ∈ e.literals, (Law.spelled (literals ++ e.literals)).text t :=
    fun t ht => .inr (List.mem_append_right _ ht)
  have hallows := Law.allows_of_lenient hspells e.definitions
  -- the law is kept with the literals of the expression added, and no others are needed
  have hrespects : (Point.ofExpr source free e m).plan.All
      (Law.spelled (literals ++ e.literals)).Respects m :=
    hall.imp fun q hq => hq.imp hmore fun _ _ => trivial
  have hready : (Law.spelled (literals ++ e.literals)).Ready free m :=
    Law.ready_of_lenient (hm.imp hmore fun _ _ => trivial)
  have hgood := (Plan.sound_evaluate hscene e hallows m hready hrespects).2
  exact hgood _ m' h (Law.live_of_lenient m') (.string s) rfl

/-- All strings of an evaluation are short, apart from the literals of the program, exactly if those
are that are built and not looked at. -/
theorem strings_limited_iff {source : String} {p : Program} :
    (∀ q, Reaches (.ofProgram source p) q → ∀ s, InPlay q s →
      s.utf8ByteSize ≤ maxStringLength ∨ s ∈ p.literals) ↔
    ∀ q, Reaches (.ofProgram source p) q → ∀ s, Unchecked q s →
      s.utf8ByteSize ≤ maxStringLength ∨ s ∈ p.literals := by
  constructor
  · intro h q hq s hs
    exact h q hq s (.built hs)
  · intro h q hq s hs
    have hrespects (r : Point) (hr : Reaches (.ofProgram source p) r) :
        (Law.spelled p.literals).Respects r :=
      ⟨h r hr, fun _ _ => trivial⟩
    have hliterals : ∀ t ∈ p.literals, (Law.spelled p.literals).text t := fun _ ht => .inr ht
    have hfine := Point.fine_of_respects hliterals hrespects q hq
    cases hs with
    | before hs => exact hfine.before.admits hs
    | after hs => exact hfine.after.holds.admits hs
    | built hs => exact h q hq s hs
    | value hvalue hspelled =>
        -- what is reached from the expression is reached from the program
        have hall := Plan.all_intro _ fun r hr => hrespects r (hq.trans hr)
        obtain hshort | hmem := text_of_evaluate hfine.before hall hvalue
        · exact .inl hshort
        · exact .inr ((List.mem_append.1 hmem).resolve_right hspelled)

/-! ## Expressions at the beginning of a program -/

/-- Before a program runs one name is bound. -/
theorem find?_initial (name : String) :
    Run.find? name .initial = if name = exportsName then some (.object 0) else none := by
  show OrderedMap.get? (OrderedMap.empty.insert exportsName (Value.object 0)) name = _
  unfold OrderedMap.get?
  rw [OrderedMap.entries_insert_empty]
  by_cases h : name = exportsName
  · simp [h]
  · have hne : ¬ exportsName = name := fun heq => h heq.symm
    simp [h, hne]

theorem isBound_initial {name : String} (h : name ≠ exportsName) :
    Run.isBound name .initial = .ok false .initial := by
  show EStateM.Result.ok (Run.find? name .initial).isSome Machine.initial = _
  rw [find?_initial, if_neg h]
  rfl

theorem lookup_exports : Run.lookup exportsName .initial = .ok (.object 0) .initial := by
  refine Run.lookup_of_find? ?_
  rw [find?_initial, if_pos rfl]

/-- The expression `e` of a program `exports.list = [String(e.length)];`. -/
def measured? (p : Program) : Option Expr :=
  match p.body with
  | [.expression _ (.assign _ .plain (.target (.member _ (.name _ "exports") _ _))
      (.array _ [.call _ (.name _ "String") [.member _ e _ _] _]))] => some e
  | _ => none

theorem literals_of_measured {p : Program} {e : Expr} (h : measured? p = some e) :
    p.literals = e.literals := by
  unfold measured? at h
  split at h
  next hbody =>
    cases h
    rw [Program.literals, hbody]
    simp [Stmt.literalsOfAll, Stmt.literals, Expr.literals, Pattern.literals, Expr.literalsOfAll]
  next => cases h

theorem evaluatePlace_exports (scene : Scene) {span nameSpan : Span} {name : Name}
    {optional : Bool} :
    evaluatePlace scene .assignmentTarget
      (.target (.member span (.name nameSpan "exports") name optional)) .initial =
        .ok (.property (.object 0) name.text) .initial := by
  have hname : evaluate scene (.name nameSpan "exports") .initial =
      .ok (some (.object 0)) .initial :=
    Run.map_of_ok lookup_exports
  exact Run.bind_of_ok (Run.bind_of_ok hname)

theorem reaches_measured {source : String} {p : Program} {e : Expr} (h : measured? p = some e) :
    Reaches (.ofProgram source p) (.ofExpr source maxCallDepth e .initial) := by
  unfold measured? at h
  split at h
  next hbody =>
    cases h
    obtain ⟨span, hashbang, directives, body⟩ := p
    obtain rfl := hbody
    refine .head (.next rfl) (.head .first (.head .first (.head .first (.head .map ?_))))
    -- the place comes first, then the list, the call in it and the argument of the call
    refine .head (.next (evaluatePlace_exports _)) ?_
    refine .head .first (.head .first (.head .first (.head .first (.head .first ?_))))
    refine .head (.next (isBound_initial (by decide))) ?_
    exact .head .first (.head .first (.head .first (.single .first)))
  next => cases h

theorem exists_measured {source : String} {shape : Expr → Bool}
    (h : ((Program.parse? source).bind measured?).any shape = true) :
    ∃ p e, Program.parse? source = some p ∧ measured? p = some e ∧ shape e = true := by
  cases hparse : Program.parse? source with
  | none => simp [hparse] at h
  | some p =>
      cases he : measured? p with
      | none => simp [hparse, he] at h
      | some e =>
          simp only [hparse, Option.bind_some, he, Option.any_some] at h
          exact ⟨p, e, rfl, he, h⟩

/-! ### Repeated literals -/

/-- A literal that is repeated `n` times. -/
def isRepeat (n : Nat) : Expr → Bool
  | .call _ (.member _ (.string _ s) name false) [.number _ x _] _ =>
    s == "x" && name.text == "repeat" && x = Float.ofNat n
  | _ => false

theorem utf8ByteSize_repeatText (s : String) (n : Nat) (out : String) :
    (Builtin.repeatText s n out).utf8ByteSize = out.utf8ByteSize + n * s.utf8ByteSize := by
  induction n generalizing out with
  | zero => simp [Builtin.repeatText]
  | succ n ih =>
      rw [Builtin.repeatText, ih, String.utf8ByteSize_append, Nat.succ_mul]
      omega

theorem utf8ByteSize_repeat (n : Nat) : (Builtin.repeatText "x" n "").utf8ByteSize = n := by
  rw [utf8ByteSize_repeatText]
  show 0 + n * 1 = n
  omega

/-- A count that numbers have room for and that makes no string past the limit. -/
structure Counts (n : Nat) : Prop where
  number : (Float.ofNat n).isNaN = false
  whole : Number.whole? (Number.truncate (Float.ofNat n)) = some (n : Int)
  fits : ¬ Float.ofNat maxStringLength < Float.ofNat 1 * Number.truncate (Float.ofNat n)
  short : n ≤ maxStringLength

theorem checkString_of_short {s : String} (hshort : s.utf8ByteSize ≤ maxStringLength) {m : Machine}
    (hroom : m.steps + s.utf8ByteSize / 64 ≤ maxSteps) :
    Run.checkString s m = .ok () { m with steps := m.steps + s.utf8ByteSize / 64 } := by
  have hcheck : Run.checkLength s m = .ok () m := by
    rw [Run.checkLength, if_neg (Nat.not_lt.2 hshort)]
    rfl
  have hcharge : Run.charge (s.utf8ByteSize / 64) m = _ := charge_eq _ m
  rw [if_neg (Nat.not_lt.2 hroom)] at hcharge
  exact (Run.bind_of_ok hcheck).trans hcharge

theorem stringRepeat_of_counts {n : Nat} (hn : Counts n) {m : Machine}
    (hroom : m.steps + n / 64 ≤ maxSteps) :
    Builtin.stringRepeat "x" #[.number (Float.ofNat n)] m =
      .ok (.string (Builtin.repeatText "x" n "")) { m with steps := m.steps + n / 64 } := by
  have hcount : Builtin.numberArgument #[.number (Float.ofNat n)] 0 0.0 m =
      .ok (Number.truncate (Float.ofNat n)) m := by
    show EStateM.Result.ok (if (Float.ofNat n).isNaN then _ else _) m = _
    rw [hn.number]
    rfl
  have hcheck : Run.checkString (Builtin.repeatText "x" n "") m = _ :=
    checkString_of_short (by rw [utf8ByteSize_repeat]; exact hn.short)
      (by rw [utf8ByteSize_repeat]; exact hroom)
  rw [utf8ByteSize_repeat] at hcheck
  -- neither of the guards in front of the repetition applies
  have hsign : ¬ (n : Int) < 0 := by omega
  have hrepeat := Run.bind_of_ok hcheck
    (k := fun _ => pure (Value.string (Builtin.repeatText "x" n "")))
  refine (Run.bind_of_ok hcount).trans ?_
  rw [hn.whole]
  dsimp only
  rw [if_neg hsign]
  have hone : "x".utf8ByteSize = 1 := by decide
  rw [hone, if_neg hn.fits]
  exact hrepeat

theorem evaluate_isRepeat {scene : Scene} {e : Expr} {n : Nat} (he : isRepeat n e = true)
    (hn : Counts n) {m : Machine} (hroom : m.steps + n / 64 ≤ maxSteps) :
    evaluate scene e m =
      .ok (some (.string (Builtin.repeatText "x" n ""))) { m with steps := m.steps + n / 64 } := by
  unfold isRepeat at he
  split at he
  next span calleeSpan receiverSpan s name countSpan x raw optional =>
    simp only [Bool.and_eq_true, beq_iff_eq, decide_eq_true_eq] at he
    obtain ⟨⟨rfl, hname⟩, rfl⟩ := he
    obtain ⟨nameSpan, text⟩ := name
    obtain rfl : text = "repeat" := hname
    have hmethod : (some <$> Builtin.stringRepeat "x" #[.number (Float.ofNat n)]) m = _ :=
      Run.map_of_ok (stringRepeat_of_counts hn hroom)
    exact hmethod
  next => cases he

theorem evaluateItems_isRepeat {scene : Scene} {e : Expr} {n : Nat} (he : isRepeat n e = true)
    (hn : Counts n) {m : Machine} (hroom : m.steps + n / 64 ≤ maxSteps) (rest : List Expr)
    (items : Array Value) :
    evaluateItems scene (e :: rest) items m =
      evaluateItems scene rest (items.push (.string (Builtin.repeatText "x" n "")))
        { m with steps := m.steps + n / 64 } := by
  have hvalue : evaluate scene e m = _ := evaluate_isRepeat he hn hroom
  cases e with
  | call => exact Run.bind_of_ok (Run.bind_of_ok hvalue)
  | _ => cases he

/-! ### A string past the limit -/

theorem toText_pair {h : Heap} {address : Nat} {a b : String}
    (helements : h.elements address = #[.string a, .string b])
    (ha : a.utf8ByteSize ≤ maxStringLength) :
    (Value.array address).toText h = a.push ',' ++ b := by
  have hlimit : ¬ maxStringLength < a.utf8ByteSize := Nat.not_lt.2 ha
  simp [Value.toText, Value.writeText, helements, hlimit, Value.isNullish]

/-- A repeated literal and another one, joined by a conversion. -/
def joinsRepeat (n : Nat) : Expr → Bool
  | .call _ (.name _ "String") [.array _ [e, .string _ s]] _ => s == "x" && isRepeat n e
  | _ => false

theorem callName_initial {scene : Scene} {name : String} {optional : Bool}
    {args : Run (Array Value)} {items : Array Value} {m : Machine} {x : Run Value}
    (h : name ≠ exportsName) (hargs : args .initial = .ok items m)
    (hconvert : Builtin.convert? name items = some x) :
    callName scene name optional args .initial = (some <$> x) m := by
  refine (Run.bind_of_ok (isBound_initial h)).trans ((Run.bind_of_ok hargs).trans ?_)
  rw [hconvert]

theorem evaluate_joinsRepeat {scene : Scene} {e : Expr} {n : Nat} (he : joinsRepeat n e = true)
    (hn : Counts n) (hroom : n / 64 ≤ maxSteps) :
    ∃ m, evaluate scene e .initial =
      .ok (some (.string ((Builtin.repeatText "x" n "").push ',' ++ "x"))) m := by
  unfold joinsRepeat at he
  split at he
  next span calleeSpan arraySpan e textSpan s optional =>
    simp only [Bool.and_eq_true, beq_iff_eq] at he
    obtain ⟨rfl, he⟩ := he
    have hroom : Machine.initial.steps + n / 64 ≤ maxSteps := by
      show 0 + n / 64 ≤ maxSteps
      omega
    have hitems : evaluateItems scene [e, .string textSpan "x"] #[] .initial =
        .ok #[.string (Builtin.repeatText "x" n ""), .string "x"] _ :=
      evaluateItems_isRepeat he hn hroom [.string textSpan "x"] #[]
    have harray : evaluate scene (.array arraySpan [e, .string textSpan "x"]) .initial =
        (some <$> Run.newArray _) _ := Run.bind_of_ok hitems
    have hargs : evaluateItems scene [.array arraySpan [e, .string textSpan "x"]] #[] .initial =
        .ok #[.array 2] _ :=
      Run.bind_of_ok (Run.bind_of_ok (harray.trans rfl))
    have hshort : (Builtin.repeatText "x" n "").utf8ByteSize ≤ maxStringLength := by
      rw [utf8ByteSize_repeat]
      exact hn.short
    have hconvert (m : Machine) 
          (helements : m.heap.elements 2 =
            #[.string (Builtin.repeatText "x" n ""), .string "x"]) :
        (some <$> Value.string <$> Run.text (.array 2)) m =
          .ok (some (.string ((Builtin.repeatText "x" n "").push ',' ++ "x"))) m := by
      refine Run.map_of_ok (Run.map_of_ok ?_)
      show EStateM.Result.ok ((Value.array 2).toText m.heap) m = _
      rw [toText_pair helements hshort]
    exact ⟨_, (callName_initial (by decide) hargs rfl).trans (hconvert _ rfl)⟩
  next => cases he

/-- A string that `String` builds of an array, longer than the limit by two bytes. -/
def longText : String := "exports.include = [String(String(['x'.repeat(1048576), 'x']).length)];"

theorem counts_maxStringLength : Counts maxStringLength := by
  refine ⟨?_, ?_, ?_, Nat.le_refl _⟩
  · decide +kernel
  · decide +kernel
  · decide +kernel

theorem literals_of_isRepeat {n : Nat} {e : Expr} (he : isRepeat n e = true) :
    e.literals = ["x"] := by
  unfold isRepeat at he
  split at he
  next =>
    simp only [Bool.and_eq_true, beq_iff_eq] at he
    simp [Expr.literals, Expr.literalsOfAll, he.1.1]
  next => cases he

theorem literals_of_joinsRepeat {n : Nat} {e : Expr} (he : joinsRepeat n e = true) :
    e.literals = ["x", "x"] := by
  unfold joinsRepeat at he
  split at he
  next =>
    simp only [Bool.and_eq_true, beq_iff_eq] at he
    simp [Expr.literals, Expr.literalsOfAll, literals_of_isRepeat he.2, he.1]
  next => cases he

theorem string_past_limit : ∃ p, Program.parse? longText = some p ∧
    ∃ q s, Reaches (.ofProgram longText p) q ∧ InPlay q s ∧
      maxStringLength < s.utf8ByteSize ∧ s ∉ p.literals := by
  have hshape : ((Program.parse? longText).bind measured?).any
      (joinsRepeat maxStringLength) = true := by decide +kernel
  obtain ⟨p, e, hparse, he, hjoins⟩ := exists_measured hshape
  have hroom : maxStringLength / 64 ≤ maxSteps := by decide
  obtain ⟨m, hvalue⟩ : ∃ m, evaluate (.ofSource longText) e .initial = .ok (some (.string _)) m :=
    evaluate_joinsRepeat hjoins counts_maxStringLength hroom
  have hsize : ((Builtin.repeatText "x" maxStringLength "").push ',' ++ "x").utf8ByteSize =
      maxStringLength + 2 := by
    rw [String.utf8ByteSize_append, String.utf8ByteSize_push, utf8ByteSize_repeat]
    rfl
  -- the literals of the program have one character each
  have hspelled : (Builtin.repeatText "x" maxStringLength "").push ',' ++ "x" ∉ e.literals := by
    rw [literals_of_joinsRepeat hjoins]
    intro hmem
    have heq : (Builtin.repeatText "x" maxStringLength "").push ',' ++ "x" = "x" := by
      rcases List.mem_cons.1 hmem with heq | hmem
      · exact heq
      · exact List.mem_singleton.1 hmem
    rw [heq] at hsize
    exact absurd hsize (by decide)
  refine ⟨p, hparse, _, _, reaches_measured he, .value hvalue hspelled, ?_, ?_⟩
  · rw [hsize]
    omega
  · rw [literals_of_measured he]
    exact hspelled

/-! ## Arrays -/

/-- Arrays are small. -/
def Law.smallArrays : Law where
  text _ := True
  size n := n ≤ maxArrayLength
  text_of_short _ := trivial
  size_of_small := id
  size_mono := Nat.le_trans

instance : Law.smallArrays.Lenient :=
  ⟨fun _ => trivial, fun _ => trivial, fun _ => trivial, fun _ => trivial⟩

/-- What is built at a point is found behind it. -/
theorem Builds.exists_mem {q : Point} {n : Nat} (h : Builds q n) :
    ∃ items ∈ q.after.heap.arrays, items.size = n := by
  cases h with
  | array => exact ⟨_, Array.mem_push_self, rfl⟩
  | listed hmethod =>
      rcases hmethod with rfl | rfl
      · exact ⟨_, Array.mem_push_self, by simp⟩
      · exact ⟨_, Array.mem_push_self, by simp⟩

/-- All arrays of an evaluation are small exactly if those are that are built and not looked at. -/
theorem arrays_limited_iff {source : String} {p : Program} :
    (∀ q, Reaches (.ofProgram source p) q → ∀ items,
      items ∈ q.machine.heap.arrays ∨ items ∈ q.after.heap.arrays →
        items.size ≤ maxArrayLength) ↔
    ∀ q, Reaches (.ofProgram source p) q → ∀ n, Builds q n → n ≤ maxArrayLength := by
  constructor
  · intro h q hq n hn
    obtain ⟨items, hitems, rfl⟩ := hn.exists_mem
    exact h q hq items (.inr hitems)
  · intro h q hq items hitems
    have hrespects (r : Point) (hr : Reaches (.ofProgram source p) r) :
        Law.smallArrays.Respects r :=
      ⟨fun _ _ => trivial, h r hr⟩
    have hfine := Point.fine_of_respects (fun _ _ => trivial) hrespects q hq
    rcases hitems with hitems | hitems
    · exact (hfine.before.arrays items hitems).size
    · exact (hfine.after.holds.arrays items hitems).size

/-! ### An array past the limit -/

/-- The characters of a repeated literal, counted by `Object.keys`. -/
def listsRepeat (n : Nat) : Expr → Bool
  | .call _ (.member _ (.name _ "Object") name _) [e] _ => name.text == "keys" && isRepeat n e
  | _ => false

theorem length_repeatText (s : String) (n : Nat) (out : String) :
    (Builtin.repeatText s n out).length = out.length + n * s.length := by
  induction n generalizing out with
  | zero => simp [Builtin.repeatText]
  | succ n ih =>
      rw [Builtin.repeatText, ih, String.length_append, Nat.succ_mul]
      omega

/-- The names of as many positions. -/
def positions (n : Nat) : Array Value :=
  ((List.range n).map fun i => Value.string (toString i)).toArray

theorem size_positions (n : Nat) : (positions n).size = n := by
  rw [positions, List.size_toArray, List.length_map, List.length_range]

theorem callOwner_initial {owner method : String} {args : Run (Array Value)} {ordinary : Run Link}
    (h : owner ≠ exportsName) :
    callOwner (some owner) method args ordinary .initial = callOwned owner method args .initial :=
  Run.bind_of_ok (isBound_initial h)

theorem evaluate_listsRepeat {scene : Scene} {e : Expr} {n : Nat} (he : listsRepeat n e = true)
    (hn : Counts n) (hroom : n / 64 ≤ maxSteps) :
    ∃ m, evaluate scene e .initial = .ok (some (.array 2)) m ∧ positions n ∈ m.heap.arrays := by
  unfold listsRepeat at he
  split at he
  next span calleeSpan ownerSpan name optionalName e optional =>
    simp only [Bool.and_eq_true, beq_iff_eq] at he
    obtain ⟨hname, he⟩ := he
    have hroom : Machine.initial.steps + n / 64 ≤ maxSteps := by
      show 0 + n / 64 ≤ maxSteps
      omega
    have hitems : evaluateItems scene [e] #[] .initial =
        .ok #[.string (Builtin.repeatText "x" n "")] _ :=
      evaluateItems_isRepeat he hn hroom [] #[]
    have hlength : (Builtin.repeatText "x" n "").length = n := by
      rw [length_repeatText]
      show 0 + n * 1 = n
      omega
    have hlist (m : Machine) : Builtin.callStatic "Object" "keys"
        #[.string (Builtin.repeatText "x" n "")] m = Run.newArray (positions n) m := by
      show Run.newArray (((List.range (Builtin.repeatText "x" n "").length).map toString).map
        Value.string).toArray m = _
      rw [hlength, List.map_map]
      rfl
    have hcall : callOwned "Object" "keys" (evaluateItems scene [e] #[]) .initial =
        .ok (some (.array 2)) _ :=
      (Run.bind_of_ok hitems).trans (Run.map_of_ok ((hlist _).trans rfl))
    rw [← hname] at hcall
    exact ⟨_, (callOwner_initial (by decide)).trans hcall, Array.mem_push_self⟩
  next => cases he

/-- A list that `Object.keys` makes, longer than the limit by one name. -/
def longList : String := "exports.include = [String(Object.keys('x'.repeat(65537)).length)];"

theorem counts_past_maxArrayLength : Counts (maxArrayLength + 1) := by
  refine ⟨?_, ?_, ?_, ?_⟩
  · decide +kernel
  · decide +kernel
  · decide +kernel
  · decide

theorem array_past_limit : ∃ p, Program.parse? longList = some p ∧
    ∃ q items, Reaches (.ofProgram longList p) q ∧ items ∈ q.after.heap.arrays ∧
      maxArrayLength < items.size := by
  have hshape : ((Program.parse? longList).bind measured?).any
      (listsRepeat (maxArrayLength + 1)) = true := by decide +kernel
  obtain ⟨p, e, hparse, he, hlists⟩ := exists_measured hshape
  have hroom : (maxArrayLength + 1) / 64 ≤ maxSteps := by decide
  obtain ⟨m, hvalue, hitems⟩ : ∃ m, evaluate (.ofSource longList) e .initial = .ok _ m ∧
      positions (maxArrayLength + 1) ∈ m.heap.arrays :=
    evaluate_listsRepeat hlists counts_past_maxArrayLength hroom
  have hafter : (Point.ofExpr longList maxCallDepth e .initial).after = m := by
    show Ending.machine (evaluate (.ofSource longList) e .initial) = m
    rw [hvalue]
    rfl
  refine ⟨p, hparse, _, _, reaches_measured he, hafter ▸ hitems, ?_⟩
  rw [size_positions]
  exact Nat.lt_succ_self _

end Sandbox

end ScopedViews

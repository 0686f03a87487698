import ScopedViews.Proofs.Number.Equality
import ScopedViews.Sandbox.Value
/-!
# Equality of values

Values are compared in two ways.  Identity, `===`, is that of what arrays, objects and functions
refer to, and of the contents of everything else.  Equality, `==`, converts: a text that meets a
number is read as one, and an array, an object or a function that meets a primitive value is
replaced by its text, also an array that contains itself.

* `Compares`: the rules of `==`, with one comparison inside another where a value is converted;
* `compares_iff`: every two values are compared, with one result;
* `Compares.symm`: no rule depends on the order of the two values;
* `equality_laws`: the laws of both.
-/

namespace ScopedViews.Sandbox

/-- How `==` compares two values, rule by rule.  An array, an object or a function is converted to
its text where it meets a value of another kind, and what it is converted to is compared anew. -/
inductive Compares (h : Heap) : Value → Value → Bool → Prop
  | nullish {a b : Value} (hab : a.isNullish = true ∨ b.isNullish = true) :
    Compares h a b (a.isNullish && b.isNullish)
  | texts (s t : String) : Compares h (.string s) (.string t) (s == t)
  | numbers {a b : Value} (ha : a.isNullish = false) (hb : b.isNullish = false)
    (ha' : a.isComposite = false) (hb' : b.isComposite = false)
    (hab : a.isNumericPrimitive = true ∨ b.isNumericPrimitive = true) :
    Compares h a b (a.toNumber h == b.toNumber h)
  | left {a b : Value} {r : Bool} (ha : a.isComposite = true) (hb : b.isNullish = false)
    (hb' : b.isComposite = false) (hr : Compares h (.string (a.toText h)) b r) : Compares h a b r
  | right {a b : Value} {r : Bool} (ha : a.isNullish = false) (ha' : a.isComposite = false)
    (hb : b.isComposite = true) (hr : Compares h (.string (b.toText h)) a r) : Compares h a b r
  | identities {a b : Value} (ha : a.isComposite = true) (hb : b.isComposite = true) :
    Compares h a b (a.strictEquals b)

namespace Value

/-! ## Strict equality -/

theorem strictEquals_comm (a b : Value) : a.strictEquals b = b.strictEquals a := by
  cases a <;> cases b
  case number.number x y => exact BEq.comm
  case bool.bool x y => exact Bool.beq_comm
  case string.string s t => exact BEq.comm
  case array.array x y => exact BEq.comm
  case object.object x y => exact BEq.comm
  case function.function f g => exact BEq.comm
  all_goals rfl

theorem strictEquals_trans {a b c : Value} (hab : a.strictEquals b = true)
    (hbc : b.strictEquals c = true) : a.strictEquals c = true := by
  cases a <;> cases b <;> cases c
  case number.number.number x y z => exact BEq.trans hab hbc
  all_goals simp_all [strictEquals]

/-- Only NaN differs from itself. -/
theorem strictEquals_self (a : Value) :
    a.strictEquals a = true ↔ ∀ x, a = .number x → x.isNaN = false := by
  cases a
  case number x => simp [strictEquals]
  all_goals simp [strictEquals]

theorem typeName_eq_of_strictEquals {a b : Value} (h : a.strictEquals b = true) :
    a.typeName = b.typeName := by
  cases a <;> cases b <;> first | rfl | cases h

/-! ## Loose equality -/

section Rules

variable {h : Heap} {a b : Value}

theorem looseEquals_of_isNullish (hab : a.isNullish = true ∨ b.isNullish = true) :
    a.looseEquals h b = (a.isNullish && b.isNullish) := by
  unfold looseEquals
  rw [if_pos (Bool.or_eq_true_iff.2 hab)]

theorem looseEquals_numbers (ha : a.isNullish = false) (hb : b.isNullish = false)
    (ha' : a.isComposite = false) (hb' : b.isComposite = false)
    (hab : a.isNumericPrimitive = true ∨ b.isNumericPrimitive = true) :
    a.looseEquals h b = (a.toNumber h == b.toNumber h) := by
  cases a <;> cases b <;>
    simp_all [looseEquals, isNullish, isComposite, isNumericPrimitive, textEquals, toNumber]
  all_goals exact BEq.comm

theorem looseEquals_of_isComposite_left (ha : a.isComposite = true) (hb : b.isNullish = false)
    (hb' : b.isComposite = false) :
    a.looseEquals h b = (Value.string (a.toText h)).looseEquals h b := by
  cases a <;> cases b <;> simp_all [looseEquals, isNullish, isComposite, textEquals]

theorem looseEquals_of_isComposite_right (ha : a.isNullish = false) (ha' : a.isComposite = false)
    (hb : b.isComposite = true) :
    a.looseEquals h b = (Value.string (b.toText h)).looseEquals h a := by
  cases a <;> cases b <;> simp_all [looseEquals, isNullish, isComposite, textEquals]

theorem looseEquals_identities (ha : a.isComposite = true) (hb : b.isComposite = true) :
    a.looseEquals h b = a.strictEquals b := by
  cases a <;> cases b <;> simp_all [looseEquals, isNullish, isComposite]

/-- What has no other rule is two texts. -/
theorem exists_texts (ha : a.isNullish = false) (hb : b.isNullish = false)
    (ha' : a.isComposite = false) (hb' : b.isComposite = false)
    (hab : ¬ (a.isNumericPrimitive = true ∨ b.isNumericPrimitive = true)) :
    ∃ s t, a = .string s ∧ b = .string t := by
  cases a <;> cases b <;> simp_all [isNullish, isComposite, isNumericPrimitive]

end Rules

end Value

open Value

/-! ## Rule by rule -/

section Compares

variable {h : Heap} {a b : Value} {r : Bool}

theorem Compares.eq (hr : Compares h a b r) : r = a.looseEquals h b := by
  induction hr with
  | nullish hab => exact (looseEquals_of_isNullish hab).symm
  | texts s t => rfl
  | numbers ha hb ha' hb' hab => exact (looseEquals_numbers ha hb ha' hb' hab).symm
  | left ha hb hb' _ ih => exact ih.trans (looseEquals_of_isComposite_left ha hb hb').symm
  | right ha ha' hb _ ih => exact ih.trans (looseEquals_of_isComposite_right ha ha' hb).symm
  | identities ha hb => exact (looseEquals_identities ha hb).symm

/-- Values that are not converted are compared by one rule. -/
theorem compares_primitives (ha : a.isNullish = false) (hb : b.isNullish = false)
    (ha' : a.isComposite = false) (hb' : b.isComposite = false) : ∃ r, Compares h a b r := by
  by_cases hab : a.isNumericPrimitive = true ∨ b.isNumericPrimitive = true
  · exact ⟨_, .numbers ha hb ha' hb' hab⟩
  · obtain ⟨s, t, rfl, rfl⟩ := exists_texts ha hb ha' hb' hab
    exact ⟨_, .texts s t⟩

/-- Every two values are compared: what one of them is converted to is a text, which needs no
conversion. -/
theorem exists_compares (h : Heap) (a b : Value) : ∃ r, Compares h a b r := by
  by_cases hnullish : a.isNullish = true ∨ b.isNullish = true
  · exact ⟨_, .nullish hnullish⟩
  · obtain ⟨ha, hb⟩ := not_or.1 hnullish
    rw [Bool.not_eq_true] at ha hb
    cases ha' : a.isComposite <;> cases hb' : b.isComposite
    · exact compares_primitives ha hb ha' hb'
    · obtain ⟨r, hr⟩ := compares_primitives (h := h) (a := .string (b.toText h)) rfl ha rfl ha'
      exact ⟨r, .right ha ha' hb' hr⟩
    · obtain ⟨r, hr⟩ := compares_primitives (h := h) (a := .string (a.toText h)) rfl hb rfl hb'
      exact ⟨r, .left ha' hb hb' hr⟩
    · exact ⟨_, .identities ha' hb'⟩

theorem compares_iff : Compares h a b r ↔ r = a.looseEquals h b := by
  refine ⟨Compares.eq, ?_⟩
  rintro rfl
  obtain ⟨r, hr⟩ := exists_compares h a b
  rwa [← hr.eq]

/-- Each rule reads the same the other way round. -/
theorem Compares.symm (hr : Compares h a b r) : Compares h b a r := by
  cases hr with
  | nullish hab =>
      rw [Bool.and_comm]
      exact .nullish hab.symm
  | texts s t =>
      rw [BEq.comm]
      exact .texts t s
  | numbers ha hb ha' hb' hab =>
      rw [BEq.comm]
      exact .numbers hb ha hb' ha' hab.symm
  | left ha hb hb' hr => exact .right hb hb' ha hr
  | right ha ha' hb hr => exact .left hb ha ha' hr
  | identities ha hb =>
      rw [strictEquals_comm]
      exact .identities hb ha

end Compares

theorem Value.looseEquals_comm (h : Heap) (a b : Value) : a.looseEquals h b = b.looseEquals h a :=
  (compares_iff.2 rfl).symm.eq

/-- Values of one type are compared by `==` as they are by `===`. -/
theorem Value.looseEquals_of_typeName_eq {a b : Value} (h : Heap)
    (htype : a.typeName = b.typeName) : a.looseEquals h b = a.strictEquals b := by
  cases a <;> cases b
  case bool.bool x y =>
    show ((if x then (1.0 : Float) else 0.0) == (if y then 1.0 else 0.0)) = (x == y)
    cases x <;> cases y <;> decide +kernel
  all_goals first | rfl | simp [typeName] at htype

/-- The laws of equality, for all values, also of arrays that contain themselves. -/
theorem equality_laws (h : Heap) :
    -- `==` ends on all values, in one way only, and is symmetric
    (∀ (a b : Value) (r : Bool), Compares h a b r ↔ r = a.looseEquals h b) ∧
    (∀ a b : Value, a.looseEquals h b = b.looseEquals h a) ∧
    -- `===` is symmetric and transitive, and reflexive but for NaN
    (∀ a b : Value, a.strictEquals b = b.strictEquals a) ∧
    (∀ a b c : Value, a.strictEquals b = true → b.strictEquals c = true →
      a.strictEquals c = true) ∧
    (∀ a : Value, a.strictEquals a = true ↔ ∀ x, a = .number x → x.isNaN = false) ∧
    -- what is identical is equal, and values of one type are equal only if they are identical
    (∀ a b : Value, a.strictEquals b = true → a.looseEquals h b = true) ∧
    ∀ a b : Value, a.typeName = b.typeName → a.looseEquals h b = a.strictEquals b := by
  refine ⟨fun _ _ _ => compares_iff, looseEquals_comm h, strictEquals_comm,
    fun _ _ _ => strictEquals_trans, strictEquals_self, ?implies,
    fun _ _ => looseEquals_of_typeName_eq h⟩
  case implies =>
    intro a b hstrict
    rw [looseEquals_of_typeName_eq h (typeName_eq_of_strictEquals hstrict), hstrict]

end ScopedViews.Sandbox

/-!
# Occurrences of a text in another

First occurrences, splitting at occurrences, and replacing one, on lists of characters.
-/

namespace ScopedViews.Text

/-- The position of the first occurrence of `needle`. -/
def find? (needle : List Char) : List Char → Option Nat
  | [] => if needle.isEmpty then some 0 else none
  | c :: rest =>
    if needle.isPrefixOf (c :: rest) then some 0 else (find? needle rest).map (· + 1)

theorem find?_le {needle hay : List Char} {i : Nat} (h : find? needle hay = some i) :
    i + needle.length ≤ hay.length := by
  induction hay generalizing i with
  | nil =>
    simp only [find?] at h
    split at h
    · obtain rfl : 0 = i := by simpa using h
      simp_all
    · simp at h
  | cons c rest ih =>
    simp only [find?] at h
    split at h
    · rename_i hp
      obtain rfl : 0 = i := by simpa using h
      simpa using (List.isPrefixOf_iff_prefix.1 hp).length_le
    · obtain ⟨j, hj, rfl⟩ := Option.map_eq_some_iff.1 h
      have := ih hj
      simp only [List.length_cons]
      omega

/-- The parts of `hay` between occurrences of a separator that is not empty.  `skip` characters of
an occurrence are still to be passed over, and `part` is the part being read, reversed. -/
def splitFrom (sep : List Char) : List Char → Nat → List Char → List (List Char)
  | [], _, part => [part.reverse]
  | _ :: rest, skip + 1, part => splitFrom sep rest skip part
  | c :: rest, 0, part =>
    if sep.isPrefixOf (c :: rest) then part.reverse :: splitFrom sep rest (sep.length - 1) []
    else splitFrom sep rest 0 (c :: part)

/-- The parts between occurrences of `sep`, taken from the left without overlap. -/
def splitAt (sep hay : List Char) : List (List Char) := splitFrom sep hay 0 []

/-- Whether a text contains another. -/
def contains (hay needle : String) : Bool := (find? needle.toList hay.toList).isSome

/-- `hay` with the first occurrence of `needle` replaced. -/
def replaceFirst (hay needle replacement : String) : String :=
  match find? needle.toList hay.toList with
  | none => hay
  | some i =>
    String.ofList (hay.toList.take i ++ replacement.toList ++ hay.toList.drop (i + needle.length))

end ScopedViews.Text

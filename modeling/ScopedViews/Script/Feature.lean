import ScopedViews.Script.Edition
/-!
# Features of the script language

The constructs that can be lowered.  Each one came with an edition, and each engine reads it from
some version on.
-/

namespace ScopedViews.Script

/-- What runs scripts. -/
inductive Engine where
  | chrome | deno | edge | firefox | hermes | ie | ios | node | opera | rhino | safari | samsung
deriving Repr, DecidableEq

/-- A version of an engine; versions are compared by their first number, then by the others. -/
structure Version where
  major : Nat
  minor : Nat := 0
  patch : Nat := 0
deriving Repr, DecidableEq

namespace Version

/-- Whether `v` came before `w`. -/
def isBefore (v w : Version) : Bool :=
  v.major < w.major || (v.major = w.major &&
    (v.minor < w.minor || (v.minor = w.minor && v.patch < w.patch)))

end Version

/-- A construct that older editions lack. -/
inductive Feature where
  | arrows | power | waiting | objectSpread | dotAll | namedGroups | lookbehind | characterClasses
  | asyncGenerators | catchWithoutName | coalescing | optionalChains | namespaceExports | bigints
  | memberTexts | logicalAssignment | matchIndices | fields | staticBlocks | topLevelWaiting
  | characterSets | disposal
deriving Repr, DecidableEq

namespace Feature

/-- The edition that brought a feature. -/
def edition : Feature → Edition
  | .arrows => .es2015
  | .power => .es2016
  | .waiting => .es2017
  | .objectSpread | .dotAll | .namedGroups | .lookbehind | .characterClasses
  | .asyncGenerators => .es2018
  | .catchWithoutName => .es2019
  | .coalescing | .optionalChains | .namespaceExports | .bigints | .memberTexts => .es2020
  | .logicalAssignment => .es2021
  | .matchIndices | .fields | .staticBlocks | .topLevelWaiting => .es2022
  | .characterSets => .es2024
  | .disposal => .es2026

/-- The first versions of engines that read a feature. -/
def engines : Feature → List (Engine × Version)
  | .arrows => [(.chrome, ⟨47, 0, 0⟩), (.opera, ⟨34, 0, 0⟩), (.edge, ⟨13, 0, 0⟩),
    (.firefox, ⟨43, 0, 0⟩), (.safari, ⟨10, 0, 0⟩), (.node, ⟨6, 0, 0⟩), (.deno, ⟨1, 0, 0⟩),
    (.ios, ⟨10, 0, 0⟩), (.samsung, ⟨5, 0, 0⟩), (.rhino, ⟨1, 7, 13⟩)]
  | .power => [(.chrome, ⟨52, 0, 0⟩), (.opera, ⟨39, 0, 0⟩), (.edge, ⟨14, 0, 0⟩),
    (.firefox, ⟨52, 0, 0⟩), (.safari, ⟨10, 1, 0⟩), (.node, ⟨7, 0, 0⟩), (.deno, ⟨1, 0, 0⟩),
    (.ios, ⟨10, 3, 0⟩), (.samsung, ⟨6, 0, 0⟩), (.rhino, ⟨1, 7, 14⟩)]
  | .waiting => [(.chrome, ⟨55, 0, 0⟩), (.opera, ⟨42, 0, 0⟩), (.edge, ⟨15, 0, 0⟩),
    (.firefox, ⟨52, 0, 0⟩), (.safari, ⟨11, 0, 0⟩), (.node, ⟨7, 6, 0⟩), (.deno, ⟨1, 0, 0⟩),
    (.ios, ⟨11, 0, 0⟩), (.samsung, ⟨6, 0, 0⟩)]
  | .objectSpread => [(.chrome, ⟨60, 0, 0⟩), (.opera, ⟨47, 0, 0⟩), (.edge, ⟨79, 0, 0⟩),
    (.firefox, ⟨55, 0, 0⟩), (.safari, ⟨11, 1, 0⟩), (.node, ⟨8, 3, 0⟩), (.deno, ⟨1, 0, 0⟩),
    (.ios, ⟨11, 3, 0⟩), (.samsung, ⟨8, 0, 0⟩)]
  | .dotAll => [(.chrome, ⟨62, 0, 0⟩), (.opera, ⟨49, 0, 0⟩), (.edge, ⟨79, 0, 0⟩),
    (.firefox, ⟨78, 0, 0⟩), (.safari, ⟨11, 1, 0⟩), (.node, ⟨8, 10, 0⟩), (.deno, ⟨1, 0, 0⟩),
    (.ios, ⟨11, 3, 0⟩), (.samsung, ⟨8, 0, 0⟩), (.rhino, ⟨1, 7, 15⟩)]
  | .lookbehind => [(.chrome, ⟨62, 0, 0⟩), (.opera, ⟨49, 0, 0⟩), (.edge, ⟨79, 0, 0⟩),
    (.firefox, ⟨78, 0, 0⟩), (.safari, ⟨16, 4, 0⟩), (.node, ⟨8, 10, 0⟩), (.deno, ⟨1, 0, 0⟩),
    (.ios, ⟨16, 4, 0⟩), (.samsung, ⟨8, 0, 0⟩)]
  | .namedGroups | .characterClasses => [(.chrome, ⟨64, 0, 0⟩), (.opera, ⟨51, 0, 0⟩),
    (.edge, ⟨79, 0, 0⟩), (.firefox, ⟨78, 0, 0⟩), (.safari, ⟨11, 1, 0⟩), (.node, ⟨10, 0, 0⟩),
    (.deno, ⟨1, 0, 0⟩), (.ios, ⟨11, 3, 0⟩), (.samsung, ⟨9, 0, 0⟩)]
  | .catchWithoutName => [(.chrome, ⟨66, 0, 0⟩), (.opera, ⟨53, 0, 0⟩), (.edge, ⟨79, 0, 0⟩),
    (.firefox, ⟨58, 0, 0⟩), (.safari, ⟨11, 1, 0⟩), (.node, ⟨10, 0, 0⟩), (.deno, ⟨1, 0, 0⟩),
    (.ios, ⟨11, 3, 0⟩), (.samsung, ⟨9, 0, 0⟩)]
  | .coalescing => [(.chrome, ⟨80, 0, 0⟩), (.opera, ⟨67, 0, 0⟩), (.edge, ⟨80, 0, 0⟩),
    (.firefox, ⟨72, 0, 0⟩), (.safari, ⟨13, 1, 0⟩), (.node, ⟨14, 0, 0⟩), (.deno, ⟨1, 0, 0⟩),
    (.ios, ⟨13, 4, 0⟩), (.samsung, ⟨13, 0, 0⟩), (.rhino, ⟨1, 8, 0⟩)]
  | .optionalChains => [(.chrome, ⟨91, 0, 0⟩), (.opera, ⟨77, 0, 0⟩), (.edge, ⟨91, 0, 0⟩),
    (.firefox, ⟨74, 0, 0⟩), (.safari, ⟨13, 1, 0⟩), (.node, ⟨16, 9, 0⟩), (.deno, ⟨1, 9, 0⟩),
    (.ios, ⟨13, 4, 0⟩), (.samsung, ⟨16, 0, 0⟩)]
  | .namespaceExports => [(.chrome, ⟨72, 0, 0⟩), (.opera, ⟨60, 0, 0⟩), (.edge, ⟨79, 0, 0⟩),
    (.firefox, ⟨80, 0, 0⟩), (.safari, ⟨14, 1, 0⟩), (.node, ⟨13, 2, 0⟩), (.deno, ⟨1, 0, 0⟩),
    (.ios, ⟨14, 5, 0⟩), (.samsung, ⟨11, 0, 0⟩)]
  | .logicalAssignment => [(.chrome, ⟨85, 0, 0⟩), (.opera, ⟨71, 0, 0⟩), (.edge, ⟨85, 0, 0⟩),
    (.firefox, ⟨79, 0, 0⟩), (.safari, ⟨14, 0, 0⟩), (.node, ⟨15, 0, 0⟩), (.deno, ⟨1, 2, 0⟩),
    (.ios, ⟨14, 0, 0⟩), (.samsung, ⟨14, 0, 0⟩)]
  | .matchIndices => [(.chrome, ⟨90, 0, 0⟩), (.opera, ⟨76, 0, 0⟩), (.edge, ⟨90, 0, 0⟩),
    (.firefox, ⟨88, 0, 0⟩), (.safari, ⟨15, 0, 0⟩), (.node, ⟨16, 0, 0⟩), (.deno, ⟨1, 8, 0⟩),
    (.ios, ⟨15, 0, 0⟩), (.samsung, ⟨15, 0, 0⟩)]
  | .fields => [(.chrome, ⟨74, 0, 0⟩), (.opera, ⟨62, 0, 0⟩), (.edge, ⟨79, 0, 0⟩),
    (.firefox, ⟨90, 0, 0⟩), (.safari, ⟨16, 0, 0⟩), (.node, ⟨12, 0, 0⟩), (.deno, ⟨1, 0, 0⟩),
    (.ios, ⟨16, 0, 0⟩), (.samsung, ⟨11, 0, 0⟩)]
  | .asyncGenerators => [(.chrome, ⟨63, 0, 0⟩), (.opera, ⟨50, 0, 0⟩), (.edge, ⟨79, 0, 0⟩),
    (.firefox, ⟨57, 0, 0⟩), (.safari, ⟨12, 0, 0⟩), (.node, ⟨10, 0, 0⟩), (.deno, ⟨1, 0, 0⟩),
    (.ios, ⟨12, 0, 0⟩), (.samsung, ⟨8, 0, 0⟩)]
  | .staticBlocks => [(.chrome, ⟨94, 0, 0⟩), (.opera, ⟨80, 0, 0⟩), (.edge, ⟨94, 0, 0⟩),
    (.firefox, ⟨93, 0, 0⟩), (.safari, ⟨16, 4, 0⟩), (.node, ⟨16, 11, 0⟩), (.deno, ⟨1, 14, 0⟩),
    (.ios, ⟨16, 4, 0⟩), (.samsung, ⟨17, 0, 0⟩)]
  | .bigints => [(.chrome, ⟨67, 0, 0⟩), (.opera, ⟨54, 0, 0⟩), (.edge, ⟨79, 0, 0⟩),
    (.firefox, ⟨68, 0, 0⟩), (.safari, ⟨14, 0, 0⟩), (.node, ⟨10, 4, 0⟩), (.deno, ⟨1, 0, 0⟩),
    (.ios, ⟨14, 0, 0⟩), (.hermes, ⟨0, 12, 0⟩)]
  | .memberTexts => [(.chrome, ⟨90, 0, 0⟩), (.opera, ⟨76, 0, 0⟩), (.edge, ⟨90, 0, 0⟩),
    (.firefox, ⟨87, 0, 0⟩), (.safari, ⟨14, 1, 0⟩), (.node, ⟨16, 0, 0⟩), (.deno, ⟨1, 18, 0⟩),
    (.ios, ⟨14, 5, 0⟩)]
  | .topLevelWaiting => [(.chrome, ⟨89, 0, 0⟩), (.opera, ⟨75, 0, 0⟩), (.edge, ⟨89, 0, 0⟩),
    (.firefox, ⟨89, 0, 0⟩), (.safari, ⟨15, 0, 0⟩), (.node, ⟨14, 8, 0⟩), (.deno, ⟨1, 0, 0⟩),
    (.ios, ⟨15, 0, 0⟩)]
  | .disposal => [(.chrome, ⟨134, 0, 0⟩), (.opera, ⟨119, 0, 0⟩), (.edge, ⟨134, 0, 0⟩),
    (.firefox, ⟨141, 0, 0⟩), (.node, ⟨24, 0, 0⟩)]
  | .characterSets => [(.chrome, ⟨112, 0, 0⟩), (.opera, ⟨98, 0, 0⟩), (.edge, ⟨112, 0, 0⟩),
    (.firefox, ⟨116, 0, 0⟩), (.safari, ⟨17, 0, 0⟩), (.node, ⟨20, 0, 0⟩), (.deno, ⟨1, 32, 0⟩),
    (.ios, ⟨17, 0, 0⟩), (.samsung, ⟨23, 0, 0⟩)]

end Feature

end ScopedViews.Script

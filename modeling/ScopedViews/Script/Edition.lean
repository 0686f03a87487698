import ScopedViews.Text.Case
/-!
# Editions of the script language

The editions that scripts can be lowered to.  Each one has all the constructs of those before it.
-/

namespace ScopedViews.Script

/-- A yearly edition, the fifth edition before them, or whatever comes next. -/
inductive Edition where
  | es5 | es2015 | es2016 | es2017 | es2018 | es2019 | es2020 | es2021 | es2022 | es2023 | es2024
  | es2025 | es2026 | next
deriving Repr, DecidableEq, Inhabited

namespace Edition

/-- The names by which editions are called, in lower case. -/
def names : List (String × Edition) := [
  ("es5", .es5), ("es2015", .es2015), ("es6", .es2015), ("es2016", .es2016), ("es2017", .es2017),
  ("es2018", .es2018), ("es2019", .es2019), ("es2020", .es2020), ("es2021", .es2021),
  ("es2022", .es2022), ("es2023", .es2023), ("es2024", .es2024), ("es2025", .es2025),
  ("es2026", .es2026), ("esnext", .next)]

/-- The edition of a name in any case. -/
def ofName? (name : String) : Option Edition := names.lookup (Text.asciiLower name)

/-- How an edition is called. -/
def name (e : Edition) : String := ((names.find? (·.2 = e)).map (·.1)).getD ""

/-- The year of an edition, with the fifth as the earliest and the next one as the last. -/
def year : Edition → Nat
  | .es5 => 2009
  | .es2015 => 2015
  | .es2016 => 2016
  | .es2017 => 2017
  | .es2018 => 2018
  | .es2019 => 2019
  | .es2020 => 2020
  | .es2021 => 2021
  | .es2022 => 2022
  | .es2023 => 2023
  | .es2024 => 2024
  | .es2025 => 2025
  | .es2026 => 2026
  | .next => 9999

end Edition

end ScopedViews.Script

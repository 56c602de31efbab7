import Std.Data.ExtTreeSet

/-!
# Sets of variables

Analyses speak about variables by name. A set of names has one form: two sets with the same members
are equal, and their members are listed in alphabetical order.
-/

namespace NullFlow

/-- **A set of variables**, by name. -/
abbrev Vars := Std.ExtTreeSet String

end NullFlow

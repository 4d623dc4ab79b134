/-!
# Sets of code points

A Unicode property is a set of code points. It is stored as a list of closed ranges, which is how
the standard's data files give it, and asked by walking the list. Below 128 the properties used here
have short definitions of their own, so a table starts at 128 and the common case never reaches it.
-/

namespace InsertScript.Unicode

/-- Closed ranges of code points, ascending and disjoint. -/
abbrev RangeTable := List (Nat × Nat)

/-- Is the code point in one of the ranges? -/
def RangeTable.covers (table : RangeTable) (code : Nat) : Bool :=
  table.any fun range => range.1 ≤ code && code ≤ range.2

@[simp] theorem RangeTable.covers_nil (code : Nat) : RangeTable.covers [] code = false := rfl

@[simp] theorem RangeTable.covers_cons (range : Nat × Nat) (table : RangeTable) (code : Nat) :
    RangeTable.covers (range :: table) code =
      ((range.1 ≤ code && code ≤ range.2) || RangeTable.covers table code) := rfl

end InsertScript.Unicode

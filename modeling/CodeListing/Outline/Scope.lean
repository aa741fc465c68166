/-!
# Scopes

What a symbol takes from the symbols around it, handed down from parent to child: their names, and
the qualified name that these make up.
-/

namespace CodeListing

/-- The symbols around a symbol. -/
structure Scope where
  /-- Their names, outermost first. -/
  names : List String := []
  /-- The qualified name of the innermost one, empty at the top. -/
  qualifiedName : String := ""
  deriving Repr, DecidableEq

namespace Scope

/-- No symbols around. -/
def top : Scope := {}

/-- How many symbols are around. -/
def depth (scope : Scope) : Nat := scope.names.length

/-- The scope of what is inside a symbol of this name. Names are joined by dots, but nothing is
joined to an empty qualified name. -/
def inside (scope : Scope) (name : String) : Scope where
  names := scope.names ++ [name]
  qualifiedName :=
    if scope.qualifiedName = "" then name else scope.qualifiedName ++ "." ++ name

end Scope

end CodeListing

import CodeListing.Json.Basic

/-!
# Kinds of symbols

A server sends the kind of a symbol as a number. The protocol names the numbers from 1 to 26; every
other number is kept and has the name `Unknown`.
-/

namespace CodeListing

/-- The kind of a symbol, by its number. -/
structure SymbolKind where
  code : Int32
  deriving Repr, DecidableEq

namespace SymbolKind

/-- The names of the kinds in the order of their numbers, which begin at 1. -/
def names : List String :=
  ["File", "Module", "Namespace", "Package", "Class", "Method", "Property", "Field", "Constructor",
    "Enum", "Interface", "Function", "Variable", "Constant", "String", "Number", "Boolean", "Array",
    "Object", "Key", "Null", "EnumMember", "Struct", "Event", "Operator", "TypeParameter"]

/-- The name of a kind. -/
def name (k : SymbolKind) : String :=
  if 1 ≤ k.code.toInt then names.getD (k.code.toInt.toNat - 1) "Unknown" else "Unknown"

def ofJson? (v : Json) : Option SymbolKind := v.int32?.map SymbolKind.mk

def toJson (k : SymbolKind) : Json := .ofInt k.code.toInt

end SymbolKind

end CodeListing

import CodeListing.Config.Reading

/-!
# Configurations

What a host may set: one configuration for each kind of listing, and the settings that all listings
share. Every field has a default.
-/

namespace CodeListing

/-- How symbols of the current buffer are listed. -/
structure OutlineConfig where
  /-- Only clients with this name are asked; the empty name leaves the choice to the settings. -/
  clientName : String := ""
  showContainers : Bool := false
  /-- Width of the column of names before a container. -/
  nameWidth : UInt64 := 30
  deriving Repr, DecidableEq

/-- How references to the symbol under the cursor are listed. -/
structure ReferenceConfig where
  clientName : String := ""
  includeDeclaration : Bool := true
  /-- Whether the line of each reference is shown. -/
  showLines : Bool := false
  /-- Width of the column of locations before a line. -/
  placeWidth : UInt64 := 30
  deriving Repr, DecidableEq

/-- What all listings share. -/
structure Settings where
  defaultClientName : Option String := none
  deriving Repr, DecidableEq

/-! ### Reading and writing -/

namespace OutlineConfig

def overlay (c : OutlineConfig) : String × Json → Except ReadError OutlineConfig
  | ("clientName", v) => return { c with clientName := ← Config.readText v }
  | ("displayContainerName", v) => return { c with showContainers := ← Config.readFlag v }
  | ("symbolNameWidth", v) => return { c with nameWidth := ← Config.readWidth v }
  | _ => .ok c

def fields : List String := ["clientName", "displayContainerName", "symbolNameWidth"]

def ofJson : Json → Except ReadError OutlineConfig :=
  Config.read "DocumentSymbolConfig" fields overlay {}

def toJson (c : OutlineConfig) : Json :=
  .obj [("clientName", .str c.clientName), ("displayContainerName", .bool c.showContainers),
    ("symbolNameWidth", .ofNat c.nameWidth.toNat)]

end OutlineConfig

namespace ReferenceConfig

def overlay (c : ReferenceConfig) : String × Json → Except ReadError ReferenceConfig
  | ("clientName", v) => return { c with clientName := ← Config.readText v }
  | ("includeDeclaration", v) => return { c with includeDeclaration := ← Config.readFlag v }
  | ("showLine", v) => return { c with showLines := ← Config.readFlag v }
  | ("locationPaddingWidth", v) => return { c with placeWidth := ← Config.readWidth v }
  | _ => .ok c

def fields : List String :=
  ["clientName", "includeDeclaration", "showLine", "locationPaddingWidth"]

def ofJson : Json → Except ReadError ReferenceConfig :=
  Config.read "ReferencesConfig" fields overlay {}

def toJson (c : ReferenceConfig) : Json :=
  .obj [("clientName", .str c.clientName), ("includeDeclaration", .bool c.includeDeclaration),
    ("showLine", .bool c.showLines),
    ("locationPaddingWidth", .ofNat c.placeWidth.toNat)]

end ReferenceConfig

namespace Settings

def overlay (c : Settings) : String × Json → Except ReadError Settings
  | ("defaultClientName", v) => return { c with defaultClientName := ← Config.readText? v }
  | _ => .ok c

def fields : List String := ["defaultClientName"]

def ofJson : Json → Except ReadError Settings := Config.read "GatherSettings" fields overlay {}

def toJson (c : Settings) : Json :=
  .obj [("defaultClientName", (c.defaultClientName.map Json.str).getD .null)]

/-- The name that clients must have: the listing's own if it is not empty, else the default of the
settings if that is not empty, else any. -/
def requiredName (c : Settings) (clientName : String) : Option String :=
  if clientName = "" then c.defaultClientName.filter (· ≠ "") else some clientName

end Settings

end CodeListing

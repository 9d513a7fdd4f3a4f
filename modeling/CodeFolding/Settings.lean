import CodeFolding.Datum
import CodeFolding.Region

set_option autoImplicit false

namespace CodeFolding

/-- How wide tabs are in previews, which regions start out collapsed, and whether arrays are
listed. -/
structure Settings where
  tabSize : Nat := 4
  collapseNamed : Bool := true
  collapseComments : Bool := false
  collapseBraces : Bool := false
  collapseDefinitions : Bool := false
  listArrays : Bool := true
deriving DecidableEq, Inhabited, Repr

namespace Settings

def lists (settings : Settings) (kind : Region.Kind) : Bool :=
  kind != .array || settings.listArrays

def collapses (settings : Settings) : Region.Kind → Bool
  | .block | .array => settings.collapseBraces
  | .comment => settings.collapseComments
  | .named => settings.collapseNamed
  | .document | .custom _ => false

def keys : List String :=
  ["tab_size", "auto_collapse_regions", "auto_collapse_comments", "auto_collapse_braces",
    "auto_collapse_to_definitions", "outline_arrays"]

/-- The settings with one of them replaced, unless the key is unknown or the value is not of its
type. -/
def set? (settings : Settings) (key : String) (value : Datum) : Option Settings :=
  match key with
  | "tab_size" => value.count?.map fun size => { settings with tabSize := size }
  | "auto_collapse_regions" => value.truth?.map fun on => { settings with collapseNamed := on }
  | "auto_collapse_comments" =>
    value.truth?.map fun on => { settings with collapseComments := on }
  | "auto_collapse_braces" => value.truth?.map fun on => { settings with collapseBraces := on }
  | "auto_collapse_to_definitions" =>
    value.truth?.map fun on => { settings with collapseDefinitions := on }
  | "outline_arrays" => value.truth?.map fun on => { settings with listArrays := on }
  | _ => none

/-- The settings that a file gives; those it leaves out keep their defaults. -/
def ofDatum? (datum : Datum) : Option Settings := do
  let fields ← datum.fields? keys
  keys.foldlM (fun settings key =>
    match fields key with
    | none => some settings
    | some value => settings.set? key value) {}

end Settings

end CodeFolding

import CodeFolding.Edit

set_option autoImplicit false

namespace CodeFolding

/-- A value of a settings file. Numbers other than those written as natural numbers are never
read, so their value is not kept. -/
inductive Datum where
  | null
  | truth (value : Bool)
  | natural (value : Nat)
  | otherNumber
  | text (value : String)
  | list (items : List Datum)
  | record (fields : List (String × Datum))
deriving Inhabited, Repr

namespace Datum

/-- The entry of a list of pairs under `key`; of several, the last one. -/
def lookup? (fields : List (String × Datum)) (key : String) : Option Datum :=
  (fields.reverse.find? fun field => field.1 == key).map Prod.snd

/-- The fields of a structure whose keys are `keys`, each with what the datum says of it. A
record may leave keys out and have others; a list gives the fields in order, may stop early, and
must not be longer than `keys`. -/
def fields? (keys : List String) : Datum → Option (String → Option Datum)
  | record fields => some (lookup? fields)
  | list items =>
    if items.length ≤ keys.length then some (lookup? (keys.zip items)) else none
  | _ => none

/-- What `read` makes of a field, or `default` for a field that is left out. -/
def readOr {α : Type} (default : α) (read : Datum → Option α) : Option Datum → Option α
  | none => some default
  | some datum => read datum

def truth? : Datum → Option Bool
  | truth value => some value
  | _ => none

/-- An offset or a count: a natural number of at most 64 bits. -/
def count? : Datum → Option Nat
  | natural value => if value ≤ maxOffset then some value else none
  | _ => none

def text? : Datum → Option String
  | text value => some value
  | _ => none

def texts? : Datum → Option (List String)
  | list items => items.mapM text?
  | _ => none

def optionalText? : Datum → Option (Option String)
  | null => some none
  | text value => some (some value)
  | _ => none

end Datum

end CodeFolding

/-
A structured value as a file holds it, whatever format it was written in.

A record is read field by field: by name from a record, or by position from a
list, where missing fields are absent and surplus ones are refused or ignored, as
the format has it.  Names that nobody asks for are passed over, but a field that is
asked for must not be given twice.
-/

namespace PacketWatch

/-- A value as it was read. -/
inductive Datum where
  | null
  | bool (b : Bool)
  | integer (n : Int)
  | text (s : String)
  | list (items : List Datum)
  /-- Named values, in the order of the file.  A name is missing if it is not a
  sequence of characters. -/
  | record (fields : List (Option String × Datum))
  /-- A value that no reader asks for: a fraction, or text that is not a
  sequence of characters. -/
  | other

/-- What becomes of the items of a list that stand behind the last field. -/
inductive Surplus where
  | refused
  | ignored
deriving DecidableEq

namespace Datum

def bool? : Datum → Option Bool
  | bool b => some b
  | _ => none

/-- An integer below a bound, and not below zero. -/
def natBelow? (bound : Nat) : Datum → Option Nat
  | integer n => if 0 ≤ n ∧ n < bound then some n.toNat else none
  | _ => none

/-- An integer of 32 bits. -/
def int32? : Datum → Option Int32
  | integer n => if -2147483648 ≤ n ∧ n ≤ 2147483647 then some (Int32.ofInt n) else none
  | _ => none

def text? : Datum → Option String
  | text s => some s
  | _ => none

/-- A text that may be left out by writing nothing for it. -/
def optionalText? : Datum → Option (Option String)
  | null => some none
  | text s => some (some s)
  | _ => none

/-- The values given for a name. -/
def valuesOf (name : String) (fields : List (Option String × Datum)) : List Datum :=
  fields.filterMap fun f => if f.1 = some name then some f.2 else none

/-- The value of a field: absent, or given once. -/
def field? (fields : List (Option String × Datum)) (name : String) : Option (Option Datum) :=
  match valuesOf name fields with
  | [] => some none
  | [d] => some (some d)
  | _ => none

/-- The first items of a list, as many as there are fields. -/
def leading (count : Nat) (items : List Datum) : List (Option Datum) :=
  (items.take count).map some ++ List.replicate (count - items.length) none

/-- The fields of the given names, in that order. -/
def fields? (surplus : Surplus) (names : List String) : Datum → Option (List (Option Datum))
  | list items =>
    if surplus = .refused ∧ names.length < items.length then none
    else some (leading names.length items)
  | record fields =>
    if fields.all (·.1.isSome) then names.mapM (field? fields) else none
  | _ => none

/-- A field with a default for an absent one. -/
def getOr {α : Type} (read? : Datum → Option α) (absent : α) : Option Datum → Option α
  | some d => read? d
  | none => some absent

/-- A field that has to be present. -/
def required {α : Type} (read? : Datum → Option α) : Option Datum → Option α
  | some d => read? d
  | none => none

end Datum

/-- A value that is written. -/
inductive Scalar where
  | null
  | bool (b : Bool)
  | natural (n : Nat)
  | text (s : String)
deriving DecidableEq

/-- A named group of values that are written. -/
structure Section where
  name : String
  fields : List (String × Scalar)
deriving DecidableEq

end PacketWatch

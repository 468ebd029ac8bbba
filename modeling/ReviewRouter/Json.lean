import ReviewRouter.Text.Basic

/-!
# JSON values

* `Json` — a value.  Numbers are integers; a scalar of any other shape is kept as it was written,
  for it can only stand where nobody reads it;
* `Json.members?` — the fields of an object;
* `Json.single?` — the value of a field, unless two fields have its name;
* `Json.text?`, `Json.bool?`, `Json.natural?` — a value of one sort;
* `Json.listOf?` — an array whose items are all readable.
-/

namespace ReviewRouter

/-- A JSON value. -/
inductive Json where
  | null
  | bool (b : Bool)
  | num (n : Int)
  | scalar (token : Text)
  | str (t : Text)
  | arr (items : List Json)
  | obj (members : List (Text × Json))
  deriving Inhabited, Repr

namespace Json

/-- The fields of an object, in order. -/
abbrev Fields := List (Text × Json)

/-- The fields of an object. -/
def members? : Json → Option Fields
  | .obj members => some members
  | _ => none

/-- The value of a field, if no second field has its name. -/
def single? (fields : Fields) (name : Text) : Option (Option Json) :=
  match fields.filter (·.1 == name) with
  | [] => some none
  | [(_, value)] => some (some value)
  | _ => none

/-- A string. -/
def text? : Json → Option Text
  | .str t => some t
  | _ => none

/-- A truth value. -/
def bool? : Json → Option Bool
  | .bool b => some b
  | _ => none

/-- An integer that is not negative. -/
def natural? : Json → Option Nat
  | .num (.ofNat n) => some n
  | _ => none

/-- An array, if every item can be read. -/
def listOf? {α : Type} (read : Json → Option α) : Json → Option (List α)
  | .arr items => items.mapM read
  | _ => none

/-- A value, or null for none. -/
def ofOption {α : Type} (write : α → Json) : Option α → Json
  | some a => write a
  | none => .null

end Json

end ReviewRouter

import ReviewRouter.Text.Numeral
import ReviewRouter.Text.Quoted

/-!
# Patch sets and ranges of them

A change is a list of numbered patch sets.  Beside the numbers there are the parent commit, which
is only ever compared against, and the unpublished edit of a change; the parents of a merge have
negative numbers.

* `PatchSet` — one of these, with `text` and the reader `ofText?`;
* `PatchRange` — what is compared with what;
* `PatchRange.normalize` — the canonical form of a range, and whether its address changes;
* `PatchRange.expression` — the range as it stands in an address.
-/

namespace ReviewRouter

/-! ### Patch sets -/

/-- A patch set of a change. -/
inductive PatchSet where
  | parent
  | edit
  | num (n : Int32)
  deriving DecidableEq, Repr

namespace PatchSet

/-- Whether it is the parent commit. -/
def isParent : PatchSet → Bool
  | .parent => true
  | _ => false

/-- The written form. -/
def text : PatchSet → Text
  | .parent => "PARENT"
  | .edit => "edit"
  | .num n => Numeral.ofInt n.toInt

/-- Reads the two names and signed 32-bit numerals. -/
def ofText? (t : Text) : Option PatchSet :=
  if t = "PARENT" then some .parent
  else if t = "edit" then some .edit
  else (Numeral.i32? t).map .num

/-- What is said about a text that is no patch set. -/
def refusal (t : Text) : Text :=
  "invalid patch set number: " ++ Quoted.quote t

end PatchSet

/-! ### Ranges -/

/-- The two sides of a comparison; either may be left open. -/
structure PatchRange where
  base : Option PatchSet := none
  patch : Option PatchSet := none
  deriving DecidableEq, Repr

namespace PatchRange

/-- Whether neither side is given. -/
def isEmpty (r : PatchRange) : Bool :=
  r.base.isNone && r.patch.isNone

/-- The canonical form of the range, with `true` if the address of the range is no longer the one
it was read from.  A lone base is the patch set itself, shown against its parent; equal sides mean
the same and are written as the patch set alone. -/
def normalize (r : PatchRange) : PatchRange × Bool :=
  match r.base, r.patch with
  | none, _ => (r, false)
  | some b, none => (⟨some .parent, some b⟩, false)
  | some b, some p => if p = b then (⟨some .parent, some p⟩, true) else (r, false)

/-- The range in an address: the patch set, after the base and two dots unless the base is the
parent. -/
def expression (r : PatchRange) : Text :=
  let before : Text := match r.base with
    | some b => if b.isParent then [] else b.text ++ ".."
    | none => []
  before ++ (match r.patch with
    | some p => p.text
    | none => [])

end PatchRange

end ReviewRouter

/-!
# Text: characters in order

Addresses, patterns and REST bodies are all taken apart and put together character by character,
so text is the list of its characters throughout the library.  This file holds the cutting and
joining operations that the list library lacks:

* `splitOnce?` / `splitLast?` — the two sides of the first or last separator;
* `pieces` — all parts between separators, at least one;
* `trimStart` / `trimEnd` — dropping a leading or trailing run of one character;
* `dropSuffix?` — the text before a given ending;
* `occursIn` — whether one text stands somewhere inside another;
* `replaceAll` / `replaceFirst` — substitution from the left, never inside inserted text.
-/

namespace ReviewRouter

/-- Text is the list of its characters. -/
abbrev Text := List Char

/-- A string literal stands for its characters wherever text is expected. -/
instance : Coe String Text := ⟨String.toList⟩

namespace Text

/-! ### Cutting at a separator -/

/-- The text before and after the first `sep`; nothing if `sep` does not occur. -/
def splitOnce? (sep : Char) : Text → Option (Text × Text)
  | [] => none
  | c :: rest =>
    if c = sep then some ([], rest)
    else (splitOnce? sep rest).map fun (before, after) => (c :: before, after)

/-- The text before and after the last `sep`; nothing if `sep` does not occur. -/
def splitLast? (sep : Char) : Text → Option (Text × Text)
  | [] => none
  | c :: rest =>
    match splitLast? sep rest with
    | some (before, after) => some (c :: before, after)
    | none => if c = sep then some ([], rest) else none

/-- The parts between the separators, in order.  The empty text has one empty part. -/
def pieces (sep : Char) : Text → List Text
  | [] => [[]]
  | c :: rest =>
    if c = sep then [] :: pieces sep rest
    else match pieces sep rest with
      | [] => [[c]]
      | part :: parts => (c :: part) :: parts

theorem splitOnce?_append (sep : Char) (a b : Text) (h : sep ∉ a) :
    splitOnce? sep (a ++ sep :: b) = some (a, b) := by
  induction a with
  | nil => simp [splitOnce?]
  | cons c a ih =>
    simp only [List.mem_cons, not_or] at h
    simp [splitOnce?, Ne.symm h.1, ih h.2]

theorem splitOnce?_eq_none (sep : Char) (t : Text) (h : sep ∉ t) : splitOnce? sep t = none := by
  induction t with
  | nil => rfl
  | cons c t ih =>
    simp only [List.mem_cons, not_or] at h
    simp [splitOnce?, Ne.symm h.1, ih h.2]

/-! ### Ends -/

/-- Drops every leading `c`. -/
def trimStart (c : Char) (t : Text) : Text :=
  t.dropWhile (· == c)

/-- Drops every trailing `c`. -/
def trimEnd (c : Char) : Text → Text
  | [] => []
  | d :: rest =>
    match trimEnd c rest with
    | [] => if d = c then [] else [d]
    | kept => d :: kept

/-- What stands before `ending`, if the text ends with it. -/
def dropSuffix? (ending : Text) : Text → Option Text
  | [] => if ending = [] then some [] else none
  | c :: rest =>
    if c :: rest = ending then some []
    else (dropSuffix? ending rest).map (c :: ·)

/-! ### Finding and replacing -/

/-- Whether `part` stands somewhere in the text. -/
def occursIn (part : Text) : Text → Bool
  | [] => part.isEmpty
  | c :: rest => part.isPrefixOf (c :: rest) || occursIn part rest

/-- Substitution from the left; the first argument counts the characters of a found `part` that
are still to be passed over. -/
def replaceFrom (part fresh : Text) : Nat → Text → Text
  | _, [] => []
  | skip + 1, _ :: rest => replaceFrom part fresh skip rest
  | 0, c :: rest =>
    if part.isPrefixOf (c :: rest) then fresh ++ replaceFrom part fresh (part.length - 1) rest
    else c :: replaceFrom part fresh 0 rest

/-- Every occurrence of `part`, found from the left without overlap, becomes `fresh`. -/
def replaceAll (part fresh t : Text) : Text :=
  replaceFrom part fresh 0 t

/-- The first occurrence of `part` becomes `fresh`. -/
def replaceFirst (part fresh : Text) : Text → Text
  | [] => []
  | c :: rest =>
    if part.isPrefixOf (c :: rest) then fresh ++ (c :: rest).drop part.length
    else c :: replaceFirst part fresh rest

/-- Every `old` character becomes `new`. -/
def substitute (old new : Char) (t : Text) : Text :=
  t.map fun c => if c = old then new else c

end Text

end ReviewRouter

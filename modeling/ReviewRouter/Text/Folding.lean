import ReviewRouter.Text.Lowercase

/-!
# Case folding

Two characters differ only in case if they fold to the same one: the small letter, with a few
characters that have a small letter of their own folding further.

* `foldRuns` — the characters that fold to another one;
* `foldChar` — what a character folds to;
* `caseVariants` — all characters that fold alike.
-/

namespace ReviewRouter

/-- The small and symbol-like letters that fold to another letter, and the Cherokee letters, whose
small forms fold to the capital ones. -/
def foldExtras : List CaseRun :=
  [⟨0xB5, 0xB5, 1, 775⟩, ⟨0x17F, 0x17F, 1, -268⟩, ⟨0x345, 0x345, 1, 116⟩, ⟨0x3C2, 0x3C2, 1, 1⟩,
   ⟨0x3D0, 0x3D0, 1, -30⟩, ⟨0x3D1, 0x3D1, 1, -25⟩, ⟨0x3D5, 0x3D5, 1, -15⟩, ⟨0x3D6, 0x3D6, 1, -22⟩,
   ⟨0x3F0, 0x3F0, 1, -54⟩, ⟨0x3F1, 0x3F1, 1, -48⟩, ⟨0x3F5, 0x3F5, 1, -64⟩,
   ⟨0x13F8, 0x13FD, 1, -8⟩, ⟨0x1C80, 0x1C80, 1, -6222⟩, ⟨0x1C81, 0x1C81, 1, -6221⟩,
   ⟨0x1C82, 0x1C82, 1, -6212⟩, ⟨0x1C83, 0x1C84, 1, -6210⟩, ⟨0x1C85, 0x1C85, 1, -6211⟩,
   ⟨0x1C86, 0x1C86, 1, -6204⟩, ⟨0x1C87, 0x1C87, 1, -6180⟩, ⟨0x1C88, 0x1C88, 1, 35267⟩,
   ⟨0x1E9B, 0x1E9B, 1, -58⟩, ⟨0x1FBE, 0x1FBE, 1, -7173⟩, ⟨0xAB70, 0xABBF, 1, -38864⟩]

/-- The runs of all characters that fold to another one. -/
def foldRuns : List CaseRun :=
  caseRuns.filter (fun r => r.first != 0x13A0 && r.first != 0x13F0) ++ foldExtras

/-- What the character folds to. -/
def foldChar (c : Char) : Char :=
  match foldRuns.find? (·.holds c.toNat) with
  | some r => Char.ofNat (c.toNat + r.shift).toNat
  | none => c

/-- The member of the run that folds to `target`, if there is one. -/
def CaseRun.source? (r : CaseRun) (target : Char) : Option Char :=
  let n := (target.toNat - r.shift).toNat
  if r.holds n then some (Char.ofNat n) else none

/-- All characters that differ from the given one in case at most. -/
def caseVariants (c : Char) : List Char :=
  let folded := foldChar c
  folded :: foldRuns.filterMap (·.source? folded)

end ReviewRouter

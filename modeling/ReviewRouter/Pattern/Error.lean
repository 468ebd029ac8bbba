import ReviewRouter.Text.Basic

/-!
# What can be wrong with a pattern

* `PatternError` — why a text is not a pattern.
-/

namespace ReviewRouter

/-- Why a text is not a pattern. -/
inductive PatternError where
  /-- A parenthesis is opened and not closed. -/
  | unclosedGroup
  /-- A parenthesis is closed that was not opened. -/
  | unopenedGroup
  /-- A repetition has nothing before it. -/
  | nothingToRepeat
  /-- The count of a repetition is missing, too large, unclosed or decreasing. -/
  | badCount
  /-- A backslash ends the pattern or is followed by something without meaning. -/
  | badEscape
  /-- A bracket is opened and not closed. -/
  | unclosedClass
  /-- A range in brackets decreases, or an end of it is not a single character. -/
  | badRange
  /-- The letters after `(?` are unknown, repeated or incomplete. -/
  | badFlags
  /-- The name of a capture is empty, unfinished or has a forbidden character. -/
  | badName
  /-- Two captures have the same name. -/
  | sameName (name : Text)
  /-- Conditions on the text ahead or behind are not supported. -/
  | lookAround
  /-- There is no table for the named property. -/
  | unknownProperty
  /-- The pattern would match bytes that are no characters. -/
  | notText
  /-- The pattern is nested too deeply. -/
  | tooDeep
  deriving DecidableEq, Repr

end ReviewRouter

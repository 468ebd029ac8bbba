import ReviewRouter.Text.Basic

/-!
# Markup

* `Html` — text, or an element with attributes and children;
* `Html.render` — the markup as text, with the special characters written as references.
-/

namespace ReviewRouter

/-- A piece of a page. -/
inductive Html where
  | text (t : Text)
  | element (tag : Text) (attributes : List (Text × Text)) (children : List Html)
  deriving Repr

namespace Html

/-- Text between tags. -/
def escapeText (t : Text) : Text :=
  t.flatMap fun c =>
    if c = '&' then ("&amp;" : Text)
    else if c = '<' then "&lt;"
    else if c = '>' then "&gt;"
    else [c]

/-- The value of an attribute, in which quotes are special too. -/
def escapeValue (t : Text) : Text :=
  (escapeText t).flatMap fun c => if c = '\x22' then ("&quot;" : Text) else [c]

/-- An attribute after a blank. -/
def renderAttribute (name value : Text) : Text :=
  " " ++ name ++ "=\"" ++ escapeValue value ++ "\""

mutual

/-- The markup of a piece. -/
def render : Html → Text
  | .text t => escapeText t
  | .element tag attributes children =>
    "<" ++ tag ++ attributes.flatMap (fun (name, value) => renderAttribute name value) ++ ">"
      ++ renderAll children ++ "</" ++ tag ++ ">"

/-- The markup of pieces that stand side by side. -/
def renderAll : List Html → Text
  | [] => []
  | h :: rest => render h ++ renderAll rest

end

end Html

end ReviewRouter

import ReviewRouter.Deployment
import ReviewRouter.Text.Percent

/-!
# Locations: an address taken apart

* `Location` — the parts of an address inside the application;
* `Location.ofAddress` — cuts at the first `#` and, before it, at the first `?`;
* `Location.matchPath` — the path that routes are compared with, unescaped once;
* `Location.rawHash` — the anchor as it stands in the address;
* `queryPairs` — the names and values of a query string, in order;
* `Location.queryValue?` — the first value of a name.
-/

namespace ReviewRouter

/-- An address inside the application and its parts.  Path and query are as written, the hash is
unescaped. -/
structure Location where
  address : Text
  path : Text
  query : Text
  hash : Text
  deriving DecidableEq, Repr

/-! ### Query strings -/

/-- One item of a query string: name and value, the value empty if there is no `=`.  Items with an
empty name are dropped. -/
def queryPair? (item : Text) : Option (Text × Text) :=
  let (name, value) := (Text.splitOnce? '=' item).getD (item, [])
  let name := Percent.unescapeValue name
  if name = [] then none else some (name, Percent.unescapeValue value)

/-- The names and values of a query string; leading question marks do not count. -/
def queryPairs (query : Text) : List (Text × Text) :=
  (Text.pieces '&' (Text.trimStart '?' query)).filterMap queryPair?

/-! ### Anchors -/

/-- All that follows the first `#`. -/
def rawHash (address : Text) : Text :=
  match Text.splitOnce? '#' address with
  | some (_, hash) => hash
  | none => []

namespace Location

/-! ### Parts -/

/-- The location of an address on the server. -/
def ofAddress (d : Deployment) (address : Text) : Location :=
  let inside := d.relative address
  let (front, hash) := (Text.splitOnce? '#' inside).getD (inside, [])
  let (path, query) := (Text.splitOnce? '?' front).getD (front, [])
  { address := inside
    path := if path = [] then "/" else path
    query := query
    hash := Percent.unescapeValue hash }

/-- The path that routes are compared with. -/
def matchPath (l : Location) : Text :=
  Percent.unescape l.path

/-- The anchor, still escaped. -/
def rawHash (l : Location) : Text :=
  ReviewRouter.rawHash l.address

/-- The first value of a name in the query. -/
def queryValue? (l : Location) (name : Text) : Option Text :=
  (queryPairs l.query).lookup name

end Location

end ReviewRouter

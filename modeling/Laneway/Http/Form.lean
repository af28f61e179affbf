import Laneway.Text.Percent

set_option autoImplicit false

/-! # Form-encoded queries

A query is a list of pairs between ampersands, a name and a value around the first equals sign. A
plus sign stands for blank space, other bytes may be percent encoded, and bytes that are no text
are replaced; reading a query never fails. -/

namespace Laneway.Http.Form

/-- The text of a name or a value. -/
def decode (written : List Char) : String :=
  let spaced := written.map fun c => if c = '+' then ' ' else c
  Utf8.lossy (Percent.decode (utf8 (String.ofList spaced)))

/-- The pair of a part; without equals sign the value is empty. -/
def pair (part : List Char) : String × String :=
  let name := part.takeWhile (· ≠ '=')
  (decode name, decode ((part.drop name.length).drop 1))

/-- The pairs of a query. Empty parts are none. -/
def parse (query : String) : List (String × String) :=
  ((query.toList.splitOn '&').filter fun part => !part.isEmpty).map pair

end Laneway.Http.Form

import Laneway.Http.Host

set_option autoImplicit false

/-! # URLs of HTTP requests

`Url.parse?` reads a URL the way browsers do: blank space around it is dropped, any number of
slashes may follow the scheme, the host is made canonical, dot segments are resolved, and
characters that may not stand in a part are percent encoded. Only `http` and `https` URLs name
something that can be requested, so no other scheme is read. -/

namespace Laneway.Http

/-- The schemes that can be requested. -/
inductive Scheme where
  | http
  | https
deriving DecidableEq, Repr

def Scheme.text : Scheme → String
  | .http => "http"
  | .https => "https"

def Scheme.ofText? (text : String) : Option Scheme :=
  if text = "http" then some .http else if text = "https" then some .https else none

/-- The port a scheme stands for when none is written. -/
def Scheme.defaultPort : Scheme → Nat
  | .http => 80
  | .https => 443

/-- A name and perhaps a password before the host, percent encoded. -/
structure Credentials where
  user : String
  password : Option String
deriving DecidableEq

/-- A URL in canonical form. -/
structure Url where
  scheme : Scheme
  credentials : Option Credentials
  host : String
  /-- The port, unless it is the default one of the scheme. -/
  port : Option Nat
  /-- The path, which starts with a slash. -/
  path : String
  /-- What follows a question mark. -/
  query : Option String
  /-- What follows a number sign. -/
  fragment : Option String
deriving DecidableEq

namespace Url

/-! ## Which characters stay as they are -/

/-- A printable ASCII character other than blank space and those in `encoded`. -/
def keepsBut (encoded : String) (b : UInt8) : Bool :=
  0x21 ≤ b && b ≤ 0x7E && !encoded.toList.contains (Char.ofNat b.toNat)

def keepsInPath : UInt8 → Bool := keepsBut "\"#<>?\x60\x7b\x7d"

def keepsInQuery : UInt8 → Bool := keepsBut "\"#<>\x27"

def keepsInFragment : UInt8 → Bool := keepsBut "\"<>\x60"

def keepsInCredentials : UInt8 → Bool := keepsBut "\"#<>?\x60\x7b\x7d/:;=@[\\]^|"

/-! ## Paths -/

/-- Slashes of both kinds divide segments. -/
def isSlash (c : Char) : Bool := c = '/' || c = '\\'

/-- The texts of a dot in a segment. -/
def dots : List String := [".", "%2e", "%2E"]

/-- A segment that stands for its own place. -/
def isSingleDot (segment : String) : Bool := dots.contains segment

/-- A segment that stands for the place above. -/
def isDoubleDot (segment : String) : Bool :=
  dots.any fun a => dots.any fun b => segment = a ++ b

/-- A letter and a colon or a bar; such a segment is a drive, above which there is nothing. -/
def isDrive (segment : String) : Bool :=
  match segment.toList with
  | [letter, mark] => letter.isAlpha && (mark = ':' || mark = '|')
  | _ => false

/-- The segments above a place: the last is left out, unless it is a drive. -/
def above (segments : List String) : List String :=
  match segments.getLast? with
  | some last => if isDrive last then segments else segments.dropLast
  | none => []

/-- Resolves dot segments; `done` are the segments so far. -/
def resolveDots : (done : List String) → List String → List String
  | done, [] => done
  -- a path ends with its last segment, and with a slash only after a dot
  | done, [last] =>
    if isDoubleDot last then above done ++ [""]
    else if isSingleDot last then done ++ [""] else done ++ [last]
  | done, segment :: rest =>
    if isDoubleDot segment then resolveDots (above done) rest
    else if isSingleDot segment then resolveDots done rest
    else resolveDots (done ++ [segment]) rest

/-- The canonical form of a path as written. -/
def pathText (written : List Char) : String :=
  let inner := match written with
    | c :: rest => if isSlash c then rest else c :: rest
    | [] => []
  let segments := (inner.splitOnP isSlash).map (Percent.encode keepsInPath)
  "/" ++ "/".intercalate (resolveDots [] segments)

/-! ## What precedes the path -/

/-- The texts before and after the last `@`. -/
def splitCredentials (authority : List Char) : Option (List Char) × List Char :=
  if authority.contains '@' then
    let after := (authority.reverse.takeWhile (· ≠ '@')).reverse
    (some (authority.take (authority.length - after.length - 1)), after)
  else (none, authority)

/-- The user name and password of a text before `@`; empty parts count as missing. -/
def credentials? (written : List Char) : Option Credentials :=
  let user := written.takeWhile (· ≠ ':')
  let password := (written.dropWhile (· ≠ ':')).drop 1
  if user.isEmpty ∧ password.isEmpty then none
  else some ⟨Percent.encode keepsInCredentials user,
    if password.isEmpty then none else some (Percent.encode keepsInCredentials password)⟩

/-- The texts before and after the colon of the port, which stands outside brackets. -/
def splitPort : (inBrackets : Bool) → List Char → List Char × Option (List Char)
  | _, [] => ([], none)
  | inBrackets, c :: rest =>
    if c = ':' ∧ !inBrackets then ([], some rest)
    else
      let inBrackets := if c = '[' then true else if c = ']' then false else inBrackets
      let (host, port) := splitPort inBrackets rest
      (c :: host, port)

/-- A port in decimal digits, or none at all; the outer `none` is a fault. -/
def port? (scheme : Scheme) : Option (List Char) → Option (Option Nat)
  | none => some none
  | some digits =>
    if digits.isEmpty then some none
    else if digits.all Char.isDigit then
      match Ipv4.digits? 10 0 digits with
      | some n =>
        if 0x10000 ≤ n then none else if n = scheme.defaultPort then some none else some (some n)
      | none => none
    else none

/-! ## Whole URLs -/

/-- Drops controls and blank space at both ends. -/
def trim (cs : List Char) : List Char :=
  ((cs.dropWhile (·.toNat ≤ 0x20)).reverse.dropWhile (·.toNat ≤ 0x20)).reverse

/-- The scheme in lower case and what follows its colon. -/
def splitScheme (cs : List Char) : Option (String × List Char) :=
  let name := cs.takeWhile fun c => c.isAlphanum || c = '+' || c = '-' || c = '.'
  match name, cs.drop name.length with
  | first :: _, ':' :: rest =>
    if first.isAlpha then some (String.ofList (name.map Char.toLower), rest) else none
  | _, _ => none

def parse? (text : String) : Option Url := do
  -- tabs and line breaks count nowhere in a URL
  let cs := (trim text.toList).filter fun c => c ≠ '\t' ∧ c ≠ '\n' ∧ c ≠ '\x0d'
  let (name, rest) ← splitScheme cs
  let scheme ← Scheme.ofText? name
  let rest := rest.dropWhile isSlash
  let authority := rest.takeWhile fun c => !(isSlash c || c = '?' || c = '#')
  let rest := rest.drop authority.length
  let (before, after) := splitCredentials authority
  let (hostWritten, portWritten) := splitPort false after
  let host ← host? hostWritten
  let port ← port? scheme portWritten
  let path := rest.takeWhile fun c => !(c = '?' || c = '#')
  let rest := rest.drop path.length
  let (query, rest) := match rest with
    | '?' :: rest =>
      let query := rest.takeWhile (· ≠ '#')
      (some (Percent.encode keepsInQuery query), rest.drop query.length)
    | _ => (none, rest)
  let fragment := match rest with
    | '#' :: rest => some (Percent.encode keepsInFragment rest)
    | _ => none
  return {
    scheme, host, port, query, fragment
    credentials := before.bind credentials?
    path := pathText path }

def text (url : Url) : String :=
  let credentials := match url.credentials with
    | some ⟨user, none⟩ => user ++ "@"
    | some ⟨user, some password⟩ => user ++ ":" ++ password ++ "@"
    | none => ""
  url.scheme.text ++ "://" ++ credentials ++ url.host
    ++ (match url.port with
      | some port => ":" ++ toString port
      | none => "")
    ++ url.path
    ++ (match url.query with
      | some query => "?" ++ query
      | none => "")
    ++ (match url.fragment with
      | some fragment => "#" ++ fragment
      | none => "")

/-! ## What a connection can use -/

/-- A character that may stand in the host of a request line. -/
def isHostChar (c : Char) : Bool := c.isAlphanum || "!$&'()*+,-.:;=[]_~".toList.contains c

/-- Whether a URL can be sent in a request: its host holds no character that the request line
    refuses, and it is not too long. -/
def isSendable (url : Url) : Bool :=
  url.host.toList.all isHostChar && url.text.utf8ByteSize < 0xFFFF

end Url

end Laneway.Http

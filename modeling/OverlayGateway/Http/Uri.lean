/-!
Request targets and other URIs, split at their delimiters without being decoded. A target may be a
path, an authority, or a scheme with both; a fragment is not part of it.
-/

set_option autoImplicit false
set_option relaxedAutoImplicit false

namespace OverlayGateway.Http

/-- Why a text is no URI. -/
inductive UriError where
  | empty
  | tooLong
  | invalidChar
  | invalidAuthority
  | invalidFormat
  | schemeTooLong
  deriving DecidableEq, Repr

def UriError.message : UriError → String
  | .empty => "empty string"
  | .tooLong => "uri too long"
  | .invalidChar => "invalid uri character"
  | .invalidAuthority => "invalid authority"
  | .invalidFormat => "invalid format"
  | .schemeTooLong => "scheme too long"

structure Uri where
  scheme : Option String := none
  authority : Option String := none
  /-- The path as it is written, which may be empty. -/
  rawPath : String := ""
  query : Option String := none
  deriving DecidableEq, Repr

namespace Uri

/-- The path; behind a scheme an empty one is the root. -/
def path (uri : Uri) : String :=
  if uri.rawPath = "" ∧ (uri.scheme.isSome ∨ uri.query.isSome) then "/" else uri.rawPath

def text (uri : Uri) : String :=
  (match uri.scheme with
    | some scheme => scheme ++ "://"
    | none => "") ++
    uri.authority.getD "" ++ uri.path ++
    (match uri.query with
      | some query => "?" ++ query
      | none => "")

def isPathChar (c : Char) : Bool :=
  c = '!' || ('$' ≤ c && c ≤ ';') || c = '=' || ('@' ≤ c && c ≤ '_') || ('a' ≤ c && c ≤ '~') ||
    c = '"' || 0x7F ≤ c.toNat

def isQueryChar (c : Char) : Bool :=
  c = '!' || ('$' ≤ c && c ≤ ';') || c = '=' || ('?' ≤ c && c ≤ '~') || 0x7F ≤ c.toNat

/-- Path and query up to the fragment. -/
def readPath (cs : List Char) : Except UriError (String × Option String) :=
  let cs := cs.takeWhile (· ≠ '#')
  let path := cs.takeWhile (· ≠ '?')
  if !path.all isPathChar then .error .invalidChar
  else
    match cs.dropWhile (· ≠ '?') with
    | [] => .ok (String.ofList path, none)
    | _ :: query =>
      if query.all isQueryChar then .ok (String.ofList path, some (String.ofList query))
      else .error .invalidChar

def isSchemeChar (c : Char) : Bool :=
  c.isAlphanum || c = '+' || c = '-' || c = '.' || c = '~'

/-- A scheme in front of two slashes, and what follows them. An empty one needs something behind
it. -/
def readScheme (cs : List Char) : Except UriError (Option String × List Char) :=
  let scheme := cs.takeWhile isSchemeChar
  match cs.dropWhile isSchemeChar with
  | ':' :: '/' :: '/' :: rest =>
    let lower := scheme.map Char.toLower
    if lower = "http".toList ∨ lower = "https".toList then
      .ok (some (String.ofList lower), rest)
    else if scheme = [] ∧ rest = [] then .ok (none, cs)
    else if 64 < scheme.length then .error .schemeTooLong
    else .ok (some (String.ofList scheme), rest)
  | _ => .ok (none, cs)

/-- Whether a character ends an authority. -/
def endsAuthority (c : Char) : Bool := c = '/' || c = '?' || c = '#'

/-- What has been seen of an authority. -/
structure AuthorityScan where
  colons : Nat := 0
  opened : Bool := false
  closed : Bool := false
  percent : Bool := false

/-- Takes one character of an authority. -/
def AuthorityScan.step (scan : AuthorityScan) (c : Char) : Except UriError AuthorityScan :=
  if c = ':' then
    if 8 ≤ scan.colons then .error .invalidAuthority
    else .ok { scan with colons := scan.colons + 1 }
  else if c = '[' then
    if scan.percent || scan.opened then .error .invalidAuthority
    else .ok { scan with opened := true }
  else if c = ']' then
    if !scan.opened || scan.closed then .error .invalidAuthority
    else .ok { scan with closed := true, colons := 0, percent := false }
  else if c = '@' then .ok { scan with colons := 0, percent := false }
  else if c = '%' then .ok { scan with percent := true }
  else if c.isAlphanum || "!$&'()*+,-.;=_~".toList.contains c then .ok scan
  else .error .invalidChar

/-- Checks an authority: brackets in pairs, at most one colon behind them, and something after an
at sign. -/
def checkAuthority (cs : List Char) : Except UriError Unit := do
  let scan ← cs.foldlM AuthorityScan.step {}
  if scan.opened != scan.closed || 1 < scan.colons || cs.getLast? = some '@' || scan.percent then
    throw .invalidAuthority

def parse (s : String) : Except UriError Uri :=
  let cs := s.toList
  if cs = [] then .error .empty
  else if 65534 < s.utf8ByteSize then .error .tooLong
  else if cs = ['*'] then .ok { rawPath := "*" }
  else if cs.head? = some '/' then do
    let (rawPath, query) ← readPath cs
    return { rawPath, query }
  else do
    let (scheme, rest) ← readScheme cs
    let authority := rest.takeWhile fun c ↦ !endsAuthority c
    checkAuthority authority
    match scheme with
    | none =>
      if authority.length = rest.length then return { authority := some (String.ofList authority) }
      else throw (if rest.length = 1 then .invalidChar else .invalidFormat)
    | some scheme =>
      if rest = [] then throw .empty
      if authority = [] then throw .invalidFormat
      let (rawPath, query) ← readPath (rest.dropWhile fun c ↦ !endsAuthority c)
      return { scheme := some scheme, authority := some (String.ofList authority), rawPath, query }

end Uri

end OverlayGateway.Http

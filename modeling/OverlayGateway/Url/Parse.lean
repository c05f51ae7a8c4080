import OverlayGateway.Url.Path
/-!
Reading URLs. A URL has to start with a scheme. Those with a well-known scheme name a host, after
any number of slashes; those of files may do without, and those with another scheme name one if they
have two slashes. Without a host, a path that does not start with a slash is opaque.
-/

set_option autoImplicit false
set_option relaxedAutoImplicit false

namespace OverlayGateway.Url

/-- The text without controls and spaces at its ends and without tabs and line ends anywhere. -/
def clean (cs : List Char) : List Char :=
  let outer := fun c : Char ↦ c.toNat ≤ 0x20
  (((cs.dropWhile outer).reverse.dropWhile outer).reverse).filter fun c ↦ !isIgnored c

def isSchemeChar (c : Char) : Bool := c.isAlphanum || c = '+' || c = '-' || c = '.'

/-- A scheme in lower case and what follows its colon. -/
def readScheme? (cs : List Char) : Option (String × List Char) :=
  match cs with
  | [] => none
  | first :: _ =>
    match cs.dropWhile isSchemeChar with
    | ':' :: rest =>
      if first.isAlpha then
        some (Text.lower (String.ofList (cs.takeWhile isSchemeChar)), rest)
      else none
    | _ => none

/-- The end of the authority. -/
def endsAuthority (scheme : String) (c : Char) : Bool := isSlash scheme c || c = '?' || c = '#'

/-- User name and password, and what follows the last at sign of an authority. An at sign alone is
no authority, unless the whole text ends with it. -/
def readUserinfo (isEnd : Bool) (authority : List Char) :
    Except UrlError (String × String × List Char) :=
  if !authority.contains '@' then .ok ("", "", authority)
  else
    let host := (authority.reverse.takeWhile (· ≠ '@')).reverse
    let userinfo := authority.take (authority.length - host.length - 1)
    let encoded := fun cs : List Char ↦ String.ofList (Percent.encode Percent.inUserinfo cs)
    if userinfo = [] ∧ host = [] ∧ !isEnd then .error .emptyHost
    else
      match Text.cutAt ':' userinfo with
      | some (username, password) => .ok (encoded username, encoded password, host)
      | none => .ok (encoded userinfo, "", host)

/-- The host, and what follows it; a colon inside brackets belongs to the host. -/
def spanHost (inside : Bool) : List Char → List Char × List Char
  | [] => ([], [])
  | c :: cs =>
    if c = ':' && !inside then ([], c :: cs)
    else
      let (host, rest) := spanHost (if c = '[' then true else if c = ']' then false else inside) cs
      (c :: host, rest)

/-- What ends a port. -/
def endsPort (c : Char) : Bool := c = '/' || c = '\\' || c = '?' || c = '#'

/-- The port that some digits write down, unless it is the one of the scheme. -/
def readPort (scheme : String) (digits : List Char) : Except UrlError (Option Nat) :=
  if digits = [] then .ok none
  else if digits.all Char.isDigit then
    match (Decimal.readChars UInt16.size digits).toOption with
    | some port => .ok (if defaultPort? scheme = some port then none else some port)
    | none => .error .invalidPort
  else .error .invalidPort

/-- The authority at the start of a text, and what follows it; `isLast` tells that nothing follows
the text. Where no host has to be named, nothing else of an authority may be there without one. -/
def readAuthority (scheme : String) (isLast : Bool) (cs : List Char) :
    Except UrlError (Authority × List Char) := do
  let isInside := fun c ↦ !endsAuthority scheme c
  let after := cs.dropWhile isInside
  let (username, password, rest) ←
    readUserinfo (isLast && after.isEmpty) (cs.takeWhile isInside)
  let (host, port) := spanHost false rest
  let host ← if isSpecial scheme then Host.parse host else Host.parseOpaque host
  if host = .domain "" ∧ (port ≠ [] ∨ username ≠ "" ∨ password ≠ "") then .error .emptyHost
  match port with
  | [] => return ({ username, password, host }, after)
  | _ :: rest =>
    let rest := rest ++ after
    let isDigit := fun c ↦ !endsPort c
    return ({ username, password, host, port := ← readPort scheme (rest.takeWhile isDigit) },
      rest.dropWhile isDigit)

/-- An authority and the path behind it. -/
def readHierarchy (scheme : String) (isLast : Bool) (cs : List Char) :
    Except UrlError Location := do
  let (authority, path) ← readAuthority scheme isLast cs
  return .hierarchical authority (segmentsOf scheme path)

/-- The path of a file without a host. -/
def fileWithoutHost (cs : List Char) : Location :=
  .hierarchical { host := .domain "" } (segmentsOf "file" cs)

/-- The path of a file and its host, which stands behind two slashes. A drive is no host and has
none. -/
def readFile (cs : List Char) : Except UrlError Location :=
  match cs with
  | first :: second :: rest =>
    if isSlash "file" first && isSlash "file" second then
      let host := rest.takeWhile fun c ↦ !isSlash "file" c
      let path := rest.dropWhile fun c ↦ !isSlash "file" c
      if isDrive host then .ok (fileWithoutHost rest)
      else if host = [] then .ok (fileWithoutHost path)
      else do
        let host ← Host.parse host
        if host = .domain "localhost" || namesDrive path then return fileWithoutHost path
        return .hierarchical { host } (segmentsOf "file" path)
    else .ok (fileWithoutHost cs)
  | cs => .ok (fileWithoutHost cs)

/-- A path without an authority, which bears a mark if it would look like one. -/
def rootedAt (segments : List String) : Location :=
  .rooted (segments.head? = some "" && 1 < segments.length) segments

/-- What follows a scheme, up to the query and the fragment. -/
def readLocation (scheme : String) (isLast : Bool) (cs : List Char) : Except UrlError Location :=
  if isFile scheme then readFile cs
  else if isSpecial scheme then
    readHierarchy scheme isLast (cs.dropWhile (isSlash scheme))
  else
    match cs with
    | '/' :: '/' :: rest => readHierarchy scheme isLast rest
    | '/' :: _ => .ok (rootedAt (segmentsOf scheme cs))
    | cs => .ok (.opaquePath (String.ofList (Percent.encode Percent.isControl cs)))

/-- What stands in front of the fragment, and the fragment. -/
def cutFragment (cs : List Char) : List Char × Option String :=
  match Text.cutAt '#' cs with
  | some (front, fragment) =>
    (front, some (String.ofList (Percent.encode Percent.inFragment fragment)))
  | none => (cs, none)

/-- What stands in front of the query, and the query. -/
def cutQuery (isEncoded : Char → Bool) (cs : List Char) : List Char × Option String :=
  match Text.cutAt '?' cs with
  | some (front, query) => (front, some (String.ofList (Percent.encode isEncoded query)))
  | none => (cs, none)

def parse (s : String) : Except UrlError Url :=
  match readScheme? (clean s.toList) with
  | none => .error .relative
  | some (scheme, rest) => do
    let (rest, fragment) := cutFragment rest
    let (rest, query) := cutQuery (inQueryOf scheme) rest
    return ⟨scheme, ← readLocation scheme (query.isNone && fragment.isNone) rest, query, fragment⟩

end OverlayGateway.Url

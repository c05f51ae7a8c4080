import OverlayGateway.Url.Basic
/-!
Paths. A path is taken segment by segment: a dot stays, two dots go up as far as there is
something to leave, and every other segment goes down. Either spelling of a slash separates
segments where the scheme is a well-known one, and a dot may be percent-encoded. The letter of a
drive is never left; in the path of a file it may be spelled with a bar.
-/

set_option autoImplicit false
set_option relaxedAutoImplicit false

namespace OverlayGateway.Url

/-- The spellings of the segment that stays. -/
def isSingleDot (segment : List Char) : Bool :=
  Text.lower (String.ofList segment) ∈ [".", "%2e"]

/-- The spellings of the segment that goes up. -/
def isDoubleDot (segment : List Char) : Bool :=
  Text.lower (String.ofList segment) ∈ ["..", ".%2e", "%2e.", "%2e%2e"]

/-- Whether a text begins with the letter of a drive and a colon or a bar. -/
def startsWithDrive (segment : List Char) : Bool :=
  match segment with
  | letter :: mark :: rest =>
    letter.isAlpha && (mark = ':' || mark = '|') && (rest.head?.all (· = '\\'))
  | _ => false

/-- Whether a text is the letter of a drive and nothing else. -/
def isDrive (segment : List Char) : Bool := startsWithDrive segment && segment.length = 2

/-- The segments without the last one, unless that is a drive. -/
def goUp (segments : List String) : List String :=
  if segments.getLast?.any fun segment ↦ startsWithDrive segment.toList then segments
  else segments.dropLast

/-- The text of a segment. The drive that the path of a file starts with is spelled with a colon. -/
def segmentText (scheme : String) (isFirst : Bool) (segment : List Char) : String :=
  if isFile scheme && isFirst && isDrive segment then String.ofList (segment.take 1 ++ [':'])
  else String.ofList (Percent.encode Percent.inPath segment)

/-- Takes one segment; the last one always leaves a segment behind. -/
def walk (scheme : String) (segments : List String) (segment : List Char) (isLast : Bool) :
    List String :=
  if isDoubleDot segment then goUp segments ++ (if isLast then [""] else [])
  else if isSingleDot segment then segments ++ (if isLast then [""] else [])
  else segments ++ [segmentText scheme segments.isEmpty segment]

/-- Takes the segments of a path in order. -/
def walkAll (scheme : String) (segments : List String) : List (List Char) → List String
  | [] => segments
  | [last] => walk scheme segments last true
  | segment :: rest => walkAll scheme (walk scheme segments segment false) rest

/-- What separates segments. -/
def isSlash (scheme : String) (c : Char) : Bool := c = '/' || (isSpecial scheme && c = '\\')

/-- A path without the one slash that it may start with. -/
def dropSlash (scheme : String) (cs : List Char) : List Char :=
  match cs with
  | c :: rest => if isSlash scheme c then rest else c :: rest
  | [] => []

/-- Tabs and line ends, which a URL does not count. -/
def isIgnored (c : Char) : Bool := c = '\t' || c = '\n' || c = '\r'

/-- The segments that the text of a path leads to, step by step. -/
def walked (scheme : String) (cs : List Char) : List String :=
  walkAll scheme [] (Text.piecesWhere (isSlash scheme) (dropSlash scheme cs))

/-- The segments of a path. That of a file has no empty ones in front of the others, and only a
scheme that is not well known has paths without segments. -/
def segmentsOf (scheme : String) (cs : List Char) : List String :=
  if cs.isEmpty && !isSpecial scheme then []
  else if isFile scheme then
    match (walked scheme cs).dropWhile (· = "") with
    | [] => [""]
    | segments => segments
  else walked scheme cs

/-- Whether a path starts with a drive, so that it belongs to no host. -/
def namesDrive (cs : List Char) : Bool :=
  (walked "file" cs).head?.any fun segment ↦ isDrive segment.toList

/-- What a query is encoded with. -/
def inQueryOf (scheme : String) : Char → Bool :=
  if isSpecial scheme then Percent.inSpecialQuery else Percent.inQuery

/-- The text of a query as it is written in a URL. -/
def queryOf (scheme query : String) : String :=
  String.ofList
    (Percent.encode (inQueryOf scheme) (query.toList.filter fun c ↦ !isIgnored c))

/-- The text without the slashes at its end. -/
def dropSlashesEnd (s : String) : String :=
  String.ofList (s.toList.reverse.dropWhile (· == '/')).reverse

/-- The text without the slashes at its start. -/
def dropSlashesStart (s : String) : String := String.ofList (s.toList.dropWhile (· == '/'))

/-- The text of an opaque path; a slash in front would make it another kind of path. -/
def opaqueText (cs : List Char) : String :=
  match cs with
  | '/' :: rest => "%2F" ++ String.ofList (Percent.encode Percent.isControl rest)
  | cs => String.ofList (Percent.encode Percent.isControl cs)

/-- The text without the spaces at its end. -/
def dropSpacesEnd (s : String) : String :=
  String.ofList (s.toList.reverse.dropWhile (· == ' ')).reverse

/-- The URL below a base with a path and a query, in place of the query of the base; authority and
fragment are those of the base. No opaque path ends with a space that would end the whole URL. -/
def below (base : Url) (path : String) (query : Option String) : Url :=
  let joined := dropSlashesEnd base.pathText ++ "/" ++ dropSlashesStart path
  let chars := joined.toList.filter fun c ↦ !isIgnored c
  { base with
    location :=
      match base.location with
      | .hierarchical authority _ => .hierarchical authority (segmentsOf base.scheme chars)
      | .rooted isMarked _ => .rooted isMarked (segmentsOf base.scheme chars)
      | .opaquePath _ =>
        let text := opaqueText chars
        .opaquePath (if query.isNone && base.fragment.isNone then dropSpacesEnd text else text)
    query := query.map (queryOf base.scheme) }

end OverlayGateway.Url

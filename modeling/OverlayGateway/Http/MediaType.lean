import OverlayGateway.Http.Header
import OverlayGateway.Text.Basic
/-!
Media types. A media type is two tokens with a slash between them, the second of which may end in a
suffix, and parameters behind semicolons; nothing else may stand in it, not even a blank in front.
-/

set_option autoImplicit false
set_option relaxedAutoImplicit false

namespace OverlayGateway.Http

/-- A media type in lower case, its parameters left out. -/
structure MediaType where
  kind : List Char
  subtype : List Char
  /-- What stands behind the last plus sign of the second token. -/
  suffix : Option (List Char) := none
  deriving DecidableEq, Repr

namespace MediaType

def isTokenChar (c : Char) : Bool := isNameChar c.toLower

/-- The characters that may stand in quotes; the first one may even be a quote. -/
def isQuotable (c : Char) : Bool := 31 < c.toNat && c.toNat ≠ 127

/-- Whether a text is a list of parameters, as it stands behind a semicolon; one may end it. `fuel`
bounds the number of parameters. -/
def areParameters : Nat → List Char → Bool
  | 0, cs => cs.all (· = ' ')
  | fuel + 1, cs =>
    let cs := cs.dropWhile (· = ' ')
    let name := cs.takeWhile isTokenChar
    cs = [] || (name ≠ [] &&
      match cs.dropWhile isTokenChar with
      | '=' :: '"' :: c :: rest =>
        isQuotable c && (rest.takeWhile (· ≠ '"')).all isQuotable &&
          match rest.dropWhile (· ≠ '"') with
          | [] => false
          | _ :: rest =>
            match rest.dropWhile (· = ' ') with
            | [] => true
            | c :: rest => c = ';' && areParameters fuel rest
      | '=' :: value =>
        match value.dropWhile isTokenChar with
        | [] => true
        | c :: rest => c = ';' && value.head? ≠ some ';' && areParameters fuel rest
      | _ => false)

/-- Whether there is nothing behind the two tokens, or only parameters. -/
def endsType : List Char → Bool
  | [] => true
  | c :: rest => c = ';' && areParameters rest.length rest

/-- The second token without its suffix, and the suffix. -/
def cutSuffix (token : List Char) : List Char × Option (List Char) :=
  let suffix := (token.reverse.takeWhile (· ≠ '+')).reverse
  let base := token.take (token.length - suffix.length - 1)
  if base = [] then (token, none) else (base, some suffix)

def parse? (s : String) : Option MediaType :=
  let cs := s.toList
  let kind := cs.takeWhile isTokenChar
  match cs.dropWhile isTokenChar with
  | '/' :: rest =>
    let token := rest.takeWhile isTokenChar
    if kind ≠ [] && token ≠ [] && endsType (rest.dropWhile isTokenChar) then
      let (subtype, suffix) := cutSuffix (token.map Char.toLower)
      some ⟨kind.map Char.toLower, subtype, suffix⟩
    else none
  | _ => none

/-- Whether documents of a media type are JSON. -/
def isJson (mediaType : MediaType) : Bool :=
  mediaType.kind = "application".toList &&
    (mediaType.subtype = "json".toList || mediaType.suffix = some "json".toList)

end MediaType

end OverlayGateway.Http

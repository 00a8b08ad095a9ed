import QueryBridge.Url.Host

/-!
# URLs

A URL is kept in its normal form: scheme and host in small letters, every component
percent-encoded outside its safe characters, no port that the scheme implies, and no
dot segments in the path.  A percent sign is safe in every component, so what is
encoded already is left as it is.

`parse` reads a URL.  `withRawPath` replaces path and query by a text that holds both.
-/

namespace QueryBridge

/-- A URL in normal form. -/
structure Url where
  scheme : List Char
  userinfo : List Char
  host : List Char
  port : Option Int
  path : List Char
  query : Option (List Char)
  fragment : Option (List Char)
deriving Repr, DecidableEq

namespace Url

/-- The greatest length of a URL and of each of its components. -/
def maxLength : Nat := 65536

/-! ## Safe characters -/

def isSafeExcept (unsafeCharacters : String) (c : Char) : Bool :=
  0x20 < c.toNat && c.toNat < 0x7F && !unsafeCharacters.toList.contains c

def isFragmentSafe : Char → Bool := isSafeExcept "\"<>`"

def isQuerySafe : Char → Bool := isSafeExcept "\"#<>"

def isPathSafe : Char → Bool := isSafeExcept "\"#<>?`\x7b\x7d"

def isUserinfoSafe : Char → Bool := isSafeExcept "\"#<>?`\x7b\x7d/;=@[\\]^|"

/-! ## Components -/

/-- The components of a text, as they stand. -/
structure Components where
  scheme : List Char
  authority : List Char
  path : List Char
  query : Option (List Char)
  fragment : Option (List Char)
deriving Repr, DecidableEq

def isSchemeChar (c : Char) : Bool :=
  c.isAlphanum || c == '+' || c == '.' || c == '-'

/-- A scheme with its colon, and what follows; a colon alone is an empty scheme. -/
def cutScheme (text : List Char) : List Char × List Char :=
  let word := text.takeWhile isSchemeChar
  match text.dropWhile isSchemeChar with
  | ':' :: rest =>
      if word.head?.all Char.isAlpha then (word, rest) else ([], text)
  | _ => ([], text)

/-- An authority behind two slashes, and what follows. -/
def cutAuthority (text : List Char) : List Char × List Char :=
  match text with
  | '/' :: '/' :: rest =>
      (rest.takeWhile fun c => c != '/' && c != '?' && c != '#',
        rest.dropWhile fun c => c != '/' && c != '?' && c != '#')
  | _ => ([], text)

/-- What stands before a mark, and what stands behind it if it occurs. -/
def cutMark (mark : Char) (text : List Char) : List Char × Option (List Char) :=
  (text.takeWhile (· != mark),
    if text.contains mark then some ((text.dropWhile (· != mark)).drop 1) else none)

def Components.ofText (text : List Char) : Components :=
  let scheme := cutScheme text
  let authority := cutAuthority scheme.2
  let fragment := cutMark '#' authority.2
  let query := cutMark '?' fragment.1
  ⟨scheme.1, authority.1, query.1, query.2, fragment.2⟩

/-- The parts of an authority: user information up to the last at sign, host, and the
text of the port. -/
def cutUserinfo (authority : List Char) : List Char × List Char :=
  if authority.contains '@' then
    (((authority.reverse.dropWhile (· != '@')).drop 1).reverse,
      (authority.reverse.takeWhile (· != '@')).reverse)
  else ([], authority)

def cutHost (text : List Char) : List Char × List Char :=
  if text.head? == some '[' && text.contains ']' then
    ((text.reverse.dropWhile (· != ']')).reverse, (text.reverse.takeWhile (· != ']')).reverse)
  else
    (text.takeWhile fun c => c != ':' && c != '@', text.dropWhile fun c => c != ':' && c != '@')

def cutPort (text : List Char) : List Char :=
  match text with
  | ':' :: port => port
  | _ => text

/-! ## Dot segments -/

/-- Drops the segments `.`, and with each `..` the segment before it.  `kept` holds the
segments so far, the last one first; the empty one in front of a path stays. -/
def dropDotSegments (kept : List (List Char)) : List (List Char) → List (List Char)
  | [] => kept.reverse
  | segment :: rest =>
      if segment = ['.'] then dropDotSegments kept rest
      else if segment = ['.', '.'] then
        dropDotSegments (if kept = [[]] then kept else kept.drop 1) rest
      else dropDotSegments (segment :: kept) rest

def joinSegments (segments : List (List Char)) : List Char :=
  ['/'].intercalate segments

def normalPath (path : List Char) : List Char :=
  joinSegments (dropDotSegments [] (Text.splitOn '/' path))

/-! ## Normal form -/

def checkPath (path : List Char) (hasScheme hasAuthority : Bool) : Except Error Unit :=
  if hasAuthority then
    if path.head?.all (· == '/') then .ok () else .error .relativePathAfterAuthority
  else if hasScheme then .ok ()
  else if ['/', '/'].isPrefixOf path then .error .relativeDoubleSlash
  else if path.head? == some ':' then .error .relativeColon
  else .ok ()

/-- The URL with the given components. -/
def ofComponents (components : Components) : Except Error Url := do
  let userinfo := cutUserinfo components.authority
  let host := cutHost userinfo.2
  let scheme := components.scheme.map Char.toLower
  let encodedUserinfo := Text.Percent.encodeExcept isUserinfoSafe userinfo.1
  let encodedHost ← normalHost host.1
  let port ← normalPort components.scheme (cutPort host.2)
  let hasScheme := !scheme.isEmpty
  let hasAuthority := !encodedUserinfo.isEmpty || !encodedHost.isEmpty || port.isSome
  checkPath components.path hasScheme hasAuthority
  let path := if hasScheme || hasAuthority then normalPath components.path else components.path
  return {
    scheme := scheme
    userinfo := encodedUserinfo
    host := encodedHost
    port := port
    path := Text.Percent.encodeExcept isPathSafe path
    query := components.query.map (Text.Percent.encodeExcept isQuerySafe)
    fragment := components.fragment.map (Text.Percent.encodeExcept isFragmentSafe) }

def isUnprintableAscii (c : Char) : Bool :=
  c.toNat < 0x20 || c.toNat == 0x7F

/-- Reads a URL. -/
def parse (text : List Char) : Except Error Url :=
  if maxLength < text.length then .error .tooLong
  else
    match text.dropWhile fun c => !isUnprintableAscii c with
    | c :: _ =>
        .error (.unprintable c (text.takeWhile fun c => !isUnprintableAscii c).length)
    | [] => ofComponents (Components.ofText text)

/-! ## Text -/

/-- User information, host and port as they stand in the text. -/
def authority (url : Url) : List Char :=
  (if url.userinfo.isEmpty then [] else url.userinfo ++ ['@']) ++
    (if url.host.contains ':' then '[' :: url.host ++ [']'] else url.host) ++
    (match url.port with
      | none => []
      | some port => ':' :: (toString port).toList)

def withMark (mark : Char) : Option (List Char) → List Char
  | none => []
  | some text => mark :: text

def toText (url : Url) : List Char :=
  (if url.scheme.isEmpty then [] else url.scheme ++ [':']) ++
    (if url.authority.isEmpty then [] else '/' :: '/' :: url.authority) ++
    url.path ++ withMark '?' url.query ++ withMark '#' url.fragment

/-- The path, which is at least a slash, with the query. -/
def rawPath (url : Url) : List Char :=
  (if url.path.isEmpty then ['/'] else url.path) ++ withMark '?' url.query

/-- The path with its percent-encoding undone. -/
def decodedPath (url : Url) : String :=
  if url.path.isEmpty then "/" else Text.Percent.decode (String.ofList url.path)

/-! ## Changing components -/

def components (url : Url) : Components :=
  ⟨url.scheme, url.authority, url.path, url.query, url.fragment⟩

def checkLengths (components : Components) : Except Error Unit :=
  if maxLength < components.scheme.length then .error (.componentTooLong "scheme")
  else if maxLength < components.authority.length then .error (.componentTooLong "authority")
  else if maxLength < components.path.length then .error (.componentTooLong "path")
  else if maxLength < (components.query.getD []).length then
    .error (.componentTooLong "query")
  else if maxLength < (components.fragment.getD []).length then
    .error (.componentTooLong "fragment")
  else .ok ()

/-- The URL with its components changed, in normal form again. -/
def rebuild (components : Components) : Except Error Url := do
  checkLengths components
  ofComponents components

def withRawPath (url : Url) (rawPath : List Char) : Except Error Url :=
  let parts := cutMark '?' rawPath
  rebuild { url.components with path := parts.1, query := parts.2 }

def withFragment (url : Url) (fragment : List Char) : Except Error Url :=
  rebuild { url.components with fragment := some fragment }

/-! ## Joining to a base -/

/-- A base ends in a slash, so that paths can be appended to it. -/
def toBase (url : Url) : Except Error Url :=
  if url.rawPath.getLast? = some '/' then .ok url else url.withRawPath (url.rawPath ++ ['/'])

def isAbsolute (url : Url) : Bool :=
  !url.scheme.isEmpty && !url.host.isEmpty

/-- The URL that a text means below a base. -/
def below (base : Url) (text : List Char) : Except Error Url := do
  let target ← parse text
  if target.isAbsolute then return target
  else base.withRawPath (base.rawPath ++ target.rawPath.dropWhile (· == '/'))

end Url

end QueryBridge

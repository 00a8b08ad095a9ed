import QueryBridge.Url.Basic

/-!
# References

A reference is a URL that may lack its beginning.  `follow` says which URL a reference
means that an answer to a request for `base` gives as its location.
-/

namespace QueryBridge.Url

/-- The schemes whose URLs can have references. -/
def hierarchicalSchemes : List String :=
  ["", "ftp", "http", "gopher", "nntp", "imap", "wais", "file", "https", "shttp", "mms",
    "prospero", "rtsp", "rtsps", "rtspu", "sftp", "svn", "svn+ssh", "ws", "wss"]

/-! ## Paths -/

/-- The hierarchical schemes in which a semicolon is part of the path. -/
def schemesWithoutParameters : List String :=
  ["gopher", "nntp", "wais", "file", "svn", "svn+ssh", "ws", "wss"]

/-- A path without the parameters of its last segment, and the parameters with the
semicolon in front of them, if they are not empty. -/
def cutParameters (scheme : String) (path : List Char) : List Char × List Char :=
  let last := (path.reverse.takeWhile (· != '/')).reverse
  let parameters := last.dropWhile (· != ';')
  if schemesWithoutParameters.contains scheme then (path, [])
  else
    (path.take (path.length - parameters.length),
      if parameters = [';'] then [] else parameters)

/-- Drops dot segments; a path that ends in one ends in a slash then. -/
def resolveSegments (kept : List (List Char)) : List (List Char) → List (List Char)
  | [] => kept.reverse
  | [segment] =>
      if segment = ['.', '.'] then ([] :: kept.drop 1).reverse
      else if segment = ['.'] then ([] :: kept).reverse
      else (segment :: kept).reverse
  | segment :: rest =>
      if segment = ['.', '.'] then resolveSegments (kept.drop 1) rest
      else if segment = ['.'] then resolveSegments kept rest
      else resolveSegments (segment :: kept) rest

/-- Drops the empty segments between the first and the last. -/
def dropInnerEmpty (segments : List (List Char)) : List (List Char) :=
  match segments with
  | [] => []
  | first :: rest => first :: (rest.dropLast.filter (!·.isEmpty) ++ rest.getLast?.toList)

/-- The path that a relative path means at a base path. -/
def resolvePath (base path : List Char) : List Char :=
  let own := Text.splitOn '/' path
  let segments :=
    if path.head? = some '/' then own
    else
      let parts := Text.splitOn '/' base
      let folder := if parts.getLast? = some [] then parts else parts.dropLast
      dropInnerEmpty (folder ++ own)
  let joined := joinSegments (resolveSegments [] segments)
  if joined.isEmpty then ['/'] else joined

/-! ## Texts -/

/-- An empty query or fragment does not count in a reference. -/
def nonEmpty (text : Option (List Char)) : Option (List Char) :=
  text.filter (!·.isEmpty)

/-- The text of a hierarchical URL. -/
def hierarchy (scheme authority path : List Char) (query fragment : Option (List Char)) :
    List Char :=
  let rooted := if path.head?.all (· == '/') then path else '/' :: path
  let rest :=
    if !authority.isEmpty || !scheme.isEmpty || ['/', '/'].isPrefixOf path then
      '/' :: '/' :: authority ++ rooted
    else path
  (if scheme.isEmpty then [] else scheme ++ [':']) ++ rest ++
    withMark '?' (nonEmpty query) ++ withMark '#' (nonEmpty fragment)

/-- The text of the URL that the components of a reference mean at those of a base. -/
def resolveComponents (base reference : Components) : List Char :=
  let scheme := String.ofList base.scheme
  let path := cutParameters scheme reference.path
  let basePath := cutParameters scheme base.path
  if !reference.authority.isEmpty then
    hierarchy base.scheme reference.authority (path.1 ++ path.2) reference.query
      reference.fragment
  else if path.1.isEmpty && path.2.isEmpty then
    hierarchy base.scheme base.authority (basePath.1 ++ basePath.2)
      ((nonEmpty reference.query).or base.query) reference.fragment
  else
    hierarchy base.scheme base.authority (resolvePath basePath.1 path.1 ++ path.2)
      reference.query reference.fragment

/-- Whether a reference means the same at every base: its scheme is not that of the base,
or not a hierarchical one. -/
def standsAlone (base reference : Components) : Bool :=
  (!reference.scheme.isEmpty && reference.scheme != base.scheme) ||
    !hierarchicalSchemes.contains (String.ofList base.scheme)

/-- The text of the URL that the text of a reference means at a base. -/
def resolve (base reference : List Char) : List Char :=
  if base.isEmpty then reference
  else if reference.isEmpty then base
  else
    let baseParts := Components.ofText base
    let parts := Components.ofText reference
    if standsAlone baseParts parts then reference else resolveComponents baseParts parts

/-! ## Locations -/

/-- The URL that a location means.  A location with a scheme but no host has the host of
`base`, and one without a fragment has the fragment of `base`. -/
def follow (base location : Url) : Except Error Url := do
  let location ←
    if !location.scheme.isEmpty && location.host.isEmpty then
      let host := if base.host.contains ':' then '[' :: base.host ++ [']'] else base.host
      let port := match location.port with
        | none => []
        | some port => ':' :: (toString port).toList
      let userinfo := if location.userinfo.isEmpty then [] else location.userinfo ++ ['@']
      rebuild { location.components with authority := userinfo ++ host ++ port }
    else pure location
  let target ← if location.isAbsolute then pure location
    else parse (resolve base.toText location.toText)
  match nonEmpty base.fragment with
  | some fragment =>
      if (nonEmpty target.fragment).isSome then return target
      else target.withFragment fragment
  | none => return target

end QueryBridge.Url

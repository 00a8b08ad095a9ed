import QueryBridge.Text.Quoted

/-!
# What is wrong with a URL
-/

namespace QueryBridge.Url

inductive Error where
  | tooLong
  | unprintable (c : Char) (position : Nat)
  | componentTooLong (component : String)
  | port (text : List Char)
  | ipv4 (host : List Char)
  | ipv6 (host : List Char)
  | hostname (host : List Char)
  /-- A path behind an authority does not begin with a slash. -/
  | relativePathAfterAuthority
  | relativeDoubleSlash
  | relativeColon
deriving Repr, DecidableEq

def Error.message : Error → String
  | .tooLong => "URL too long"
  | .unprintable c position =>
      "Invalid non-printable ASCII character in URL, " ++ Text.quoted c.toString ++
        " at position " ++ toString position ++ "."
  | .componentTooLong component => "URL component '" ++ component ++ "' too long"
  | .port text => "Invalid port: " ++ Text.quoted (String.ofList text)
  | .ipv4 host => "Invalid IPv4 address: " ++ Text.quoted (String.ofList host)
  | .ipv6 host => "Invalid IPv6 address: " ++ Text.quoted (String.ofList host)
  | .hostname host => "Invalid IDNA hostname: " ++ Text.quoted (String.ofList host)
  | .relativePathAfterAuthority =>
      "For absolute URLs, path must be empty or begin with '/'"
  | .relativeDoubleSlash => "Relative URLs cannot have a path starting with '//'"
  | .relativeColon => "Relative URLs cannot have a path starting with ':'"

end QueryBridge.Url

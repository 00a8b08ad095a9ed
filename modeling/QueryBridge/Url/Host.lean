import QueryBridge.Text.Blank
import QueryBridge.Text.Case
import QueryBridge.Text.Percent
import QueryBridge.Text.Split
import QueryBridge.Url.Error

/-!
# Hosts and ports

A host is an IPv4 address, an IPv6 address between brackets, or a name.  Addresses are
checked; a name is put into small letters and percent-encoded.  A port that the scheme
implies is left out.

International names, with characters beyond ASCII, are not covered: a client would have to
put them into ASCII by the rules for domain names first.  They are refused here, so what is
said about such a name says nothing about a client that knows these rules.
-/

namespace QueryBridge.Url

/-! ## IPv4 -/

/-- Whether a text has the look of four numbers with any characters between them:
`parts` numbers are still to come after the first. -/
def looksLikeNumbers : Nat → List Char → Bool
  | 0, text => !text.isEmpty && text.all Char.isDigit
  | _ + 1, [] => false
  | parts + 1, c :: rest =>
      c.isDigit && separators parts rest
where
  /-- Tries every separator up to the end of the digits. -/
  separators (parts : Nat) : List Char → Bool
    | [] => false
    | c :: rest => looksLikeNumbers parts rest || (c.isDigit && separators parts rest)

/-- A number up to 255 without leading zeros. -/
def isOctet (text : List Char) : Bool :=
  !text.isEmpty && text.length ≤ 3 && text.all Char.isDigit &&
    (text.length == 1 || text.head? != some '0') &&
    text.foldl (fun value digit => value * 10 + (digit.toNat - 48)) 0 ≤ 255

def isIpv4 (text : List Char) : Bool :=
  let parts := Text.splitOn '.' text
  parts.length == 4 && parts.all isOctet

/-! ## IPv6 -/

def isHextet (text : List Char) : Bool :=
  !text.isEmpty && text.length ≤ 4 && text.all fun c => (Text.Percent.hexValue? c).isSome

/-- An address without its zone.  One run of zeros may be left out, and an IPv4 address
may stand for the last two parts. -/
def isPlainIpv6 (text : List Char) : Bool :=
  let parts := Text.splitOn ':' text
  let last := parts.getLast?.getD []
  let hasIpv4 := last.contains '.'
  if parts.length < 3 || (hasIpv4 && !isIpv4 last) then
    false
  else
    let parts := if hasIpv4 then parts.dropLast ++ [['0'], ['0']] else parts
    let inner := (parts.drop 1).dropLast
    let gaps := inner.filter List.isEmpty
    let headEmpty := parts.head?.any List.isEmpty
    let lastEmpty := parts.getLast?.any List.isEmpty
    if 9 < parts.length || 1 < gaps.length then
      false
    else if gaps.length = 1 then
      let before := inner.takeWhile fun part => !part.isEmpty
      let after := (inner.dropWhile fun part => !part.isEmpty).drop 1
      let headCount := before.length + (if headEmpty then 0 else 1)
      let lastCount := after.length + (if lastEmpty then 0 else 1)
      (!headEmpty || before.isEmpty) && (!lastEmpty || after.isEmpty) &&
        headCount + lastCount < 8 && (parts.filter (!·.isEmpty)).all isHextet
    else
      parts.length == 8 && parts.all isHextet

/-- An address; behind a percent sign it may name a zone. -/
def isIpv6 (text : List Char) : Bool :=
  let parts := Text.cutAt '%' text
  let zoneAllowed := !text.contains '%' || (!parts.2.isEmpty && !parts.2.contains '%')
  zoneAllowed && !text.contains '/' && isPlainIpv6 parts.1

/-! ## Hosts -/

def isBracketed (host : List Char) : Bool :=
  host.head? == some '[' && host.getLast? == some ']' && 2 ≤ host.length

/-- The characters that a name keeps beside the unreserved ones. -/
def isHostSafe (c : Char) : Bool :=
  Text.Percent.isUnreserved c || "!$&'()*+,;=\"`\x7b\x7d%|\\".toList.contains c

/-- The form in which a URL keeps its host.  It does not have one for international names. -/
def normalHost (host : List Char) : Except Error (List Char) :=
  if host.isEmpty then .ok []
  else if looksLikeNumbers 3 host then
    if isIpv4 host then .ok host else .error (.ipv4 host)
  else if isBracketed host then
    let address := (host.drop 1).dropLast
    if isIpv6 address then .ok address else .error (.ipv6 host)
  else if host.all fun c => c.toNat < 0x80 then
    .ok (Text.Percent.encodeExcept isHostSafe (host.map Char.toLower))
  else
    .error (.hostname host)

/-! ## Ports -/

def defaultPort? (scheme : List Char) : Option Int :=
  [("ftp", 21), ("http", 80), ("https", 443), ("ws", 80), ("wss", 443)].lookup
    (String.ofList scheme)

/-- Digits with single underscores between them. -/
def groupedDigits? : List Char → Option (List Char)
  | [c] => if c.isDigit then some [c] else none
  | c :: '_' :: rest => if c.isDigit then (groupedDigits? rest).map (c :: ·) else none
  | c :: rest => if c.isDigit then (groupedDigits? rest).map (c :: ·) else none
  | [] => none

def natural? (text : List Char) : Option Int :=
  (groupedDigits? text).map fun digits =>
    ((digits.foldl (fun value digit => value * 10 + (digit.toNat - 48)) 0 : Nat) : Int)

/-- An integer with an optional sign and blanks around it. -/
def integer? (text : List Char) : Option Int :=
  match Text.trimChars text with
  | '-' :: rest => (natural? rest).map fun value => -value
  | '+' :: rest => natural? rest
  | rest => natural? rest

/-- The port that a URL of the scheme keeps. -/
def normalPort (scheme port : List Char) : Except Error (Option Int) :=
  if port.isEmpty then .ok none
  else
    match integer? port with
    | none => .error (.port port)
    | some value => .ok (if defaultPort? scheme = some value then none else some value)

end QueryBridge.Url

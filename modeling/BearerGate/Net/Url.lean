import BearerGate.Net.Host
import BearerGate.Net.Url.Path

/-!
# Addresses

An address is kept in parts, in the form in which browsers and servers write it: a scheme and a
host in lower case, no port that the scheme implies, no segments of a path that mean the same or
the upper directory, and characters encoded that may not stand where they do.

`Url.parse` reads an address that does not depend on another one.
-/

namespace BearerGate

/-- An address. -/
structure Url where
  scheme : String
  user : String
  password : String
  host : Option Host
  port : Option Nat
  path : UrlPath
  query : Option String
  fragment : Option String
  deriving DecidableEq

/-! ## Writing -/

namespace Url

open UrlPath (dropSlash isDrive isSlash)

/-- The user and the password as they are written, with the sign behind them. -/
def userInfoText (url : Url) : String :=
  if url.user = "" ∧ url.password = "" then ""
  else url.user ++ (if url.password = "" then "" else ":" ++ url.password) ++ "@"

/-- The user, the host and the port as they are written. -/
def authorityText (url : Url) : String :=
  match url.host with
  | some host =>
    "//" ++ url.userInfoText ++ host.text ++
      (match url.port with
        | some port => ":" ++ toString port
        | none => "")
  | none => if url.path.looksLikeHost then "/." else ""

/-- The address as it is written. -/
def text (url : Url) : String :=
  url.scheme ++ ":" ++ url.authorityText ++ url.path.text ++
    (match url.query with
      | some query => "?" ++ query
      | none => "") ++
    (match url.fragment with
      | some fragment => "#" ++ fragment
      | none => "")

/-! ## Reading -/

/-- The ports that well-known schemes imply. -/
def impliedPort? (scheme : String) : Option Nat :=
  [("http", 80), ("https", 443), ("ws", 80), ("wss", 443), ("ftp", 21)].lookup scheme

/-- Whether a scheme is well known, so that an address has a host and backslashes count as
slashes. -/
def isSpecial (scheme : String) : Bool :=
  scheme = "file" || (impliedPort? scheme).isSome

/-- Whether a character ends the part of an address that holds user, host and port. -/
def endsAuthority (special : Bool) (c : Char) : Bool :=
  isSlash special c || c = '?' || c = '#'

/-- Whether a character may stand in a scheme behind its first. -/
def isSchemeChar (c : Char) : Bool :=
  ('a' ≤ c && c ≤ 'z') || ('0' ≤ c && c ≤ '9') || c = '+' || c = '-' || c = '.'

/-- The scheme in lower case, and the text behind its colon. -/
def scheme? (text : List Char) : Option (String × List Char) := do
  let (before, after) ← Text.splitOnce ':' text
  let scheme := before.map Text.lowerAscii
  match scheme with
  | first :: rest =>
    if 'a' ≤ first && first ≤ 'z' && rest.all isSchemeChar then pure (String.ofList scheme, after)
    else none
  | [] => none

/-- The text before and behind the last at-sign. -/
def splitUserInfo (authority : List Char) : Option (List Char) × List Char :=
  if authority.contains '@' then
    let host := (authority.reverse.takeWhile (· ≠ '@')).reverse
    (some (authority.take (authority.length - host.length - 1)), host)
  else (none, authority)

/-- The name and the password of a user. -/
def userAndPassword (userInfo : List Char) : String × String :=
  let encoded (text : List Char) := String.ofList (Percent.encode Percent.inUserInfo text)
  match Text.splitOnce ':' userInfo with
  | some (user, password) => (encoded user, encoded password)
  | none => (encoded userInfo, "")

/-- The text of a host, and what stands behind it: nothing, or the colon in front of a port.
Colons between brackets belong to the host. -/
def splitPort (inBrackets : Bool) : List Char → List Char × List Char
  | [] => ([], [])
  | c :: rest =>
    if c = ':' && !inBrackets then ([], c :: rest)
    else
      let inside := c = '[' || (inBrackets && c ≠ ']')
      let (host, port) := splitPort inside rest
      (c :: host, port)

/-- The number of a port. -/
def portNumber : Nat → List Char → Except UrlFault Nat
  | port, [] => .ok port
  | port, c :: rest =>
    match Text.digit? 10 c with
    | some d => if port * 10 + d > 65535 then .error .port else portNumber (port * 10 + d) rest
    | none => .error .port

/-- The port behind a host, none if it is the one that the scheme implies. -/
def port? (scheme : String) : List Char → Except UrlFault (Option Nat)
  | [] | [_] => .ok none
  | _ :: digits => do
    let port ← portNumber 0 digits
    pure (if impliedPort? scheme = some port then none else some port)

/-- The user, the password, the host and the port of an address. -/
structure Authority where
  user : String
  password : String
  host : Host
  port : Option Nat

/-- The authority that a user, a host and a port denote, before the path `behind` them. -/
def authority (scheme : String) (userInfo : Option (List Char)) (hostText portText : List Char)
    (behind : List Char) : Except UrlFault Authority := do
  let special := isSpecial scheme
  let (user, password) := userAndPassword (userInfo.getD [])
  if userInfo = some [] ∧ hostText = [] ∧ portText = [] ∧ behind ≠ [] then .error .emptyHost
  else if special ∧ hostText = [] then .error .emptyHost
  else
    let host ← if special then Host.parse hostText else Host.parseOpaque hostText
    if hostText = [] ∧ (portText ≠ [] ∨ user ≠ "" ∨ password ≠ "") then .error .emptyHost
    else
      let port ← port? scheme portText
      pure ⟨user, password, host, port⟩

/-- The text up to the first character of a kind, and the rest. -/
def breakAt (stop : Char → Bool) (text : List Char) : List Char × List Char :=
  (text.takeWhile fun c => !stop c, text.dropWhile fun c => !stop c)

/-- The query and the fragment that a text denotes. -/
def queryAndFragment (special : Bool) (text : List Char) : Option String × Option String :=
  let (query, fragment) := breakAt (· = '#') text
  let querySet := if special then Percent.inSpecialQuery else Percent.inQuery
  ((query.head?).map fun _ => String.ofList (Percent.encode querySet (query.drop 1)),
    (fragment.head?).map fun _ =>
      String.ofList (Percent.encode Percent.inFragment (fragment.drop 1)))

/-- Whether a character ends a path. -/
def endsPath (c : Char) : Bool := c = '?' || c = '#'

/-- An address with an authority, from behind its slashes on. A port ends at any slash. -/
def withAuthority (scheme : String) (text : List Char) : Except UrlFault Url := do
  let special := isSpecial scheme
  let (authorityText, rest) := breakAt (endsAuthority special) text
  let (userInfo, hostAndPort) := splitUserInfo authorityText
  let (hostText, portAndMore) := splitPort false hostAndPort
  let (portText, more) := breakAt (isSlash true) portAndMore
  let parts ← authority scheme userInfo hostText portText (more ++ rest)
  let (pathText, rest) := breakAt endsPath (more ++ rest)
  let (query, fragment) := queryAndFragment special rest
  let path :=
    if pathText = [] ∧ special = false then .segments [] else .ofText special pathText
  pure ⟨scheme, parts.user, parts.password, some parts.host, parts.port, path, query, fragment⟩

/-- The host of the machine itself. -/
def ownHost : Host := .name ""

/-- The host of a file, and what stands behind the first slash of its path, from behind the scheme
on. Only two slashes are followed by a host, which is no drive; the machine itself is not named,
and a slash behind it belongs to the path. -/
def fileHost (text : List Char) : Except UrlFault (Host × List Char) :=
  let behind := dropSlash true (dropSlash true text)
  if text.length = behind.length + 2 then
    let (hostText, rest) := breakAt (endsAuthority true) behind
    if isDrive hostText then .ok (ownHost, behind)
    else if hostText = [] then .ok (ownHost, rest)
    else
      (Host.parse hostText).map fun host =>
        if host = .name "localhost" then (ownHost, rest) else (host, dropSlash true rest)
  else .ok (ownHost, dropSlash true text)

/-- An address of a file, from behind its scheme on. What is on a drive is on the machine itself.
-/
def ofFile (text : List Char) : Except UrlFault Url := do
  let (host, behind) ← fileHost text
  let (pathText, rest) := breakAt endsPath behind
  let (path, onDrive) := UrlPath.ofFileText pathText
  let (query, fragment) := queryAndFragment true rest
  pure ⟨"file", "", "", some (if onDrive then ownHost else host), none, path, query, fragment⟩

/-- An address without an authority, from behind its scheme on. -/
def withoutAuthority (scheme : String) (text : List Char) : Url :=
  let (pathText, rest) := breakAt endsPath text
  let (query, fragment) := queryAndFragment false rest
  let path :=
    if pathText.head? = some '/' then UrlPath.ofText false pathText
    else .opaquePath (String.ofList (Percent.encode Percent.isControl pathText))
  ⟨scheme, "", "", none, none, path, query, fragment⟩

/-- The text without control characters and spaces at its ends, and without tabs and line breaks.
-/
def cleaned (text : List Char) : List Char :=
  let isEdge (c : Char) : Bool := c.toNat ≤ 0x20
  (((text.dropWhile isEdge).reverse.dropWhile isEdge).reverse).filter
    fun c => c ≠ '\t' && c ≠ '\n' && c ≠ '\r'

/-- The address that a text denotes. -/
def parse (text : String) : Except UrlFault Url :=
  match scheme? (cleaned text.toList) with
  | none => .error .relative
  | some (scheme, rest) =>
    if scheme = "file" then ofFile rest
    else if isSpecial scheme then withAuthority scheme (rest.dropWhile (isSlash true))
    else
      match Text.stripLead ['/', '/'] rest with
      | some rest => withAuthority scheme rest
      | none => .ok (withoutAuthority scheme rest)

end Url

end BearerGate

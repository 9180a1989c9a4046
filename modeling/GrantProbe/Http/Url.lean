import GrantProbe.Http.Host
import GrantProbe.Http.Path
import GrantProbe.Text.Blank
import GrantProbe.Text.Case

/-!
# Addresses

Addresses as web clients read them. Those of the web and of files have a host and a path, in which
a backslash is a slash; the others may have them, or else a text that is taken as it is.

* `SchemeKind`: how the addresses of a scheme are read;
* `Authority`, `UrlPath`, `Url`: addresses, with `Url.text`;
* `Url.parse?`: the address that a text stands for;
* `Url.target`: what of one is sent to the server; `Url.withQuery`: an address with parameters added.
-/

namespace GrantProbe.Http

/-- The part of a text before a mark, and the part after it, if there is one. -/
def cutAt (isMark : Char → Bool) (cs : List Char) : List Char × Option (List Char) :=
  match cs.span (! isMark ·) with
  | (before, _ :: after) => (before, some after)
  | (before, []) => (before, none)

/-! ## Schemes -/

/-- **How the addresses of a scheme are read.** -/
inductive SchemeKind where
  | web | file | other
  deriving DecidableEq, Repr, Inhabited

namespace SchemeKind

/-- The kind of a scheme in lower case. -/
def of (scheme : String) : SchemeKind :=
  if scheme == "file" then file
  else if ["http", "https", "ws", "wss", "ftp"].contains scheme then web
  else other

/-- A backslash separates the segments of a path. -/
def backslashes (kind : SchemeKind) : Bool := kind != other

/-- The characters that a query does not hold. -/
def encodedInQuery : SchemeKind → Char → Bool
  | other => Http.encodedInQuery
  | _ => encodedInWebQuery

end SchemeKind

/-- The port that goes without saying. -/
def defaultPort? (scheme : String) : Option Nat :=
  if scheme == "http" || scheme == "ws" then some 80
  else if scheme == "https" || scheme == "wss" then some 443
  else if scheme == "ftp" then some 21
  else none

/-- A character that a scheme holds after its first letter. -/
def inScheme (c : Char) : Bool := c.isAlphanum || c == '+' || c == '-' || c == '.'

/-- The scheme in front of a colon, in lower case, and what follows. -/
def cutScheme? (cs : List Char) : Option (String × List Char) :=
  match cutAt (· == ':') cs with
  | (c :: name, some rest) =>
    if c.isAlpha && name.all inScheme then some (Text.asciiLower (String.ofList (c :: name)), rest) else none
  | _ => none

/-! ## Credentials, hosts and ports -/

/-- **Credentials** in front of a host. -/
structure UserInfo where
  user : String
  password : Option String
  deriving DecidableEq, Repr, Inhabited

namespace UserInfo

/-- There is nothing at all. -/
def isEmpty (u : UserInfo) : Bool := u.user.isEmpty && u.password.isNone

/-- The credentials of a text: a password follows the first colon. An empty one is none. -/
def ofText (cs : List Char) : UserInfo :=
  let (user, password) := cutAt (· == ':') cs
  ⟨encodedText encodedInCredentials user,
    (password.filter (! ·.isEmpty)).map (encodedText encodedInCredentials)⟩

/-- Credentials as text. -/
def text (u : UserInfo) : String :=
  if u.isEmpty then "" else u.user ++ (u.password.map (":" ++ ·)).getD "" ++ "@"

/-- The credentials can be sent in a header: they are text, apart from a password behind a name. -/
def canMove (u : UserInfo) : Bool :=
  (percentDecodeText? u.user.toList).isSome &&
    (! u.user.isEmpty || (u.password.bind fun p => percentDecodeText? p.toList).isSome)

end UserInfo

/-- **What follows two slashes:** credentials, a host, and a port that does not go without saying. -/
structure Authority where
  userInfo : UserInfo
  host : Option Host
  port : Option Nat
  deriving DecidableEq, Repr, Inhabited

namespace Authority

/-- Nothing but the slashes. -/
def blank : Authority := ⟨⟨"", none⟩, none, none⟩

def text (a : Authority) : String :=
  "//" ++ a.userInfo.text ++ (a.host.map Host.text).getD "" ++ (a.port.map fun n => ":" ++ toString n).getD ""

/-- Where the text in front of the last mark ends and what follows begins. -/
def cutLast (isMark : Char → Bool) (cs : List Char) : Option (List Char) × List Char :=
  match cutAt isMark cs.reverse with
  | (after, some before) => (some before.reverse, after.reverse)
  | (_, none) => (none, cs)

/-- The host at the front, up to a colon outside brackets, and the rest. -/
def cutHost (inBrackets : Bool) : List Char → List Char × List Char
  | [] => ([], [])
  | c :: rest =>
    if c == ':' && !inBrackets then ([], c :: rest)
    else
      let (host, port) := cutHost (c == '[' || (inBrackets && c != ']')) rest
      (c :: host, port)

/-- A port, unless it goes without saying. -/
def port? (scheme : String) (digits : List Char) : Option (Option Nat) := do
  if digits.isEmpty then some none
  else
    let n ← Ipv4.digitsValue? 10 digits
    if 65536 ≤ n then none else some ((some n).filter (some · != defaultPort? scheme))

/-- The host that a text stands for. -/
def host? (kind : SchemeKind) (cs : List Char) : Option (Option Host) :=
  match kind with
  | .other => Host.ofOther? cs
  | _ => if cs.isEmpty then none else (Host.ofWeb? cs).map some

/-- **The authority that a text stands for.** Without a host there is nothing else. -/
def parse? (kind : SchemeKind) (scheme : String) (cs : List Char) : Option Authority := do
  let (userInfo, place) := cutLast (· == '@') cs
  let user := UserInfo.ofText (userInfo.getD [])
  let (name, rest) := cutHost false place
  let host ← host? kind name
  let port ← port? scheme (rest.drop 1)
  if host.isNone && (userInfo == some [] || !user.isEmpty || !rest.isEmpty) then none
  else return ⟨user, host, port⟩

end Authority

/-! ## Addresses -/

/-- **The path of an address.** -/
inductive UrlPath where
  /-- Segments, each behind a slash. -/
  | segments (parts : List String)
  /-- A text without structure. -/
  | plain (text : String)
  deriving DecidableEq, Repr, Inhabited

/-- A path as text. -/
def UrlPath.text : UrlPath → String
  | segments parts => String.join (parts.map ("/" ++ ·))
  | plain s => s

/-- **An address.** The parts are encoded already. -/
structure Url where
  scheme : String
  authority : Option Authority
  path : UrlPath
  query : Option String
  fragment : Option String
  deriving DecidableEq, Repr, Inhabited

namespace Url

/-- A part of an address that may be missing, behind its mark. -/
def markedPart (mark : String) : Option String → String
  | some part => mark ++ part
  | none => ""

/-- What stands in front of a path that would be taken for a host. -/
def guard (u : Url) : String :=
  if u.authority.isNone && Text.startsWith "//" u.path.text then "/." else ""

/-- **What is sent to the server:** the path and the query. -/
def target (u : Url) : String := u.path.text ++ markedPart "?" u.query

/-- **An address as text.** -/
def text (u : Url) : String :=
  u.scheme ++ ":" ++ (u.authority.map Authority.text).getD "" ++ u.guard ++ u.target ++
    markedPart "#" u.fragment

/-- The host of an address, if it has one. -/
def host? (u : Url) : Option Host := u.authority.bind Authority.host

/-! ## Reading -/

/-- The text in front of the path, and the path. -/
def cutPath (kind : SchemeKind) (cs : List Char) : List Char × List Char :=
  cs.span (! isSlash kind.backslashes ·)

/-- The authority and the path of a web address. -/
def webParts? (scheme : String) (cs : List Char) : Option (Authority × UrlPath) := do
  let (authority, path) := cutPath .web (cs.dropWhile (isSlash true))
  return (← Authority.parse? .web scheme authority, .segments (pathOf true path))

/-- The host of a file, unless it is this machine. -/
def fileHost? (cs : List Char) : Option (Option Host) :=
  if cs.isEmpty then some none
  else (Host.ofWeb? cs).map fun host => (some host).filter (· != .name "localhost")

/-- The authority and the path of a file. A path on a drive has no host. -/
def fileParts? (cs : List Char) : Option (Authority × UrlPath) :=
  let withHost (host : Option Host) (path : List Char) :=
    let places := placesOf true path
    let host := if places.any isDrive then none else host
    (⟨⟨"", none⟩, host, none⟩, .segments (filePathOf places))
  match cs with
  | a :: b :: rest =>
    if isSlash true a && isSlash true b then
      let (name, path) := cutPath .file rest
      if isDrive name then some (withHost none rest) else (fileHost? name).map (withHost · path)
    else some (withHost none cs)
  | _ => some (withHost none cs)

/-- The authority and the path of another address. -/
def otherParts? (scheme : String) (cs : List Char) : Option (Option Authority × UrlPath) :=
  match cs with
  | '/' :: '/' :: rest => do
    let (authority, path) := rest.span (· != '/')
    return (some (← Authority.parse? .other scheme authority),
      .segments (if path.isEmpty then [] else pathOf false path))
  | '/' :: _ => some (none, .segments (pathOf false cs))
  | _ => some (none, .plain (encodedText (fun _ => false) cs))

/-- The authority and the path of an address. -/
def parts? (kind : SchemeKind) (scheme : String) (cs : List Char) : Option (Option Authority × UrlPath) :=
  match kind with
  | .web => (webParts? scheme cs).map fun (a, p) => (some a, p)
  | .file => (fileParts? cs).map fun (a, p) => (some a, p)
  | .other => otherParts? scheme cs

/-- A character that an address ignores at its ends. -/
def isEdge (c : Char) : Bool := c.toNat ≤ 0x20

/-- A character that an address ignores anywhere. -/
def isIgnored (c : Char) : Bool := c == '\t' || c == '\n' || c == '\r'

/-- **The address that a text stands for.** -/
def parse? (s : String) : Option Url := do
  let (scheme, rest) ← cutScheme? ((Text.stripBoth isEdge s.toList).filter (! isIgnored ·))
  let kind := SchemeKind.of scheme
  let (beforeFragment, fragment) := cutAt (· == '#') rest
  let (beforeQuery, query) := cutAt (· == '?') beforeFragment
  let (authority, path) ← parts? kind scheme beforeQuery
  return ⟨scheme, authority, path, query.map (encodedText kind.encodedInQuery),
    fragment.map (encodedText encodedInFragment)⟩

/-! ## Changes -/

/-- **An address with parameters added** to its query. -/
def withQuery (u : Url) (pairs : List (String × String)) : Url :=
  if pairs.isEmpty then u
  else
    let form := String.ofList (formPairs pairs)
    let query :=
      match u.query with
      | none => form
      | some q => if q.isEmpty then form else q ++ "&" ++ form
    { u with query := some query }

/-- An address without the credentials that can be sent in a header. -/
def withoutCredentials (u : Url) : Url :=
  { u with authority := u.authority.map fun a =>
      if a.userInfo.canMove then { a with userInfo := ⟨"", none⟩ } else a }

theorem host?_withoutCredentials (u : Url) : u.withoutCredentials.host? = u.host? := by
  cases h : u.authority with
  | none => simp [withoutCredentials, host?, h]
  | some a =>
    simp only [withoutCredentials, host?, h, Option.map_some, Option.bind_some]
    split <;> rfl

/-! ## Addresses that can be asked -/

/-- A character that a host cannot have where it is asked. -/
def isUnsendable (c : Char) : Bool := ['"', '\x60', '\x7b', '\x7d'].contains c

/-- The greatest number of bytes of an address that is asked. -/
def maxLength : Nat := 65534

/-- **The address can be asked:** it is one of the web, not too long, and its host is plain. -/
def canAsk (u : Url) : Bool :=
  (u.scheme == "http" || u.scheme == "https") && u.text.utf8ByteSize ≤ maxLength &&
    !((u.host?.map Host.text).getD "").toList.any isUnsendable

end Url

end GrantProbe.Http

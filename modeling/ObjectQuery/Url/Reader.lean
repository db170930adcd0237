/-
Reading URLs.

Spaces and controls at the ends, and tabs and line ends anywhere, do not count. Two slashes after
the scheme announce a host; without them, a path that starts with a slash is a normal one, and any
other is opaque and kept as it is.
-/
import ObjectQuery.Url.Host
import ObjectQuery.Url.Path

namespace ObjectQuery
namespace Url

/-- The default ports of the web schemes, which always have a host. -/
def webSchemes : List (String × Nat) :=
  [("http", 80), ("https", 443), ("ws", 80), ("wss", 443), ("ftp", 21)]

/-- Whether a scheme reads a backslash as a slash and has a path always. -/
def isSpecial (scheme : String) : Bool := scheme = "file" || (webSchemes.lookup scheme).isSome

/-- The characters that count. -/
def significant (cs : List Char) : List Char :=
  let trimmed := ((cs.dropWhile (· ≤ ' ')).reverse.dropWhile (· ≤ ' ')).reverse
  trimmed.filter fun c => c ≠ '\t' && c ≠ '\n' && c ≠ '\r'

/-- Whether a character may follow the first letter of a scheme. -/
def isSchemeChar (c : Char) : Bool := c.isAlphanum || c == '+' || c == '-' || c == '.'

/-- The scheme in lower case, and what stands after its colon. -/
def readScheme (cs : List Char) : Option (String × List Char) :=
  match cs with
  | [] => none
  | first :: _ =>
    match cs.dropWhile isSchemeChar with
    | ':' :: rest =>
      if first.isAlpha then
        some (String.ofList ((cs.takeWhile isSchemeChar).map Char.toLower), rest)
      else none
    | _ => none

/-- Whether a character ends the part of a URL in which the host stands. -/
def endsAuthority (special : Bool) (c : Char) : Bool :=
  c == '/' || c == '?' || c == '#' || (special && c == '\\')

/-- The characters before and after the last occurrence of one. -/
def splitAtLast? (mark : Char) (cs : List Char) : Option (List Char × List Char) :=
  let after := (cs.reverse.takeWhile (· ≠ mark)).reverse
  if after.length < cs.length then some (cs.take (cs.length - after.length - 1), after) else none

/-- User name and password, of which an empty password counts as none. -/
def readUser (cs : List Char) : String × Option String :=
  let name := String.ofList (escape userSet (cs.takeWhile (· ≠ ':')))
  match cs.dropWhile (· ≠ ':') with
  | _ :: c :: rest => (name, some (String.ofList (escape userSet (c :: rest))))
  | _ => (name, none)

/-- The host's characters, up to a colon outside brackets, and what stands after them. -/
def splitHost : Bool → List Char → List Char × List Char
  | _, [] => ([], [])
  | inside, c :: rest =>
    if c = ':' && !inside then ([], c :: rest)
    else
      let inside := if c = '[' then true else if c = ']' then false else inside
      let (host, after) := splitHost inside rest
      (c :: host, after)

/-- A port within 16 bits. No digits stand for no port. -/
def readPort (cs : List Char) : Except UrlFault (Option Nat) :=
  let rec digits : Nat → List Char → Except UrlFault Nat
    | port, [] => .ok port
    | port, c :: rest =>
      if c.isDigit then
        let port := port * 10 + (c.toNat - 48)
        if 65535 < port then .error .invalidPort else digits port rest
      else .error .invalidPort
  if cs.isEmpty then .ok none else (digits 0 cs).map some

/-- The characters up to the query or the fragment, the query, and nothing of the fragment. -/
def splitQuery (cs : List Char) : List Char × Option String :=
  let path := cs.takeWhile fun c => c ≠ '?' && c ≠ '#'
  match cs.dropWhile fun c => c ≠ '?' && c ≠ '#' with
  | '?' :: rest => (path, some (String.ofList (rest.takeWhile (· ≠ '#'))))
  | _ => (path, none)

/-- A path in normal form. A special scheme reads a backslash as a slash and always has a path. -/
def readPath (special : Bool) (cs : List Char) : String :=
  let cs := if special then cs.map fun c => if c = '\\' then '/' else c else cs
  match cs with
  | [] => if special then "/" else ""
  | '/' :: rest => String.ofList (normalPath rest)
  | cs => String.ofList (normalPath cs)

/-- What stands between the slashes after the scheme and the path. -/
structure Authority where
  username : String
  password : Option String
  host : Option String
  port : Option Nat

/-- A host and a port. What stands behind the port from a backslash on belongs to the path. -/
def readHost (scheme : String) (cs : List Char) :
    Except UrlFault (String × Option Nat × List Char) := do
  let (hostChars, portChars) := splitHost false cs
  if isSpecial scheme && hostChars.isEmpty then .error .emptyHost
  else
    let host ← if isSpecial scheme then readDomain hostChars else readOpaqueHost hostChars
    match portChars with
    | [] => return (host, none, [])
    | _ :: rest =>
      if host = "" then .error .emptyHost
      else
        let port ← readPort (rest.takeWhile (· ≠ '\\'))
        let port := if port.isSome && webSchemes.lookup scheme = port then none else port
        return (host, port, rest.dropWhile (· ≠ '\\'))

/-- Read the authority. An at sign with nothing before it and nothing but a path after it leaves no
host, and neither may a user be without one. -/
def readAuthority (scheme : String) (cs : List Char) (followed : Bool) :
    Except UrlFault (Authority × List Char) := do
  let (user, hostPart) := (splitAtLast? '@' cs).getD ([], cs)
  if cs = ['@'] && followed then .error .emptyHost
  else
    let (username, password) := readUser user
    let (host, port, left) ← readHost scheme hostPart
    if host = "" && (username ≠ "" || password.isSome) then .error .emptyHost
    else return (⟨username, password, if host = "" then none else some host, port⟩, left)

/-- Read a URL after its scheme and the slashes that announce a host. -/
def readWithHost (scheme : String) (cs : List Char) : Except UrlFault Url := do
  let special := isSpecial scheme
  let rest := cs.dropWhile (!endsAuthority special ·)
  let (authority, left) ←
    readAuthority scheme (cs.takeWhile (!endsAuthority special ·)) (!rest.isEmpty)
  let (path, query) := splitQuery (left ++ rest)
  return ⟨scheme, authority.username, authority.password, authority.host, authority.port,
    readPath special path, query⟩

/-- Read a file's URL after its scheme. A drive letter is no host, and neither is the local one. -/
def readFile (cs : List Char) : Except UrlFault Url := do
  let isSlash (c : Char) : Bool := c == '/' || c == '\\'
  let hostless (cs : List Char) : Url :=
    let (path, query) := splitQuery cs
    ⟨"file", "", none, none, none, readPath true path, query⟩
  if 2 ≤ (cs.takeWhile isSlash).length then
    let cs := cs.drop 2
    let hostChars := cs.takeWhile (!endsAuthority true ·)
    if hostChars.isEmpty || isDriveLetter hostChars then return hostless cs
    else
      let host ← readDomain hostChars
      let url := hostless (cs.dropWhile (!endsAuthority true ·))
      return if host = "localhost" then url else { url with host := some host }
  else return hostless cs

def read (text : String) : Except UrlFault Url :=
  match readScheme (significant text.toList) with
  | none => .error .relative
  | some (scheme, rest) =>
    if scheme = "file" then readFile rest
    else if isSpecial scheme then
      readWithHost scheme (rest.dropWhile fun c => c == '/' || c == '\\')
    else
      match rest with
      | '/' :: '/' :: rest => readWithHost scheme rest
      | rest =>
        let (cs, query) := splitQuery rest
        let path :=
          if cs.head? = some '/' then readPath false cs else String.ofList (escape [] cs)
        .ok ⟨scheme, "", none, none, none, path, query⟩

end Url
end ObjectQuery

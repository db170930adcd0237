/-
URLs and their parts.

Parts are kept as they stand in the normal form of a URL: the scheme in lower case, user name,
password, host and path with escapes, the query as it was given.
-/
import ObjectQuery.Url.Percent

namespace ObjectQuery

/-- A URL without its fragment. -/
structure Url where
  scheme : String
  username : String
  password : Option String
  host : Option String
  port : Option Nat
  path : String
  query : Option String
  deriving DecidableEq

/-- Why a text is no URL. -/
inductive UrlFault
  | relative
  | emptyHost
  | invalidPort
  | invalidIpv4
  | invalidIpv6
  | invalidDomain
  | invalidInternational
  deriving DecidableEq

def UrlFault.message : UrlFault → String
  | .relative => "relative URL without a base"
  | .emptyHost => "empty host"
  | .invalidPort => "invalid port number"
  | .invalidIpv4 => "invalid IPv4 address"
  | .invalidIpv6 => "invalid IPv6 address"
  | .invalidDomain => "invalid domain character"
  | .invalidInternational => "invalid international domain name"

namespace Url

def splitAt (separator : Char) : List Char → List (List Char)
  | [] => [[]]
  | c :: rest =>
    match splitAt separator rest with
    | [] => [[]]
    | part :: parts => if c = separator then [] :: part :: parts else (c :: part) :: parts

/-- A name or a value of a query: a plus stands for a space. -/
def queryText (cs : List Char) : String :=
  Text.Utf8.decodeLossy (unescape (cs.map fun c => if c = '+' then ' ' else c))

/-- The names and values of the query, in order. A part without an equals sign has an empty value.
-/
def queryPairs (url : Url) : List (String × String) :=
  let parts := (splitAt '&' ((url.query.getD "").toList)).filter (!·.isEmpty)
  parts.map fun part =>
    (queryText (part.takeWhile (· ≠ '=')), queryText ((part.dropWhile (· ≠ '=')).drop 1))

/-- The path without the slashes at its start. -/
def pathAfterSlashes (url : Url) : String :=
  String.ofList (url.path.toList.dropWhile (· == '/'))

end Url
end ObjectQuery

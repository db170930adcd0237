/-
Hosts of URLs.

Most schemes take a host as it is, with escapes for what is not ASCII. The schemes of the web take
domain names, which have no case, and addresses.
-/
import ObjectQuery.Url.Basic
import ObjectQuery.Url.Ipv6

namespace ObjectQuery
namespace Url

/-- The characters that no host has. -/
def hostForbidden : List Char :=
  ['\x00', '\t', '\n', '\r', ' ', '#', '/', ':', '<', '>', '?', '@', '[', '\\', ']', '^', '|']

/-- An IPv6 address in brackets. -/
def readBracketed (cs : List Char) : Except UrlFault String :=
  if cs.getLast? = some ']' then
    match Ipv6.read? ((cs.drop 1).dropLast) with
    | some groups => .ok ("[" ++ Ipv6.write groups ++ "]")
    | none => .error .invalidIpv6
  else .error .invalidIpv6

/-- A host that means nothing beyond its characters. -/
def readOpaqueHost (cs : List Char) : Except UrlFault String :=
  if cs.head? = some '[' then readBracketed cs
  else if cs.any hostForbidden.contains then .error .invalidDomain
  else .ok (String.ofList (escape [] cs))

/-- A number of an IPv4 address: decimal, octal after a zero, or in base sixteen after `0x`. -/
def ipv4Number? (cs : List Char) : Option Nat :=
  let number (base : Nat) (digits : List Char) : Option Nat :=
    digits.foldlM
      (fun n c =>
        match hexValue? c with
        | some digit => if digit < base then some (n * base + digit) else none
        | none => none)
      0
  match cs with
  | [] => none
  | '0' :: 'x' :: digits => number 16 digits
  | '0' :: 'X' :: digits => number 16 digits
  | '0' :: digit :: digits => number 8 (digit :: digits)
  | digits => number 10 digits

/-- The labels of a domain name, without an empty one at the end. -/
def labels (cs : List Char) : List (List Char) :=
  let parts := splitAt '.' cs
  if parts.getLast? = some [] && 1 < parts.length then parts.dropLast else parts

/-- Whether a domain name ends in a number, and so must be an IPv4 address. -/
def endsInNumber (cs : List Char) : Bool :=
  match (labels cs).getLast? with
  | some last => (!last.isEmpty && last.all Char.isDigit) || (ipv4Number? last).isSome
  | none => false

/-- The four bytes of an IPv4 address; its last number fills the bytes that are not given. -/
def readIpv4 (cs : List Char) : Except UrlFault String :=
  let parts := labels cs
  match parts.mapM ipv4Number? with
  | none => .error .invalidIpv4
  | some numbers =>
    let last := numbers.getLast?.getD 0
    let count := numbers.length
    if 4 < count || numbers.dropLast.any (255 < ·) || Nat.pow 256 (5 - count) ≤ last then
      .error .invalidIpv4
    else
      let address := numbers.dropLast.zipIdx.foldl
        (fun sum (n, i) => sum + n * Nat.pow 256 (3 - i)) last
      .ok (".".intercalate ([3, 2, 1, 0].map fun i => toString (address / Nat.pow 256 i % 256)))

/-- A host of a web scheme. -/
def readDomain (cs : List Char) : Except UrlFault String :=
  if cs.head? = some '[' then readBracketed cs
  else
    let name := (unescapeText (String.ofList cs)).toList.map Char.toLower
    if name.any fun c => hostForbidden.contains c || c == '%' || c.toNat < 32 || c.toNat == 127 then
      .error .invalidInternational
    else if name.isEmpty then .error .emptyHost
    else if endsInNumber name then readIpv4 name
    else .ok (String.ofList (escape [] name))

end Url
end ObjectQuery

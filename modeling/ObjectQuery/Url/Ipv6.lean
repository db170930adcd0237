/-
IPv6 addresses: reading and writing.

An address is eight groups of 16 bits. One run of zero groups may be left out in reading; in writing
the first of the longest runs of at least two is left out.
-/
import ObjectQuery.Url.Percent

namespace ObjectQuery
namespace Url
namespace Ipv6

/-- Groups before the place of the zeros that are left out, and those after it if there is one. -/
structure Groups where
  before : List Nat
  after : Option (List Nat)

namespace Groups

/-- How many groups there are; left out zeros count as one. -/
def count (g : Groups) : Nat :=
  match g.after with
  | none => g.before.length
  | some after => g.before.length + 1 + after.length

def push (g : Groups) (value : Nat) : Groups :=
  match g.after with
  | none => { g with before := g.before ++ [value] }
  | some after => { g with after := some (after ++ [value]) }

/-- All eight groups, if there are as many. -/
def all? (g : Groups) : Option (List Nat) :=
  match g.after with
  | none => if g.before.length = 8 then some g.before else none
  | some after =>
    some (g.before ++ List.replicate (8 - g.before.length - after.length) 0 ++ after)

end Groups

/-- A number of at most 255 without leading zeros, and the text after it. -/
def readByte (cs : List Char) : Option (Nat × List Char) :=
  let digits := cs.takeWhile Char.isDigit
  let value := digits.foldl (fun n c => n * 10 + (c.toNat - 48)) 0
  if digits.isEmpty || (digits.head? = some '0' && digits.length ≠ 1) || 255 < value then none
  else some (value, cs.dropWhile Char.isDigit)

/-- Four numbers with points between them, as two groups. -/
def readTail (cs : List Char) : Option (Nat × Nat) := do
  let (a, cs) ← readByte cs
  let (b, cs) ← readByte (← after cs)
  let (c, cs) ← readByte (← after cs)
  let (d, cs) ← readByte (← after cs)
  if cs.isEmpty then some (a * 256 + b, c * 256 + d) else none
where
  /-- The text after a point. -/
  after : List Char → Option (List Char)
    | '.' :: rest => some rest
    | _ => none

/-- Go on reading groups. Each step but the last takes a character at least. -/
def readGroups : Nat → Groups → List Char → Option Groups
  | 0, _, _ => none
  | _, g, [] => some g
  | fuel + 1, g, c :: rest =>
    if g.count = 8 then none
    else if c = ':' then
      if g.after.isSome then none else readGroups fuel { g with after := some [] } rest
    else
      let cs := c :: rest
      let digits := (cs.take 4).takeWhile fun c => (hexValue? c).isSome
      let value := digits.foldl (fun n c => n * 16 + (hexValue? c).getD 0) 0
      match cs.drop digits.length with
      | [] => some (g.push value)
      | '.' :: _ =>
        if digits.isEmpty || 6 < g.count then none
        else (readTail cs).map fun (high, low) => (g.push high).push low
      | ':' :: rest => if rest.isEmpty then none else readGroups fuel (g.push value) rest
      | _ => none

/-- The eight groups of an address. -/
def read? (cs : List Char) : Option (List Nat) :=
  match cs with
  | ':' :: ':' :: rest => (readGroups (cs.length + 1) ⟨[], some []⟩ rest).bind Groups.all?
  | ':' :: _ => none
  | _ :: _ :: _ => (readGroups (cs.length + 1) ⟨[], none⟩ cs).bind Groups.all?
  | _ => none

/-- The length of the run of zeros at the start. -/
def zeroRun (groups : List Nat) : Nat := (groups.takeWhile (· == 0)).length

/-- Start and length of the first of the longest runs of at least two zeros. -/
def longestRun (groups : List Nat) : Option (Nat × Nat) :=
  let runs := (List.range 8).map fun start => (start, zeroRun (groups.drop start))
  runs.foldl
    (fun best run =>
      match best with
      | none => if 2 ≤ run.2 then some run else none
      | some kept => if kept.2 < run.2 then some run else some kept)
    none

/-- Groups in base sixteen with colons between them. -/
def writeGroups (groups : List Nat) : String :=
  ":".intercalate (groups.map fun group => String.ofList (Nat.toDigits 16 group))

/-- An address in its short form. -/
def write (groups : List Nat) : String :=
  match longestRun groups with
  | none => writeGroups groups
  | some (start, length) =>
    writeGroups (groups.take start) ++ "::" ++ writeGroups (groups.drop (start + length))

end Ipv6
end Url
end ObjectQuery

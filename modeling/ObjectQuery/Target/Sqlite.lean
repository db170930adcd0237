/-
Databases in files or in memory.
-/
import ObjectQuery.Error
import ObjectQuery.Url.Reader

namespace ObjectQuery
namespace Target

/-- The URL of a text, or an error that says why it is none. -/
def readUrl (text : String) : Except Error Url :=
  match Url.read text with
  | .ok url => .ok url
  | .error fault => .error (.invalidConnectionUrl fault.message)

/-- The file of a database; none stands for a database in memory. -/
abbrev File : Type := Option String

/-- The database of a URL: its path, with escapes resolved. -/
def File.ofUrl (text : String) : Except Error File := do
  let url ← readUrl text
  if url.scheme ≠ "sqlite" then
    .error (.invalidConnectionUrl
      ("connection URL does not have a \x60sqlite\x60 scheme; url=" ++ text))
  else if url.path = "" then
    .error (.invalidConnectionUrl ("missing database path in connection URL; url=" ++ text))
  else if url.path = ":memory:" then return none
  else
    match Url.unescapeText? url.path with
    | some path => return some path
    | none =>
      .error (.invalidConnectionUrl ("database path is not valid UTF-8; url=" ++ text))

end Target
end ObjectQuery

/-
Errors and their chains of causes.

An error is a fault and the faults it was caused by, the nearest first. Giving an error a context
puts a new fault in front; what had caused the new fault before is dropped. A fault may carry what
another library reported, which has a chain of messages of its own.
-/

namespace ObjectQuery

/-- What another library reported: its message, and the messages of its causes. -/
structure Trace where
  message : String
  causes : List String
  deriving DecidableEq

namespace Trace

/-- All messages, the outermost first. -/
def messages (t : Trace) : List String := t.message :: t.causes

/-- All messages in one line. -/
def summary (t : Trace) : String := ": ".intercalate t.messages

end Trace

/-- The kinds of error that callers tell apart. -/
inductive ErrorKind
  | connectionFailure
  | driverOperationFailed
  | invalidConnectionUrl
  | invalidQuery
  | invalidSchema
  | notFound
  | renameAmbiguity
  | unresolvedMapping
  | unsupportedDataSourceType
  deriving DecidableEq

/-- All kinds, in the order in which an error with several of them is classified. -/
def ErrorKind.all : List ErrorKind :=
  [.connectionFailure, .driverOperationFailed, .invalidConnectionUrl, .invalidQuery, .invalidSchema,
    .notFound, .renameAmbiguity, .unresolvedMapping, .unsupportedDataSourceType]

/-- One thing that went wrong. -/
inductive Fault
  | adhoc (text : String)
  | foreign (trace : Trace)
  | connectionFailure (source : String) (reason : Trace)
  | driverOperationFailed (reason : Trace)
  | invalidConnectionUrl (text : String)
  | invalidQuery (text : String)
  | invalidSchema (text : String)
  | notFound (objectType : String)
  | renameAmbiguity (text : String)
  | unresolvedMapping (objectType : String) (property : Option String)
  | unsupportedDataSourceType (source type : String)
  deriving DecidableEq

namespace Fault

def message : Fault → String
  | adhoc text => text
  | foreign trace => trace.message
  | connectionFailure source reason =>
    "failed to connect to data source \x60" ++ source ++ "\x60: " ++ reason.message
  | driverOperationFailed reason => reason.summary
  | invalidConnectionUrl text => "invalid connection URL: " ++ text
  | invalidQuery text => "invalid query: " ++ text
  | invalidSchema text => "invalid schema: " ++ text
  | notFound objectType => "object type '" ++ objectType ++ "' not found"
  | renameAmbiguity text => "ambiguous identifier rewrite: " ++ text
  | unresolvedMapping objectType (some property) =>
    "property '" ++ property ++ "' of object type '" ++ objectType ++ "' has no column mapping"
  | unresolvedMapping objectType none =>
    "object type '" ++ objectType ++ "' has no configured data source mapping"
  | unsupportedDataSourceType source type =>
    "unsupported data source type \x60" ++ type ++ "\x60 for data source \x60" ++ source ++ "\x60"

/-- The kind of a fault, if callers tell it apart. -/
def kind? : Fault → Option ErrorKind
  | adhoc _ => none
  | foreign _ => none
  | connectionFailure _ _ => some .connectionFailure
  | driverOperationFailed _ => some .driverOperationFailed
  | invalidConnectionUrl _ => some .invalidConnectionUrl
  | invalidQuery _ => some .invalidQuery
  | invalidSchema _ => some .invalidSchema
  | notFound _ => some .notFound
  | renameAmbiguity _ => some .renameAmbiguity
  | unresolvedMapping _ _ => some .unresolvedMapping
  | unsupportedDataSourceType _ _ => some .unsupportedDataSourceType

/-- The messages of what stands behind a fault, the outermost first. -/
def sources (fault : Fault) : List String :=
  match fault with
  | foreign trace => trace.messages
  | connectionFailure _ reason => fault.message :: reason.messages
  | driverOperationFailed reason => fault.message :: reason.messages
  | _ => []

end Fault

/-- A fault and its causes, the nearest first. -/
structure Error where
  fault : Fault
  causes : List Fault
  deriving DecidableEq

namespace Error

/-- An error without a cause. -/
def ofFault (fault : Fault) : Error := ⟨fault, []⟩

/-- An error that only has a text. -/
def adhoc (text : String) : Error := ofFault (.adhoc text)

def foreign (trace : Trace) : Error := ofFault (.foreign trace)

/-- A query that cannot be planned. -/
def invalidQuery (text : String) : Error := ofFault (.invalidQuery text)

def invalidSchema (text : String) : Error := ofFault (.invalidSchema text)

/-- A connection URL that leads nowhere. -/
def invalidConnectionUrl (text : String) : Error := ofFault (.invalidConnectionUrl text)

/-- A statement whose identifiers cannot be told apart. -/
def renameAmbiguity (text : String) : Error := ofFault (.renameAmbiguity text)

/-- An object type, or one of its properties, without a place in a database. -/
def unresolvedMapping (objectType : String) (property : Option String) : Error :=
  ofFault (.unresolvedMapping objectType property)

def chain (e : Error) : List Fault := e.fault :: e.causes

/-- The messages of the chain in one line. -/
def message (e : Error) : String := ": ".intercalate (e.chain.map Fault.message)

/-- Whether a fault of the chain is of a kind. -/
def is (e : Error) (kind : ErrorKind) : Bool := e.chain.any fun fault => fault.kind? == some kind

/-- The kinds that occur in the chain, in their fixed order. -/
def kinds (e : Error) : List ErrorKind := ErrorKind.all.filter e.is

/-- The first of the kinds that occur, if any does. -/
def kind? (e : Error) : Option ErrorKind := e.kinds.head?

/-- The messages of what stands behind the first fault. -/
def sources (e : Error) : List String := e.fault.sources

def toTrace (e : Error) : Trace := ⟨e.message, e.sources⟩

/-- Put another error's fault in front. An error that others still hold only lends its wording. -/
def context (e consequent : Error) (shared : Bool) : Error :=
  ⟨if shared then .adhoc consequent.fault.message else consequent.fault, e.chain⟩

end Error
end ObjectQuery

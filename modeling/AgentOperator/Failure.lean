import AgentOperator.Text.Quoted

/-!
# Failures

Why a pass over an agent fails. A failure may be attributed to one object, and
several may be gathered into one; both keep what lies inside.
-/

namespace AgentOperator

/-- The answer of the API to a request that it refuses. -/
structure ApiError where
  status : String := ""
  message : String := ""
  reason : String := ""
  code : Nat
deriving DecidableEq, Inhabited

inductive Failure
  /-- The API refused a request. -/
  | api (error : ApiError)
  /-- The client could not make a request or read its answer. -/
  | client (detail : String)
  /-- The operator or the cluster is set up wrongly. -/
  | config (message : String)
  /-- A spec breaks rules. -/
  | validation (message : String)
  /-- An object could not be written or read. -/
  | serialization (message : String)
  /-- A failure of one object. -/
  | object (key : String) (source : Failure)
  /-- Failures of several objects. -/
  | batch (failures : List Failure)
deriving Inhabited

namespace ApiError

def text (e : ApiError) : String :=
  "ApiError: " ++ e.message ++ ": " ++ e.reason ++ " (ErrorResponse \x7b status: " ++
    Text.quoted e.status ++ ", message: " ++ Text.quoted e.message ++ ", reason: " ++
    Text.quoted e.reason ++ ", code: " ++ toString e.code ++ " \x7d)"

/-- Whether the request may succeed later: a conflict, too many requests, or a
fault of the server. -/
def isRetriable (e : ApiError) : Bool := e.code == 409 || e.code == 429 || 500 ≤ e.code

end ApiError

namespace Failure

mutual

def message : Failure → String
  | api e => "Kubernetes error: " ++ e.text
  | client detail => "Kubernetes error: " ++ detail
  | config text => "Configuration error: " ++ text
  | validation text => "Validation error: " ++ text
  | serialization text => "Serialization error: " ++ text
  | object key source => key ++ ": " ++ source.message
  | batch failures =>
    toString failures.length ++ " object(s) failed: " ++
      String.intercalate "; " (messages failures)

def messages : List Failure → List String
  | [] => []
  | failure :: rest => failure.message :: messages rest

end

mutual

/-- Whether it is worth trying again soon. -/
def isRetriable : Failure → Bool
  | api e => e.isRetriable
  | client _ => true
  | object _ source => source.isRetriable
  | batch failures => anyRetriable failures
  | _ => false

/-- Whether one of several failures is worth trying again soon. -/
def anyRetriable : List Failure → Bool
  | [] => false
  | failure :: rest => failure.isRetriable || anyRetriable rest

end

/-- Whether a write met an object that had changed since it was read. -/
def isConflict : Failure → Bool
  | api e => e.code == 409
  | object _ source => source.isConflict
  | _ => false

def isNotFound : Failure → Bool
  | api e => e.code == 404
  | object _ source => source.isNotFound
  | _ => false

def forObject (failure : Failure) (key : String) : Failure := object key failure

/-- Several failures as one result: none is a success, and a single one is
itself. -/
def gather : List Failure → Except Failure Unit
  | [] => .ok ()
  | [failure] => .error failure
  | failures => .error (batch failures)

def category : Failure → String
  | api _ | client _ => "KubeError"
  | config _ => "ConfigError"
  | validation _ => "ValidationError"
  | serialization _ => "SerializationError"
  | object .. => "ObjectError"
  | batch _ => "BatchError"

mutual

/-- Whether the failure holds one of the client, whose text is not fixed. -/
def hasClientText : Failure → Bool
  | client _ => true
  | object _ source => source.hasClientText
  | batch failures => anyClientText failures
  | _ => false

/-- Whether one of several failures holds one of the client. -/
def anyClientText : List Failure → Bool
  | [] => false
  | failure :: rest => failure.hasClientText || anyClientText rest

end

end Failure

end AgentOperator

import AgentOperator.Agent.Basic
import AgentOperator.Failure
import AgentOperator.Json.Reader
import AgentOperator.Object.Basic

/-!
# Answers of the API

An answer has a status and a text. A status that refuses the request makes an
error, read from the text if the text describes one; any other text has to hold
what was asked for.
-/

namespace AgentOperator.Api

structure Response where
  status : Nat := 200
  text : String := ""
deriving DecidableEq, Inhabited

def phrase : Nat → String
  | 400 => "Bad Request"
  | 401 => "Unauthorized"
  | 402 => "Payment Required"
  | 403 => "Forbidden"
  | 404 => "Not Found"
  | 405 => "Method Not Allowed"
  | 406 => "Not Acceptable"
  | 407 => "Proxy Authentication Required"
  | 408 => "Request Timeout"
  | 409 => "Conflict"
  | 410 => "Gone"
  | 411 => "Length Required"
  | 412 => "Precondition Failed"
  | 413 => "Payload Too Large"
  | 414 => "URI Too Long"
  | 415 => "Unsupported Media Type"
  | 416 => "Range Not Satisfiable"
  | 417 => "Expectation Failed"
  | 418 => "I'm a teapot"
  | 421 => "Misdirected Request"
  | 422 => "Unprocessable Entity"
  | 423 => "Locked"
  | 424 => "Failed Dependency"
  | 425 => "Too Early"
  | 426 => "Upgrade Required"
  | 428 => "Precondition Required"
  | 429 => "Too Many Requests"
  | 431 => "Request Header Fields Too Large"
  | 451 => "Unavailable For Legal Reasons"
  | 500 => "Internal Server Error"
  | 501 => "Not Implemented"
  | 502 => "Bad Gateway"
  | 503 => "Service Unavailable"
  | 504 => "Gateway Timeout"
  | 505 => "HTTP Version Not Supported"
  | 506 => "Variant Also Negotiates"
  | 507 => "Insufficient Storage"
  | 508 => "Loop Detected"
  | 510 => "Not Extended"
  | 511 => "Network Authentication Required"
  | _ => "<unknown status code>"

/-- A whole number of 16 bits without a sign. -/
def code? (json : Json) : Option Nat := json.natBelow? (Nat.pow 2 16)

def apiError? (json : Json) : Option ApiError := do
  let r ← json.record? ["status", "message", "reason", "code"]
  return {
    status := ← r.required? "status" Json.str?
    message := ← r.defaulted? "message" "" Json.str?
    reason := ← r.defaulted? "reason" "" Json.str?
    code := ← r.required? "code" code? }

/-- The error of an answer whose text describes none. -/
def unreadableError (r : Response) : ApiError :=
  { status := toString r.status ++ " " ++ phrase r.status
    message := Text.quoted r.text
    reason := "Failed to parse error data"
    code := r.status }

/-- Whether a status refuses the request. -/
def refuses (status : Nat) : Bool := 400 ≤ status && status < 600

/-- The value that an answer holds, the fields of its objects as they are
written and its unreadable parts in their places. -/
def Response.json (r : Response) : Except Failure Json :=
  let json := Json.readRaw? r.text
  if refuses r.status then
    .error (.api ((json.bind apiError?).getD (unreadableError r)))
  else
    match json with
    | some json => .ok json
    | none => .error (.client "the answer is not JSON")

def Response.read {α : Type} (r : Response) (read : Json → Option α) : Except Failure α := do
  match read (← r.json) with
  | some value => return value
  | none => throw (.client "the answer is not what was asked for")

/-- Whether a value is text or is left out. -/
def isOptionalText (record : Json.Record) (name : String) : Bool :=
  (record.optional? name Json.str?).isSome

def isListMetadata (json : Json) : Bool :=
  match json.openRecord? with
  | some r =>
    isOptionalText r "continue" && (r.optional? "remainingItemCount" Json.int64?).isSome &&
      isOptionalText r "resourceVersion" && isOptionalText r "selfLink"
  | none => false

/-- Read a list of objects; null lists none. The other fields of the list are not
kept but have to be readable. -/
def objects? (json : Json) : Option (List Object) := do
  let fields ← json.obj?
  let names := ["metadata", "items"]
  let _ ← (Json.obj (fields.filter fun entry => !names.contains entry.1)).canonical?
  let r ← (Json.obj fields).record? names
  let metadata ← r.defaulted? "metadata" true fun m => some (isListMetadata m)
  if !metadata then none
  else r.required? "items" fun items =>
    if items.isNull then some [] else Json.list? Object.ofJson? items

def isObjectReference (json : Json) : Bool :=
  match json.openRecord? with
  | some r =>
    ["apiVersion", "fieldPath", "kind", "name", "namespace", "resourceVersion", "uid"].all
      (isOptionalText r)
  | none => false

def isTime (json : Json) : Bool := (json.str?.bind Timestamp.read?).isSome

/-- Whether every value of a field satisfies a test or is null. -/
def isOptional (record : Json.Record) (name : String) (test : Json → Bool) : Bool :=
  (record.values name).all fun value => value.isNull || test value

/-- Whether a field is absent or holds a given text only. -/
def isAbsentOr (record : Json.Record) (name text : String) : Bool :=
  (record.values name).all fun value => value == .str text

/-- Whether a value is where an event comes from. -/
def isEventSource (json : Json) : Bool :=
  match json.openRecord? with
  | some r => isOptionalText r "component" && isOptionalText r "host"
  | none => false

def isEventSeries (json : Json) : Bool :=
  match json.openRecord? with
  | some r => (r.optional? "count" Json.int32?).isSome && isOptional r "lastObservedTime" isTime
  | none => false

/-- Read an event, of which nothing is kept. -/
def event? (json : Json) : Option Unit := do
  let r ← json.openRecord?
  let texts := ["action", "message", "reason", "reportingComponent", "reportingInstance", "type"]
  if isAbsentOr r "apiVersion" "v1" && isAbsentOr r "kind" "Event" &&
      texts.all (isOptionalText r) &&
      ["eventTime", "firstTimestamp", "lastTimestamp"].all (isOptional r · isTime) &&
      isOptional r "count" (fun n => n.int32?.isSome) &&
      isOptional r "involvedObject" isObjectReference &&
      isOptional r "related" isObjectReference &&
      isOptional r "metadata" (fun m => (Metadata.ofJson? m).isSome) &&
      isOptional r "series" isEventSeries && isOptional r "source" isEventSource then
    some ()
  else none

/-- Whether a value is a cause of a refusal. -/
def isCause (json : Json) : Bool :=
  let text := fun (r : Json.Record) (name : String) => (r.defaulted? name "" Json.str?).isSome
  match json.record? ["reason", "message", "field"] with
  | some r => ["reason", "message", "field"].all (text r)
  | none => false

def isDetails (json : Json) : Bool :=
  let names := ["name", "group", "kind", "uid", "causes", "retryAfterSeconds"]
  let text := fun (r : Json.Record) (name : String) => (r.defaulted? name "" Json.str?).isSome
  match json.record? names with
  | some r =>
    (names.take 4).all (text r) &&
      (r.defaulted? "causes" true fun causes =>
        causes.arr?.map fun elements => elements.all isCause) == some true &&
      (r.defaulted? "retryAfterSeconds" 0 (Json.natBelow? (Nat.pow 2 32))).isSome
  | none => false

/-- Read the outcome of a deletion, of which nothing is kept. -/
def outcome? (json : Json) : Option Unit := do
  let r ← json.record? ["status", "code", "message", "reason", "details"]
  let _ ← r.optional? "status" (Json.choice? [("Success", ()), ("Failure", ())])
  let _ ← r.defaulted? "code" 0 code?
  let _ ← r.defaulted? "message" "" Json.str?
  let _ ← r.defaulted? "reason" "" Json.str?
  if isOptional r "details" isDetails then some () else none

/-- Read what a deletion answers: an outcome, or the object as it was. Every part
of the answer has to be readable. -/
def deletion? (json : Json) : Option Unit := do
  let value ← json.canonical?
  if value.field? "kind" == some (.str "Status") then outcome? json
  else (Object.ofJson? json).map fun _ => ()

end AgentOperator.Api

import Mathlib.Tactic.SplitIfs
import IntentRebase.Types.Common
import Mathlib.Data.List.Infix

/-! What `serde` writes of a value: its JSON value, given how times are written. -/

namespace IntentRebase

/-- The values with a JSON value; its fields are in the order in which they are written. -/
class Serialize (α : Type) where
  toJson : (DateTime → String) → α → Json

/-- A number of 32 bits with a sign, or a count. -/
def Json.ofInt (n : Int) : Json :=
  if 0 ≤ n then .number (.posInt n.toNat) else .number (.negInt n)

def Json.ofNat (n : Nat) : Json := .number (.posInt n)

def Json.ofOption {α : Type} (toJson : α → Json) : Option α → Json
  | some a => toJson a
  | none => .null

theorem Json.ofInt_injective : Function.Injective Json.ofInt := by
  intro n m h
  simp only [Json.ofInt] at h
  split_ifs at h <;> simp at h <;> omega

instance : Serialize Uuid where
  toJson _ id := .string id.display

/-! Published events, what a consumer answers to one, and the fields that it reads from a payload.
-/

namespace Json

/-- The field of an object. -/
def get (key : String) : Json → Option Json
  | .object fields => fields.lookup key
  | _ => none

def asStr : Json → Option String
  | .string s => some s
  | _ => none

/-- The number, if it is an integer of 64 bits with a sign. -/
def asI64 : Json → Option Int
  | .number (.posInt n) => if n < 2 ^ 63 then some n else none
  | .number (.negInt n) => some n
  | _ => none

def asArray : Json → Option (List Json)
  | .array items => some items
  | _ => none

end Json

/-- The cast of 64 bits `as i32`. -/
def i64AsI32 (n : Int) : Int := n.bmod (2 ^ 32)

/-- The trace that a request belongs to. -/
structure TraceContext where
  traceId : Option String
  spanId : Option String

/-- The subject of an event: `audit.events.v1.<tenant>.<event type>`. -/
structure EventSubject where
  subject : String
  schemaVersion : String
  eventType : String
  tenantId : Uuid

def EventSubject.fromAuditEvent (tenantId : Uuid) (eventType : String) : EventSubject where
  subject := s!"audit.events.v1.{tenantId.display}.{eventType}"
  schemaVersion := "v1"
  eventType := eventType
  tenantId := tenantId

structure PublishedEvent where
  subject : String
  sequence : Nat
  payload : Json

inductive ConsumeResult where
  | consumed (subject : String) (sequence : Nat)
  | retryable (reason : String)
  | failed (reason : String)
deriving DecidableEq, Repr

namespace PublishedEvent

variable (event : PublishedEvent)

/-- The subject names the event of an applied rebase. -/
def isRebaseApplied : Bool := "RebaseApplied".toList <:+: event.subject.toList

section Extraction

variable (parseStr : String → Option Uuid)

/-- The identifier in a field of the payload, as the given function reads it. -/
def uuidField (key : String) : Option Uuid :=
  (event.payload.get key).bind fun v => v.asStr.bind parseStr

def extractIntentId : Option Uuid :=
  (event.uuidField parseStr "intent_id").or (event.uuidField parseStr "intentId")

/-- The fourth part of the subject, or nil. -/
def extractTenantId : Uuid :=
  match (event.subject.toList.splitOn '.')[3]? with
  | some part => (parseStr (String.ofList part)).getD .nil
  | none => .nil

def extractWorkflowId : Uuid := (event.uuidField parseStr "workflow_id").getD .nil

end Extraction

/-- The integer in a field of the payload, cast to 32 bits, or a default. -/
def i32Field (key : String) (default : Int) : Int :=
  (((event.payload.get key).bind Json.asI64).map i64AsI32).getD default

def extractIntentVersion : Int := event.i32Field "to_version" 0

def extractFromVersion : Int := event.i32Field "from_version" 0

/-- The text in a field of the payload, or a default. -/
def strField (key default : String) : String :=
  ((event.payload.get key).bind Json.asStr).getD default

def extractOutcome : String := event.strField "outcome" "unknown"

def extractRulePackVersion : String := event.strField "rule_pack_version" "v1.0.0"

/-- The array in a field of the payload, or no items. -/
def arrayField (key : String) : List Json :=
  ((event.payload.get key).bind Json.asArray).getD []

end PublishedEvent

end IntentRebase

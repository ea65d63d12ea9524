import IntentRebase.Kit.Effect
import IntentRebase.Types.Common

/-! The runtime that rebases are signalled to: the calls that its adapter takes, their outcome, and
the world that an orchestrated call may change. -/

namespace IntentRebase

open Kit

inductive AdapterError where
  | notReady (message : String)
  | checkpointNotFound (message : String)
  | intentMappingFailed (message : String)
  | rebaseSignalFailed (message : String)
  | replayFailed (message : String)
  | internal (message : String)
deriving DecidableEq, Repr

/-- The text of an adapter's error. -/
def AdapterError.display : AdapterError → String
  | .notReady m => s!"Adapter not ready: {m}"
  | .checkpointNotFound m => s!"Checkpoint not found: {m}"
  | .intentMappingFailed m => s!"Intent mapping failed: {m}"
  | .rebaseSignalFailed m => s!"Rebase signal failed: {m}"
  | .replayFailed m => s!"Replay failed: {m}"
  | .internal m => s!"Internal adapter error: {m}"

inductive AdapterStatus where
  | ready | initializing | notReady
deriving DecidableEq, Repr

/-- A checkpoint as the runtime takes it. -/
structure RuntimeCheckpoint where
  id : String
  label : String
  description : String
  timestamp : DateTime
  validated : Bool
deriving DecidableEq, Repr

structure RebaseSignal where
  intentId : String
  signalType : String
  metadata : Json

structure IntentRef where
  id : String
  tenantId : String
  workflowId : String
  status : String
deriving DecidableEq, Repr

/-- A call that asks the runtime to do something. -/
inductive RuntimeCall where
  | sendRebaseSignal (signal : RebaseSignal)
  | replayFromCheckpoint (checkpoint : RuntimeCheckpoint) (intent : IntentRef)

/-- The runtime's answers, which may depend on the calls made before. -/
structure RuntimeAdapter where
  isAdapterReady : List RuntimeCall → Except AdapterError AdapterStatus
  sendRebaseSignal : List RuntimeCall → RebaseSignal → Except AdapterError Unit
  replayFromCheckpoint : List RuntimeCall → RuntimeCheckpoint → IntentRef →
    Except AdapterError Unit

/-- The stored graph, and the calls that the runtime has received. -/
structure World (γ : Type) where
  graph : γ
  calls : List RuntimeCall

/-- A call on the graph alone. -/
def World.onGraph {γ ε α : Type} (call : Effect γ ε α) : Effect (World γ) ε α :=
  call.within World.graph fun graph w => { w with graph }

namespace RuntimeAdapter

variable {γ : Type} (adapter : RuntimeAdapter)

/-- Asking for readiness is no call to act. -/
def checkReady : Effect (World γ) AdapterError AdapterStatus := do
  let w ← get
  adapter.isAdapterReady w.calls

def signal (signal : RebaseSignal) : Effect (World γ) AdapterError Unit := do
  let w ← get
  set { w with calls := w.calls ++ [RuntimeCall.sendRebaseSignal signal] }
  adapter.sendRebaseSignal w.calls signal

def replay (checkpoint : RuntimeCheckpoint) (intent : IntentRef) :
    Effect (World γ) AdapterError Unit := do
  let w ← get
  set { w with calls := w.calls ++ [RuntimeCall.replayFromCheckpoint checkpoint intent] }
  adapter.replayFromCheckpoint w.calls checkpoint intent

variable (w : World γ)

@[simp] theorem checkReady_on : adapter.checkReady.on w = (adapter.isAdapterReady w.calls, w) := rfl

@[simp] theorem signal_on (signal : RebaseSignal) :
    (adapter.signal signal).on w = (adapter.sendRebaseSignal w.calls signal,
      { w with calls := w.calls ++ [.sendRebaseSignal signal] }) := rfl

@[simp] theorem replay_on (checkpoint : RuntimeCheckpoint) (intent : IntentRef) :
    (adapter.replay checkpoint intent).on w =
      (adapter.replayFromCheckpoint w.calls checkpoint intent,
        { w with calls := w.calls ++ [.replayFromCheckpoint checkpoint intent] }) := rfl

end RuntimeAdapter

inductive RuntimeExecutionStatus where
  | notApplicable | skippedNotReady | degraded | succeeded | succeededNoReplay
deriving DecidableEq, Repr

structure RuntimeExecutionResult where
  status : RuntimeExecutionStatus := .notApplicable
  signalSent : Bool := false
  replayCompleted : Bool := false
  replayAttempted : Bool := false
  statusMessage : String := "Not executed"
deriving DecidableEq, Repr

namespace RuntimeExecutionResult

def skippedNotReady : RuntimeExecutionResult where
  status := .skippedNotReady
  statusMessage := "Skipped: adapter not ready"

def degraded (signalSent replayAttempted : Bool) (reason : String) : RuntimeExecutionResult where
  status := .degraded
  signalSent := signalSent
  replayAttempted := replayAttempted
  statusMessage := s!"Degraded: {reason}"

def succeeded : RuntimeExecutionResult where
  status := .succeeded
  signalSent := true
  replayCompleted := true
  replayAttempted := true
  statusMessage := "Signal sent and replay completed"

/-- A replay on its own, with no signal before it. -/
def replaySucceeded : RuntimeExecutionResult where
  status := .succeeded
  replayCompleted := true
  replayAttempted := true
  statusMessage := "Replay completed"

def noCheckpoint : RuntimeExecutionResult where
  status := .succeededNoReplay
  signalSent := true
  statusMessage := "Signal sent, no checkpoint for replay"

end RuntimeExecutionResult

end IntentRebase

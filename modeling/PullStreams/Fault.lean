import PullStreams.Text.Utf8
import PullStreams.Json.Fault
import PullStreams.Csv.Fault

namespace PullStreams

inductive IoKind where
  | notFound
  | alreadyExists
  | notADirectory
  | isADirectory
  | notEmpty
  | busy
  | longName
  | brokenPipe
  | interrupted
  | unexpectedEnd
  | writeZero
  | invalid
  | other
  deriving DecidableEq, Repr

/-- A failed read or write. An interrupted one may be tried again. -/
structure IoFault where
  kind : IoKind
  text : String
  deriving DecidableEq, Repr

def IoFault.isInterrupted (e : IoFault) : Bool := e.kind = .interrupted

def IoFault.plain (text : String) : IoFault := ⟨.other, text⟩

/-- The fault of a reader or writer that has stopped: trying again would not help. -/
def IoFault.forGood (e : IoFault) : IoFault :=
  if e.isInterrupted then { e with kind := .other } else e

@[simp] theorem IoFault.isInterrupted_forGood (e : IoFault) : e.forGood.isInterrupted = false := by
  unfold forGood
  split <;> simp_all [isInterrupted]

inductive StreamFault where
  /-- The input ended; this is no failure. -/
  | ended
  | closed
  | io (fault : IoFault)
  | decode (line : Nat) (fault : Utf8Fault)
  | json (fault : Json.Fault)
  | csv (fault : Csv.Fault)
  /-- Messages of an error that is not one of ours, the outermost context first. -/
  | other (chain : List String)
  deriving DecidableEq, Repr

namespace StreamFault

def ofText (text : String) : StreamFault := .other [text]

def message : StreamFault → String
  | .ended => "end of stream"
  | .closed => "stream is closed"
  | .io fault => s!"io error: {fault.text}"
  | .decode line fault => s!"decode error on line {line}: {fault.message}"
  | .json fault => s!"json error: {fault.message}"
  | .csv fault => s!"csv error: {fault.message}"
  | .other chain => ": ".intercalate chain

/-- The error underneath, where the message does not already stand for it. -/
def source? : StreamFault → Option String
  | .decode _ fault => some fault.message
  | _ => none

def chain (e : StreamFault) : List String := e.message :: e.source?.toList

def isEnd (e : StreamFault) : Bool := e = .ended

end StreamFault

@[simp] theorem mapError_ok {α : Type u} {ε : Type v} {ε' : Type w} (f : ε → ε') (a : α) :
    (Except.ok a : Except ε α).mapError f = .ok a := rfl

@[simp] theorem mapError_error {α : Type u} {ε : Type v} {ε' : Type w} (f : ε → ε') (e : ε) :
    (Except.error e : Except ε α).mapError f = .error (f e) := rfl

def failure? : Option StreamFault → Option StreamFault
  | some .ended => none
  | e => e

inductive Report where
  | text (message : String)
  | stream (error : StreamFault)
  | io (fault : IoFault)
  | context (message : String) (inner : Report)
  deriving DecidableEq, Repr

namespace Report

def messages : Report → List String
  | .text m => [m]
  | .stream e => e.chain
  | .io fault => [fault.text]
  | .context m inner => m :: inner.messages

def message (r : Report) : String := ": ".intercalate r.messages

def ofChain : List String → Report
  | [] => .text ""
  | [m] => .text m
  | m :: rest => .context m (ofChain rest)

def streamFault? : Report → Option StreamFault
  | .stream e => some e
  | .context _ inner => inner.streamFault?
  | _ => none

/-- A stream's own error comes back bare: contexts added on top are dropped. -/
def toStreamFault (r : Report) : StreamFault := r.streamFault?.getD (.other r.messages)

end Report

structure PartialTransfer where
  written : Nat
  source : StreamFault
  deriving DecidableEq, Repr

def PartialTransfer.message (e : PartialTransfer) : String :=
  s!"transfer aborted after {e.written} units: {e.source.message}"

def PartialTransfer.chain (e : PartialTransfer) : List String := e.message :: e.source.chain

/-- A copy to many sinks that stopped early, with the units written to each. -/
structure PartialMulticast where
  written : List Nat
  source : StreamFault
  deriving DecidableEq, Repr

def PartialMulticast.message (e : PartialMulticast) : String :=
  s!"multicast aborted: {e.source.message}"

def PartialMulticast.chain (e : PartialMulticast) : List String := e.message :: e.source.chain

end PullStreams

import PullStreams.ByteWriter
import PullStreams.Deque

namespace PullStreams.Double

structure LimitedWriter where
  limit : Nat
  stored : Deque UInt8 := {}

def LimitedWriter.bytes (w : LimitedWriter) : Bytes := w.stored.toList

def LimitedWriter.refusal (limit : Nat) : IoFault :=
  .plain s!"write limit of {limit} bytes exceeded"

instance : ByteWriter LimitedWriter where
  write bs w :=
    if w.stored.size + bs.length > w.limit then (.error (LimitedWriter.refusal w.limit), w)
    else (.ok bs.length, { w with stored := w.stored.append bs })
  flush w := (.ok (), w)

instance : PatientWriter LimitedWriter where
  wf := ⟨fun w => ⟨_, fun v ⟨bs, e, h, he⟩ => by
    simp only [ByteWriter.write] at h
    split at h
    · simp only [Prod.mk.injEq, Except.error.injEq] at h
      simp [← h.1, LimitedWriter.refusal, IoFault.plain, IoFault.isInterrupted] at he
    · simp at h⟩⟩

/-- Takes at most `short` bytes at a time and `limit` in all, nothing at call number `zeroAt`, and
with `interrupts` fails every other call at first. `log` holds the lengths that it was offered. -/
structure FickleWriter where
  short : Option Nat := none
  limit : Option Nat := none
  zeroAt : Option Nat := none
  flushFailure : Option String := none
  interrupts : Bool := false
  isReady : Bool := false
  stored : Deque UInt8 := {}
  log : Deque Nat := {}
  flushes : Nat := 0

namespace FickleWriter

def bytes (w : FickleWriter) : Bytes := w.stored.toList

def calls (w : FickleWriter) : List Nat := w.log.toList

def room (w : FickleWriter) (n : Nat) : Nat :=
  (w.short.elim n (min n)) |> fun n => w.limit.elim n fun limit => min n (limit - w.stored.size)

def write (bs : Bytes) (w : FickleWriter) : Except IoFault Nat × FickleWriter :=
  if w.interrupts && !w.isReady then
    (.error ⟨.interrupted, "operation interrupted"⟩, { w with isReady := true })
  else
    let logged := { w with isReady := false, log := w.log.push bs.length }
    if w.zeroAt = some w.log.size then (.ok 0, logged)
    else if w.limit.any (· ≤ w.stored.size) && !bs.isEmpty then
      (.error (.plain "device full"), logged)
    else
      let taken := w.room bs.length
      (.ok taken, { logged with stored := w.stored.append (bs.take taken) })

def flush (w : FickleWriter) : Except IoFault Unit × FickleWriter :=
  ((match w.flushFailure with
    | some text => .error (.plain text)
    | none => .ok ()),
    { w with flushes := w.flushes + 1 })

instance : ByteWriter FickleWriter where
  write := write
  flush := flush

instance : PatientWriter FickleWriter where
  wf := Subrelation.wf
    (fun {v w} ⟨bs, e, h, he⟩ => by
      show (if v.isReady then 0 else 1) < if w.isReady then 0 else 1
      simp only [ByteWriter.write, write] at h
      split at h
      · rename_i hw
        simp only [Bool.and_eq_true, Bool.not_eq_true'] at hw
        simp only [Prod.mk.injEq] at h
        simp [← h.2, hw.2]
      · split at h
        · simp at h
        · split at h
          · simp only [Prod.mk.injEq, Except.error.injEq] at h
            simp [← h.1, IoFault.plain, IoFault.isInterrupted] at he
          · simp at h)
    (InvImage.wf (fun w : FickleWriter => if w.isReady then 0 else 1) Nat.lt_wfRel.wf)

def finishWithMark (w : FickleWriter) : Except IoFault Unit × FickleWriter :=
  match ByteWriter.writeAll (Utf8.bytesOf "END") w with
  | (.ok (), w) => flush w
  | (.error e, w) => (.error e, w)

def loseTrailer (w : FickleWriter) : Except IoFault Unit × FickleWriter :=
  (.error (.plain "trailer lost"), w)

end FickleWriter
end PullStreams.Double

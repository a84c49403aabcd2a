import PullStreams.Codec.Basic

namespace PullStreams.Double

def upperBytes (bs : Bytes) : Bytes :=
  bs.map fun b => if 97 ≤ b && b ≤ 122 then b - 32 else b

inductive Decoding where
  | refuse
  | change (f : Bytes → Bytes)

/-- Reads everything before it gives anything, so that a fault is its own. -/
def Decoding.apply (d : Decoding) (_ : Demand) (f : Feed) : Except IoFault Feed :=
  match d, f.fault with
  | .refuse, _ => .error (.plain "codec refused")
  | .change _, some e => .error e
  | .change g, none => .ok (.ofBytes (g f.bytes) none)

structure UpperWriter (ω : Type u) where
  target : ω

namespace UpperWriter
variable {ω : Type u} [ByteWriter ω] [PatientWriter ω]

def mark : Bytes := Utf8.bytesOf "<EOF>"

def write (bs : Bytes) (w : UpperWriter ω) : Except IoFault Nat × UpperWriter ω :=
  (ByteWriter.write (upperBytes bs) w.target).map id (⟨·⟩)

def finish (w : UpperWriter ω) : Except IoFault Unit × UpperWriter ω :=
  match ByteWriter.writeAll mark w.target with
  | (.ok (), target) => (ByteWriter.flush target).map id (⟨·⟩)
  | (.error e, target) => (.error e, ⟨target⟩)

instance : FinishWriter (UpperWriter ω) where
  write := write
  flush w := (ByteWriter.flush w.target).map id (⟨·⟩)
  abandon w := ⟨ByteWriter.abandon w.target⟩
  finish := finish

instance : PatientWriter (UpperWriter ω) where
  wf := Subrelation.wf
    (fun {v w} ⟨bs, e, h, he⟩ => by
      simp only [ByteWriter.write, write, Prod.ext_iff, Prod.map_fst, Prod.map_snd, id] at h
      exact ⟨upperBytes bs, e, Prod.ext h.1 (by rw [← h.2]), he⟩)
    (InvImage.wf UpperWriter.target PatientWriter.wf)

end UpperWriter

structure MappedWriter (f : UInt8 → UInt8) (ω : Type u) where
  target : ω

namespace MappedWriter
variable {f : UInt8 → UInt8} {ω : Type u} [ByteWriter ω]

def flush (w : MappedWriter f ω) : Except IoFault Unit × MappedWriter f ω :=
  (ByteWriter.flush w.target).map id (⟨·⟩)

instance : FinishWriter (MappedWriter f ω) where
  write bs w := (ByteWriter.write (bs.map f) w.target).map id (⟨·⟩)
  flush := flush
  abandon w := ⟨ByteWriter.abandon w.target⟩
  finish := flush

instance [PatientWriter ω] : PatientWriter (MappedWriter f ω) where
  wf := Subrelation.wf
    (fun {v w} ⟨bs, e, h, he⟩ => by
      simp only [ByteWriter.write, Prod.ext_iff, Prod.map_fst, Prod.map_snd, id] at h
      exact ⟨bs.map f, e, Prod.ext h.1 (by rw [← h.2]), he⟩)
    (InvImage.wf MappedWriter.target PatientWriter.wf)

end MappedWriter

def upperPacking : Packing where
  Writer := UpperWriter
  finishWriter _ := inferInstance
  patientWriter _ := inferInstance
  encode w := .ok ⟨w⟩
  target := UpperWriter.target

def mappedPacking (f : UInt8 → UInt8) : Packing where
  Writer := MappedWriter f
  finishWriter _ := inferInstance
  patientWriter _ := inferInstance
  encode w := .ok ⟨w⟩
  target := MappedWriter.target

def flushedPacking : Packing := mappedPacking id

def refusingPacking : Packing :=
  { flushedPacking with encode := fun _ => .error (.plain "codec refused") }

def flipped : Codec :=
  { mappedPacking (~~~·) with
    name := "flipped", extensions := [".flip"], magic := some [7, 7]
    decode := (Decoding.change (List.map (~~~·))).apply }

end PullStreams.Double

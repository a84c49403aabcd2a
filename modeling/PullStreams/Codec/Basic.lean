import PullStreams.ByteReader
import PullStreams.Codec.Buffered
import PullStreams.Codec.Packed
import PullStreams.Text.LowerCase

namespace PullStreams

structure Packing where
  Writer : Type → Type
  [finishWriter (ω : Type) [ByteWriter ω] [PatientWriter ω] : FinishWriter (Writer ω)]
  [patientWriter (ω : Type) [ByteWriter ω] [PatientWriter ω] : PatientWriter (Writer ω)]
  encode {ω : Type} : ω → Except IoFault (Writer ω)
  target {ω : Type} : Writer ω → ω

attribute [instance] Packing.finishWriter Packing.patientWriter

structure Codec extends Packing where
  name : String
  /-- Ends of lower-case names, with the dot. -/
  extensions : List String
  /-- The bytes that a stream of the format starts with. -/
  magic : Option Bytes := none
  /-- How many bytes are read at a time to be decoded. -/
  readSize : Nat := ByteReader.bufferSize
  /-- What is in a feed, for a reader with the demand. -/
  decode : Demand → Feed → Except IoFault Feed

def Packing.buffered : Packing where
  Writer := Buffered
  finishWriter _ := inferInstance
  patientWriter _ := inferInstance
  encode w := .ok { target := w }
  target := Buffered.target

def Packing.packed (f : Framing) : Packing where
  Writer := Packed f
  finishWriter _ := inferInstance
  patientWriter _ := inferInstance
  encode w := .ok { target := w }
  target := Packed.target

namespace Codec

def plain : Codec :=
  { Packing.buffered with name := "plain", extensions := [], decode := fun _ => .ok }

/-- The contexts say which codec refused. -/
def openReader (c : Codec) (demand : Demand) (f : Feed) : Except Report Feed :=
  (c.decode demand f).mapError fun e => .context s!"wrap reader with {c.name} codec" (.io e)

def openWriter (c : Codec) {ω : Type} (w : ω) : Except Report (c.Writer ω) :=
  (c.encode w).mapError fun e => .context s!"wrap writer with {c.name} codec" (.io e)

def ofExtension? (codecs : List Codec) (path : String) : Option Codec :=
  let name := (Text.lowerCase path).toList
  codecs.find? fun c => c.extensions.any fun e => e.toList.isSuffixOf name

def magicLength (codecs : List Codec) : Nat :=
  (codecs.map fun c => (c.magic.map List.length).getD 0).foldr max 0

/-- An empty stream is of no format. -/
def ofMagic? (codecs : List Codec) (head : Bytes) : Option Codec :=
  if head.isEmpty then none
  else codecs.find? fun c => c.magic.any fun magic => magic.isPrefixOf head

/-- What is in the bytes of a reader. Where the name does not tell the codec, the first bytes do;
they are a piece of their own then. -/
def reader {ρ : Type u} [ByteReader ρ] [FiniteReader ρ] (codecs : List Codec) (path : String)
    (demand : Demand) (r : ρ) : Except Report Feed :=
  match ofExtension? codecs path with
  | some c => c.openReader demand (ByteReader.contents c.readSize r)
  | none =>
    match ByteReader.takeHead (magicLength codecs) r with
    | (_, some e, _) => .error (.context "read stream header" (.io e))
    | (head, none, r) =>
      let c := (ofMagic? codecs head).getD plain
      let rest := ByteReader.contents c.readSize r
      c.openReader demand (if head.isEmpty then rest else rest.prepend head)

def ofPath (codecs : List Codec) (path : String) : Codec := (ofExtension? codecs path).getD plain

end Codec
end PullStreams

/-
# ScrapeFleet.Cluster.Secret — secrets

The values of a secret are bytes; a credential is a value that is text. A key may also have a value
that was given as text, which counts only where there is no value in bytes.
-/
import ScrapeFleet.Cluster.Metadata
import ScrapeFleet.Text.Base64

namespace ScrapeFleet.Cluster

open Job (readDict)

/-- A secret. -/
structure Secret where
  metadata : Metadata := {}
  data : Option (Dict String (List UInt8)) := none
  stringData : Option (Dict String String) := none
  immutable : Option Bool := none
  type : Option String := none
deriving DecidableEq, Repr, Inhabited

namespace Secret

instance : Identified Secret := ⟨metadata⟩

/-- The value of a key: bytes, or else text in bytes. -/
inductive Content where
  | bytes (bs : List UInt8)
  | text (s : String)
deriving DecidableEq, Repr

/-- What a key holds. -/
def content? (s : Secret) (key : String) : Option Content :=
  match s.data.bind (·.get? key) with
  | some bs => some (.bytes bs)
  | none => (s.stringData.bind (·.get? key)).map .text

/-- Reads a value: bytes in base64; null is no bytes. -/
def readBytes (d : Doc) : Option (List UInt8) :=
  match d with
  | .null => some []
  | d => d.text?.bind fun s => Text.Base64.decode? s.toList

/-- Reads a secret. -/
def read (d : Doc) : Option Secret := do
  let fs ← d.recordFields? ["apiVersion", "kind", "metadata", "data", "stringData", "immutable",
    "type"]
  checkKind fs .secret
  return {
    metadata := (← fs.optional "metadata" Metadata.read).getD {}
    data := ← fs.optional "data" (readDict readBytes)
    stringData := ← fs.optional "stringData" (readDict Doc.text?)
    immutable := ← fs.optional "immutable" Doc.bool?
    type := ← fs.optional "type" Doc.text? }

/-- Writes a secret. -/
def write (s : Secret) : Value := .record <|
  header .secret s.metadata
    ++ Value.optional "data" (writeDict fun bs => String.ofList (Text.Base64.encode bs)) s.data
    ++ Value.optional "immutable" .bool s.immutable
    ++ Value.optional "stringData" (writeDict id) s.stringData
    ++ Value.optional "type" .text s.type
where
  /-- A map with its values as text. -/
  writeDict {α : Type} (text : α → String) (m : Dict String α) : Value :=
    .record (m.toList.map fun (k, a) => (k, .text (text a)))

end Secret

end ScrapeFleet.Cluster

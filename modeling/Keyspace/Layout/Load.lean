/-
# Loading layouts

A layout file holds a JSON or a YAML document.  The decoders of the two are not part of this library:
they are handed to it as `Decoders`, and all that is known of one is that it makes a value of bytes or
raises something.  A decoder raises many things.  Only what it raises for a malformed document is
caught, and by its category:

* a malformed YAML document is raised anew as a malformed JSON document, from its beginning on;
* a malformed JSON document is reported as a fault of the serialised form, with the name of the file
  in front.

Everything else passes as it was raised.
-/
import Keyspace.Json.Reader
import Keyspace.Layout.File

namespace Keyspace.Layout

/-- The decoders of the two formats. -/
structure Decoders where
  json : List UInt8 → Except Raised Value
  yaml : List UInt8 → Except Raised Value

namespace Decoders

/-- What the decoder of a format makes of bytes. -/
def decode (d : Decoders) : Format → List UInt8 → Except Raised Value
  | .json => d.json
  | .yaml => d.yaml

/-- What stands for a YAML document that is raised as a JSON document. -/
def yamlDocument : Text := "<yaml>".toList

/-- A YAML document, with what is malformed raised as a malformed JSON document. -/
def convertYaml (d : Decoders) (bytes : List UInt8) : Except Raised Value :=
  Raised.rescue .malformedYaml (fun message => Json.malformedAt message yamlDocument 0)
    (d.yaml bytes)

/-- A document of a format, with what is malformed raised as a malformed JSON document. -/
def convert (d : Decoders) : Format → List UInt8 → Except Raised Value
  | .json => d.json
  | .yaml => d.convertYaml

/-- The document in the file of that name. -/
def read (d : Decoders) (name : Text) (format : Format) (bytes : List UInt8) :
    Except Raised Value :=
  Raised.rescue .malformedJson (fun message => ⟨.serialForm, name ++ ':' :: ' ' :: message⟩)
    (d.convert format bytes)

end Decoders

/-- Loads a layout, upgrading it within so many rounds. -/
def load (d : Decoders) (s : Schema) (rounds : Nat) (file : File) :
    Option (Outcome (LoadFault Raised) Layout) :=
  loadWith (d.read file.name) s rounds file

end Keyspace.Layout

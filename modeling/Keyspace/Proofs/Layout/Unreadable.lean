/-
# Loading what cannot be read

A file that is there, with the extension of a format, may hold content of which the decoder of the
format makes no value.  Then nothing is loaded, and nothing is logged.

What is reported depends on what the decoder raises, and of that on the category alone.  What is raised
for a malformed document is caught, on one way for JSON and on another for YAML, and both ways end in a
fault of the serialised form, with the name of the file in front (`read_of_isMalformed`).  Everything
else passes both as it was raised, without the name (`read_of_not_isMalformed`).

For the decoder of JSON documents the categories can be traced to the content
(`load_of_json_fault`).  What passes are bytes that are no text, integers with too many digits, and
collections that nest too deep.
-/
import Keyspace.Layout.Load
import Keyspace.Proofs.Json.Reader
import Keyspace.Proofs.Layout.Loading

namespace Keyspace.Layout

/-- The categories of what is raised for a malformed document of a format. -/
def Format.IsMalformed : Format → Category → Prop
  | .json, c => c = .malformedJson
  | .yaml, c => c = .malformedYaml ∨ c = .malformedJson

/-- What is said of a malformed document.  The place of a YAML document that is raised as a JSON
document is its beginning. -/
def Format.wording (format : Format) (x : Raised) : Text :=
  if format = .yaml ∧ x.category = .malformedYaml then
    x.message ++ ": line 1 column 1 (char 0)".toList
  else x.message

variable {d : Decoders} {file : File} {bytes : List UInt8} {format : Format} {x : Raised}

/-! ## 1. What is caught -/

/-- The first position of what stands for a YAML document. -/
theorem malformedAt_yamlDocument (message : Text) :
    Json.malformedAt message Decoders.yamlDocument 0
      = ⟨.malformedJson, message ++ ": line 1 column 1 (char 0)".toList⟩ := by
  have hplace : (Json.Place.ofPosition Decoders.yamlDocument 0).message
      = ": line 1 column 1 (char 0)".toList := by decide
  rw [Json.malformedAt, hplace]

/-- **What is malformed is raised as a malformed JSON document,** whatever the format. -/
theorem convert_of_isMalformed (h : d.decode format bytes = .error x)
    (hx : format.IsMalformed x.category) :
    d.convert format bytes = .error ⟨.malformedJson, format.wording x⟩ := by
  cases format with
  | json =>
    have hwording : Format.json.wording x = x.message := if_neg (by simp)
    rw [hwording, ← show x.category = .malformedJson from hx]
    exact h
  | yaml =>
    have hdecode : d.yaml bytes = .error x := h
    rw [Decoders.convert, Decoders.convertYaml, hdecode]
    rcases hx with hx | hx
    · have hwording : Format.yaml.wording x = x.message ++ ": line 1 column 1 (char 0)".toList :=
        if_pos ⟨rfl, hx⟩
      rw [Raised.rescue_error_of_eq hx, malformedAt_yamlDocument, hwording]
    · have hne : x.category ≠ .malformedYaml := by simp [hx]
      have hwording : Format.yaml.wording x = x.message := if_neg (by simp [hne])
      rw [Raised.rescue_error_of_ne hne, hwording, ← hx]

theorem convert_of_not_isMalformed (h : d.decode format bytes = .error x)
    (hx : ¬ format.IsMalformed x.category) : d.convert format bytes = .error x := by
  cases format with
  | json => exact h
  | yaml =>
    have hdecode : d.yaml bytes = .error x := h
    rw [Decoders.convert, Decoders.convertYaml, hdecode]
    exact Raised.rescue_error_of_ne (not_or.mp hx).1 _

/-- **What is malformed is a fault of the serialised form,** with the name in front. -/
theorem read_of_isMalformed (h : d.decode format bytes = .error x)
    (hx : format.IsMalformed x.category) (name : Text) :
    d.read name format bytes = .error ⟨.serialForm, name ++ ':' :: ' ' :: format.wording x⟩ := by
  have hraised : (⟨.malformedJson, format.wording x⟩ : Raised).category = .malformedJson := rfl
  rw [Decoders.read, convert_of_isMalformed h hx]
  exact Raised.rescue_error_of_eq hraised _

/-- **Everything else passes.** -/
theorem read_of_not_isMalformed (h : d.decode format bytes = .error x)
    (hx : ¬ format.IsMalformed x.category) (name : Text) :
    d.read name format bytes = .error x := by
  have hne : x.category ≠ .malformedJson := by
    cases format with
    | json => exact hx
    | yaml => exact (not_or.mp hx).2
  rw [Decoders.read, convert_of_not_isMalformed h hx]
  exact Raised.rescue_error_of_ne hne _

/-! ## 2. Loading -/

theorem load_of_read_error (s : Schema) (rounds : Nat) (hfile : file.Exists bytes)
    {stem ext : Text} (hname : file.name = stem ++ '.' :: ext) (hext : ext ∈ format.extensions)
    (h : d.read file.name format bytes = .error x) :
    load d s rounds file = some (.pure (.error (.unreadable x))) := by
  rw [load, loadWith_of_exists (d.read file.name) s rounds hfile hname hext, h, readContent]

theorem load_of_isMalformed (s : Schema) (rounds : Nat) (hfile : file.Exists bytes)
    {stem ext : Text} (hname : file.name = stem ++ '.' :: ext) (hext : ext ∈ format.extensions)
    (h : d.decode format bytes = .error x) (hx : format.IsMalformed x.category) :
    load d s rounds file = some (.pure (.error
      (.unreadable ⟨.serialForm, file.name ++ ':' :: ' ' :: format.wording x⟩))) :=
  load_of_read_error s rounds hfile hname hext (read_of_isMalformed h hx file.name)

theorem load_of_not_isMalformed (s : Schema) (rounds : Nat) (hfile : file.Exists bytes)
    {stem ext : Text} (hname : file.name = stem ++ '.' :: ext) (hext : ext ∈ format.extensions)
    (h : d.decode format bytes = .error x) (hx : ¬ format.IsMalformed x.category) :
    load d s rounds file = some (.pure (.error (.unreadable x))) :=
  load_of_read_error s rounds hfile hname hext (read_of_not_isMalformed h hx file.name)

/-- **What cannot be read is not loaded, and nothing is logged.**  What the decoder raises for a
malformed document is reported as a fault of the serialised form, with the name of the file in front;
everything else is reported in the category and in the words in which it was raised. -/
theorem load_of_decode_error (d : Decoders) (s : Schema) (rounds : Nat) (hfile : file.Exists bytes)
    (stem ext : Text) (hname : file.name = stem ++ '.' :: ext) (hext : ext ∈ format.extensions)
    (h : d.decode format bytes = .error x) :
    ∃ o e, load d s rounds file = some o ∧ o.log = [] ∧ o.value = .error e ∧
      (format.IsMalformed x.category →
        e.category Raised.category = .serialForm ∧
        e.message Raised.message = file.name ++ ':' :: ' ' :: format.wording x) ∧
      (¬ format.IsMalformed x.category →
        e.category Raised.category = x.category ∧ e.message Raised.message = x.message) := by
  by_cases hx : format.IsMalformed x.category
  · have hload := load_of_isMalformed s rounds hfile hname hext h hx
    exact ⟨_, _, hload, rfl, rfl, fun _ => ⟨rfl, rfl⟩, fun hno => absurd hx hno⟩
  · have hload := load_of_not_isMalformed s rounds hfile hname hext h hx
    exact ⟨_, _, hload, rfl, rfl, fun hyes => absurd hyes hx, fun _ => ⟨rfl, rfl⟩⟩

/-- An object that is not closed. -/
def opened : List UInt8 := Text.Encoding.utf8Bytes ['\x7b']

def openedFile : File := ⟨"conf".toList, "layout.v1.json".toList, some opened⟩

/-- A byte that no text begins with. -/
def untextual : List UInt8 := [0xFF]

def untextualFile (extension : Text) : File :=
  ⟨"conf".toList, "layout.".toList ++ extension, some untextual⟩

/-- A layout whose version is a date that is on no calendar. -/
def dated : List UInt8 := Text.Encoding.utf8Bytes "layout_version: 2024-13-01".toList

def datedFile : File := ⟨"conf".toList, "layout.yml".toList, some dated⟩

/-- What is raised for the byte in a YAML document. -/
def unacceptable : Text :=
  "unacceptable character #x00ff: invalid start byte\n  in \"conf/layout.yaml\", position 0".toList

/-- Raises what there is to raise for the byte and for the date, and takes every other YAML document
for malformed. -/
def raiseSamples (bytes : List UInt8) : Except Raised Value :=
  if bytes = dated then .error ⟨.badValue, "month must be in 1..12".toList⟩
  else .error ⟨.malformedYaml, if bytes = untextual then unacceptable else []⟩

/-- Decoders that know the documents. -/
def samples : Decoders := ⟨Json.decode 950, raiseSamples⟩

/-- The object and the byte are malformed documents of their formats, and the date passes. -/
theorem load_of_decode_error_samples :
    (openedFile.Exists opened ∧
      ∃ o e, load samples .base 1 openedFile = some o ∧ o.log = [] ∧ o.value = .error e ∧
        e.category Raised.category = .serialForm ∧
        e.message Raised.message =
          "layout.v1.json: Expecting property name enclosed in double quotes: ".toList ++
            "line 1 column 2 (char 1)".toList) ∧
    ((untextualFile "yaml".toList).Exists untextual ∧
      ∃ o e, load samples .base 1 (untextualFile "yaml".toList) = some o ∧ o.log = [] ∧
        o.value = .error e ∧ e.category Raised.category = .serialForm ∧
        e.message Raised.message =
          "layout.yaml: ".toList ++ unacceptable ++ ": line 1 column 1 (char 0)".toList) ∧
    (datedFile.Exists dated ∧
      ∃ o e, load samples .base 1 datedFile = some o ∧ o.log = [] ∧ o.value = .error e ∧
        e.category Raised.category = .badValue ∧
        e.message Raised.message = "month must be in 1..12".toList) := by
  have hopened : samples.decode .json opened =
      .error (Json.Fault.malformed .propertyName ⟨1, 2, 1⟩).raised := rfl
  have huntextual : samples.decode .yaml untextual = .error ⟨.malformedYaml, unacceptable⟩ := rfl
  have hdated : samples.decode .yaml dated = .error ⟨.badValue, "month must be in 1..12".toList⟩ :=
    rfl
  have hopenedFile : openedFile.Exists opened := ⟨by decide, by decide, rfl⟩
  have huntextualFile : (untextualFile "yaml".toList).Exists untextual :=
    ⟨by decide, by decide, rfl⟩
  have hdatedFile : datedFile.Exists dated := ⟨by decide, by decide, rfl⟩
  refine ⟨⟨hopenedFile, ?_⟩, ⟨huntextualFile, ?_⟩, hdatedFile, ?_⟩
  · obtain ⟨o, e, hload, hlog, hvalue, hcaught, -⟩ := load_of_decode_error samples .base 1
      hopenedFile "layout.v1".toList "json".toList rfl (by decide) hopened
    obtain ⟨hcat, hmessage⟩ := hcaught rfl
    exact ⟨o, e, hload, hlog, hvalue, hcat, hmessage.trans (by decide +kernel)⟩
  · obtain ⟨o, e, hload, hlog, hvalue, hcaught, -⟩ := load_of_decode_error samples .base 1
      huntextualFile "layout".toList "yaml".toList rfl (by decide) huntextual
    obtain ⟨hcat, hmessage⟩ := hcaught (.inl rfl)
    exact ⟨o, e, hload, hlog, hvalue, hcat, hmessage.trans (by decide +kernel)⟩
  · obtain ⟨o, e, hload, hlog, hvalue, -, hpassed⟩ := load_of_decode_error samples .base 1
      hdatedFile "layout".toList "yml".toList rfl (by decide) hdated
    obtain ⟨hcat, hmessage⟩ := hpassed (by simp [Format.IsMalformed])
    exact ⟨o, e, hload, hlog, hvalue, hcat, hmessage⟩

/-! ## 3. The decoder of JSON documents -/

/-- **A JSON document that is not read is reported as malformed,** unless its bytes are no text, an
integer in it is too long, or it nests too deep. -/
theorem load_of_json_fault (yaml : List UInt8 → Except Raised Value) (depth : Nat) (s : Schema)
    (rounds : Nat) (hfile : file.Exists bytes) (stem : Text)
    (hname : file.name = stem ++ ".json".toList) {f : Json.Fault}
    (h : Json.ofBytes depth bytes = .error f) :
    ∃ o e, load ⟨Json.decode depth, yaml⟩ s rounds file = some o ∧ o.log = [] ∧
      o.value = .error e ∧
      (¬ f.IsUnread depth bytes →
        e.category Raised.category = .serialForm ∧
        e.message Raised.message = file.name ++ ':' :: ' ' :: f.message) ∧
      (f.IsUnread depth bytes →
        e.category Raised.category = f.category ∧ f.category ≠ .serialForm ∧
        e.message Raised.message = f.message) := by
  have hext : "json".toList ∈ Format.json.extensions := List.mem_singleton_self _
  have hdecode : (⟨Json.decode depth, yaml⟩ : Decoders).decode .json bytes = .error f.raised := by
    change Json.decode depth bytes = .error f.raised
    rw [Json.decode, h]
    rfl
  have hwording : Format.json.wording f.raised = f.message := if_neg (by simp)
  by_cases hunread : f.IsUnread depth bytes
  · have hload := load_of_not_isMalformed s rounds hfile hname hext hdecode hunread.category_ne
    exact ⟨_, _, hload, rfl, rfl, fun hno => absurd hunread hno,
      fun _ => ⟨rfl, f.category_ne_serialForm, rfl⟩⟩
  · have hmalformed : f.category = .malformedJson :=
      (Json.ofBytes_faults depth bytes f h).resolve_right hunread
    have hload := load_of_isMalformed s rounds hfile hname hext hdecode hmalformed
    rw [hwording] at hload
    exact ⟨_, _, hload, rfl, rfl, fun _ => ⟨rfl, rfl⟩, fun hyes => absurd hyes hunread⟩

/-- **Bytes that are no text are not reported as malformed content.**  The file is there and its name is
a good one.  Whatever the decoder of YAML documents is, and however deep collections may nest, what is
reported is no fault of the serialised form. -/
theorem load_untextual :
    ¬ ∃ (yaml : List UInt8 → Except Raised Value) (depth : Nat),
      ∀ (s : Schema) (rounds : Nat) (file : File) (bytes : List UInt8) (format : Format)
        (stem ext : Text) (x : Raised), file.Exists bytes →
        file.name = stem ++ '.' :: ext → ext ∈ format.extensions →
        (⟨Json.decode depth, yaml⟩ : Decoders).decode format bytes = .error x →
        ∃ o e, load ⟨Json.decode depth, yaml⟩ s rounds file = some o ∧ o.log = [] ∧
          o.value = .error e ∧ e.category Raised.category = .serialForm ∧
          file.name <+: e.message Raised.message := by
  rintro ⟨yaml, depth, h⟩
  have hfile : (untextualFile "json".toList).Exists untextual := ⟨by decide, by decide, rfl⟩
  have htext : Json.textOf untextual = .error ⟨.utf8, .startByte, 0, 0xFF, 1⟩ := rfl
  have hfault : Json.ofBytes depth untextual =
      .error (.undecodable ⟨.utf8, .startByte, 0, 0xFF, 1⟩) := by
    rw [Json.ofBytes, htext]
  have hdecode : (⟨Json.decode depth, yaml⟩ : Decoders).decode .json untextual =
      .error (Json.Fault.undecodable ⟨.utf8, .startByte, 0, 0xFF, 1⟩).raised := by
    change Json.decode depth untextual = _
    rw [Json.decode, hfault]
    rfl
  obtain ⟨o, e, hload, -, hvalue, hcat, -⟩ := h .base 1 _ untextual .json
    "layout".toList "json".toList _ hfile rfl (by decide) hdecode
  have hname : (untextualFile "json".toList).name = "layout".toList ++ '.' :: "json".toList := rfl
  have hpasses : ¬ Format.json.IsMalformed .undecodable := by simp [Format.IsMalformed]
  have hactual := load_of_not_isMalformed .base 1 hfile hname (by decide) hdecode hpasses
  obtain rfl := Option.some.inj (hload.symm.trans hactual)
  obtain rfl := Except.error.inj hvalue
  exact absurd hcat (by decide)

end Keyspace.Layout

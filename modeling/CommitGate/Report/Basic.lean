import CommitGate.Diagnostic
import CommitGate.Json

/-!
# Reports

A report joins a message with the diagnostics found in it. As a JSON document it names the commit,
the subject, the diagnostics in their order, and how many there are; the parts that a diagnostic
lacks are left out.
-/

namespace CommitGate

/-- What there is to say about one message. -/
structure Report where
  /-- The hash of the commit, unless the message is not a commit yet. -/
  commit : Option Text := none
  /-- The message. -/
  message : Text
  /-- The diagnostics found in it. -/
  diagnostics : List Diagnostic

/-- A location as a JSON object. -/
def Location.json (l : Location) : Json :=
  .object [("line".toList, .number l.line),
    ("columns".toList, .object [("start".toList, .number l.start), ("end".toList, .number l.stop)])]

/-- A field that is written only if it has a value. -/
def optionalField {α : Type} (name : String) (json : α → Json) (value : Option α) :
    List (Text × Json) :=
  match value with
  | none => []
  | some v => [(name.toList, json v)]

/-- A diagnostic as a JSON object. -/
def Diagnostic.json (d : Diagnostic) : Json :=
  .object <|
    [("description".toList, .string d.description)] ++ optionalField "code" .string d.code ++
      optionalField "hint" .string d.hint ++ optionalField "location" Location.json d.location ++
      optionalField "help" (fun h => .string h.plain) d.help ++ optionalField "note" .string d.note

namespace Report

/-- A report as a JSON object. -/
def json (r : Report) : Json :=
  .object [("commit".toList, .ofOption r.commit), ("subject".toList, .ofOption r.message.subject?),
    ("diagnostics".toList, .array (r.diagnostics.map Diagnostic.json)),
    ("summary".toList, .object [("errors".toList, .number r.diagnostics.length)])]

/-- A report as the text of a JSON document. -/
def document (r : Report) : Text := r.json.document

end Report

end CommitGate

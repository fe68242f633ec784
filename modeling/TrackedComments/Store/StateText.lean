import TrackedComments.Json.Fields
import TrackedComments.Json.Reader
import TrackedComments.Record

/-!
# The text of saved states

A state is saved as a JSON array with one object for each record. When a state is read, an object
may have further members, and a record may also be an array of its fields; but a field that is
missing, given twice or of the wrong type spoils the whole document.
-/

namespace TrackedComments

namespace Metadata

/-- The pairs as a JSON object. -/
def toJson (m : Metadata) : Json :=
  .ofFields (m.entries.map fun (key, value) => (key, .ofString value))

/-- The pair of a member, if its name and its value are texts. -/
def pairOfMember? : Option String × Json → Option (String × String)
  | (some key, .string (some value)) => some (key, value)
  | _ => none

/-- The pairs of a JSON object. -/
def ofJson? : Json → Option Metadata
  | .object members => (members.mapM pairOfMember?).map ofList
  | _ => none

end Metadata

namespace CommentRecord

/-- A record as a JSON object. A record without a number has no member for it. -/
def toJson (r : CommentRecord) : Json :=
  .ofFields
    ([("file", .ofString r.file),
      ("line", .ofNat r.line.toNat),
      ("text", .ofString r.text),
      ("message", .ofString r.message),
      ("metadata", r.metadata.toJson)] ++
      match r.issueNumber with
      | none => []
      | some number => [("issueNumber", .ofNat number.toNat)])

/-- A line number. -/
def lineOfJson? (j : Json) : Option UInt32 :=
  (j.natBelow? UInt32.size).map .ofNat

/-- An issue number, or none. -/
def issueOfJson? : Json → Option (Option UInt64)
  | .null => some none
  | j => (j.natBelow? UInt64.size).map fun n => some (.ofNat n)

/-- The record with the given fields, in the order in which they are saved. The last two may be
missing. -/
def ofValues? (file line text message : Json) (metadata issue : Option Json) :
    Option CommentRecord := do
  let file ← file.text?
  let line ← lineOfJson? line
  let text ← text.text?
  let message ← message.text?
  let metadata ← metadata.elim (some .empty) Metadata.ofJson?
  let issueNumber ← issue.elim (some none) issueOfJson?
  some { file, line, text, message, metadata, issueNumber }

/-- The record of a JSON value. -/
def ofJson? : Json → Option CommentRecord
  | .object members =>
    if Json.hasTextNames members then do
      let file ← Json.requiredField "file" members
      let line ← Json.requiredField "line" members
      let text ← Json.requiredField "text" members
      let message ← Json.requiredField "message" members
      let metadata ← Json.optionalField "metadata" members
      let issue ← Json.optionalField "issueNumber" members
      ofValues? file line text message metadata issue
    else none
  | .array (file :: line :: text :: message :: more) =>
    match more with
    | [] => ofValues? file line text message none none
    | [metadata] => ofValues? file line text message (some metadata) none
    | [metadata, issue] => ofValues? file line text message (some metadata) (some issue)
    | _ => none
  | _ => none

end CommentRecord

namespace StateText

/-- The text that a list of records is saved as. -/
def write (records : List CommentRecord) : String :=
  (Json.array (records.map CommentRecord.toJson)).pretty

/-- The records of a JSON array. -/
def recordsOfJson? : Json → Option (List CommentRecord)
  | .array items => items.mapM CommentRecord.ofJson?
  | _ => none

/-- The records that a text holds, unless it is corrupt. -/
def read? (text : String) : Option (List CommentRecord) :=
  (Json.ofChars? text.toList).bind recordsOfJson?

end StateText

end TrackedComments

import AssetAtlas.Count
import AssetAtlas.Fault
import AssetAtlas.Record.Basic
import AssetAtlas.Text.Encoding
import AssetAtlas.TreeFormat

/-!
What a store answers. A response is a record with rows, a count, or the reason of a failure; it is
read leniently where a column is missing and strictly where one has the wrong kind. A status that is
no success is a failure whatever the body says, and the body then only explains it.
-/

namespace AssetAtlas

structure Reply where
  success : Option Bool := none
  records : List Json := []
  count : Option Json := none
  error : Option String := none
  message : Option String := none

namespace Reply

def columns : List String := ["success", "records", "count", "error", "message"]

/-- A column that holds a truth value or null. -/
def flag? : Option Draft → Option (Option Bool)
  | none | some .null => some none
  | some (.bool b) => some (some b)
  | some _ => none

def values? : Option Draft → Option (List Json)
  | none => some []
  | some (.array items) => Draft.values? (Draft.maxDepth - 2) items
  | some _ => none

/-- A column that holds any value; null is none. -/
def value? : Option Draft → Option (Option Json)
  | none | some .null => some none
  | some d => (d.value? (Draft.maxDepth - 1)).map some

def text? : Option Draft → Option (Option String)
  | none => some none
  | some d => Draft.format.text? d

def ofDraft? (d : Draft) : Option Reply :=
  match d.columns? columns with
  | some [success, records, count, error, message] => do
    return {
      success := ← flag? success
      records := ← values? records
      count := ← value? count
      error := ← text? error
      message := ← text? message }
  | _ => none

def ofText (s : String) : Except JsonFault Reply :=
  match Draft.ofText s with
  | .complete d =>
    match ofDraft? d with
    | some r => .ok r
    | none =>
      let (line, column) := Draft.placeOf s 0
      .error (.meaningless line column)
  | .broken _ left =>
    let (line, column) := Draft.placeOf s left
    .error (.malformed line column)

def explanation? (r : Reply) : Option String :=
  r.error <|> r.message

def rows (r : Reply) : List Row :=
  Row.ofValues r.records

/-- The count in a row: the column `count`, or else the first column in order of the names that is a
count. -/
def rowCount? (row : Properties) : Option UInt64 :=
  ((row.find? "count").bind Json.count?) <|> row.values.findSome? Json.count?

/-- The count of a result. Each branch of a program counts in a row of its own; without rows the
record itself says the count. -/
def total (r : Reply) : UInt64 :=
  if r.records.isEmpty then (r.count.bind Json.count?).getD 0
  else saturatingSum ((r.records.filterMap Json.properties?).filterMap rowCount?)

end Reply

inductive Exchange where
  | dropped (details : String)
  /-- A response began and did not end. -/
  | cut (status : Nat) (details : String)
  | answered (status : Nat) (body : List UInt8)
deriving Inhabited

def excerptLength : Nat := 500

def excerpt (body : String) : String :=
  let cs := Text.trimChars body.toList
  if cs.isEmpty then "empty response body" else String.ofList (cs.take excerptLength)

def isSuccess (status : Nat) : Bool :=
  200 ≤ status && status < 300

def judge (status : Nat) (body : String) : Except Fault Reply :=
  let failed (message : String) : Except Fault Reply := .error (.queryFailed (some status) message)
  match isSuccess status, Reply.ofText body with
  | false, .ok r => failed (r.explanation?.getD (excerpt body))
  | false, .error _ => failed (excerpt body)
  | true, .error fault => failed s!"malformed response body: {fault.message}"
  | true, .ok r =>
    if r.success = some false then
      failed (r.explanation?.getD "query reported failure without a message")
    else .ok r

def Exchange.reply : Exchange → Except Fault Reply
  | .dropped details => .error (.queryFailed none details)
  | .cut status details =>
    .error (.queryFailed (some status) s!"failed to read response body: {details}")
  | .answered status body => judge status (Text.decode body)

end AssetAtlas

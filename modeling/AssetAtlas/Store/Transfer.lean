import AssetAtlas.Store.Client
import AssetAtlas.Text.Hexadecimal

/-!
Requests and responses as the bytes of a connection, after HTTP 1.1. A connection serves one request
and is closed by the store, so a response is read when all its bytes are there.
-/

namespace AssetAtlas

namespace Request

def lineEnd : String := "\r\n"

def headLines (r : Request) : List String :=
  [r.line, s!"Host: {r.host}", s!"User-Agent: {userAgent}", "Accept: */*",
    s!"Content-Type: {contentType}", s!"Content-Length: {r.body.utf8ByteSize}", "Connection: close"]
    ++ (r.authorization.map ("Authorization: " ++ ·)).toList

def text (r : Request) : String :=
  String.join (r.headLines.map (· ++ lineEnd)) ++ lineEnd ++ r.body

def standardService : Nat := 80

/-- The name of the host and the number of its service, that of the web if none is written. -/
def hostAndService (r : Request) : String × Nat :=
  let cs := r.host.toList.reverse
  let service := String.ofList (cs.takeWhile Char.isDigit).reverse
  match cs.dropWhile Char.isDigit with
  | ':' :: name => (String.ofList name.reverse, service.toNat?.getD standardService)
  | _ => (r.host, standardService)

end Request

/-- Splits bytes behind their first line, which ends with a carriage return and a line feed. -/
def splitLine : List UInt8 → Option (List UInt8 × List UInt8)
  | [] => none
  | 13 :: 10 :: rest => some ([], rest)
  | b :: rest => (splitLine rest).map fun (line, rest) => (b :: line, rest)

theorem length_lt_of_splitLine {bytes line rest : List UInt8}
    (h : splitLine bytes = some (line, rest)) : rest.length < bytes.length := by
  induction bytes using splitLine.induct generalizing line with
  | case1 => simp [splitLine] at h
  | case2 tail =>
    simp only [splitLine, Option.some.injEq, Prod.mk.injEq] at h
    simp only [← h.2, List.length_cons]
    omega
  | case3 b tail hb ih =>
    rw [splitLine] at h
    · simp only [Option.map_eq_some_iff, Prod.mk.injEq, Prod.exists] at h
      obtain ⟨l, r, hr, -, rfl⟩ := h
      have := ih hr
      simp only [List.length_cons]
      omega
    · exact hb

/-- Splits bytes behind the lines in front of the first empty line. -/
def splitHead (bytes : List UInt8) : Option (List String × List UInt8) :=
  match h : splitLine bytes with
  | none => none
  | some ([], rest) => some ([], rest)
  | some (line, rest) => do
    have := length_lt_of_splitLine h
    let (lines, body) ← splitHead rest
    return (Text.decode line :: lines, body)
termination_by bytes.length

/-- The length of a chunk in the line in front of it, where it may be followed by a remark. -/
def chunkLength? (line : List UInt8) : Option Nat :=
  match (Text.decode line).toList.takeWhile fun c => (Text.hexDigit? c).isSome with
  | [] => none
  | digits => Text.hexValue? digits

/-- Joins the chunks of a body; the empty chunk is the last one. -/
def joinChunks (bytes : List UInt8) : Option (List UInt8) :=
  match h : splitLine bytes with
  | none => none
  | some (line, rest) =>
    match chunkLength? line with
    | none => none
    | some 0 => some []
    | some n =>
      if rest.length < n + 2 then none
      else do
        have := length_lt_of_splitLine h
        return rest.take n ++ (← joinChunks (rest.drop (n + 2)))
termination_by bytes.length
decreasing_by simp only [List.length_drop]; omega

/-- A response before its body is read. -/
structure Response where
  status : Nat
  /-- What is said about the body; the names are in lower case. -/
  fields : List (String × String)
  rest : List UInt8

namespace Response

def field (line : String) : String × String :=
  let cs := line.toList
  (Text.asciiLower (String.ofList (cs.takeWhile (· != ':'))),
    Text.trim (String.ofList ((cs.dropWhile (· != ':')).drop 1)))

def ofBytes? (bytes : List UInt8) : Option Response := do
  match ← splitHead bytes with
  | (line :: lines, rest) =>
    let status ← (← (line.splitOn " ")[1]?).toNat?
    return { status, fields := lines.map field, rest }
  | ([], _) => none

/-- The body, if it is all there. Without a word about its length it ends with the connection. -/
def body? (r : Response) : Option (List UInt8) :=
  match r.fields.lookup "transfer-encoding", r.fields.lookup "content-length" with
  | some _, _ => joinChunks r.rest
  | none, some length => do
    let n ← length.toNat?
    if r.rest.length < n then none else some (r.rest.take n)
  | none, none => some r.rest

end Response

def Exchange.ofBytes (bytes : List UInt8) : Exchange :=
  match Response.ofBytes? bytes with
  | none => .dropped "the connection was closed before a response arrived"
  | some r =>
    match r.body? with
    | none => .cut r.status "the connection was closed before the end of the body"
    | some body => .answered r.status body

end AssetAtlas

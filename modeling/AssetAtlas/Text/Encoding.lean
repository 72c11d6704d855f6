/-!
Text from bytes. Received bytes are UTF-8 unless a byte order mark says otherwise; what is not valid
is replaced piece by piece, so that every sequence of bytes denotes some text.
-/

namespace AssetAtlas.Text

/-- The character that stands for bytes without meaning. -/
def replacement : Char := '\uFFFD'

/-- A UTF-8 sequence that is not complete: how many bytes are still to come, the range of the next
one, and the value of the bits so far. -/
structure Utf8Pending where
  missing : Nat
  least : Nat
  most : Nat
  value : Nat

/-- Reads the first byte of a sequence: a character, the start of a longer sequence, or nothing that
UTF-8 allows here. -/
def utf8Start (b : Nat) : Sum Char Utf8Pending :=
  if b < 0x80 then .inl (Char.ofNat b)
  else if 0xC2 ≤ b ∧ b ≤ 0xDF then .inr ⟨1, 0x80, 0xBF, b - 0xC0⟩
  else if 0xE0 ≤ b ∧ b ≤ 0xEF then
    .inr ⟨2, if b = 0xE0 then 0xA0 else 0x80, if b = 0xED then 0x9F else 0xBF, b - 0xE0⟩
  else if 0xF0 ≤ b ∧ b ≤ 0xF4 then
    .inr ⟨3, if b = 0xF0 then 0x90 else 0x80, if b = 0xF4 then 0x8F else 0xBF, b - 0xF0⟩
  else .inl replacement

/-- Decodes UTF-8 behind an unfinished sequence; each maximal part of a sequence that cannot be
finished becomes one replacement character. -/
def decodeUtf8From : Option Utf8Pending → List UInt8 → List Char
  | none, [] => []
  | some _, [] => [replacement]
  | none, b :: rest =>
    match utf8Start b.toNat with
    | .inl c => c :: decodeUtf8From none rest
    | .inr p => decodeUtf8From (some p) rest
  | some p, b :: rest =>
    if p.least ≤ b.toNat ∧ b.toNat ≤ p.most then
      let value := 64 * p.value + (b.toNat - 0x80)
      if p.missing ≤ 1 then Char.ofNat value :: decodeUtf8From none rest
      else decodeUtf8From (some ⟨p.missing - 1, 0x80, 0xBF, value⟩) rest
    else
      replacement :: match utf8Start b.toNat with
        | .inl c => c :: decodeUtf8From none rest
        | .inr q => decodeUtf8From (some q) rest

/-- Joins bytes to 16-bit units; `none` stands for an odd last byte. -/
def units16 (littleEndian : Bool) : List UInt8 → List (Option Nat)
  | [] => []
  | [_] => [none]
  | a :: b :: rest =>
    some (if littleEndian then a.toNat + 256 * b.toNat else 256 * a.toNat + b.toNat)
      :: units16 littleEndian rest

/-- Decodes UTF-16 behind an optional leading surrogate; a surrogate without its partner and an odd
last byte are replaced. -/
def decodeUtf16From : Option Nat → List (Option Nat) → List Char
  | none, [] => []
  | some _, [] => [replacement]
  | _, none :: _ => [replacement]
  | lead, some u :: rest =>
    if 0xDC00 ≤ u ∧ u ≤ 0xDFFF then
      match lead with
      | some l => Char.ofNat (0x10000 + 1024 * (l - 0xD800) + (u - 0xDC00)) :: decodeUtf16From none rest
      | none => replacement :: decodeUtf16From none rest
    else
      let lost := if lead.isSome then [replacement] else []
      if 0xD800 ≤ u ∧ u ≤ 0xDBFF then lost ++ decodeUtf16From (some u) rest
      else lost ++ Char.ofNat u :: decodeUtf16From none rest

/-- The text of received bytes. A byte order mark selects UTF-8 or UTF-16 and is not part of the
text. -/
def decode (bytes : List UInt8) : String :=
  String.ofList <| match bytes with
    | 0xEF :: 0xBB :: 0xBF :: rest => decodeUtf8From none rest
    | 0xFF :: 0xFE :: rest => decodeUtf16From none (units16 true rest)
    | 0xFE :: 0xFF :: rest => decodeUtf16From none (units16 false rest)
    | _ => decodeUtf8From none bytes

def utf8 (s : String) : List UInt8 :=
  s.toUTF8.toList

def ofUtf8? (bytes : ByteArray) : Option String :=
  String.fromUTF8? bytes

end AssetAtlas.Text

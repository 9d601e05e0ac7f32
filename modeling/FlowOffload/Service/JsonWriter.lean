import FlowOffload.Service.Capabilities
import FlowOffload.Foundation.Json

/-!
# The writer of the canonical export

The byte-level writer: the text written so far, one flag per open bracket and
the size limit.  Keys are written by the caller in a fixed order.
-/

namespace FlowOffload

open Foundation

/-- `std::to_string` of an unsigned integer. -/
def decimal (value : Nat) : Bytes :=
  (Nat.toDigits 10 value).map fun digit => UInt8.ofNat digit.val.toNat

def kHex : Bytes := utf8 "0123456789abcdef"

/-- The lower-case digit of four bits. -/
def hexDigit (nibble : Nat) : UInt8 := kHex.getD nibble 0

def Sha256Digest.hex (digest : Sha256Digest) : Bytes :=
  digest.bytes.flatMap fun byte =>
    [hexDigit (byte.toNat / 16), hexDigit (byte.toNat % 16)]

/-- `%016llx` of a word. -/
def paddedHex (value : UInt64) : Bytes :=
  (List.range 16).map fun index =>
    hexDigit (value.toNat / 16 ^ (15 - index) % 16)

/-- `to_string` of a boot identity. -/
def BootId.toText (boot : BootId) : Bytes :=
  paddedHex boot.high ++ paddedHex boot.low

/-- What `string` writes for one byte. -/
def escapeByte (byte : UInt8) : Bytes :=
  if byte = 0x22 then utf8 "\\\""
  else if byte = 0x5C then utf8 "\\\\"
  else if byte = 0x0A then utf8 "\\n"
  else if byte = 0x0D then utf8 "\\r"
  else if byte = 0x09 then utf8 "\\t"
  else if byte < 0x20 then
    utf8 "\\u00" ++
      [hexDigit (byte.toNat / 16 % 16), hexDigit (byte.toNat % 16)]
  else [byte]

/-- The stack holds for every open bracket, innermost first, whether nothing
has been written behind it yet. -/
structure JsonWriter where
  out : Bytes := []
  stack : List Bool := []
  limit : Nat
  overflow : Bool := false
  pendingValue : Bool := false
  deriving DecidableEq, Repr

namespace JsonWriter

/--
The separator before a value or a key.  A key sets `pendingValue`, so that the
value that belongs to it is not preceded by a second separator.
-/
def separate (json : JsonWriter) : JsonWriter :=
  if json.pendingValue then { json with pendingValue := false }
  else
    match json.stack with
    | [] => json
    | true :: outer => { json with stack := false :: outer }
    | false :: _ => { json with out := json.out ++ [0x2C] }

/-- Brackets are written without a look at the limit. -/
def openWith (json : JsonWriter) (bracket : UInt8) : JsonWriter :=
  let json := json.separate
  { json with out := json.out ++ [bracket], stack := true :: json.stack }

def closeWith (json : JsonWriter) (bracket : UInt8) : JsonWriter :=
  { json with
    stack := json.stack.tail
    out := json.out ++ [bracket]
    pendingValue := false }

def append (json : JsonWriter) (text : Bytes) : JsonWriter :=
  if json.overflow then json
  else if json.out.length + text.length > json.limit then
    { json with overflow := true }
  else { json with out := json.out ++ text }

/-- The check counts the bytes of the text, not those of its escapes. -/
def string (json : JsonWriter) (text : Bytes) : JsonWriter :=
  if json.overflow then json
  else if json.out.length + text.length + 2 > json.limit then
    { json with overflow := true }
  else
    { json with out := json.out ++ 0x22 :: text.flatMap escapeByte ++ [0x22] }

def beginObject (json : JsonWriter) : JsonWriter := json.openWith 0x7B
def endObject (json : JsonWriter) : JsonWriter := json.closeWith 0x7D
def beginArray (json : JsonWriter) : JsonWriter := json.openWith 0x5B
def endArray (json : JsonWriter) : JsonWriter := json.closeWith 0x5D

def keyOf (json : JsonWriter) (name : Bytes) : JsonWriter :=
  let json := (json.separate.string name).append (utf8 ": ")
  { json with pendingValue := true }

/-- All keys of the export are literals. -/
def key (json : JsonWriter) (name : String) : JsonWriter :=
  json.keyOf (utf8 name)

def valueString (json : JsonWriter) (text : Bytes) : JsonWriter :=
  json.separate.string text

def valueUint (json : JsonWriter) (value : Nat) : JsonWriter :=
  json.separate.append (decimal value)

def valueBool (json : JsonWriter) (value : Bool) : JsonWriter :=
  json.separate.append (utf8 (if value then "true" else "false"))

def valueNull (json : JsonWriter) : JsonWriter :=
  json.separate.append (utf8 "null")

def valueDigest (json : JsonWriter) (digest : Sha256Digest) : JsonWriter :=
  json.separate.string digest.hex

def valueCapacity (json : JsonWriter) (capacity : CapacityVector) :
    JsonWriter :=
  json.beginObject
    |>.key "packets_per_second" |>.valueUint capacity.packetsPerSecond.toNat
    |>.key "bytes_per_second" |>.valueUint capacity.bytesPerSecond.toNat
    |>.key "state_bytes" |>.valueUint capacity.stateBytes.toNat
    |>.key "table_entries" |>.valueUint capacity.tableEntries.toNat
    |>.endObject

def ok (json : JsonWriter) : Bool := !json.overflow
def text (json : JsonWriter) : Bytes := json.out

end JsonWriter
end FlowOffload

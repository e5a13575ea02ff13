import TodoServer.Text.Hex
import TodoServer.Text.Utf8
import TodoServer.Text.Ascii

/-!
# Percent encoding

A percent sign and two hexadecimal digits stand for a byte. In forms a plus sign stands for a blank.
-/

namespace TodoServer.Http

/-- The value of a byte that is a hexadecimal digit. -/
def hexByte? (b : UInt8) : Option Nat :=
  Text.hexValue? (Char.ofNat b.toNat)

/-- The bytes that percent signs stand for; all others stand for themselves. -/
def percentDecode : List UInt8 → List UInt8
  | [] => []
  | b :: rest =>
    if b = 0x25 then
      match rest with
      | high :: low :: more =>
        match hexByte? high, hexByte? low with
        | some h, some l => UInt8.ofNat (h * 16 + l) :: percentDecode more
        | _, _ => b :: percentDecode (high :: low :: more)
      | short => b :: short
    else b :: percentDecode rest
termination_by bytes => bytes.length

/-- The text of a part of a path, if its bytes are a text. -/
def pathText? (part : String) : Option String :=
  Text.decode? (percentDecode (Text.utf8 part))

/-- The text of a part of a form. -/
def formText (part : String) : String :=
  Text.decodeLossy (percentDecode ((Text.utf8 part).map fun b => if b = 0x2B then 0x20 else b))

/-- A field of a form: what stands before the first equals sign, and after it. -/
def formField (field : String) : String × String :=
  let cs := field.toList
  let name := cs.takeWhile (· ≠ '=')
  (formText (String.ofList name), formText (String.ofList (cs.drop (name.length + 1))))

/-- The fields of a form in order. -/
def formFields (query : String) : List (String × String) :=
  ((Text.split '&' query).filter (· ≠ "")).map formField

end TodoServer.Http

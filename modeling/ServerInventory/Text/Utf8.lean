import ServerInventory.Text.Blank

/-!
Bytes read as UTF-8 text. Reading never fails: each longest part of a malformed sequence
that could begin a well-formed one becomes U+FFFD, and reading goes on right behind it.
-/

namespace ServerInventory

/-- What a command reads and writes. -/
abbrev Bytes := List UInt8

namespace Bytes

/-- The character that stands for bytes that are no text. -/
def replacement : Char := '\uFFFD'

/-- A byte of the form 10xxxxxx, which only continues a sequence. -/
def isContinuation (byte : UInt8) : Bool :=
  0x80 ≤ byte && byte ≤ 0xBF

/-- How many bytes the sequence has that a byte begins; 0 for a byte that begins none. -/
def sequenceLength (lead : UInt8) : Nat :=
  if lead < 0x80 then 1
  else if 0xC2 ≤ lead && lead ≤ 0xDF then 2
  else if 0xE0 ≤ lead && lead ≤ 0xEF then 3
  else if 0xF0 ≤ lead && lead ≤ 0xF4 then 4
  else 0

/-- Whether a byte may stand second after `lead`: overlong forms, surrogates and code
points beyond U+10FFFF are excluded here. -/
def isSecond (lead byte : UInt8) : Bool :=
  if lead == 0xE0 then 0xA0 ≤ byte && byte ≤ 0xBF
  else if lead == 0xED then 0x80 ≤ byte && byte ≤ 0x9F
  else if lead == 0xF0 then 0x90 ≤ byte && byte ≤ 0xBF
  else if lead == 0xF4 then 0x80 ≤ byte && byte ≤ 0x8F
  else isContinuation byte

/-- The payload bits of a continuation byte behind those gathered so far. -/
def appendBits (gathered : Nat) (byte : UInt8) : Nat :=
  gathered * 64 + byte.toNat % 64

/-- Bytes as text, with U+FFFD for what is no UTF-8. -/
def toChars : Bytes → Chars
  | [] => []
  | lead :: rest =>
    match sequenceLength lead with
    | 1 => Char.ofNat lead.toNat :: toChars rest
    | 2 =>
      match rest with
      | second :: after =>
        if isSecond lead second then
          Char.ofNat (appendBits (lead.toNat % 32) second) :: toChars after
        else replacement :: toChars (second :: after)
      | [] => [replacement]
    | 3 =>
      match rest with
      | second :: after =>
        if isSecond lead second then
          match after with
          | third :: after =>
            if isContinuation third then
              Char.ofNat (appendBits (appendBits (lead.toNat % 16) second) third) ::
                toChars after
            else replacement :: toChars (third :: after)
          | [] => [replacement]
        else replacement :: toChars (second :: after)
      | [] => [replacement]
    | 4 =>
      match rest with
      | second :: after =>
        if isSecond lead second then
          match after with
          | third :: after =>
            if isContinuation third then
              match after with
              | fourth :: after =>
                if isContinuation fourth then
                  Char.ofNat
                      (appendBits (appendBits (appendBits (lead.toNat % 8) second) third)
                        fourth) ::
                    toChars after
                else replacement :: toChars (fourth :: after)
              | [] => [replacement]
            else replacement :: toChars (third :: after)
          | [] => [replacement]
        else replacement :: toChars (second :: after)
      | [] => [replacement]
    | _ => replacement :: toChars rest

/-- Bytes as text, with U+FFFD for what is no UTF-8. -/
def toText (bytes : Bytes) : String :=
  String.ofList (toChars bytes)

/-- The UTF-8 bytes of a text. -/
def ofText (text : String) : Bytes :=
  text.toUTF8.toList

end Bytes

end ServerInventory

/-
This file gives the test whether a text is a UUID.
-/

import Sprawl.Text.Decimal

namespace Sprawl

/-- The text without the occurrences of a pattern. The count skips the rest of an occurrence. -/
def removeText (pattern : List Char) : Nat → List Char → List Char
  | _, [] => []
  | count + 1, _ :: rest => removeText pattern count rest
  | 0, char :: rest =>
      if pattern.isPrefixOf (char :: rest) then removeText pattern (pattern.length - 1) rest
      else char :: removeText pattern 0 rest

/-- The text without the given characters at its ends. -/
def stripChars (stripped : Char → Bool) (text : List Char) : List Char :=
  ((text.dropWhile stripped).reverse.dropWhile stripped).reverse

def isHexDigit (char : Char) : Bool :=
  char.isDigit || ('a' ≤ char && char ≤ 'f') || ('A' ≤ char && char ≤ 'F')

/-- Hexadecimal digits with single underscores between them. -/
def hexDigits : List Char → Bool
  | [] => false
  | [last] => isHexDigit last
  | char :: '_' :: rest => isHexDigit char && hexDigits rest
  | char :: rest => isHexDigit char && hexDigits rest

/-- Blanks may stand around the digits, with a sign and the prefix `0x` before them. -/
def isAsciiHex (text : List Char) : Bool :=
  let unsigned := match stripChars Text.isSpace text with
    | '+' :: rest => rest
    | digits => digits
  match unsigned with
  | '0' :: mark :: rest =>
      if mark = 'x' || mark = 'X' then
        match rest with
        | '_' :: digits => hexDigits digits
        | digits => hexDigits digits
      else hexDigits unsigned
  | digits => hexDigits digits

/-- `int(text, 16)` accepts the decimal digits and the blanks of all scripts. -/
def isHexLiteral (text : List Char) : Bool := (Text.asciiText? text).any isAsciiHex

/-- This is `_is_valid_uuid`. `uuid.UUID` drops the known prefixes, outer braces and hyphens, and
wants 32 characters of hexadecimal. -/
def isValidUuid (value : String) : Bool :=
  let plain := removeText "uuid:".toList 0 (removeText "urn:".toList 0 value.toList)
  let hex := (stripChars (fun char => char.toNat = 123 || char.toNat = 125) plain).filter
    fun char => char ≠ '-'
  hex.length = 32 && isHexLiteral hex

end Sprawl

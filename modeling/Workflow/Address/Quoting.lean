/-!
Characters that a part of an address cannot hold are replaced by the bytes of their encoding, each
as a percent sign and two digits.
-/

namespace Workflow.Address

inductive Part where
  | user
  | host
  | path
  | query
  | fragment
deriving DecidableEq, Repr

namespace Part

def unsafeCharacters : Part → List Char
  | .user =>
    [' ', '"', '#', '<', '>', '?', '\x60', '\x7b', '\x7d', '/', ';', '=', '@', '[', '\\', ']', '^',
      '|']
  | .host => [' ', '#', '<', '>', '?', '/', ':', '@', '[', ']', '^']
  | .path => [' ', '"', '#', '<', '>', '?', '\x60', '\x7b', '\x7d']
  | .query => [' ', '"', '#', '<', '>']
  | .fragment => [' ', '"', '<', '>', '\x60']

def keeps (part : Part) (c : Char) : Bool :=
  ' ' ≤ c && c ≤ '~' && !part.unsafeCharacters.contains c

end Part

def hexDigit (n : Nat) : Char := "0123456789ABCDEF".toList.getD n '0'

def percentByte (b : UInt8) : List Char := ['%', hexDigit (b.toNat / 16), hexDigit (b.toNat % 16)]

def percentCharacter (c : Char) : List Char := c.toString.toUTF8.toList.flatMap percentByte

def quote (part : Part) (cs : List Char) : List Char :=
  cs.flatMap fun c => if part.keeps c then [c] else percentCharacter c

end Workflow.Address

import Workflow.Address.Marks

/-!
The direction in which characters of host names are read. A label with a character that is read from
right to left is read so as a whole.
-/

namespace Workflow.Address

def rightToLeftRanges : List (Nat × Nat) :=
  [(0x5d0, 0x5ea), (0x5ef, 0x5f4), (0x620, 0x63f), (0x641, 0x64a), (0x66e, 0x66f), (0x671, 0x674),
  (0x679, 0x6d3), (0x6d5, 0x6d5), (0x6e5, 0x6e6), (0x6ee, 0x6ef), (0x6fa, 0x6ff), (0x710, 0x710),
  (0x712, 0x72f), (0x74d, 0x7a5), (0x7b1, 0x7b1), (0x7c0, 0x7ea), (0x7f4, 0x7f5), (0x800, 0x815),
  (0x81a, 0x81a), (0x824, 0x824), (0x828, 0x828), (0x840, 0x858), (0x860, 0x86a), (0x870, 0x887),
  (0x889, 0x88e), (0x8a0, 0x8c9), (0xfe73, 0xfe73), (0x10800, 0x10805), (0x10808, 0x10808),
  (0x1080a, 0x10835), (0x10837, 0x10838), (0x1083c, 0x1083c), (0x1083f, 0x10855),
  (0x10860, 0x10876), (0x10880, 0x1089e), (0x108e0, 0x108f2), (0x108f4, 0x108f5),
  (0x10900, 0x10915), (0x10920, 0x10939), (0x10980, 0x109b7), (0x109be, 0x109bf),
  (0x10a00, 0x10a00), (0x10a10, 0x10a13), (0x10a15, 0x10a17), (0x10a19, 0x10a35),
  (0x10a60, 0x10a7c), (0x10a80, 0x10a9c), (0x10ac0, 0x10ac7), (0x10ac9, 0x10ae4),
  (0x10b00, 0x10b35), (0x10b40, 0x10b55), (0x10b60, 0x10b72), (0x10b80, 0x10b91),
  (0x10c00, 0x10c48), (0x10cc0, 0x10cf2), (0x10d00, 0x10d23), (0x10e80, 0x10ea9),
  (0x10eb0, 0x10eb1), (0x10f00, 0x10f1c), (0x10f27, 0x10f27), (0x10f30, 0x10f45),
  (0x10f70, 0x10f81), (0x10fb0, 0x10fc4), (0x10fe0, 0x10ff6), (0x1e800, 0x1e8c4),
  (0x1e922, 0x1e943), (0x1e94b, 0x1e94b), (0x1e950, 0x1e959)]

def rightToLeftDigits : List (Nat × Nat) :=
  [(0x660, 0x669), (0x10d30, 0x10d39)]

def plainDigits : List (Nat × Nat) :=
  [(0x30, 0x39), (0x6f0, 0x6f9)]

def neutralRanges : List (Nat × Nat) :=
  [(0x2d, 0x2d), (0xb7, 0xb7), (0x2b9, 0x2ba), (0x2c6, 0x2cf), (0x2ec, 0x2ec), (0x375, 0x375),
  (0x200c, 0x200d), (0x2e2f, 0x2e2f), (0x30fb, 0x30fb), (0xa67f, 0xa67f), (0xa717, 0xa71f),
  (0xa788, 0xa788)]

def isRightToLeft (c : Char) : Bool := Text.inRanges rightToLeftRanges c

def isRightToLeftDigit (c : Char) : Bool := Text.inRanges rightToLeftDigits c

def isPlainDigit (c : Char) : Bool := Text.inRanges plainDigits c

def isDirected (c : Char) : Bool := isRightToLeft c || isRightToLeftDigit c

def suitsRightToLeft (c : Char) : Bool :=
  isDirected c || isPlainDigit c || isNonspacing c || Text.inRanges neutralRanges c

/-- A label that holds a character from a script that is read from right to left begins with a
letter of such a script, ends, but for marks, in a letter or digit, has digits of one kind, and
holds nothing that is read from left to right. -/
def hasOneDirection (label : List Char) : Bool :=
  let ending := (label.reverse.dropWhile isNonspacing).head?
  !label.any isDirected ||
    label.head?.any isRightToLeft && label.all suitsRightToLeft &&
      !(label.any isPlainDigit && label.any isRightToLeftDigit) &&
      ending.any fun c => isDirected c || isPlainDigit c

end Workflow.Address

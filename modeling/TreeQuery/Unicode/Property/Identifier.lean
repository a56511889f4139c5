import TreeQuery.Unicode.Category
import TreeQuery.Unicode.Property.Format

/-!
# Characters of names

What may start a name in a programming language, and what may follow; the
narrower sets stay the same when a name is normalised.
-/

namespace TreeQuery

namespace Unicode

def otherNameStarts : CharSet := ⟨#[
  (0x1885, 0x1886), (0x2118, 0x2118), (0x212E, 0x212E), (0x309B, 0x309C)]⟩

def nameStarts : CharSet :=
  (CharSet.unions [letters, letterNumbers, otherNameStarts]).difference
    patternSyntax

def otherNameParts : CharSet := ⟨#[
  (0xB7, 0xB7), (0x387, 0x387), (0x1369, 0x1371), (0x19DA, 0x19DA), (0x200C, 0x200D),
  (0x30FB, 0x30FB), (0xFF65, 0xFF65)]⟩

def nameParts : CharSet :=
  .unions [nameStarts, nonspacingMarks, spacingMarks, decimalDigits, connectors,
    otherNameParts]

/-- Parts of names that become something else when they are normalised. -/
def unstableNameParts : CharSet := ⟨#[
  (0x37A, 0x37A), (0x309B, 0x309C), (0xFC5E, 0xFC63), (0xFDFA, 0xFDFB),
  (0xFE70, 0xFE70), (0xFE72, 0xFE72), (0xFE74, 0xFE74), (0xFE76, 0xFE76),
  (0xFE78, 0xFE78), (0xFE7A, 0xFE7A), (0xFE7C, 0xFE7C), (0xFE7E, 0xFE7E)]⟩

def unstableNameStarts : CharSet := ⟨#[
  (0x37A, 0x37A), (0xE33, 0xE33), (0xEB3, 0xEB3), (0x309B, 0x309C), (0xFC5E, 0xFC63),
  (0xFDFA, 0xFDFB), (0xFE70, 0xFE70), (0xFE72, 0xFE72), (0xFE74, 0xFE74),
  (0xFE76, 0xFE76), (0xFE78, 0xFE78), (0xFE7A, 0xFE7A), (0xFE7C, 0xFE7C),
  (0xFE7E, 0xFE7E), (0xFF9E, 0xFF9F)]⟩

end Unicode

end TreeQuery

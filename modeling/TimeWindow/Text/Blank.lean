import TimeWindow.Text.Basic

set_option autoImplicit false

/-!
# Blank code points

The code points that surround a timestamp without meaning anything: those of the bidirectional
classes WS, B and S or of category Zs.

## Main definitions

* `TimeWindow.CodePoint.isBlank` — membership in the class.
* `TimeWindow.Text.strip` — a text without the blanks at its two ends.
-/

namespace TimeWindow

/-- The **blanks**: tab to carriage return, the four information separators, the space, and the
separators outside ASCII. -/
def CodePoint.isBlank (c : CodePoint) : Bool :=
  c.inRange 0x09 0x0D || c.inRange 0x1C 0x20 || c.val == 0x85 || c.val == 0xA0 ||
    c.val == 0x1680 || c.inRange 0x2000 0x200A || c.inRange 0x2028 0x2029 || c.val == 0x202F ||
    c.val == 0x205F || c.val == 0x3000

/-- A text without the blanks at its two ends. -/
def Text.strip (t : Text) : Text :=
  t.stripBy CodePoint.isBlank

end TimeWindow

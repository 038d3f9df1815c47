/-
  Visible characters
  ==================
  A character is visible if it shows something on its own.  What is not printable
  does not, nor does a character that continues the one in front of it.

  Two small sets of letters need a rule of their own.  The fillers stand for a part
  of a syllable that is not there, and show nothing.  The halfwidth sound marks
  continue the letter in front of them, but take a cell of their own.
-/
import ManagedRuntime.Text.GraphemeExtend
import ManagedRuntime.Text.Printable

namespace ManagedRuntime.Text

/-- The ranges of the letters that show nothing. -/
def fillerRanges : Ranges :=
  [(0x115f, 0x1160), (0x3164, 0x3164), (0xffa0, 0xffa0)]

/-- The ranges of the extending letters that have a cell of their own. -/
def halfwidthMarkRanges : Ranges :=
  [(0xff9e, 0xff9f)]

/-- Whether a character is shown with the one in front of it, in one cell. -/
def isCombining (c : Char) : Bool :=
  isGraphemeExtend c && !halfwidthMarkRanges.contains c

def isVisible (c : Char) : Bool :=
  isPrintable c && !isCombining c && !fillerRanges.contains c

end ManagedRuntime.Text

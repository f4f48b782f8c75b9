import Scaffold.Text.Table.Alphabetic
import Scaffold.Text.Table.Numeric

/-!
# Letters and digits of every script
-/

namespace Scaffold.Text

def isAlphabetic (c : Char) : Bool := Table.alphabetic.has c

def isNumeric (c : Char) : Bool := Table.numeric.has c

def isAlphanumeric (c : Char) : Bool := isAlphabetic c || isNumeric c

end Scaffold.Text

import Scriptlet.Syntax
import Scriptlet.Token

/-!
# Precedence

The binary operators form five levels, from the loosest to the tightest:

    membership      in, not in
    equality        ==
    relational      >  >=  <  <=
    additive        +  -
    multiplicative  *  /

Each level takes its operands from the next tighter one and groups to the left.
-/

namespace Scriptlet

/-- The levels of the binary operators. -/
inductive Level where
  | membership
  | equality
  | relational
  | additive
  | multiplicative
deriving DecidableEq, Repr, Inhabited

namespace Level

/-- The level from which the operands are taken. The operands of the tightest have no level. -/
def tighter : Level → Option Level
  | membership => some equality
  | equality => some relational
  | relational => some additive
  | additive => some multiplicative
  | multiplicative => none

def looseness : Level → Nat
  | membership => 4
  | equality => 3
  | relational => 2
  | additive => 1
  | multiplicative => 0

theorem looseness_of_tighter {l m : Level} (h : l.tighter = some m) :
    m.looseness < l.looseness := by
  cases l <;> cases h <;> decide

theorem looseness_le (l : Level) : l.looseness ≤ 4 := by
  cases l <;> decide

end Level

namespace Operator

/-- The level to which an operator belongs. -/
def level : Operator → Level
  | isIn | notIn => .membership
  | equal => .equality
  | greater | greaterEqual | less | lessEqual => .relational
  | add | sub => .additive
  | mul | div => .multiplicative

/-- The binary operator that a token of this kind is. -/
def ofKind : Token.Kind → Option Operator
  | .inWord => some isIn
  | .notIn => some notIn
  | .equalEqual => some equal
  | .greater => some greater
  | .greaterEqual => some greaterEqual
  | .less => some less
  | .lessEqual => some lessEqual
  | .plus => some add
  | .minus => some sub
  | .star => some mul
  | .slash => some div
  | _ => none

end Operator

end Scriptlet

/-
  Tagdown.Search.Pattern

  Patterns to search for in a text.
-/

import Tagdown.Search.Meaning
import Tagdown.Search.Reader
import Tagdown.Search.Size

namespace Tagdown
namespace Search

namespace Expression

/-- The expression for the pattern that a text writes, if it is well formed, has
    a meaning and does not take up too much memory. -/
def ofText (t : Text) : Except Fault Expression := do
  let term ← Term.ofText t
  let (e, _) ← term.meaning .initial
  if e.fits sizeLimit then return e else throw .tooLarge

end Expression
end Search
end Tagdown

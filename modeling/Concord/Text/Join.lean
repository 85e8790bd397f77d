/-!
# Joined texts
-/

namespace Concord.Text

/-- The texts in order, with a separator between every two neighbours. -/
def joinWith (separator : String) : List String → String
  | [] => ""
  | [text] => text
  | text :: next :: others => text ++ separator ++ joinWith separator (next :: others)

end Concord.Text

import AifyComms.PyText

/-!
The text operations the bridge applies to free-text fields. What `trim` removes is
JavaScript's white space and line terminators, which is not what Python's `strip` removes.
-/

namespace AifyComms.JsText

def isSpace (c : Char) : Bool :=
  let n := c.toNat
  (0x09 ≤ n && n ≤ 0x0d) || n == 0x20 || n == 0xa0 || n == 0x1680 ||
    (0x2000 ≤ n && n ≤ 0x200a) || n == 0x2028 || n == 0x2029 || n == 0x202f || n == 0x205f ||
    n == 0x3000 || n == 0xfeff

def trim (text : String) : String :=
  String.ofList ((text.toList.dropWhile isSpace).reverse.dropWhile isSpace).reverse

/-- `a || b || ...`, of strings. -/
def firstTruthy (texts : List String) : String := (texts.find? fun text => decide (text ≠ "")).getD ""

theorem trim_trim (text : String) : trim (trim text) = trim text := by
  have again : trim (trim text) =
      String.ofList ((((text.toList.dropWhile isSpace).rdropWhile isSpace).dropWhile
        isSpace).rdropWhile isSpace) := by
    rw [trim, trim, String.toList_ofList, List.rdropWhile, List.rdropWhile]
  rw [again, PyText.dropWhile_ends_idempotent, trim, List.rdropWhile]

end AifyComms.JsText

import ThreatHunt.Pattern.Basic
import ThreatHunt.Value.Text

/-!
Texts of patterns: the text as written, and the normal text in which the order and repetition of
parts and list items make no difference.
-/

namespace ThreatHunt

/-- Texts in their order, each once. -/
def sortedTexts (texts : List String) : List String :=
  let sorted := texts.mergeSort (fun a b => !(b < a))
  sorted.foldr (fun s rest => if rest.head? = some s then rest else s :: rest) []

/-- The text of a comparison; the items of a list are sorted. -/
def Comparison.text (c : Comparison) : String :=
  let head := c.attr ++ " " ++ c.operator.sign
  match c.operator, c.operand with
  | .isNull, _ | .isNotNull, _ | _, .absent => head
  | _, .list items =>
    head ++ " (" ++ ", ".intercalate (sortedTexts (items.map Value.literal)) ++ ")"
  | _, .value v => head ++ " " ++ v.literal
  | _, .reference var attr => head ++ " " ++ var ++ "." ++ attr

namespace Pattern

mutual

/-- The text with all groups in parentheses. -/
def text : Pattern → String
  | .all parts => "(" ++ " AND ".intercalate (partTexts parts) ++ ")"
  | .any parts => "(" ++ " OR ".intercalate (partTexts parts) ++ ")"
  | .negation part => "NOT " ++ text part
  | .test c => c.text

def partTexts : List Pattern → List String
  | [] => []
  | part :: rest => text part :: partTexts rest

end

/-- Joins the sorted texts of a group; one text stands for itself. -/
def joinParts (separator : String) (texts : List String) : String :=
  match sortedTexts texts with
  | [one] => one
  | many => "(" ++ separator.intercalate many ++ ")"

mutual

/-- The normal text, the same for all orders and repetitions of the parts of a group. -/
def normalText : Pattern → String
  | .all parts => joinParts " AND " (normalTexts parts)
  | .any parts => joinParts " OR " (normalTexts parts)
  | .negation part => "NOT " ++ normalText part
  | .test c => c.text

def normalTexts : List Pattern → List String
  | [] => []
  | part :: rest => normalText part :: normalTexts rest

end

end Pattern
end ThreatHunt

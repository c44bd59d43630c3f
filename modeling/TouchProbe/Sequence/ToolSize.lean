import TouchProbe.Sequence.Settings

/-! # Tool sizes

The size of a tool as people write it: `3.2mm`, `0.25`, or a fraction of an inch such as `3/8`.
Sizes are converted to millimetres; what cannot be read has size zero.
-/

namespace TouchProbe.ToolSize

open Number

def inch : Float := nearestDecimal false 254 (-1)

/-- The number at the front of a text, or zero. -/
def leading (text : String) : Float :=
  match scientific? (Text.trimStart text.toList) with
  | some (n, _) => n.toFloat
  | none => zero

/-- The number that a whole text is; an empty one is zero. -/
def strict? (text : List Char) : Option Float :=
  match Text.trim text with
  | [] => some zero
  | s => float? (String.ofList s)

/-- The size in millimetres of a text in a unit that may be any name. -/
def parse (text unit : String) : Float :=
  match ToolUnit.ofName? unit with
  | some .mm => leading text
  | some .inch => leading text * inch
  | some .fraction =>
    match Text.splitOn '/' text.toList with
    | num :: den :: _ =>
      match strict? num, strict? den with
      | some a, some b => if isZero b then zero else a / b * inch
      | _, _ => zero
    | _ => zero
  | none => zero

/-- The size in millimetres of any value in any unit.  A value that is no text has a size only
where the unit is none that is known. -/
def ofDatum (d unit : Datum) : Except Fault Float :=
  let unit := match unit with
    | .text u => u
    | _ => ""
  match d, ToolUnit.ofName? unit with
  | .text s, _ => .ok (parse s unit)
  | _, some .fraction => .error .noSuchMember
  | _, some _ => .error .wrongKind
  | _, none => .ok zero

end TouchProbe.ToolSize

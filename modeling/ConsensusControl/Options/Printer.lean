import ConsensusControl.Decimal.Style
import ConsensusControl.Options.Field
import ConsensusControl.Text.Quoted

namespace ConsensusControl

namespace OptionField

/-- Numbers from `10 ^ -4` up to below `10 ^ 16` are written without an exponent, and a tie goes up. -/
def style : NumberStyle where
  tie := .up
  smallest := -4
  largest := 16
  plus := ""
  nan := "NaN"
  infinity := "inf"
  negativeInfinity := "-inf"

def render (o : Options Float) : OptionField Float → String
  | number _ get _ => style.render (get o)
  | count _ get _ => Nat.repr (get o)
  | flag _ get _ => if get o then "true" else "false"
  | text _ get _ => Text.quote (get o)

end OptionField

namespace Options

/-- A document with all options, one on a line. -/
def toText (o : Options Float) : String :=
  "(\n" ++ String.join (fields.map fun f => "    " ++ f.name ++ ": " ++ f.render o ++ ",\n") ++ ")"

end Options

end ConsensusControl

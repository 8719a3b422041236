import TurtleSystems.Text.Width

/-!
# Rows of a screen

A row of a screen is made of cells, one for each column.  A cluster stands in
the first of the cells that it takes and leaves the others blank; a cluster
that takes none is not shown.
-/

namespace TurtleSystems.Terminal.Row

/-- The clusters of a text that can stand in a row.  A line feed cannot. -/
def clusters (text : Text) : List Text :=
  (Text.clusters text).filter (· ≠ ['\n'])

/-- The clusters in front that fit into a number of columns. -/
def fitting : (columns : Nat) → List Text → List Text
  | _, [] => []
  | columns, cluster :: others =>
    let width := Text.Width.ofCluster cluster
    if width ≤ columns then cluster :: fitting (columns - width) others
    else []

def cells (cluster : Text) : Text :=
  match Text.Width.ofCluster cluster with
  | 0 => []
  | others + 1 => cluster ++ List.replicate others ' '

/-- The text of a row, without the blanks at its end. -/
def shown (clusters : List Text) : Text :=
  Text.trimEnd (clusters.flatMap cells)

/-- Whether a row may be broken at a cluster. -/
def isGap (cluster : Text) : Bool :=
  cluster == ['\u200b'] ||
    (cluster.all Text.isBlank && cluster != ['\u00a0'])

/-- The rows of a line in a panel that breaks long lines.  A line of gaps is
broken once, so it has an empty row in front. -/
def ofLine (line : Text) : List Text :=
  let clusters := clusters line
  let row := shown clusters
  if !clusters.isEmpty && clusters.all isGap then [[], row] else [row]

end TurtleSystems.Terminal.Row

import PullStreams.Render
import PullStreams.Csv.Row
import PullStreams.Csv.Fault

namespace PullStreams.Csv

/-- A row for each record; the header comes with the first of them. `encode` is told whether a
header is wanted. -/
def rowsFormat {α : Type u} (options : Options)
    (encode : Separator → Bool → α → Except Fault Bytes) : Format α where
  record count a := (encode options.separator (options.hasHeaders && count = 0) a).mapError .csv

end PullStreams.Csv

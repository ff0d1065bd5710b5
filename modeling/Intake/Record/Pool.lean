import Intake.Record.Reader

/-!
# A pool of record readers

Readers are handed out and come back empty-handed. The one that came back last is handed out first;
a new one is made only when none is idle.
-/

namespace Intake

/-- The readers that are idle, last returned first, and how many were ever made. -/
structure ReaderPool where
  idle : List RecordReader := []
  created : Nat := 0

namespace ReaderPool

/-- Hand out a reader. -/
def take (pool : ReaderPool) : RecordReader × ReaderPool :=
  match pool.idle with
  | reader :: rest => (reader, { pool with idle := rest })
  | [] => ({}, { pool with created := pool.created + 1 })

/-- Take a reader back. It lets go of its record. -/
def giveBack (pool : ReaderPool) (reader : RecordReader) : ReaderPool :=
  { pool with idle := reader.release :: pool.idle }

end ReaderPool

end Intake

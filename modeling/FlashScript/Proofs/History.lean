/-
How the stateless reading of a firmware text grows with one more record.  Only
a data record moves the address reached, and only an extended address moves the
half of the address space.
-/

import FlashScript.Firmware
import FlashScript.Proofs.Words

namespace FlashScript.Firmware

/-- The words that a data record asks for, after the records before it. -/
def runOf (earlier : List Record) (record : Record) : DataRun :=
  { address := effectiveAddress earlier record
    words := Word.ofBytes record.payload }

theorem limit_runOf (earlier : List Record) (record : Record) :
    (runOf earlier record).limit =
      effectiveAddress earlier record + record.payload.length / 2 := by
  rw [DataRun.limit, runOf, Word.length_ofBytes]

theorem records_append (earlier later : List String) :
    records (earlier ++ later) = records earlier ++ records later :=
  List.filterMap_append

theorem records_append_ok {line : String} {record : Record}
    (parsed : Record.parse line = .ok record) (earlier : List String) :
    records (earlier ++ [line]) = records earlier ++ [record] := by
  rw [records_append]
  simp [records, parsed, Except.toOption]

theorem records_append_error {line : String} {error : RecordError}
    (parsed : Record.parse line = .error error) (earlier : List String) :
    records (earlier ++ [line]) = records earlier := by
  rw [records_append]
  simp [records, parsed, Except.toOption]

/-! ### Data records -/

theorem dataRunsAfter_append (earlier middle later : List Record) :
    dataRunsAfter earlier (middle ++ later) =
      dataRunsAfter earlier middle ++ dataRunsAfter (earlier ++ middle) later := by
  induction middle generalizing earlier with
  | nil => rw [List.nil_append, List.append_nil, dataRunsAfter, List.nil_append]
  | cons record rest inductionHypothesis =>
      simp only [List.cons_append, dataRunsAfter, inductionHypothesis,
        List.append_assoc, List.nil_append]
      split <;> rfl

theorem dataRuns_append_data {record : Record} (data : record.recordType = 0)
    (earlier : List Record) :
    dataRuns (earlier ++ [record]) = dataRuns earlier ++ [runOf earlier record] := by
  rw [dataRuns, dataRunsAfter_append, List.nil_append]
  simp only [dataRunsAfter, if_pos data, dataRuns, runOf]

theorem dataRuns_append_other {record : Record} (other : record.recordType ≠ 0)
    (earlier : List Record) :
    dataRuns (earlier ++ [record]) = dataRuns earlier := by
  rw [dataRuns, dataRunsAfter_append, List.nil_append]
  simp only [dataRunsAfter, if_neg other, dataRuns, List.append_nil]

theorem reached_append_data {record : Record} (data : record.recordType = 0)
    (earlier : List Record) :
    reached (earlier ++ [record]) = (runOf earlier record).limit := by
  rw [reached, dataRuns_append_data data, List.getLast?_concat]

theorem reached_append_other {record : Record} (other : record.recordType ≠ 0)
    (earlier : List Record) :
    reached (earlier ++ [record]) = reached earlier := by
  rw [reached, dataRuns_append_other other, reached]

theorem stores_append (earlier later : List DataRun) :
    stores (earlier ++ later) = stores earlier ++ stores later :=
  List.flatMap_append

theorem stores_singleton (run : DataRun) :
    stores [run] = Store.consecutive run.address run.words := by
  simp only [stores, List.flatMap_cons, List.flatMap_nil, List.append_nil]

/-! ### Extended addresses -/

theorem extension_append_extended {record : Record}
    (extended : record.recordType = 4) (earlier : List Record) :
    extension (earlier ++ [record]) = (record.payload.getLastD 0).toNat := by
  rw [extension, List.reverse_append, List.reverse_singleton,
    List.singleton_append, List.find?_cons_of_pos (by simp [extended])]

theorem extension_append_other {record : Record} (other : record.recordType ≠ 4)
    (earlier : List Record) :
    extension (earlier ++ [record]) = extension earlier := by
  rw [extension, List.reverse_append, List.reverse_singleton,
    List.singleton_append, List.find?_cons_of_neg (by simp [other]), extension]

end FlashScript.Firmware

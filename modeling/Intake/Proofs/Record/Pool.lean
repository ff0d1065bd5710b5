import Intake.Record.Pool
import Mathlib.Algebra.BigOperators.Group.List.Basic
import Mathlib.Algebra.GroupWithZero.Nat
import Mathlib.Data.List.Induction
import Mathlib.Data.List.Perm.Basic
import Mathlib.Order.Bounds.Basic

/-!
# Readers on loan

Any number of holders borrow readers from one pool, read records with them and give them back, in
any order. `Loans.accounts_of_history` says what holds after every such history: no reader is lost,
the pool made as many as were ever out at once, and what a holder reads does not depend on who held
its reader before.
-/

namespace Intake

/-- A pool and the readers that are out. -/
structure Loans where
  pool : ReaderPool := {}
  /-- The readers that are out, the one lent last in front. -/
  out : List RecordReader := []

/-- What holders do. A holder is named by the position of its reader among those that are out. -/
inductive LoanRequest where
  | borrow
  | read (holder : Nat) (bytes : List UInt8)
  | giveBack (holder : Nat)

namespace RecordReader

/-- A reader counts the records that it reads, and nothing else. -/
theorem count_read (reader : RecordReader) (bytes : List UInt8) :
    (reader.read bytes).2.count =
      reader.count + [(reader.read bytes).1].countP Except.isOk := by
  unfold read
  cases Json.read bytes with
  | error fault => rfl
  | ok value =>
    dsimp only
    cases Record.ofJson value <;> rfl

@[simp] theorem count_release (reader : RecordReader) : reader.release.count = reader.count := rfl

@[simp] theorem holdsRecord_release (reader : RecordReader) :
    reader.release.holdsRecord = false := rfl

end RecordReader

namespace Loans

/-- Do what a holder asks for, with the outcome if it reads. Nothing happens where there is no such
holder. -/
def serve (loans : Loans) : LoanRequest → Option (Except Failure Record) × Loans
  | .borrow => (none, { pool := loans.pool.take.2, out := loans.pool.take.1 :: loans.out })
  | .read holder bytes =>
    match loans.out[holder]? with
    | some reader =>
      (some (reader.read bytes).1, { loans with out := loans.out.set holder (reader.read bytes).2 })
    | none => (none, loans)
  | .giveBack holder =>
    match loans.out[holder]? with
    | some reader =>
      (none, { pool := loans.pool.giveBack reader, out := loans.out.eraseIdx holder })
    | none => (none, loans)

/-- The outcomes of the readings in a history that begins with a new pool, and the loans after
it. -/
def run (history : List LoanRequest) : List (Except Failure Record) × Loans :=
  history.foldl
    (fun done request => (done.1 ++ (done.2.serve request).1.toList, (done.2.serve request).2))
    ([], {})

/-- The loans after a history. -/
def after (history : List LoanRequest) : Loans := (run history).2

/-- The outcomes of the readings in a history. -/
def outcomes (history : List LoanRequest) : List (Except Failure Record) := (run history).1

@[simp] theorem after_nil : after [] = {} := rfl

@[simp] theorem outcomes_nil : outcomes [] = [] := rfl

@[simp] theorem after_concat (history : List LoanRequest) (request : LoanRequest) :
    after (history ++ [request]) = ((after history).serve request).2 := by
  simp [after, run]

@[simp] theorem outcomes_concat (history : List LoanRequest) (request : LoanRequest) :
    outcomes (history ++ [request]) =
      outcomes history ++ ((after history).serve request).1.toList := by
  simp [outcomes, after, run]

/-- Every reader that was made is idle or out, and idle readers have let go of their records. -/
structure Sound (loans : Loans) : Prop where
  created_eq : loans.pool.created = loans.pool.idle.length + loans.out.length
  released : ∀ reader ∈ loans.pool.idle, reader.holdsRecord = false

/-- The records that all readers together have counted. -/
def counted (loans : Loans) : Nat :=
  (loans.pool.idle.map RecordReader.count).sum + (loans.out.map RecordReader.count).sum

variable {loans : Loans}

/-- A holder's reader is one of those that are out, and the others stay out without it. -/
theorem perm_out {holder : Nat} {reader : RecordReader} (held : loans.out[holder]? = some reader) :
    holder < loans.out.length ∧ loans.out.Perm (reader :: loans.out.eraseIdx holder) := by
  obtain ⟨inside, rfl⟩ := List.getElem?_eq_some_iff.1 held
  exact ⟨inside, (List.getElem_cons_eraseIdx_perm inside).symm⟩

/-- No request loses a reader, and none that is idle holds a record. -/
theorem Sound.serve (sound : loans.Sound) (request : LoanRequest) :
    (loans.serve request).2.Sound := by
  obtain ⟨created, released⟩ := sound
  cases request with
  | borrow =>
    cases idle : loans.pool.idle with
    | nil =>
      constructor
      · simp [Loans.serve, ReaderPool.take, idle, created]
      · simp [Loans.serve, ReaderPool.take, idle]
    | cons reader rest =>
      constructor
      · simp [Loans.serve, ReaderPool.take, idle, created]
        omega
      · simp only [Loans.serve, ReaderPool.take, idle]
        intro other inside
        exact released other (idle ▸ List.mem_cons_of_mem reader inside)
  | read holder bytes =>
    cases held : loans.out[holder]? with
    | none =>
      simp only [Loans.serve, held]
      exact ⟨created, released⟩
    | some reader =>
      constructor
      · simp [Loans.serve, held, created]
      · simpa [Loans.serve, held] using released
  | giveBack holder =>
    cases held : loans.out[holder]? with
    | none =>
      simp only [Loans.serve, held]
      exact ⟨created, released⟩
    | some reader =>
      obtain ⟨inside, -⟩ := perm_out held
      constructor
      · simp [Loans.serve, ReaderPool.giveBack, created, List.length_eraseIdx, inside]
        omega
      · simpa [Loans.serve, held, ReaderPool.giveBack] using released

/-- A reader is made only where more are then out than ever were made. -/
theorem Sound.created_serve (sound : loans.Sound) (request : LoanRequest) :
    (loans.serve request).2.pool.created =
      max (loans.serve request).2.out.length loans.pool.created := by
  have balanced := sound.created_eq
  have balanced' := (sound.serve request).created_eq
  cases request with
  | borrow =>
    cases idle : loans.pool.idle with
    | nil =>
      simp [Loans.serve, ReaderPool.take, idle] at balanced ⊢
      omega
    | cons reader rest =>
      simp [Loans.serve, ReaderPool.take, idle] at balanced ⊢
      omega
  | read holder bytes =>
    have kept : (loans.serve (.read holder bytes)).2.pool = loans.pool := by
      unfold Loans.serve
      dsimp only
      split <;> rfl
    rw [kept] at balanced' ⊢
    omega
  | giveBack holder =>
    have kept : (loans.serve (.giveBack holder)).2.pool.created = loans.pool.created := by
      unfold Loans.serve
      dsimp only
      split <;> rfl
    rw [kept] at balanced' ⊢
    omega

/-- What the readers have counted grows by one with each record that is read. -/
theorem counted_serve (loans : Loans) (request : LoanRequest) :
    (loans.serve request).2.counted =
      loans.counted + (loans.serve request).1.toList.countP Except.isOk := by
  cases request with
  | borrow =>
    cases idle : loans.pool.idle with
    | nil => simp [Loans.serve, ReaderPool.take, idle, counted]
    | cons reader rest =>
      simp [Loans.serve, ReaderPool.take, idle, counted]
      omega
  | read holder bytes =>
    cases held : loans.out[holder]? with
    | none => simp [Loans.serve, held]
    | some reader =>
      obtain ⟨inside, before⟩ := perm_out held
      have after := List.set_perm_cons_eraseIdx inside (reader.read bytes).2
      have counts := reader.count_read bytes
      simp only [Loans.serve, held, counted, (before.map RecordReader.count).sum_eq,
        (after.map RecordReader.count).sum_eq, List.map_cons, List.sum_cons, Option.toList_some]
      omega
  | giveBack holder =>
    cases held : loans.out[holder]? with
    | none => simp [Loans.serve, held]
    | some reader =>
      obtain ⟨-, before⟩ := perm_out held
      simp [Loans.serve, held, counted, ReaderPool.giveBack,
        (before.map RecordReader.count).sum_eq]
      omega

/-- Whoever held a reader before, what it answers depends on the text alone. -/
theorem outcome_serve (loans : Loans) (holder : Nat) (bytes : List UInt8) :
    (loans.serve (.read holder bytes)).1 =
      loans.out[holder]?.map fun _ => (({} : RecordReader).read bytes).1 := by
  cases held : loans.out[holder]? with
  | none => simp [Loans.serve, held]
  | some reader => simp [Loans.serve, held, RecordReader.read_fst]

theorem sound_after (history : List LoanRequest) : (after history).Sound := by
  induction history using List.reverseRecOn with
  | nil => exact ⟨rfl, nofun⟩
  | append_singleton history request ih =>
    rw [after_concat]
    exact ih.serve request

/-- As many readers were made as were ever out at once. -/
theorem isGreatest_created (history : List LoanRequest) :
    IsGreatest {count | ∃ earlier, earlier <+: history ∧ (after earlier).out.length = count}
      (after history).pool.created := by
  induction history using List.reverseRecOn with
  | nil => simp [IsGreatest, upperBounds]
  | append_singleton history request ih =>
    have moments :
        {count | ∃ earlier, earlier <+: history ++ [request] ∧ (after earlier).out.length = count} =
          insert (after (history ++ [request])).out.length
            {count | ∃ earlier, earlier <+: history ∧ (after earlier).out.length = count} := by
      ext count
      simp only [List.prefix_concat_iff, or_and_right, exists_or, exists_eq_left,
        Set.mem_ofPred_eq, Set.mem_insert_iff, eq_comm]
    rw [moments, after_concat, (sound_after history).created_serve request]
    exact ih.insert _

theorem counted_after (history : List LoanRequest) :
    (after history).counted = (outcomes history).countP Except.isOk := by
  induction history using List.reverseRecOn with
  | nil => rfl
  | append_singleton history request ih =>
    rw [after_concat, outcomes_concat, counted_serve, List.countP_append, ih]

/-- What a pool of readers guarantees after any history of borrowing, reading and giving back.

Every reader that was made is idle or out, and as many were made as were ever out at once. Idle
readers, and so the next one that is lent, hold no record. The counts of all readers add up to the
number of records that were ever read. Whatever came before, a holder reads what a new reader would
read from the same text: the same record, or the same failure. -/
theorem accounts_of_history (history : List LoanRequest) :
    (after history).pool.created =
      (after history).pool.idle.length + (after history).out.length ∧
    IsGreatest {count | ∃ earlier, earlier <+: history ∧ (after earlier).out.length = count}
      (after history).pool.created ∧
    (∀ reader ∈ (after history).pool.idle, reader.holdsRecord = false) ∧
    (after history).pool.take.1.holdsRecord = false ∧
    (((after history).pool.idle ++ (after history).out).map RecordReader.count).sum =
      (outcomes history).countP Except.isOk ∧
    ∀ holder bytes, ((after history).serve (.read holder bytes)).1 =
      (after history).out[holder]?.map fun _ => (({} : RecordReader).read bytes).1 := by
  obtain ⟨created, released⟩ := sound_after history
  refine ⟨created, isGreatest_created history, released, ?_, ?_, outcome_serve _⟩
  · cases idle : (after history).pool.idle with
    | nil => simp [ReaderPool.take, idle, RecordReader.holdsRecord, Json.kind]
    | cons reader rest =>
      simp only [ReaderPool.take, idle]
      exact released reader (idle ▸ List.mem_cons_self)
  · rw [List.map_append, List.sum_append]
    exact counted_after history

end Loans

end Intake

import Teale.Gateway.Frame

/-!
# The device ledger only grows

`ledger.rs` never updates a row of `ledger` and deletes rows only in `reset_genesis`.
-/

namespace Teale.Gateway

open Relational Transactional

/-- The rows of the first ledger are the first rows of the second. -/
def LedgerGrows (db db' : Db) : Prop := db.ledger.rows <+: db'.ledger.rows

variable {sha256 : String → String} {db db' : Db} {call : Call}

theorem execute_ledgerAppends (notReset : call ≠ .resetGenesis)
    (ran : execute sha256 db call = .ok db') : LedgerAppends db db' := by
  by_cases other : call.changesDirectory = false
  · exact (execute_alters other ran).ledger
  · have listed : .ledger ∉ writes call := by
      cases call with
      | linkDeviceToAccount => simp [writes]
      | accountUserIdForLogin => simp [writes]
      | resetGenesis => exact absurd rfl notReset
      | _ => exact absurd rfl other
    exact .none ((execute_within ran).read (·.ledger) fun _ => if_neg listed)

theorem execute_ledgerGrows (notReset : call ≠ .resetGenesis)
    (ran : execute sha256 db call = .ok db') : LedgerGrows db db' := by
  obtain ⟨rows, appended⟩ := execute_ledgerAppends notReset ran
  rw [LedgerGrows, appended]
  exact db.ledger.rows_prefix_appendAll rows

end Teale.Gateway

import Teale.Gateway.Frame

/-!
# What a run does to account balances

The changes of account balances, read off the states before and after each call of a run.
-/

namespace Teale.Gateway

open Relational Transactional List

/-- The accounts whose credits differ between two states, with the change. -/
def balanceChanges (db db' : Db) : List (AccountUserId × ℤ) :=
  db'.accountWallets.rows.filterMap fun entry =>
    if entry.2.balanceCredits = db.creditsOf entry.1 then none
    else some (entry.1, entry.2.balanceCredits - db.creditsOf entry.1)

def accountEvents (sha256 : String → String) (selected : Call → Bool) :
    Db → List Call → List (Call × AccountUserId × ℤ)
  | _, [] => []
  | db, call :: calls =>
    let db' := commit (execute sha256) db call
    (if selected call then
        (balanceChanges db db').map fun change => (call, change)
      else []) ++
      accountEvents sha256 selected db' calls

/-! ## Changes of one step -/

theorem balanceChanges_of_same (same : db'.accountWallets = db.accountWallets) :
    balanceChanges db db' = [] := by
  refine filterMap_eq_nil_iff.mpr fun entry listed => ?_
  have found := Table.mem_rows_iff_find?.mp listed
  rw [same] at found
  simp [Db.creditsOf, found]

theorem balanceChanges_self (db : Db) : balanceChanges db db = [] := balanceChanges_of_same rfl

theorem balanceChanges_of_one {db db' : Db} {account : AccountUserId}
    {before after : AccountWalletRow} (foundBefore : db.accountWallets.find? account = some before)
    (foundAfter : db'.accountWallets.find? account = some after)
    (elsewhere : ∀ other, other ≠ account →
      db'.accountWallets.find? other = db.accountWallets.find? other) : balanceChanges db db' =
      if after.balanceCredits = before.balanceCredits then []
      else [(account, after.balanceCredits - before.balanceCredits)] := by
  have unchanged : ∀ other row, db'.accountWallets.find? other = some row →
      other ≠ account → row.balanceCredits = db.creditsOf other := by
    intro other row foundOther different
    rw [elsewhere other different] at foundOther
    simp [Db.creditsOf, foundOther]
  have credits : db.creditsOf account = before.balanceCredits := by
    simp [Db.creditsOf, foundBefore]
  split
  case isTrue same =>
    refine filterMap_eq_nil_iff.mpr fun entry listed => ?_
    have foundEntry := Table.mem_rows_iff_find?.mp listed
    by_cases isAccount : entry.1 = account
    · rw [isAccount, foundAfter] at foundEntry
      rw [← Option.some.inj foundEntry, isAccount, credits, if_pos same]
    · rw [if_pos (unchanged entry.1 entry.2 foundEntry isAccount)]
  case isFalse different =>
    refine Table.filterMap_rows_eq_singleton foundAfter ?_ ?_
    · rw [credits, if_neg different]
    · intro other row foundOther isOther
      rw [if_pos (unchanged other row foundOther isOther)]

/-! ## Events of a run -/

theorem accountEvents_cons
    (sha256 : String → String) (selected : Call → Bool) (db : Db) (call : Call)
    (calls : List Call) : accountEvents sha256 selected db (call :: calls) = (if selected call then
          (balanceChanges db (commit (execute sha256) db call)).map fun change => (call, change)
        else []) ++ accountEvents sha256 selected (commit (execute sha256) db call) calls :=
  rfl

theorem accountEvents_eq_nil (quiet : Db → Prop) {allowed : Call → Prop}
    (kept : ∀ db call, allowed call → quiet db → quiet (commit (execute sha256) db call))
    (silent : ∀ db call, allowed call → quiet db → selected call = true →
      balanceChanges db (commit (execute sha256) db call) = [])
    (each : ∀ call ∈ calls, allowed call) (initially : quiet db) :
    accountEvents sha256 selected db calls = [] := by
  induction calls generalizing db with
  | nil => rfl
  | cons call rest ih =>
    have isAllowed := each call mem_cons_self
    rw [accountEvents_cons, ih (forall_mem_cons.mp each).2
      (kept db call isAllowed initially), append_nil]
    split
    case isTrue chosen =>
      rw [silent db call isAllowed initially chosen, map_nil]
    case isFalse => rfl

end Teale.Gateway

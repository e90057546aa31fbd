import RowCheck.Sql.Error

/-!
# Rows on demand

Rows that are computed one after the other when they are asked for, so that an error behind the last
row that is asked for does not come up. Loops inside each other can all come to an end at once.
-/

namespace RowCheck.Sql

/-- Rows on demand. -/
inductive Rows (α : Type) where
  | done
  /-- Neither this loop nor the loops around it have more rows. -/
  | halted
  | failed (e : Error)
  | row (a : α) (rest : Unit → Rows α)

namespace Rows

variable {α β : Type}

/-- The rows of a list. -/
def ofList : List α → Rows α
  | [] => .done
  | a :: as => .row a fun () => ofList as

/-- Rows that may fail to be there. -/
def ofExcept : Except Error (Rows α) → Rows α
  | .ok r => r
  | .error e => .failed e

/-- A single row. -/
def single (a : α) : Rows α := .row a fun () => .done

/-- Rows behind rows. -/
def append : Rows α → (Unit → Rows α) → Rows α
  | .done, next => next ()
  | .halted, _ => .halted
  | .failed e, _ => .failed e
  | .row a rest, next => .row a fun () => append (rest ()) next

/-- The rows inside each row of a loop. -/
def flatMap (f : α → Rows β) : Rows α → Rows β
  | .done => .done
  | .halted => .halted
  | .failed e => .failed e
  | .row a rest => append (f a) fun () => flatMap f (rest ())

/-- What becomes of the rows that are kept. -/
def filterMap (f : α → Except Error (Option β)) : Rows α → Rows β
  | .done => .done
  | .halted => .halted
  | .failed e => .failed e
  | .row a rest =>
    match f a with
    | .error e => .failed e
    | .ok none => filterMap f (rest ())
    | .ok (some b) => .row b fun () => filterMap f (rest ())

/-- What becomes of rows. -/
def map (f : α → β) : Rows α → Rows β := filterMap fun a => .ok (some (f a))

/-- Rows as those of a block: what ends all loops of the block does not end those around it. -/
def ended : Rows α → Rows α
  | .halted => .done
  | .row a rest => .row a fun () => ended (rest ())
  | r => r

/-- The first rows. -/
def take : Nat → Rows α → Rows α
  | 0, _ => .done
  | 1, .row a _ => .row a fun () => .done
  | n + 2, .row a rest => .row a fun () => take (n + 1) (rest ())
  | _, r => r

/-- Rows without the first ones. -/
def drop : Nat → Rows α → Rows α
  | n + 1, .row _ rest => drop n (rest ())
  | _, r => r

/-- Goes through rows with a state until there is nothing more to do. -/
def fold {σ : Type} (step : σ → α → Except Error (σ × Bool)) : σ → Rows α → Except Error σ
  | s, .done | s, .halted => .ok s
  | _, .failed e => .error e
  | s, .row a rest =>
    match step s a with
    | .error e => .error e
    | .ok (s, true) => .ok s
    | .ok (s, false) => fold step s (rest ())

/-- All rows. -/
def toList (r : Rows α) : Except Error (List α) :=
  (fold (fun as a => .ok (a :: as, false)) [] r).map List.reverse

/-- The first row, if there is one. -/
def head? : Rows α → Except Error (Option α)
  | .done | .halted => .ok none
  | .failed e => .error e
  | .row a _ => .ok (some a)

end Rows

end RowCheck.Sql

import SqlAssembly.Statement
import SqlAssembly.Text.Clip

/-!
# Tracing

Writing a statement leaves events.  A hook reports a written statement once more, at a level of
its choice and clipped to a length of its choice.

* `Hook`, `Hook.Setting`, `Hook.adjust` — `TracingSqlHook` and its settings `level`,
  `max_sql_length` and `no_truncate`, of which the last counts.
* `Hook.shown` — `truncate_sql`: what a hook shows of a statement.
* `Event` — what `log_rendered` and `emit` leave.
* `Statement.traced` — `to_sql_traced`: a statement written under a hook, with its events in order.
-/

set_option autoImplicit false

namespace SqlAssembly

/-- The levels of events, the most urgent first. -/
inductive Level where
  | error
  | warn
  | info
  | debug
  | trace
  deriving DecidableEq, Repr

def Level.word : Level → String
  | error => "ERROR"
  | warn => "WARN"
  | info => "INFO"
  | debug => "DEBUG"
  | trace => "TRACE"

/-- How a written statement is reported once more. -/
structure Hook where
  level : Level := .debug
  /-- The bytes of the statement that are shown at most; no limit when absent. -/
  limit : Option Nat := some 200
  deriving DecidableEq, Repr

namespace Hook

/-- A change to a hook. -/
inductive Setting where
  | level (level : Level)
  | limit (bytes : Nat)
  | unlimited
  deriving DecidableEq, Repr

def set (h : Hook) : Setting → Hook
  | .level level => { h with level }
  | .limit bytes => { h with limit := some bytes }
  | .unlimited => { h with limit := none }

/-- The hook that a sequence of changes makes of the usual one. -/
def adjust (settings : List Setting) : Hook := settings.foldl set {}

/-- What a hook shows of a statement: all of it, or as much as fits and three points. -/
def shown (h : Hook) (sql : String) : String :=
  match h.limit with
  | none => sql
  | some limit => if limit < sql.utf8ByteSize then clip limit sql ++ "..." else sql

end Hook

/-- What writing a statement leaves. -/
inductive Event where
  /-- The statement was written. -/
  | written (kind : Statement.Kind) (sql : String)
  /-- The hook shows the statement. -/
  | shown (level : Level) (kind : Statement.Kind) (sql : String)
  /-- The statement could not be written. -/
  | failed (kind : Statement.Kind) (error : String)
  deriving DecidableEq, Repr

namespace Event

def level : Event → Level
  | written .. => .debug
  | shown level .. => level
  | failed .. => .warn

def message : Event → String
  | written .. => "rendered statement"
  | shown .. => "sql statement"
  | failed .. => "statement not rendered"

end Event

/-- A statement written under a hook, with the events this leaves. -/
def Statement.traced (s : Statement) (h : Hook) : Except Fault String × List Event :=
  (s.sql,
    match s.sql with
    | .ok sql => [.written s.kind sql, .shown h.level s.kind (h.shown sql)]
    | .error fault => [.failed s.kind fault.message])

/-- A hook never changes what is written. -/
theorem Statement.traced_fst (s : Statement) (h : Hook) : (s.traced h).1 = s.sql := rfl

theorem Hook.shown_of_fits {h : Hook} {limit : Nat} {sql : String} (set : h.limit = some limit)
    (fits : sql.utf8ByteSize ≤ limit) : h.shown sql = sql := by
  simp [Hook.shown, set, Nat.not_lt.2 fits]

theorem Hook.shown_of_unlimited {h : Hook} (set : h.limit = none) (sql : String) :
    h.shown sql = sql := by simp [Hook.shown, set]

end SqlAssembly

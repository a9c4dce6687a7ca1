import ClangQL.Module.Channels
import ClangQL.Tables.Iterator

/-!
# The methods of the tables

`module_open`, `module_filter` and the other functions of the module call virtual methods of the
object they are given. The class of the table decides which.

## Main definitions

* `Table.Cursor`, `Table.Request`, `Table.Message`: the types of a class of tables
* `Table.virtualTable`, `Table.rowOf`: its methods, and the rows it shows
* `Table.asks`: the plan numbers with which a class sends a request
* `SymbolIndex`, `Table.serve`: the remote service, and the method a class calls
* `CursorCall`, `CursorCall.on`: a call of SQLite on a cursor, for any class

## Main results

* `Table.iterates`, `Table.sendsWhen`: the cursors of every class iterate, and send their requests
-/

namespace ClangQL

/-- The service of `Service.proto`: the replies to a request. -/
structure SymbolIndex where
  lookup : LookupRequest → List (Reply Symbol)
  fuzzyFind : FuzzyFindRequest → List (Reply Symbol)
  refs : RefsRequest → List (Reply Ref)
  relations : RelationsRequest → List (Reply Relation)

namespace Table

/-- The cursors of a class. -/
abbrev Cursor : Table → Type
  | symbols => SymbolsCursor
  | relations _ => RelationsCursor
  | refs => RefsCursor

/-- The requests of a class. -/
abbrev Request : Table → Type
  | symbols => SymbolsRequest
  | relations _ => RelationsRequest
  | refs => RefsRequest

/-- The results a class asks for. -/
abbrev Message : Table → Type
  | symbols => Symbol
  | relations _ => Relation
  | refs => Ref

/-- The virtual methods of a class, and the cursor that `Open` makes. -/
def virtualTable (sql : Sqlite) : (t : Table) → VirtualTable t.Cursor t.Request t.Message
  | symbols => symbolsTable sql
  | relations kind => relationsTable sql kind
  | refs => refsTable sql

/-- The row shown for a result that answers a request. -/
def rowOf : (t : Table) → t.Request → t.Message → Row
  | symbols => fun _ m => symbolRow m
  | relations _ => fun _ m => relationRow (relationPair m)
  | refs => refRow

/-- The plan numbers with which a class sends a request. -/
def asks : Table → Int32 → Prop
  | symbols => fun _ => True
  | relations _ => fun _ => True
  | refs => (· ≠ 0)

/-- The method of the service that a class calls. -/
def serve (index : SymbolIndex) : (t : Table) → t.Request → List (Reply t.Message)
  | symbols => fun
    | .lookup req => index.lookup req
    | .fuzzyFind req => index.fuzzyFind req
  | relations _ => index.relations
  | refs => index.refs

/-- **The cursors of every class iterate.** -/
theorem iterates (sql : Sqlite) (t : Table) : (t.virtualTable sql).cursor.Iterates t.rowOf := by
  cases t with
  | symbols => exact symbolsTable_iterates sql
  | relations kind => exact relationsTable_iterates sql
  | refs => exact refsTable_iterates sql

theorem sendsWhen (sql : Sqlite) (t : Table) : (t.virtualTable sql).cursor.SendsWhen t.asks := by
  cases t with
  | symbols => exact SymbolsCursor.sendsWhen sql
  | relations kind => exact RelationsCursor.sendsWhen sql
  | refs => exact RefsCursor.sendsWhen sql

/-- `module_find_function`: the symbols table overloads functions, and the others inherit
`VirtualTable::FindFunction`. -/
def findFunction (nArg : Int) (name : Str) : Table → Option (List Value → Value)
  | symbols => SymbolsTable.findFunction nArg name
  | relations _ => none
  | refs => none

end Table

/-- A call of SQLite on a cursor. `network` are the servers that the channels reach. -/
inductive CursorCall
  | filter (network : Channel → SymbolIndex) (idxNum : Int32) (argv : List Value)
  | next
  | eof
  | column (idxCol : Int)
  | rowId

/-- A call on a cursor of a table whose stub calls through a channel. -/
def CursorCall.on (t : Table) (channel : Channel) : CursorCall → Call t.Request t.Message
  | filter network idxNum argv => .filter (t.serve (network channel)) idxNum argv
  | next => .next
  | eof => .eof
  | column idxCol => .column idxCol
  | rowId => .rowId

end ClangQL

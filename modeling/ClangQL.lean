import ClangQL.Refs.BestIndex
import ClangQL.Cursor.Values
import ClangQL.Refs.Cursor
import ClangQL.Refs.Encoding
import ClangQL.Refs.Completeness
import ClangQL.Symbols.BestIndex
import ClangQL.Library.CantorPairing
import ClangQL.Library.HexNumeral
import ClangQL.Symbols.Cursor
import ClangQL.Symbols.Like
import ClangQL.Symbols.Completeness
import ClangQL.Symbols.RowId
import ClangQL.Relations.BestIndex
import ClangQL.Relations.Cursor
import ClangQL.Relations.RowId
import ClangQL.Relations.Join
import ClangQL.Tables.Rescan
import ClangQL.Tables.Iterator
import ClangQL.Tables.PlanIndependence
import ClangQL.Module.Ownership
import ClangQL.Symbols.Properties
import ClangQL.Refs.Unkeyed
import ClangQL.Symbols.Reads
import ClangQL.Refs.Reads
import ClangQL.Tables.WellFormed
import ClangQL.Tables.NullArguments
import ClangQL.Symbols.Request
import ClangQL.Remote.Field
import ClangQL.Library.OptionalField
import ClangQL.Tables.Wiring
import ClangQL.Functions.Naming
import ClangQL.Relations.Overflow
import ClangQL.Tables.WireNumbers
import ClangQL.Library.Memo
import ClangQL.Library.NestedLoop
import ClangQL.Module.Channels
import ClangQL.Module.Interleaving
import ClangQL.Module.Lifetimes
import ClangQL.Sqlite.Reuse
import ClangQL.Tables.Database
import ClangQL.Tables.Join
import ClangQL.Tables.PlanCost
import ClangQL.Symbols.Answer
import ClangQL.Module.Extension
import ClangQL.Remote.RoundTrip
import ClangQL.Remote.BrokenStreams

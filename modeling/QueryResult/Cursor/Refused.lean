/-!
# Requests that a cursor refuses

A cursor moves forward, one row at a time, and only reads. Requests to move otherwise, to ask for a
place that such a cursor does not know, or to write are refused whatever the state of the cursor.
-/

namespace QueryResult.Cursor

/-- An order in which rows are fetched. -/
inductive FetchDirection where
  | forward | reverse | unknown
deriving DecidableEq

/-- The direction in messages. -/
def FetchDirection.name : FetchDirection → String
  | forward => "Forward"
  | reverse => "Reverse"
  | unknown => "Unknown"

/-- A request that is always refused. -/
inductive RefusedRequest where
  | absolute | relative | previous | first | last | beforeFirst | afterLast
  | isBeforeFirst | isAfterLast | isLast
  | cursorName
  | updateValue | updateRow | insertRow | deleteRow | refreshRow | cancelRowUpdates
  | moveToInsertRow | moveToCurrentRow
  | rowUpdated | rowInserted | rowDeleted
deriving DecidableEq

/-- The request in messages. -/
def RefusedRequest.name : RefusedRequest → String
  | absolute => "absolute positioning"
  | relative => "relative positioning"
  | previous => "moving to the previous row"
  | first => "moving to the first row"
  | last => "moving to the last row"
  | beforeFirst => "moving before the first row"
  | afterLast => "moving after the last row"
  | isBeforeFirst => "is_before_first"
  | isAfterLast => "is_after_last"
  | isLast => "is_last"
  | cursorName => "naming the cursor"
  | updateValue => "updating a value"
  | updateRow => "updating a row"
  | insertRow => "inserting a row"
  | deleteRow => "deleting a row"
  | refreshRow => "refreshing a row"
  | cancelRowUpdates => "cancelling row updates"
  | moveToInsertRow => "moving to the insert row"
  | moveToCurrentRow => "moving to the current row"
  | rowUpdated => "row_updated"
  | rowInserted => "row_inserted"
  | rowDeleted => "row_deleted"

end QueryResult.Cursor

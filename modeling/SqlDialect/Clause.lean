import SqlDialect.Dialect
import SqlDialect.Query.RowLimit
import SqlDialect.Query.StatementTail

/-!
# Clauses that differ between dialects

How each dialect shuffles rows, takes a page, takes the first rows, and limits a whole query.
-/

namespace SqlDialect.Clause

/-- What to order by for a random order. A query for distinct rows can only be ordered by what it
selects, so it is ordered by its first column. -/
def orderByRandom (d : Dialect) (distinct : Bool) : String :=
  if distinct then "1" else d.randomFunction

/-- The clause for a page of rows. -/
def paging (d : Dialect) (offset pageSize : Int) : String :=
  if d.limitStyle then s!" OFFSET {offset} LIMIT {pageSize}"
  else s!" OFFSET {offset} ROWS FETCH NEXT {pageSize} ROWS ONLY"

/-- What stands after `SELECT` for the first rows; nothing where a limit does the same. -/
def top (d : Dialect) (count : Int) : String :=
  if d.limitStyle then "" else s!"TOP {count} "

/-- Limits the rows of a query, unless the dialect does it elsewhere or the query does it
already. -/
def appendLimit (d : Dialect) (query : String) (count : Int) : String :=
  if d.limitStyle && !Query.hasRowLimit query.toList then
    String.ofList (Query.insertBeforeTail query.toList s!" LIMIT {count}".toList)
  else query

/-- A query that has a row limit is left as it is. -/
theorem appendLimit_of_hasRowLimit {query : String} (h : Query.hasRowLimit query.toList = true)
    (d : Dialect) (count : Int) : appendLimit d query count = query := by
  unfold appendLimit
  rw [h, Bool.not_true, Bool.and_false]
  exact if_neg Bool.false_ne_true

/-- A query that has none gets the limit before its tail. -/
theorem toList_appendLimit {d : Dialect} (hd : d.limitStyle = true) {query : String}
    (h : Query.hasRowLimit query.toList = false) (count : Int) :
    (appendLimit d query count).toList =
      Query.insertBeforeTail query.toList s!" LIMIT {count}".toList := by
  unfold appendLimit
  rw [hd, h]
  exact String.toList_ofList

end SqlDialect.Clause

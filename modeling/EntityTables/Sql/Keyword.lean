/-
# EntityTables.Sql.Keyword — the reserved words of SQL text

A table of the words that are not written as names without quotes, and one of those that a reader of
statements knows as keywords: the first is that of the texts that are written here, the second that
of the database. Words are compared without regard to ASCII case. Some keywords still read as names
where nothing else can stand.

* `isKeyword` — a word that is written between quotes; `readsAsKeyword` — one that is read as a
  keyword, and so must be (`isKeyword_of_readsAsKeyword`).
* `canBeName` — a word that a reader takes as a name.
-/

namespace EntityTables.Sql

set_option autoImplicit false

/-- The reserved words, in upper case and ascending. -/
def keywords : List String :=
  ["ABORT", "ACTION", "ADD", "AFTER", "ALL", "ALTER", "ALWAYS", "ANALYZE", "AND", "AS", "ASC",
   "ATTACH", "AUTOINCREMENT", "BEFORE", "BEGIN", "BETWEEN", "BY", "CASCADE", "CASE", "CAST",
   "CHECK", "COLLATE", "COLUMN", "COMMIT", "CONFLICT", "CONSTRAINT", "CREATE", "CROSS",
   "CURRENT", "CURRENT_DATE", "CURRENT_TIME", "CURRENT_TIMESTAMP", "DATABASE", "DEFAULT",
   "DEFERRABLE", "DEFERRED", "DELETE", "DESC", "DETACH", "DISTINCT", "DO", "DROP", "EACH",
   "ELSE", "END", "ESCAPE", "EXCEPT", "EXCLUDE", "EXCLUSIVE", "EXISTS", "EXPLAIN", "FAIL",
   "FILTER", "FIRST", "FOLLOWING", "FOR", "FOREIGN", "FROM", "FULL", "GENERATED", "GLOB",
   "GROUP", "GROUPS", "HAVING", "IF", "IGNORE", "IMMEDIATE", "IN", "INDEX", "INDEXED",
   "INITIALLY", "INNER", "INSERT", "INSTEAD", "INTERSECT", "INTO", "IS", "ISNULL", "JOIN",
   "KEY", "LAST", "LEFT", "LIKE", "LIMIT", "MATCH", "MATERIALIZED", "NATURAL", "NO", "NOT",
   "NOTHING", "NOTNULL", "NULL", "NULLS", "OF", "OFFSET", "ON", "OR", "ORDER", "OTHERS",
   "OUTER", "OVER", "PARTITION", "PLAN", "PRAGMA", "PRECEDING", "PRIMARY", "QUERY", "RAISE",
   "RANGE", "RECURSIVE", "REFERENCES", "REGEXP", "REINDEX", "RELEASE", "RENAME", "REPLACE",
   "RESTRICT", "RETURNING", "RIGHT", "ROLLBACK", "ROW", "ROWS", "SAVEPOINT", "SELECT", "SET",
   "TABLE", "TEMP", "TEMPORARY", "THEN", "TIES", "TO", "TRANSACTION", "TRIGGER", "UNBOUNDED",
   "UNION", "UNIQUE", "UPDATE", "USING", "VACUUM", "VALUES", "VIEW", "VIRTUAL", "WHEN", "WHERE",
   "WINDOW", "WITH", "WITHOUT"]

/-- A word in upper case, ASCII letters only. -/
def foldCase (s : String) : List Char := s.toList.map Char.toUpper

/-- Two names that differ at most in the case of ASCII letters. -/
def sameName (a b : String) : Bool := foldCase a == foldCase b

/-- Whether a word is reserved, in any case. -/
def isKeyword (name : String) : Bool := keywords.any fun word => sameName word name

/-- The keywords that a reader takes as names nowhere. -/
def strictKeywords : List String :=
  ["ADD", "ALL", "ALTER", "AND", "AS", "AUTOINCREMENT", "BETWEEN", "CASE", "CHECK", "COLLATE",
   "COMMIT", "CONSTRAINT", "CREATE", "CURRENT_DATE", "CURRENT_TIME", "CURRENT_TIMESTAMP",
   "DEFAULT", "DEFERRABLE", "DELETE", "DISTINCT", "DROP", "ELSE", "ESCAPE", "EXCEPT", "EXISTS",
   "FOREIGN", "FROM", "GROUP", "HAVING", "IN", "INDEX", "INSERT", "INTERSECT", "INTO", "IS",
   "ISNULL", "JOIN", "LIMIT", "NOT", "NOTHING", "NOTNULL", "NULL", "ON", "OR", "ORDER", "PRIMARY",
   "REFERENCES", "RETURNING", "SELECT", "SET", "TABLE", "THEN", "TO", "TRANSACTION", "UNION",
   "UNIQUE", "UPDATE", "USING", "VALUES", "WHEN", "WHERE"]

/-- The keywords that read as names where no keyword is expected. -/
def contextualKeywords : List String :=
  ["ABORT", "ACTION", "AFTER", "ALWAYS", "ANALYZE", "ASC", "ATTACH", "BEFORE", "BEGIN", "BY",
   "CASCADE", "CAST", "COLUMN", "CONFLICT", "CROSS", "CURRENT", "DATABASE", "DEFERRED", "DESC",
   "DETACH", "DO", "EACH", "END", "EXCLUDE", "EXCLUSIVE", "EXPLAIN", "FAIL", "FILTER", "FIRST",
   "FOLLOWING", "FOR", "FULL", "GENERATED", "GLOB", "GROUPS", "IF", "IGNORE", "IMMEDIATE",
   "INDEXED", "INITIALLY", "INNER", "INSTEAD", "KEY", "LAST", "LEFT", "LIKE", "MATCH",
   "MATERIALIZED", "NATURAL", "NO", "NULLS", "OF", "OFFSET", "OTHERS", "OUTER", "OVER",
   "PARTITION", "PLAN", "PRAGMA", "PRECEDING", "QUERY", "RAISE", "RANGE", "RECURSIVE", "REGEXP",
   "REINDEX", "RELEASE", "RENAME", "REPLACE", "RESTRICT", "RIGHT", "ROLLBACK", "ROW", "ROWS",
   "SAVEPOINT", "TEMP", "TEMPORARY", "TIES", "TRIGGER", "UNBOUNDED", "VACUUM", "VIEW", "VIRTUAL",
   "WINDOW", "WITH", "WITHOUT"]

/-- Whether a reader knows a word as a keyword, in any case. -/
def readsAsKeyword (word : String) : Bool :=
  (strictKeywords ++ contextualKeywords).any fun other => sameName other word

/-- Whether a reader takes a word as a name. -/
def canBeName (word : String) : Bool := !strictKeywords.any fun other => sameName other word

theorem keywords_cover : strictKeywords ++ contextualKeywords ⊆ keywords := by
  have strict : strictKeywords.Sublist keywords := by decide +kernel
  have contextual : contextualKeywords.Sublist keywords := by decide +kernel
  exact List.append_subset.mpr ⟨strict.subset, contextual.subset⟩

/-- What is read as a keyword is not written without quotes. -/
theorem isKeyword_of_readsAsKeyword {word : String} (reads : readsAsKeyword word = true) :
    isKeyword word = true := by
  obtain ⟨other, member, same⟩ := List.any_eq_true.mp reads
  exact List.any_eq_true.mpr ⟨other, keywords_cover member, same⟩

/-- A word that is no keyword reads as a name everywhere. -/
theorem canBeName_of_not_readsAsKeyword {word : String} (free : readsAsKeyword word = false) :
    canBeName word = true := by
  rw [readsAsKeyword, List.any_append, Bool.or_eq_false_iff] at free
  rw [canBeName, free.1, Bool.not_false]

end EntityTables.Sql

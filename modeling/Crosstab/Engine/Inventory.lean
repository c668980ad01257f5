import Crosstab.Engine.Cell

/-!
# Inventory

What the engine lists about itself: its functions, its settings and the options that it was built
with, each in the order of its list.
-/

namespace Crosstab.Engine

/-! ### Functions -/

/-- What a function is applied to. -/
inductive FunctionKind where
  /-- The cells of one row. -/
  | scalar
  /-- The rows of a group or those near a row. -/
  | window
deriving DecidableEq, Repr

/-- What is promised about the calls of a function. -/
inductive FunctionTrait where
  /-- Equal arguments give equal results. -/
  | pure
  /-- Calls are harmless, but their results may differ. -/
  | plain
  /-- As `pure`, and a result carries a mark for the function that it is given to. -/
  | marked
  /-- Calls are not harmless. -/
  | guarded
  /-- Nothing is promised. -/
  | unknown
deriving DecidableEq, Repr

namespace FunctionKind

/-- The letter of a kind. -/
def letter : FunctionKind → String
  | .scalar => "s"
  | .window => "w"

end FunctionKind

namespace FunctionTrait

/-- The number that stands for a trait. -/
def flags : FunctionTrait → Int64
  | .pure => 0x200800
  | .plain => 0x200000
  | .marked => 0x300800
  | .guarded => 0x80000
  | .unknown => 0

end FunctionTrait

/-- The functions of one name. -/
structure FunctionFamily where
  name : String
  kind : FunctionKind
  trait : FunctionTrait
  /-- How many arguments each function takes; -1 stands for any number. -/
  arities : List Int64
deriving DecidableEq, Repr

namespace FunctionFamily

/-- The functions that belong to the engine. -/
def builtIn : List FunctionFamily :=
  [⟨"group_concat", .window, .plain, [1, 2]⟩, ⟨"json_type", .scalar, .pure, [1, 2]⟩,
    ⟨"jsonb_set", .scalar, .marked, [-1]⟩, ⟨"julianday", .scalar, .pure, [-1]⟩,
    ⟨"ntile", .window, .plain, [1]⟩, ⟨"nullif", .scalar, .pure, [2]⟩,
    ⟨"sqlite_compileoption_get", .scalar, .plain, [1]⟩, ⟨"json_valid", .scalar, .pure, [1, 2]⟩,
    ⟨"json_quote", .scalar, .marked, [1]⟩, ⟨"json_patch", .scalar, .pure, [2]⟩,
    ⟨"->", .scalar, .pure, [2]⟩, ⟨"json_array", .scalar, .marked, [-1]⟩,
    ⟨"current_timestamp", .scalar, .plain, [0]⟩,
    ⟨"sqlite_compileoption_used", .scalar, .plain, [1]⟩, ⟨"json_remove", .scalar, .pure, [-1]⟩,
    ⟨"json_pretty", .scalar, .pure, [1, 2]⟩, ⟨"jsonb_patch", .scalar, .pure, [2]⟩,
    ⟨"json_object", .scalar, .marked, [-1]⟩, ⟨"json_insert", .scalar, .marked, [-1]⟩,
    ⟨"->>", .scalar, .pure, [2]⟩, ⟨"jsonb_array", .scalar, .marked, [-1]⟩,
    ⟨"sum", .window, .plain, [1]⟩, ⟨"quote", .scalar, .pure, [1]⟩,
    ⟨"printf", .scalar, .pure, [-1]⟩, ⟨"likelihood", .scalar, .pure, [2]⟩,
    ⟨"json_replace", .scalar, .marked, [-1]⟩, ⟨"jsonb_remove", .scalar, .pure, [-1]⟩,
    ⟨"jsonb_object", .scalar, .marked, [-1]⟩, ⟨"jsonb_insert", .scalar, .marked, [-1]⟩,
    ⟨"json_extract", .scalar, .pure, [-1]⟩, ⟨"last_value", .window, .plain, [1]⟩,
    ⟨"rank", .window, .plain, [0]⟩, ⟨"sign", .scalar, .pure, [1]⟩,
    ⟨"round", .scalar, .pure, [1, 2]⟩, ⟨"rtrim", .scalar, .pure, [1, 2]⟩,
    ⟨"jsonb_replace", .scalar, .marked, [-1]⟩, ⟨"jsonb_extract", .scalar, .pure, [-1]⟩,
    ⟨"nth_value", .window, .plain, [2]⟩, ⟨"random", .scalar, .plain, [0]⟩,
    ⟨"trim", .scalar, .pure, [1, 2]⟩, ⟨"time", .scalar, .pure, [-1]⟩,
    ⟨"total", .window, .plain, [1]⟩, ⟨"substr", .scalar, .pure, [2, 3]⟩,
    ⟨"replace", .scalar, .pure, [3]⟩, ⟨"unhex", .scalar, .pure, [1, 2]⟩,
    ⟨"upper", .scalar, .pure, [1]⟩, ⟨"subtype", .scalar, .pure, [1]⟩,
    ⟨"typeof", .scalar, .pure, [1]⟩, ⟨"load_extension", .scalar, .guarded, [1, 2]⟩,
    ⟨"soundex", .scalar, .pure, [1]⟩, ⟨"json_group_array", .window, .marked, [1]⟩,
    ⟨"avg", .window, .plain, [1]⟩, ⟨"abs", .scalar, .pure, [1]⟩,
    ⟨"octet_length", .scalar, .pure, [1]⟩, ⟨"json_group_object", .window, .marked, [2]⟩,
    ⟨"jsonb_group_array", .window, .marked, [1]⟩, ⟨"json_array_length", .scalar, .pure, [1, 2]⟩,
    ⟨"strftime", .scalar, .pure, [-1]⟩, ⟨"substring", .scalar, .pure, [2, 3]⟩,
    ⟨"randomblob", .scalar, .plain, [1]⟩, ⟨"unicode", .scalar, .pure, [1]⟩,
    ⟨"jsonb_group_object", .window, .marked, [2]⟩, ⟨"timediff", .scalar, .pure, [2]⟩,
    ⟨"percent_rank", .window, .plain, [0]⟩, ⟨"row_number", .window, .plain, [0]⟩,
    ⟨"string_agg", .window, .plain, [2]⟩, ⟨"last_insert_rowid", .scalar, .plain, [0]⟩,
    ⟨"sqlite_log", .scalar, .pure, [2]⟩, ⟨"unlikely", .scalar, .pure, [1]⟩,
    ⟨"json_error_position", .scalar, .pure, [1]⟩, ⟨"char", .scalar, .pure, [-1]⟩,
    ⟨"unixepoch", .scalar, .pure, [-1]⟩, ⟨"count", .window, .plain, [0, 1]⟩,
    ⟨"date", .scalar, .pure, [-1]⟩, ⟨"concat", .scalar, .pure, [-1]⟩,
    ⟨"total_changes", .scalar, .plain, [0]⟩, ⟨"changes", .scalar, .plain, [0]⟩,
    ⟨"sqlite_version", .scalar, .plain, [0]⟩, ⟨"coalesce", .scalar, .pure, [-1]⟩,
    ⟨"glob", .scalar, .pure, [2]⟩, ⟨"zeroblob", .scalar, .pure, [1]⟩,
    ⟨"hex", .scalar, .pure, [1]⟩, ⟨"iif", .scalar, .pure, [3]⟩,
    ⟨"sqlite_source_id", .scalar, .plain, [0]⟩, ⟨"concat_ws", .scalar, .pure, [-1]⟩,
    ⟨"format", .scalar, .pure, [-1]⟩, ⟨"datetime", .scalar, .pure, [-1]⟩,
    ⟨"cume_dist", .window, .plain, [0]⟩, ⟨"instr", .scalar, .pure, [2]⟩,
    ⟨"json", .scalar, .pure, [1]⟩, ⟨"dense_rank", .window, .plain, [0]⟩,
    ⟨"ifnull", .scalar, .pure, [2]⟩, ⟨"jsonb", .scalar, .pure, [1]⟩,
    ⟨"current_date", .scalar, .plain, [0]⟩, ⟨"current_time", .scalar, .plain, [0]⟩,
    ⟨"lag", .window, .plain, [1, 3, 2]⟩, ⟨"like", .scalar, .pure, [2, 3]⟩,
    ⟨"max", .scalar, .pure, [-1]⟩, ⟨"max", .window, .plain, [1]⟩, ⟨"min", .scalar, .pure, [-1]⟩,
    ⟨"min", .window, .plain, [1]⟩, ⟨"lead", .window, .plain, [1, 3, 2]⟩,
    ⟨"lower", .scalar, .pure, [1]⟩, ⟨"ltrim", .scalar, .pure, [1, 2]⟩,
    ⟨"first_value", .window, .plain, [1]⟩, ⟨"length", .scalar, .pure, [1]⟩,
    ⟨"likely", .scalar, .pure, [1]⟩, ⟨"json_set", .scalar, .marked, [-1]⟩]

/-- The functions that come with modules. -/
def ofModules : List FunctionFamily :=
  [⟨"rtreedepth", .scalar, .unknown, [1]⟩, ⟨"match", .scalar, .unknown, [2]⟩,
    ⟨"snippet", .scalar, .unknown, [-1]⟩, ⟨"fts5_source_id", .scalar, .pure, [0]⟩,
    ⟨"offsets", .scalar, .unknown, [1]⟩, ⟨"matchinfo", .scalar, .unknown, [2, 1]⟩,
    ⟨"optimize", .scalar, .unknown, [1]⟩, ⟨"rtreecheck", .scalar, .unknown, [-1]⟩,
    ⟨"rtreenode", .scalar, .unknown, [2]⟩, ⟨"highlight", .scalar, .unknown, [-1]⟩,
    ⟨"bm25", .scalar, .unknown, [-1]⟩, ⟨"fts3_tokenizer", .scalar, .guarded, [2, 1]⟩,
    ⟨"fts5", .scalar, .unknown, [1]⟩]

/-- The rows that list a family. -/
def rows (isBuiltIn : Bool) (family : FunctionFamily) : List (List Cell) :=
  family.arities.map fun arity =>
    [.ofText family.name, .integer (if isBuiltIn then 1 else 0), .ofText family.kind.letter,
      .ofText "utf8", .integer arity, .integer family.trait.flags]

/-- The rows that list all functions. -/
def allRows : List (List Cell) :=
  builtIn.flatMap (rows true) ++ ofModules.flatMap (rows false)

end FunctionFamily

/-! ### Settings and options -/

/-- The names of all settings and listings. -/
def settingNames : List String :=
  ["analysis_limit", "application_id", "auto_vacuum", "automatic_index", "busy_timeout",
    "cache_size", "cache_spill", "case_sensitive_like", "cell_size_check",
    "checkpoint_fullfsync", "collation_list", "compile_options", "count_changes", "data_version",
    "database_list", "default_cache_size", "defer_foreign_keys", "empty_result_callbacks",
    "encoding", "foreign_key_check", "foreign_key_list", "foreign_keys", "freelist_count",
    "full_column_names", "fullfsync", "function_list", "hard_heap_limit",
    "ignore_check_constraints", "incremental_vacuum", "index_info", "index_list", "index_xinfo",
    "integrity_check", "journal_mode", "journal_size_limit", "legacy_alter_table",
    "locking_mode", "max_page_count", "mmap_size", "module_list", "optimize", "page_count",
    "page_size", "pragma_list", "query_only", "quick_check", "read_uncommitted",
    "recursive_triggers", "reverse_unordered_selects", "schema_version", "secure_delete",
    "short_column_names", "shrink_memory", "soft_heap_limit", "synchronous", "table_info",
    "table_list", "table_xinfo", "temp_store", "temp_store_directory", "threads",
    "trusted_schema", "user_version", "wal_autocheckpoint", "wal_checkpoint", "writable_schema"]

/-- The options that the engine was built with. -/
def buildOptions : List String :=
  ["ATOMIC_INTRINSICS=1", "COMPILER=gcc-12.2.0", "DEFAULT_AUTOVACUUM",
    "DEFAULT_CACHE_SIZE=-2000", "DEFAULT_FILE_FORMAT=4", "DEFAULT_FOREIGN_KEYS",
    "DEFAULT_JOURNAL_SIZE_LIMIT=-1", "DEFAULT_MMAP_SIZE=0", "DEFAULT_PAGE_SIZE=4096",
    "DEFAULT_PCACHE_INITSZ=20", "DEFAULT_RECURSIVE_TRIGGERS", "DEFAULT_SECTOR_SIZE=4096",
    "DEFAULT_SYNCHRONOUS=2", "DEFAULT_WAL_AUTOCHECKPOINT=1000", "DEFAULT_WAL_SYNCHRONOUS=2",
    "DEFAULT_WORKER_THREADS=0", "DIRECT_OVERFLOW_READ", "ENABLE_API_ARMOR",
    "ENABLE_COLUMN_METADATA", "ENABLE_DBSTAT_VTAB", "ENABLE_FTS3", "ENABLE_FTS3_PARENTHESIS",
    "ENABLE_FTS5", "ENABLE_LOAD_EXTENSION", "ENABLE_MEMORY_MANAGEMENT", "ENABLE_RTREE",
    "ENABLE_STAT4", "HAVE_ISNAN", "MALLOC_SOFT_LIMIT=1024", "MAX_ATTACHED=10", "MAX_COLUMN=2000",
    "MAX_COMPOUND_SELECT=500", "MAX_DEFAULT_PAGE_SIZE=8192", "MAX_EXPR_DEPTH=1000",
    "MAX_FUNCTION_ARG=127", "MAX_LENGTH=1000000000", "MAX_LIKE_PATTERN_LENGTH=50000",
    "MAX_MMAP_SIZE=0x7fff0000", "MAX_PAGE_COUNT=0xfffffffe", "MAX_PAGE_SIZE=65536",
    "MAX_SQL_LENGTH=1000000000", "MAX_TRIGGER_DEPTH=1000", "MAX_VARIABLE_NUMBER=32766",
    "MAX_VDBE_OP=250000000", "MAX_WORKER_THREADS=8", "MUTEX_PTHREADS", "SOUNDEX",
    "SYSTEM_MALLOC", "TEMP_STORE=1", "THREADSAFE=1", "USE_URI"]

end Crosstab.Engine

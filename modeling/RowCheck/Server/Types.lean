import RowCheck.ColumnType
import RowCheck.Text.Quoted

/-!
# Types of the server

The types that the server knows by itself, with their numbers and names, and those that a database
adds to them. Each type is mapped to the type of a result column; a type without a counterpart
keeps its name.
-/

namespace RowCheck.Server

/-- A type that every server knows and whose values can be read. -/
inductive BuiltIn where
  | bool | bytea | char | name | int8 | int2 | int4 | text | oid | json | xml | float4 | float8
  | unknown | nameArray | int2Array | int4Array | textArray | varcharArray | int8Array
  | float8Array | bpchar | varchar | date | time | timestamp | timestamptz | interval | timetz
  | numeric | uuid | jsonb
  deriving DecidableEq, Repr

namespace BuiltIn

/-- The number, the name and the tag of a type. -/
def entry : BuiltIn → Nat × String × String
  | .bool => (16, "bool", "Bool")
  | .bytea => (17, "bytea", "Bytea")
  | .char => (18, "char", "Char")
  | .name => (19, "name", "Name")
  | .int8 => (20, "int8", "Int8")
  | .int2 => (21, "int2", "Int2")
  | .int4 => (23, "int4", "Int4")
  | .text => (25, "text", "Text")
  | .oid => (26, "oid", "Oid")
  | .json => (114, "json", "Json")
  | .xml => (142, "xml", "Xml")
  | .float4 => (700, "float4", "Float4")
  | .float8 => (701, "float8", "Float8")
  | .unknown => (705, "unknown", "Unknown")
  | .nameArray => (1003, "_name", "NameArray")
  | .int2Array => (1005, "_int2", "Int2Array")
  | .int4Array => (1007, "_int4", "Int4Array")
  | .textArray => (1009, "_text", "TextArray")
  | .varcharArray => (1015, "_varchar", "VarcharArray")
  | .int8Array => (1016, "_int8", "Int8Array")
  | .float8Array => (1022, "_float8", "Float8Array")
  | .bpchar => (1042, "bpchar", "Bpchar")
  | .varchar => (1043, "varchar", "Varchar")
  | .date => (1082, "date", "Date")
  | .time => (1083, "time", "Time")
  | .timestamp => (1114, "timestamp", "Timestamp")
  | .timestamptz => (1184, "timestamptz", "Timestamptz")
  | .interval => (1186, "interval", "Interval")
  | .timetz => (1266, "timetz", "Timetz")
  | .numeric => (1700, "numeric", "Numeric")
  | .uuid => (2950, "uuid", "Uuid")
  | .jsonb => (3802, "jsonb", "Jsonb")

def number (t : BuiltIn) : Nat := t.entry.1

def typeName (t : BuiltIn) : String := t.entry.2.1

def tag (t : BuiltIn) : String := t.entry.2.2

/-- All of them. -/
def all : List BuiltIn :=
  [.bool, .bytea, .char, .name, .int8, .int2, .int4, .text, .oid, .json, .xml, .float4, .float8,
    .unknown, .nameArray, .int2Array, .int4Array, .textArray, .varcharArray, .int8Array,
    .float8Array, .bpchar, .varchar, .date, .time, .timestamp, .timestamptz, .interval, .timetz,
    .numeric, .uuid, .jsonb]

/-- The type with a number. -/
def ofOid? (n : Nat) : Option BuiltIn := all.find? fun t => t.number == n

end BuiltIn

/-- The other types that every server knows, each by its number, name and tag. -/
def unreadTypes : List (Nat × String × String) :=
  [(22, "int2vector", "Int2Vector"), (24, "regproc", "Regproc"), (27, "tid", "Tid"),
    (28, "xid", "Xid"), (29, "cid", "Cid"), (30, "oidvector", "OidVector"),
    (32, "pg_ddl_command", "PgDdlCommand"), (143, "_xml", "XmlArray"),
    (194, "pg_node_tree", "PgNodeTree"), (199, "_json", "JsonArray"),
    (269, "table_am_handler", "TableAmHandler"), (271, "_xid8", "Xid8Array"),
    (325, "index_am_handler", "IndexAmHandler"), (600, "point", "Point"), (601, "lseg", "Lseg"),
    (602, "path", "Path"), (603, "box", "Box"), (604, "polygon", "Polygon"), (628, "line", "Line"),
    (629, "_line", "LineArray"), (650, "cidr", "Cidr"), (651, "_cidr", "CidrArray"),
    (718, "circle", "Circle"), (719, "_circle", "CircleArray"), (774, "macaddr8", "Macaddr8"),
    (775, "_macaddr8", "Macaddr8Array"), (790, "money", "Money"), (791, "_money", "MoneyArray"),
    (829, "macaddr", "Macaddr"), (869, "inet", "Inet"), (1000, "_bool", "BoolArray"),
    (1001, "_bytea", "ByteaArray"), (1002, "_char", "CharArray"),
    (1006, "_int2vector", "Int2VectorArray"), (1008, "_regproc", "RegprocArray"),
    (1010, "_tid", "TidArray"), (1011, "_xid", "XidArray"), (1012, "_cid", "CidArray"),
    (1013, "_oidvector", "OidVectorArray"), (1014, "_bpchar", "BpcharArray"),
    (1017, "_point", "PointArray"), (1018, "_lseg", "LsegArray"), (1019, "_path", "PathArray"),
    (1020, "_box", "BoxArray"), (1021, "_float4", "Float4Array"),
    (1027, "_polygon", "PolygonArray"), (1028, "_oid", "OidArray"), (1033, "aclitem", "Aclitem"),
    (1034, "_aclitem", "AclitemArray"), (1040, "_macaddr", "MacaddrArray"),
    (1041, "_inet", "InetArray"), (1115, "_timestamp", "TimestampArray"),
    (1182, "_date", "DateArray"), (1183, "_time", "TimeArray"),
    (1185, "_timestamptz", "TimestamptzArray"), (1187, "_interval", "IntervalArray"),
    (1231, "_numeric", "NumericArray"), (1263, "_cstring", "CstringArray"),
    (1270, "_timetz", "TimetzArray"), (1560, "bit", "Bit"), (1561, "_bit", "BitArray"),
    (1562, "varbit", "Varbit"), (1563, "_varbit", "VarbitArray"), (1790, "refcursor", "Refcursor"),
    (2201, "_refcursor", "RefcursorArray"), (2202, "regprocedure", "Regprocedure"),
    (2203, "regoper", "Regoper"), (2204, "regoperator", "Regoperator"),
    (2205, "regclass", "Regclass"), (2206, "regtype", "Regtype"),
    (2207, "_regprocedure", "RegprocedureArray"), (2208, "_regoper", "RegoperArray"),
    (2209, "_regoperator", "RegoperatorArray"), (2210, "_regclass", "RegclassArray"),
    (2211, "_regtype", "RegtypeArray"), (2249, "record", "Record"), (2275, "cstring", "Cstring"),
    (2276, "any", "Any"), (2277, "anyarray", "Anyarray"), (2278, "void", "Void"),
    (2279, "trigger", "Trigger"), (2280, "language_handler", "LanguageHandler"),
    (2281, "internal", "Internal"), (2283, "anyelement", "Anyelement"),
    (2287, "_record", "RecordArray"), (2776, "anynonarray", "Anynonarray"),
    (2949, "_txid_snapshot", "TxidSnapshotArray"), (2951, "_uuid", "UuidArray"),
    (2970, "txid_snapshot", "TxidSnapshot"), (3115, "fdw_handler", "FdwHandler"),
    (3220, "pg_lsn", "PgLsn"), (3221, "_pg_lsn", "PgLsnArray"), (3310, "tsm_handler", "TsmHandler"),
    (3361, "pg_ndistinct", "PgNdistinct"), (3402, "pg_dependencies", "PgDependencies"),
    (3500, "anyenum", "Anyenum"), (3614, "tsvector", "TsVector"), (3615, "tsquery", "Tsquery"),
    (3642, "gtsvector", "GtsVector"), (3643, "_tsvector", "TsVectorArray"),
    (3644, "_gtsvector", "GtsVectorArray"), (3645, "_tsquery", "TsqueryArray"),
    (3734, "regconfig", "Regconfig"), (3735, "_regconfig", "RegconfigArray"),
    (3769, "regdictionary", "Regdictionary"), (3770, "_regdictionary", "RegdictionaryArray"),
    (3807, "_jsonb", "JsonbArray"), (3831, "anyrange", "AnyRange"),
    (3838, "event_trigger", "EventTrigger"), (3904, "int4range", "Int4Range"),
    (3905, "_int4range", "Int4RangeArray"), (3906, "numrange", "NumRange"),
    (3907, "_numrange", "NumRangeArray"), (3908, "tsrange", "TsRange"),
    (3909, "_tsrange", "TsRangeArray"), (3910, "tstzrange", "TstzRange"),
    (3911, "_tstzrange", "TstzRangeArray"), (3912, "daterange", "DateRange"),
    (3913, "_daterange", "DateRangeArray"), (3926, "int8range", "Int8Range"),
    (3927, "_int8range", "Int8RangeArray"), (4072, "jsonpath", "Jsonpath"),
    (4073, "_jsonpath", "JsonpathArray"), (4089, "regnamespace", "Regnamespace"),
    (4090, "_regnamespace", "RegnamespaceArray"), (4096, "regrole", "Regrole"),
    (4097, "_regrole", "RegroleArray"), (4191, "regcollation", "Regcollation"),
    (4192, "_regcollation", "RegcollationArray"), (4451, "int4multirange", "Int4multiRange"),
    (4532, "nummultirange", "NummultiRange"), (4533, "tsmultirange", "TsmultiRange"),
    (4534, "tstzmultirange", "TstzmultiRange"), (4535, "datemultirange", "DatemultiRange"),
    (4536, "int8multirange", "Int8multiRange"), (4537, "anymultirange", "AnymultiRange"),
    (4538, "anycompatiblemultirange", "AnycompatiblemultiRange"),
    (4600, "pg_brin_bloom_summary", "PgBrinBloomSummary"),
    (4601, "pg_brin_minmax_multi_summary", "PgBrinMinmaxMultiSummary"),
    (5017, "pg_mcv_list", "PgMcvList"), (5038, "pg_snapshot", "PgSnapshot"),
    (5039, "_pg_snapshot", "PgSnapshotArray"), (5069, "xid8", "Xid8"),
    (5077, "anycompatible", "Anycompatible"), (5078, "anycompatiblearray", "Anycompatiblearray"),
    (5079, "anycompatiblenonarray", "Anycompatiblenonarray"),
    (5080, "anycompatiblerange", "AnycompatibleRange"),
    (6150, "_int4multirange", "Int4multiRangeArray"),
    (6151, "_nummultirange", "NummultiRangeArray"), (6152, "_tsmultirange", "TsmultiRangeArray"),
    (6153, "_tstzmultirange", "TstzmultiRangeArray"),
    (6155, "_datemultirange", "DatemultiRangeArray"),
    (6157, "_int8multirange", "Int8multiRangeArray")]

/-- What a type added by a database is made of. -/
inductive TypeKind (α : Type) where
  | simple
  | enum (labels : List String)
  | pseudo
  | array (item : α)
  | domain (base : α)
  | composite
  deriving Repr

/-- A type of the server. -/
inductive ServerType where
  | builtIn (t : BuiltIn)
  /-- A type that every server knows but whose values cannot be read. -/
  | unread (name tag : String)
  | added (name : String) (oid : Nat) (kind : TypeKind ServerType)

namespace ServerType

/-- The name of a type. -/
def name : ServerType → String
  | .builtIn t => t.typeName
  | .unread name _ => name
  | .added name _ _ => name

mutual

/-- A type as the record it is reported in. -/
def record : ServerType → String
  | .builtIn t => t.tag
  | .unread _ tag => tag
  | .added name oid kind =>
    let quotedName := Text.quoted name
    let shown := kindRecord kind
    s!"Other(Other \x7b name: {quotedName}, oid: {oid}, kind: {shown}, schema: \"public\" \x7d)"

/-- What a type is made of, in its record. -/
def kindRecord : TypeKind ServerType → String
  | .simple => "Simple"
  | .enum labels => "Enum([" ++ ", ".intercalate (labels.map Text.quoted) ++ "])"
  | .pseudo => "Pseudo"
  | .array item => "Array(" ++ record item ++ ")"
  | .domain base => "Domain(" ++ record base ++ ")"
  | .composite => "Composite([])"

end

/-- Whether a binary value of the type is the text that the server shows for it. -/
def isText : ServerType → Bool
  | .builtIn t => t ∈ [.varchar, .text, .bpchar, .name, .unknown, .xml]
  | .unread .. => false
  | .added _ _ (.enum _) => true
  | .added name _ _ => name ∈ ["citext", "ltree", "lquery", "ltxtquery"]

/-- The type of a result column for a type of the server. -/
def columnType : ServerType → ColumnType
  | .builtIn .int2 => .smallInt
  | .builtIn .int4 => .integer
  | .builtIn .int8 => .bigInt
  | .builtIn .oid => .oid
  | .builtIn .float4 => .real
  | .builtIn .float8 => .double
  | .builtIn .numeric => .numeric
  | .builtIn .text | .builtIn .name => .text
  | .builtIn .varchar => .varchar
  | .builtIn .char | .builtIn .bpchar => .char
  | .builtIn .bool => .boolean
  | .builtIn .date => .date
  | .builtIn .time => .time
  | .builtIn .timetz => .timeTz
  | .builtIn .timestamp => .timestamp
  | .builtIn .timestamptz => .timestampTz
  | .builtIn .interval => .interval
  | .builtIn .json => .json
  | .builtIn .jsonb => .jsonb
  | .builtIn .bytea => .bytea
  | .builtIn .uuid => .uuid
  | .builtIn .int2Array => .array .smallInt
  | .builtIn .int4Array => .array .integer
  | .builtIn .int8Array => .array .bigInt
  | .builtIn .float8Array => .array .double
  | .builtIn .textArray | .builtIn .varcharArray | .builtIn .nameArray => .array .text
  | t => .unknown t.name

end ServerType

end RowCheck.Server
